/-
Masking credentials in free text.  The scanner works on the bytes of the text
and cuts it at byte indices; a cut inside a character panics.  Over it, the same
scan on characters, for which the guarantees are stated: no cut is inside a
character, a masked text stays as it is, and a masked value does not show.
-/
import Proxxx.PercentUrl
import Proxxx.Utf8Text

namespace Proxxx

open Utf8Text List

/-- Markers of a credential that is written behind them. -/
def keyValueMarkers : List String :=
  ["PVEAuthCookie=", "PVEAPIToken=", "PBSAPIToken=", "tokenid=", "password=",
    "token_secret=", "csrfpreventiontoken=", "vncticket="]

def bearer : String := "authorization: bearer "

def redacted : String := "[REDACTED]"

/-- Characters that end a masked value. -/
def isStop (c : Char) : Bool :=
  c == ' ' || c == ';' || c == '&' || c == '"' || c == '\'' || c == '\n' || c == '\r' || c == '/'

section Bytes

def utf8CharLen (byte : UInt8) : Nat :=
  if byte < 0x80 then 1
  else if byte < 0xC0 then 1
  else if byte < 0xE0 then 2
  else if byte < 0xF0 then 3
  else 4

def isStopByte (byte : UInt8) : Bool :=
  isStop (Char.ofNat byte.toNat)

def isDigitByte (byte : UInt8) : Bool :=
  decide (48 ≤ byte ∧ byte ≤ 57)

def lowerBytes (text : String) : List UInt8 :=
  text.toUTF8.toList.map lowerByte

/-- `starts_with` on the rest of the lower-case text.  The rest is cut off at an
index, which panics inside a character. -/
def lowerStartsWith (rest : List UInt8) (pattern : List UInt8) : Option Bool :=
  if isBoundary rest then some (pattern.isPrefixOf (rest.map lowerByte))
  else none

/-- The next `n` bytes of the text, and those behind. -/
def sliceBytes (n : Nat) (rest : List UInt8) : Option (List UInt8 × List UInt8) :=
  if n ≤ rest.length ∧ isBoundary rest ∧ isBoundary (rest.drop n) then
    some (rest.take n, rest.drop n)
  else none

def skipValueRun (rest : List UInt8) : List UInt8 :=
  rest.dropWhile (!isStopByte ·)

/-- Copy a marker and mask the value behind it. -/
def maskBehind (n : Nat) (rest : List UInt8) : Option (List UInt8 × List UInt8) := do
  let (marker, behind) ← sliceBytes n rest
  return (marker ++ redacted.toUTF8.toList, skipValueRun behind)

/-- The loop over the markers, up to the first one found. -/
def findMarker (rest : List UInt8) : List String → Option (Option Nat)
  | [] => some none
  | marker :: others => do
      if ← lowerStartsWith rest (lowerBytes marker) then
        return some marker.utf8ByteSize
      findMarker rest others

/-- One round of the loop: what is put out, and what is left. -/
def scrubStep (rest : List UInt8) : Option (List UInt8 × List UInt8) := do
  match ← findMarker rest keyValueMarkers with
  | some n => maskBehind n rest
  | none =>
    if ← lowerStartsWith rest bearer.toUTF8.toList then
      maskBehind bearer.utf8ByteSize rest
    else if (← lowerStartsWith rest "bot".toUTF8.toList) && (rest[3]?).any isDigitByte then
      maskBehind 3 rest
    else
      let n := (rest.head?.map utf8CharLen).getD 0
      sliceBytes (min n rest.length) rest

/-- Every round takes at least one byte. -/
def scrubLoop : Nat → List UInt8 → Option (List UInt8)
  | _, [] => some []
  | 0, _ :: _ => none
  | fuel + 1, byte :: rest => do
      let (out, behind) ← scrubStep (byte :: rest)
      return out ++ (← scrubLoop fuel behind)

/-- No text is a panic. -/
def scrubSecrets (input : String) : Option String := do
  let bytes := input.toUTF8.toList
  String.fromUTF8? (← scrubLoop bytes.length bytes).toByteArray

end Bytes

section Characters

def lowerChars (text : List Char) : List Char :=
  text.map Char.toLower

def keyPatterns : List (List Char) :=
  keyValueMarkers.map fun marker => lowerChars marker.toList

/-- The markers in the order in which they are tried. -/
def markerPatterns : List (List Char) :=
  keyPatterns ++ [bearer.toList]

/-- The start of a Telegram URL. -/
def startsBot (text : List Char) : Bool :=
  "bot".toList.isPrefixOf (lowerChars text) && (text[3]?).any Char.isDigit

/-- The length of the marker that a text begins with. -/
def markerAt (text : List Char) : Option Nat :=
  match markerPatterns.find? (·.isPrefixOf (lowerChars text)) with
  | some pattern => some pattern.length
  | none => if startsBot text then some 3 else none

inductive ScanMode where
  | copy
  | marker (left : Nat)
  | skip
deriving Repr, DecidableEq

/-- The scan over the characters: outside a marker, with some characters of a
marker left, or inside a value. -/
def scrubChars : ScanMode → List Char → List Char
  | _, [] => []
  | .copy, c :: rest =>
    match markerAt (c :: rest) with
    | none => c :: scrubChars .copy rest
    | some n =>
      if n ≤ 1 then c :: redacted.toList ++ scrubChars .skip rest
      else c :: scrubChars (.marker (n - 1)) rest
  | .marker left, c :: rest =>
    if left ≤ 1 then c :: redacted.toList ++ scrubChars .skip rest
    else c :: scrubChars (.marker (left - 1)) rest
  | .skip, c :: rest => if isStop c then c :: scrubChars .copy rest else scrubChars .skip rest

def scrubText (text : List Char) : List Char :=
  scrubChars .copy text

theorem scrubText_cons (c : Char) (rest : List Char) : scrubText (c :: rest) =
      match markerAt (c :: rest) with
      | none => c :: scrubText rest
      | some n =>
        if n ≤ 1 then c :: redacted.toList ++ scrubChars .skip rest
        else c :: scrubChars (.marker (n - 1)) rest := rfl

theorem scrubChars_marker_cons (left : Nat) (c : Char) (rest : List Char) :
    scrubChars (.marker left) (c :: rest) =
      if left ≤ 1 then c :: redacted.toList ++ scrubChars .skip rest
      else c :: scrubChars (.marker (left - 1)) rest := rfl

theorem scrubChars_skip_cons (c : Char) (rest : List Char) : scrubChars .skip (c :: rest) =
    if isStop c then c :: scrubText rest else scrubChars .skip rest := rfl

end Characters

@[simp] theorem lowerChars_append (front behind : List Char) :
    lowerChars (front ++ behind) = lowerChars front ++ lowerChars behind :=
  map_append

def digits : List Char :=
  ['0', '1', '2', '3', '4', '5', '6', '7', '8', '9']

/-- The beginnings of a Telegram URL. -/
def botPatterns : List (List Char) :=
  digits.map fun digit => ['b', 'o', 't', digit]

/-- Everything that the scan recognises. -/
def recognised : List (List Char) := markerPatterns ++ botPatterns

theorem bot_toList : "bot".toList = ['b', 'o', 't'] := String.toList_ofList

theorem keyPatterns_eq : keyPatterns =
    [['p', 'v', 'e', 'a', 'u', 't', 'h', 'c', 'o', 'o', 'k', 'i', 'e', '='],
      ['p', 'v', 'e', 'a', 'p', 'i', 't', 'o', 'k', 'e', 'n', '='],
      ['p', 'b', 's', 'a', 'p', 'i', 't', 'o', 'k', 'e', 'n', '='],
      ['t', 'o', 'k', 'e', 'n', 'i', 'd', '='],
      ['p', 'a', 's', 's', 'w', 'o', 'r', 'd', '='],
      ['t', 'o', 'k', 'e', 'n', '_', 's', 'e', 'c', 'r', 'e', 't', '='],
      ['c', 's', 'r', 'f', 'p', 'r', 'e', 'v', 'e', 'n', 't', 'i', 'o', 'n', 't',
       'o', 'k', 'e', 'n', '='],
      ['v', 'n', 'c', 't', 'i', 'c', 'k', 'e', 't', '=']] := by decide

theorem bearer_toList : bearer.toList =
    ['a', 'u', 't', 'h', 'o', 'r', 'i', 'z', 'a', 't', 'i', 'o', 'n', ':', ' ',
     'b', 'e', 'a', 'r', 'e', 'r', ' '] :=
  String.toList_ofList

theorem forall_of_any_eq_false {test : Char → Bool} {chars : List Char}
    (hnone : chars.any test = false) : ∀ c ∈ chars, test c = false := by
  intro c hc
  exact eq_false_of_ne_true (any_eq_false.mp hnone c hc)

theorem bot_ascii : ∀ c ∈ "bot".toList, c.toNat < 128 := by
  have hall : "bot".toList.all (decide <| Char.toNat · < 128) = true := by
    rw [bot_toList]
    decide
  exact fun c hc => of_decide_eq_true (all_eq_true.mp hall c hc)

section Markers

variable {text : List Char} {c : Char} {n : Nat}

/-- What the patterns have in common: ASCII texts that begin with no stop and
have no bracket.  Inside there is no equals sign; they end with one, with a space
or with a digit. -/
theorem recognised_facts : ∀ pattern ∈ recognised,
    pattern ≠ [] ∧ pattern.all (decide <| Char.toNat · < 128) = true ∧
      (pattern.head?.any isStop) = false ∧ '[' ∉ pattern ∧
      '=' ∉ pattern.dropLast ∧
      pattern.getLast?.any (fun c => c == '=' || c == ' ' || digits.contains c) = true := by
  rw [recognised, markerPatterns, keyPatterns_eq, bearer_toList]
  decide

/-- No marker is short, and none is the beginning of another one. -/
theorem markerPatterns_facts : ∀ pattern ∈ markerPatterns, 3 ≤ pattern.length ∧
    ∀ other ∈ markerPatterns, pattern.isPrefixOf other = true → pattern = other := by
  rw [markerPatterns, keyPatterns_eq, bearer_toList]
  decide

/-- A marker that is found is one of the patterns, or the start of a Telegram
URL. -/
theorem markerAt_eq_some (hmarker : markerAt text = some n) :
    (∃ pattern, markerPatterns.find? (·.isPrefixOf (lowerChars text)) =
        some pattern ∧ n = pattern.length ∧ pattern <+: lowerChars text) ∨
      (markerPatterns.find? (·.isPrefixOf (lowerChars text)) = none ∧
        startsBot text = true ∧ n = 3) := by
  unfold markerAt at hmarker
  split at hmarker
  · rename_i pattern hfound
    cases hmarker
    have hstart : pattern.isPrefixOf (lowerChars text) = true := by simpa using find?_some hfound
    exact .inl ⟨pattern, hfound, rfl, List.isPrefixOf_iff_prefix.mp hstart⟩
  · rename_i hnone
    split at hmarker
    · rename_i hbot
      exact .inr ⟨hnone, hbot, (Option.some.inj hmarker).symm⟩
    · cases hmarker

theorem lowerPrefix_of_markerAt (hmarker : markerAt text = some n) :
    ∃ pattern : List Char, pattern.length = n ∧ 3 ≤ n ∧
      pattern <+: lowerChars text ∧ ∀ c ∈ pattern, c.toNat < 128 := by
  rcases markerAt_eq_some hmarker with
    ⟨pattern, hfound, rfl, hstart⟩ | ⟨-, hbot, rfl⟩
  · have hpattern := mem_of_find?_eq_some hfound
    obtain ⟨-, hascii, -⟩ := recognised_facts _ (mem_append_left _ hpattern)
    refine ⟨pattern, rfl, (markerPatterns_facts _ hpattern).1, hstart, ?_⟩
    simpa using hascii
  · unfold startsBot at hbot
    rw [Bool.and_eq_true, List.isPrefixOf_iff_prefix] at hbot
    exact ⟨"bot".toList, rfl, Nat.le_refl 3, hbot.1, bot_ascii⟩

theorem le_length_of_markerAt (hmarker : markerAt text = some n) : 3 ≤ n ∧ n ≤ text.length := by
  obtain ⟨pattern, rfl, hlength, hstart, -⟩ := lowerPrefix_of_markerAt hmarker
  have hle := hstart.length_le
  rw [lowerChars, length_map] at hle
  exact ⟨hlength, hle⟩

theorem length_behind_marker (hmarker : markerAt text = some n) :
    ((text.drop n).dropWhile (!isStop ·)).length < text.length := by
  have hmarker := le_length_of_markerAt hmarker
  have hsuffix := (List.dropWhile_suffix (!isStop ·) (l := text.drop n)).length_le
  rw [length_drop] at hsuffix
  omega

/-- At most one of the patterns begins a text, so their order does not
matter. -/
theorem markerAt_of_pattern {pattern : List Char} (hpattern : pattern ∈ markerPatterns)
    (hstart : pattern <+: lowerChars text) :
    markerAt text = some pattern.length := by
  unfold markerAt
  cases hfound : markerPatterns.find? (·.isPrefixOf (lowerChars text)) with
  | none =>
    have habsent := find?_eq_none.mp hfound pattern hpattern
    exact absurd (List.isPrefixOf_iff_prefix.mpr hstart) habsent
  | some other =>
    have hother := mem_of_find?_eq_some hfound
    have hbegins : other <+: lowerChars text := by
      rw [← List.isPrefixOf_iff_prefix]
      simpa using find?_some hfound
    rcases List.prefix_or_prefix_of_prefix hstart hbegins with hless | hless
    · rw [(markerPatterns_facts _ hpattern).2 other hother (List.isPrefixOf_iff_prefix.mpr hless)]
    · rw [(markerPatterns_facts _ hother).2 pattern hpattern (List.isPrefixOf_iff_prefix.mpr hless)]

theorem isDigit_iff_toLower (c : Char) : c.isDigit = true ↔ c.toLower ∈ digits := by
  rcases Nat.lt_or_ge c.toNat 128 with hascii | hwide
  · have hall : ∀ value : Fin 128, (Char.ofNat value).isDigit = true ↔
        (Char.ofNat value).toLower ∈ digits := by decide
    have hc := hall ⟨c.toNat, hascii⟩
    rwa [Char.ofNat_toNat] at hc
  · have hlower := toNat_toLower c
    rw [if_neg (by omega)] at hlower
    constructor
    · intro hdigit
      have hnine : '9'.toNat = 57 := rfl
      rw [Char.isDigit_iff_toNat] at hdigit
      omega
    · intro hmem
      have hall : digits.all (decide <| Char.toNat · < 128) = true := by decide
      have hsmall := all_eq_true.mp hall _ hmem
      rw [decide_eq_true_eq] at hsmall
      omega

theorem startsBot_iff : startsBot text = true ↔
    ∃ pattern ∈ botPatterns, pattern <+: lowerChars text := by
  rw [startsBot, bot_toList, Bool.and_eq_true, List.isPrefixOf_iff_prefix]
  simp only [botPatterns, mem_map, exists_exists_and_eq_and]
  rcases text with _ | ⟨b, _ | ⟨o, _ | ⟨t, behind⟩⟩⟩
  all_goals simp only [lowerChars, map_cons, map_nil, cons_prefix_cons,
    prefix_nil, reduceCtorEq, and_false, false_and, exists_false]
  cases behind with
  | nil => simp
  | cons digit others =>
    simp only [getElem?_cons_succ, getElem?_cons_zero, Option.any_some,
      isDigit_iff_toLower, map_cons, cons_prefix_cons,
      List.nil_prefix, and_true]
    constructor
    · rintro ⟨hbot, hdigit⟩
      exact ⟨_, hdigit, hbot.1, hbot.2.1, hbot.2.2, rfl⟩
    · rintro ⟨_, hdigit, hb, ho, ht, rfl⟩
      exact ⟨⟨hb, ho, ht⟩, hdigit⟩

theorem markerAt_isSome_iff : (markerAt text).isSome = true ↔
    ∃ pattern ∈ recognised, pattern <+: lowerChars text := by
  simp only [recognised, mem_append, or_and_right, exists_or, ← startsBot_iff]
  constructor
  · intro hsome
    obtain ⟨n, hn⟩ := Option.isSome_iff_exists.mp hsome
    rcases markerAt_eq_some hn with ⟨pattern, hfound, -, hstart⟩ | ⟨-, hbot, -⟩
    · exact .inl ⟨pattern, mem_of_find?_eq_some hfound, hstart⟩
    · exact .inr hbot
  · rintro (⟨pattern, hpattern, hstart⟩ | hbot)
    · rw [markerAt_of_pattern hpattern hstart]
      rfl
    · unfold markerAt
      split
      · rfl
      · rw [if_pos hbot]
        rfl

theorem markerAt_eq_none_iff : markerAt text = none ↔
    ∀ pattern ∈ recognised, ¬ pattern <+: lowerChars text := by
  rw [← Option.not_isSome_iff_eq_none, markerAt_isSome_iff]
  simp only [not_exists, not_and]

theorem isStop_cases {c : Char} (hstop : isStop c = true) : c.toNat < 128 ∧ c.toLower = c := by
  simp only [isStop, Bool.or_eq_true, beq_iff_eq] at hstop
  rcases hstop with
    ((((((rfl | rfl) | rfl) | rfl) | rfl) | rfl) | rfl) | rfl <;> decide

/-- No marker begins with a character that ends a value. -/
theorem markerAt_of_stop (rest : List Char) (hstop : isStop c = true) :
    markerAt (c :: rest) = none := by
  rw [markerAt_eq_none_iff]
  intro pattern hpattern hstart
  obtain ⟨hnonempty, -, hhead, -⟩ := recognised_facts _ hpattern
  cases pattern with
  | nil => exact hnonempty rfl
  | cons first others =>
    rw [lowerChars, map_cons, (isStop_cases hstop).2, cons_prefix_cons] at hstart
    simp [hstart.1, hstop] at hhead

end Markers

section Scan

variable {text : List Char} {n : Nat}

theorem scrubText_of_none {c : Char} {rest : List Char} (hmarker : markerAt (c :: rest) = none) :
    scrubText (c :: rest) = c :: scrubText rest := by simp only [scrubText_cons, hmarker]

/-- Inside a value everything up to the next stop is left out. -/
theorem scrubChars_skip (text : List Char) :
    scrubChars .skip text = scrubText (text.dropWhile (!isStop ·)) := by
  induction text with
  | nil => rfl
  | cons c rest ih =>
    rw [scrubChars_skip_cons, dropWhile_cons]
    cases hstop : isStop c with
    | true =>
      simp only [if_true, Bool.not_true, Bool.false_eq_true, if_false]
      exact (scrubText_of_none (markerAt_of_stop rest hstop)).symm
    | false => simpa using ih

theorem scrubChars_marker (hpos : 0 < n) (hlength : n ≤ text.length) : scrubChars (.marker n) text =
    text.take n ++ redacted.toList ++ scrubChars .skip (text.drop n) := by
  induction text generalizing n with
  | nil =>
    rw [length_nil] at hlength
    omega
  | cons c rest ih =>
    rw [length_cons] at hlength
    obtain ⟨left, rfl⟩ : ∃ left, n = left + 1 := ⟨n - 1, by omega⟩
    rw [scrubChars_marker_cons]
    by_cases hlast : left = 0
    · subst hlast
      simp
    · rw [if_neg (by omega), Nat.add_sub_cancel, ih (by omega) (by omega)]
      simp

/-- A marker is copied and its value masked. -/
theorem scrubText_of_marker (hmarker : markerAt text = some n) : scrubText text =
    text.take n ++ redacted.toList ++ scrubChars .skip (text.drop n) := by
  obtain ⟨hthree, hlength⟩ := le_length_of_markerAt hmarker
  cases text with
  | nil =>
    rw [length_nil] at hlength
    omega
  | cons c rest =>
    rw [length_cons] at hlength
    obtain ⟨left, rfl⟩ : ∃ left, n = left + 1 := ⟨n - 1, by omega⟩
    simp only [scrubText_cons, hmarker]
    rw [if_neg (by omega), Nat.add_sub_cancel, scrubChars_marker (by omega) (by omega)]
    simp

end Scan

/- The scan over the bytes of a text is the scan over its characters. -/
section Refinement

variable {text : List Char} {n : Nat}

theorem toUTF8_toList (text : String) : text.toUTF8.toList = encode text.toList :=
  PercentUrl.toList_toUTF8 text

theorem utf8CharLen_eq (byte : UInt8) : utf8CharLen byte = leadLength byte := by
  unfold utf8CharLen leadLength
  by_cases hascii : byte < 0x80
  · have hless : byte < 192 := UInt8.lt_trans hascii (by decide)
    rw [if_pos hascii, if_pos hless]
  · rw [if_neg hascii]

theorem utf8CharLen_head (c : Char) : ∃ lead more, String.utf8EncodeChar c = lead :: more ∧
    utf8CharLen lead = more.length + 1 := by
  rcases Nat.lt_or_ge c.toNat 128 with hascii | hwide
  · refine ⟨_, _, utf8EncodeChar_of_ascii hascii, ?_⟩
    rw [utf8CharLen_eq, leadLength_ofNat (by omega), if_pos (by omega)]
    rfl
  · obtain ⟨lead, more, hbytes, -, hlength, -⟩ := utf8EncodeChar_of_wide hwide
    exact ⟨lead, more, hbytes, by rw [utf8CharLen_eq, hlength]⟩

variable {pattern : List Char}

theorem lowerStartsWith_encode (hascii : ∀ c ∈ pattern, c.toNat < 128) :
    lowerStartsWith (encode text) (asciiBytes pattern) =
      some (pattern.isPrefixOf (lowerChars text)) := by
  rw [lowerStartsWith, isBoundary_encode, if_pos rfl, isPrefixOf_lower_encode hascii, lowerChars]

theorem ascii_of_lowerPrefix (hascii : ∀ c ∈ pattern, c.toNat < 128)
    (hstart : pattern <+: lowerChars text) :
    ∀ c ∈ text.take pattern.length, c.toNat < 128 := by
  have hpattern : pattern = lowerChars (text.take pattern.length) := by
    rw [lowerChars, map_take]
    exact prefix_iff_eq_take.mp hstart
  intro c hc
  have hlower : c.toLower ∈ pattern := by
    rw [hpattern]
    exact mem_map_of_mem hc
  have hsmall := hascii _ hlower
  rw [toNat_toLower] at hsmall
  split at hsmall <;> omega

theorem ascii_of_lower {chars : List Char} (hascii : ∀ c ∈ lowerChars chars, c.toNat < 128) :
    ∀ c ∈ chars, c.toNat < 128 := by
  have htake := ascii_of_lowerPrefix hascii prefix_rfl
  rwa [lowerChars, length_map, take_length] at htake

variable {marker : String}

theorem lowerBytes_of_ascii (hascii : ∀ c ∈ marker.toList, c.toNat < 128) :
    lowerBytes marker = asciiBytes (lowerChars marker.toList) := by
  rw [lowerBytes, toUTF8_toList, encode_of_ascii hascii, asciiBytes, asciiBytes,
    lowerChars, map_map, map_map]
  refine map_congr_left fun c hc => ?_
  exact lowerByte_ofNat (hascii c hc)

theorem findMarker_encode {markers : List String}
    (hmarkers : ∀ marker ∈ markers, ∀ c ∈ lowerChars marker.toList, c.toNat < 128) :
    findMarker (encode text) markers = some ((markers.find? fun marker =>
        (lowerChars marker.toList).isPrefixOf (lowerChars text)).map String.utf8ByteSize) := by
  induction markers with
  | nil => rfl
  | cons marker others ih =>
    obtain ⟨hascii, hothers⟩ := forall_mem_cons.mp hmarkers
    rw [findMarker, lowerBytes_of_ascii (ascii_of_lower hascii),
      lowerStartsWith_encode hascii, find?_cons]
    cases hstart : (lowerChars marker.toList).isPrefixOf (lowerChars text) with
    | true => rfl
    | false => simpa using ih hothers

theorem sliceBytes_encode (front behind : List Char) :
    sliceBytes (encode front).length (encode (front ++ behind)) =
      some (encode front, encode behind) := by
  rw [sliceBytes, encode_append, drop_left, take_left, if_pos]
  refine ⟨by simp, ?_, isBoundary_encode behind⟩
  rw [← encode_append]
  exact isBoundary_encode _

theorem isStopByte_ofNat {c : Char} (hascii : c.toNat < 128) :
    isStopByte (UInt8.ofNat c.toNat) = isStop c := by
  rw [isStopByte, toNat_ofNat_byte (by omega), Char.ofNat_toNat]

theorem skipValueRun_encode (text : List Char) :
    skipValueRun (encode text) = encode (text.dropWhile (!isStop ·)) := by
  refine dropWhile_encode (fun c hc => isStopByte_ofNat hc) ?_ ?_
  · intro byte hbyte
    have hall : ∀ value : Fin 256, 128 ≤ value.val →
        isStop (Char.ofNat value.val) = false := by decide +kernel
    exact hall ⟨byte.toNat, byte.toNat_lt⟩ (UInt8.le_iff_toNat_le.mp hbyte)
  · intro c hc
    rw [← Bool.not_eq_true]
    intro hstop
    have hsmall := (isStop_cases hstop).1
    omega

theorem maskBehind_encode (hlength : n ≤ text.length) (hascii : ∀ c ∈ text.take n, c.toNat < 128) :
    maskBehind n (encode text) = some (encode (text.take n ++ redacted.toList),
        encode ((text.drop n).dropWhile (!isStop ·))) := by
  have hslice := sliceBytes_encode (text.take n) (text.drop n)
  rw [length_encode_of_ascii hascii, length_take, Nat.min_eq_left hlength,
    take_append_drop] at hslice
  rw [maskBehind, hslice, encode_append, ← skipValueRun_encode, toUTF8_toList]
  rfl

theorem isDigitByte_head (text : List Char) :
    ((encode text).head?).any isDigitByte = (text.head?).any Char.isDigit := by
  cases text with
  | nil => rfl
  | cons c rest =>
    rw [encode_cons]
    rcases Nat.lt_or_ge c.toNat 128 with hascii | hwide
    · have hall : ∀ value : Fin 128, isDigitByte (UInt8.ofNat value) =
          (Char.ofNat value).isDigit := by decide
      have hc := hall ⟨c.toNat, hascii⟩
      rw [Char.ofNat_toNat] at hc
      simpa [utf8EncodeChar_of_ascii hascii] using hc
    · obtain ⟨lead, more, hbytes, hlead, -, -⟩ := utf8EncodeChar_of_wide hwide
      have hbyte : isDigitByte lead = false := by
        rw [isDigitByte, decide_eq_false_iff_not]
        exact fun hdigit => absurd (UInt8.le_trans hlead hdigit.2) (by decide)
      have hchar : c.isDigit = false := by
        have hnine : '9'.toNat = 57 := rfl
        rw [← Bool.not_eq_true, Char.isDigit_iff_toNat]
        omega
      simp [hbytes, hbyte, hchar]

theorem markerPatterns_find? (test : List Char → Bool) : markerPatterns.find? test =
    ((keyValueMarkers.find? fun marker => test (lowerChars marker.toList)).map
      (fun marker => lowerChars marker.toList)).or
      (if test bearer.toList then some bearer.toList else none) := by
  rw [markerPatterns, keyPatterns, find?_append, find?_map, find?_singleton]
  rfl

theorem getElem?_three_encode (hbot : "bot".toList <+: lowerChars text) :
    ((encode text)[3]?).any isDigitByte = (text[3]?).any Char.isDigit := by
  have hlength : 3 ≤ text.length := by simpa [lowerChars] using hbot.length_le
  have hascii : ∀ c ∈ text.take 3, c.toNat < 128 := ascii_of_lowerPrefix bot_ascii hbot
  have hfront : (encode (text.take 3)).length = 3 := by
    rw [length_encode_of_ascii hascii, length_take, Nat.min_eq_left hlength]
  have hdrop : (encode text).drop 3 = encode (text.drop 3) := by
    have hsplit : (encode (text.take 3) ++ encode (text.drop 3)).drop
        (encode (text.take 3)).length = encode (text.drop 3) := drop_left
    rwa [hfront, ← encode_append, take_append_drop] at hsplit
  rw [← head?_drop, ← head?_drop, hdrop, isDigitByte_head]

theorem utf8ByteSize_of_ascii (hascii : ∀ c ∈ marker.toList, c.toNat < 128) :
    marker.utf8ByteSize = marker.toList.length := by
  have hbytes : marker.toUTF8 = (encode marker.toList).toByteArray := String.utf8Encode_toList.symm
  have hsize : marker.utf8ByteSize = marker.toUTF8.size := rfl
  rw [hsize, hbytes, size_toByteArray, length_encode_of_ascii hascii]

theorem ascii_of_pattern (hpattern : pattern ∈ markerPatterns) : ∀ c ∈ pattern, c.toNat < 128 := by
  simpa using (recognised_facts _ (mem_append_left _ hpattern)).2.1

theorem key_ascii (hmarker : marker ∈ keyValueMarkers) :
    ∀ c ∈ lowerChars marker.toList, c.toNat < 128 :=
  ascii_of_pattern (mem_append_left _ (mem_map_of_mem hmarker))

/-- One round over the bytes finds the marker that the characters begin with. -/
theorem scrubStep_encode (text : List Char) : scrubStep (encode text) = match markerAt text with
      | some n => maskBehind n (encode text)
      | none => sliceBytes (min (((encode text).head?.map utf8CharLen).getD 0)
          (encode text).length) (encode text) := by
  have hkeys : findMarker (encode text) keyValueMarkers = _ :=
    findMarker_encode fun marker hmarker => key_ascii hmarker
  have hascii : ∀ c ∈ bearer.toList, c.toNat < 128 :=
    ascii_of_pattern (mem_append_right _ (mem_singleton_self _))
  have hbearer : lowerStartsWith (encode text) bearer.toUTF8.toList =
      some (bearer.toList.isPrefixOf (lowerChars text)) := by
    rw [toUTF8_toList, encode_of_ascii hascii, lowerStartsWith_encode hascii]
  have hbot : lowerStartsWith (encode text) "bot".toUTF8.toList =
      some ("bot".toList.isPrefixOf (lowerChars text)) := by
    rw [toUTF8_toList, encode_of_ascii bot_ascii, lowerStartsWith_encode bot_ascii]
  have hdigit : ("bot".toList.isPrefixOf (lowerChars text) &&
      ((encode text)[3]?).any isDigitByte) = startsBot text := by
    rw [startsBot]
    cases hstart : "bot".toList.isPrefixOf (lowerChars text) with
    | true => rw [getElem?_three_encode (List.isPrefixOf_iff_prefix.mp hstart)]
    | false => rfl
  unfold scrubStep markerAt
  rw [hkeys, markerPatterns_find?]
  cases hfind : keyValueMarkers.find? fun marker =>
      (lowerChars marker.toList).isPrefixOf (lowerChars text) with
  | some marker =>
    have hchars := ascii_of_lower (key_ascii (mem_of_find?_eq_some hfind))
    simp [utf8ByteSize_of_ascii hchars, lowerChars]
  | none =>
    have hsize := utf8ByteSize_of_ascii hascii
    simp only [Option.map_none, Option.bind_eq_bind, Option.bind_some, hbearer,
      hbot, hdigit, hsize, Option.none_or]
    cases bearer.toList.isPrefixOf (lowerChars text) with
    | true => rfl
    | false => cases startsBot text <;> rfl

theorem scrubStep_of_marker (hmarker : markerAt text = some n) :
    scrubStep (encode text) = some (encode (text.take n ++ redacted.toList),
        encode ((text.drop n).dropWhile (!isStop ·))) := by
  obtain ⟨pattern, rfl, -, hstart, hascii⟩ := lowerPrefix_of_markerAt hmarker
  rw [scrubStep_encode, hmarker]
  exact maskBehind_encode (le_length_of_markerAt hmarker).2 (ascii_of_lowerPrefix hascii hstart)

theorem scrubStep_of_none {c : Char} {rest : List Char} (hmarker : markerAt (c :: rest) = none) :
    scrubStep (encode (c :: rest)) = some (encode [c], encode rest) := by
  obtain ⟨lead, more, hbytes, hlength⟩ := utf8CharLen_head c
  have hslice := sliceBytes_encode [c] rest
  have hone : encode [c] = lead :: more := by rw [encode_cons, hbytes, encode_nil, append_nil]
  have hhead : (encode (c :: rest)).head? = some lead := by
    rw [encode_cons, hbytes]
    rfl
  have hle : utf8CharLen lead ≤ (encode (c :: rest)).length := by
    rw [encode_cons, hbytes, hlength]
    simp
  rw [scrubStep_encode, hmarker]
  simp only [hhead, Option.map_some, Option.getD_some, Nat.min_eq_left hle]
  rwa [hone, length_cons, ← hlength, ← hone] at hslice

/-- With enough fuel the loop over the bytes ends in the bytes of the masked
characters: no cut is inside a character. -/
theorem scrubLoop_encode {fuel : Nat} (hfuel : text.length ≤ fuel) :
    scrubLoop fuel (encode text) = some (encode (scrubText text)) := by
  induction fuel generalizing text with
  | zero =>
    rw [length_eq_zero_iff.mp (Nat.le_zero.mp hfuel)]
    rfl
  | succ fuel ih =>
    cases text with
    | nil => rfl
    | cons c rest =>
      obtain ⟨lead, more, hbytes, -⟩ := utf8CharLen_head c
      have hround : scrubLoop (fuel + 1) (encode (c :: rest)) = do
          let (out, behind) ← scrubStep (encode (c :: rest))
          return out ++ (← scrubLoop fuel behind) := by
        rw [encode_cons, hbytes]
        rfl
      rw [hround]
      rw [length_cons] at hfuel
      cases hmarker : markerAt (c :: rest) with
      | none =>
        rw [scrubStep_of_none hmarker, scrubText_of_none hmarker]
        simp [ih (Nat.le_of_succ_le_succ hfuel)]
      | some n =>
        have hless := (length_behind_marker hmarker).trans_le hfuel
        rw [scrubStep_of_marker hmarker, scrubText_of_marker hmarker, scrubChars_skip]
        simp [ih (Nat.le_of_lt_succ hless)]

theorem length_le_encode (text : List Char) : text.length ≤ (encode text).length := by
  induction text with
  | nil => rfl
  | cons c rest ih =>
    obtain ⟨lead, more, hbytes, -⟩ := utf8CharLen_head c
    rw [encode_cons, hbytes, length_append, length_cons, length_cons]
    omega

/-- The scan never fails, and is the scan over the characters. -/
theorem scrubSecrets_eq (input : String) :
    scrubSecrets input = some (String.ofList (scrubText input.toList)) := by
  have hloop := scrubLoop_encode (length_le_encode input.toList)
  simp only [scrubSecrets, toUTF8_toList, hloop, Option.bind_eq_bind, Option.bind_some,
    fromUTF8?_encode]

end Refinement

/- Masking a masked text. -/
section Again

variable {text : List Char} {n : Nat}

theorem redacted_toList : redacted.toList = ['[', 'R', 'E', 'D', 'A', 'C', 'T', 'E', 'D', ']'] :=
  String.toList_ofList

variable {front : List Char}

/-- What a masked text begins with, up to a bracket, the text begins with. -/
theorem prefix_of_scrubText (hplain : '[' ∉ front)
    (hstart : front <+: scrubText text) : front <+: text := by
  induction front generalizing text with
  | nil => exact List.nil_prefix
  | cons c others ih =>
    cases text with
    | nil => exact hstart
    | cons d rest =>
      cases hmarker : markerAt (d :: rest) with
      | none =>
        rw [scrubText_of_none hmarker, cons_prefix_cons] at hstart
        rw [cons_prefix_cons]
        refine ⟨hstart.1, ih ?_ hstart.2⟩
        exact fun hmem => hplain (mem_cons_of_mem c hmem)
      | some n =>
        rw [scrubText_of_marker hmarker, append_assoc] at hstart
        have hkept := List.take_prefix n (d :: rest)
        rcases List.prefix_or_prefix_of_prefix hstart
            (prefix_append _ _) with hinside | ⟨behind, hbehind⟩
        · exact hinside.trans hkept
        · -- What is copied of the mask begins with its bracket.
          cases behind with
          | nil =>
            rw [append_nil] at hbehind
            rw [← hbehind]
            exact hkept
          | cons b others' =>
            rw [← hbehind, prefix_append_right_inj, redacted_toList, cons_append,
              cons_prefix_cons] at hstart
            refine absurd ?_ hplain
            rw [← hbehind, hstart.1]
            exact mem_append_right _ mem_cons_self

/-- A place that is no marker is none after masking what is behind it. -/
theorem markerAt_scrubText {c : Char} {rest : List Char} (hmarker : markerAt (c :: rest) = none) :
    markerAt (c :: scrubText rest) = none := by
  rw [markerAt_eq_none_iff] at hmarker ⊢
  intro pattern hpattern hstart
  obtain ⟨hnonempty, -, -, hplain, -⟩ := recognised_facts _ hpattern
  obtain ⟨front, hfront, rfl⟩ := prefix_map_iff.mp hstart
  cases front with
  | nil => exact hnonempty rfl
  | cons d others =>
    obtain ⟨rfl, hothers⟩ := cons_prefix_cons.mp hfront
    have hbracket : '[' ∉ others := by
      intro hmem
      exact hplain (mem_cons_of_mem _ (mem_map_of_mem hmem))
    have hrest := prefix_of_scrubText hbracket hothers
    have hbegins : d :: others <+: d :: rest := cons_prefix_cons.mpr ⟨rfl, hrest⟩
    exact hmarker _ hpattern (hbegins.map Char.toLower)

/-- Characters that no recognised pattern begins with, whatever follows. -/
def apart (front : List Char) : Bool :=
  recognised.all fun pattern => !pattern.isPrefixOf front && !front.isPrefixOf pattern

theorem markerAt_of_apart (behind : List Char) (hapart : apart (lowerChars front) = true) :
    markerAt (front ++ behind) = none := by
  rw [markerAt_eq_none_iff]
  intro pattern hpattern hstart
  have hboth := all_eq_true.mp hapart pattern hpattern
  rw [Bool.and_eq_true, Bool.not_eq_true', Bool.not_eq_true'] at hboth
  rw [lowerChars_append] at hstart
  rcases List.prefix_or_prefix_of_prefix hstart (prefix_append _ _) with hinside | hbeyond
  · rw [← List.isPrefixOf_iff_prefix, hboth.1] at hinside
    cases hinside
  · rw [← List.isPrefixOf_iff_prefix, hboth.2] at hbeyond
    cases hbeyond

theorem scrubText_of_apart (behind : List Char)
    (hapart : (lowerChars front).tails.all (fun tail => tail.isEmpty || apart tail) = true) :
    scrubText (front ++ behind) = front ++ scrubText behind := by
  induction front with
  | nil => rfl
  | cons c others ih =>
    rw [lowerChars, map_cons, tails_cons, all_cons,
      Bool.and_eq_true, isEmpty_cons, Bool.false_or] at hapart
    have hnone : markerAt (c :: others ++ behind) = none := markerAt_of_apart behind hapart.1
    rw [cons_append] at hnone ⊢
    rw [scrubText_of_none hnone, ih hapart.2, cons_append]

theorem scrubChars_skip_of_free (behind : List Char) (hfree : ∀ c ∈ front, isStop c = false) :
    scrubChars .skip (front ++ behind) = scrubChars .skip behind := by
  have hrun : ∀ c ∈ front, (!isStop c) = true := by
    intro c hc
    rw [hfree c hc]
    rfl
  rw [scrubChars_skip, scrubChars_skip, dropWhile_append_of_pos hrun]

/-- Behind a value the scan goes on at a stop, which stays. -/
theorem scrubChars_skip_skip (text : List Char) :
    scrubChars .skip (scrubChars .skip text) = scrubText (scrubChars .skip text) := by
  induction text with
  | nil => rfl
  | cons c rest ih =>
    cases hstop : isStop c with
    | true =>
      have hkept : scrubChars .skip (c :: rest) = c :: scrubText rest := by
        rw [scrubChars_skip_cons, if_pos hstop]
      rw [hkept, scrubChars_skip, dropWhile_cons, hstop]
      rfl
    | false =>
      have hleft : scrubChars .skip (c :: rest) = scrubChars .skip rest := by
        rw [scrubChars_skip_cons, hstop]
        rfl
      rw [hleft, ih]

/-- A masked marker is masked again in the same way: its pattern is found
again, and `bot` has no digit behind it any more. -/
theorem scrubText_masked {behind : List Char} (hmarker : markerAt text = some n)
    (hbehind : scrubText (scrubChars .skip behind) = scrubChars .skip behind) :
    scrubText (text.take n ++ redacted.toList ++ scrubChars .skip behind) =
      text.take n ++ redacted.toList ++ scrubChars .skip behind := by
  have hlength : (text.take n).length = n := by
    rw [length_take, Nat.min_eq_left (le_length_of_markerAt hmarker).2]
  rcases markerAt_eq_some hmarker with
    ⟨pattern, hfound, hn, hstart⟩ | ⟨-, hbot, rfl⟩
  · have hagain : markerAt
        (text.take n ++ (redacted.toList ++ scrubChars .skip behind)) = some n := by
      have hlower : lowerChars (text.take n) = pattern := by
        rw [lowerChars, map_take, hn]
        exact (prefix_iff_eq_take.mp hstart).symm
      have hbegins : pattern <+: lowerChars (text.take n ++
          (redacted.toList ++ scrubChars .skip behind)) := by
        rw [lowerChars_append, hlower]
        exact prefix_append _ _
      rw [markerAt_of_pattern (mem_of_find?_eq_some hfound) hbegins, hn]
    have hfree : ∀ c ∈ redacted.toList, isStop c = false :=
      forall_of_any_eq_false (by rw [redacted_toList]; decide)
    rw [append_assoc, scrubText_of_marker hagain, take_left' hlength,
      drop_left' hlength, scrubChars_skip_of_free _ hfree,
      scrubChars_skip_skip, hbehind, append_assoc]
  · have hlower : lowerChars (text.take 3) = "bot".toList := by
      rw [startsBot, Bool.and_eq_true, List.isPrefixOf_iff_prefix] at hbot
      rw [lowerChars, map_take]
      exact (prefix_iff_eq_take.mp hbot.1).symm
    rw [scrubText_of_apart, hbehind]
    rw [lowerChars_append, hlower, bot_toList, redacted_toList]
    simp only [apart, recognised, markerPatterns, keyPatterns_eq, bearer_toList]
    decide

/-- Masking twice is masking once. -/
theorem scrubText_scrubText (text : List Char) : scrubText (scrubText text) = scrubText text := by
  induction hsize : text.length using Nat.strongRecOn generalizing text with
  | ind size ih =>
    cases text with
    | nil => rfl
    | cons c rest =>
      rw [length_cons] at hsize
      cases hmarker : markerAt (c :: rest) with
      | none =>
        rw [scrubText_of_none hmarker, scrubText_of_none (markerAt_scrubText hmarker),
          ih rest.length (by omega) rest rfl]
      | some n =>
        have hbehind : scrubText (scrubChars .skip ((c :: rest).drop n)) =
            scrubChars .skip ((c :: rest).drop n) := by
          rw [scrubChars_skip]
          exact ih _ (hsize ▸ length_behind_marker hmarker) _ rfl
        rw [scrubText_of_marker hmarker]
        exact scrubText_masked hmarker hbehind

end Again

/- A value behind a key marker. -/
section Values

variable {marker text : List Char} {n : Nat}

/-- A key marker, in upper and lower case letters. -/
def IsKeyMarker (marker : List Char) : Prop :=
  lowerChars marker ∈ keyPatterns

instance : Decidable (IsKeyMarker marker) :=
  inferInstanceAs (Decidable (lowerChars marker ∈ keyPatterns))

/-- A key marker is a run without spaces and digits up to its equals sign. -/
theorem IsKeyMarker.facts (hmarker : IsKeyMarker marker) : lowerChars marker ∈ markerPatterns ∧
    (∃ name, lowerChars marker = name ++ ['='] ∧ '=' ∉ name ∧ ' ' ∉ name ∧
      digits.any name.contains = false) ∧
    (lowerChars marker).any isStop = false := by
  have hall : ∀ pattern ∈ keyPatterns,
      (pattern = pattern.dropLast ++ ['='] ∧ '=' ∉ pattern.dropLast ∧ ' ' ∉ pattern.dropLast ∧
        digits.any pattern.dropLast.contains = false) ∧
      pattern.any isStop = false := by
    rw [keyPatterns_eq]
    decide
  obtain ⟨hname, hfree⟩ := hall _ hmarker
  exact ⟨mem_append_left _ hmarker, ⟨_, hname⟩, hfree⟩

theorem IsKeyMarker.free (hmarker : IsKeyMarker marker) : ∀ c ∈ marker, isStop c = false := by
  intro c hc
  rw [← Bool.not_eq_true]
  intro hstop
  have hmem : c ∈ lowerChars marker := by
    rw [← (isStop_cases hstop).2]
    exact mem_map_of_mem hc
  have hnone := forall_of_any_eq_false hmarker.facts.2.2 c hmem
  rw [hstop] at hnone
  cases hnone

/-- A pattern that is found in front of a key marker ends in front of it, or
with it. -/
theorem IsKeyMarker.overlap (hmarker : IsKeyMarker marker) {pre rest : List Char}
    {pattern : List Char} (hpattern : pattern ∈ recognised)
    (hstart : pattern <+: lowerChars (pre ++ marker ++ rest)) :
    pattern <+: lowerChars pre ∨ pattern = lowerChars (pre ++ marker) := by
  obtain ⟨-, ⟨name, hname, hequals, hspace, hdigits⟩, -⟩ := hmarker.facts
  obtain ⟨-, -, -, -, hinner, hlast⟩ := recognised_facts _ hpattern
  rw [lowerChars_append, lowerChars_append, hname, append_assoc, append_assoc] at hstart
  rw [lowerChars_append, hname]
  -- No pattern ends inside the name.
  have hends : ∀ behind, pattern = lowerChars pre ++ behind → behind <+: name → behind = [] := by
    rintro behind rfl hless
    by_contra hnonempty
    have hmem := hless.mem (getLast_mem hnonempty)
    rw [getLast?_append_of_ne_nil _ hnonempty,
      getLast?_eq_getLast_of_ne_nil hnonempty, Option.any_some] at hlast
    simp only [Bool.or_eq_true, beq_iff_eq, contains_iff_mem] at hlast
    rcases hlast with (heq | hsp) | hdigit
    · exact hequals (heq ▸ hmem)
    · exact hspace (hsp ▸ hmem)
    · have hno := any_eq_false.mp hdigits _ hdigit
      exact hno (contains_iff_mem.mpr hmem)
  rcases List.prefix_or_prefix_of_prefix hstart (prefix_append _ _) with
    hinside | ⟨behind, rfl⟩
  · exact .inl hinside
  · rw [prefix_append_right_inj] at hstart
    rcases List.prefix_or_prefix_of_prefix hstart (prefix_append _ _) with
      hless | ⟨more, rfl⟩
    · rw [hends behind rfl hless, append_nil]
      exact .inl prefix_rfl
    · rw [prefix_append_right_inj] at hstart
      cases more with
      | nil =>
        rw [append_nil] at hends ⊢
        rw [hends name rfl prefix_rfl, append_nil]
        exact .inl prefix_rfl
      | cons c others =>
        obtain ⟨rfl, -⟩ := cons_prefix_cons.mp hstart
        cases others with
        | nil => exact .inr rfl
        | cons d others =>
          refine absurd ?_ hinner
          simp [dropLast_append_of_ne_nil]

theorem markerAt_congr {other : List Char} (hsame : ∀ pattern ∈ recognised,
      pattern <+: lowerChars text ↔ pattern <+: lowerChars other) :
    markerAt text = markerAt other := by
  have hfind : markerPatterns.find? (·.isPrefixOf (lowerChars text)) =
      markerPatterns.find? (·.isPrefixOf (lowerChars other)) := by
    rw [← head?_filter, ← head?_filter]
    refine congrArg List.head? (filter_congr ?_)
    intro pattern hpattern
    rw [Bool.eq_iff_iff, List.isPrefixOf_iff_prefix, List.isPrefixOf_iff_prefix]
    exact hsame pattern (mem_append_left _ hpattern)
  have hbot : startsBot text = startsBot other := by
    rw [Bool.eq_iff_iff, startsBot_iff, startsBot_iff]
    refine exists_congr fun pattern => and_congr_right fun hpattern => ?_
    exact hsame pattern (mem_append_right _ hpattern)
  rw [markerAt, markerAt, hfind, hbot]

/-- The marker found in front of a key marker does not depend on what is behind
that one. -/
theorem IsKeyMarker.markerAt_eq (hmarker : IsKeyMarker marker) (pre rest : List Char) :
    markerAt (pre ++ marker ++ rest) = markerAt (pre ++ marker) := by
  refine markerAt_congr fun pattern hpattern => ?_
  constructor
  · intro hstart
    rcases hmarker.overlap hpattern hstart with hinside | rfl
    · rw [lowerChars_append]
      exact hinside.trans (prefix_append _ _)
    · exact prefix_rfl
  · intro hstart
    rw [lowerChars_append]
    exact hstart.trans (prefix_append _ _)

theorem IsKeyMarker.markerAt_bound (hmarker : IsKeyMarker marker)
    {pre : List Char} (hfound : markerAt (pre ++ marker) = some n) :
    n ≤ pre.length ∨ n = (pre ++ marker).length := by
  rw [← hmarker.markerAt_eq pre []] at hfound
  rcases markerAt_eq_some hfound with
    ⟨pattern, hpattern, rfl, hstart⟩ | ⟨-, hbot, rfl⟩
  · have hmem : pattern ∈ recognised := mem_append_left _ (mem_of_find?_eq_some hpattern)
    rcases hmarker.overlap hmem hstart with hinside | rfl
    · left
      simpa [lowerChars] using hinside.length_le
    · right
      rw [lowerChars, length_map]
  · obtain ⟨pattern, hpattern, hstart⟩ := startsBot_iff.mp hbot
    have hfour : pattern.length = 4 ∧ '=' ∉ pattern := by
      have hall : ∀ pattern ∈ botPatterns, pattern.length = 4 ∧ '=' ∉ pattern := by decide
      exact hall pattern hpattern
    rcases hmarker.overlap (mem_append_right _ hpattern) hstart with
      hinside | rfl
    · left
      have hle := hinside.length_le
      rw [hfour.1, lowerChars, length_map] at hle
      omega
    · obtain ⟨-, ⟨name, hname, -⟩, -⟩ := hmarker.facts
      refine absurd ?_ hfour.2
      rw [lowerChars_append, hname]
      simp

/-- A key marker inside a value is left out with it; one behind the value is
scanned as any text is. -/
theorem IsKeyMarker.skip_eq (hmarker : IsKeyMarker marker) (pre : List Char)
    (hscan : ∀ front, front <:+ pre → ∃ out, ∀ rest,
      scrubText (front ++ marker ++ rest) = out ++ scrubChars .skip rest) :
    ∃ out, ∀ rest, scrubChars .skip (pre ++ marker ++ rest) = out ++ scrubChars .skip rest := by
  have hskip : ∀ rest, scrubChars .skip (pre ++ marker ++ rest) =
      if (pre.dropWhile (!isStop ·)).isEmpty then scrubChars .skip rest
      else scrubText (pre.dropWhile (!isStop ·) ++ marker ++ rest) := by
    intro rest
    rw [scrubChars_skip, append_assoc, dropWhile_append]
    split
    · rw [← scrubChars_skip, scrubChars_skip_of_free rest hmarker.free]
    · rw [append_assoc]
  cases hempty : (pre.dropWhile (!isStop ·)).isEmpty with
  | true => exact ⟨[], fun rest => by rw [hskip, hempty]; rfl⟩
  | false =>
    obtain ⟨out, hout⟩ := hscan _ (List.dropWhile_suffix _)
    exact ⟨out, fun rest => by rw [hskip, hempty]; exact hout rest⟩

/-- What is put out for a text up to a key marker does not depend on what is
behind the marker, and there the scan is inside a value. -/
theorem IsKeyMarker.scrubText_eq (hmarker : IsKeyMarker marker) (pre : List Char) :
    ∃ out, ∀ rest, scrubText (pre ++ marker ++ rest) = out ++ scrubChars .skip rest := by
  induction hsize : pre.length using Nat.strongRecOn generalizing pre with
  | ind size ih =>
    cases hfound : markerAt (pre ++ marker) with
    | none =>
      cases pre with
      | nil =>
        have hhere : markerAt marker = _ := markerAt_of_pattern hmarker.facts.1 prefix_rfl
        rw [nil_append, hhere] at hfound
        cases hfound
      | cons c others =>
        rw [length_cons] at hsize
        obtain ⟨out, hout⟩ := ih others.length (by omega) others rfl
        refine ⟨c :: out, fun rest => ?_⟩
        have hnone := hmarker.markerAt_eq (c :: others) rest
        rw [hfound, cons_append, cons_append] at hnone
        rw [cons_append, cons_append, scrubText_of_none hnone, hout, cons_append]
    | some n =>
      have hround : ∀ rest, scrubText (pre ++ marker ++ rest) =
          (pre ++ marker ++ rest).take n ++ redacted.toList ++
            scrubChars .skip ((pre ++ marker ++ rest).drop n) := by
        intro rest
        refine scrubText_of_marker ?_
        rw [hmarker.markerAt_eq pre rest, hfound]
      rcases hmarker.markerAt_bound hfound with hinside | hwhole
      · obtain ⟨out, hout⟩ := hmarker.skip_eq (pre.drop n) fun front hfront =>
          ih front.length (by
              have hpos := (le_length_of_markerAt hfound).1
              have hle := hfront.length_le
              rw [length_drop] at hle
              omega)
            front rfl
        refine ⟨pre.take n ++ redacted.toList ++ out, fun rest => ?_⟩
        rw [hround, append_assoc pre marker rest, take_append_of_le_length hinside,
          drop_append_of_le_length hinside, ← append_assoc _ marker,
          hout]
        simp only [append_assoc]
      · refine ⟨pre ++ marker ++ redacted.toList, fun rest => ?_⟩
        rw [hround, take_left' hwhole.symm, drop_left' hwhole.symm]

/-- The characters that the documentation names as the end of a value. -/
def isDocumentedStop (c : Char) : Bool :=
  c == ' ' || c == ';' || c == '&' || c == '"' || c == '\'' || c == '\n'

/-- A value reaches to the end of the text, or to a documented stop. -/
def EndsValue (post : List Char) : Prop :=
  post = [] ∨ ∃ c rest, post = c :: rest ∧ isDocumentedStop c = true

theorem isStop_eq (c : Char) : isStop c = (isDocumentedStop c || (c == '\r' || c == '/')) := by
  simp only [isStop, isDocumentedStop, Bool.or_assoc]

theorem skip_of_endsValue {post : List Char} (hpost : EndsValue post) : scrubChars .skip post = [] ∨
    ∃ c rest, scrubChars .skip post = c :: rest ∧ isDocumentedStop c = true := by
  rcases hpost with rfl | ⟨c, rest, rfl, hstop⟩
  · exact .inl rfl
  · have hends : isStop c = true := by rw [isStop_eq, hstop, Bool.true_or]
    refine .inr ⟨c, scrubText rest, ?_, hstop⟩
    rw [scrubChars_skip_cons, if_pos hends]

/-- A stop that is not documented shows what is behind it. -/
theorem skip_of_slash {value : List Char} (post : List Char)
    (hvalue : ∀ c ∈ value, isDocumentedStop c = false)
    (hslash : ¬ ∀ c ∈ value, c ≠ '/' ∧ c ≠ '\r') :
    ∃ c rest, scrubChars .skip (value ++ post) = c :: rest ∧ isDocumentedStop c = false := by
  induction value with
  | nil => simp at hslash
  | cons c others ih =>
    obtain ⟨hc, hothers⟩ := forall_mem_cons.mp hvalue
    by_cases hplain : c ≠ '/' ∧ c ≠ '\r'
    · have hfree : isStop c = false := by
        rw [isStop_eq, hc]
        simp [hplain.1, hplain.2]
      have hleft : ¬ ∀ c ∈ others, c ≠ '/' ∧ c ≠ '\r' := by
        intro hall
        exact hslash (forall_mem_cons.mpr ⟨hplain, hall⟩)
      obtain ⟨d, rest, hout, hd⟩ := ih hothers hleft
      refine ⟨d, rest, ?_, hd⟩
      rw [← hout, cons_append, scrubChars_skip_cons, hfree]
      rfl
    · have hends : isStop c = true := by
        rw [isStop_eq, hc, Bool.false_or, Bool.or_eq_true, beq_iff_eq, beq_iff_eq]
        tauto
      refine ⟨c, scrubText (others ++ post), ?_, hc⟩
      rw [cons_append, scrubChars_skip_cons, if_pos hends]

/-- Two texts that differ behind a key marker are masked alike exactly if the
scan leaves the same of what is behind it. -/
theorem IsKeyMarker.scrubSecrets_eq_iff (hmarker : IsKeyMarker marker)
    (pre rest other : List Char) :
    scrubSecrets (String.ofList (pre ++ marker ++ other)) =
        scrubSecrets (String.ofList (pre ++ marker ++ rest)) ↔
      scrubChars .skip other = scrubChars .skip rest := by
  obtain ⟨out, hout⟩ := hmarker.scrubText_eq pre
  rw [scrubSecrets_eq, scrubSecrets_eq, String.toList_ofList,
    String.toList_ofList, hout, hout, Option.some_inj, String.ofList_inj,
    append_cancel_left_eq]

/-- The scan fails on no text and leaves a masked one as it is.  A value behind a
key marker can be replaced by any run without stops, and the output stays the
same, exactly if it has neither a slash nor a carriage return: the scan stops
there although the documentation does not name them. -/
theorem scrub_secrets_hides_iff (input : String) (pre marker value post : List Char) :
    (∃ out, scrubSecrets input = some out ∧ scrubSecrets out = some out) ∧
    (IsKeyMarker marker → (∀ c ∈ value, isDocumentedStop c = false) → EndsValue post →
      ((∀ other : List Char, (∀ c ∈ other, isStop c = false) →
          scrubSecrets (String.ofList (pre ++ marker ++ (other ++ post))) =
            scrubSecrets (String.ofList (pre ++ marker ++ (value ++ post)))) ↔
        ∀ c ∈ value, c ≠ '/' ∧ c ≠ '\r')) := by
  refine ⟨?_, ?_⟩
  · refine ⟨_, scrubSecrets_eq input, ?_⟩
    rw [scrubSecrets_eq, String.toList_ofList, scrubText_scrubText]
  · intro hmarker hvalue hpost
    constructor
    · intro hhidden
      by_contra hslash
      have hempty := (hmarker.scrubSecrets_eq_iff pre _ _).mp (hhidden [] (by simp))
      obtain ⟨c, rest, hshown, hc⟩ := skip_of_slash post hvalue hslash
      rw [nil_append, hshown] at hempty
      rcases skip_of_endsValue hpost with hnil | ⟨d, rest', hcons, hd⟩
      · rw [hnil] at hempty
        cases hempty
      · rw [hcons] at hempty
        rw [(List.cons.inj hempty).1, hc] at hd
        cases hd
    · intro hplain other hother
      have hfree : ∀ c ∈ value, isStop c = false := by
        intro c hc
        rw [isStop_eq, hvalue c hc]
        simp [hplain c hc]
      rw [hmarker.scrubSecrets_eq_iff, scrubChars_skip_of_free post hother,
        scrubChars_skip_of_free post hfree]

end Values

namespace ScrubWitness

def cookie : List Char := "PVEAuthCookie=".toList

theorem cookie_isKeyMarker : IsKeyMarker cookie := mem_map_of_mem mem_cons_self

/-- A ticket, whose signature is Base64 text. -/
def ticket (signature : List Char) : List Char :=
  ['P', 'V', 'E', ':', 'r', 'o', 'o', 't', '@', 'p', 'a', 'm', ':', ':'] ++ signature

theorem scrub_secrets_hides_ticket :
    scrubSecrets (String.ofList ([] ++ cookie ++ (['x'] ++ [';']))) =
      scrubSecrets (String.ofList ([] ++ cookie ++ (ticket ['a', 'b', 'c', 'd'] ++ [';']))) := by
  have hstops : (ticket ['a', 'b', 'c', 'd']).any isDocumentedStop = false := by decide
  have hplain : ∀ c ∈ ticket ['a', 'b', 'c', 'd'], c ≠ '/' ∧ c ≠ '\r' := by simp [ticket]
  have hiff := (scrub_secrets_hides_iff "" [] cookie (ticket ['a', 'b', 'c', 'd']) [';']).2
    cookie_isKeyMarker (forall_of_any_eq_false hstops) (.inr ⟨';', [], rfl, rfl⟩)
  exact hiff.mpr hplain ['x'] (forall_of_any_eq_false rfl)

/-- The part of a signature behind a slash shows. -/
theorem scrub_secrets_shows_ticket : ¬ ∀ pre marker value post : List Char, IsKeyMarker marker →
    (∀ c ∈ value, isDocumentedStop c = false) → EndsValue post →
    ∀ other : List Char, (∀ c ∈ other, isStop c = false) →
      scrubSecrets (String.ofList (pre ++ marker ++ (other ++ post))) =
        scrubSecrets (String.ofList (pre ++ marker ++ (value ++ post))) := by
  intro hall
  have hstops : (ticket ['a', 'b', '/', 'c', 'd']).any isDocumentedStop = false := by decide
  have hsame := hall [] cookie (ticket ['a', 'b', '/', 'c', 'd']) []
    cookie_isKeyMarker (forall_of_any_eq_false hstops) (.inl rfl) ['x']
    (forall_of_any_eq_false rfl)
  rw [cookie_isKeyMarker.scrubSecrets_eq_iff] at hsame
  obtain ⟨c, rest, hshown, -⟩ := skip_of_slash [] (forall_of_any_eq_false hstops) (by simp [ticket])
  rw [hshown] at hsame
  cases hsame

end ScrubWitness

end Proxxx
