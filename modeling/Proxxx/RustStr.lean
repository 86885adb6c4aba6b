/-
The string operations of the Rust standard library that the modelled code
splits, trims and joins texts with, over lists of characters, and the rule for
a sequence of fallible steps.
-/
import Mathlib.Data.List.Basic
import Mathlib.Data.List.Infix

namespace RustStr

open List

/-- What a successful `?` chain says about its first step and the rest. -/
theorem bind_eq_ok {ε α β : Type} {first : Except ε α} {next : α → Except ε β} {result : β}
    (hbind : (first >>= next) = .ok result) :
    ∃ value, first = .ok value ∧ next value = .ok result := by
  cases first with
  | error e => cases hbind
  | ok value => exact ⟨value, rfl, hbind⟩

theorem andThen_eq_ok {ε β : Type} {first : Except ε Unit} {next : Except ε β} {result : β} :
    (first >>= fun _ => next) = .ok result ↔ first = .ok () ∧ next = .ok result := by
  cases first with
  | error | ok => simp [Bind.bind, Except.bind]

/-- Another form for the errors leaves the successes. -/
theorem mapError_eq_ok {ε δ α : Type} {result : Except ε α} {convert : ε → δ}
    {value : α} : result.mapError convert = .ok value ↔ result = .ok value := by
  cases result with
  | error | ok => simp [Except.mapError]

/-- Steps that all succeed. -/
theorem mapM_eq_ok {ε α β : Type} {step : α → Except ε β} {result : α → β}
    {items : List α} (hstep : ∀ item ∈ items, step item = .ok (result item)) :
    items.mapM step = .ok (items.map result) := by
  induction items with
  | nil => rfl
  | cons head tail ih =>
    obtain ⟨hhead, htail⟩ := forall_mem_cons.mp hstep
    rw [mapM_cons, hhead, ih htail]
    rfl

section Lists

variable {α : Type*} [DecidableEq α]

/-- Split at the first occurrence of the pattern. -/
def splitOnceList (pattern : List α) : List α → Option (List α × List α)
  | [] => if pattern = [] then some ([], []) else none
  | head :: tail =>
    if pattern <+: head :: tail then
      some ([], (head :: tail).drop pattern.length)
    else
      (splitOnceList pattern tail).map fun parts => (head :: parts.1, parts.2)

variable {right left text : List α}

/-- What a split gives back joins to the text again. -/
theorem append_of_splitOnceList {pattern : List α}
    (hsplit : splitOnceList pattern text = some (left, right)) :
    text = left ++ pattern ++ right := by
  induction text generalizing left with
  | nil =>
    rw [splitOnceList] at hsplit
    split at hsplit
    · cases hsplit
      simpa using ‹pattern = []›.symm
    · simp at hsplit
  | cons head tail ih =>
    rw [splitOnceList] at hsplit
    split at hsplit
    next hfront =>
      cases hsplit
      simpa using (prefix_iff_eq_append.mp hfront).symm
    next =>
      obtain ⟨parts, hparts, heq⟩ := Option.map_eq_some_iff.mp hsplit
      cases heq
      simpa using ih hparts

/-- A single character is found at its first occurrence. -/
theorem splitOnceList_singleton {c : α} (hleft : c ∉ left) :
    splitOnceList [c] (left ++ c :: right) = some (left, right) := by
  induction left with
  | nil => simp [splitOnceList]
  | cons head tail ih =>
    obtain ⟨hhead, htail⟩ := ne_and_not_mem_of_not_mem_cons hleft
    simp [splitOnceList, hhead, ih htail]

/-- The part before the split does not hold the pattern. -/
theorem not_infix_of_splitOnceList {pattern : List α} (hpattern : pattern ≠ [])
    (hsplit : splitOnceList pattern text = some (left, right)) :
    ¬pattern <:+: left := by
  induction text generalizing left with
  | nil => simp [splitOnceList, hpattern] at hsplit
  | cons head tail ih =>
    rw [splitOnceList] at hsplit
    split at hsplit
    next =>
      cases hsplit
      simpa using hpattern
    next hfront =>
      obtain ⟨⟨front, rest⟩, hparts, heq⟩ := Option.map_eq_some_iff.mp hsplit
      cases heq
      rw [infix_cons_iff]
      rintro (hstarts | hinside)
      · apply hfront
        rw [append_of_splitOnceList hparts, ← cons_append, ← cons_append, append_assoc]
        exact hstarts.trans (prefix_append _ _)
      · exact ih hparts hinside

theorem not_mem_of_splitOnceList {c : α}
    (hsplit : splitOnceList [c] text = some (left, right)) : c ∉ left := by
  have hinside := not_infix_of_splitOnceList (by simp) hsplit
  rwa [singleton_infix_iff] at hinside

/-- A pattern of two different characters cannot overlap with itself, so it is
found behind any text that does not hold it. -/
theorem splitOnceList_pair {first second : α} (hne : first ≠ second) (hleft : ¬[first, second] <:+: left) :
    splitOnceList [first, second] (left ++ first :: second :: right) = some (left, right) := by
  induction left with
  | nil => simp [splitOnceList]
  | cons head tail ih =>
    rw [infix_cons_iff, not_or] at hleft
    have hfront : ¬[first, second] <+: head :: (tail ++ first :: second :: right) := by
      intro hstarts
      cases tail with
      | nil => simp_all
      | cons next rest =>
        apply hleft.1
        simp_all
    rw [cons_append, splitOnceList, if_neg hfront, ih hleft.2]
    rfl

/-- Split at the last occurrence of a character. -/
def rsplitOnceList (c : α) (text : List α) : Option (List α × List α) :=
  (splitOnceList [c] text.reverse).map fun parts => (parts.2.reverse, parts.1.reverse)

theorem append_of_rsplitOnceList {c : α} (hsplit : rsplitOnceList c text = some (left, right)) :
    text = left ++ c :: right := by
  obtain ⟨parts, hparts, heq⟩ := Option.map_eq_some_iff.mp hsplit
  cases heq
  have hreverse := append_of_splitOnceList hparts
  rw [← reverse_reverse text, hreverse]
  simp

theorem rsplitOnceList_append {c : α} (hright : c ∉ right) :
    rsplitOnceList c (left ++ c :: right) = some (left, right) := by
  have hsplit : splitOnceList [c] (right.reverse ++ c :: left.reverse) =
      some (right.reverse, left.reverse) :=
    splitOnceList_singleton (by simpa using hright)
  simp [rsplitOnceList, hsplit]

end Lists

/-- `str::split_once` with a text as its pattern. -/
def splitOnce (text pattern : String) : Option (String × String) :=
  (splitOnceList pattern.toList text.toList).map fun parts =>
    (String.ofList parts.1, String.ofList parts.2)

/-- `rsplitn(2, c)` when it yields two parts, the text before the last `c`
first. -/
def rsplitOnce (text : String) (c : Char) : Option (String × String) :=
  (rsplitOnceList c text.toList).map fun parts => (String.ofList parts.1, String.ofList parts.2)

variable {text pattern right left : String}

theorem splitOnce_eq_some : splitOnce text pattern = some (left, right) ↔
    splitOnceList pattern.toList text.toList = some (left.toList, right.toList) := by
  constructor
  · intro hsplit
    obtain ⟨parts, hparts, heq⟩ := Option.map_eq_some_iff.mp hsplit
    cases heq
    simpa using hparts
  · intro hsplit
    simp [splitOnce, hsplit]

theorem append_of_splitOnce (hsplit : splitOnce text pattern = some (left, right)) :
    text = left ++ pattern ++ right := by
  obtain ⟨parts, hparts, heq⟩ := Option.map_eq_some_iff.mp hsplit
  cases heq
  apply String.toList_injective
  simpa using append_of_splitOnceList hparts

variable {c : Char}

theorem append_of_rsplitOnce (hsplit : rsplitOnce text c = some (left, right)) :
    text = left ++ String.singleton c ++ right := by
  obtain ⟨parts, hparts, heq⟩ := Option.map_eq_some_iff.mp hsplit
  cases heq
  apply String.toList_injective
  simpa using append_of_rsplitOnceList hparts

/-- `char::is_whitespace`: the characters with the Unicode property
White_Space. -/
def isWhitespace (c : Char) : Bool :=
  let code := c.toNat
  (9 ≤ code && code ≤ 13) || code == 0x20 || code == 0x85 || code == 0xA0 ||
    code == 0x1680 || (0x2000 ≤ code && code ≤ 0x200A) || code == 0x2028 ||
    code == 0x2029 || code == 0x202F || code == 0x205F || code == 0x3000

/-- `char::is_control`: the control characters of Unicode. -/
def isControl (c : Char) : Bool :=
  decide (c.toNat < 0x20) || (decide (0x7F ≤ c.toNat) && decide (c.toNat ≤ 0x9F))

def trimList (text : List Char) : List Char :=
  ((text.dropWhile isWhitespace).reverse.dropWhile isWhitespace).reverse

/-- `str::trim`. -/
def trim (text : String) : String :=
  String.ofList (trimList text.toList)

/-- `trim_start_matches` with a character. -/
def trimStartMatches (text : String) (c : Char) : String :=
  String.ofList (text.toList.dropWhile (· = c))

variable {α : Type*}

/-- Trimming stops at the first other character. -/
theorem dropWhile_append_cons {p : α → Bool} {front rest : List α}
    {stop : α} (hstop : p stop = false) :
    (front ++ stop :: rest).dropWhile p = front.dropWhile p ++ stop :: rest := by
  induction front with
  | nil => simp [hstop]
  | cons head tail ih =>
    by_cases hhead : p head = true
    · simp [hhead, ih]
    · simp [hhead]

/-- Trimming a character does not remove a pattern that starts with another. -/
theorem infix_dropWhile_append [DecidableEq α] {c first : α}
    (hne : first ≠ c) {pattern front rest : List α} :
    first :: pattern <:+: front.dropWhile (· = c) ++ rest ↔
      first :: pattern <:+: front ++ rest := by
  induction front with
  | nil => simp
  | cons head tail ih =>
    by_cases hhead : head = c
    · rw [dropWhile_cons_of_pos (by simpa using hhead), ih, cons_append, infix_cons_iff]
      have hother : ¬first :: pattern <+: head :: (tail ++ rest) := by simp [hhead, hne]
      simp [hother]
    · rw [dropWhile_cons_of_neg (by simpa using hhead)]

/-- `starts_with` a text. -/
def startsWith (text pattern : String) : Bool :=
  pattern.toList.isPrefixOf text.toList

/-- `ends_with` a text. -/
def endsWith (text pattern : String) : Bool :=
  pattern.toList.isSuffixOf text.toList

/-- `strip_prefix`: what follows the pattern in a text that starts with it. -/
def stripPrefix (text pattern : String) : Option String :=
  if startsWith text pattern then
    some (String.ofList (text.toList.drop pattern.toList.length))
  else none

/-- `strip_suffix`. -/
def stripSuffix (text pattern : String) : Option String :=
  if endsWith text pattern then
    some (String.ofList (text.toList.take (text.toList.length - pattern.toList.length)))
  else none

theorem stripPrefix_eq_some {rest : String} :
    stripPrefix text pattern = some rest ↔ text = pattern ++ rest := by
  by_cases hstarts : startsWith text pattern = true
  · obtain ⟨later, hlater⟩ := isPrefixOf_iff_prefix.mp hstarts
    have htext : text = pattern ++ String.ofList later := by
      apply String.toList_injective
      simp [hlater]
    rw [stripPrefix, if_pos hstarts, ← hlater, drop_left, htext]
    simp
  · rw [stripPrefix, if_neg hstarts]
    constructor
    · nofun
    · rintro rfl
      simp [startsWith] at hstarts

/-- Replace the occurrences of a pattern from the left; the first argument
counts the characters of the last one that are still to be passed over. -/
def replaceList [DecidableEq α] (pattern replacement : List α) : Nat → List α → List α
  | _, [] => []
  | passed + 1, _ :: rest => replaceList pattern replacement passed rest
  | 0, c :: rest =>
    if pattern.isPrefixOf (c :: rest) then
      replacement ++ replaceList pattern replacement (pattern.length - 1) rest
    else c :: replaceList pattern replacement 0 rest

/-- `str::replace`, for a pattern that is not empty. -/
def replace (text pattern replacement : String) : String :=
  String.ofList (replaceList pattern.toList replacement.toList 0 text.toList)

/-- `str::contains` with a text. -/
def contains (text pattern : String) : Bool :=
  (splitOnce text pattern).isSome

/-- Parse a decimal number below the limit; one leading plus is allowed. -/
def parseUnsigned (limit : Nat) (text : String) : Option Nat :=
  let digits :=
    match text.toList with
    | '+' :: rest => rest
    | digits => digits
  if digits.isEmpty || !digits.all Char.isDigit then none
  else
    let value := digits.foldl (fun total c => 10 * total + (c.toNat - 48)) 0
    if value < limit then some value else none

theorem parseUnsigned_lt {limit value : Nat} (hparse : parseUnsigned limit text = some value) :
    value < limit := by
  simp only [parseUnsigned, Option.ite_none_left_eq_some, Option.ite_none_right_eq_some,
    Option.some.injEq] at hparse
  exact hparse.2.2 ▸ hparse.2.1

theorem isDigit_of_mem_toString {number : Nat} {c : Char} (hc : c ∈ (toString number).toList) :
    c.isDigit := by
  rw [Nat.toString_eq_repr, Nat.toList_repr] at hc
  exact Nat.isDigit_of_mem_toDigits (by decide) (by decide) hc

/-- A number below the limit is read back from its digits. -/
theorem parseUnsigned_toString {limit number : Nat} (hlimit : number < limit) :
    parseUnsigned limit (toString number) = some number := by
  have hdigit : ∀ c ∈ Nat.toDigits 10 number, c.isDigit = true :=
    fun c hc => Nat.isDigit_of_mem_toDigits (by decide) (by decide) hc
  obtain ⟨first, rest, hdigits⟩ := exists_cons_of_ne_nil
    (Nat.toDigits_ne_nil (n := number) (b := 10))
  have hplus : first ≠ '+' := by
    rintro rfl
    exact absurd (hdigit '+' (by simp [hdigits])) (by decide)
  have hvalue : Nat.ofDigitChars 10 (first :: rest) 0 = number := by
    rw [← hdigits]
    exact Nat.ofDigitChars_toDigits (by decide) (by decide)
  have hall : (first :: rest).all Char.isDigit = true := by
    rw [← hdigits, all_eq_true]
    exact hdigit
  rw [parseUnsigned, Nat.toString_eq_repr, Nat.repr_eq_ofList_toDigits,
    String.toList_ofList, hdigits]
  split
  next rest' hcons => exact absurd (List.cons.inj hcons).1 hplus
  next =>
    rw [if_neg (by simp [hall])]
    exact (congrArg (fun value => if value < limit then some value else none)
      hvalue).trans (if_pos hlimit)

/-- `eq_ignore_ascii_case`. -/
def eqIgnoreAsciiCase (one two : String) : Bool :=
  one.toList.map Char.toLower = two.toList.map Char.toLower

/-- `str::split` at a character: one part more than there are separators. -/
def split (text : String) (c : Char) : List String :=
  (text.toList.splitOn c).map String.ofList

/-- `join` of the slice of texts, with a character between them. -/
def join (parts : List String) (c : Char) : String :=
  (String.singleton c).intercalate parts

/-- The parts of a split text are free of separators. -/
theorem free_of_mem_splitOnP {part text : List α} {p : α → Bool}
    (hpart : part ∈ text.splitOnP p) : ∀ c ∈ part, p c = false := by
  induction text generalizing part with
  | nil =>
    rw [splitOnP_nil, mem_singleton] at hpart
    simp [hpart]
  | cons head tail ih =>
    rw [splitOnP_cons_eq_if_modifyHead] at hpart
    by_cases hhead : p head = true
    · rw [if_pos hhead, mem_cons] at hpart
      rcases hpart with rfl | htail
      · simp
      · exact ih htail
    · rw [if_neg hhead] at hpart
      obtain ⟨first, others, hparts⟩ := exists_cons_of_ne_nil (splitOnP_ne_nil p tail)
      rw [hparts, modifyHead_cons, mem_cons] at hpart
      rcases hpart with rfl | hothers
      · intro c hc
        rcases mem_cons.mp hc with rfl | hfirst
        · simpa using hhead
        · exact ih (hparts ▸ mem_cons_self) c hfirst
      · exact ih (hparts ▸ mem_cons_of_mem first hothers)

theorem not_mem_of_mem_splitOn [DecidableEq α] {c : α}
    {text part : List α} (hpart : part ∈ text.splitOn c) : c ∉ part := by
  intro hc
  have hfree := free_of_mem_splitOnP hpart c hc
  simp at hfree

theorem split_ne_nil (text : String) (c : Char) : split text c ≠ [] := by simp [split]

theorem not_mem_of_mem_split {part : String} (hpart : part ∈ split text c) : c ∉ part.toList := by
  obtain ⟨chars, hchars, rfl⟩ := mem_map.mp hpart
  simpa using not_mem_of_mem_splitOn hchars

/-- Splitting undoes joining parts that are free of the separator. -/
theorem split_join {parts : List String}
    (hfree : ∀ part ∈ parts, c ∉ part.toList) (hparts : parts ≠ []) :
    split (join parts c) c = parts := by
  have hsplit : ([c].intercalate (parts.map String.toList)).splitOn c =
      parts.map String.toList := by
    apply splitOn_intercalate c
    · intro chars hchars
      obtain ⟨part, hpart, rfl⟩ := mem_map.mp hchars
      exact hfree part hpart
    · simpa using hparts
  simp [split, join, String.toList_intercalate, hsplit]

theorem split_of_not_mem (hfree : c ∉ text.toList) : split text c = [text] := by
  have hsplit : split (join [text] c) c = [text] := split_join (by simpa using hfree) (by simp)
  rwa [join, String.intercalate_singleton] at hsplit

/-- Joining undoes splitting. -/
theorem join_split (text : String) (c : Char) : join (split text c) c = text := by
  apply String.toList_injective
  simp [split, join, String.toList_intercalate, Function.comp_def]

theorem intercalate_append {sep : List α}
    {left right : List (List α)} (hleft : left ≠ []) (hright : right ≠ []) :
    sep.intercalate (left ++ right) = sep.intercalate left ++ sep ++ sep.intercalate right := by
  induction left with
  | nil => exact absurd rfl hleft
  | cons head tail ih =>
    cases tail with
    | nil =>
      obtain ⟨first, rest, rfl⟩ := exists_cons_of_ne_nil hright
      simp [intercalate_cons_cons]
    | cons second rest => simpa [intercalate_cons_cons] using ih

/-- Two lists are joined with one more separator between them. -/
theorem join_append {left right : List String} (hleft : left ≠ []) (hright : right ≠ []) :
    join (left ++ right) c = join left c ++ String.singleton c ++ join right c := by
  apply String.toList_injective
  simp [join, String.toList_intercalate, intercalate_append, hleft, hright]

theorem mem_of_mem_intercalate {sep : List α}
    {parts : List (List α)} {c : α} (hc : c ∈ sep.intercalate parts) :
    c ∈ sep ∨ ∃ part ∈ parts, c ∈ part := by
  induction parts with
  | nil => cases hc
  | cons head tail ih =>
    cases tail with
    | nil => exact .inr ⟨head, mem_cons_self, by simpa using hc⟩
    | cons second rest =>
      rw [intercalate_cons_cons, append_assoc] at hc
      rcases mem_append.mp hc with hin | hc
      · exact .inr ⟨head, mem_cons_self, hin⟩
      · rcases mem_append.mp hc with hin | hin
        · exact .inl hin
        · rcases ih hin with hsep | ⟨part, hpart, hmem⟩
          · exact .inl hsep
          · exact .inr ⟨part, mem_cons_of_mem head hpart, hmem⟩

section Replace

variable {α : Type} [DecidableEq α] {pattern replacement front rest : List α}
variable {c : α}

/-- An occurrence of a pattern does not reach over a character it does not
have. -/
theorem isPrefixOf_append_cons (hc : c ∉ pattern) :
    pattern.isPrefixOf (front ++ c :: rest) = pattern.isPrefixOf front := by
  induction pattern generalizing front with
  | nil => simp
  | cons head tail ih =>
    have hhead : c ≠ head := fun heq => hc (heq ▸ mem_cons_self)
    have htail : c ∉ tail := fun hmem => hc (mem_cons_of_mem head hmem)
    cases front with
    | nil => simp [List.isPrefixOf, Ne.symm hhead]
    | cons first others => rw [cons_append, List.isPrefixOf, List.isPrefixOf, ih htail]

theorem replaceList_singleton {replacement : List α} (text : List α) :
    replaceList [c] replacement 0 text =
      text.flatMap fun other => if other = c then replacement else [other] := by
  induction text with
  | nil => rfl
  | cons other rest ih =>
    by_cases hsame : other = c
    · simp [replaceList, hsame, ih]
    · simp [replaceList, hsame, Ne.symm hsame, ih]

/-- So the two sides of such a character are replaced on their own. -/
theorem replaceList_append_cons (hc : c ∉ pattern) (hpattern : pattern ≠ [])
    {passed : Nat} (hpassed : passed ≤ front.length) :
    replaceList pattern replacement passed (front ++ c :: rest) =
      replaceList pattern replacement passed front ++
        c :: replaceList pattern replacement 0 rest := by
  induction front generalizing passed with
  | nil =>
    obtain rfl : passed = 0 := Nat.le_zero.mp hpassed
    have hnot : pattern.isPrefixOf (c :: rest) = false := by
      have hnil : pattern.isPrefixOf ([] ++ c :: rest) =
          pattern.isPrefixOf [] := isPrefixOf_append_cons hc
      cases pattern with
      | nil => exact absurd rfl hpattern
      | cons head tail => simpa using hnil
    simp [replaceList, hnot]
  | cons first others ih =>
    cases passed with
    | succ passed =>
      simp only [cons_append, replaceList]
      exact ih (Nat.le_of_succ_le_succ hpassed)
    | zero =>
      have hsame : pattern.isPrefixOf (first :: others ++ c :: rest) =
          pattern.isPrefixOf (first :: others) :=
        isPrefixOf_append_cons hc
      simp only [cons_append] at hsame
      simp only [cons_append, replaceList, hsame]
      by_cases hfound : pattern.isPrefixOf (first :: others) = true
      · have hlength : pattern.length ≤ (first :: others).length :=
          (List.isPrefixOf_iff_prefix.mp hfound).length_le
        rw [if_pos hfound, if_pos hfound, ih (by simp only [length_cons] at hlength; omega),
          append_assoc]
      · rw [if_neg hfound, if_neg hfound, ih (Nat.zero_le _), cons_append]

end Replace

end RustStr
