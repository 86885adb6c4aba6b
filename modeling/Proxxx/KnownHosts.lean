/-
The store of trusted host keys.  A store is what it has in memory and the file
it appends to; a run is a sequence of trust calls and reloads.  An endpoint is
flattened to one word of a line, so the answers are exact for the endpoints
whose words differ and for the lines that read back.
-/
import Mathlib
import Proxxx.Base64Text
import Proxxx.HexText
import Proxxx.RustLines

namespace Proxxx

open RustStr List

structure HostKey where
  keyType : String
  keyBlob : List UInt8
deriving Repr, DecidableEq

structure Endpoint where
  host : String
  port : UInt16
deriving Repr, DecidableEq

inductive HostMatch where
  | unknown
  | matched
  | mismatch
deriving Repr, DecidableEq

section HostSpec

def parsePort (text : String) : Option UInt16 :=
  (parseUnsigned 65536 text).map .ofNat

/-- An address in brackets, with or without a port. -/
def parseBracketed (spec : String) : Option Endpoint :=
  match spec.toList with
  | '[' :: rest =>
    let withPort : Option Endpoint := do
      let (ipv6, portText) ← splitOnce (String.ofList rest) "]:"
      let port ← parsePort portText
      return { host := ipv6, port }
    let bare : Option Endpoint :=
      if rest.getLast? = some ']' then
        some { host := String.ofList rest.dropLast, port := 22 }
      else none
    withPort.or bare
  | _ => none

def parseSshHostSpec (spec : String) : Endpoint :=
  let plain : Endpoint := { host := spec, port := 22 }
  let withPort : Option Endpoint := do
    let (host, portText) ← rsplitOnce spec ':'
    let port ← parsePort portText
    return { host, port }
  (parseBracketed spec).getD (if 1 < spec.toList.count ':' then plain else withPort.getD plain)

end HostSpec

/-- The digest of the fingerprints. -/
structure Sha256 where
  digest : List UInt8 → List UInt8

def HostKey.fingerprint (sha : Sha256) (key : HostKey) : String :=
  "sha256:" ++ HexText.encode (sha.digest key.keyBlob)

def hostId (endpoint : Endpoint) : String :=
  if endpoint.port = 22 then endpoint.host
  else endpoint.host ++ ":" ++ toString endpoint.port.toNat

section Store

/-- The entries, the newest first, and the file: `none` if there is none. -/
structure KnownHosts where
  entries : List (String × HostKey) := []
  file : Option String := none
deriving Repr, DecidableEq

/-- The entry of a line, if it has one. -/
def parseHostLine (line : String) : Option (String × HostKey) :=
  let trimmed := trim line
  if trimmed.isEmpty || startsWith trimmed "#" then none
  else
    match splitWhitespace trimmed with
    | host :: keyType :: b64 :: _ =>
      (Base64Text.decode b64).map fun keyBlob => (host, { keyType, keyBlob })
    | _ => none

def readEntries (text : String) : List (String × HostKey) :=
  (bufLines text).foldl (fun entries line => (parseHostLine line).toList ++ entries) []

def KnownHosts.load (file : Option String) : KnownHosts where
  entries := file.elim [] readEntries
  file := file

def KnownHosts.check (store : KnownHosts) (endpoint : Endpoint) (key : HostKey) : HostMatch :=
  match store.entries.lookup (hostId endpoint) with
  | none => .unknown
  | some known => if known = key then .matched else .mismatch

/-- How appending a line ends: written, or an error behind the characters that
still reached the file. -/
inductive AppendOutcome where
  | written
  | failed (reached : Nat) (error : String)
deriving Repr, DecidableEq

def hostLine (sha : Sha256) (endpoint : Endpoint) (key : HostKey) : String :=
  hostId endpoint ++ " " ++ key.keyType ++ " " ++
    Base64Text.encode key.keyBlob ++ " # " ++ key.fingerprint sha ++ "\n"

/-- The entry is in memory whatever becomes of the file. -/
def KnownHosts.trust (sha : Sha256) (store : KnownHosts) (endpoint : Endpoint)
    (key : HostKey) (outcome : AppendOutcome) : Except String Unit × KnownHosts :=
  let entries := (hostId endpoint, key) :: store.entries
  let line := hostLine sha endpoint key
  let before := store.file.getD ""
  match outcome with
  | .written => (.ok (), { entries, file := some (before ++ line) })
  | .failed reached error =>
    let part := String.ofList (line.toList.take reached)
    (.error error, { entries, file :=
      if reached = 0 then store.file else some (before ++ part) })

end Store

section Runs

inductive StoreEvent where
  | trust (endpoint : Endpoint) (key : HostKey) (outcome : AppendOutcome)
  | reload
deriving Repr, DecidableEq

def StoreEvent.apply (sha : Sha256) (store : KnownHosts) : StoreEvent → KnownHosts
  | .trust endpoint key outcome => (store.trust sha endpoint key outcome).2
  | .reload => .load store.file

/-- The store behind a run that began without a file. -/
def KnownHosts.after (sha : Sha256) (events : List StoreEvent) : KnownHosts :=
  events.foldl (StoreEvent.apply sha) (.load none)

/-- The calls of a run, in their order. -/
def trusted (events : List StoreEvent) : List (Endpoint × HostKey) :=
  events.filterMap fun
    | .trust endpoint key _ => some (endpoint, key)
    | .reload => none

def lastTrusted (events : List StoreEvent) (endpoint : Endpoint) : Option HostKey :=
  (trusted events).reverse.lookup endpoint

/-- The exact answer when `last` is the last key that was trusted. -/
def exactAnswer (last : Option HostKey) (key : HostKey) : HostMatch :=
  match last with
  | none => .unknown
  | some known => if known = key then .matched else .mismatch

end Runs

section Endpoints

variable {one two : Endpoint}

/-- The first endpoint, on the default port, has for its host what the second
one is flattened to. -/
structure Endpoint.Spells (one two : Endpoint) : Prop where
  port : one.port = 22
  other : two.port ≠ 22
  host : one.host = two.host ++ ":" ++ toString two.port.toNat

theorem hostId_default (hport : one.port = 22) : hostId one = one.host := if_pos hport

theorem hostId_other (hport : one.port ≠ 22) :
    hostId one = one.host ++ ":" ++ toString one.port.toNat :=
  if_neg hport

theorem colon_not_mem_port (port : Nat) : ':' ∉ (toString port).toList :=
  fun hcolon => absurd (isDigit_of_mem_toString hcolon) (by decide)

/-- The port is what follows the last colon. -/
theorem endpoint_eq_of_spelled (heq : one.host ++ ":" ++ toString one.port.toNat =
    two.host ++ ":" ++ toString two.port.toNat) : one = two := by
  have hchars : one.host.toList ++ ':' :: (toString one.port.toNat).toList =
      two.host.toList ++ ':' :: (toString two.port.toNat).toList := by
    simpa using congrArg String.toList heq
  have hsplit : rsplitOnceList ':'
      (one.host.toList ++ ':' :: (toString one.port.toNat).toList) = _ :=
    rsplitOnceList_append (colon_not_mem_port one.port.toNat)
  rw [hchars, rsplitOnceList_append (colon_not_mem_port two.port.toNat)] at hsplit
  obtain ⟨hhost, hport⟩ := Prod.mk.inj (Option.some.inj hsplit)
  have hnumber := Nat.repr_injective (String.toList_injective hport)
  cases one
  cases two
  simp_all [UInt16.toNat_inj]

/-- Two endpoints share their word exactly if they are the same or one spells
the other. -/
theorem hostId_eq_iff : hostId one = hostId two ↔ one = two ∨ one.Spells two ∨ two.Spells one := by
  constructor
  · intro heq
    by_cases hone : one.port = 22
    · by_cases htwo : two.port = 22
      · left
        rw [hostId_default hone, hostId_default htwo] at heq
        cases one
        cases two
        simp_all
      · rw [hostId_default hone, hostId_other htwo] at heq
        exact .inr (.inl ⟨hone, htwo, heq⟩)
    · by_cases htwo : two.port = 22
      · rw [hostId_other hone, hostId_default htwo] at heq
        exact .inr (.inr ⟨htwo, hone, heq.symm⟩)
      · rw [hostId_other hone, hostId_other htwo] at heq
        exact .inl (endpoint_eq_of_spelled heq)
  · rintro (rfl | hspells | hspells)
    · rfl
    · rw [hostId_default hspells.port, hostId_other hspells.other, hspells.host]
    · rw [hostId_default hspells.port, hostId_other hspells.other, hspells.host]

theorem Endpoint.Spells.ne (hspells : one.Spells two) : one ≠ two := by
  rintro rfl
  exact hspells.other hspells.port

/-- The word of an endpoint is one, and begins as its host does. -/
theorem isWord_hostId (hhost : IsWord one.host.toList) : IsWord (hostId one).toList := by
  by_cases hport : one.port = 22
  · rwa [hostId_default hport]
  · rw [hostId_other hport]
    constructor
    · simp
    · intro c hc
      simp only [String.toList_append, mem_append] at hc
      rcases hc with (hc | hc) | hc
      · exact hhost.2 c hc
      · rw [mem_singleton.mp hc]
        decide
      · exact isWhitespace_of_isDigit (isDigit_of_mem_toString hc)

theorem head_hostId (hhost : one.host ≠ "") :
    (hostId one).toList.head? = one.host.toList.head? := by
  obtain ⟨c, rest, hchars⟩ := exists_cons_of_ne_nil (show one.host.toList ≠ [] by simpa using hhost)
  unfold hostId
  split
  · rfl
  · simp [hchars]

end Endpoints

section Lines

variable {sha : Sha256} {endpoint : Endpoint} {key : HostKey}

/-- What a line needs so that a reload finds its entry: it is no comment, and
the type of the key is one word. -/
structure Readable (endpoint : Endpoint) (key : HostKey) : Prop where
  host : endpoint.host.toList.head? ≠ some '#'
  keyType : IsWord key.keyType.toList

theorem isWord_fingerprint (sha : Sha256) (key : HostKey) :
    IsWord (key.fingerprint sha).toList := by
  constructor
  · simp [HostKey.fingerprint]
  · intro c hc
    rw [HostKey.fingerprint, String.toList_append, mem_append] at hc
    rcases hc with hfront | hhex
    · have hall : ∀ c ∈ "sha256:".toList, isWhitespace c = false := by simp [isWhitespace]
      exact hall c hfront
    · have hall : ∀ c ∈ "0123456789abcdef".toList, isWhitespace c = false := by simp [isWhitespace]
      exact hall c (HexText.mem_encode hhex)

theorem isWord_encode (hblob : key.keyBlob ≠ []) :
    IsWord (Base64Text.encode key.keyBlob).toList := by
  constructor
  · simpa using Base64Text.encode_ne_empty hblob
  · intro c hc
    rcases Base64Text.mem_encode hc with ⟨v, hv, rfl⟩ | rfl
    · exact Base64Text.forall_byte
        (P := fun v => v < 64 → isWhitespace (Base64Text.letter v) = false)
        (by decide +kernel) v hv
    · decide

/-- A line without its line feed. -/
def lineChars (sha : Sha256) (endpoint : Endpoint) (key : HostKey) : List Char :=
  (hostId endpoint).toList ++ ' ' :: (key.keyType.toList ++ ' ' ::
    ((Base64Text.encode key.keyBlob).toList ++ ' ' :: '#' :: ' ' :: (key.fingerprint sha).toList))

theorem toList_hostLine : (hostLine sha endpoint key).toList =
      lineChars sha endpoint key ++ ['\n'] := by simp [hostLine, lineChars]

/-- Of an empty key the reader takes the mark of the comment for its text, and
the one character decodes to the empty key. -/
theorem wordsList_lineChars (hhost : IsWord endpoint.host.toList)
    (hreadable : Readable endpoint key) :
    ∃ b64 rest, wordsList (lineChars sha endpoint key) =
        (hostId endpoint).toList :: key.keyType.toList :: b64 :: rest ∧
      Base64Text.decode (String.ofList b64) = some key.keyBlob := by
  have hspace : isWhitespace ' ' = true := by decide
  have hmark : IsWord ['#'] := by decide
  have htail : wordsList ('#' :: ' ' :: (key.fingerprint sha).toList) =
      ['#'] :: wordsList (key.fingerprint sha).toList :=
    wordsList_append hmark hspace _
  rw [lineChars, wordsList_append (isWord_hostId hhost) hspace,
    wordsList_append hreadable.keyType hspace]
  by_cases hblob : key.keyBlob = []
  · refine ⟨['#'], wordsList (key.fingerprint sha).toList, ?_, ?_⟩
    · rw [hblob]
      change _ :: _ :: wordsList (' ' :: _) = _
      rw [wordsList_space hspace, htail]
    · rw [hblob]
      decide
  · refine ⟨(Base64Text.encode key.keyBlob).toList, _,
      by rw [wordsList_append (isWord_encode hblob) hspace], ?_⟩
    · rw [String.ofList_toList]
      exact Base64Text.decode_encode key.keyBlob

/-- A line begins and ends with a word. -/
theorem lineChars_eq : lineChars sha endpoint key = (hostId endpoint).toList ++
      (' ' :: (key.keyType.toList ++ ' ' ::
        ((Base64Text.encode key.keyBlob).toList ++ [' ', '#', ' ']))) ++
      (key.fingerprint sha).toList := by simp [lineChars]

theorem trimList_lineChars (hhost : IsWord endpoint.host.toList) :
    trimList (lineChars sha endpoint key) = lineChars sha endpoint key := by
  rw [lineChars_eq]
  exact trimList_words (isWord_hostId hhost) (isWord_fingerprint sha key)

theorem stripReturn_lineChars :
    stripReturn (lineChars sha endpoint key) = lineChars sha endpoint key := by
  have hword := isWord_fingerprint sha key
  rw [stripReturn, if_neg]
  intro hlast
  rw [lineChars_eq, List.getLast?_append_of_ne_nil _ hword.1] at hlast
  have hspace := hword.2 _ (List.mem_of_getLast? hlast)
  simp [isWhitespace] at hspace

/-- A readable line has the entry that was written. -/
theorem parseHostLine_lineChars (hhost : IsWord endpoint.host.toList)
    (hreadable : Readable endpoint key) :
    parseHostLine (String.ofList (lineChars sha endpoint key)) = some (hostId endpoint, key) := by
  have htrim : trim (String.ofList (lineChars sha endpoint key)) =
      String.ofList (lineChars sha endpoint key) := by
    rw [trim, String.toList_ofList, trimList_lineChars hhost]
  obtain ⟨c, rest, hchars⟩ := exists_cons_of_ne_nil (isWord_hostId hhost).1
  have hmark : c ≠ '#' := by
    have hhead := @head_hostId endpoint (by simpa using hhost.1)
    rw [hchars] at hhead
    intro heq
    exact hreadable.host (by rw [← hhead, heq]; rfl)
  obtain ⟨b64, others, hwords, hdecode⟩ := @wordsList_lineChars sha _ _ hhost hreadable
  unfold parseHostLine
  have hsplit : splitWhitespace (String.ofList (lineChars sha endpoint key)) =
      (hostId endpoint) :: key.keyType :: String.ofList b64 ::
        others.map String.ofList := by simp [splitWhitespace, hwords]
  dsimp only
  rw [htrim, hsplit, if_neg]
  dsimp only
  rw [hdecode]
  · rfl
  · simp [startsWith, lineChars, hchars, hmark.symm]

end Lines

section Recorded

variable {sha : Sha256} {store : KnownHosts}
variable {calls : List (Endpoint × HostKey)}
variable {endpoint : Endpoint} {key : HostKey}

/-- The entries of the calls, the newest first. -/
def listing (calls : List (Endpoint × HostKey)) : List (String × HostKey) :=
  (calls.map fun call => (hostId call.1, call.2)).reverse

/-- The lines of the calls, one behind the other. -/
def fileChars (sha : Sha256) (calls : List (Endpoint × HostKey)) : List Char :=
  calls.flatMap fun call => (hostLine sha call.1 call.2).toList

/-- A host the store is asked about, and a line that reads back. -/
def KeptLine (call : Endpoint × HostKey) : Prop :=
  IsWord call.1.host.toList ∧ Readable call.1 call.2

theorem newline_not_mem {word : List Char} (hword : IsWord word) : '\n' ∉ word := by
  intro hmem
  have hspace := hword.2 _ hmem
  simp [isWhitespace] at hspace

theorem newline_not_mem_lineChars (hkept : KeptLine (endpoint, key)) :
    '\n' ∉ lineChars sha endpoint key := by
  have hblob : '\n' ∉ (Base64Text.encode key.keyBlob).toList := by
    by_cases hempty : key.keyBlob = []
    · rw [hempty]
      decide
    · exact newline_not_mem (isWord_encode hempty)
  simp [lineChars, newline_not_mem (isWord_hostId hkept.1), newline_not_mem hkept.2.keyType, hblob,
    newline_not_mem (isWord_fingerprint sha key)]

theorem linesList_fileChars (hkept : ∀ call ∈ calls, KeptLine call) :
    linesList (fileChars sha calls) = calls.map fun call => lineChars sha call.1 call.2 := by
  induction calls with
  | nil => exact linesList_nil
  | cons call rest ih =>
    obtain ⟨hcall, hrest⟩ := forall_mem_cons.mp hkept
    rw [fileChars, flatMap_cons, toList_hostLine, append_assoc, singleton_append,
      linesList_append (newline_not_mem_lineChars hcall),
      stripReturn_lineChars, map_cons]
    exact congrArg (List.cons _) (ih hrest)

theorem readEntries_eq (text : String) :
    readEntries text = ((bufLines text).filterMap parseHostLine).reverse := by
  have hfold : ∀ (lines : List String) (entries : List (String × HostKey)),
      lines.foldl (fun entries line => (parseHostLine line).toList ++ entries) entries =
        (lines.filterMap parseHostLine).reverse ++ entries := by
    intro lines
    induction lines with
    | nil => exact fun _ => rfl
    | cons line rest ih =>
      intro entries
      cases hline : parseHostLine line <;> simp [ih, hline]
  exact (hfold _ []).trans (append_nil _)

/-- What is written reads back. -/
theorem readEntries_fileChars (hkept : ∀ call ∈ calls, KeptLine call) :
    readEntries (String.ofList (fileChars sha calls)) = listing calls := by
  have hread : ∀ call ∈ calls, parseHostLine (String.ofList (lineChars sha call.1 call.2)) =
      some (hostId call.1, call.2) :=
    fun call hcall => parseHostLine_lineChars (hkept call hcall).1 (hkept call hcall).2
  rw [readEntries_eq, bufLines, String.toList_ofList, linesList_fileChars hkept, map_map,
    filterMap_map, listing, ← filterMap_eq_map_iff_forall_eq_some.mpr hread]
  simp only [Function.comp_def]

/-- The store has the entries of the calls, in memory and in its file. -/
structure Recorded (sha : Sha256) (calls : List (Endpoint × HostKey))
    (store : KnownHosts) : Prop where
  entries : store.entries = listing calls
  text : (store.file.getD "").toList = fileChars sha calls

theorem recorded_load_none (sha : Sha256) : Recorded sha [] (.load none) where
  entries := rfl
  text := rfl

theorem Recorded.trust (hstore : Recorded sha calls store) (endpoint : Endpoint) (key : HostKey) :
    Recorded sha (calls ++ [(endpoint, key)]) (store.trust sha endpoint key .written).2 where
  entries := by simp [KnownHosts.trust, hstore.entries, listing]
  text := by simp [KnownHosts.trust, hstore.text, fileChars]

theorem Recorded.reload (hstore : Recorded sha calls store)
    (hkept : ∀ call ∈ calls, KeptLine call) :
    Recorded sha calls (.load store.file) where
  entries := by
    have hread : store.file.elim [] readEntries = readEntries (store.file.getD "") := by
      cases store.file with
      | none => decide
      | some text => rfl
    rw [KnownHosts.load, hread, ← readEntries_fileChars hkept, ← hstore.text, String.ofList_toList]
  text := hstore.text

/-- The calls of a run returned without an error, and their lines read back. -/
def KeptRun (events : List StoreEvent) : Prop :=
  ∀ endpoint key outcome, .trust endpoint key outcome ∈ events →
    outcome = .written ∧ KeptLine (endpoint, key)

theorem Recorded.foldl {events : List StoreEvent}
    (hstore : Recorded sha calls store) (hcalls : ∀ call ∈ calls, KeptLine call)
    (hevents : KeptRun events) :
    Recorded sha (calls ++ trusted events) (events.foldl (StoreEvent.apply sha) store) := by
  induction events generalizing calls store with
  | nil => simpa [trusted] using hstore
  | cons event rest ih =>
    have hrest : KeptRun rest := fun endpoint key outcome hmem =>
      hevents endpoint key outcome (mem_cons_of_mem event hmem)
    cases event with
    | trust endpoint key outcome =>
      obtain ⟨rfl, hkept⟩ := hevents endpoint key outcome mem_cons_self
      have hcalls' : ∀ call ∈ calls ++ [(endpoint, key)], KeptLine call :=
        forall_mem_append.mpr ⟨hcalls, by simpa using hkept⟩
      have hnext := ih (hstore.trust endpoint key) hcalls' hrest
      simpa [trusted, StoreEvent.apply] using hnext
    | reload => exact ih (hstore.reload hcalls) hcalls hrest

theorem recorded_after {events : List StoreEvent} (hevents : KeptRun events) :
    Recorded sha (trusted events) (.after sha events) :=
  (recorded_load_none sha).foldl (by simp) hevents

end Recorded

section Exact

variable {sha : Sha256} {store : KnownHosts}
variable {calls : List (Endpoint × HostKey)}
variable {endpoint : Endpoint} {key : HostKey}

/-- No other endpoint of the calls shares the word of the asked one. -/
theorem lookup_listing (hdistinct : ∀ call ∈ calls, hostId endpoint = hostId call.1 →
      endpoint = call.1) :
    (listing calls).lookup (hostId endpoint) = calls.reverse.lookup endpoint := by
  rw [listing, ← map_reverse]
  replace hdistinct : ∀ call ∈ calls.reverse,
      hostId endpoint = hostId call.1 → endpoint = call.1 := by simpa using hdistinct
  generalize calls.reverse = newest at hdistinct
  induction newest with
  | nil => rfl
  | cons call rest ih =>
    obtain ⟨other, known⟩ := call
    obtain ⟨hcall, hrest⟩ := forall_mem_cons.mp hdistinct
    rw [map_cons, List.lookup_cons, List.lookup_cons, ih hrest]
    by_cases hsame : endpoint = other
    · simp [hsame]
    · have hword : hostId endpoint ≠ hostId other := fun heq => hsame (hcall heq)
      rw [beq_false_of_ne hsame, beq_false_of_ne hword]

/-- The answers of a store that has the calls are those of the last call. -/
theorem Recorded.check (hstore : Recorded sha calls store)
    (hdistinct : ∀ call ∈ calls, hostId endpoint = hostId call.1 →
      endpoint = call.1) (key : HostKey) :
    store.check endpoint key = exactAnswer (calls.reverse.lookup endpoint) key := by
  unfold KnownHosts.check exactAnswer
  rw [hstore.entries, lookup_listing hdistinct]

/-- An entry that was read is no comment, and its key has a type. -/
theorem parseHostLine_some {line host : String} (hline : parseHostLine line = some (host, key)) :
    host.toList.head? ≠ some '#' ∧ IsWord key.keyType.toList := by
  unfold parseHostLine at hline
  dsimp only at hline
  split at hline
  · cases hline
  · next hcomment =>
      split at hline
      · next first second third others hwords =>
          obtain ⟨blob, -, heq⟩ := Option.map_eq_some_iff.mp hline
          obtain ⟨rfl, rfl⟩ := Prod.mk.inj heq
          rw [splitWhitespace, map_eq_cons_iff] at hwords
          obtain ⟨host, tail, hlist, rfl, htail⟩ := hwords
          rw [map_eq_cons_iff] at htail
          obtain ⟨keyType, rest, rfl, rfl, -⟩ := htail
          have htype : IsWord keyType :=
            @isWord_of_mem_wordsList _ (trim line).toList (by simp [hlist])
          refine ⟨?_, by simpa using htype⟩
          rcases htrim : (trim line).toList with _ | ⟨c, chars⟩
          · rw [htrim] at hlist
            cases hlist
          · have hspace : isWhitespace c = false := by
              rw [trim, String.toList_ofList] at htrim
              exact head_trimList htrim
            rw [htrim] at hlist
            rw [String.toList_ofList, head_wordsList hspace hlist]
            intro hmark
            apply hcomment
            simp [startsWith, htrim, Option.some.inj hmark]
      · cases hline

theorem mem_readEntries {text host : String} (hentry : (host, key) ∈ readEntries text) :
    host.toList.head? ≠ some '#' ∧ IsWord key.keyType.toList := by
  rw [readEntries_eq, mem_reverse, mem_filterMap] at hentry
  obtain ⟨line, -, hline⟩ := hentry
  exact parseHostLine_some hline

theorem mem_load {file : Option String} {host : String}
    (hentry : (host, key) ∈ (KnownHosts.load file).entries) :
    host.toList.head? ≠ some '#' ∧ IsWord key.keyType.toList := by
  cases file with
  | none => cases hentry
  | some text => exact mem_readEntries hentry

theorem after_reload (events : List StoreEvent) : KnownHosts.after sha (events ++ [.reload]) =
    .load (KnownHosts.after sha events).file := by
  rw [KnownHosts.after, foldl_append]
  rfl

/-- The answers are exact in every run of successful calls on the endpoints
and keys, with reloads in between. -/
def ExactFor (sha : Sha256) (endpoints : Set Endpoint) (keys : Set HostKey) : Prop :=
  ∀ events, (∀ endpoint key outcome, .trust endpoint key outcome ∈ events →
      endpoint ∈ endpoints ∧ key ∈ keys ∧ outcome = .written) →
    ∀ endpoint ∈ endpoints, ∀ key, (KnownHosts.after sha events).check endpoint key =
        exactAnswer (lastTrusted events endpoint) key

theorem event_of_mem_trusted {events : List StoreEvent}
    {call : Endpoint × HostKey} (hcall : call ∈ trusted events) :
    ∃ outcome, .trust call.1 call.2 outcome ∈ events := by
  obtain ⟨event, hevent, heq⟩ := mem_filterMap.mp hcall
  cases event with
  | trust endpoint key outcome =>
    cases heq
    exact ⟨outcome, hevent⟩
  | reload => cases heq

variable {endpoints : Set Endpoint} {keys : Set HostKey}

theorem exactFor_of_distinct (hhosts : ∀ endpoint ∈ endpoints, IsWord endpoint.host.toList)
    (hreadable : ∀ endpoint ∈ endpoints, ∀ key ∈ keys, Readable endpoint key)
    (hdistinct : ∀ one ∈ endpoints, ∀ two ∈ endpoints, ¬one.Spells two) :
    ExactFor sha endpoints keys := by
  intro events hevents endpoint hendpoint key
  have hrun : KeptRun events := by
    intro endpoint key outcome hmem
    obtain ⟨hin, hkey, hwritten⟩ := hevents endpoint key outcome hmem
    exact ⟨hwritten, hhosts endpoint hin, hreadable endpoint hin key hkey⟩
  apply (recorded_after hrun).check
  intro call hcall hword
  obtain ⟨outcome, hmem⟩ := event_of_mem_trusted hcall
  have hin := (hevents call.1 call.2 outcome hmem).1
  rcases hostId_eq_iff.mp hword with heq | hspells | hspells
  · exact heq
  · exact absurd hspells (hdistinct endpoint hendpoint call.1 hin)
  · exact absurd hspells (hdistinct call.1 hin endpoint hendpoint)

theorem ExactFor.readable (hexact : ExactFor sha endpoints keys)
    (hhost : endpoint.host ≠ "") (hendpoint : endpoint ∈ endpoints)
    (hkey : key ∈ keys) : Readable endpoint key := by
  have hanswer := hexact ([.trust endpoint key .written] ++ [.reload])
    (by simp_all) endpoint hendpoint key
  have hlast : lastTrusted ([.trust endpoint key .written] ++ [.reload]) endpoint = some key := by
    simp [lastTrusted, trusted]
  rw [hlast, exactAnswer, if_pos rfl, KnownHosts.check, after_reload] at hanswer
  split at hanswer
  · cases hanswer
  · next known hknown =>
      split at hanswer
      · next heq =>
          subst heq
          obtain ⟨newer, older, hentries, -⟩ := lookup_eq_some_iff.mp hknown
          have hmem : (hostId endpoint, known) ∈ newer ++ (hostId endpoint, known) :: older := by
            simp
          rw [← hentries] at hmem
          have hentry := mem_load hmem
          rw [head_hostId hhost] at hentry
          exact ⟨hentry.1, hentry.2⟩
      · cases hanswer

theorem ExactFor.not_spells (hexact : ExactFor sha endpoints keys)
    {one two : Endpoint} (hone : one ∈ endpoints) (htwo : two ∈ endpoints)
    (hkey : key ∈ keys) : ¬one.Spells two := by
  intro hspells
  have hanswer := hexact [.trust one key .written] (by simp_all) two htwo key
  have hword : hostId one = hostId two := hostId_eq_iff.mpr (.inr (.inl hspells))
  have hnone : lastTrusted [.trust one key .written] two = none := by
    simp [lastTrusted, trusted, hspells.ne.symm]
  rw [hnone] at hanswer
  simp [KnownHosts.check, KnownHosts.after, StoreEvent.apply,
    KnownHosts.trust, hword, exactAnswer] at hanswer

/-- Over any endpoints and keys, the answers are exact in every run exactly if
no host begins a comment, every key type is one word, and no endpoint on the
default port spells another one. -/
theorem known_hosts_exact_iff (sha : Sha256)
    (hhosts : ∀ endpoint ∈ endpoints, IsWord endpoint.host.toList)
    (hkeys : keys.Nonempty) :
    ExactFor sha endpoints keys ↔ (∀ endpoint ∈ endpoints, ∀ key ∈ keys, Readable endpoint key) ∧
      (∀ one ∈ endpoints, ∀ two ∈ endpoints, ¬one.Spells two) := by
  constructor
  · intro hexact
    obtain ⟨key, hkey⟩ := hkeys
    constructor
    · intro endpoint hendpoint key hkey
      have hhost : endpoint.host ≠ "" := by simpa using (hhosts endpoint hendpoint).1
      exact hexact.readable hhost hendpoint hkey
    · intro one hone two htwo
      exact hexact.not_spells hone htwo hkey
  · rintro ⟨hreadable, hdistinct⟩
    exact exactFor_of_distinct hhosts hreadable hdistinct

end Exact

namespace KnownHostsWitness

def sha : Sha256 where
  digest blob := blob

def key : HostKey where
  keyType := "ssh-ed25519"
  keyBlob := [1, 2, 3, 4]

def bracketed : Endpoint where
  host := "fe80::1"
  port := 2222

def plain : Endpoint where
  host := "fe80::1:2222"
  port := 22

def marked : Endpoint where
  host := "#pve"
  port := 22

/-- Two hosts that are asked about on different ports. -/
theorem known_hosts_exact_pair :
    ExactFor sha {bracketed, { host := "pve1", port := 22 }} {key} := by
  refine (known_hosts_exact_iff sha ?_ (Set.singleton_nonempty key)).mpr ⟨?_, ?_⟩
  · rintro endpoint (rfl | rfl) <;> decide +kernel
  · rintro endpoint (rfl | rfl) known rfl
    · exact ⟨by decide +kernel, by decide +kernel⟩
    · exact ⟨by decide +kernel, by decide +kernel⟩
  · rintro one (rfl | rfl) two (rfl | rfl) hspells
    · exact absurd hspells.port (by decide)
    · exact absurd hspells.port (by decide)
    · exact absurd hspells.host (by decide +kernel)
    · exact absurd rfl hspells.other

/-- Trusting an address on one port answers for another address, and a host
that begins like a comment is forgotten by a reload. -/
theorem endpoints_confused : parseSshHostSpec "[fe80::1]:2222" = bracketed ∧
    parseSshHostSpec "fe80::1:2222" = plain ∧
    lastTrusted [.trust bracketed key .written] plain = none ∧
    (KnownHosts.after sha [.trust bracketed key .written]).check plain key = .matched ∧
    parseSshHostSpec "#pve" = marked ∧
    lastTrusted [.trust marked key .written, .reload] marked = some key ∧
    (KnownHosts.after sha [.trust marked key .written, .reload]).check marked key = .unknown := by
  refine ⟨?_, ?_, ?_, ?_, ?_, ?_, ?_⟩ <;> decide +kernel

end KnownHostsWitness

end Proxxx
