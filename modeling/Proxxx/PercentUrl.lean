/-
Percent-encoded URLs: bytes that are kept or written as escapes, the path and
the query of a URL as a parser of the URL standard takes them apart, and what
holds of texts that were encoded.
-/
import Proxxx.Base64Text
import Proxxx.HexText
import Proxxx.RustLines

namespace PercentUrl

open List

section Escapes

/-- A digit of an escape. -/
def upperDigit (value : Nat) : Char :=
  (HexText.digit value).toUpper

/-- A byte that is kept stands for itself, any other is an escape. -/
def encodeByte (keep : UInt8 → Bool) (byte : UInt8) : List Char :=
  if keep byte then [Char.ofNat byte.toNat]
  else ['%', upperDigit (byte.toNat / 16), upperDigit (byte.toNat % 16)]

def encode (keep : UInt8 → Bool) (bytes : List UInt8) : List Char :=
  bytes.flatMap (encodeByte keep)

/-- Escapes are bytes, other characters their own encoding. -/
def decode : List Char → List UInt8
  | [] => []
  | '%' :: high :: low :: rest =>
    match HexText.digitValue high, HexText.digitValue low with
    | some h, some l => UInt8.ofNat (h * 16 + l) :: decode rest
    | _, _ => String.utf8EncodeChar '%' ++ decode (high :: low :: rest)
  | c :: rest => String.utf8EncodeChar c ++ decode rest

/-- The bytes that are kept are characters of their own, and not the one that
begins an escape. -/
def ReadableBytes (keep : UInt8 → Bool) : Prop :=
  ∀ byte, keep byte = true → byte.toNat < 128 ∧ byte ≠ 37

variable {keep : UInt8 → Bool} {byte : UInt8} {rest : List Char}

theorem digitValue_upperDigit {value : Nat} (hvalue : value < 16) :
    HexText.digitValue (upperDigit value) = some value := by
  have hall : ∀ value : Fin 16, HexText.digitValue (upperDigit value) = some value.val := by decide
  exact hall ⟨value, hvalue⟩

theorem decode_cons_of_ne {c : Char} (hc : c ≠ '%') :
    decode (c :: rest) = String.utf8EncodeChar c ++ decode rest := by
  rw [decode]
  intro high low tail hpercent
  exact absurd hpercent hc

theorem utf8EncodeChar_ofNat (hbyte : byte.toNat < 128) :
    String.utf8EncodeChar (Char.ofNat byte.toNat) = [byte] :=
  Base64Text.forall_byte (P := fun byte => byte.toNat < 128 →
      String.utf8EncodeChar (Char.ofNat byte.toNat) = [byte])
    (by decide +kernel) byte hbyte

/-- An encoded byte is read back, whatever follows. -/
theorem decode_encodeByte (hkeep : ReadableBytes keep) :
    decode (encodeByte keep byte ++ rest) = byte :: decode rest := by
  cases hkept : keep byte with
  | true =>
    obtain ⟨hascii, hpercent⟩ := hkeep byte hkept
    have hne : Char.ofNat byte.toNat ≠ '%' := Base64Text.forall_byte
        (P := fun byte => byte ≠ 37 → Char.ofNat byte.toNat ≠ '%')
        (by decide +kernel) byte hpercent
    rw [encodeByte, if_pos hkept, singleton_append,
      decode_cons_of_ne hne, utf8EncodeChar_ofNat hascii]
    rfl
  | false =>
    have hhigh : byte.toNat / 16 < 16 := by
      have := byte.toNat_lt
      omega
    have hlow : byte.toNat % 16 < 16 := Nat.mod_lt _ (by decide)
    have hvalue : byte.toNat / 16 * 16 + byte.toNat % 16 = byte.toNat := by omega
    simp only [encodeByte, hkept, Bool.false_eq_true, if_false, cons_append, nil_append, decode,
      digitValue_upperDigit hhigh, digitValue_upperDigit hlow, hvalue,
      UInt8.ofNat_toNat]

theorem decode_encode (hkeep : ReadableBytes keep) (bytes : List UInt8) :
    decode (encode keep bytes) = bytes := by
  induction bytes with
  | nil => rfl
  | cons head tail ih =>
    have hcons : encode keep (head :: tail) =
        encodeByte keep head ++ encode keep tail := flatMap_cons
    rw [hcons, decode_encodeByte hkeep, ih]

/-- A text without escapes stands for its own bytes. -/
theorem decode_plain {text : List Char} (hplain : ∀ c ∈ text, c ≠ '%') :
    decode text = text.flatMap String.utf8EncodeChar := by
  induction text with
  | nil => rfl
  | cons head tail ih =>
    obtain ⟨hhead, htail⟩ := forall_mem_cons.mp hplain
    rw [decode_cons_of_ne hhead, ih htail, flatMap_cons]

end Escapes

section Bytes

theorem toList_loop (bytes : ByteArray) (i : Nat) (done : List UInt8) :
    ByteArray.toList.loop bytes i done = done.reverse ++ bytes.data.toList.drop i := by
  fun_induction ByteArray.toList.loop bytes i done with
  | case1 i done hlt ih =>
    have hget : bytes.get! i = bytes.data[i] := by
      simp [ByteArray.get!, getElem!_pos bytes.data i hlt]
    have hdrop : bytes.data.toList.drop i = bytes.data[i] :: bytes.data.toList.drop (i + 1) := by
      rw [drop_eq_getElem_cons (by simpa using hlt)]
      simp
    rw [ih, hdrop, hget]
    simp
  | case2 i done hge =>
    have hlength : bytes.data.toList.length ≤ i := by simpa using Nat.le_of_not_lt hge
    rw [drop_eq_nil_of_le hlength, append_nil]

/-- The bytes of a text are those of its characters. -/
theorem toList_toUTF8 (text : String) :
    text.toUTF8.toList = text.toList.flatMap String.utf8EncodeChar := by
  have hbytes : text.toUTF8 = (text.toList.flatMap String.utf8EncodeChar).toByteArray :=
    String.utf8Encode_toList.symm
  rw [ByteArray.toList, toList_loop, hbytes, data_toByteArray]
  simp

end Bytes

section Target

/-- The segments of a path, in the ways the standard spells the relative
ones. -/
def singleDots : List (List Char) :=
  [".".toList, "%2e".toList, "%2E".toList]

def doubleDots : List (List Char) :=
  ["..".toList, ".%2e".toList, ".%2E".toList, "%2e.".toList, "%2E.".toList,
    "%2e%2e".toList, "%2e%2E".toList, "%2E%2e".toList, "%2E%2E".toList]

/-- Resolve the relative segments; one at the end leaves an empty segment. -/
def removeDots : List (List Char) → List (List Char) → List (List Char)
  | done, [] => done
  | done, [last] =>
    if last ∈ doubleDots then done.dropLast ++ [[]]
    else if last ∈ singleDots then done ++ [[]]
    else done ++ [last]
  | done, segment :: rest =>
    if segment ∈ doubleDots then removeDots done.dropLast rest
    else if segment ∈ singleDots then removeDots done rest
    else removeDots (done ++ [segment]) rest

/-- Both slashes separate. -/
def isSlash (c : Char) : Bool :=
  c == '/' || c == '\\'

/-- A fragment is cut off. -/
def beforeFragment (text : List Char) : List Char :=
  text.takeWhile (· ≠ '#')

def pathSegments (path : List Char) : List (List Char) :=
  match path with
  | [] => []
  | _ :: rest => removeDots [] (rest.splitOnP isSlash)

/-- A name and a value with the first equals sign between them; a plus is a
blank. -/
def readPair (pair : List Char) : List UInt8 × List UInt8 :=
  let blank (text : List Char) : List Char :=
    text.map fun c => if c = '+' then ' ' else c
  (decode (blank (pair.takeWhile (· ≠ '='))), decode (blank ((pair.dropWhile (· ≠ '=')).drop 1)))

def queryPairs (query : List Char) : List (List UInt8 × List UInt8) :=
  ((query.splitOn '&').filter (· ≠ [])).map readPair

/-- The segments and the query a server sees. -/
structure Target where
  segments : List (List UInt8)
  query : List (List UInt8 × List UInt8)
deriving Repr, DecidableEq

/-- A URL from its first slash on.  Tabs and line breaks are dropped before
anything else. -/
def parseTarget (text : List Char) : Target :=
  let text := beforeFragment
    (text.filter fun c => c ≠ '\t' ∧ c ≠ '\n' ∧ c ≠ '\r')
  { segments := (pathSegments (text.takeWhile (· ≠ '?'))).map decode
    query := queryPairs ((text.dropWhile (· ≠ '?')).drop 1) }

/-- Characters that take a URL apart before its escapes are read. -/
def breaksUrl (c : Char) : Bool :=
  c == '\t' || c == '\n' || c == '\r' || c == '#' || c == '?' || isSlash c

variable {keep : UInt8 → Bool} {bytes : List UInt8} {c : Char} {segments : List (List Char)}

theorem removeDots_of_forall {done : List (List Char)}
    (hplain : ∀ segment ∈ segments, segment ∉ doubleDots ∧ segment ∉ singleDots) :
    removeDots done segments = done ++ segments := by
  induction segments generalizing done with
  | nil => simp [removeDots]
  | cons head tail ih =>
    obtain ⟨⟨hdouble, hsingle⟩, htail⟩ := forall_mem_cons.mp hplain
    cases tail with
    | nil => simp [removeDots, hdouble, hsingle]
    | cons next rest =>
      rw [removeDots, if_neg hdouble, if_neg hsingle, ih htail]
      · simp
      · simp

/-- A relative segment is decoded to dots, however it is spelled. -/
theorem decode_of_dots {segment : List Char} : (segment ∈ singleDots → decode segment = [46]) ∧
    (segment ∈ doubleDots → decode segment = [46, 46]) := by
  have hsingle : ∀ segment ∈ singleDots, decode segment = [46] := by decide +kernel
  have hdouble : ∀ segment ∈ doubleDots, decode segment = [46, 46] := by decide +kernel
  exact ⟨hsingle segment, hdouble segment⟩

/-- Where dots are kept, an encoded text is a relative segment only if it is
spelled in dots. -/
theorem eq_dots_of_mem (hkeep : ReadableBytes keep) (hdot : keep 46 = true)
    (hdots : encode keep bytes ∈ doubleDots ∨ encode keep bytes ∈ singleDots) :
    encode keep bytes = ['.'] ∨ encode keep bytes = ['.', '.'] := by
  have hencoded : encodeByte keep 46 = ['.'] := by
    rw [encodeByte, if_pos hdot]
    rfl
  rcases hdots with hdouble | hsingle
  · have hbytes := decode_of_dots.2 hdouble
    rw [decode_encode hkeep] at hbytes
    subst hbytes
    exact .inr (by simp [encode, hencoded])
  · have hbytes := decode_of_dots.1 hsingle
    rw [decode_encode hkeep] at hbytes
    subst hbytes
    exact .inl (by simp [encode, hencoded])

/-- The characters of an encoded text. -/
theorem mem_encode (hc : c ∈ encode keep bytes) :
    (∃ byte, keep byte = true ∧ c = Char.ofNat byte.toNat) ∨ c ∈ "%0123456789ABCDEF".toList := by
  obtain ⟨byte, -, hmem⟩ := mem_flatMap.mp hc
  have hdigit : ∀ value : Fin 16, upperDigit value ∈ "%0123456789ABCDEF".toList := by decide
  cases hkept : keep byte with
  | true =>
    rw [encodeByte, if_pos hkept, mem_singleton] at hmem
    exact .inl ⟨byte, hkept, hmem⟩
  | false =>
    have hbyte := byte.toNat_lt
    simp only [encodeByte, hkept, Bool.false_eq_true, if_false,
      mem_cons, not_mem_nil, or_false] at hmem
    rcases hmem with rfl | rfl | rfl
    · exact .inr (by decide)
    · exact .inr (hdigit ⟨byte.toNat / 16, by omega⟩)
    · exact .inr (hdigit ⟨byte.toNat % 16, by omega⟩)

/-- Segments behind slashes. -/
def joinSegments (segments : List (List Char)) : List Char :=
  segments.flatMap ('/' :: ·)

/-- Segments without separators are found again. -/
theorem splitOnP_joinSegments {separates : Char → Bool}
    (hslash : separates '/' = true) {first : List Char} (hfirst : ∀ c ∈ first, separates c = false)
    (hsegments : ∀ segment ∈ segments, ∀ c ∈ segment, separates c = false) :
    (first ++ joinSegments segments).splitOnP separates = first :: segments := by
  induction segments generalizing first with
  | nil =>
    rw [joinSegments, flatMap_nil, append_nil]
    exact splitOnP_eq_singleton hfirst
  | cons head tail ih =>
    obtain ⟨hhead, htail⟩ := forall_mem_cons.mp hsegments
    have hcons : joinSegments (head :: tail) = '/' :: (head ++ joinSegments tail) := by
      simp [joinSegments]
    rw [hcons, splitOnP_append_cons_of_forall_mem hfirst '/' hslash, ih hhead htail]

theorem pathSegments_joinSegments (hslash : ∀ segment ∈ segments, ∀ c ∈ segment, isSlash c = false)
    (hplain : ∀ segment ∈ segments, segment ∉ doubleDots ∧ segment ∉ singleDots) :
    pathSegments (joinSegments segments) = segments := by
  cases segments with
  | nil => rfl
  | cons head tail =>
    obtain ⟨hhead, htail⟩ := forall_mem_cons.mp hslash
    have hcons : joinSegments (head :: tail) = '/' :: (head ++ joinSegments tail) := by
      simp [joinSegments]
    rw [hcons, pathSegments, splitOnP_joinSegments rfl hhead htail,
      removeDots_of_forall hplain, nil_append]

/-- The text of a query, if there is one. -/
def queryText (query : List Char) : List Char :=
  if query = [] then [] else '?' :: query

theorem ne_of_breaksUrl (hc : breaksUrl c = false) :
    (c ≠ '\t' ∧ c ≠ '\n' ∧ c ≠ '\r') ∧ c ≠ '#' ∧ c ≠ '?' ∧ isSlash c = false := by
  simp only [breaksUrl, Bool.or_eq_false_iff, beq_eq_false_iff_ne] at hc
  tauto

/-- The first question mark begins the query. -/
theorem split_query {path : List Char} (query : List Char) (hpath : ∀ c ∈ path, c ≠ '?') :
    (path ++ queryText query).takeWhile (· ≠ '?') = path ∧
      ((path ++ queryText query).dropWhile (· ≠ '?')).drop 1 = query := by
  have hall : ∀ c ∈ path, decide (c ≠ '?') = true := by simpa using hpath
  rw [takeWhile_append_of_pos hall, dropWhile_append_of_pos hall]
  by_cases hquery : query = [] <;> simp [queryText, hquery]

/-- A path of plain segments and a query are taken apart as they were put
together. -/
theorem parseTarget_join {query : List Char}
    (hsegments : ∀ segment ∈ segments, ∀ c ∈ segment, breaksUrl c = false)
    (hplain : ∀ segment ∈ segments, segment ∉ doubleDots ∧ segment ∉ singleDots)
    (hquery : ∀ c ∈ query, breaksUrl c = false) :
    parseTarget (joinSegments segments ++ queryText query) =
      { segments := segments.map decode, query := queryPairs query } := by
  have hpath : ∀ c ∈ joinSegments segments, c = '/' ∨ breaksUrl c = false := by
    intro c hc
    obtain ⟨segment, hsegment, hmem⟩ := mem_flatMap.mp hc
    rcases mem_cons.mp hmem with rfl | hin
    · exact .inl rfl
    · exact .inr (hsegments segment hsegment c hin)
  have hall : ∀ c ∈ joinSegments segments ++ queryText query,
      c = '/' ∨ c = '?' ∨ breaksUrl c = false := by
    unfold queryText
    grind
  have hchars : ∀ c ∈ joinSegments segments ++ queryText query,
      (c ≠ '\t' ∧ c ≠ '\n' ∧ c ≠ '\r') ∧ c ≠ '#' := by
    intro c hc
    rcases hall c hc with rfl | rfl | hplain
    · decide
    · decide
    · exact ⟨(ne_of_breaksUrl hplain).1, (ne_of_breaksUrl hplain).2.1⟩
  have hclean : (joinSegments segments ++ queryText query).filter
      (fun c => c ≠ '\t' ∧ c ≠ '\n' ∧ c ≠ '\r') = joinSegments segments ++ queryText query :=
    filter_eq_self.mpr fun c hc => decide_eq_true (hchars c hc).1
  have hwhole : beforeFragment (joinSegments segments ++ queryText query) =
      joinSegments segments ++ queryText query :=
    takeWhile_eq_self_iff.mpr fun c hc => decide_eq_true (hchars c hc).2
  have hmark : ∀ c ∈ joinSegments segments, c ≠ '?' := by
    intro c hc
    rcases hpath c hc with rfl | hplain
    · decide
    · exact (ne_of_breaksUrl hplain).2.2.1
  obtain ⟨htake, hdrop⟩ := split_query query hmark
  have hslash : ∀ segment ∈ segments, ∀ c ∈ segment, isSlash c = false :=
    fun segment hsegment c hc => (ne_of_breaksUrl (hsegments segment hsegment c hc)).2.2.2
  simp only [parseTarget, hclean, hwhole, htake, hdrop, pathSegments_joinSegments hslash hplain]

/-- A name and a value that are put together are read apart. -/
theorem readPair_join {name value : List Char}
    (hname : ∀ c ∈ name, c ≠ '=' ∧ c ≠ '+') (hvalue : ∀ c ∈ value, c ≠ '+') :
    readPair (name ++ '=' :: value) = (decode name, decode value) := by
  have hblank {text : List Char} (htext : ∀ c ∈ text, c ≠ '+') :
      (text.map fun c => if c = '+' then ' ' else c) = text := by
    rw [map_congr_left fun c hc => if_neg (htext c hc)]
    exact map_id' text
  have hall : ∀ c ∈ name, decide (c ≠ '=') = true := by
    intro c hc
    exact decide_eq_true (hname c hc).1
  rw [readPair, takeWhile_append_of_pos hall, dropWhile_append_of_pos hall]
  simp [hblank hvalue, hblank fun c hc => (hname c hc).2]

/-- The pairs of a query are found again. -/
theorem queryPairs_join {pairs : List (List Char × List Char)} (hpairs : ∀ pair ∈ pairs,
      (∀ c ∈ pair.1, c ≠ '&' ∧ c ≠ '=' ∧ c ≠ '+') ∧ ∀ c ∈ pair.2, c ≠ '&' ∧ c ≠ '+') :
    queryPairs (['&'].intercalate (pairs.map fun pair => pair.1 ++ '=' :: pair.2)) =
      pairs.map fun pair => (decode pair.1, decode pair.2) := by
  by_cases hnil : pairs = []
  · subst hnil
    rfl
  let texts := pairs.map fun pair => pair.1 ++ '=' :: pair.2
  have hsplit : (['&'].intercalate texts).splitOn '&' = texts := by
    apply splitOn_intercalate
    · intro text htext hamp
      obtain ⟨pair, hpair, rfl⟩ := mem_map.mp htext
      obtain ⟨hname, hvalue⟩ := hpairs pair hpair
      rcases mem_append.mp hamp with hin | hin
      · exact (hname '&' hin).1 rfl
      · rcases mem_cons.mp hin with heq | hin
        · cases heq
        · exact (hvalue '&' hin).1 rfl
    · simpa [texts] using hnil
  have hsome : texts.filter (· ≠ []) = texts := by
    rw [filter_eq_self, forall_mem_map]
    simp
  rw [queryPairs, hsplit, hsome, map_map]
  apply map_congr_left
  intro pair hpair
  obtain ⟨hname, hvalue⟩ := hpairs pair hpair
  exact readPair_join (fun c hc => (hname c hc).2) fun c hc => (hvalue c hc).2

end Target

end PercentUrl
