/-
The paths of requests.  A path is written from a template whose holes are whole
segments and query values; each value is percent-encoded, and the transport
refuses a path with a relative segment.  What is sent is then taken apart by a
URL parser into the template's segments, with each value in its own place.
-/
import Proxxx.ApiGateway
import Proxxx.PercentUrl

namespace Proxxx

open PercentUrl List RustStr

section Encoders

/-- Bytes a query value may hold as they are. -/
def queryByte (c : UInt8) : Bool :=
  let char := Char.ofNat c.toNat
  char.isAlphanum || "-_.~".toList.contains char

def urlenc (text : String) : String :=
  String.join (text.toUTF8.toList.map fun c =>
    if queryByte c then (Char.ofNat c.toNat).toString
    else "%" ++ (HexText.encode [c]).toUpper)

/-- The parameters of a query behind a path. -/
def appendQuery (path : String) (query : List (String × String)) : String :=
  if query = [] then path
  else path ++ "?" ++ RustStr.join (query.map fun param => param.1 ++ "=" ++ urlenc param.2) '&'

theorem toList_escape (c : UInt8) : ("%" ++ (HexText.encode [c]).toUpper).toList =
    ['%', upperDigit (c.toNat / 16), upperDigit (c.toNat % 16)] := by
  rw [String.toList_append, String.toUpper, String.toList_map, HexText.encode]
  simp only [String.toList_ofList]
  rfl

/-- Both encoders write byte by byte. -/
theorem toList_encoded (keep : UInt8 → Bool) (bytes : List UInt8) : (String.join (bytes.map fun c =>
    if keep c then (Char.ofNat c.toNat).toString
    else "%" ++ (HexText.encode [c]).toUpper)).toList = encode keep bytes := by
  rw [String.toList_join, flatMap_map, encode]
  congr 1
  funext c
  cases hkeep : keep c with
  | true => simp [encodeByte, hkeep]
  | false => rw [encodeByte, hkeep, ← toList_escape]; rfl

theorem readable_segmentByte : ReadableBytes segmentByte := Base64Text.forall_byte
    (P := fun byte => segmentByte byte = true → byte.toNat < 128 ∧ byte ≠ 37) (by decide +kernel)

theorem readable_queryByte : ReadableBytes queryByte := Base64Text.forall_byte
    (P := fun byte => queryByte byte = true → byte.toNat < 128 ∧ byte ≠ 37) (by decide +kernel)

end Encoders

section Refusal

/-- A segment of a path, behind a slash and before the next slash or the
query. -/
def Stands (segment text : List Char) : Prop :=
  ∃ front back, text = front ++ '/' :: (segment ++ back) ∧
    (back = [] ∨ ∃ c rest, back = c :: rest ∧ (c = '/' ∨ c = '?'))

variable {segment text : List Char}

theorem Stands.toLower (hstands : Stands segment text)
    (hsegment : segment.map Char.toLower = segment) :
    Stands segment (text.map Char.toLower) := by
  obtain ⟨front, back, rfl, hback⟩ := hstands
  refine ⟨front.map Char.toLower, back.map Char.toLower, ?_, ?_⟩
  · rw [map_append, map_cons, map_append, hsegment]
    rfl
  · rcases hback with rfl | ⟨c, rest, rfl, rfl | rfl⟩
    · exact .inl rfl
    · exact .inr ⟨'/', rest.map Char.toLower, rfl, .inl rfl⟩
    · exact .inr ⟨'?', rest.map Char.toLower, rfl, .inr rfl⟩

theorem Stands.replaceList {pattern replacement : List Char}
    (hstands : Stands segment text) (hpattern : pattern ≠ [])
    (hslash : '/' ∉ pattern) (hmark : '?' ∉ pattern)
    (hsegment : RustStr.replaceList pattern replacement 0 segment = segment) :
    Stands segment (RustStr.replaceList pattern replacement 0 text) := by
  obtain ⟨front, back, rfl, hback⟩ := hstands
  rw [replaceList_append_cons hslash hpattern (Nat.zero_le _)]
  rcases hback with rfl | ⟨c, rest, rfl, hc⟩
  · rw [append_nil, hsegment]
    exact ⟨_, [], by rw [append_nil], .inl rfl⟩
  · have houtside : c ∉ pattern := by
      rcases hc with rfl | rfl
      · exact hslash
      · exact hmark
    rw [replaceList_append_cons houtside hpattern (Nat.zero_le _), hsegment]
    exact ⟨_, _, rfl, .inr ⟨c, _, rfl, hc⟩⟩

theorem Stands.mem_splitOnP {separates : Char → Bool}
    (hstands : Stands segment text) (hslash : separates '/' = true)
    (hmark : separates '?' = true)
    (hsegment : ∀ c ∈ segment, separates c = false) :
    segment ∈ text.splitOnP separates := by
  obtain ⟨front, back, rfl, hback⟩ := hstands
  rw [splitOnP_append_cons _ _ hslash]
  apply mem_append_right
  rcases hback with rfl | ⟨c, rest, rfl, hc⟩
  · rw [append_nil, splitOnP_eq_singleton hsegment]
    exact mem_singleton_self segment
  · have hends : separates c = true := by
      rcases hc with rfl | rfl
      · exact hslash
      · exact hmark
    rw [splitOnP_append_cons_of_forall_mem hsegment c hends]
    exact mem_cons_self

/-- A path with a segment of dots is refused. -/
theorem pathTraverses_of_stands {path : String} (hdots : segment = ['.'] ∨ segment = ['.', '.'])
    (hstands : Stands segment path.toList) : pathTraverses path = true := by
  have hlower : segment.map Char.toLower = segment := by rcases hdots with rfl | rfl <;> decide
  have hdot : RustStr.replaceList "%2e".toList ".".toList 0 segment =
      segment := by rcases hdots with rfl | rfl <;> decide
  have hslash : RustStr.replaceList "%2f".toList "/".toList 0 segment =
      segment := by rcases hdots with rfl | rfl <;> decide
  have hnormalised := ((hstands.toLower hlower).replaceList (by decide)
    (by decide) (by decide) hdot).replaceList (by decide) (by decide)
    (by decide) hslash
  unfold pathTraverses
  simp only [RustStr.replace, String.toList_ofList, String.toList_map]
  refine any_eq_true.mpr ⟨segment, hnormalised.mem_splitOnP (by decide) (by decide) ?_, ?_⟩
  · intro c hc
    obtain rfl : c = '.' := by rcases hdots with rfl | rfl <;> simpa using hc
    rfl
  · rcases hdots with rfl | rfl <;> rfl

end Refusal

section Templates

/-- One segment of a path: fixed in the code, or a value through one of the two
encoders. -/
inductive PathPart where
  | literal (text : String)
  | segment (value : String)
  | component (value : String)
deriving Repr, DecidableEq

namespace PathPart

/-- What is written. -/
def text : PathPart → String
  | .literal text => text
  | .segment value => urlencSegment value
  | .component value => urlenc value

/-- What is meant. -/
def value : PathPart → String
  | .literal text => text
  | .segment value => value
  | .component value => value

end PathPart

/-- Characters of the segments and parameter names that stand in the code. -/
def literalChar (c : Char) : Bool :=
  c.isAlphanum || "-_.".toList.contains c

/-- A template with its holes filled in. -/
structure RequestPath where
  parts : List PathPart
  query : List (String × String)
  plainParts : ∀ text, .literal text ∈ parts → ∀ c ∈ text.toList, literalChar c = true
  plainNames : ∀ param ∈ query, ∀ c ∈ param.1.toList, literalChar c = true

namespace RequestPath

variable (request : RequestPath)

def render : String :=
  appendQuery (String.join (request.parts.map fun part => "/" ++ part.text)) request.query

/-- What the URL has behind the host. -/
def sent : String :=
  "/api2/json" ++ request.render

/-- The template's segments and parameters, with each value in its place. -/
def meant : Target where
  segments := (.literal "api2" :: .literal "json" :: request.parts).map
    fun part => part.value.toUTF8.toList
  query := request.query.map fun param => (param.1.toUTF8.toList, param.2.toUTF8.toList)

/-- The query as it is written. -/
def queryChars : List Char :=
  ['&'].intercalate (request.query.map fun param =>
    param.1.toList ++ '=' :: (urlenc param.2).toList)

theorem toList_render : request.render.toList =
    joinSegments (request.parts.map fun part => part.text.toList) ++
      queryText request.queryChars := by
  have hpath : (String.join (request.parts.map fun part =>
      "/" ++ part.text)).toList =
        joinSegments (request.parts.map fun part => part.text.toList) := by
    rw [String.toList_join, flatMap_map, joinSegments, flatMap_map]
    simp
  by_cases hquery : request.query = []
  · have hchars : request.queryChars = [] := by
      rw [queryChars, hquery]
      rfl
    rw [render, appendQuery, if_pos hquery, hpath, queryText, if_pos hchars, append_nil]
  · have hchars : request.queryChars ≠ [] := by
      obtain ⟨param, rest, hcons⟩ := exists_cons_of_ne_nil hquery
      rw [queryChars, hcons]
      cases rest <;> simp [List.intercalate]
    rw [render, appendQuery, if_neg hquery, queryText, if_neg hchars]
    simp [hpath, RustStr.join, String.toList_intercalate, queryChars, Function.comp_def]

end RequestPath

section Characters

variable {c : Char} {value : String}

theorem plain_of_literalChar (hc : literalChar c = true) :
    breaksUrl c = false ∧ c ≠ '%' ∧ c ≠ '&' ∧ c ≠ '=' ∧ c ≠ '+' := by
  refine ⟨?_, ?_⟩
  · by_contra hbreaks
    simp only [breaksUrl, isSlash, Bool.not_eq_false, Bool.or_eq_true, beq_iff_eq] at hbreaks
    rcases hbreaks with ((((rfl | rfl) | rfl) | rfl) | rfl) | rfl | rfl <;> cases hc
  · refine ⟨?_, ?_, ?_, ?_⟩ <;> rintro rfl <;> cases hc

theorem toList_urlencSegment (value : String) :
    (urlencSegment value).toList = encode segmentByte value.toUTF8.toList :=
  toList_encoded segmentByte value.toUTF8.toList

theorem toList_urlenc (value : String) :
    (urlenc value).toList = encode queryByte value.toUTF8.toList :=
  toList_encoded queryByte value.toUTF8.toList

/-- A property of the bytes that an encoder keeps and of the escapes holds of
every character it writes. -/
theorem of_mem_encode {keep : UInt8 → Bool} {bytes : List UInt8} {p : Char → Bool}
    (hc : c ∈ encode keep bytes)
    (hkept : ∀ byte, keep byte = true → p (Char.ofNat byte.toNat) = true)
    (hdigits : "%0123456789ABCDEF".toList.all p = true) : p c = true := by
  rcases mem_encode hc with ⟨byte, hbyte, rfl⟩ | hdigit
  · exact hkept byte hbyte
  · exact all_eq_true.mp hdigits c hdigit

theorem plain_of_mem_urlencSegment (hc : c ∈ (urlencSegment value).toList) :
    breaksUrl c = false := by
  rw [toList_urlencSegment] at hc
  have hplain := of_mem_encode (p := fun c => !breaksUrl c) hc
    (Base64Text.forall_byte (by decide +kernel)) (by decide)
  simpa using hplain

theorem plain_of_mem_urlenc (hc : c ∈ (urlenc value).toList) :
    breaksUrl c = false ∧ c ≠ '&' ∧ c ≠ '+' := by
  rw [toList_urlenc] at hc
  have hplain := of_mem_encode (p := fun c => !breaksUrl c && c != '&' && c != '+') hc
    (Base64Text.forall_byte (by decide +kernel)) (by decide)
  simpa [and_assoc] using hplain

end Characters

namespace RequestPath

variable {request : RequestPath} {part : PathPart}

theorem plain_part (hpart : part ∈ request.parts) :
    ∀ c ∈ part.text.toList, breaksUrl c = false := by
  intro c hc
  cases part with
  | literal text => exact (plain_of_literalChar (request.plainParts text hpart c hc)).1
  | segment value => exact plain_of_mem_urlencSegment hc
  | component value => exact (plain_of_mem_urlenc hc).1

theorem decode_part (hpart : part ∈ request.parts) :
    decode part.text.toList = part.value.toUTF8.toList := by
  cases part with
  | literal text =>
    have hplain := fun c hc => (plain_of_literalChar (request.plainParts text hpart c hc)).2.1
    rw [PathPart.text, decode_plain hplain, PathPart.value, toList_toUTF8]
  | segment value =>
    rw [PathPart.text, toList_urlencSegment, decode_encode readable_segmentByte, PathPart.value]
  | component value =>
    rw [PathPart.text, toList_urlenc, decode_encode readable_queryByte, PathPart.value]

/-- A part that a URL parser takes for a relative segment is written in
dots. -/
theorem eq_dots_of_part (hpart : part ∈ request.parts)
    (hdots : part.text.toList ∈ doubleDots ∨ part.text.toList ∈ singleDots) :
    part.text.toList = ['.'] ∨ part.text.toList = ['.', '.'] := by
  cases part with
  | literal text =>
    have hplain := fun c hc => (plain_of_literalChar (request.plainParts text hpart c hc)).2.1
    have hpercent : '%' ∉ text.toList := fun hmem => hplain '%' hmem rfl
    simp only [PathPart.text, doubleDots, singleDots, mem_cons, not_mem_nil, or_false] at hdots ⊢
    grind
  | segment value =>
    simp only [PathPart.text, toList_urlencSegment] at hdots ⊢
    exact eq_dots_of_mem readable_segmentByte (by decide) hdots
  | component value =>
    simp only [PathPart.text, toList_urlenc] at hdots ⊢
    exact eq_dots_of_mem readable_queryByte (by decide) hdots

theorem stands_part (hpart : part ∈ request.parts) :
    Stands part.text.toList request.render.toList := by
  obtain ⟨before, after, hparts⟩ := append_of_mem hpart
  refine ⟨joinSegments (before.map fun part => part.text.toList),
    joinSegments (after.map fun part => part.text.toList) ++ queryText request.queryChars, ?_, ?_⟩
  · rw [toList_render, hparts]
    simp [joinSegments]
  · cases after with
    | nil =>
      by_cases hquery : request.queryChars = []
      · exact .inl (by simp [joinSegments, queryText, hquery])
      · exact .inr ⟨'?', request.queryChars, by simp [joinSegments, queryText, hquery], .inr rfl⟩
    | cons next rest =>
      exact .inr ⟨'/', next.text.toList ++ joinSegments (rest.map fun part => part.text.toList) ++
          queryText request.queryChars, by simp [joinSegments], .inl rfl⟩

/-- In a path that is not refused no part is a relative segment. -/
theorem plain_of_not_traverses (hpart : part ∈ request.parts)
    (hallowed : pathTraverses request.render = false) :
    part.text.toList ∉ doubleDots ∧ part.text.toList ∉ singleDots := by
  have hnot : ¬(part.text.toList ∈ doubleDots ∨ part.text.toList ∈ singleDots) := by
    intro hdots
    have hrefused := pathTraverses_of_stands (eq_dots_of_part hpart hdots) (stands_part hpart)
    rw [hallowed] at hrefused
    cases hrefused
  exact not_or.mp hnot

theorem plain_queryChars : ∀ c ∈ request.queryChars, breaksUrl c = false := by
  intro c hc
  rcases mem_of_mem_intercalate hc with hsep | ⟨text, htext, hin⟩
  · obtain rfl := mem_singleton.mp hsep
    rfl
  · obtain ⟨param, hparam, rfl⟩ := mem_map.mp htext
    rcases mem_append.mp hin with hname | hrest
    · exact (plain_of_literalChar (request.plainNames param hparam c hname)).1
    · rcases mem_cons.mp hrest with rfl | hvalue
      · rfl
      · exact (plain_of_mem_urlenc hvalue).1

theorem queryPairs_queryChars : queryPairs request.queryChars = request.meant.query := by
  let pairs := request.query.map fun param => (param.1.toList, (urlenc param.2).toList)
  have hpairs : ∀ pair ∈ pairs, (∀ c ∈ pair.1, c ≠ '&' ∧ c ≠ '=' ∧ c ≠ '+') ∧
        ∀ c ∈ pair.2, c ≠ '&' ∧ c ≠ '+' := by
    intro pair hpair
    obtain ⟨param, hparam, rfl⟩ := mem_map.mp hpair
    refine ⟨fun c hc => ?_, fun c hc => (plain_of_mem_urlenc hc).2⟩
    exact (plain_of_literalChar (request.plainNames param hparam c hc)).2.2
  have hjoin := queryPairs_join hpairs
  simp only [pairs, map_map, Function.comp_def] at hjoin
  rw [queryChars, hjoin]
  apply map_congr_left
  intro param hparam
  have hname : ∀ c ∈ param.1.toList, c ≠ '%' := fun c hc =>
    (plain_of_literalChar (request.plainNames param hparam c hc)).2.1
  rw [decode_plain hname, toList_urlenc, decode_encode readable_queryByte, toList_toUTF8 param.1]

end RequestPath

/-- The path of `query_url_metadata`. -/
def queryUrlMetadataPath (node url : String) : RequestPath where
  parts := [.literal "nodes", .segment node, .literal "query-url-metadata"]
  query := [("url", url)]
  plainParts := by
    intro text htext
    simp only [mem_cons, PathPart.literal.injEq, reduceCtorEq,
      not_mem_nil, or_false, false_or] at htext
    rcases htext with rfl | rfl <;> exact all_eq_true.mp (by decide +kernel)
  plainNames := by
    intro param hparam
    obtain rfl := mem_singleton.mp hparam
    have hname : "url".toList.all literalChar = true := by decide +kernel
    exact all_eq_true.mp hname

end Templates

end Proxxx
