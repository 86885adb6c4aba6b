/-
Decoding flat structures from JSON as derived deserializers do it: from an
object by field names or from an array by position, unknown and repeated fields
being errors, absent fields taking their default where they have one.
-/
import Mathlib

namespace SerdeJson

open List

inductive Json where
  | null
  | bool (value : Bool)
  | int (value : Int)
  | float (text : String)
  | str (text : String)
  | arr (items : List Json)
  | obj (entries : List (String × Json))

/-- The value under a key; only objects have any. -/
def Json.get? : Json → String → Option Json
  | .obj entries, key => entries.lookup key
  | _, _ => none

/-- The entries of an object. -/
def Json.entries : Json → List (String × Json)
  | .obj entries => entries
  | _ => []

theorem Json.get?_eq_lookup (json : Json) (key : String) :
    json.get? key = json.entries.lookup key := by cases json <;> rfl

/-- Only an object has something under a key. -/
theorem Json.eq_obj_of_get? {json : Json} {key : String}
    (hsome : (json.get? key).isSome = true) : json = .obj json.entries := by
  cases json with
  | obj entries => rfl
  | _ => cases hsome

def Json.asU64 : Json → Option Nat
  | .int value => if 0 ≤ value ∧ value < 2 ^ 64 then some value.toNat else none
  | _ => none

theorem Json.eq_int_of_asU64 {json : Json} {number : Nat}
    (hnumber : json.asU64 = some number) : json = .int number := by
  revert hnumber
  fun_cases Json.asU64 json <;> intro hnumber <;> cases hnumber
  next hrange => rw [Int.toNat_of_nonneg hrange.1]

theorem Json.asU64_int {number : Nat} (hbound : number < 2 ^ 64) :
    (Json.int number).asU64 = some number := by
  have hrange : (0 : Int) ≤ number ∧ (number : Int) < 2 ^ 64 := by omega
  rw [Json.asU64, if_pos hrange, Int.toNat_natCast]

def Json.asBool : Json → Option Bool
  | .bool value => some value
  | _ => none

def Json.asStr : Json → Option String
  | .str text => some text
  | _ => none

inductive FieldKind where
  | u32
  | u64
  | bool
  | string
  | optional (kind : FieldKind)
deriving Repr, DecidableEq

/-- The values a field of the kind can be read from. -/
def FieldKind.accepts : FieldKind → Json → Bool
  | .u32, .int value => decide (0 ≤ value) && decide (value < 2 ^ 32)
  | .u64, .int value => decide (0 ≤ value) && decide (value < 2 ^ 64)
  | .bool, .bool _ => true
  | .string, .str _ => true
  | .optional _, .null => true
  | .optional kind, json => kind.accepts json
  | _, _ => false

structure Field where
  name : String
  aliases : List String
  kind : FieldKind
  required : Bool
deriving Repr, DecidableEq

def Field.answersTo (field : Field) (key : String) : Bool :=
  field.name == key || field.aliases.contains key

/-- The values read so far, under the fields' own names. -/
abbrev Values := List (String × Json)

/-- Read the entries of an object in their order. -/
def visitMap (fields : List Field) : List (String × Json) → Values → Option Values
  | [], seen =>
    if fields.all fun field =>
        !field.required || (seen.lookup field.name).isSome then
      some seen
    else none
  | (key, value) :: rest, seen =>
    match fields.find? (·.answersTo key) with
    | none => none
    | some field =>
      if (seen.lookup field.name).isSome then none
      else if field.kind.accepts value then
        visitMap fields rest ((field.name, value) :: seen)
      else none

/-- Read the items of an array into the fields in their order. -/
def visitSeq : List Field → List Json → Option Values
  | [], [] => some []
  | [], _ :: _ => none
  | field :: rest, [] => if field.required then none else visitSeq rest []
  | field :: rest, item :: items =>
    if field.kind.accepts item then
      (visitSeq rest items).map ((field.name, item) :: ·)
    else none

def decodeStruct (fields : List Field) : Json → Option Values
  | .obj entries => visitMap fields entries []
  | .arr items => visitSeq fields items
  | _ => none

/-- What the parser itself contributes: the value of a text, and the message
for a text that cannot be read into a structure. -/
structure Parser where
  parse : String → Option Json
  message : List Field → String → String

def Parser.fromStr (parser : Parser) (fields : List Field) (text : String) : Except String Values :=
  match (parser.parse text).bind (decodeStruct fields) with
  | some values => .ok values
  | none => .error (parser.message fields text)

def Values.nat? (values : Values) (name : String) : Option Nat :=
  match values.lookup name with
  | some (.int value) => some value.toNat
  | _ => none

def Values.bool? (values : Values) (name : String) : Option Bool :=
  match values.lookup name with
  | some (.bool value) => some value
  | _ => none

def Values.string? (values : Values) (name : String) : Option String :=
  match values.lookup name with
  | some (.str text) => some text
  | _ => none

section Objects

variable {entries : List (String × Json)} {fields : List Field}
variable {key : String} {seen : Values}

theorem lookup_eq_some_iff_mem (hkeys : (entries.map Prod.fst).Nodup) {value : Json} :
    entries.lookup key = some value ↔ (key, value) ∈ entries := by
  induction entries with
  | nil => simp
  | cons head tail ih =>
    obtain ⟨name, first⟩ := head
    rw [map_cons, nodup_cons] at hkeys
    by_cases hname : key = name
    · subst hname
      have htail : (key, value) ∉ tail := fun hmem =>
        hkeys.1 (mem_map.mpr ⟨(key, value), hmem, rfl⟩)
      simp [htail, eq_comm]
    · rw [List.lookup_cons, beq_false_of_ne hname, ih hkeys.2]
      simp [hname]

/-- With each key once, the order of the entries does not matter. -/
theorem lookup_reverse (hkeys : (entries.map Prod.fst).Nodup) :
    entries.reverse.lookup key = entries.lookup key := by
  have hreversed : (entries.reverse.map Prod.fst).Nodup := by
    rw [map_reverse, nodup_reverse]
    exact hkeys
  refine Option.ext fun value => ?_
  rw [lookup_eq_some_iff_mem hreversed, lookup_eq_some_iff_mem hkeys, mem_reverse]

theorem Values.nat?_reverse (hkeys : (entries.map Prod.fst).Nodup) :
    Values.nat? entries.reverse key = Values.nat? entries key := by
  rw [Values.nat?, Values.nat?, lookup_reverse hkeys]

theorem Values.bool?_reverse (hkeys : (entries.map Prod.fst).Nodup) :
    Values.bool? entries.reverse key = Values.bool? entries key := by
  rw [Values.bool?, Values.bool?, lookup_reverse hkeys]

theorem Values.string?_reverse (hkeys : (entries.map Prod.fst).Nodup) :
    Values.string? entries.reverse key = Values.string? entries key := by
  rw [Values.string?, Values.string?, lookup_reverse hkeys]

theorem Values.lookup_of_string? {text : String} (htext : Values.string? entries key = some text) :
    entries.lookup key = some (.str text) := by
  unfold Values.string? at htext
  split at htext
  next hlookup =>
    cases htext
    exact hlookup
  next => cases htext

/-- The fields have no other names. -/
def Plain (fields : List Field) : Prop :=
  ∀ field ∈ fields, field.aliases = []

theorem find_answersTo (hplain : Plain fields) (hknown : ∃ field ∈ fields, field.name = key) :
    ∃ field ∈ fields, field.name = key ∧ fields.find? (·.answersTo key) = some field := by
  obtain ⟨known, hmem, hname⟩ := hknown
  have hsome : (fields.find? (·.answersTo key)).isSome = true := by
    rw [List.find?_isSome]
    exact ⟨known, hmem, by simp [Field.answersTo, hname]⟩
  obtain ⟨field, hfound⟩ := Option.isSome_iff_exists.mp hsome
  have hfield := List.mem_of_find?_eq_some hfound
  have hanswers := List.find?_some hfound
  rw [Field.answersTo, hplain field hfield] at hanswers
  exact ⟨field, hfield, by simpa using hanswers, hfound⟩

/-- Entries for known fields, each of a kind its field takes, are all read. -/
theorem visitMap_of_known (hplain : Plain fields)
    (hknown : ∀ entry ∈ entries, ∃ field ∈ fields, field.name = entry.1)
    (hkinds : ∀ entry ∈ entries, ∀ field ∈ fields, field.name = entry.1 →
      field.kind.accepts entry.2 = true)
    (hkeys : (entries.map Prod.fst).Nodup)
    (hfresh : ∀ entry ∈ entries, seen.lookup entry.1 = none) :
    visitMap fields entries seen = visitMap fields [] (entries.reverse ++ seen) := by
  induction entries generalizing seen with
  | nil => rfl
  | cons head tail ih =>
    obtain ⟨name, value⟩ := head
    rw [map_cons, nodup_cons] at hkeys
    obtain ⟨field, hfield, hname, hfound⟩ :=
      find_answersTo hplain (hknown (name, value) mem_cons_self)
    have haccepts := hkinds (name, value) mem_cons_self field hfield hname
    have hseen := hfresh (name, value) mem_cons_self
    dsimp only at hname hfound hseen haccepts
    have hstep : visitMap fields ((name, value) :: tail) seen =
        visitMap fields tail ((name, value) :: seen) := by
      rw [visitMap, hfound]
      simp [hname, hseen, haccepts]
    rw [hstep, ih (fun entry hentry => hknown entry (mem_cons_of_mem _ hentry))
      (fun entry hentry => hkinds entry (mem_cons_of_mem _ hentry))
      hkeys.2]
    · simp
    · intro entry hentry
      have hne : entry.1 ≠ name := fun heq => hkeys.1 (mem_map.mpr ⟨entry, hentry, heq⟩)
      rw [List.lookup_cons, beq_false_of_ne hne]
      exact hfresh entry (mem_cons_of_mem _ hentry)

/-- One unknown entry is enough to refuse the object. -/
theorem visitMap_of_unknown (hplain : Plain fields)
    (hunknown : ∃ entry ∈ entries, ∀ field ∈ fields, field.name ≠ entry.1) :
    visitMap fields entries seen = none := by
  induction entries generalizing seen with
  | nil => simp at hunknown
  | cons head tail ih =>
    obtain ⟨name, value⟩ := head
    rw [visitMap]
    split
    · rfl
    next field hfound =>
      have hfield := List.mem_of_find?_eq_some hfound
      have hanswers := List.find?_some hfound
      rw [Field.answersTo, hplain field hfield] at hanswers
      have hname : field.name = name := by simpa using hanswers
      have htail : ∃ entry ∈ tail, ∀ field ∈ fields, field.name ≠ entry.1 := by
        obtain ⟨entry, hentry, hnone⟩ := hunknown
        rcases mem_cons.mp hentry with rfl | hentry
        · exact absurd hname (hnone field hfield)
        · exact ⟨entry, hentry, hnone⟩
      split
      · rfl
      split
      · exact ih htail
      · rfl

end Objects

end SerdeJson
