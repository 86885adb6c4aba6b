/-
Trees of a configuration language of tables, arrays and scalars, and records
that are written as tables: a record may skip fields that have their default
value, and its reader refuses keys it does not know.
-/
import Mathlib.Data.List.Nodup

inductive Toml where
  | str (text : String)
  | int (value : Int)
  | bool (value : Bool)
  | float (digits : String)
  | datetime (text : String)
  | arr (items : List Toml)
  | table (entries : List (String × Toml))

namespace Toml

open List

variable {α : Type}

section Records

/-- The fields of a record in order; a field that is skipped has no value. -/
abbrev Slots := List (String × Option Toml)

/-- The fields that are written. -/
def present (slots : Slots) : List (String × Toml) :=
  slots.filterMap fun slot => slot.2.map (slot.1, ·)

def record (slots : Slots) : Toml :=
  .table (present slots)

/-- The values of a record by key.  All keys of a table have to be known; a
record that is written as an array has its values in the order of the known
keys. -/
def fieldsOf (known : List String) : Toml → Option (String → Option Toml)
  | .table entries =>
    if entries.all (fun entry => known.contains entry.1) then
      some (entries.lookup ·)
    else none
  | .arr items => some fun key => items[known.idxOf key]?
  | _ => none

variable {slots : Slots} {known : List String} {key : String}

theorem mem_keys_present : key ∈ (present slots).map Prod.fst ↔
    ∃ value, (key, some value) ∈ slots := by
  constructor
  · intro hkey
    obtain ⟨entry, hentry, rfl⟩ := mem_map.mp hkey
    obtain ⟨⟨name, value⟩, hslot, hvalue⟩ := mem_filterMap.mp hentry
    obtain ⟨tree, rfl, rfl⟩ := Option.map_eq_some_iff.mp hvalue
    exact ⟨tree, hslot⟩
  · rintro ⟨value, hslot⟩
    exact mem_map.mpr ⟨(key, value), mem_filterMap.mpr ⟨_, hslot, rfl⟩, rfl⟩

theorem keys_present_sublist (slots : Slots) :
    ((present slots).map Prod.fst).Sublist (slots.map Prod.fst) := by
  induction slots with
  | nil => exact .slnil
  | cons head tail ih =>
    obtain ⟨name, value⟩ := head
    cases value with
    | none => exact ih.cons name
    | some tree => exact ih.cons_cons name

@[simp]
theorem lookup_cons_of_ne {name : String} {value : α}
    {rest : List (String × α)} (hne : key ≠ name) :
    ((name, value) :: rest).lookup key = rest.lookup key := by
  rw [List.lookup_cons, beq_eq_false_iff_ne.mpr hne]

theorem lookup_present (hnodup : (slots.map Prod.fst).Nodup) :
    (present slots).lookup key = (slots.lookup key).join := by
  induction slots with
  | nil => rfl
  | cons head tail ih =>
    obtain ⟨name, value⟩ := head
    obtain ⟨hfresh, htail⟩ := nodup_cons.mp hnodup
    have hrest := ih htail
    cases value with
    | none =>
      rw [present, filterMap_cons_none rfl, ← present, hrest, List.lookup_cons]
      split
      next hkey =>
        -- the skipped field has no second slot
        rw [eq_of_beq hkey, lookup_eq_none_iff.mpr]
        · rfl
        · intro other hother
          have hmem : other.1 ∈ tail.map Prod.fst := mem_map_of_mem hother
          have hne : name ≠ other.1 := fun heq => hfresh (heq ▸ hmem)
          simpa using hne
      next => rfl
    | some tree =>
      have hpresent : present ((name, some tree) :: tail) =
          (name, tree) :: present tail := filterMap_cons_some rfl
      rw [hpresent, List.lookup_cons, List.lookup_cons, hrest]
      split <;> rfl

theorem keys_present_known (hknown : slots.map Prod.fst = known) :
    ((present slots).all fun entry => known.contains entry.1) = true := by
  rw [all_eq_true]
  intro entry hentry
  obtain ⟨value, hslot⟩ := mem_keys_present.mp (mem_map_of_mem (f := Prod.fst) hentry)
  rw [contains_iff_mem, ← hknown]
  exact mem_map_of_mem hslot

/-- Keys that are set to one value stand before the other entries. -/
theorem lookup_declared {declared : List String} {value : Toml} {entries : List (String × Toml)} :
    (declared.map (·, value) ++ entries).lookup key =
      if key ∈ declared then some value else entries.lookup key := by
  induction declared with
  | nil => rfl
  | cons head tail ih =>
    by_cases hkey : key = head
    · simp [hkey]
    · rw [map_cons, cons_append, lookup_cons_of_ne hkey, ih]
      simp [hkey]

theorem fieldsOf_declared {declared : List String} (value : Toml)
    (hknown : slots.map Prod.fst = known) (hnodup : known.Nodup)
    (hdeclared : declared ⊆ known) :
    fieldsOf known (.table (declared.map (·, value) ++ present slots)) = some fun key =>
        if key ∈ declared then some value else (slots.lookup key).join := by
  have hall : ((declared.map (·, value) ++ present slots).all fun entry =>
      known.contains entry.1) = true := by
    rw [all_append, keys_present_known hknown, Bool.and_true, all_eq_true]
    intro entry hentry
    obtain ⟨name, hname, rfl⟩ := mem_map.mp hentry
    exact contains_iff_mem.mpr (hdeclared hname)
  subst hknown
  rw [fieldsOf, if_pos hall]
  refine congrArg some (funext fun key => ?_)
  rw [lookup_declared, lookup_present hnodup]

@[simp]
theorem fieldsOf_record (hknown : slots.map Prod.fst = known) (hnodup : known.Nodup) :
    fieldsOf known (record slots) = some fun key => (slots.lookup key).join := by
  have hfields := fieldsOf_declared (.arr []) hknown hnodup (nil_subset known)
  simpa [record] using hfields

end Records

section Values

def readText : Toml → Option String
  | .str text => some text
  | _ => none

def readFlag : Toml → Option Bool
  | .bool flag => some flag
  | _ => none

/-- An unsigned number below the limit. -/
def readNumber (limit : Nat) : Toml → Option Nat
  | .int (.ofNat number) => if number < limit then some number else none
  | _ => none

def readList (read : Toml → Option α) : Toml → Option (List α)
  | .arr items => items.mapM read
  | _ => none

/-- A field with a default. -/
def readField (default : α) (read : Toml → Option α) : Option Toml → Option α
  | none => some default
  | some tree => read tree

/-- A field that may be unset. -/
def readOption (read : Toml → Option α) : Option Toml → Option (Option α)
  | none => some none
  | some tree => (read tree).map some

def textUnlessEmpty (text : String) : Option Toml :=
  if text.isEmpty then none else some (.str text)

/-- A flag that is skipped where it has the given value. -/
def flagUnless (skipped flag : Bool) : Option Toml :=
  if flag = skipped then none else some (.bool flag)

def numberUnlessZero (number : Nat) : Option Toml :=
  if number = 0 then none else some (.int number)

def listUnlessEmpty (write : α → Toml) (items : List α) : Option Toml :=
  if items.isEmpty then none else some (.arr (items.map write))

end Values

section RoundTrips

variable {read : Toml → Option α} {write : α → Toml}

@[simp] theorem readField_some {default : α} {tree : Toml} :
    readField default read (some tree) = read tree :=
  rfl

@[simp] theorem readText_str {text : String} : readText (.str text) = some text := rfl

@[simp] theorem readFlag_bool {flag : Bool} : readFlag (.bool flag) = some flag := rfl

theorem readNumber_int {limit number : Nat} (hbound : number < limit) :
    readNumber limit (.int number) = some number :=
  if_pos hbound

@[simp] theorem readField_textUnlessEmpty {text : String} :
    readField "" readText (textUnlessEmpty text) = some text := by
  unfold textUnlessEmpty
  split
  next hempty => rw [String.isEmpty_iff.mp hempty]; rfl
  next => rfl

@[simp] theorem readField_flagUnless {skipped flag : Bool} :
    readField skipped readFlag (flagUnless skipped flag) = some flag := by
  unfold flagUnless
  split
  next hflag => rw [hflag]; rfl
  next => rfl

theorem readField_numberUnlessZero {limit number : Nat} (hbound : number < limit) :
    readField 0 (readNumber limit) (numberUnlessZero number) = some number := by
  unfold numberUnlessZero
  split
  next hzero => rw [hzero]; rfl
  next => exact readNumber_int hbound

variable {items : List α}

/-- A list that is not written is empty. -/
theorem eq_nil_of_absent {key : String} {slots : Slots}
    (hslot : slots.lookup key = some (listUnlessEmpty write items))
    (habsent : key ∉ (present slots).map Prod.fst) : items = [] := by
  by_contra hitems
  apply habsent
  obtain ⟨front, rest, hsplit, -⟩ := lookup_eq_some_iff.mp hslot
  rw [listUnlessEmpty, if_neg (by simpa using hitems)] at hsplit
  rw [mem_keys_present, hsplit]
  exact ⟨_, mem_append_right front mem_cons_self⟩

theorem readList_map (hitems : ∀ item ∈ items, read (write item) = some item) :
    readList read (.arr (items.map write)) = some items := by
  induction items with
  | nil => rfl
  | cons head tail ih =>
    have hhead := hitems head mem_cons_self
    have htail := ih fun item hitem =>
      hitems item (mem_cons_of_mem head hitem)
    rw [readList] at htail ⊢
    rw [map_cons, mapM_cons, hhead, htail]
    rfl

theorem readField_listUnlessEmpty (hitems : ∀ item ∈ items, read (write item) = some item) :
    readField [] (readList read) (listUnlessEmpty write items) = some items := by
  unfold listUnlessEmpty
  split
  next hempty => rw [List.isEmpty_iff.mp hempty]; rfl
  next => exact readList_map hitems

/-- A list that is skipped may also be declared empty. -/
theorem readField_declared {key : String} {declared : List String} {slots : Slots}
    (habsent : ∀ key ∈ declared, key ∉ (present slots).map Prod.fst)
    (hslot : slots.lookup key = some (listUnlessEmpty write items))
    (hitems : ∀ item ∈ items, read (write item) = some item) :
    readField [] (readList read)
        (if key ∈ declared then some (.arr []) else (slots.lookup key).join) =
      some items := by
  split
  next hkey => rw [eq_nil_of_absent hslot (habsent key hkey)]; rfl
  next => rw [hslot]; exact readField_listUnlessEmpty hitems

@[simp] theorem readField_texts {items : List String} :
    readField [] (readList readText) (listUnlessEmpty .str items) = some items :=
  readField_listUnlessEmpty fun _ _ => rfl

theorem readOption_map {value : Option α} (hvalue : ∀ item ∈ value, read (write item) = some item) :
    readOption read (value.map write) = some value := by
  cases value with
  | none => rfl
  | some item =>
    rw [Option.map_some, readOption, hvalue item rfl]
    rfl

@[simp] theorem readOption_text {value : Option String} :
    readOption readText (value.map .str) = some value :=
  readOption_map fun _ _ => rfl

@[simp] theorem readOption_flag {value : Option Bool} :
    readOption readFlag (value.map .bool) = some value :=
  readOption_map fun _ _ => rfl

end RoundTrips

end Toml
