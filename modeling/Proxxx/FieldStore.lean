/-
Stores of named objects, and objects with named fields.  A request overwrites
the fields it names, clears those it lists and keeps the rest.
-/
import Mathlib.Data.List.Basic
import Mathlib.Data.List.Nodup

namespace FieldStore

open List

section Values

variable {κ ν : Type} [DecidableEq κ]

/-- Fields with their values.  A name that stands more than once has a list of
values, in their order. -/
abbrev Fields (κ ν : Type) := List (κ × ν)

def values (name : κ) (fields : Fields κ ν) : List ν :=
  (fields.filter fun field => field.1 = name).map Prod.snd

variable {name : κ} {fields others : Fields κ ν}

@[simp]
theorem values_nil : values name ([] : Fields κ ν) = [] := rfl

@[simp]
theorem values_append : values name (fields ++ others) =
      values name fields ++ values name others := by simp [values]

@[simp]
theorem values_cons {key : κ} {value : ν} : values name ((key, value) :: fields) =
    if key = name then value :: values name fields
    else values name fields := by
  by_cases hkey : key = name <;> simp [values, hkey]

@[simp]
theorem values_ite {condition : Prop} [Decidable condition] :
    values name (if condition then fields else others) =
      if condition then values name fields else values name others := by split <;> rfl

theorem values_eq_nil : values name fields = [] ↔ name ∉ fields.map Prod.fst := by
  rw [values, map_eq_nil_iff, filter_eq_nil_iff]
  simp only [decide_eq_true_eq, mem_map, not_exists, not_and]

/-- The values of a field whose pairs are all kept. -/
theorem values_filter {keep : κ × ν → Bool} (hkeep : ∀ value, keep (name, value) = true) :
    values name (fields.filter keep) = values name fields := by
  unfold values
  rw [filter_filter]
  congr 1
  apply filter_congr
  rintro ⟨key, value⟩ -
  by_cases hkey : key = name
  · simp [hkey, hkeep]
  · simp [hkey]

theorem values_filter_none {keep : κ × ν → Bool} (hdrop : ∀ value, keep (name, value) = false) :
    values name (fields.filter keep) = [] := by
  rw [values_eq_nil]
  intro hname
  obtain ⟨⟨key, value⟩, hfield, rfl⟩ := mem_map.mp hname
  have hkept := (mem_filter.mp hfield).2
  exact Bool.false_ne_true ((hdrop value).symm.trans hkept)

/-- A repeated key gives its values as they come. -/
theorem values_map_pair {key : κ} {list : List ν} :
    values name (list.map fun value => (key, value)) = if key = name then list else [] := by
  induction list with
  | nil => simp
  | cons head tail ih =>
    rw [map_cons, values_cons, ih]
    split <;> rfl

end Values

section Requests

variable {κ ν : Type} [DecidableEq κ]

/-- The fields a request names, and those it lists to be cleared. -/
structure Request (κ ν : Type) where
  set : Fields κ ν
  delete : List κ
deriving Repr, DecidableEq

/-- A field that is both named and listed keeps what the request names. -/
def Request.apply (request : Request κ ν) (fields : Fields κ ν) : Fields κ ν :=
  (fields.filter fun field =>
    field.1 ∉ request.set.map Prod.fst ∧ field.1 ∉ request.delete) ++
    request.set

/-- What a field holds behind a request. -/
theorem values_apply {request : Request κ ν} {fields : Fields κ ν} {name : κ} :
    values name (request.apply fields) =
      if values name request.set = [] ∧ name ∉ request.delete then values name fields
      else values name request.set := by
  rw [Request.apply, values_append]
  by_cases hset : values name request.set = []
  · by_cases hdelete : name ∈ request.delete
    · rw [values_filter_none (by simp [hdelete])]
      simp [hdelete]
    · have hname := values_eq_nil.mp hset
      rw [values_filter fun value => decide_eq_true ⟨hname, hdelete⟩]
      simp [hset, hdelete]
  · have hname : name ∈ request.set.map Prod.fst := by
      by_contra hnot
      exact hset (values_eq_nil.mpr hnot)
    rw [values_filter_none fun value => decide_eq_false fun hkeep => hkeep.1 hname]
    simp [hset]

end Requests

section Collections

variable {ι α : Type}

/-- Objects under different names. -/
structure Collection (ι α : Type) where
  objects : List (ι × α)
  distinct : (objects.map Prod.fst).Nodup

def Collection.empty : Collection ι α where
  objects := []
  distinct := nodup_nil

variable [DecidableEq ι]

instance [DecidableEq α] : DecidableEq (Collection ι α) := fun one two =>
  decidable_of_iff (one.objects = two.objects) <| by
    cases one
    cases two
    simp

namespace Collection

def get (collection : Collection ι α) (name : ι) : Option α :=
  (collection.objects.find? fun object => object.1 = name).map Prod.snd

/-- Change the object with the name, if there is one. -/
def modifyObjects (name : ι) (change : α → α) (objects : List (ι × α)) : List (ι × α) :=
  objects.map fun object => if object.1 = name then (object.1, change object.2) else object

theorem names_modifyObjects {name : ι} {change : α → α} {objects : List (ι × α)} :
    (modifyObjects name change objects).map Prod.fst = objects.map Prod.fst := by
  rw [modifyObjects, map_map]
  apply map_congr_left
  intro object _
  by_cases hobject : object.1 = name <;> simp [hobject]

def modify (collection : Collection ι α) (name : ι) (change : α → α) : Collection ι α where
  objects := modifyObjects name change collection.objects
  distinct := by
    rw [names_modifyObjects]
    exact collection.distinct

def erase (collection : Collection ι α) (name : ι) : Collection ι α where
  objects := collection.objects.filter fun object => object.1 ≠ name
  distinct := collection.distinct.sublist (filter_sublist.map _)

/-- Put an object under the name, in the place of one that has it. -/
def insert (collection : Collection ι α) (name : ι) (object : α) : Collection ι α where
  objects := (collection.erase name).objects ++ [(name, object)]
  distinct := by
    rw [map_append, map_singleton, nodup_append]
    refine ⟨(collection.erase name).distinct, by simp, ?_⟩
    intro one hone two htwo
    obtain ⟨object, hobject, rfl⟩ := mem_map.mp hone
    rw [mem_singleton.mp htwo]
    simpa using (mem_filter.mp hobject).2

variable {collection : Collection ι α} {name other : ι} {object : α}

theorem get_eq_some : collection.get name = some object ↔ (name, object) ∈ collection.objects := by
  constructor
  · intro hget
    obtain ⟨⟨key, found⟩, hfound, rfl⟩ := Option.map_eq_some_iff.mp hget
    have hkey : key = name := by simpa using List.find?_some hfound
    exact hkey ▸ List.mem_of_find?_eq_some hfound
  · intro hmem
    have hsome : (collection.objects.find? fun object =>
        object.1 = name).isSome = true := by
      rw [List.find?_isSome]
      exact ⟨_, hmem, by simp⟩
    obtain ⟨⟨key, found⟩, hfound⟩ := Option.isSome_iff_exists.mp hsome
    have hkey : key = name := by simpa using List.find?_some hfound
    have heq := inj_on_of_nodup_map collection.distinct (List.mem_of_find?_eq_some hfound) hmem hkey
    rw [get, hfound, heq]
    rfl

theorem get_eq_none : collection.get name = none ↔ name ∉ collection.objects.map Prod.fst := by
  simp only [get, Option.map_eq_none_iff, List.find?_eq_none,
    decide_eq_true_eq, mem_map, not_exists, not_and]

@[simp]
theorem get_empty : (empty : Collection ι α).get name = none := rfl

/-- A name has the object its pair says, and no other. -/
theorem get_eq_of_iff {found : Option α} (hobject : ∀ object, (name, object) ∈ collection.objects ↔
    found = some object) : collection.get name = found := by
  cases found with
  | none =>
    rw [get_eq_none]
    intro hname
    obtain ⟨⟨key, object⟩, hmem, rfl⟩ := mem_map.mp hname
    cases (hobject object).mp hmem
  | some object => exact get_eq_some.mpr ((hobject object).mpr rfl)

theorem get_modify {change : α → α} : (collection.modify name change).get other =
    if other = name then (collection.get other).map change
    else collection.get other := by
  have hnames : (fun object : ι × α => decide (object.1 = other)) ∘ (fun object =>
      if object.1 = name then (object.1, change object.2) else object) =
        fun object => decide (object.1 = other) := by
    funext object
    by_cases hobject : object.1 = name <;> simp [hobject]
  simp only [get, modify, modifyObjects, find?_map, hnames]
  cases hfound : collection.objects.find? fun object => object.1 = other with
  | none => simp
  | some object =>
    have hkey : object.1 = other := by simpa using List.find?_some hfound
    by_cases hother : other = name <;> simp [hkey, hother]

theorem get_erase : (collection.erase name).get other =
    if other = name then none else collection.get other := by
  apply get_eq_of_iff
  intro object
  rw [erase, mem_filter, decide_eq_true_eq]
  by_cases hother : other = name
  · simp [hother]
  · simp [hother, get_eq_some]

theorem get_insert : (collection.insert name object).get other =
    if other = name then some object else collection.get other := by
  apply get_eq_of_iff
  intro found
  rw [insert, mem_append, mem_singleton, ← get_eq_some, get_erase]
  by_cases hother : other = name
  · simp [hother, eq_comm]
  · simp [hother]

end Collection

end Collections

end FieldStore
