/-
Records written as fields joined by a separator.  A joined record whose fields
are free of the separator has no other reading with the same number of fields;
a separator inside a field is exactly what makes a second reading possible.
-/
import Mathlib

namespace SeparatedFields

open List

universe u

variable {α : Type u} {sep : α}

/-- The number of separators in a joined record counts the joints and the
separators the fields bring along. -/
theorem count_intercalate [BEq α] [LawfulBEq α] (first : List α) (fields : List (List α)) :
    ([sep].intercalate (first :: fields)).count sep =
      fields.length + ((first :: fields).map (List.count sep)).sum := by
  induction fields generalizing first with
  | nil => simp
  | cons second rest ih =>
    rw [intercalate_cons_cons, count_append, count_append, ih]
    simp only [count_singleton_self, length_cons, map_cons, sum_cons]
    omega

variable {fields : List (List α)} {first : List α}

theorem notMem_of_count_intercalate [BEq α] [LawfulBEq α]
    (hcount : ([sep].intercalate (first :: fields)).count sep = fields.length) :
    ∀ field ∈ first :: fields, sep ∉ field := by
  intro field hfield
  rw [count_intercalate] at hcount
  have hsum : ((first :: fields).map (List.count sep)).sum = 0 := by omega
  exact count_eq_zero.mp (List.sum_eq_zero_iff_forall_eq_nat.mp hsum _ (mem_map_of_mem hfield))

theorem count_intercalate_of_notMem [BEq α] [LawfulBEq α]
    (hfree : ∀ field ∈ first :: fields, sep ∉ field) :
    ([sep].intercalate (first :: fields)).count sep = fields.length := by
  rw [count_intercalate, List.sum_eq_zero_iff_forall_eq_nat.mpr, Nat.add_zero]
  intro count hcount
  obtain ⟨field, hfield, rfl⟩ := mem_map.mp hcount
  exact count_eq_zero.mpr (hfree field hfield)

/-- Joining is injective at separator-free fields: no other list of as many
fields, whatever they contain, joins to the same record. -/
theorem intercalate_inj_of_notMem [BEq α] [LawfulBEq α] {first' : List α} {fields' : List (List α)}
    (hlength : fields.length = fields'.length)
    (hfree : ∀ field ∈ first :: fields, sep ∉ field)
    (hjoin : [sep].intercalate (first :: fields) = [sep].intercalate (first' :: fields')) :
    first :: fields = first' :: fields' := by
  have hcount := count_intercalate_of_notMem hfree
  rw [hjoin, hlength] at hcount
  have hfree' := notMem_of_count_intercalate hcount
  calc first :: fields = ([sep].intercalate (first :: fields)).splitOn sep :=
        (splitOn_intercalate sep hfree (by simp)).symm
    _ = ([sep].intercalate (first' :: fields')).splitOn sep := by rw [hjoin]
    _ = first' :: fields' := splitOn_intercalate sep hfree' (by simp)

/-- The first field of a record is what stands before the first separator. -/
theorem first_field_inj [BEq α] [LawfulBEq α] {left right rest rest' : List α}
    (hleft : sep ∉ left) (hright : sep ∉ right)
    (heq : left ++ sep :: rest = right ++ sep :: rest') : left = right := by
  have hsplit := congrArg (List.splitOn sep) heq
  rw [splitOn_append_cons_self_of_not_mem hleft,
    splitOn_append_cons_self_of_not_mem hright] at hsplit
  exact (List.cons.inj hsplit).1

end SeparatedFields
