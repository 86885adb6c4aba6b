/-
Chains in which every item carries a tag that binds it to the tag before it.
If equal tags bind equal predecessors and no item carries the root tag, the
only lists that can be linked together from the items of one chain are the
prefixes of that chain.
-/
import Mathlib.Data.List.Basic

namespace TagChain

open List

universe u v

variable {X : Type u} {T : Type v}

/-- The items link up, starting after `previous`. -/
def Chained (tag : X → T) (Links : T → X → Prop) : T → List X → Prop
  | _, [] => True
  | previous, item :: rest => Links previous item ∧ Chained tag Links (tag item) rest

/-- The tag in front of position `index`: the root, or the tag of the item
before it. -/
def tagBefore (tag : X → T) (root : T) (items : List X) : Nat → T
  | 0 => root
  | index + 1 => ((items[index]?).map tag).getD root

theorem tagBefore_succ {tag : X → T} {root : T} {items : List X} {index : Nat}
    {item : X} (hitem : items[index]? = some item) :
    tagBefore tag root items (index + 1) = tag item := by simp [tagBefore, hitem]

/-- The tag the next item has to link to. -/
def lastTag (tag : X → T) (root : T) (items : List X) : T :=
  (items.getLast?.map tag).getD root

theorem lastTag_cons (tag : X → T) (root : T) (item : X) (rest : List X) :
    lastTag tag root (item :: rest) = lastTag tag (tag item) rest := by
  cases hlast : rest.getLast? <;> simp [lastTag, List.getLast?_cons, hlast]

section Building

variable {tag : X → T} {Links Links' : T → X → Prop} {root : T}
variable {items : List X}

theorem chained_append {more : List X} : Chained tag Links root (items ++ more) ↔
    Chained tag Links root items ∧ Chained tag Links (lastTag tag root items) more := by
  induction items generalizing root with
  | nil => simp [Chained, lastTag]
  | cons item rest ih => simp only [cons_append, Chained, ih, lastTag_cons, and_assoc]

theorem chained_concat {item : X} : Chained tag Links root (items ++ [item]) ↔
    Chained tag Links root items ∧ Links (lastTag tag root items) item := by
  simp [chained_append, Chained]

theorem Chained.of_isPrefix (hchain : Chained tag Links root items)
    {candidate : List X} (hfront : candidate <+: items) :
    Chained tag Links root candidate := by
  obtain ⟨more, rfl⟩ := hfront
  exact (chained_append.mp hchain).1

/-- Rewriting every item without touching its tag keeps a chain whose links
survive the rewriting. -/
theorem Chained.map (hchain : Chained tag Links root items) {f : X → X}
    (htag : ∀ item ∈ items, tag (f item) = tag item)
    (hlinks : ∀ item ∈ items, ∀ before, Links before item → Links' before (f item)) :
    Chained tag Links' root (items.map f) := by
  induction items generalizing root with
  | nil => trivial
  | cons item rest ih =>
    refine ⟨hlinks item mem_cons_self root hchain.1, ?_⟩
    rw [htag item mem_cons_self]
    exact ih hchain.2 (fun other hother => htag other (mem_cons_of_mem item hother))
      (fun other hother => hlinks other (mem_cons_of_mem item hother))

/-- One item can stand in for another with the same tag. -/
theorem Chained.replace {front back : List X} {item other : X}
    (hchain : Chained tag Links root (front ++ item :: back))
    (htag : tag other = tag item)
    (hlinks : ∀ before, Links before item → Links before other) :
    Chained tag Links root (front ++ other :: back) := by
  rw [chained_append] at hchain ⊢
  refine ⟨hchain.1, hlinks _ hchain.2.1, ?_⟩
  rw [htag]
  exact hchain.2.2

theorem Chained.imp (hchain : Chained tag Links root items)
    (hlinks : ∀ item ∈ items, ∀ before, Links before item → Links' before item) :
    Chained tag Links' root items := by simpa using hchain.map (f := id) (fun _ _ => rfl) hlinks

theorem Chained.and (hchain : Chained tag Links root items)
    (hchain' : Chained tag Links' root items) :
    Chained tag (fun before item => Links before item ∧ Links' before item) root items := by
  induction items generalizing root with
  | nil => trivial
  | cons item rest ih => exact ⟨⟨hchain.1, hchain'.1⟩, ih hchain.2 hchain'.2⟩

theorem Chained.forall_mem {Holds : X → Prop} (hchain : Chained tag Links root items)
    (hlinks : ∀ before item, Links before item → Holds item) :
    ∀ item ∈ items, Holds item := by
  induction items generalizing root with
  | nil => simp
  | cons head rest ih =>
    intro item hitem
    rcases mem_cons.mp hitem with rfl | hitem
    · exact hlinks root _ hchain.1
    · exact ih hchain.2 item hitem

end Building

section Linked

variable {tag : X → T} {Links : T → X → Prop} {root : T} {items : List X}

theorem Chained.links_getElem? (hchain : Chained tag Links root items)
    {index : Nat} {item : X} (hitem : items[index]? = some item) :
    Links (tagBefore tag root items index) item := by
  induction items generalizing root index with
  | nil => simp at hitem
  | cons head rest ih =>
    cases index with
    | zero =>
      obtain rfl : head = item := by simpa using hitem
      exact hchain.1
    | succ index =>
      have hbehind : rest[index]? = some item := by simpa using hitem
      have hrest := ih hchain.2 hbehind
      cases index with
      | zero => simpa [tagBefore] using hrest
      | succ index =>
        have hlt : index < rest.length := by
          have := (List.getElem?_eq_some_iff.mp hitem).1
          simp at this
          omega
        simpa [tagBefore, List.getElem?_eq_getElem hlt] using hrest

/-- Equal tags bind equal predecessors: what an ideal tag function gives. -/
def TagsBind (tag : X → T) (Links : T → X → Prop) : Prop :=
  ∀ (before before' : T) (item item' : X), Links before item →
    Links before' item' → tag item = tag item' → before = before'

variable (hbind : TagsBind tag Links) (hroot : ∀ item ∈ items, tag item ≠ root)
  (hchain : Chained tag Links root items)
include hbind hroot hchain

/-- Positions of a chain are determined by the tag in front of them. -/
theorem Chained.tagBefore_injective {left right : Nat} (hleft : left ≤ items.length) (hright : right ≤ items.length)
    (heq : tagBefore tag root items left = tagBefore tag root items right) :
    left = right := by
  -- Peel one item off both sides until one position is the root.
  induction left generalizing right with
  | zero =>
    cases right with
    | zero => rfl
    | succ right =>
      have hitem := List.getElem?_eq_getElem (Nat.lt_of_succ_le hright)
      rw [tagBefore_succ hitem] at heq
      exact absurd heq.symm (hroot _ (mem_of_getElem? hitem))
  | succ left ih =>
    have hleftItem := List.getElem?_eq_getElem (Nat.lt_of_succ_le hleft)
    cases right with
    | zero =>
      rw [tagBefore_succ hleftItem] at heq
      exact absurd heq (hroot _ (mem_of_getElem? hleftItem))
    | succ right =>
      have hrightItem := List.getElem?_eq_getElem (Nat.lt_of_succ_le hright)
      rw [tagBefore_succ hleftItem, tagBefore_succ hrightItem] at heq
      have hbefore := hbind _ _ _ _ (hchain.links_getElem? hleftItem)
        (hchain.links_getElem? hrightItem) heq
      exact congrArg (· + 1) (ih (Nat.le_of_succ_le hleft) (Nat.le_of_succ_le hright) hbefore)

variable {candidate : List X} (hmem : ∀ item ∈ candidate, item ∈ items)
include hmem

theorem Chained.prefix_drop_of_mem {position : Nat} (hposition : position ≤ items.length)
    (hcandidate : Chained tag Links (tagBefore tag root items position) candidate) :
    candidate <+: items.drop position := by
  induction candidate generalizing position with
  | nil => exact nil_prefix
  | cons item rest ih =>
    obtain ⟨index, hindex⟩ := mem_iff_getElem?.mp (hmem item mem_cons_self)
    have hlt := (List.getElem?_eq_some_iff.mp hindex).1
    have hsame : position = index :=
      hchain.tagBefore_injective hbind hroot hposition (Nat.le_of_lt hlt)
        (hbind _ _ _ _ hcandidate.1 (hchain.links_getElem? hindex) rfl)
    subst hsame
    have hnext : Chained tag Links (tagBefore tag root items (position + 1)) rest :=
      tagBefore_succ hindex ▸ hcandidate.2
    have hrest := ih (fun other hother => hmem other (mem_cons_of_mem item hother)) hlt hnext
    have hget : items[position] = item := (List.getElem?_eq_some_iff.mp hindex).2
    rw [drop_eq_getElem_cons hlt, hget]
    exact (cons_prefix_cons).mpr ⟨rfl, hrest⟩

/-- Whatever is linked together from the root out of a chain's own items is a
prefix of that chain. -/
theorem Chained.prefix_of_mem (hcandidate : Chained tag Links root candidate) : candidate <+: items := by
  have hstart : Chained tag Links (tagBefore tag root items 0) candidate := hcandidate
  simpa using hchain.prefix_drop_of_mem hbind hroot hmem (Nat.zero_le items.length) hstart

end Linked

end TagChain
