/-
Difference and patch of two lists of entries that are identified by a key.  A
list stands for the map that keeps the last entry under each key.
-/
import Mathlib.Data.List.Dedup
import Mathlib.Data.List.Induction
import Mathlib.Data.List.Sort

namespace KeyedDiff

open List

variable {α κ : Type} [LinearOrder κ] {key : α → κ}

/-- One difference of two keyed lists. -/
inductive Edit (α : Type) where
  | delete (before : α)
  | update (before after : α)
  | create (after : α)
deriving Repr, DecidableEq

def Edit.keyBy (key : α → κ) : Edit α → κ
  | .delete before => key before
  | .update before _ => key before
  | .create after => key after

section Lookup

/-- The entry a map filled in list order holds under the key. -/
def lookup (key : α → κ) (k : κ) (entries : List α) : Option α :=
  entries.reverse.find? fun entry => key entry = k

/-- The keys that meet a condition, each once, in order. -/
def sortedKeys (key : α → κ) (keep : κ → Bool) (entries : List α) : List κ :=
  (((entries.map key).dedup).filter keep).insertionSort (· ≤ ·)

variable {k : κ} {entry : α} {entries : List α}

theorem key_of_lookup (hentry : lookup key k entries = some entry) : key entry = k := by
  simpa using List.find?_some hentry

theorem mem_of_lookup (hentry : lookup key k entries = some entry) : entry ∈ entries := by
  simpa using List.mem_of_find?_eq_some hentry

theorem lookup_eq_none : lookup key k entries = none ↔ ∀ entry ∈ entries, key entry ≠ k := by
  simp [lookup, List.find?_eq_none]

theorem lookup_isSome : (lookup key k entries).isSome = true ↔ k ∈ entries.map key := by
  simp [lookup, List.find?_isSome]

/-- With different keys, the lookup finds every entry. -/
theorem lookup_of_mem (hnodup : (entries.map key).Nodup) (hentry : entry ∈ entries) :
    lookup key (key entry) entries = some entry := by
  have hsome : (lookup key (key entry) entries).isSome = true :=
    lookup_isSome.mpr (mem_map_of_mem hentry)
  obtain ⟨found, hfound⟩ := Option.isSome_iff_exists.mp hsome
  rw [hfound, inj_on_of_nodup_map hnodup (mem_of_lookup hfound) hentry (key_of_lookup hfound)]

theorem mem_sortedKeys {keep : κ → Bool} : k ∈ sortedKeys key keep entries ↔
    (lookup key k entries).isSome = true ∧ keep k = true := by
  rw [lookup_isSome]
  simp [sortedKeys, mem_insertionSort]

theorem nodup_sortedKeys {keep : κ → Bool} : (sortedKeys key keep entries).Nodup := by
  unfold sortedKeys
  rw [(perm_insertionSort _ _).nodup_iff]
  exact (nodup_dedup _).filter _

theorem lookup_append : lookup key k (entries ++ [entry]) =
    if key entry = k then some entry else lookup key k entries := by
  by_cases hkey : key entry = k <;> simp [lookup, hkey]

/-- Lists with related entries in step hold related entries under each key. -/
theorem rel_lookup {related : α → α → Prop} {others : List α}
    (hrelated : List.Forall₂ related entries others)
    (hkey : ∀ one two, related one two → key one = key two) :
    Option.Rel related (lookup key k entries) (lookup key k others) := by
  have hreversed : List.Forall₂ related entries.reverse others.reverse :=
    forall₂_reverse_iff.mpr hrelated
  unfold lookup
  generalize entries.reverse = back, others.reverse = back' at hreversed ⊢
  induction hreversed with
  | nil => exact .none
  | @cons one two rest rest' hone _ ih =>
    by_cases hk : key one = k
    · have htwo : key two = k := (hkey one two hone).symm.trans hk
      rw [List.find?_cons_of_pos (by simpa using hk), List.find?_cons_of_pos (by simpa using htwo)]
      exact .some hone
    · have htwo : key two ≠ k := fun h => hk ((hkey one two hone).trans h)
      rw [List.find?_cons_of_neg (by simpa using hk), List.find?_cons_of_neg (by simpa using htwo)]
      exact ih

/-- The order of entries with different keys does not matter. -/
theorem lookup_eq_of_perm {others : List α} (hperm : entries.Perm others)
    (hnodup : (entries.map key).Nodup) :
    lookup key k entries = lookup key k others := by
  cases hfound : lookup key k others with
  | none =>
    rw [lookup_eq_none] at hfound ⊢
    exact fun entry hentry => hfound entry (hperm.mem_iff.mp hentry)
  | some entry =>
    have hentry := hperm.mem_iff.mpr (mem_of_lookup hfound)
    have hkey : key entry = k := key_of_lookup hfound
    rw [← hkey]
    exact lookup_of_mem hnodup hentry

theorem lookup_map {β : Type} {image : β → α} {sources : List β} :
    lookup key k (sources.map image) =
      (lookup (fun source => key (image source)) k sources).map image := by
  unfold lookup
  rw [← map_reverse, List.find?_map]
  rfl

theorem lookup_cons : lookup key k (entry :: entries) =
    (lookup key k entries).or (if key entry = k then some entry else none) := by
  rw [lookup, reverse_cons, List.find?_append, lookup]
  by_cases hkey : key entry = k <;> simp [hkey]

/-- With different keys, a lookup in a part of the list. -/
theorem lookup_filter {keep : α → Bool} (hnodup : (entries.map key).Nodup) :
    lookup key k (entries.filter keep) = (lookup key k entries).filter keep := by
  have hpart : ((entries.filter keep).map key).Nodup := hnodup.sublist (filter_sublist.map key)
  cases hfound : lookup key k (entries.filter keep) with
  | some found =>
    obtain ⟨hmem, hkeep⟩ := mem_filter.mp (mem_of_lookup hfound)
    have hwhole := lookup_of_mem hnodup hmem
    rw [key_of_lookup hfound] at hwhole
    simp [hwhole, Option.filter, hkeep]
  | none =>
    cases hwhole : lookup key k entries with
    | none => rfl
    | some found =>
      have hkeep : keep found = false := by
        by_contra hkeep
        have hmem : found ∈ entries.filter keep :=
          mem_filter.mpr ⟨mem_of_lookup hwhole, by simpa using hkeep⟩
        exact lookup_eq_none.mp hfound found hmem (key_of_lookup hwhole)
      simp [Option.filter, hkeep]

/-- Lists with different keys and the same lookups are the same up to their
order. -/
theorem perm_of_lookup {others : List α} (hnodup : (entries.map key).Nodup)
    (hothers : (others.map key).Nodup)
    (hlookup : ∀ k, lookup key k entries = lookup key k others) :
    entries.Perm others := by
  rw [perm_ext_iff_of_nodup hnodup.of_map hothers.of_map]
  intro entry
  constructor
  · intro hentry
    have hfound := lookup_of_mem hnodup hentry
    rw [hlookup] at hfound
    exact mem_of_lookup hfound
  · intro hentry
    have hfound := lookup_of_mem hothers hentry
    rw [← hlookup] at hfound
    exact mem_of_lookup hfound

variable [DecidableEq α] {others : List α}

/-- The keys under which another list has another entry or none. -/
theorem mem_map_changed (hnodup : (entries.map key).Nodup) :
    k ∈ (entries.filter fun entry => lookup key (key entry) others ≠ some entry).map key ↔
      ∃ entry, lookup key k entries = some entry ∧ lookup key k others ≠ some entry := by
  simp only [mem_map, mem_filter, decide_eq_true_eq]
  constructor
  · rintro ⟨entry, ⟨hentry, hchanged⟩, rfl⟩
    exact ⟨entry, lookup_of_mem hnodup hentry, hchanged⟩
  · rintro ⟨entry, hentry, hchanged⟩
    have hkey := key_of_lookup hentry
    exact ⟨entry, ⟨mem_of_lookup hentry, by rwa [hkey]⟩, hkey⟩

theorem lookup_changed (hnodup : (entries.map key).Nodup) :
    lookup key k (entries.filter fun entry => lookup key (key entry) others ≠ some entry) =
      if lookup key k others = lookup key k entries then none else lookup key k entries := by
  rw [lookup_filter hnodup]
  cases hfound : lookup key k entries with
  | none => simp
  | some entry =>
    have hkey := key_of_lookup hfound
    by_cases hkept : lookup key k others = some entry <;> simp [Option.filter, hkey, hkept]

end Lookup

section Edits

variable (key) (same : α → α → Bool) (declared live : List α)

/-- Entries that are only live. -/
def deletes : List (Edit α) :=
  (sortedKeys key (fun k => (lookup key k declared).isNone) live).filterMap
    fun k => (lookup key k live).map .delete

/-- Entries on both sides that are not the same. -/
def updates : List (Edit α) :=
  let changed (k : κ) : Bool :=
    match lookup key k live, lookup key k declared with
    | some before, some after => !same before after
    | _, _ => false
  (sortedKeys key changed declared).filterMap fun k =>
    match lookup key k live, lookup key k declared with
    | some before, some after => some (.update before after)
    | _, _ => none

/-- Entries that are only declared. -/
def creates : List (Edit α) :=
  (sortedKeys key (fun k => (lookup key k live).isNone) declared).filterMap
    fun k => (lookup key k declared).map .create

/-- The differences, deletions first. -/
def edits : List (Edit α) :=
  deletes key declared live ++ updates key same declared live ++ creates key declared live

/-- The difference at one key. -/
def expected : Option α → Option α → Option (Edit α)
  | none, some before => some (.delete before)
  | some after, some before => if same before after then none else some (.update before after)
  | some after, none => some (.create after)
  | none, none => none

end Edits

section EditsAt

variable {same : α → α → Bool} {declared live : List α} {k : κ}

/-- A list of edits made key by key holds at most one edit of each key. -/
theorem filter_filterMap_keys {keys : List κ} (hnodup : keys.Nodup) {edit : κ → Option (Edit α)}
    (hedit : ∀ k ∈ keys, ∀ found, edit k = some found → found.keyBy key = k) :
    (keys.filterMap edit).filter (fun found => found.keyBy key = k) =
      if k ∈ keys then (edit k).toList else [] := by
  induction keys with
  | nil => simp
  | cons head tail ih =>
    obtain ⟨hhead, htail⟩ := nodup_cons.mp hnodup
    have hrest := ih htail fun other hother => hedit other (mem_cons_of_mem head hother)
    rcases hfound : edit head with _ | found
    · rw [filterMap_cons_none hfound, hrest]
      by_cases hk : k = head
      · subst hk
        simp [hhead, hfound]
      · simp [hk]
    · have hkey := hedit head mem_cons_self found hfound
      rw [filterMap_cons_some hfound, filter_cons, hrest]
      by_cases hk : k = head
      · subst hk
        simp [hkey, hhead, hfound]
      · have hne : head ≠ k := Ne.symm hk
        simp [hkey, hk, hne]

theorem deletes_at : (deletes key declared live).filter (fun edit => edit.keyBy key = k) =
      match lookup key k declared, lookup key k live with
      | none, some before => [.delete before]
      | _, _ => [] := by
  unfold deletes
  rw [filter_filterMap_keys nodup_sortedKeys]
  · simp only [mem_sortedKeys]
    rcases lookup key k declared with _ | after <;>
      rcases lookup key k live with _ | before <;> simp
  · intro other _ edit hedit
    obtain ⟨before, hbefore, rfl⟩ := Option.map_eq_some_iff.mp hedit
    exact (key_of_lookup hbefore :)

theorem updates_at : (updates key same declared live).filter (fun edit => edit.keyBy key = k) =
      match lookup key k declared, lookup key k live with
      | some after, some before => if same before after then [] else [.update before after]
      | _, _ => [] := by
  unfold updates
  rw [filter_filterMap_keys nodup_sortedKeys]
  · simp only [mem_sortedKeys]
    rcases lookup key k declared with _ | after <;>
      rcases lookup key k live with _ | before <;> simp
    cases same before after <;> simp
  · intro other _ edit hedit
    split at hedit
    next before after hbefore _ =>
      cases hedit
      exact (key_of_lookup hbefore :)
    next => cases hedit

theorem creates_at : (creates key declared live).filter (fun edit => edit.keyBy key = k) =
      match lookup key k declared, lookup key k live with
      | some after, none => [.create after]
      | _, _ => [] := by
  unfold creates
  rw [filter_filterMap_keys nodup_sortedKeys]
  · simp only [mem_sortedKeys]
    rcases lookup key k declared with _ | after <;>
      rcases lookup key k live with _ | before <;> simp
  · intro other _ edit hedit
    obtain ⟨after, hafter, rfl⟩ := Option.map_eq_some_iff.mp hedit
    exact (key_of_lookup hafter :)

/-- Where all entries count as the same, nothing is updated. -/
theorem updates_eq_nil (hsame : ∀ before after, same before after = true) :
    updates key same declared live = [] := by
  rw [updates, filterMap_eq_nil_iff]
  intro k hk
  have hchanged := (mem_sortedKeys.mp hk).2
  split at hchanged
  · simp [hsame] at hchanged
  · cases hchanged

/-- Exactly one edit for each key where the two lists differ. -/
theorem edits_at : (edits key same declared live).filter (fun edit => edit.keyBy key = k) =
    (expected same (lookup key k declared) (lookup key k live)).toList := by
  unfold edits
  rw [filter_append, filter_append, deletes_at, updates_at, creates_at]
  rcases lookup key k declared with _ | after <;>
    rcases lookup key k live with _ | before <;> simp [expected]
  cases same before after <;> simp

theorem mem_edits {edit : Edit α} : edit ∈ edits key same declared live ↔
    expected same (lookup key (edit.keyBy key) declared)
      (lookup key (edit.keyBy key) live) = some edit := by
  rw [← Option.mem_toList, ← edits_at, mem_filter]
  simp

/-- An edit at a key is the one that is expected there. -/
theorem exists_mem_edits_at : (∃ edit ∈ edits key same declared live, edit.keyBy key = k) ↔
    (expected same (lookup key k declared) (lookup key k live)).isSome = true := by
  have hfilter : (∃ edit ∈ edits key same declared live, edit.keyBy key = k) ↔
      ∃ edit, edit ∈ (edits key same declared live).filter fun edit => edit.keyBy key = k := by simp
  rw [hfilter, edits_at]
  cases expected same (lookup key k declared) (lookup key k live) <;> simp

/-- Every key is edited at most once. -/
theorem nodup_edits : ((edits key same declared live).map (Edit.keyBy key)).Nodup := by
  rw [nodup_iff_count_le_one]
  intro k
  have hcount : ((edits key same declared live).map (Edit.keyBy key)).count k =
      ((edits key same declared live).filter fun edit => edit.keyBy key = k).length := by
    rw [List.count, countP_map, countP_eq_length_filter]
    rfl
  rw [hcount, edits_at]
  cases expected same (lookup key k declared) (lookup key k live) <;> simp

/-- A list does not differ from itself. -/
theorem edits_self {entries : List α} (hsame : ∀ entry ∈ entries, same entry entry = true) :
    edits key same entries entries = [] := by
  rw [eq_nil_iff_forall_not_mem]
  intro edit hedit
  rw [mem_edits] at hedit
  rcases hfound : lookup key (edit.keyBy key) entries with _ | entry
  · simp [hfound, expected] at hedit
  · simp [hfound, expected, hsame entry (mem_of_lookup hfound)] at hedit

end EditsAt

section Patch

variable (key)

/-- Carry one edit out: remove, replace or insert by key. -/
def patchOne (entries : List α) : Edit α → List α
  | .delete before => entries.filter fun entry => key entry ≠ key before
  | .update before after => entries.map fun entry => if key entry = key before then after else entry
  | .create after => entries ++ [after]

def patch (entries : List α) (edits : List (Edit α)) : List α :=
  edits.foldl (patchOne key) entries

/-- The effect of an edit on the entry under its key. -/
def patchEntry : Option α → Edit α → Option α
  | _, .delete _ => none
  | entry, .update _ after => entry.map fun _ => after
  | _, .create after => some after

/-- An update does not move its entry to another key. -/
def KeepsKey : Edit α → Prop
  | .update before after => key after = key before
  | _ => True

end Patch

section Patched

variable {k : κ} {entries : List α} {edit : Edit α} {changes : List (Edit α)}

theorem lookup_filter_ne {other : κ} :
    lookup key k (entries.filter fun entry => key entry ≠ other) =
      if other = k then none else lookup key k entries := by
  by_cases hother : other = k
  · rw [if_pos hother, lookup_eq_none]
    intro entry hentry
    simpa [hother] using (mem_filter.mp hentry).2
  · rw [if_neg hother]
    unfold lookup
    rw [← filter_reverse, List.find?_filter]
    congr 1
    funext entry
    by_cases hkey : key entry = k <;> simp [hkey, Ne.symm hother]

theorem lookup_map_replace {before after : α} (hkey : key after = key before) :
    lookup key k (entries.map fun entry => if key entry = key before then after else entry) =
      if key before = k then (lookup key k entries).map fun _ => after
      else lookup key k entries := by
  induction entries using List.reverseRecOn with
  | nil => simp [lookup]
  | append_singleton front last ih =>
    rw [map_append, map_singleton, lookup_append, lookup_append, ih]
    by_cases hlast : key last = key before
    · by_cases hk : key before = k <;> simp [hlast, hk, hkey]
    · by_cases hk : key before = k
      · have hne : key last ≠ k := fun h => hlast (h.trans hk.symm)
        simp [hk, hne]
      · simp [hlast, hk]

theorem lookup_patchOne (hkeeps : KeepsKey key edit) : lookup key k (patchOne key entries edit) =
    if edit.keyBy key = k then patchEntry (lookup key k entries) edit
    else lookup key k entries := by
  cases edit with
  | delete before => exact lookup_filter_ne
  | update before after => exact lookup_map_replace hkeeps
  | create after => exact lookup_append

/-- Only the edits of a key matter to its entry. -/
theorem lookup_patch (hkeeps : ∀ edit ∈ changes, KeepsKey key edit) :
    lookup key k (patch key entries changes) =
      (changes.filter fun edit => edit.keyBy key = k).foldl patchEntry (lookup key k entries) := by
  induction changes generalizing entries with
  | nil => rfl
  | cons edit rest ih =>
    have hrest := @ih (patchOne key entries edit)
      fun other hother => hkeeps other (mem_cons_of_mem edit hother)
    rw [lookup_patchOne (hkeeps edit mem_cons_self)] at hrest
    unfold patch at hrest ⊢
    rw [foldl_cons, hrest, filter_cons]
    by_cases hk : edit.keyBy key = k <;> simp [hk]

/-- Every insertion finds its key free. -/
def Fits (key : α → κ) : List α → List (Edit α) → Prop
  | _, [] => True
  | entries, edit :: rest =>
    (∀ after, edit = .create after → lookup key (key after) entries = none) ∧
    Fits key (patchOne key entries edit) rest

theorem nodup_patchOne (hnodup : (entries.map key).Nodup) (hkeeps : KeepsKey key edit)
    (hfree : ∀ after, edit = .create after → lookup key (key after) entries = none) :
    ((patchOne key entries edit).map key).Nodup := by
  cases edit with
  | delete before => exact hnodup.sublist (filter_sublist.map key)
  | update before after =>
    have hsame : key after = key before := hkeeps
    have hkeys : (patchOne key entries (.update before after)).map key = entries.map key := by
      simp only [patchOne, map_map]
      apply map_congr_left
      intro entry _
      by_cases hentry : key entry = key before <;> simp [hentry, hsame]
    rw [hkeys]
    exact hnodup
  | create after =>
    have hnew : key after ∉ entries.map key := by
      rw [← lookup_isSome, hfree after rfl]
      simp
    simpa [patchOne, nodup_append, hnodup] using hnew

theorem nodup_patch (hnodup : (entries.map key).Nodup)
    (hkeeps : ∀ edit ∈ changes, KeepsKey key edit)
    (hfits : Fits key entries changes) :
    ((patch key entries changes).map key).Nodup := by
  induction changes generalizing entries with
  | nil => exact hnodup
  | cons edit rest ih =>
    exact ih (nodup_patchOne hnodup (hkeeps edit mem_cons_self) hfits.1)
      (fun other hother => hkeeps other (mem_cons_of_mem edit hother))
      hfits.2

/-- Edits with at most one edit for each key fit. -/
theorem fits_of_single (hkeeps : ∀ edit ∈ changes, KeepsKey key edit)
    (hsingle : ∀ k, ∀ edit, ∀ rest : List (Edit α),
      changes.filter (fun edit => edit.keyBy key = k) = edit :: rest →
      rest = [] ∧ ∀ after, edit = .create after → lookup key k entries = none) :
    Fits key entries changes := by
  induction changes generalizing entries with
  | nil => trivial
  | cons edit rest ih =>
    obtain ⟨hlast, hfree⟩ := hsingle (edit.keyBy key) edit
      (rest.filter fun other => other.keyBy key = edit.keyBy key) (by simp)
    constructor
    · intro after hafter
      have hnone := hfree after hafter
      subst hafter
      exact hnone
    · refine ih (fun other hother => hkeeps other (mem_cons_of_mem edit hother)) ?_
      intro k other tail hfilter
      have hne : edit.keyBy key ≠ k := by
        rintro rfl
        simp [hlast] at hfilter
      rw [lookup_patchOne (hkeeps edit mem_cons_self), if_neg hne]
      exact hsingle k other tail (by simpa [filter_cons, hne] using hfilter)

end Patched

section Correct

variable {same : α → α → Bool} {declared live : List α} {k : κ}

theorem keepsKey_of_mem_edits {edit : Edit α}
    (hedit : edit ∈ edits key same declared live) : KeepsKey key edit := by
  have hat := mem_edits.mp hedit
  cases edit with
  | delete | create => trivial
  | update before after =>
    unfold expected at hat
    repeat' split at hat
    all_goals cases hat
    next hafter _ => exact (key_of_lookup hafter :)

/-- Only live entries are deleted. -/
theorem mem_of_delete_mem_edits {before : α}
    (hedit : .delete before ∈ edits key same declared live) :
    before ∈ live := by
  have hat := mem_edits.mp hedit
  unfold expected at hat
  repeat' split at hat
  all_goals cases hat
  next hlive => exact mem_of_lookup hlive

/-- An entry is created only where none is live. -/
theorem expected_create {entry before : Option α} {after : α}
    (hcreate : expected same entry before = some (.create after)) :
    before = none := by
  unfold expected at hcreate
  repeat' split at hcreate
  all_goals cases hcreate
  rfl

/-- The patched entry under a key: the declared one, or a live one that is the
same. -/
theorem lookup_patch_edits : lookup key k (patch key live (edits key same declared live)) =
      match lookup key k declared, lookup key k live with
      | some after, some before => if same before after then some before else some after
      | some after, none => some after
      | none, _ => none := by
  rw [lookup_patch fun edit => keepsKey_of_mem_edits, edits_at]
  rcases lookup key k declared with _ | after <;>
    rcases lookup key k live with _ | before <;> simp [expected, patchEntry]
  cases same before after <;> simp

theorem nodup_patch_edits (hnodup : (live.map key).Nodup) :
    ((patch key live (edits key same declared live)).map key).Nodup := by
  apply nodup_patch hnodup fun edit => keepsKey_of_mem_edits
  apply fits_of_single fun edit => keepsKey_of_mem_edits
  intro k edit rest hfilter
  rw [edits_at] at hfilter
  rcases hat : expected same (lookup key k declared) (lookup key k live) with
    _ | found
  · simp [hat] at hfilter
  · obtain ⟨rfl, rfl⟩ : found = edit ∧ [] = rest := by simpa [hat] using hfilter
    refine ⟨rfl, fun after hafter => ?_⟩
    exact expected_create (hafter ▸ hat)

end Correct

end KeyedDiff
