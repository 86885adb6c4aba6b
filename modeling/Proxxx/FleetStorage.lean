/-
The storage of a fleet, summed over the rows that its nodes report.  A row counts when
its name is new, though a local pool is another one on every node.
-/
import Proxxx.GuestPreflight
import Mathlib

namespace Proxxx.Fleet

structure StoragePool where
  storage : String
  node : String
  used : Nat
  total : Nat
  shared : Bool
deriving Repr, DecidableEq

/-- One round of the fold: the names seen so far and the sum. -/
def dedupStep (field : StoragePool → Nat) (state : List String × Nat) (pool : StoragePool) :
    List String × Nat :=
  if pool.storage ∈ state.1 then state
  else (pool.storage :: state.1, min (state.2 + field pool) u64Max)

def dedupStorage (field : StoragePool → Nat) (storage : List StoragePool) : Nat :=
  (storage.foldl (dedupStep field) ([], 0)).2

def storageUsed (storage : List StoragePool) : Nat :=
  dedupStorage (·.used) storage

def storageTotal (storage : List StoragePool) : Nat :=
  dedupStorage (·.total) storage

/-- What tells pools apart: a shared one has no node of its own. -/
def StoragePool.identity (pool : StoragePool) : String × Option String :=
  (pool.storage, if pool.shared then none else some pool.node)

/-- The rows that pass a test against the rows before them. -/
def rowsThat (test : List StoragePool → StoragePool → Bool) :
    List StoragePool → List StoragePool → List StoragePool
  | _, [] => []
  | before, pool :: rest =>
    if test before pool then pool :: rowsThat test (pool :: before) rest
    else rowsThat test (pool :: before) rest

def newName (before : List StoragePool) (pool : StoragePool) : Bool :=
  before.all (·.storage != pool.storage)

def newPool (before : List StoragePool) (pool : StoragePool) : Bool :=
  before.all (·.identity != pool.identity)

/-- The field over every shared pool once, and over every local one once for each node
that has it. -/
def poolSum (field : StoragePool → Nat) (storage : List StoragePool) : Nat :=
  min ((rowsThat newPool [] storage).map field).sum u64Max

/-- A pool that has the name of another one. -/
def namesake (before : List StoragePool) (pool : StoragePool) : Bool :=
  newPool before pool && !newName before pool

/-- The namesakes are empty, or the sum without them is at its limit. -/
def Covered (field : StoragePool → Nat) (storage : List StoragePool) : Prop :=
  (∀ pool ∈ rowsThat namesake [] storage, field pool = 0) ∨
  u64Max ≤ ((rowsThat newName [] storage).map field).sum

variable {field : StoragePool → Nat} {before storage : List StoragePool}

theorem newPool_of_newName {pool : StoragePool} (hname : newName before pool = true) :
    newPool before pool = true := by
  simp only [newName, newPool, List.all_eq_true, bne_iff_ne] at hname ⊢
  exact fun earlier hearlier hsame => hname earlier hearlier (congrArg Prod.fst hsame)

theorem foldl_dedupStep {seen : List String} {sum : Nat} (hsum : sum ≤ u64Max)
    (hseen : ∀ name, name ∈ seen ↔ ∃ earlier ∈ before, earlier.storage = name) :
    (storage.foldl (dedupStep field) (seen, sum)).2 =
      min (sum + ((rowsThat newName before storage).map field).sum) u64Max := by
  induction storage generalizing before seen sum with
  | nil => exact (Nat.min_eq_left hsum).symm
  | cons pool rest ih =>
    have hnew : newName before pool = true ↔ pool.storage ∉ seen := by simp [newName, hseen]
    rw [List.foldl_cons, dedupStep, rowsThat]
    by_cases hin : pool.storage ∈ seen
    · rw [if_pos hin, if_neg (by simpa [hnew] using hin)]
      exact ih hsum (by grind)
    · have hnext : ∀ name, name ∈ pool.storage :: seen ↔
          ∃ earlier ∈ pool :: before, earlier.storage = name := by simp [hseen, eq_comm]
      rw [if_neg hin, if_pos (hnew.mpr hin), ih (Nat.min_le_right _ _) hnext, List.map_cons,
        List.sum_cons]
      omega

theorem sum_newPool : ((rowsThat newPool before storage).map field).sum =
    ((rowsThat newName before storage).map field).sum +
      ((rowsThat namesake before storage).map field).sum := by
  induction storage generalizing before with
  | nil => rfl
  | cons pool rest ih =>
    simp only [rowsThat]
    by_cases hname : newName before pool = true
    · simp [namesake, hname, newPool_of_newName hname, ih, Nat.add_assoc]
    · by_cases hpool : newPool before pool = true
      · simp [namesake, hname, hpool, ih, Nat.add_left_comm]
      · simp [namesake, hname, hpool, ih]

theorem dedupStorage_eq_iff : dedupStorage field storage = poolSum field storage ↔
    Covered field storage := by
  have hcounted : dedupStorage field storage =
      min (0 + ((rowsThat newName [] storage).map field).sum) u64Max :=
    foldl_dedupStep (Nat.zero_le _) (by simp)
  have hempty := @List.sum_eq_zero_iff_forall_eq_nat ((rowsThat namesake [] storage).map field)
  rw [List.forall_mem_map] at hempty
  rw [hcounted, poolSum, sum_newPool, Covered, ← hempty]
  omega

/-- The sums are those over the pools exactly where nothing is lost behind a name. -/
theorem fleet_storage_exact_iff (storage : List StoragePool) :
    (storageUsed storage = poolSum (·.used) storage ∧
      storageTotal storage = poolSum (·.total) storage) ↔
    Covered (·.used) storage ∧ Covered (·.total) storage :=
  and_congr dedupStorage_eq_iff dedupStorage_eq_iff

/-- Two nodes with a local pool of the same name. -/
theorem local_pools_counted_once :
    storageTotal [⟨"local", "pve1", 10, 100, false⟩, ⟨"local", "pve2", 20, 100, false⟩] = 100 ∧
    poolSum (·.total) [⟨"local", "pve1", 10, 100, false⟩, ⟨"local", "pve2", 20, 100, false⟩] =
      200 := by decide

end Proxxx.Fleet
