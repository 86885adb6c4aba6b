/-
The reducer of the interface: the guests that it shows.  A node that cannot be
asked keeps the guests it had, and nothing keeps a guest that has moved from being
shown twice.
-/
import Proxxx.GuestPreflight
import Proxxx.StepSystem

namespace Proxxx

open StepSystem List

section Guests

/-- A fetch of the guests, and the nodes whose guests could not be fetched. -/
structure GuestsLoaded where
  guests : List Guest
  failedNodes : List String

namespace GuestsLoaded

variable (load : GuestsLoaded) (before : List Guest)

/-- The guests that a failed node had. -/
def known : List Guest :=
  before.filter fun guest => load.failedNodes.contains guest.node

/-- The guests after a fetch.  A failed node keeps those it had; if it had none,
what the cluster says of it counts. -/
def update : List Guest :=
  load.guests.filter (fun guest =>
    !(load.known before).any (·.node == guest.node)) ++ load.known before

/-- No guest that comes in has the number of one that is kept. -/
def Apart : Prop :=
  ∀ guest ∈ load.guests, (∀ old ∈ load.known before, old.node ≠ guest.node) →
    ∀ old ∈ load.known before, guest.vmid ≠ old.vmid

end GuestsLoaded

def OnePerVmid (guests : List Guest) : Prop :=
  (guests.map (·.vmid)).Nodup

variable {load : GuestsLoaded} {before : List Guest}

theorem mem_update {guest : Guest} : guest ∈ load.update before ↔
    guest ∈ load.guests ∧ (∀ old ∈ load.known before, old.node ≠ guest.node) ∨
      guest ∈ load.known before := by
  simp [GuestsLoaded.update]

theorem mem_update_of_reported {guest : Guest} (hguest : guest ∈ load.guests)
    (hworks : guest.node ∉ load.failedNodes) : guest ∈ load.update before := by
  refine mem_update.mpr (.inl ⟨hguest, fun old hold hnode => hworks ?_⟩)
  have hfailed := (mem_filter.mp hold).2
  rwa [contains_iff_mem, hnode] at hfailed

theorem onePerVmid_update_iff (hbefore : OnePerVmid before) (hguests : OnePerVmid load.guests) :
    OnePerVmid (load.update before) ↔ load.Apart before := by
  have hknown : ((load.known before).map (·.vmid)).Nodup := hbefore.sublist (filter_sublist.map _)
  have hnew : ((load.guests.filter fun guest =>
      !(load.known before).any (·.node == guest.node)).map (·.vmid)).Nodup :=
    hguests.sublist (filter_sublist.map _)
  rw [OnePerVmid, GuestsLoaded.update, map_append, nodup_append]
  simp only [hknown, hnew, true_and, forall_mem_map, mem_filter, GuestsLoaded.Apart, and_imp]
  simp

/-- The fetches of a session, from no guests on. -/
def guestsStep (before : List Guest) (load : GuestsLoaded) : Option (List Guest) :=
  some (load.update before)

theorem guests_onePerVmid_iff {loads : List GuestsLoaded}
    (hloads : ∀ load ∈ loads, OnePerVmid load.guests) :
    StepsMeet guestsStep (fun before load =>
        OnePerVmid (load.update before) ∧ ∀ guest ∈ load.guests,
          guest.node ∉ load.failedNodes → guest ∈ load.update before) [] loads ↔
      StepsMeet guestsStep (fun before load => load.Apart before) [] loads := by
  have hstart : OnePerVmid [] := nodup_nil
  generalize ([] : List Guest) = before at hstart
  induction loads generalizing before with
  | nil => exact Iff.rfl
  | cons load rest ih =>
    obtain ⟨hload, hrest⟩ := forall_mem_cons.mp hloads
    have hone := onePerVmid_update_iff hstart hload
    constructor
    · rintro ⟨⟨hsingle, -⟩, hlater⟩
      refine ⟨hone.mp hsingle, fun next hnext => ?_⟩
      obtain rfl := Option.some.inj hnext
      exact (ih hrest _ hsingle).mp (hlater _ rfl)
    · rintro ⟨hapart, hlater⟩
      have hsingle := hone.mpr hapart
      refine ⟨⟨hsingle, fun _ => mem_update_of_reported⟩, fun next hnext => ?_⟩
      obtain rfl := Option.some.inj hnext
      exact (ih hrest _ hsingle).mpr (hlater _ rfl)

namespace ReducerWitness

def guest (node : String) : Guest :=
  ⟨100, .stopped, .qemu, node, 0, "", "", "", 0, 0⟩

/-- The guest is migrated, and its old node does not answer. -/
theorem migrated_guest_twice : (GuestsLoaded.update ⟨[guest "pve2"], ["pve1"]⟩
    (GuestsLoaded.update ⟨[guest "pve1"], []⟩ [])) =
    [guest "pve2", guest "pve1"] := by
  decide +kernel

theorem loaded_guest_once : OnePerVmid (GuestsLoaded.update ⟨[guest "pve1"], []⟩ []) := by
  have hruns := (@guests_onePerVmid_iff [⟨[guest "pve1"], []⟩] (by simp [OnePerVmid])).mpr
    ⟨by simp [GuestsLoaded.Apart, GuestsLoaded.known], fun _ _ => trivial⟩
  exact hruns.1.1

end ReducerWitness

end Guests

end Proxxx
