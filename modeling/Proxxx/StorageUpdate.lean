/-
Updates of storages.  Only what differs is sent, and what is declared empty is
listed to be deleted; a field that is fixed at the creation of a storage stops
the update before anything is sent.
-/
import Proxxx.StateUpdates

namespace Proxxx

open FieldStore KeyedDiff List

section Plan

variable {name key before after : String} {isCsv oldFlag newFlag : Bool}
variable {plan : List (Params × List String)} {fields : StoredFields}
variable {params : Params}

@[simp]
theorem values_updateText : values name (updateText key before after isCsv).1 =
    if key = name ∧ sameText isCsv before after = false ∧ after ≠ "" then [after]
    else [] := by
  unfold updateText
  split_ifs <;> simp_all

@[simp]
theorem mem_updateText : name ∈ (updateText key before after isCsv).2 ↔
    name = key ∧ sameText isCsv before after = false ∧ after = "" := by
  unfold updateText
  split_ifs <;> simp_all

theorem updateText_eq_nil : updateText key before after isCsv = ([], []) ↔
    sameText isCsv before after = true := by
  unfold updateText
  split_ifs <;> simp_all

@[simp]
theorem values_updateFlag : values name (updateFlag key oldFlag newFlag).1 =
      if key = name ∧ oldFlag = false ∧ newFlag = true then ["1"]
      else [] := by cases oldFlag <;> cases newFlag <;> simp [updateFlag]

@[simp]
theorem mem_updateFlag : name ∈ (updateFlag key oldFlag newFlag).2 ↔
    name = key ∧ oldFlag = true ∧ newFlag = false := by
  cases oldFlag <;> cases newFlag <;> simp [updateFlag]

theorem updateFlag_eq_nil : updateFlag key oldFlag newFlag = ([], []) ↔ oldFlag = newFlag := by
  cases oldFlag <;> cases newFlag <;> simp [updateFlag]

/-- Nothing is sent exactly if nothing is sent for any field. -/
theorem fieldsBody_eq_nil : fieldsBody plan = [] ↔ ∀ field ∈ plan, field = ([], []) := by
  have hparts : fieldsBody plan = [] ↔ plan.flatMap Prod.fst = [] ∧ plan.flatMap Prod.snd = [] := by
    by_cases hdelete : plan.flatMap Prod.snd = [] <;> simp [fieldsBody, hdelete]
  rw [hparts, flatMap_eq_nil_iff, flatMap_eq_nil_iff]
  constructor
  · rintro ⟨hparams, hdelete⟩ field hfield
    exact Prod.ext (hparams field hfield) (hdelete field hfield)
  · intro hplan
    exact ⟨fun field hfield => by rw [hplan field hfield],
      fun field hfield => by rw [hplan field hfield]⟩

theorem values_fieldsBody (hname : name ≠ "delete") : values name (fieldsBody plan) =
    values name (plan.flatMap Prod.fst) := by
  by_cases hdelete : plan.flatMap Prod.snd = []
  · simp [fieldsBody, hdelete]
  · simp [fieldsBody, hdelete, hname.symm]

/-- The names to be cleared arrive as they were listed. -/
theorem listed_fieldsBody (hset : values "delete" (plan.flatMap Prod.fst) = [])
    (hplain : ∀ name ∈ plan.flatMap Prod.snd, ',' ∉ name.toList) :
    listed "delete" (fieldsBody plan) = plan.flatMap Prod.snd := by
  by_cases hdelete : plan.flatMap Prod.snd = []
  · rw [listed_eq_nil, hdelete]
    simp [fieldsBody, hdelete, hset]
  · have hvalues : values "delete" (fieldsBody plan) =
        [RustStr.join (plan.flatMap Prod.snd) ','] := by simp [fieldsBody, hdelete, hset]
    rw [listed, hvalues, flatMap_singleton]
    exact RustStr.split_join hplain hdelete

end Plan

section Update

variable {before after : StorageDecl} {fields : StoredFields} {name : String}

/-- What the update of a storage sends. -/
def storageBody (before after : StorageDecl) : Params :=
  fieldsBody (storageFields before after)

theorem listed_storageBody : listed "delete" (storageBody before after) =
    (storageFields before after).flatMap Prod.snd := by
  apply listed_fieldsBody
  · simp [storageFields]
  · simp +contextual [storageFields, or_imp]

theorem values_storageBody (hname : name ≠ "delete") : values name (storageBody before after) =
    values name ((storageFields before after).flatMap Prod.fst) :=
  values_fieldsBody hname

theorem immutableChanges_eq_nil : immutableChanges before after = [] ↔
      before.storageType = after.storageType ∧ before.path = after.path ∧
      before.export = after.export ∧ before.datastore = after.datastore ∧
      before.vgname = after.vgname ∧ before.thinpool = after.thinpool := by simp [immutableChanges]

theorem planned_text {stored declared : String} :
    (if sameText false stored declared then stored else declared) = declared := by
  by_cases hsame : stored = declared <;> simp [sameText, hsame]

theorem planned_csv {stored declared : String} :
    normalizeCsv (if sameText true (normalizeCsv stored) declared then stored
      else declared) = normalizeCsv declared := by
  by_cases hsame : normalizeCsv stored = normalizeCsv declared <;>
    simp [sameText, normalizeCsv_normalizeCsv, hsame]

/-- A field that is fixed keeps its value. -/
theorem storageBody_fixed {old new : String} (hsame : old = new)
    (hold : storedText name fields = old)
    (hparams : values name ((storageFields before after).flatMap Prod.fst) = [])
    (hlisted : name ∉ (storageFields before after).flatMap Prod.snd)
    (hname : name ≠ "delete" := by simp) :
    storedText name (putFields (storageBody before after) fields) = new := by
  have hkept : values name (putFields (storageBody before after) fields) = values name fields :=
    values_kept (by rwa [values_storageBody hname]) (by rwa [listed_storageBody]) hname
  rw [storedText, hkept, ← hsame, ← hold, storedText]

theorem storageBody_planned {old new : String} {isCsv : Bool}
    (hparams : values name ((storageFields before after).flatMap Prod.fst) =
      if sameText isCsv old new = false ∧ new ≠ "" then [new] else [])
    (hlisted : name ∈ (storageFields before after).flatMap Prod.snd ↔
      sameText isCsv old new = false ∧ new = "")
    (hname : name ≠ "delete" := by simp) :
    storedText name (putFields (storageBody before after) fields) =
      if sameText isCsv old new then storedText name fields else new := by
  rw [storedText_when (by rwa [values_storageBody hname]) (by rwa [listed_storageBody]) hname]
  cases sameText isCsv old new <;> rfl

theorem storageBody_flag {old new : Bool} (hold : storedFlag name fields = old)
    (hparams : values name ((storageFields before after).flatMap Prod.fst) =
      if old = false ∧ new = true then ["1"] else [])
    (hlisted : name ∈ (storageFields before after).flatMap Prod.snd ↔ old = true ∧ new = false)
    (hname : name ≠ "delete" := by simp) :
    storedFlag name (putFields (storageBody before after) fields) = new := by
  rw [storedFlag] at hold ⊢
  rw [values_putFields hname, values_storageBody hname, hparams, listed_storageBody]
  simp only [hlisted]
  cases old <;> cases new <;> simp_all

/-- What is exported behind the update of an exported storage. -/
theorem exported_storageBody (hbefore : before = exportedStorage after.storage fields)
    (himmutable : immutableChanges before after = []) :
    exportedStorage after.storage (putFields (storageBody before after) fields) = { after with
        content := normalizeCsv after.content, nodes := normalizeCsv after.nodes } := by
  obtain ⟨htype, hpath, hexport, hdatastore, hvgname, hthinpool⟩ :=
    immutableChanges_eq_nil.mp himmutable
  subst hbefore
  simp only [exportedStorage, readStorage, StorageDecl.mk.injEq, true_and]
  refine ⟨storageBody_fixed htype rfl ?_ ?_, (congrArg normalizeCsv
      (storageBody_planned ?_ ?_)).trans planned_csv,
    (congrArg normalizeCsv (storageBody_planned ?_ ?_)).trans planned_csv,
    storageBody_flag rfl ?_ ?_, storageBody_flag rfl ?_ ?_, storageBody_fixed hpath rfl ?_ ?_,
    (storageBody_planned ?_ ?_).trans planned_text, (storageBody_planned ?_ ?_).trans planned_text,
    storageBody_fixed hexport rfl ?_ ?_, storageBody_fixed hdatastore rfl ?_ ?_,
    (storageBody_planned ?_ ?_).trans planned_text, (storageBody_planned ?_ ?_).trans planned_text,
    storageBody_fixed hvgname rfl ?_ ?_, storageBody_fixed hthinpool rfl ?_ ?_⟩
  all_goals simp [storageFields]

/-- An exported storage matches the declared one exactly if nothing is to be
sent and nothing that is fixed differs. -/
theorem storageMatches_iff_unsent (hbefore : before = exportedStorage after.storage fields) :
    storageMatches before after = true ↔
      immutableChanges before after = [] ∧ storageBody before after = [] := by
  have hcontent : normalizeCsv before.content = before.content := by
    rw [hbefore, exportedStorage, normalizeCsv_normalizeCsv]
  have hnodes : normalizeCsv before.nodes = before.nodes := by
    rw [hbefore, exportedStorage, normalizeCsv_normalizeCsv]
  have hname : before.storage = after.storage := by
    rw [hbefore]
    rfl
  rw [immutableChanges_eq_nil, storageBody, fieldsBody_eq_nil]
  cases before
  cases after
  simp only at hname hcontent hnodes
  simp only [storageMatches, storageFields, forall_mem_cons,
    updateText_eq_nil, updateFlag_eq_nil, sameText, hcontent, hnodes]
  simp [hname]
  tauto

theorem applyStorageUpdate_of_immutable (himmutable : immutableChanges before after ≠ []) :
    ∃ text, applyStorageUpdate before after = .error text := by
  rw [applyStorageUpdate, storageUpdateParams, if_pos himmutable]
  exact ⟨_, rfl⟩

theorem applyStorageUpdate_of_mutable (himmutable : immutableChanges before after = []) :
    applyStorageUpdate before after = .ok (if storageBody before after = [] then []
        else [.updateClusterStorage after.storage (storageBody before after)]) := by
  rw [applyStorageUpdate, storageUpdateParams, if_neg (not_not.mpr himmutable)]
  by_cases hbody : fieldsBody (storageFields before after) = [] <;>
    simp [storageBody, hbody, bind, Except.bind, pure, Except.pure]

end Update

/-- The update of a storage stops before anything is sent exactly if a field
that is fixed differs; otherwise it leaves the storage as declared, and it sends
nothing exactly if there was nothing to change. -/
theorem storage_update_settles (store : PveStore) (other : StateReadView)
    (declared live : List StorageDecl) (before after : StorageDecl)
    (hlive : exportStorage (store.view other) = .ok live)
    (hbefore : lookup StorageDecl.storage after.storage live = some before)
    (hafter : lookup StorageDecl.storage after.storage declared = some after) :
    ((∃ text, applyStorageUpdate before after = .error text) ↔
      before.storageType ≠ after.storageType ∨ before.path ≠ after.path ∨
      before.export ≠ after.export ∨ before.datastore ≠ after.datastore ∨
      before.vgname ≠ after.vgname ∨ before.thinpool ≠ after.thinpool) ∧
    (∀ calls, applyStorageUpdate before after = .ok calls →
      store.Settles other calls exportStorage diffStorage declared after.storage) ∧
    (applyStorageUpdate before after = .ok [] ↔ ∀ change ∈ diffStorage declared live,
        change.identity ≠ after.storage) := by
  obtain ⟨fields, hfields, hread⟩ : ∃ fields, store.storages.get after.storage = some fields ∧
        exportedStorage after.storage fields = before :=
    storedStorages.stored_of_exported hlive hbefore
  have hquiet : (∀ change ∈ diffStorage declared live,
      change.identity ≠ after.storage) ↔ storageMatches before after = true :=
    storedStorages.quiet_iff hafter hbefore
  rw [hquiet, storageMatches_iff_unsent hread.symm]
  by_cases himmutable : immutableChanges before after = []
  · have happly := applyStorageUpdate_of_mutable himmutable
    refine ⟨?_, ?_, ?_⟩
    · have hsame := immutableChanges_eq_nil.mp himmutable
      simp [happly, hsame]
    · intro calls hcalls
      cases happly.symm.trans hcalls
      by_cases hbody : storageBody before after = []
      · have hmatches := (storageMatches_iff_unsent hread.symm).mpr ⟨himmutable, hbody⟩
        rw [if_pos hbody]
        exact ⟨store, live, rfl, hlive, hquiet.mpr hmatches⟩
      · rw [if_neg hbody]
        obtain ⟨next, fresh, hrun, hfresh, hitem⟩ : ∃ next fresh,
            store.run [.updateClusterStorage after.storage (storageBody before after)] = .ok next ∧
            exportStorage (next.view other) = .ok fresh ∧
            lookup StorageDecl.storage after.storage fresh = some (exportedStorage after.storage
                (putFields (storageBody before after) fields)) :=
          storedStorages.exported_of_call _ other hfields
        rw [exported_storageBody hread.symm himmutable] at hitem
        refine (storedStorages.settles_iff hafter hrun hfresh hitem).mpr ?_
        simp [storedStorages, storageMatches]
    · simp [happly, himmutable]
  · obtain ⟨text, happly⟩ := applyStorageUpdate_of_immutable himmutable
    have hdiffer := mt immutableChanges_eq_nil.mpr himmutable
    refine ⟨?_, ?_, ?_⟩
    · simp only [happly, Except.error.injEq, exists_eq', true_iff]
      tauto
    · intro calls hcalls
      cases happly.symm.trans hcalls
    · simp [happly, himmutable]

namespace StorageWitness

def store : PveStore :=
  { PveStore.blank with
    storages := ⟨[("local", [("type", "dir"), ("content", "iso,backup"),
      ("nodes", "b,a"), ("disable", "1"), ("path", "/var/lib/vz")])], by decide⟩
    plainNames := by decide }

def live : StorageDecl where
  storage := "local"
  storageType := "dir"
  content := "backup,iso"
  nodes := "a,b"
  disable := true
  shared := false
  path := "/var/lib/vz"
  pool := ""
  server := ""
  «export» := ""
  datastore := ""
  fingerprint := ""
  username := ""
  vgname := ""
  thinpool := ""

/-- On all nodes and for images too, and no longer disabled. -/
def widened : StorageDecl :=
  { live with content := "iso,images,backup", nodes := "", disable := false }

theorem storage_update_settles_widened : applyStorageUpdate live widened =
      .ok [.updateClusterStorage "local" [("content", "iso,images,backup"),
        ("delete", "nodes,disable")]] ∧
    store.Settles ExportWitness.view
      [.updateClusterStorage "local" [("content", "iso,images,backup"),
        ("delete", "nodes,disable")]]
      exportStorage diffStorage [widened] "local" := by
  have hcalls : applyStorageUpdate live widened =
      .ok [.updateClusterStorage "local" [("content", "iso,images,backup"),
        ("delete", "nodes,disable")]] := by decide +kernel
  exact ⟨hcalls, (storage_update_settles store ExportWitness.view [widened]
    [live] live widened (by decide +kernel) (by decide +kernel)
    (by decide +kernel)).2.1 _ hcalls⟩

end StorageWitness

end Proxxx
