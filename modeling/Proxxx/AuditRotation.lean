/-
Rotation of the audit key under faults.  `rotateKeyAt` is the program with
every operation that can fail and every point at which its process can stop;
its whole fault behaviour is four ways to end, and which faults lead to the
one that loses the log is a condition on the faults alone.
-/
import Proxxx.AuditKeys
import Proxxx.FaultProgram

namespace Proxxx

open TagChain FaultProgram

/-- The key directory and the committed rows. -/
structure RotationState where
  dir : KeyDir
  rows : List RawAuditRow

inductive RotateError where
  | nothingToRotate
  | unusableKey (reason : KeyError)
  | readKey
  | retiredKeyExists
  | openDb
  | migrateKeyId
  | beginTransaction
  | createKeyFile (name : String)
  | writeKeyFile (name : String)
  | fsyncKeyFile (name : String)
  | relabelRows
  | getrandom
  | renameKey
  | fsyncDirectory
  | replacePrimary (cause : RotateError)
  | commit
  | restorePrimary (cause restore : RotateError)
deriving Repr, DecidableEq

/-- Faults of writing a new key file, and how many bytes a write that does not
complete leaves behind. -/
structure WriteFaults where
  create : Fault
  write : Fault
  written : Nat
  sync : Fault

structure ReplaceFaults where
  removeTmp : Fault
  writeTmp : WriteFaults
  rename : Fault
  syncDir : Fault
  removeTmpAfter : Fault

structure RotateFaults where
  readKey : Fault
  openDb : Fault
  migrateKeyId : Fault
  beginTransaction : Fault
  retired : WriteFaults
  relabelRows : Fault
  getrandom : Fault
  replace : ReplaceFaults
  commit : Fault
  restore : ReplaceFaults
  undoRetired : Fault
  syncRetiredDir : Fault

abbrev Rotation := Program RotationState RotateError

def RotationState.setFile (name : String) (file : Option KeyFile)
    (state : RotationState) : RotationState :=
  { state with dir := state.dir.set name file }

/-- Write the key to a new file: `create_new` with mode 0600, then the bytes,
then an fsync. -/
def writeNewKeyFile (faults : WriteFaults) (name : String) (key : Key) : Rotation Unit := do
  let state ← get
  ensure (state.dir name).isNone (.createKeyFile name)
  attempt faults.create (.createKeyFile name) (RotationState.setFile name (some (newKeyFile [])))
  -- A write that fails or is cut short has still written some of the bytes.
  let bytes := if faults.write = .none then key else key.take faults.written
  modify (RotationState.setFile name (some (newKeyFile bytes)))
  attempt faults.write (.writeKeyFile name) id
  attempt faults.sync (.fsyncKeyFile name) id

/-- Move the temporary file over the primary. -/
def RotationState.renameTmp (primary : String) (state : RotationState) : RotationState :=
  let tmp := rotateTmpPath primary
  { state with dir := (state.dir.set primary (state.dir tmp)).set tmp none }

/-- Replace the primary by a temporary file and a durable rename.  The fsync of
the directory comes after the rename, so the call can return an error although
the new primary is in place. -/
def replacePrimaryKey (faults : ReplaceFaults) (primary : String) (key : Key) : Rotation Unit := do
  let tmp := rotateTmpPath primary
  ignoring faults.removeTmp (RotationState.setFile tmp none)
  writeNewKeyFile faults.writeTmp tmp key
  onError (do
      attempt faults.rename .renameKey (RotationState.renameTmp primary)
      attempt faults.syncDir .fsyncDirectory id)
    fun e => do
      ignoring faults.removeTmpAfter (RotationState.setFile tmp none)
      throw (.error (.replacePrimary e))

/-- Remove the retired copy, whether or not that works, and pass the error
on. -/
def undoRetired (fault : Fault) (dest : String) (e : RotateError) : Rotation Unit := do
  ignoring fault (RotationState.setFile dest none)
  throw (.error e)

def RotationState.commitRelabel (keyId : String) (state : RotationState) : RotationState :=
  { state with rows := relabel keyId state.rows }

def rotateKeyAt (faults : RotateFaults) (primary : String) (secs : Nat)
    (newKey : Key) : Rotation String := do
  let state ← get
  ensure (state.dir primary).isSome .nothingToRotate
  attempt faults.readKey .readKey id
  let oldKey ← liftResult
    ((loadExistingKey state.dir primary).mapError .unusableKey)
  let keyId := retiredKeyId secs
  let dest := retiredKeyPathFor primary keyId
  ensure (state.dir dest).isNone .retiredKeyExists
  attempt faults.openDb .openDb id
  attempt faults.migrateKeyId .migrateKeyId id
  attempt faults.beginTransaction .beginTransaction id
  writeNewKeyFile faults.retired dest oldKey
  -- The relabelled rows become visible with the commit only.
  onError (attempt faults.relabelRows .relabelRows id) (undoRetired faults.undoRetired dest)
  onError (attempt faults.getrandom .getrandom id) (undoRetired faults.undoRetired dest)
  onError (replacePrimaryKey faults.replace primary newKey) (undoRetired faults.undoRetired dest)
  onError (attempt faults.commit .commit (RotationState.commitRelabel keyId))
    fun e => do
      let failure ← onError
        (do
          replacePrimaryKey faults.restore primary oldKey
          pure e)
        fun re => pure (.restorePrimary e re)
      undoRetired faults.undoRetired dest failure
  attempt faults.syncRetiredDir .fsyncDirectory id
  return keyId

section Faults

def WriteFaults.Completes (faults : WriteFaults) : Prop :=
  faults.create = .none ∧ faults.write = .none ∧ faults.sync = .none

/-- A replacement gets as far as its rename, given the temporary file an earlier
one may have left. -/
structure ReplaceFaults.Renames (faults : ReplaceFaults) (tmpFile : Option KeyFile) : Prop where
  cleared : faults.removeTmp = .none ∨ faults.removeTmp = .fails ∧ tmpFile = none
  written : faults.writeTmp.Completes
  renamed : faults.rename = .none

/-- The faults that lose the log: the rotation gets as far as renaming the new
primary into place, and then the directory cannot be synced, or the process
stops before the commit, or the commit fails and the old primary is not renamed
back. -/
structure RotateFaults.Interrupted (faults : RotateFaults) (primary : String)
    (secs : Nat) (dir : KeyDir) : Prop where
  unused : dir (retiredKeyPathFor primary (retiredKeyId secs)) = none
  readKey : faults.readKey = .none
  openDb : faults.openDb = .none
  migrateKeyId : faults.migrateKeyId = .none
  beginTransaction : faults.beginTransaction = .none
  retired : faults.retired.Completes
  relabelRows : faults.relabelRows = .none
  getrandom : faults.getrandom = .none
  replace : faults.replace.Renames (dir (rotateTmpPath primary))
  lost : faults.replace.syncDir ≠ .none ∨ faults.commit = .stops ∨
    faults.commit = .fails ∧ ¬faults.restore.Renames none

end Faults

section Endings

variable {primary keyId name : String} {oldKey newKey key : Key}
variable {state middle final : RotationState} {lost : Prop}

/-- Nothing but the file `name` may differ. -/
structure OnlyFile (name : String) (state final : RotationState) : Prop where
  rows : final.rows = state.rows
  files : ∀ other, other ≠ name → final.dir other = state.dir other

theorem OnlyFile.refl (name : String) (state : RotationState) : OnlyFile name state state :=
  ⟨rfl, fun _ _ => rfl⟩

theorem OnlyFile.trans (hfirst : OnlyFile name state middle)
    (hsecond : OnlyFile name middle final) : OnlyFile name state final :=
  ⟨hsecond.rows.trans hfirst.rows,
    fun other hother => (hsecond.files other hother).trans (hfirst.files other hother)⟩

theorem OnlyFile.setFile (name : String) (file : Option KeyFile)
    (state : RotationState) : OnlyFile name state (state.setFile name file) :=
  ⟨rfl, fun _ hother => state.dir.set_other file hother⟩

@[simp] theorem RotationState.setFile_dir_same (name : String)
    (file : Option KeyFile) (state : RotationState) :
    (state.setFile name file).dir name = file :=
  state.dir.set_same name file

/-- A key file is written exactly if the name is free and no fault gets in the
way. -/
theorem writeNewKeyFile_ends (faults : WriteFaults) (name : String) (key : Key)
    (state : RotationState) :
    Ends (writeNewKeyFile faults name key) state (fun _ final => OnlyFile name state final ∧
        final.dir name = some (newKeyFile key) ∧
        state.dir name = none ∧ faults.Completes)
      (fun _ final => OnlyFile name state final ∧ ¬(state.dir name = none ∧ faults.Completes)) := by
  have hrefl := OnlyFile.refl name state
  refine Ends.seq (Ends.get ?_)
  refine Ends.seq (Ends.ensure (fun hnone => ?_)
    fun hsome => ⟨hrefl, fun hcompletes => by simp [hcompletes.1] at hsome⟩)
  have hfree := Option.isNone_iff_eq_none.mp hnone
  refine Ends.seq (Ends.attempt_or (fun hcreate => ?_)
    fun hfault _ => ⟨hrefl, fun hcompletes => hfault hcompletes.2.1⟩)
  refine Ends.seq (Ends.modify ?_)
  have hwritten := (OnlyFile.setFile name (some (newKeyFile [])) state).trans
    (OnlyFile.setFile name (some (newKeyFile
      (if faults.write = .none then key else key.take faults.written))) _)
  refine Ends.seq (Ends.attempt_or (fun hwrite => ?_)
    fun hfault _ => ⟨hwritten, fun hcompletes => hfault hcompletes.2.2.1⟩)
  exact Ends.attempt_or
    (fun hsync => ⟨hwritten, by simp [hwrite], hfree, hcreate, hwrite, hsync⟩)
    fun hfault _ => ⟨hwritten, fun hcompletes => hfault hcompletes.2.2.2⟩

/-- The primary is the new key, and only the two files changed. -/
structure Replaced (primary : String) (key : Key) (state final : RotationState) : Prop where
  rows : final.rows = state.rows
  installed : final.dir primary = some (newKeyFile key)
  files : ∀ other, other ≠ primary → other ≠ rotateTmpPath primary →
    final.dir other = state.dir other

theorem Replaced.of_onlyFile (hbefore : OnlyFile (rotateTmpPath primary) state middle)
    (hreplaced : Replaced primary key middle final) :
    Replaced primary key state final :=
  ⟨hreplaced.rows.trans hbefore.rows, hreplaced.installed,
    fun other hprimary htmp => (hreplaced.files other hprimary htmp).trans
      (hbefore.files other htmp)⟩

theorem Replaced.then_onlyFile (hreplaced : Replaced primary key state middle)
    (hafter : OnlyFile (rotateTmpPath primary) middle final) :
    Replaced primary key state final :=
  ⟨hafter.rows.trans hreplaced.rows,
    (hafter.files primary rotateTmpPath_ne_primary.symm).trans hreplaced.installed,
    fun other hprimary htmp => (hafter.files other htmp).trans
      (hreplaced.files other hprimary htmp)⟩

theorem replaced_renameTmp (htmp : state.dir (rotateTmpPath primary) = some (newKeyFile key)) :
    Replaced primary key state (state.renameTmp primary) := by
  refine ⟨rfl, ?_, ?_⟩
  · simp [RotationState.renameTmp, KeyDir.set, htmp, rotateTmpPath_ne_primary.symm]
  · intro other hprimary hother
    simp [RotationState.renameTmp, KeyDir.set, hprimary, hother]

/-- The replacement did not get as far as the rename, or it did and the error
came after it. -/
def ReplaceHalted (faults : ReplaceFaults) (primary : String) (key : Key)
    (state final : RotationState) : Prop :=
  (OnlyFile (rotateTmpPath primary) state final ∧
    ¬faults.Renames (state.dir (rotateTmpPath primary))) ∨
  (Replaced primary key state final ∧ faults.Renames (state.dir (rotateTmpPath primary)) ∧
    faults.syncDir ≠ .none)

theorem ReplaceHalted.removeTmp {faults : ReplaceFaults}
    (hhalted : ReplaceHalted faults primary key state middle) :
    ReplaceHalted faults primary key state (middle.setFile (rotateTmpPath primary) none) := by
  have hremove := OnlyFile.setFile (rotateTmpPath primary) none middle
  rcases hhalted with ⟨honly, hnot⟩ | ⟨hreplaced, hrenames⟩
  · exact Or.inl ⟨honly.trans hremove, hnot⟩
  · exact Or.inr ⟨hreplaced.then_onlyFile hremove, hrenames⟩

/-- A replacement that returns has replaced the primary and used up the
temporary file; one that does not return may still have replaced it. -/
theorem replacePrimaryKey_ends (faults : ReplaceFaults) (primary : String)
    (key : Key) (state : RotationState) :
    Ends (replacePrimaryKey faults primary key) state
      (fun _ final => Replaced primary key state final ∧ final.dir (rotateTmpPath primary) = none ∧
        faults.Renames (state.dir (rotateTmpPath primary)) ∧
        faults.syncDir = .none)
      (fun _ => ReplaceHalted faults primary key state) := by
  have hrefl := OnlyFile.refl (rotateTmpPath primary) state
  refine Ends.bind (fun _ removed => OnlyFile (rotateTmpPath primary) state removed ∧
      (removed.dir (rotateTmpPath primary) = none ↔ faults.removeTmp = .none ∨
        faults.removeTmp = .fails ∧ state.dir (rotateTmpPath primary) = none))
    (Ends.ignoring (fun hnone => ⟨OnlyFile.setFile _ none state, by simp [hnone]⟩)
      (fun hfails => ⟨hrefl, by simp [hfails]⟩) fun hstops => .inl ⟨hrefl, ?_⟩) ?_
  · intro hrenames
    simpa [hstops] using hrenames.cleared
  rintro _ removed ⟨hremoved, hcleared⟩
  refine Ends.seq ((writeNewKeyFile_ends _ _ key removed).imp ?_ ?_)
  · rintro _ written ⟨honly, hfile, hfree, hcompletes⟩
    have hwritten := hremoved.trans honly
    refine Ends.onError_alike (Ends.seq (Ends.attempt_or ?_ ?_)) ?_
    · intro hrename
      have hreplaced := (replaced_renameTmp hfile).of_onlyFile hwritten
      have hrenames : faults.Renames _ := ⟨hcleared.mp hfree, hcompletes, hrename⟩
      exact Ends.attempt_or
        (fun hsync => ⟨hreplaced, by simp [RotationState.renameTmp], hrenames, hsync⟩)
        fun hsync _ => .inr ⟨hreplaced, hrenames, hsync⟩
    · exact fun hrename _ => .inl ⟨hwritten, fun hrenames => hrename hrenames.renamed⟩
    · intro e caught hcaught
      exact Ends.seq (Ends.ignoring (fun _ => hcaught.removeTmp) (fun _ => hcaught)
        fun _ => hcaught)
  · rintro _ final ⟨hfinal, hnot⟩
    refine .inl ⟨hremoved.trans hfinal, fun hrenames => hnot ⟨?_, hrenames.written⟩⟩
    exact hcleared.mpr hrenames.cleared

/-- Only the three files a rotation works with may differ. -/
def OtherFiles (primary keyId : String) (state final : RotationState) : Prop :=
  ∀ other, other ≠ primary → other ≠ rotateTmpPath primary →
    other ≠ retiredKeyPathFor primary keyId →
    final.dir other = state.dir other

/-- The ways a rotation ends without its commit: the primary untouched, the new
primary left in place, or the old one written back. -/
inductive RotationFailed (primary keyId : String) (oldKey newKey : Key)
    (lost : Prop) (state final : RotationState) : Prop where
  | untouched (hlost : ¬lost) (hfiles : OtherFiles primary keyId state final)
      (hrows : final.rows = state.rows)
      (hprimary : final.dir primary = state.dir primary)
  | stranded (hlost : lost) (hfiles : OtherFiles primary keyId state final)
      (hrows : final.rows = state.rows)
      (hprimary : final.dir primary = some (newKeyFile newKey))
  | restored (hlost : ¬lost) (hfiles : OtherFiles primary keyId state final)
      (hrows : final.rows = state.rows)
      (hprimary : final.dir primary = some (newKeyFile oldKey))

/-- The rotation took place. -/
structure Rotated (primary keyId : String) (oldKey newKey : Key)
    (state final : RotationState) : Prop where
  files : OtherFiles primary keyId state final
  rows : final.rows = relabel keyId state.rows
  installed : final.dir primary = some (newKeyFile newKey)
  retired : final.dir (retiredKeyPathFor primary keyId) = some (newKeyFile oldKey)

theorem OtherFiles.then_onlyFile (hfiles : OtherFiles primary keyId state middle)
    (hname : name = rotateTmpPath primary ∨ name = retiredKeyPathFor primary keyId)
    (hafter : OnlyFile name middle final) :
    OtherFiles primary keyId state final := by
  intro other hprimary htmp hretired
  refine (hafter.files other ?_).trans (hfiles other hprimary htmp hretired)
  rcases hname with rfl | rfl
  · exact htmp
  · exact hretired

theorem OtherFiles.then_replaced (hfiles : OtherFiles primary keyId state middle)
    (hafter : Replaced primary key middle final) :
    OtherFiles primary keyId state final :=
  fun other hprimary htmp hretired => (hafter.files other hprimary htmp).trans
    (hfiles other hprimary htmp hretired)

/-- A failed rotation stays the failed rotation it was while only the retired
copy and the temporary file change. -/
theorem RotationFailed.then_onlyFile
    (hfailed : RotationFailed primary keyId oldKey newKey lost state middle)
    (hname : name = rotateTmpPath primary ∨ name = retiredKeyPathFor primary keyId)
    (hafter : OnlyFile name middle final) :
    RotationFailed primary keyId oldKey newKey lost state final := by
  have hprimary : final.dir primary = middle.dir primary := by
    apply hafter.files
    rcases hname with rfl | rfl
    · exact rotateTmpPath_ne_primary.symm
    · exact (retiredKeyPathFor_ne_primary keyId).symm
  cases hfailed with
  | untouched hlost hfiles hrows hkey =>
    exact .untouched hlost (hfiles.then_onlyFile hname hafter)
      (hafter.rows.trans hrows) (hprimary.trans hkey)
  | stranded hlost hfiles hrows hkey =>
    exact .stranded hlost (hfiles.then_onlyFile hname hafter)
      (hafter.rows.trans hrows) (hprimary.trans hkey)
  | restored hlost hfiles hrows hkey =>
    exact .restored hlost (hfiles.then_onlyFile hname hafter)
      (hafter.rows.trans hrows) (hprimary.trans hkey)

theorem RotationFailed.otherFiles
    (hfailed : RotationFailed primary keyId oldKey newKey lost state final) :
    OtherFiles primary keyId state final := by
  cases hfailed with
  | untouched _ hfiles => exact hfiles
  | stranded _ hfiles => exact hfiles
  | restored _ hfiles => exact hfiles

theorem RotationFailed.refl (hlost : ¬lost) :
    RotationFailed primary keyId oldKey newKey lost state state :=
  .untouched hlost (fun _ _ _ _ => rfl) rfl rfl

variable {e : RotateError} {fault : Fault}

theorem undoRetired_ends (hfailed : RotationFailed primary keyId oldKey newKey lost state middle)
    (Done : Unit → RotationState → Prop) :
    Ends (undoRetired fault (retiredKeyPathFor primary keyId) e) middle Done (fun _ final =>
        RotationFailed primary keyId oldKey newKey lost state final) := by
  refine Ends.seq (Ends.ignoring (fun _ => ?_) (fun _ => hfailed) (fun _ => hfailed))
  exact hfailed.then_onlyFile (Or.inr rfl)
    (OnlyFile.setFile (retiredKeyPathFor primary keyId) none middle)

/-- The old key is archived and the primary still in place. -/
structure Archived (primary keyId : String) (oldKey : Key)
    (state final : RotationState) : Prop where
  only : OnlyFile (retiredKeyPathFor primary keyId) state final
  retired : final.dir (retiredKeyPathFor primary keyId) = some (newKeyFile oldKey)

/-- The old key is archived and the new primary is in place, before the
commit. -/
structure Installed (primary keyId : String) (oldKey newKey : Key)
    (state final : RotationState) : Prop where
  files : OtherFiles primary keyId state final
  rows : final.rows = state.rows
  installed : final.dir primary = some (newKeyFile newKey)
  retired : final.dir (retiredKeyPathFor primary keyId) = some (newKeyFile oldKey)
  cleared : final.dir (rotateTmpPath primary) = none

theorem Archived.failed (harchived : Archived primary keyId oldKey state final) (hlost : ¬lost) :
    RotationFailed primary keyId oldKey newKey lost state final :=
  (RotationFailed.refl hlost).then_onlyFile (Or.inr rfl) harchived.only

theorem Archived.otherFiles (harchived : Archived primary keyId oldKey state middle)
    (hreplaced : Replaced primary newKey middle final) :
    OtherFiles primary keyId state final :=
  fun other hprimary htmp hretired =>
    (hreplaced.files other hprimary htmp).trans (harchived.only.files other hretired)

theorem Archived.installed {secs : Nat}
    (harchived : Archived primary (retiredKeyId secs) oldKey state middle)
    (hreplaced : Replaced primary newKey middle final)
    (hcleared : final.dir (rotateTmpPath primary) = none) :
    Installed primary (retiredKeyId secs) oldKey newKey state final where
  files := harchived.otherFiles hreplaced
  rows := hreplaced.rows.trans harchived.only.rows
  installed := hreplaced.installed
  retired := (hreplaced.files _ (retiredKeyPathFor_ne_primary _) (retiredKeyPathFor_ne_rotateTmpPath
      (usableLabel_retiredKeyId secs))).trans harchived.retired
  cleared := hcleared

theorem Installed.stranded (hinstalled : Installed primary keyId oldKey newKey state final)
    (hlost : lost) :
    RotationFailed primary keyId oldKey newKey lost state final :=
  .stranded hlost hinstalled.files hinstalled.rows hinstalled.installed

theorem Installed.restored (hinstalled : Installed primary keyId oldKey newKey state middle)
    (hreplaced : Replaced primary oldKey middle final) (hlost : ¬lost) :
    RotationFailed primary keyId oldKey newKey lost state final :=
  .restored hlost (hinstalled.files.then_replaced hreplaced)
    (hreplaced.rows.trans hinstalled.rows) hreplaced.installed

theorem Installed.commit (hinstalled : Installed primary keyId oldKey newKey state final) :
    Rotated primary keyId oldKey newKey state (final.commitRelabel keyId) where
  files := hinstalled.files
  rows := by simp [RotationState.commitRelabel, hinstalled.rows]
  installed := hinstalled.installed
  retired := hinstalled.retired

/-- A step between the retired copy and the new primary that touches
nothing. -/
theorem guarded_ends {undo : Fault} (harchived : Archived primary keyId oldKey state middle)
    (hlost : lost → fault = .none) :
    Ends (onError (attempt fault e id) (undoRetired undo (retiredKeyPathFor primary keyId))) middle
      (fun _ final => Archived primary keyId oldKey state final ∧ fault = .none)
      (fun _ final => RotationFailed primary keyId oldKey newKey lost state final) := by
  exact Ends.onError_alike (Ends.attempt_or (fun hnone => ⟨harchived, hnone⟩)
    fun hfault _ => harchived.failed fun h => hfault (hlost h))
    fun _ _ hcaught => undoRetired_ends hcaught _

/-- When installing the new primary fails, the old one is either still in
place or, the directory not being synced, lost. -/
theorem install_ends (faults : ReplaceFaults) (undo : Fault) {secs : Nat} (newKey : Key)
    (harchived : Archived primary (retiredKeyId secs) oldKey state middle)
    (hearlier : lost → faults.Renames (state.dir (rotateTmpPath primary)))
    (hlater : faults.Renames (state.dir (rotateTmpPath primary)) → faults.syncDir ≠ .none → lost) :
    Ends (onError (replacePrimaryKey faults primary newKey)
        (undoRetired undo (retiredKeyPathFor primary (retiredKeyId secs))))
      middle
      (fun _ final =>
        Installed primary (retiredKeyId secs) oldKey newKey state final ∧
        faults.Renames (state.dir (rotateTmpPath primary)) ∧
        faults.syncDir = .none)
      (fun _ final => RotationFailed primary (retiredKeyId secs) oldKey newKey
        lost state final) := by
  have htmp : middle.dir (rotateTmpPath primary) = state.dir (rotateTmpPath primary) :=
    harchived.only.files _ (retiredKeyPathFor_ne_rotateTmpPath (usableLabel_retiredKeyId secs)).symm
  rw [← htmp] at hearlier hlater ⊢
  refine Ends.onError_alike ((replacePrimaryKey_ends faults primary newKey middle).imp ?_ ?_)
    fun _ _ hfailed => undoRetired_ends hfailed _
  · rintro _ final ⟨hreplaced, hcleared, hrenames, hsync⟩
    exact ⟨harchived.installed hreplaced hcleared, hrenames, hsync⟩
  · rintro _ final (⟨honly, hnot⟩ | ⟨hreplaced, hrenames, hsync⟩)
    · exact (harchived.failed fun h => hnot (hearlier h)).then_onlyFile (Or.inl rfl) honly
    · exact .stranded (hlater hrenames hsync) (harchived.otherFiles hreplaced)
        (hreplaced.rows.trans harchived.only.rows) hreplaced.installed

/-- A failed commit puts the old primary back; the log is lost exactly if the restoring
rename does not take place. -/
theorem commitOrRestore_ends (faults : RotateFaults) {secs : Nat} (hinstalled :
      Installed primary (retiredKeyId secs) oldKey newKey state middle)
    (hlost : lost ↔ faults.commit = .stops ∨
      faults.commit = .fails ∧ ¬faults.restore.Renames none) :
    Ends (onError (attempt faults.commit .commit (RotationState.commitRelabel (retiredKeyId secs)))
        fun e => do
          let failure ← onError (do
              replacePrimaryKey faults.restore primary oldKey
              pure e)
            fun re => pure (.restorePrimary e re)
          undoRetired faults.undoRetired (retiredKeyPathFor primary (retiredKeyId secs)) failure)
      middle
      (fun _ final => ¬lost ∧ Rotated primary (retiredKeyId secs) oldKey newKey state final)
      (fun _ final => RotationFailed primary (retiredKeyId secs) oldKey newKey
        lost state final) := by
  refine Ends.onError (fun _ caught => caught = middle ∧ faults.commit = .fails) (Ends.attempt
    (fun hnone => ⟨by simp [hlost, hnone], hinstalled.commit⟩) (fun hfails => ⟨rfl, hfails⟩)
    fun hstops => hinstalled.stranded (hlost.mpr (Or.inl hstops))) ?_
  rintro e caught ⟨heq, hfails⟩
  rw [heq]
  have hback {final} (hreplaced : Replaced primary oldKey middle final)
      (hrenames : faults.restore.Renames (middle.dir (rotateTmpPath primary))) :
      RotationFailed primary (retiredKeyId secs) oldKey newKey lost state final := by
    rw [hinstalled.cleared] at hrenames
    exact hinstalled.restored hreplaced (by simp [hlost, hfails, hrenames])
  refine Ends.seq (Ends.onError_alike (Ends.seq
    ((replacePrimaryKey_ends faults.restore primary oldKey middle).imp ?_ ?_)) ?_)
  · rintro _ final ⟨hreplaced, -, hrenames, -⟩
    exact Ends.pure (undoRetired_ends (hback hreplaced hrenames) _)
  · rintro _ final (⟨honly, hnot⟩ | ⟨hreplaced, hrenames, -⟩)
    · rw [hinstalled.cleared] at hnot
      exact (hinstalled.stranded (hlost.mpr (.inr ⟨hfails, hnot⟩))).then_onlyFile (Or.inl rfl) honly
    · exact hback hreplaced hrenames
  · exact fun _ _ hfailed => Ends.pure (undoRetired_ends hfailed _)

/-- All the ways a rotation ends. -/
theorem rotateKeyAt_ends (state : RotationState) (faults : RotateFaults) (secs : Nat) (newKey : Key)
    (hload : loadExistingKey state.dir primary = .ok oldKey) :
    Ends (rotateKeyAt faults primary secs newKey) state
      (fun keyId final => keyId = retiredKeyId secs ∧ ¬faults.Interrupted primary secs state.dir ∧
        Rotated primary (retiredKeyId secs) oldKey newKey state final)
      (fun _ final =>
        RotationFailed primary (retiredKeyId secs) oldKey newKey
          (faults.Interrupted primary secs state.dir) state final ∨
        ¬faults.Interrupted primary secs state.dir ∧
          Rotated primary (retiredKeyId secs) oldKey newKey state final) := by
  refine Ends.seq (Ends.get ?_)
  refine Ends.seq (Ends.ensure (fun _ => ?_) fun hmissing => ?_)
  swap
  · simp only [Option.isSome_eq_false_iff, Option.isNone_iff_eq_none] at hmissing
    simp [loadExistingKey, hmissing] at hload
  refine Ends.seq (Ends.attempt_or (fun hreadKey => ?_)
    fun hfault _ => .inl (.refl fun h => hfault h.readKey))
  rw [hload]
  refine Ends.seq (Ends.pure ?_)
  refine Ends.seq (Ends.ensure (fun hnone => ?_)
    fun htaken => .inl (.refl fun h => by simp [h.unused] at htaken))
  have hunused := Option.isNone_iff_eq_none.mp hnone
  refine Ends.seq (Ends.attempt_or (fun hopenDb => ?_)
    fun hfault _ => .inl (.refl fun h => hfault h.openDb))
  refine Ends.seq (Ends.attempt_or (fun hmigrate => ?_)
    fun hfault _ => .inl (.refl fun h => hfault h.migrateKeyId))
  refine Ends.seq (Ends.attempt_or (fun hbegin => ?_)
    fun hfault _ => .inl (.refl fun h => hfault h.beginTransaction))
  -- The retired copy is written; from here on errors remove it again.
  refine Ends.seq ((writeNewKeyFile_ends faults.retired _ oldKey state).imp ?_ ?_)
  swap
  · rintro _ final ⟨honly, hnot⟩
    exact .inl ((RotationFailed.refl fun h =>
      hnot ⟨hunused, h.retired⟩).then_onlyFile (Or.inr rfl) honly)
  rintro _ archived ⟨honly, hfile, -, hretired⟩
  refine Ends.seq ((guarded_ends ⟨honly, hfile⟩ (·.relabelRows)).imp ?_ fun _ _ => Or.inl)
  rintro _ relabelled ⟨hrelabelled, hrelabel⟩
  refine Ends.seq ((guarded_ends hrelabelled (·.getrandom)).imp ?_ fun _ _ => Or.inl)
  rintro _ drawn ⟨hdrawn, hgetrandom⟩
  have hinterrupted (hreplace : faults.replace.Renames (state.dir (rotateTmpPath primary)))
      (hcases : faults.replace.syncDir ≠ .none ∨ faults.commit = .stops ∨
        faults.commit = .fails ∧ ¬faults.restore.Renames none) :
      faults.Interrupted primary secs state.dir :=
    ⟨hunused, hreadKey, hopenDb, hmigrate, hbegin, hretired, hrelabel, hgetrandom, hreplace, hcases⟩
  refine Ends.seq ((install_ends faults.replace _ newKey hdrawn (·.replace)
    fun hrenames hsync => hinterrupted hrenames (Or.inl hsync)).imp ?_ fun _ _ => Or.inl)
  rintro _ installed ⟨hinstalled, hrenames, hsync⟩
  have hlost : faults.Interrupted primary secs state.dir ↔ faults.commit = .stops ∨
        faults.commit = .fails ∧ ¬faults.restore.Renames none :=
    ⟨fun h => h.lost.resolve_left (by simp [hsync]),
      fun hcases => hinterrupted hrenames (Or.inr hcases)⟩
  refine Ends.seq ((commitOrRestore_ends faults hinstalled hlost).imp ?_ fun _ _ => Or.inl)
  intro _ committed hcommitted
  exact Ends.seq (Ends.attempt_or (fun _ => Ends.pure ⟨rfl, hcommitted⟩)
    fun _ _ => .inr hcommitted)

/-- A rotation whose archive name is taken touches nothing. -/
theorem rotateKeyAt_ends_of_taken (faults : RotateFaults) (secs : Nat) (newKey : Key)
    (htaken : state.dir (retiredKeyPathFor primary (retiredKeyId secs)) ≠ none) :
    Ends (rotateKeyAt faults primary secs newKey) state
      (fun _ final => final = state) (fun _ final => final = state) := by
  refine Ends.seq (Ends.get ?_)
  refine Ends.seq (Ends.ensure (fun _ => ?_) fun _ => rfl)
  refine Ends.seq (Ends.attempt_or (fun _ => ?_) fun _ _ => rfl)
  refine Ends.seq (Ends.liftResult (fun _ _ => ?_) fun _ _ => rfl)
  refine Ends.seq (Ends.ensure (fun hnone => ?_) fun _ => rfl)
  exact absurd (Option.isNone_iff_eq_none.mp hnone) htaken

end Endings

section Verification

variable {mac : Mac} {primary : String} {dir : KeyDir}
variable {rows : List RawAuditRow} {ring : KeyRing} {newKey : Key}
variable {secs : Nat} {final : RotationState}

/-- What a rotation must not break, however it ends: the rows are all there and
verify with the key files on disk, and every key that signed a row before is
still in a usable file. -/
structure KeepsLog (mac : Mac) (primary : String) (ring : KeyRing)
    (rows : List RawAuditRow) (final : RotationState) : Prop where
  allRows : final.rows = rows ∨ ∃ keyId, final.rows = relabel keyId rows
  verifies : ∃ ring', diskRing primary final.dir = some ring' ∧ (verify mac ring' final.rows).2 = 0
  keys : ∀ row ∈ rows, ∀ key, ring.keyFor row.keyId = some key →
    ∃ name, loadExistingKey final.dir name = .ok key

variable {ring' : KeyRing}

/-- The log is kept while its rows and the keys of their labels are. -/
theorem KeepsLog.of_keyFor (hring' : diskRing primary final.dir = some ring')
    (hrows : Verifies mac ring rows) (hsame : final.rows = rows)
    (hkeys : ∀ row ∈ rows, ring'.keyFor row.keyId = ring.keyFor row.keyId) :
    KeepsLog mac primary ring rows final := by
  refine ⟨Or.inl hsame, ⟨ring', hring', ?_⟩, ?_⟩
  · rw [hsame]
    exact verify_fail_eq_zero_iff.mpr (hrows.congr_keys hkeys)
  · intro row hrow key hkey
    exact loads_of_keyFor hring' ((hkeys row hrow).trans hkey)

/-- A log that fully verifies with the key files beside it.  The file of a
half-done rotation is not an archived key, and no row's label points at it. -/
structure SoundLog (mac : Mac) (primary : String) (dir : KeyDir)
    (rows : List RawAuditRow) (ring : KeyRing) : Prop where
  opens : diskRing primary dir = some ring
  verify_zero : (verify mac ring rows).2 = 0
  labels : ∀ row ∈ rows, UsableLabel row.keyId

theorem SoundLog.verifies (hlog : SoundLog mac primary dir rows ring) : Verifies mac ring rows :=
  verify_fail_eq_zero_iff.mp hlog.verify_zero

/-- The archived keys, but for the one a rotation writes, are none of its
files. -/
theorem OtherFiles.retired_eq {state : RotationState}
    (hfiles : OtherFiles primary (retiredKeyId secs) state final) (hring : diskRing primary state.dir = some ring)
    (hring' : diskRing primary final.dir = some ring') {keyId : String}
    (husable : UsableLabel keyId) (hother : keyId ≠ retiredKeyId secs) :
    ring'.retired keyId = ring.retired keyId := by
  rw [diskRing_retired hring', diskRing_retired hring]
  apply congrArg
  apply loadExistingKey_congr
  apply hfiles
  · exact retiredKeyPathFor_ne_primary _
  · exact retiredKeyPathFor_ne_rotateTmpPath husable
  · exact fun heq => hother (retiredKeyPathFor_injective heq)

section Unused

variable (hlog : SoundLog mac primary dir rows ring)
  (hunused : dir (retiredKeyPathFor primary (retiredKeyId secs)) = none)

include hlog hunused

/-- A label in use has a key file, so an unused file name is no label's. -/
theorem SoundLog.label_ne_of_unused {row : RawAuditRow} (hrow : row ∈ rows)
    (hlabel : row.keyId ≠ primaryKeyId) : row.keyId ≠ retiredKeyId secs := by
  intro heq
  have hsome := Chained.forall_mem hlog.verifies
    (fun _ _ hverifies => hverifies.retired_isSome) row hrow hlabel
  rw [diskRing_retired hlog.opens, heq] at hsome
  simp [loadRetiredKeyFor, loadExistingKey, hunused, Except.toOption] at hsome

/-- Rotation leaves the keys of the retired labels in use alone. -/
theorem SoundLog.retired_eq
    (hfiles : OtherFiles primary (retiredKeyId secs) ⟨dir, rows⟩ final)
    (hring' : diskRing primary final.dir = some ring') {row : RawAuditRow} (hrow : row ∈ rows)
    (hlabel : row.keyId ≠ primaryKeyId) :
    ring'.retired row.keyId = ring.retired row.keyId :=
  hfiles.retired_eq hlog.opens hring' (hlog.labels row hrow)
    (hlog.label_ne_of_unused hunused hrow hlabel)

/-- After a rotation that left the rows as they were, the log is kept exactly
if the primary on disk is the old one or no row is labelled with it. -/
theorem SoundLog.keepsLog_iff (hseparating : mac.KeySeparating)
    (hfiles : OtherFiles primary (retiredKeyId secs) ⟨dir, rows⟩ final)
    (hrows : final.rows = rows) {key : Key}
    (hkey : loadExistingKey final.dir primary = .ok key) :
    KeepsLog mac primary ring rows final ↔
      key = ring.primary ∨ ∀ row ∈ rows, row.keyId ≠ primaryKeyId := by
  have hring' := diskRing_of_load hkey
  constructor
  · rintro ⟨-, ⟨ring', hopens, hverify⟩, -⟩
    obtain rfl := Option.some.inj (hring'.symm.trans hopens)
    rw [hrows] at hverify
    have hsame := hlog.verifies.keyFor_unique hseparating (verify_fail_eq_zero_iff.mp hverify)
    by_contra hnot
    push Not at hnot
    obtain ⟨hne, row, hrow, hlabel⟩ := hnot
    have hprimary := hsame row hrow
    simp only [KeyRing.keyFor, hlabel, ↓reduceIte, Option.some.injEq] at hprimary
    exact hne hprimary
  · intro hcases
    refine KeepsLog.of_keyFor hring' hlog.verifies hrows ?_
    intro row hrow
    by_cases hlabel : row.keyId = primaryKeyId
    · rcases hcases with rfl | hnone
      · simp [KeyRing.keyFor, hlabel]
      · exact absurd hlabel (hnone row hrow)
    · have hretired := hlog.retired_eq hunused hfiles hring' hrow hlabel
      simpa only [KeyRing.keyFor, hlabel, ↓reduceIte] using hretired

/-- A rotation that took place keeps the log, under the new label. -/
theorem SoundLog.keepsLog_of_rotated (hlength : newKey.length = 32)
    (hrotated : Rotated primary (retiredKeyId secs) ring.primary newKey ⟨dir, rows⟩ final) :
    KeepsLog mac primary ring rows final := by
  have hold := loadExistingKey_length (diskRing_eq_some hlog.opens).1
  have hring' := diskRing_of_load (loadExistingKey_of_newKeyFile hrotated.installed hlength)
  have harchived := loadExistingKey_of_newKeyFile hrotated.retired hold
  have hkeep : ∀ row ∈ rows, row.keyId ≠ primaryKeyId → _ :=
    fun row hrow => hlog.retired_eq hunused hrotated.files hring' hrow
  refine ⟨Or.inr ⟨_, hrotated.rows⟩, ⟨_, hring', ?_⟩, ?_⟩
  · rw [hrotated.rows]
    refine verify_fail_eq_zero_iff.mpr (hlog.verifies.relabel
      (retiredKeyId_ne_primaryKeyId secs) ?_ hkeep)
    simp [loadRetiredKeyFor, harchived, Except.toOption]
  · intro row hrow key hkey
    by_cases hlabel : row.keyId = primaryKeyId
    · simp only [KeyRing.keyFor, hlabel, ↓reduceIte, Option.some.injEq] at hkey
      exact ⟨_, hkey ▸ harchived⟩
    · simp only [KeyRing.keyFor, hlabel, ↓reduceIte] at hkey
      rw [← hkeep row hrow hlabel] at hkey
      exact ⟨_, toOption_eq_some_iff.mp hkey⟩

/-- A rotation that returns is the rotation step of the log's history, as far as
usable labels can tell. -/
theorem SoundLog.rotation_refines (faults : RotateFaults) (hlength : newKey.length = 32)
    {label : String} (hdone : execute (rotateKeyAt faults primary secs newKey) ⟨dir, rows⟩ =
      (.ok label, final)) :
    ∃ ring' next, diskRing primary final.dir = some ring' ∧
      LogState.step mac ⟨rows, ring⟩ (.rotate secs newKey) = some next ∧
      final.rows = next.rows ∧
      ∀ keyId, UsableLabel keyId → ring'.keyFor keyId = next.ring.keyFor keyId := by
  have hload := (diskRing_eq_some hlog.opens).1
  have hends := rotateKeyAt_ends ⟨dir, rows⟩ faults secs newKey hload
  rw [Ends, hdone] at hends
  obtain ⟨-, -, hrotated⟩ := hends
  have hold := loadExistingKey_length hload
  have hring' := diskRing_of_load (loadExistingKey_of_newKeyFile hrotated.installed hlength)
  have hnone : ring.retired (retiredKeyId secs) = none := by
    rw [diskRing_retired hlog.opens]
    simp [loadRetiredKeyFor, loadExistingKey, hunused, Except.toOption]
  refine ⟨_, ⟨_, _⟩, hring', by simp [LogState.step, hnone]; exact ⟨rfl, rfl⟩, hrotated.rows, ?_⟩
  intro keyId husable
  by_cases hprimary : keyId = primaryKeyId
  · simp [KeyRing.keyFor, KeyRing.rotate, hprimary]
  by_cases hretired : keyId = retiredKeyId secs
  · subst hretired
    simp [KeyRing.keyFor, KeyRing.rotate, retiredKeyId_ne_primaryKeyId,
      loadRetiredKeyFor, Except.toOption,
      loadExistingKey_of_newKeyFile hrotated.retired hold]
  · have hkeep := hrotated.files.retired_eq hlog.opens hring' husable hretired
    simpa only [KeyRing.keyFor, KeyRing.rotate, hprimary, hretired, ↓reduceIte] using hkeep

end Unused

/-- The state a rotation leaves. -/
def afterRotation (faults : RotateFaults) (primary : String) (secs : Nat)
    (newKey : Key) (dir : KeyDir) (rows : List RawAuditRow) : RotationState :=
  (execute (rotateKeyAt faults primary secs newKey) ⟨dir, rows⟩).2

/-- Whatever fails and wherever the process stops, the log is kept, except if
the rotation is interrupted between the rename of the new primary and the
commit, and the new key is not the one rows were signed with. -/
theorem rotation_keeps_log_iff (hseparating : mac.KeySeparating)
    (hlog : SoundLog mac primary dir rows ring) (faults : RotateFaults)
    (secs : Nat) (hlength : newKey.length = 32) :
    KeepsLog mac primary ring rows (afterRotation faults primary secs newKey dir rows) ↔
      ¬(faults.Interrupted primary secs dir ∧ newKey ≠ ring.primary ∧
        ∃ row ∈ rows, row.keyId = primaryKeyId) := by
  have hload := (diskRing_eq_some hlog.opens).1
  have hold := loadExistingKey_length hload
  by_cases hunused : dir (retiredKeyPathFor primary (retiredKeyId secs)) = none
  · have hprogram := rotateKeyAt_ends ⟨dir, rows⟩ faults secs newKey hload
    have hends := Ends.final _ (hprogram.imp
      (fun _ _ hdone => Or.inr hdone.2) (fun _ _ hhalted => hhalted))
    rcases hends with hfailed | ⟨hlost, hrotated⟩
    · cases hfailed with
      | untouched hlost hfiles hrows hprimary =>
        rw [afterRotation, hlog.keepsLog_iff hunused hseparating hfiles hrows
          ((loadExistingKey_congr hprimary).trans hload)]
        simp [hlost]
      | stranded hlost hfiles hrows hprimary =>
        rw [afterRotation, hlog.keepsLog_iff hunused hseparating hfiles hrows
          (loadExistingKey_of_newKeyFile hprimary hlength)]
        simp only [hlost, true_and, not_and, not_exists]
        rw [or_iff_not_imp_left]
      | restored hlost hfiles hrows hprimary =>
        rw [afterRotation, hlog.keepsLog_iff hunused hseparating hfiles hrows
          (loadExistingKey_of_newKeyFile hprimary hold)]
        simp [hlost]
    · have hkept := hlog.keepsLog_of_rotated hunused hlength hrotated
      exact iff_of_true hkept (by simp [hlost])
  · have hsame := Ends.final (fun final : RotationState => final = ⟨dir, rows⟩)
      (rotateKeyAt_ends_of_taken faults secs newKey hunused)
    rw [afterRotation, hsame]
    refine iff_of_true ?_ (fun h => hunused h.1.unused)
    exact KeepsLog.of_keyFor hlog.opens hlog.verifies rfl (fun _ _ => rfl)

end Verification

namespace RotationWitness

def oldKey : Key := List.replicate 32 7

def freshKey : Key := List.replicate 32 8

def files : KeyDir :=
  fun name => if name = "audit.key" then some (newKeyFile oldKey) else none

def entry : LogEntry :=
  { action := "stop", user := "root@pam", vmid := some 100, node := some "pve1", paramsJson := none
    result := "ok" }

def loggedRows : List RawAuditRow := log transcriptMac oldKey 0 entry []

def noWriteFaults : WriteFaults :=
  { create := .none, write := .none, written := 0, sync := .none }

def noReplaceFaults : ReplaceFaults :=
  { removeTmp := .none, writeTmp := noWriteFaults, rename := .none, syncDir := .none
    removeTmpAfter := .none }

def noFaults : RotateFaults :=
  { readKey := .none, openDb := .none, migrateKeyId := .none, beginTransaction := .none
    retired := noWriteFaults, relabelRows := .none, getrandom := .none, replace := noReplaceFaults
    commit := .none, restore := noReplaceFaults, undoRetired := .none, syncRetiredDir := .none }

def diskKeys : KeyRing :=
  { primary := oldKey
    retired := fun keyId => (loadRetiredKeyFor files "audit.key" keyId).toOption }

/-- The fsync of the directory behind the rename of the new primary fails. -/
def fsyncFails : RotateFaults :=
  { noFaults with replace := { noReplaceFaults with syncDir := .fails } }

def afterFsyncFails : RotationState :=
  afterRotation fsyncFails "audit.key" 5 freshKey files loggedRows

theorem soundLog : SoundLog transcriptMac "audit.key" files loggedRows diskKeys where
  opens := rfl
  verify_zero := by
    have hempty : Verifies transcriptMac diskKeys [] := trivial
    exact verify_fail_eq_zero_iff.mpr (hempty.log 0 entry)
  labels := by
    intro row hrow
    rw [List.mem_singleton.mp hrow]
    exact usableLabel_primaryKeyId

def afterNoFaults : RotationState := afterRotation noFaults "audit.key" 5 freshKey files loggedRows

theorem rotation_refines_step : ∃ ring' next, diskRing "audit.key" afterNoFaults.dir = some ring' ∧
    LogState.step transcriptMac ⟨loggedRows, diskKeys⟩ (.rotate 5 freshKey) = some next ∧
    ring'.keyFor primaryKeyId = next.ring.keyFor primaryKeyId := by
  have hdone : execute (rotateKeyAt noFaults "audit.key" 5 freshKey) ⟨files, loggedRows⟩ =
      (.ok (retiredKeyId 5), afterNoFaults) := Prod.ext rfl rfl
  obtain ⟨ring', next, hring, hstep, -, hkeys⟩ :=
    soundLog.rotation_refines (by rfl) noFaults rfl hdone
  exact ⟨ring', next, hring, hstep, hkeys _ usableLabel_primaryKeyId⟩

/-- The commit fails and the old primary is written back. -/
theorem rotation_keeps_log_restored : KeepsLog transcriptMac "audit.key" diskKeys loggedRows
      (afterRotation { noFaults with commit := .fails } "audit.key" 5 freshKey
        files loggedRows) := by
  apply (rotation_keeps_log_iff transcriptMac_keySeparating soundLog _ 5 rfl).mpr
  rintro ⟨hinterrupted, -⟩
  have hrestored : noReplaceFaults.Renames none := ⟨Or.inl rfl, ⟨rfl, rfl, rfl⟩, rfl⟩
  rcases hinterrupted.lost with hsync | hstops | ⟨-, hrestore⟩
  · exact hsync rfl
  · exact Fault.noConfusion hstops
  · exact hrestore hrestored

theorem afterFsyncFails_dir (name : String) : afterFsyncFails.dir name =
    if name = "audit.key" then some (newKeyFile freshKey) else none := by
  by_cases hprimary : name = "audit.key"
  · subst hprimary
    rfl
  by_cases hretired : name = "audit.key.retired-5"
  · subst hretired
    rfl
  by_cases htmp : name = "audit.key.rotate-tmp"
  · subst htmp
    rfl
  have hload : loadExistingKey files "audit.key" = .ok oldKey := rfl
  have hfiles := Ends.final (OtherFiles "audit.key" (retiredKeyId 5) ⟨files, loggedRows⟩)
    ((rotateKeyAt_ends ⟨files, loggedRows⟩ fsyncFails 5 freshKey hload).imp
      (fun _ _ hdone => hdone.2.2.files) (fun _ _ hhalted =>
        hhalted.elim RotationFailed.otherFiles fun hrotated => hrotated.2.files))
  rw [afterFsyncFails, afterRotation, hfiles name hprimary htmp hretired]
  simp [files, hprimary]

/-- One failing fsync, after the new primary was renamed into place: the
retired copy is removed, the old key is gone, and the row can no longer be
verified. -/
theorem rotation_loses_key : SoundLog transcriptMac "audit.key" files loggedRows diskKeys ∧
    (∃ ring, diskRing "audit.key" afterFsyncFails.dir = some ring ∧
      (verify transcriptMac ring afterFsyncFails.rows).2 ≠ 0) ∧
    ∀ name, loadExistingKey afterFsyncFails.dir name ≠ .ok oldKey := by
  refine ⟨soundLog, ⟨_, rfl, ?_⟩, ?_⟩
  · intro hverify
    have hsame := soundLog.verifies.keyFor_unique transcriptMac_keySeparating
      (verify_fail_eq_zero_iff.mp hverify) _ List.mem_cons_self
    exact absurd hsame (by decide)
  · intro name hload
    rw [loadExistingKey, afterFsyncFails_dir] at hload
    split at hload
    · simp at hload
    next file hfile =>
      split at hfile
      · cases hfile
        exact absurd (Except.ok.inj hload) (by decide)
      · simp at hfile

end RotationWitness

end Proxxx
