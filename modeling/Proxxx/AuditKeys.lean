/-
The key files of the audit log.  The primary key and the retired ones lie in
one directory under names derived from the primary's, and a key is only used
if its file is private to its owner and 32 bytes long.
-/
import Proxxx.AuditLog

namespace Proxxx

open TagChain

structure KeyFile where
  mode : Nat
  bytes : List UInt8
deriving Repr, DecidableEq

/-- The directory of the primary key, by file name. -/
abbrev KeyDir := String → Option KeyFile

def KeyDir.set (dir : KeyDir) (name : String) (file : Option KeyFile) : KeyDir :=
  fun other => if other = name then file else dir other

@[simp] theorem KeyDir.set_same (dir : KeyDir) (name : String)
    (file : Option KeyFile) : dir.set name file name = file := by
  simp [KeyDir.set]

variable {name : String}

theorem KeyDir.set_other (dir : KeyDir) {other : String}
    (file : Option KeyFile) (hother : other ≠ name) :
    dir.set name file other = dir other := by
  simp [KeyDir.set, hother]

inductive KeyError where
  | notPresent
  | unsafePermissions (mode : Nat)
  | malformed (length : Nat)
deriving Repr, DecidableEq

/-- The custody and length checks on an opened key file. -/
def readExistingKey (file : KeyFile) : Except KeyError Key :=
  if file.mode &&& 0o077 ≠ 0 then .error (.unsafePermissions file.mode)
  else if file.bytes.length ≠ 32 then .error (.malformed file.bytes.length)
  else .ok file.bytes

def loadExistingKey (dir : KeyDir) (name : String) : Except KeyError Key :=
  match dir name with
  | none => .error .notPresent
  | some file => readExistingKey file

def retiredKeyPathFor (primary keyId : String) : String :=
  primary ++ "." ++ keyId

def rotateTmpPath (primary : String) : String :=
  primary ++ ".rotate-tmp"

/-- A key file as the logger writes it. -/
def newKeyFile (key : Key) : KeyFile :=
  { mode := 0o600, bytes := key }

def loadRetiredKeyFor (dir : KeyDir) (primary keyId : String) : Except KeyError Key :=
  loadExistingKey dir (retiredKeyPathFor primary keyId)

/-- The keys of a logger that signs with `key` beside the retired keys of the
directory. -/
def ringWith (primary : String) (dir : KeyDir) (key : Key) : KeyRing :=
  { primary := key, retired := fun keyId => (loadRetiredKeyFor dir primary keyId).toOption }

/-- The keys of a logger that is opened on the directory, if it opens. -/
def diskRing (primary : String) (dir : KeyDir) : Option KeyRing :=
  match loadExistingKey dir primary with
  | .error _ => none
  | .ok key => some (ringWith primary dir key)

@[simp] theorem ringWith_primary (primary : String) (dir : KeyDir) (key : Key) :
    (ringWith primary dir key).primary = key :=
  rfl

@[simp] theorem ringWith_retired (primary : String) (dir : KeyDir) (key : Key) (keyId : String) :
    (ringWith primary dir key).retired keyId = (loadRetiredKeyFor dir primary keyId).toOption :=
  rfl

/-- No label of the log names the temporary file; the logger writes `primary`
and `retired-…` only. -/
def UsableLabel (keyId : String) : Prop :=
  keyId ≠ "rotate-tmp"

variable {key : Key}

theorem readExistingKey_newKeyFile (hlength : key.length = 32) :
    readExistingKey (newKeyFile key) = .ok key := by
  simp [readExistingKey, newKeyFile, hlength]

variable {dir : KeyDir}

theorem loadExistingKey_of_newKeyFile
    (hfile : dir name = some (newKeyFile key)) (hlength : key.length = 32) :
    loadExistingKey dir name = .ok key := by
  simp [loadExistingKey, hfile, readExistingKey_newKeyFile hlength]

theorem loadExistingKey_length (hkey : loadExistingKey dir name = .ok key) : key.length = 32 := by
  unfold loadExistingKey readExistingKey at hkey
  repeat' split at hkey
  all_goals cases hkey
  next hlength => exact not_not.mp hlength

theorem loadExistingKey_congr {dir' : KeyDir} (hsame : dir' name = dir name) :
    loadExistingKey dir' name = loadExistingKey dir name := by
  simp [loadExistingKey, hsame]

variable {primary : String} {ring : KeyRing}

theorem diskRing_eq_some (hring : diskRing primary dir = some ring) :
    loadExistingKey dir primary = .ok ring.primary ∧ ring = ringWith primary dir ring.primary := by
  unfold diskRing at hring
  split at hring
  · simp at hring
  next key hkey =>
    cases hring
    exact ⟨hkey, rfl⟩

theorem diskRing_of_load (hkey : loadExistingKey dir primary = .ok key) :
    diskRing primary dir = some (ringWith primary dir key) := by
  simp [diskRing, hkey]

theorem diskRing_retired (hring : diskRing primary dir = some ring) (keyId : String) :
    ring.retired keyId = (loadRetiredKeyFor dir primary keyId).toOption := by
  rw [(diskRing_eq_some hring).2]
  rfl

theorem toOption_eq_some_iff {result : Except KeyError Key} :
    result.toOption = some key ↔ result = .ok key := by
  cases result with
  | error | ok => simp [Except.toOption]

theorem loads_of_keyFor (hring : diskRing primary dir = some ring) {keyId : String}
    (hkey : ring.keyFor keyId = some key) :
    ∃ name, loadExistingKey dir name = .ok key := by
  have hprimary := (diskRing_eq_some hring).1
  unfold KeyRing.keyFor at hkey
  split at hkey
  · cases hkey
    exact ⟨primary, hprimary⟩
  · rw [diskRing_retired hring, toOption_eq_some_iff] at hkey
    exact ⟨retiredKeyPathFor primary keyId, hkey⟩

section Names

variable {primary : String}

theorem retiredKeyPathFor_ne_primary (keyId : String) :
    retiredKeyPathFor primary keyId ≠ primary := by
  intro heq
  have hlength := congrArg (fun name => name.toList.length) heq
  simp [retiredKeyPathFor] at hlength

theorem rotateTmpPath_ne_primary : rotateTmpPath primary ≠ primary := by
  intro heq
  have hlength := congrArg (fun name => name.toList.length) heq
  simp [rotateTmpPath] at hlength

theorem retiredKeyPathFor_injective : Function.Injective (retiredKeyPathFor primary) := by
  intro keyId keyId' heq
  have hlist := congrArg String.toList heq
  simp only [retiredKeyPathFor, String.toList_append, List.append_cancel_left_eq] at hlist
  exact String.toList_inj.mp hlist

theorem retiredKeyPathFor_ne_rotateTmpPath {keyId : String} (hkeyId : UsableLabel keyId) :
    retiredKeyPathFor primary keyId ≠ rotateTmpPath primary := by
  intro heq
  apply hkeyId
  apply retiredKeyPathFor_injective
  rw [heq, rotateTmpPath, retiredKeyPathFor, String.append_assoc]
  rfl

theorem usableLabel_primaryKeyId : UsableLabel primaryKeyId := by
  unfold UsableLabel
  decide

theorem usableLabel_retiredKeyId (secs : Nat) : UsableLabel (retiredKeyId secs) := by
  intro heq
  have hlist := congrArg String.toList heq
  simp [retiredKeyId] at hlist

end Names

end Proxxx
