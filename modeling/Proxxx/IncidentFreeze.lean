/-
The freeze locks: a write kill-switch for the whole fleet and one for each
profile, kept as files.  A mutation reads the fleet's lock and its own
profile's; what the operators did to the locks of other profiles must not
matter to it.
-/
import Proxxx.RustStr
import Mathlib.Data.List.Sort
import Mathlib.Data.String.Basic

namespace Proxxx

open List RustStr

structure FreezeState where
  reason : String
  operator : String
  frozenAt : Nat
  ttlSecs : Option Nat
  profile : Option String
deriving Repr, DecidableEq

def u64SaturatingAdd (one two : Nat) : Nat :=
  min (one + two) 18446744073709551615

/-- A freeze without a time to live lasts until it is lifted. -/
def FreezeState.isActiveAt (state : FreezeState) (now : Nat) : Bool :=
  match state.ttlSecs with
  | some ttl => decide (now < u64SaturatingAdd state.frozenAt ttl)
  | none => true

/-- The TOML library, as far as locks go: what it writes it reads back. -/
structure LockToml where
  render : FreezeState → Except String String
  parse : String → Except String FreezeState
  parse_render : ∀ {state text}, render state = .ok text → parse text = .ok state

/-- What stands at a path, as the calls on it see it.  A file is `unseen` if
asking for its metadata fails for another reason than its absence. -/
inductive LockFile where
  | absent
  | unseen
  | unreadable
  | text (content : String)
deriving Repr, DecidableEq

/-- `Path::exists`, which takes every failure for absence. -/
def LockFile.pathExists : LockFile → Bool
  | .absent | .unseen => false
  | .unreadable | .text _ => true

structure LockPath where
  dir : String
  name : String
deriving Repr, DecidableEq

def LockPath.display (path : LockPath) : String :=
  path.dir ++ "/" ++ path.name

abbrev LockFiles := LockPath → LockFile

section Reading

variable (toml : LockToml) (now : Nat) (path : LockPath) (file : LockFile)

def currentStateAt : Except String (Option FreezeState) :=
  if file.pathExists = false then .ok none
  else
    match file with
    | .text content =>
      match toml.parse content with
      | .ok state => .ok (if state.isActiveAt now then some state else none)
      | .error _ => .error s!"parsing freeze lock at {path.display}"
    | _ => .error s!"reading freeze lock at {path.display}"

structure FreezeRefusal where
  reason : String
  frozenAt : Nat
  scope : String
deriving Repr, DecidableEq

def scopeLabel : Option String → String
  | none => "the fleet"
  | some profile => s!"profile '{profile}'"

/-- A lock that is there and cannot be read counts as an active freeze. -/
def checkNotFrozenAt : Except FreezeRefusal Unit :=
  match currentStateAt toml now path file with
  | .ok (some state) =>
    .error
      { scope := scopeLabel state.profile, reason := state.reason, frozenAt := state.frozenAt }
  | .ok none => .ok ()
  | .error e =>
    .error
      { scope := "the fleet (lock unreadable)"
        reason := s!"the freeze lock at {path.display} could not be read " ++
          "or parsed, so proxxx cannot tell whether a freeze is active. " ++
          "Run `proxxx incident thaw` to clear it deliberately, or repair " ++
          s!"the file. Underlying error: {e}"
        frozenAt := 0 }

end Reading

section Paths

/-- Where the locks are: `PROXXX_FREEZE_PATH` names the lock of the fleet, and
the profiles' locks stand beside it. -/
structure FreezeEnv where
  dataDir : String
  override : Option LockPath

def freezeLocations (env : FreezeEnv) : String × LockPath :=
  match env.override with
  | some global => (global.dir, global)
  | none => (env.dataDir, { dir := env.dataDir, name := "freeze.lock" })

def plainChar (c : Char) : Bool :=
  c.isAlphanum || c == '-' || c == '_'

def sanitizeProfile (name : String) : String :=
  let stem := String.ofList
    (name.toList.map fun c => if plainChar c then c else '_')
  if stem.isEmpty then "_" else stem

def freezePathFor (env : FreezeEnv) : Option String → LockPath
  | none => (freezeLocations env).2
  | some name =>
    { dir := (freezeLocations env).1, name := "freeze." ++ sanitizeProfile name ++ ".lock" }

def lockPathsFor (env : FreezeEnv) (profile : Option String) : LockPath × Option LockPath :=
  (freezePathFor env none, profile.map fun name => freezePathFor env (some name))

def checkNotFrozenPaths (toml : LockToml) (now : Nat) (files : LockFiles)
    (global : LockPath) (profile : Option LockPath) : Except FreezeRefusal Unit := do
  checkNotFrozenAt toml now global (files global)
  match profile with
  | some path => checkNotFrozenAt toml now path (files path)
  | none => pure ()

def checkNotFrozenFor (env : FreezeEnv) (toml : LockToml) (now : Nat)
    (files : LockFiles) (profile : Option String) : Except FreezeRefusal Unit :=
  let (global, own) := lockPathsFor env profile
  checkNotFrozenPaths toml now files global own

end Paths

section Operations

/-- How the write of a lock ends.  The rename may have happened although the
directory could not be synced after it. -/
inductive LockWrite where
  | written
  | unsynced
  | failed
deriving Repr, DecidableEq

/-- An operation on one scope (no profile is the whole fleet), with what the
operator gave and how the file system answered. -/
inductive FreezeOp where
  | freeze (scope : Option String) (reason : String) (ttlSecs : Option Nat)
      (operator : String) (now : Nat) (write : LockWrite)
  | thaw (scope : Option String) (removed : Bool)
deriving Repr, DecidableEq

def FreezeOp.scope : FreezeOp → Option String
  | .freeze scope _ _ _ _ _ => scope
  | .thaw scope _ => scope

/-- The file `write_freeze_at` leaves in the place of the lock. -/
def writeFreezeAt (toml : LockToml) (profile : Option String) (reason : String)
    (ttlSecs : Option Nat) (operator : String) (now : Nat) (write : LockWrite)
    (file : LockFile) : LockFile :=
  if (RustStr.trim reason).isEmpty then file
  else
    let state : FreezeState :=
      { reason, operator, frozenAt := now, ttlSecs, profile }
    match toml.render state, write with
    | .ok content, .written | .ok content, .unsynced => .text content
    | _, _ => file

/-- The file `thaw_at` leaves in the place of the lock. -/
def thawAt (removed : Bool) (file : LockFile) : LockFile :=
  if file.pathExists = false then file
  else if removed then .absent
  else file

/-- What an operation does to the lock of its own scope. -/
def FreezeOp.apply (toml : LockToml) : FreezeOp → LockFile → LockFile
  | .freeze scope reason ttlSecs operator now write =>
    writeFreezeAt toml scope reason ttlSecs operator now write
  | .thaw _ removed => thawAt removed

def applyFreezeOp (env : FreezeEnv) (toml : LockToml) (files : LockFiles)
    (op : FreezeOp) : LockFiles :=
  Function.update files (freezePathFor env op.scope)
    (op.apply toml (files (freezePathFor env op.scope)))

def runFreezeOps (env : FreezeEnv) (toml : LockToml) (files : LockFiles)
    (ops : List FreezeOp) : LockFiles :=
  ops.foldl (applyFreezeOp env toml) files

end Operations

section Listing

/-- What reading the lock directory gives. -/
inductive LockListing where
  | notFound
  | failed (e : String)
  | listed (entries : List (Except String String))

def isLockName (name : String) : Bool :=
  RustStr.startsWith name "freeze." && RustStr.endsWith name ".lock"

/-- The order of the scopes: the fleet first. -/
def profileLe : Option String → Option String → Bool
  | none, _ => true
  | some _, none => false
  | some one, some two => decide (one ≤ two)

def listActiveIn (toml : LockToml) (now : Nat) (dir : String)
    (listing : LockListing) (files : LockFiles) : Except String (List FreezeState) :=
  match listing with
  | .notFound => .ok []
  | .failed _ => .error s!"reading {dir}"
  | .listed entries => do
      let names ← entries.mapM id
      let states := names.filterMap fun name =>
        if isLockName name then
          match currentStateAt toml now { dir, name } (files { dir, name }) with
          | .ok state => state
          | .error _ => none
        else none
      return states.insertionSort fun one two => profileLe one.profile two.profile

end Listing

section Blocking

variable {toml : LockToml} {now : Nat} {file : LockFile}

/-- There is a lock and its freeze cannot be told. -/
def LockFile.Corrupt (toml : LockToml) : LockFile → Prop
  | .absent | .unseen => False
  | .unreadable => True
  | .text content => ∃ e, toml.parse content = .error e

/-- The lock holds a freeze that has not expired. -/
def LockFile.Holds (toml : LockToml) (now : Nat) : LockFile → Prop
  | .text content => ∃ state, toml.parse content = .ok state ∧ state.isActiveAt now = true
  | _ => False

/-- What a lock says, if it is seen, stops mutations. -/
def LockFile.Stops (toml : LockToml) (now : Nat) (file : LockFile) : Prop :=
  file.Holds toml now ∨ file.Corrupt toml

/-- The lock is to stop mutations: it holds an unexpired freeze, or it is there
and cannot be read. -/
def LockFile.Blocks (toml : LockToml) (now : Nat) (file : LockFile) : Prop :=
  file.Stops toml now ∨ file = .unseen

def refuses (result : Except FreezeRefusal Unit) : Prop :=
  ∃ refusal, result = .error refusal

theorem currentStateAt_eq_ok_some {path : LockPath} {state : FreezeState} :
    currentStateAt toml now path file = .ok (some state) ↔
      ∃ content, file = .text content ∧ toml.parse content = .ok state ∧
        state.isActiveAt now = true := by
  cases file with
  | absent | unseen | unreadable => simp [currentStateAt, LockFile.pathExists]
  | text content =>
    cases hparse : toml.parse content with
    | error e => simp [currentStateAt, LockFile.pathExists, hparse]
    | ok found =>
      cases hactive : found.isActiveAt now
      all_goals
        simp only [currentStateAt, LockFile.pathExists, hparse, hactive]
        aesop

theorem currentStateAt_eq_error (now : Nat) (path : LockPath) :
    (∃ e, currentStateAt toml now path file = .error e) ↔ file.Corrupt toml := by
  cases file with
  | absent | unseen | unreadable => simp [currentStateAt, LockFile.pathExists, LockFile.Corrupt]
  | text content =>
    cases hparse : toml.parse content <;>
      simp [currentStateAt, LockFile.pathExists, LockFile.Corrupt, hparse]

theorem holds_iff_currentStateAt (path : LockPath) : file.Holds toml now ↔
    ∃ state, currentStateAt toml now path file = .ok (some state) := by
  simp only [currentStateAt_eq_ok_some]
  cases file <;> simp [LockFile.Holds]

/-- The check passes a lock that it does not see. -/
theorem refuses_checkNotFrozenAt (path : LockPath) :
    refuses (checkNotFrozenAt toml now path file) ↔ file.Stops toml now := by
  rw [LockFile.Stops, holds_iff_currentStateAt path, ← currentStateAt_eq_error now path]
  unfold refuses checkNotFrozenAt
  split
  next state hstate => simp [hstate]
  next hnone => simp [hnone]
  next e herror => simp [herror]

end Blocking

section Isolation

variable {env : FreezeEnv} {toml : LockToml} {now : Nat} {files : LockFiles}
variable {ops : List FreezeOp} {scopes : List (Option String)}
variable {name other : String}

/-- A profile name that stands in a file name as it is. -/
def PlainName (name : String) : Prop :=
  name ≠ "" ∧ ∀ c ∈ name.toList, plainChar c = true

theorem sanitizeProfile_of_plain (hname : PlainName name) : sanitizeProfile name = name := by
  have hstem : (name.toList.map fun c => if plainChar c then c else '_') = name.toList := by
    conv_rhs => rw [← map_id name.toList]
    apply map_congr_left
    intro c hc
    rw [if_pos (hname.2 c hc), id]
  simp [sanitizeProfile, hstem, hname.1]

/-- Different plain names have different locks. -/
theorem freezePathFor_inj (hname : PlainName name) (hother : PlainName other)
    (hsame : freezePathFor env (some name) = freezePathFor env (some other)) :
    name = other := by
  have hfile := congrArg (fun path => path.name.toList) hsame
  simp only [freezePathFor, sanitizeProfile_of_plain hname,
    sanitizeProfile_of_plain hother, String.toList_append,
    append_cancel_left_eq, append_cancel_right_eq] at hfile
  exact String.toList_injective hfile

/-- Without the override no profile's lock is the fleet's. -/
theorem freezePathFor_none_ne (henv : env.override = none) (name : String) :
    freezePathFor env none ≠ freezePathFor env (some name) := by
  intro hsame
  have hlength := congrArg (fun path => path.name.length) hsame
  simp only [freezePathFor, freezeLocations, henv, String.length_append] at hlength
  have hfleet : "freeze.lock".length = 11 := by decide
  have hfront : "freeze.".length = 7 := by decide
  have hback : ".lock".length = 5 := by decide
  omega

/-- The scopes' locks are different files. -/
def Apart (env : FreezeEnv) (scopes : List (Option String)) : Prop :=
  ∀ one ∈ scopes, ∀ two ∈ scopes, freezePathFor env one = freezePathFor env two → one = two

/-- The lock of a scope after the operations on that scope alone. -/
def ownLock (env : FreezeEnv) (toml : LockToml) (files : LockFiles)
    (ops : List FreezeOp) (scope : Option String) : LockFile :=
  (ops.filter fun op => op.scope = scope).foldl
    (fun file op => op.apply toml file) (files (freezePathFor env scope))

/-- Operations on other scopes leave a lock alone. -/
theorem runFreezeOps_lock (hapart : Apart env scopes)
    (hops : ∀ op ∈ ops, op.scope ∈ scopes) {scope : Option String}
    (hscope : scope ∈ scopes) :
    runFreezeOps env toml files ops (freezePathFor env scope) =
      ownLock env toml files ops scope := by
  induction ops generalizing files with
  | nil => rfl
  | cons op rest ih =>
    have hrest : runFreezeOps env toml (applyFreezeOp env toml files op) rest
        (freezePathFor env scope) = ownLock env toml (applyFreezeOp env toml files op) rest scope :=
      ih fun later hlater => hops later (mem_cons_of_mem op hlater)
    refine hrest.trans ?_
    unfold ownLock
    by_cases hown : op.scope = scope
    · rw [filter_cons_of_pos (by simpa using hown), foldl_cons,
        applyFreezeOp, hown, Function.update_self]
    · have hother : freezePathFor env scope ≠ freezePathFor env op.scope :=
        fun hsame => hown (hapart _ hscope _ (hops op mem_cons_self) hsame).symm
      rw [filter_cons_of_neg (by simpa using hown), applyFreezeOp, Function.update_of_ne hother]

theorem refuses_checkNotFrozenFor (profile : String) :
    refuses (checkNotFrozenFor env toml now files (some profile)) ↔
      (files (freezePathFor env none)).Stops toml now ∨
        (files (freezePathFor env (some profile))).Stops toml now := by
  rw [← refuses_checkNotFrozenAt (freezePathFor env none),
    ← refuses_checkNotFrozenAt (freezePathFor env (some profile))]
  simp only [checkNotFrozenFor, lockPathsFor, Option.map_some, checkNotFrozenPaths, refuses]
  cases checkNotFrozenAt toml now (freezePathFor env none) (files (freezePathFor env none)) <;>
    simp [bind, Except.bind]

theorem apart_of_plain (hname : PlainName name) (hother : PlainName other)
    (hfleet : ∀ profile ∈ [name, other],
      freezePathFor env none ≠ freezePathFor env (some profile)) :
    Apart env [none, some name, some other] := by
  intro one hone two htwo hsame
  simp only [mem_cons, not_mem_nil, or_false] at hone htwo
  rcases hone with rfl | rfl | rfl <;> rcases htwo with rfl | rfl | rfl
  · rfl
  · exact absurd hsame (hfleet name (by simp))
  · exact absurd hsame (hfleet other (by simp))
  · exact absurd hsame.symm (hfleet name (by simp))
  · rfl
  · rw [freezePathFor_inj hname hother hsame]
  · exact absurd hsame.symm (hfleet other (by simp))
  · rw [freezePathFor_inj hother hname hsame]
  · rfl

theorem checkNotFrozenFor_congr {files files' : LockFiles} (hfiles : ∀ scope ∈ [none, some name],
      files (freezePathFor env scope) = files' (freezePathFor env scope)) :
    checkNotFrozenFor env toml now files (some name) =
      checkNotFrozenFor env toml now files' (some name) := by
  simp only [checkNotFrozenFor, lockPathsFor, Option.map_some,
    checkNotFrozenPaths, hfiles none (by simp), hfiles (some name) (by simp)]

/-- Over every sequence of operations on the fleet's lock and on those of two
profiles, the other profile's operations do not matter, and the check answers
as the two locks that govern the profile demand, exactly if a lock that is not
seen is not the only one to stop it. -/
theorem frozen_iff_governing_locks (env : FreezeEnv) (toml : LockToml)
    (now : Nat) (files : LockFiles) {ops : List FreezeOp}
    (hname : PlainName name) (hother : PlainName other) (hne : name ≠ other)
    (hfleet : ∀ profile ∈ [name, other], freezePathFor env none ≠ freezePathFor env (some profile))
    (hops : ∀ op ∈ ops, op.scope ∈ [none, some name, some other]) :
    checkNotFrozenFor env toml now (runFreezeOps env toml files ops) (some name) =
      checkNotFrozenFor env toml now (runFreezeOps env toml files
          (ops.filter fun op => op.scope ≠ some other)) (some name) ∧
    ((refuses (checkNotFrozenFor env toml now (runFreezeOps env toml files ops) (some name)) ↔
        ∃ scope ∈ [none, some name], (ownLock env toml files ops scope).Blocks toml now) ↔
      ((∃ scope ∈ [none, some name], ownLock env toml files ops scope = .unseen) →
        ∃ scope ∈ [none, some name], (ownLock env toml files ops scope).Stops toml now)) := by
  have hapart := apart_of_plain hname hother hfleet
  have hfilter : ∀ op ∈ ops.filter fun op => op.scope ≠ some other,
      op.scope ∈ [none, some name, some other] :=
    fun op hop => hops op (mem_of_mem_filter hop)
  constructor
  · apply checkNotFrozenFor_congr
    intro scope hscope
    have hmem : scope ∈ [none, some name, some other] := by
      simp only [mem_cons, not_mem_nil, or_false] at hscope ⊢
      tauto
    have hown : scope ≠ some other := by
      rintro rfl
      simp [hne.symm] at hscope
    rw [runFreezeOps_lock hapart hops hmem, runFreezeOps_lock hapart hfilter hmem]
    have hsame : ((ops.filter fun op => op.scope ≠ some other).filter
        fun op => op.scope = scope) = ops.filter fun op => op.scope = scope := by
      rw [filter_filter]
      apply filter_congr
      intro op _
      by_cases hop : op.scope = scope
      · simp [hop, hown]
      · simp [hop]
    simp only [ownLock, hsame]
  · rw [refuses_checkNotFrozenFor, runFreezeOps_lock hapart hops (by simp),
      runFreezeOps_lock hapart hops (by simp)]
    simp only [LockFile.Blocks, mem_cons, not_mem_nil, or_false, exists_eq_or_imp, exists_eq_left]
    tauto

end Isolation

section Listed

variable {toml : LockToml} {now : Nat} {dir name : String}
variable {files : LockFiles} {entries : List (Except String String)}
variable {active : List FreezeState}

theorem mapM_id_eq_ok {names : List String}
    (hnames : entries.mapM id = .ok names) : entries = names.map .ok := by
  induction entries generalizing names with
  | nil =>
    cases hnames
    rfl
  | cons entry rest ih =>
    rw [mapM_cons] at hnames
    obtain ⟨first, hfirst, hmore⟩ := bind_eq_ok hnames
    obtain ⟨others, hothers, hall⟩ := bind_eq_ok hmore
    cases hall
    rw [map_cons, ← ih hothers, ← hfirst, id]

theorem mem_listActiveIn (hlist : listActiveIn toml now dir (.listed entries) files = .ok active)
    {state : FreezeState} :
    state ∈ active ↔ ∃ name, .ok name ∈ entries ∧ isLockName name = true ∧
      currentStateAt toml now { dir, name } (files { dir, name }) = .ok (some state) := by
  obtain ⟨names, hnames, hsorted⟩ := bind_eq_ok hlist
  cases hsorted
  rw [mapM_id_eq_ok hnames, mem_insertionSort, mem_filterMap]
  constructor
  · rintro ⟨name, hname, hstate⟩
    split at hstate
    next hlock =>
      split at hstate
      next found hfound =>
        subst hstate
        exact ⟨name, mem_map_of_mem hname, hlock, hfound⟩
      next => cases hstate
    next => cases hstate
  · rintro ⟨name, hname, hlock, hstate⟩
    obtain ⟨found, hfound, heq⟩ := mem_map.mp hname
    cases heq
    exact ⟨name, hfound, by rw [if_pos hlock, hstate]⟩

/-- The list shows the freeze that is read from the file. -/
def Reported (toml : LockToml) (active : List FreezeState) (file : LockFile) : Prop :=
  ∃ content state, file = .text content ∧ toml.parse content = .ok state ∧ state ∈ active

theorem reported_iff_holds (hlist : listActiveIn toml now dir (.listed entries) files = .ok active)
    (hentry : .ok name ∈ entries) (hname : isLockName name = true) :
    Reported toml active (files { dir, name }) ↔ (files { dir, name }).Holds toml now := by
  constructor
  · rintro ⟨content, state, hfile, hparse, hstate⟩
    obtain ⟨_, -, -, hcurrent⟩ := (mem_listActiveIn hlist).mp hstate
    obtain ⟨_, -, -, hactive⟩ := currentStateAt_eq_ok_some.mp hcurrent
    rw [hfile]
    exact ⟨state, hparse, hactive⟩
  · intro hholds
    obtain ⟨state, hstate⟩ := (holds_iff_currentStateAt { dir, name }).mp hholds
    obtain ⟨content, hfile, hparse, -⟩ := currentStateAt_eq_ok_some.mp hstate
    exact ⟨content, state, hfile, hparse,
      (mem_listActiveIn hlist).mpr ⟨name, hentry, hname, hstate⟩⟩

theorem LockFile.Corrupt.not_holds {file : LockFile}
    (hcorrupt : file.Corrupt toml) : ¬file.Holds toml now := by
  cases file with
  | absent | unseen | unreadable => exact id
  | text content =>
    rintro ⟨state, hparse, -⟩
    obtain ⟨e, herror⟩ := hcorrupt
    rw [hparse] at herror
    cases herror

end Listed

namespace FreezeWitness

def prodFreeze : FreezeState :=
  { reason := "token leaked", operator := "ops@bastion", frozenAt := 1747700000, ttlSecs := none
    profile := some "prod" }

/-- A library that writes one state only. -/
def prodToml : LockToml where
  render state := if state = prodFreeze then .ok "frozen" else .error "no"
  parse text := if text = "frozen" then .ok prodFreeze else .error "expected"
  parse_render := by
    intro state text hrender
    split at hrender
    next heq =>
      cases hrender
      rw [heq, if_pos rfl]
    next => cases hrender

def hostEnv : FreezeEnv :=
  { dataDir := "/var/lib/proxxx", override := none }

def prodOps : List FreezeOp :=
  [.freeze (some "prod") "token leaked" none "ops@bastion" 1747700000 .written,
    .thaw (some "lab") true]

theorem plainName_prod : PlainName "prod" := ⟨by decide, all_eq_true.mp (by decide)⟩

theorem plainName_lab : PlainName "lab" := ⟨by decide, all_eq_true.mp (by decide)⟩

/-- Thawing the laboratory does not lift the freeze of production. -/
theorem frozen_prod_after_thaw_lab : refuses (checkNotFrozenFor hostEnv prodToml 1747700001
    (runFreezeOps hostEnv prodToml (fun _ => .absent) prodOps)
    (some "prod")) := by
  have hscopes : ∀ op ∈ prodOps, op.scope ∈ [none, some "prod", some "lab"] := by decide
  have hlocks := (frozen_iff_governing_locks hostEnv prodToml 1747700001
    (fun _ => .absent) plainName_prod plainName_lab (by decide)
    (fun profile _ => freezePathFor_none_ne rfl profile) hscopes).2
  have hprod : ownLock hostEnv prodToml (fun _ => .absent) prodOps
      (some "prod") = .text "frozen" := by decide +kernel
  have hstops : (LockFile.text "frozen").Stops prodToml 1747700001 :=
    Or.inl ⟨prodFreeze, by decide, by decide⟩
  refine (hlocks.mpr fun _ => ⟨some "prod", by simp, hprod ▸ hstops⟩).mpr ?_
  exact ⟨some "prod", by simp, Or.inl (hprod ▸ hstops)⟩

/-- The fleet is frozen, but the directory of the locks may not be searched. -/
theorem unseen_lock_passes : (LockFile.unseen.Blocks prodToml 1747700001) ∧
    checkNotFrozenFor hostEnv prodToml 1747700001
      (runFreezeOps hostEnv prodToml (fun _ => .unseen) []) (some "prod") = .ok () :=
  ⟨Or.inr rfl, by decide +kernel⟩

/-- The directory holds the lock of production and one that was cut off. -/
def lockFiles : LockFiles
  | { dir := "/locks", name := "freeze.prod.lock" } => .text "frozen"
  | { dir := "/locks", name := "freeze.lock" } => .text "fro"
  | _ => .absent

def lockNames : List (Except String String) :=
  [.ok "freeze.lock", .ok "notes.txt", .ok "freeze.prod.lock"]

theorem listActiveIn_locks :
    listActiveIn prodToml 1747700001 "/locks" (.listed lockNames) lockFiles = .ok [prodFreeze] := by
  decide +kernel

end FreezeWitness

end Proxxx
