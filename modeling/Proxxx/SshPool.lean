/-
The pool of SSH sessions, one for each node.  Calls run side by side; each looks
for a cached session, and otherwise resolves the node's address, connects, asks
a host reached through the profile's URL for its name, and stores the session.
Over every interleaving, a session reached that way carries no command of a
caller before it has named its node, and no session serves two nodes.
-/
import Proxxx.SshTarget
import Proxxx.StepSystem

namespace Proxxx.Ssh

open StepSystem List

section Pool

/-- What the pool is built with. -/
structure PoolSetup where
  cfg : SshConfig
  apiUrl : Option String
  hasGateway : Bool
  hostStr : String → Option String

inductive PoolCall where
  | sessionFor
  | exec (command : String)
  | execStream (command : String)
deriving Repr, DecidableEq

/-- The await a call has reached.  Sessions are numbered as they are opened. -/
inductive Stage where
  | permit
  | lookup
  | resolve
  | connect (target : ResolvedNodeSsh)
  | identity (target : ResolvedNodeSsh) (session : Nat)
  | store (session : Nat)
  | held (session : Nat)
  | running (session : Nat) (command : String)
  | ended (result : Except String ExecResult)
  | dropped
deriving Repr, DecidableEq

structure Task where
  node : String
  call : PoolCall
  stage : Stage
deriving Repr, DecidableEq

/-- What is seen of the sessions, in order. -/
inductive Entry where
  | opened (session : Nat) (node : String) (target : ResolvedNodeSsh)
  | sent (session : Nat) (node command : String)
  | answered (session : Nat) (command : String)
      (reply : Except String ExecResult)
  | cached (session : Nat) (node : String)
deriving Repr, DecidableEq

structure SshPool where
  sessions : List (String × Nat)
  localNode : Option (Option String)
  permits : Nat
  opened : Nat
  tasks : List Task
  log : List Entry
deriving Repr, DecidableEq

/-- What a call is resumed with. -/
inductive Resume where
  | permit
  | idle (nanos : Nat)
  | status (reply : Except String (List ClusterStatusEntry))
  | connected (outcome : Except String Unit)
  | answered (reply : Except String ExecResult)
  | stored
  | send
  | use (command : String)
  | drop
deriving Repr, DecidableEq

inductive PoolEvent where
  | call (node : String) (call : PoolCall)
  | resume (task : Nat) (input : Resume)
  | dropSession (node : String)
deriving Repr, DecidableEq

def isNameLookupError (error : String) : Bool :=
  let msg := error.map Char.toLower
  RustStr.contains msg "failed to lookup address information" ||
    RustStr.contains msg "nodename nor servname provided" ||
    RustStr.contains msg "name or service not known" ||
    RustStr.contains msg "temporary failure in name resolution" ||
    RustStr.contains msg "no such host is known" ||
    RustStr.contains msg "no address associated with hostname"

def enrichNodeConnectError (node : String) (target : ResolvedNodeSsh) (error : String) : String :=
  if target.source = .nodeNameFallback ∧ isNameLookupError error = true then
    "no SSH host configured for node '" ++ node ++ "' and name lookup for '" ++
      target.host ++ ":" ++ toString target.port.toNat ++ "' failed: " ++
      "add 'hosts = \x7b " ++ node ++ " = \"<ip>:22\" \x7d' under " ++
      "[profiles.<profile>.ssh]: " ++ error
  else error

/-- The answer to `hostname`, for a session opened through the URL. -/
def checkFallbackHostname (node : String) (target : ResolvedNodeSsh)
    (reply : Except String ExecResult) : Except String Unit :=
  match reply with
  | .error error => .error ("running SSH hostname identity check on " ++
      target.host ++ ":" ++ toString target.port.toNat ++ " for node '" ++
      node ++ "': " ++ error)
  | .ok res => verifyRemoteHostnameOutput node target.toEndpoint res

namespace SshPool

variable (setup : PoolSetup) (pool : SshPool)

def new (localNode : Option (Option String)) : SshPool where
  sessions := []
  localNode := localNode
  permits := max setup.cfg.maxConcurrent 1
  opened := 0
  tasks := []
  log := []

/-- The node behind the API is asked for at most once. -/
def initLocalNode (reply : Except String (List ClusterStatusEntry)) : Option String :=
  match pool.localNode with
  | some known => known
  | none =>
    if setup.hasGateway then reply.toOption.bind apiLocalNodeFromStatus
    else none

def resolveNodeTarget (node : String) (reply : Except String (List ClusterStatusEntry)) :
    ResolvedNodeSsh × SshPool :=
  match setup.cfg.resolveExplicitHost node with
  | some endpoint => (⟨endpoint, .explicitHosts⟩, pool)
  | none =>
    let known := pool.initLocalNode setup reply
    (setup.cfg.resolveHost setup.hostStr node setup.apiUrl known,
      { pool with localNode := some known })

/-- The cached session of the node, unless it was idle for too long. -/
def fastPath (node : String) (idle : Nat) : Option Nat :=
  (pool.sessions.lookup node).filter fun _ => idle < setup.cfg.idleTimeoutSecs * 1000000000

def record (entries : List Entry) : SshPool :=
  { pool with log := pool.log ++ entries }

def insert (node : String) (session : Nat) : SshPool :=
  { pool with
    sessions := (node, session) :: pool.sessions.filter (·.1 ≠ node) }

/-- A call that is over gives its permit back. -/
def release (task : Task) : SshPool :=
  match task.call, task.stage with
  | .sessionFor, _ => pool
  | _, .permit => pool
  | _, _ => { pool with permits := pool.permits + 1 }

def connected (task : Task) (target : ResolvedNodeSsh) : SshPool × Stage :=
  let session := pool.opened
  let pool := { pool with opened := pool.opened + 1 }
  if target.source = .apiUrlFallback then
    (pool.record [.opened session task.node target,
      .sent session task.node "hostname"], .identity target session)
  else (pool.record [.opened session task.node target], .store session)

def identified (task : Task) (target : ResolvedNodeSsh) (session : Nat)
    (reply : Except String ExecResult) : SshPool × Stage :=
  let pool := pool.record [.answered session "hostname" reply]
  match checkFallbackHostname task.node target reply with
  | .error error => (pool.release task, .ended (.error error))
  | .ok () => (pool, .store session)

/-- One call from an await to the next. -/
def advance (task : Task) (input : Resume) : Option (SshPool × Stage) :=
  match task.stage, input with
  | .permit, .permit =>
    if 0 < pool.permits then
      some ({ pool with permits := pool.permits - 1 }, .lookup)
    else none
  | .lookup, .idle nanos =>
    match pool.fastPath setup task.node nanos with
    | some session => some (pool, .held session)
    | none => some (pool, .resolve)
  | .resolve, .status reply =>
    let (target, next) := pool.resolveNodeTarget setup task.node reply
    some (next, .connect target)
  | .connect target, .connected outcome =>
    match outcome with
    | .error error => some (pool.release task,
        .ended (.error (enrichNodeConnectError task.node target error)))
    | .ok () => some (pool.connected task target)
  | .identity target session, .answered reply => some (pool.identified task target session reply)
  | .store session, .stored =>
    some ((pool.insert task.node session).record [.cached session task.node], .held session)
  | .held session, .send =>
    match task.call with
    | .sessionFor => none
    | .exec command | .execStream command =>
      some (pool.record [.sent session task.node command], .running session command)
  | .held session, .use command =>
    match task.call with
    | .sessionFor => some (pool.record [.sent session task.node command], .held session)
    | _ => none
  | .running session command, .answered reply =>
    some ((pool.record [.answered session command reply]).release task, .ended reply)
  | .ended _, .drop | .dropped, .drop => none
  | _, .drop => some (pool.release task, .dropped)
  | _, _ => none

/-- One event of the pool: a call arrives, one is resumed, or a session is
dropped by hand. -/
def step : PoolEvent → Option SshPool
  | .call node call =>
    let first : Stage :=
      match call with
      | .sessionFor => .lookup
      | _ => .permit
    some { pool with tasks := pool.tasks ++ [⟨node, call, first⟩] }
  | .resume i input => do
      let task ← pool.tasks[i]?
      let (next, stage) ← pool.advance setup task input
      return { next with tasks := next.tasks.set i { task with stage } }
  | .dropSession node => some { pool with sessions := pool.sessions.filter (·.1 ≠ node) }

end SshPool

end Pool

section Vetting

variable {log : List Entry} {node : String} {session : Nat}

/-- The session has answered `hostname` with a clean exit and the node's
name. -/
def Identified (log : List Entry) (node : String) (session : Nat) : Prop :=
  ∃ res, .answered session "hostname" (.ok res) ∈ log ∧
    res.exitCode = some 0 ∧ ReportsNode node res.stdout

/-- The session was opened for the node and, if through the URL, has named
it. -/
def Vetted (log : List Entry) (node : String) (session : Nat) : Prop :=
  ∃ target, .opened session node target ∈ log ∧
    (target.source = .apiUrlFallback → Identified log node session)

/-- A command goes to a session of its node, and one of a caller to a vetted
one. -/
def Justified (before : List Entry) : Entry → Prop
  | .sent session node command =>
    ∃ target, .opened session node target ∈ before ∧
      (target.source = .apiUrlFallback → command ≠ "hostname" → Identified before node session)
  | _ => True

/-- The session a call works with is one it may use. -/
def Stage.Sound (log : List Entry) (node : String) : Stage → Prop
  | .identity target session => .opened session node target ∈ log
  | .store session => Vetted log node session
  | .held session => Vetted log node session
  | .running session _ => Vetted log node session
  | _ => True

theorem Identified.append (hidentified : Identified log node session)
    (entries : List Entry) : Identified (log ++ entries) node session := by
  obtain ⟨res, hanswer, hres⟩ := hidentified
  exact ⟨res, mem_append_left entries hanswer, hres⟩

theorem Vetted.append (hvetted : Vetted log node session)
    (entries : List Entry) : Vetted (log ++ entries) node session := by
  obtain ⟨target, hopened, hnamed⟩ := hvetted
  exact ⟨target, mem_append_left entries hopened, fun hurl => (hnamed hurl).append entries⟩

theorem Stage.Sound.append {stage : Stage} (hstage : stage.Sound log node)
    (entries : List Entry) : stage.Sound (log ++ entries) node := by
  cases stage with
  | identity target session => exact mem_append_left entries hstage
  | store | held | running => exact Vetted.append hstage entries
  | _ => trivial

/-- An accepted answer vets the session. -/
theorem vetted_of_check {target : ResolvedNodeSsh} {reply : Except String ExecResult}
    (hopened : .opened session node target ∈ log)
    (hcheck : checkFallbackHostname node target reply = .ok ()) :
    Vetted (log ++ [.answered session "hostname" reply]) node session := by
  refine ⟨target, mem_append_left _ hopened, fun _ => ?_⟩
  cases reply with
  | error error => cases hcheck
  | ok res =>
    obtain ⟨hexit, hnamed⟩ := verifyRemoteHostnameOutput_eq_ok_iff.mp hcheck
    exact ⟨res, mem_append_right _ (mem_singleton_self _), hexit, hnamed⟩

end Vetting

namespace SshPool

section Invariant

variable {pool next : SshPool} {node : String} {session : Nat}

/-- The sessions of the pool and what was done with them. -/
structure LogSound (pool : SshPool) : Prop where
  numbered : ∀ session node target, .opened session node target ∈ pool.log → session < pool.opened
  single : ∀ session node target node' target',
    .opened session node target ∈ pool.log →
      .opened session node' target' ∈ pool.log → node = node' ∧ target = target'
  vetted : ∀ session node, .cached session node ∈ pool.log → Vetted pool.log node session
  logged : ∀ node session, (node, session) ∈ pool.sessions → .cached session node ∈ pool.log
  sends : AtEach Justified pool.log

theorem LogSound.of_eq (hsound : pool.LogSound) (hlog : next.log = pool.log)
    (hopened : next.opened = pool.opened)
    (hsessions : next.sessions ⊆ pool.sessions) : next.LogSound where
  numbered := hlog ▸ hopened ▸ hsound.numbered
  single := hlog ▸ hsound.single
  vetted := hlog ▸ hsound.vetted
  logged node session hmem := hlog ▸ hsound.logged node session (hsessions hmem)
  sends := hlog ▸ hsound.sends

/-- An entry is written down that opens no session. -/
theorem LogSound.concat {entry : Entry} (hsound : pool.LogSound)
    (hlog : next.log = pool.log ++ [entry])
    (hcount : next.opened = pool.opened)
    (hopened : ∀ session node target, entry ≠ .opened session node target)
    (hentry : Justified pool.log entry)
    (hvetted : ∀ session node, entry = .cached session node → Vetted pool.log node session)
    (hsessions : ∀ node session, (node, session) ∈ next.sessions →
      (node, session) ∈ pool.sessions ∨ entry = .cached session node) :
    next.LogSound := by
  have hold {session : Nat} {node : String} {target : ResolvedNodeSsh}
      (hmem : .opened session node target ∈ pool.log ++ [entry]) :
      .opened session node target ∈ pool.log := by
    rcases mem_append.mp hmem with hin | hnew
    · exact hin
    · exact absurd (mem_singleton.mp hnew).symm (hopened _ _ _)
  constructor
  · intro session node target hmem
    rw [hcount]
    exact hsound.numbered session node target (hold (hlog ▸ hmem))
  · intro session node target node' target' hone htwo
    exact hsound.single session node target node' target' (hold (hlog ▸ hone)) (hold (hlog ▸ htwo))
  · intro session node hmem
    rw [hlog] at hmem ⊢
    rcases mem_append.mp hmem with hin | hnew
    · exact (hsound.vetted session node hin).append [entry]
    · exact (hvetted session node (mem_singleton.mp hnew).symm).append _
  · intro node session hmem
    rw [hlog]
    rcases hsessions node session hmem with hin | hnew
    · exact mem_append_left _ (hsound.logged node session hin)
    · exact mem_append_right _ (mem_singleton.mpr hnew.symm)
  · rw [hlog]
    exact hsound.sends.concat hentry

/-- A command is sent on a session of its node. -/
theorem LogSound.send {command : String} {target : ResolvedNodeSsh}
    (hsound : pool.LogSound) (hopened : .opened session node target ∈ pool.log)
    (hnamed : target.source = .apiUrlFallback → command ≠ "hostname" →
      Identified pool.log node session) :
    (pool.record [.sent session node command]).LogSound :=
  hsound.concat rfl rfl (by simp) ⟨target, hopened, hnamed⟩ (by simp) fun _ _ hmem => .inl hmem

theorem LogSound.answer (hsound : pool.LogSound) (session : Nat)
    (command : String) (reply : Except String ExecResult) :
    (pool.record [.answered session command reply]).LogSound :=
  hsound.concat rfl rfl (by simp) trivial (by simp) fun _ _ hmem => .inl hmem

/-- A vetted session is stored under its node. -/
theorem LogSound.store (hsound : pool.LogSound) (hvetted : Vetted pool.log node session) :
    ((pool.insert node session).record [.cached session node]).LogSound := by
  refine hsound.concat rfl rfl (by simp) trivial ?_ ?_
  · intro session' node' heq
    cases heq
    exact hvetted
  · intro node' session' hmem
    rcases mem_cons.mp hmem with hnew | hin
    · cases hnew
      exact .inr rfl
    · exact .inl (mem_of_mem_filter hin)

/-- A session is opened under the next number. -/
theorem LogSound.open (hsound : pool.LogSound) (node : String) (target : ResolvedNodeSsh) :
    ({ pool with opened := pool.opened + 1 }.record
      [.opened pool.opened node target]).LogSound := by
  have hcases {session : Nat} {node' : String} {target' : ResolvedNodeSsh}
      (hmem : .opened session node' target' ∈ pool.log ++ [.opened pool.opened node target]) :
      session < pool.opened ∧ .opened session node' target' ∈ pool.log ∨
        session = pool.opened ∧ node' = node ∧ target' = target := by
    rcases mem_append.mp hmem with hin | hnew
    · exact .inl ⟨hsound.numbered session node' target' hin, hin⟩
    · cases mem_singleton.mp hnew
      exact .inr ⟨rfl, rfl, rfl⟩
  refine ⟨?_, ?_, ?_, ?_, hsound.sends.concat trivial⟩
  · intro session node' target' hmem
    change session < pool.opened + 1
    rcases hcases hmem with ⟨hlt, -⟩ | ⟨heq, -⟩ <;> omega
  · intro session one target' two target'' hone htwo
    rcases hcases hone with ⟨hlt, hone⟩ | ⟨heq, hone⟩
    · rcases hcases htwo with ⟨-, htwo⟩ | ⟨heq, -⟩
      · exact hsound.single session one target' two target'' hone htwo
      · omega
    · rcases hcases htwo with ⟨hlt, -⟩ | ⟨-, htwo⟩
      · omega
      · rw [hone.1, hone.2, htwo.1, htwo.2]
        exact ⟨rfl, rfl⟩
  · intro session node' hmem
    rcases mem_append.mp hmem with hin | hnew
    · exact (hsound.vetted session node' hin).append _
    · cases mem_singleton.mp hnew
  · intro node' session hmem
    exact mem_append_left _ (hsound.logged node' session hmem)

/-- What a resumed call leaves behind. -/
structure Advances (pool next : SshPool) (node : String) (stage : Stage) : Prop where
  sound : next.LogSound
  stage : stage.Sound next.log node
  log : pool.log <+: next.log
  tasks : next.tasks = pool.tasks

theorem release_frame (pool : SshPool) (task : Task) :
    (pool.release task).log = pool.log ∧ (pool.release task).opened = pool.opened ∧
      (pool.release task).sessions = pool.sessions ∧
      (pool.release task).tasks = pool.tasks := by
  unfold release
  split <;> exact ⟨rfl, rfl, rfl, rfl⟩

variable {stage : Stage} {task : Task}

/-- A call that is over has no session any more. -/
theorem Advances.release {stage' : Stage} (hadvances : Advances pool next node stage)
    (hover : ∀ log, stage'.Sound log node) :
    Advances pool (next.release task) node stage' := by
  obtain ⟨hlog, hopened, hsessions, htasks⟩ := release_frame next task
  exact ⟨hadvances.sound.of_eq hlog hopened (hsessions ▸ List.Subset.refl _),
    hover _, hlog ▸ hadvances.log, htasks.trans hadvances.tasks⟩

theorem Advances.refl (hsound : pool.LogSound)
    (hstage : stage.Sound pool.log node) : Advances pool pool node stage :=
  ⟨hsound, hstage, prefix_rfl, rfl⟩

variable {setup : PoolSetup}

theorem LogSound.vetted_of_fastPath {idle : Nat} (hsound : pool.LogSound)
    (hfast : pool.fastPath setup node idle = some session) :
    Vetted pool.log node session := by
  obtain ⟨hlookup, -⟩ := Option.filter_eq_some_iff.mp hfast
  obtain ⟨front, back, hsessions, -⟩ := lookup_eq_some_iff.mp hlookup
  have hmem : (node, session) ∈ pool.sessions := by simp [hsessions]
  exact hsound.vetted session node (hsound.logged node session hmem)

theorem record_record (pool : SshPool) (entries more : List Entry) :
    (pool.record entries).record more = pool.record (entries ++ more) := by simp [record]

theorem advances_connected (hsound : pool.LogSound) (task : Task) (target : ResolvedNodeSsh) :
    Advances pool (pool.connected task target).1 task.node (pool.connected task target).2 := by
  have hopen := hsound.open task.node target
  have hmem : Entry.opened pool.opened task.node target ∈
      pool.log ++ [.opened pool.opened task.node target] :=
    mem_append_right _ (mem_singleton_self _)
  unfold connected
  by_cases hurl : target.source = .apiUrlFallback
  · rw [if_pos hurl]
    have hsent := hopen.send hmem fun _ hother => absurd rfl hother
    rw [record_record] at hsent
    exact ⟨hsent, mem_append_right _ mem_cons_self, prefix_append _ _, rfl⟩
  · rw [if_neg hurl]
    exact ⟨hopen, ⟨target, hmem, fun h => absurd h hurl⟩, prefix_append _ _, rfl⟩

theorem advances_send (hsound : pool.LogSound)
    (hvetted : Vetted pool.log node session) (command : String)
    (hstage : ∀ log, Vetted log node session → stage.Sound log node) :
    Advances pool (pool.record [.sent session node command]) node stage := by
  obtain ⟨target, hopened, hnamed⟩ := hvetted
  refine ⟨hsound.send hopened fun hurl _ => hnamed hurl, ?_, prefix_append _ _, rfl⟩
  exact hstage _ (Vetted.append ⟨target, hopened, hnamed⟩ _)

theorem advances_resolve (hsound : pool.LogSound) (reply : Except String (List ClusterStatusEntry))
    (target : ResolvedNodeSsh) :
    Advances pool (pool.resolveNodeTarget setup node reply).2 node (.connect target) := by
  unfold resolveNodeTarget
  split
  · exact .refl hsound trivial
  · exact ⟨hsound.of_eq rfl rfl (List.Subset.refl _), trivial, prefix_rfl, rfl⟩

theorem advances_identified {target : ResolvedNodeSsh} (hsound : pool.LogSound)
    (hopened : .opened session task.node target ∈ pool.log)
    (reply : Except String ExecResult) :
    Advances pool (pool.identified task target session reply).1 task.node
      (pool.identified task target session reply).2 := by
  have hanswer : Advances pool
      (pool.record [.answered session "hostname" reply]) task.node .dropped :=
    ⟨hsound.answer session "hostname" reply, trivial, prefix_append _ _, rfl⟩
  unfold identified
  split
  next => exact hanswer.release fun _ => trivial
  next hcheck => exact { hanswer with stage := vetted_of_check hopened hcheck }

theorem advance_advances {input : Resume} (hsound : pool.LogSound)
    (hstage : task.stage.Sound pool.log task.node)
    (hadvance : pool.advance setup task input = some (next, stage)) :
    Advances pool next task.node stage := by
  have hhere : Advances pool pool task.node .dropped := .refl hsound trivial
  revert hadvance
  fun_cases advance setup pool task input <;> intro hadvance
  any_goals cases hadvance
  all_goals try rw [‹task.stage = _›] at hstage
  next => exact ⟨hsound.of_eq rfl rfl (List.Subset.refl _), trivial, prefix_rfl, rfl⟩
  next hfast => exact .refl hsound (hsound.vetted_of_fastPath hfast)
  next => exact .refl hsound trivial
  next reply _ target hresolved =>
    have hadvances : Advances pool (resolveNodeTarget setup pool task.node reply).2 task.node
      (.connect target) := advances_resolve hsound reply target
    rwa [hresolved] at hadvances
  next => exact hhere.release fun _ => trivial
  next target _ =>
    have hconnected := advances_connected hsound task target
    rwa [Option.some.inj hadvance] at hconnected
  next reply _ =>
    have hidentified := advances_identified hsound hstage reply
    rwa [Option.some.inj hadvance] at hidentified
  next => exact ⟨hsound.store hstage, Vetted.append hstage _, prefix_append _ _, rfl⟩
  next => exact advances_send hsound hstage _ fun _ => id
  next => exact advances_send hsound hstage _ fun _ => id
  next => exact advances_send hsound hstage _ fun _ => id
  next session command reply _ =>
    have hanswer : Advances pool (pool.record
        [.answered session command reply]) task.node .dropped :=
      ⟨hsound.answer session command reply, trivial, prefix_append _ _, rfl⟩
    exact hanswer.release fun _ => trivial
  next => exact hhere.release fun _ => trivial

/-- The pool and every call in it. -/
structure Sound (pool : SshPool) : Prop where
  log : pool.LogSound
  tasks : ∀ task ∈ pool.tasks, task.stage.Sound pool.log task.node

theorem sound_new (setup : PoolSetup) (localNode : Option (Option String)) :
    (new setup localNode).Sound where
  log := ⟨by simp [new], by simp [new], by simp [new], by simp [new], atEach_nil⟩
  tasks := by simp [new]

theorem Sound.resume {i : Nat} {input : Resume} (hsound : pool.Sound)
    (htask : pool.tasks[i]? = some task)
    (hadvance : pool.advance setup task input = some (next, stage)) :
    { next with tasks := next.tasks.set i { task with stage } }.Sound := by
  have hmem : task ∈ pool.tasks := mem_of_getElem? htask
  have hadvances := advance_advances hsound.log (hsound.tasks task hmem) hadvance
  refine ⟨hadvances.sound.of_eq rfl rfl (List.Subset.refl _), ?_⟩
  intro other hother
  obtain ⟨entries, hlog⟩ := hadvances.log
  rcases mem_or_eq_of_mem_set hother with hin | rfl
  · change other.stage.Sound next.log other.node
    rw [hadvances.tasks] at hin
    rw [← hlog]
    exact (hsound.tasks other hin).append entries
  · exact hadvances.stage

theorem Sound.step {event : PoolEvent}
    (hstep : pool.step setup event = some next) (hsound : pool.Sound) :
    next.Sound := by
  cases event with
  | call node call =>
    cases hstep
    refine ⟨hsound.log.of_eq rfl rfl (List.Subset.refl _), ?_⟩
    intro task htask
    rcases mem_append.mp htask with hin | hnew
    · exact hsound.tasks task hin
    · cases mem_singleton.mp hnew
      cases call <;> trivial
  | resume i input =>
    obtain ⟨task, htask, hrest⟩ := Option.bind_eq_some_iff.mp hstep
    obtain ⟨⟨later, stage⟩, hadvance, hnext⟩ := Option.bind_eq_some_iff.mp hrest
    cases hnext
    exact hsound.resume htask hadvance
  | dropSession node =>
    cases hstep
    exact ⟨hsound.log.of_eq rfl rfl (filter_subset_self _), hsound.tasks⟩

end Invariant

/-- In every run of the pool a command goes on a session that was opened for
its node.  If that was through the profile's URL, then before any command but
`hostname` the session has answered `hostname` with a clean exit and the
node's name.  A session that is or was in the cache carries commands of the
node it is cached for only. -/
theorem sessions_identified_and_separate (setup : PoolSetup)
    (localNode : Option (Option String)) {events : List PoolEvent}
    {last : SshPool}
    (hrun : runFrom (SshPool.step setup) (new setup localNode) events = some last) :
    (∀ before session node command after, last.log = before ++ .sent session node command :: after →
        (∃ target, .opened session node target ∈ before) ∧
          ∀ node' target, .opened session node' target ∈ last.log → node = node' ∧
              (target.source = .apiUrlFallback → command ≠ "hostname" →
                Identified before node' session)) ∧
      (∀ session node node' command, .cached session node ∈ last.log →
        .sent session node' command ∈ last.log → node' = node) ∧
      ∀ node session, (node, session) ∈ last.sessions → .cached session node ∈ last.log := by
  have hsound : last.Sound := invariant_of_step
    (fun hstep hsound => hsound.step hstep) (sound_new setup localNode) hrun
  have hsent : ∀ before session node command after,
      last.log = before ++ .sent session node command :: after →
        ∃ target, .opened session node target ∈ before ∧
          (target.source = .apiUrlFallback → command ≠ "hostname" →
            Identified before node session) := fun before _ _ _ after hlog =>
    hsound.log.sends before _ after hlog
  refine ⟨?_, ?_, hsound.log.logged⟩
  · intro before session node command after hlog
    obtain ⟨target, hopened, hnamed⟩ := hsent before session node command after hlog
    have hmem : .opened session node target ∈ last.log := by
      rw [hlog]
      exact mem_append_left _ hopened
    refine ⟨⟨target, hopened⟩, fun node' target' hopened' => ?_⟩
    obtain ⟨rfl, rfl⟩ := hsound.log.single session node target node' target' hmem hopened'
    exact ⟨rfl, hnamed⟩
  · intro session node node' command hcached hmem
    obtain ⟨before, after, hlog⟩ := append_of_mem hmem
    obtain ⟨target, hopened, -⟩ := hsent before session node' command after hlog
    obtain ⟨target', hopened', -⟩ := hsound.log.vetted session node hcached
    have hin : .opened session node' target ∈ last.log := by
      rw [hlog]
      exact mem_append_left _ hopened
    exact (hsound.log.single session node' target node target' hin hopened').1

end SshPool

namespace PoolWitness

def setup : PoolSetup where
  cfg := ⟨[], 4, 300⟩
  apiUrl := some "https://10.0.0.1:8006"
  hasGateway := true
  hostStr := fun _ => some "10.0.0.1"

def target : ResolvedNodeSsh := ⟨⟨"10.0.0.1", 22⟩, .apiUrlFallback⟩

/-- A command for the node behind the URL, up to the answer to `hostname`. -/
def opening (answer : ExecResult) : List PoolEvent :=
  [.call "pve1" (.exec "uptime"), .resume 0 .permit, .resume 0 (.idle 0),
    .resume 0 (.status (.ok [⟨"node", "pve1", true⟩])),
    .resume 0 (.connected (.ok ())), .resume 0 (.answered (.ok answer))]

def answer : ExecResult := ⟨"PVE1.lan\n", "", some 0⟩

def vetting : List Entry :=
  [.opened 0 "pve1" target, .sent 0 "pve1" "hostname",
    .answered 0 "hostname" (.ok answer), .cached 0 "pve1"]

def last : SshPool where
  sessions := [("pve1", 0)]
  localNode := some (some "pve1")
  permits := 3
  opened := 1
  tasks := [⟨"pve1", .exec "uptime", .running 0 "uptime"⟩]
  log := vetting ++ [.sent 0 "pve1" "uptime"]

/-- The host behind the URL names the node, and the command is sent. -/
theorem sessions_identified_and_separate_uptime : runFrom (SshPool.step setup) (.new setup none)
      (opening answer ++ [.resume 0 .stored, .resume 0 .send]) =
    some last ∧ Identified vetting "pve1" 0 := by
  have hrun : runFrom (SshPool.step setup) (.new setup none)
      (opening answer ++ [.resume 0 .stored, .resume 0 .send]) = some last := by decide +kernel
  obtain ⟨hsent, -⟩ := SshPool.sessions_identified_and_separate setup none hrun
  obtain ⟨-, hopened⟩ := hsent vetting 0 "pve1" "uptime" [] rfl
  exact ⟨hrun, (hopened "pve1" target (by decide +kernel)).2 rfl (by decide)⟩

end PoolWitness

end Proxxx.Ssh
