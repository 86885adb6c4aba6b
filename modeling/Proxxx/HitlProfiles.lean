/-
Profiles: the store has no column for the profile a request was stored under,
so a daemon carries an approved request out on the cluster of its own profile.
-/
import Proxxx.HitlQuorum

namespace Proxxx

open StepSystem List

/-- A mutation of the request was sent to the cluster. -/
def SentTo (log : List Observation) (id cluster : String) : Prop :=
  ∃ history mutation reply, .performed id cluster history ∈ log ∧ .sent mutation reply ∈ history

/-- Every mutation of a request went to the cluster of the profile under which
the request was stored. -/
def OwnClusterOnly (world : HitlWorld) (log : List Observation) : Prop :=
  ∀ id cluster profile request, SentTo log id cluster →
    .stored profile request ∈ log → request.id = id →
    cluster = world.clusterOf profile

/-- The callback is a signed approve of the request, and the last one its
pending row needs. -/
def completesQuorum (mac : Mac) (telegram : TelegramGateway)
    (table : PendingTable) (callback : CallbackQuery) (now : Int) (id : String) : Bool :=
  match verifyCallback mac telegram callback, table.row id with
  | .ok verified, some row =>
    verified.txnId == id && verified.decision == .approve &&
      row.status == .pending && decide (now < row.expiresAt) &&
      decide (max row.require 1 ≤ (addApprover row.approvers verified.approverId).length)
  | _, _ => false

/-- A daemon that takes the last approve of a request runs with a profile of
the cluster that the request was stored for. -/
def ownCluster (world : HitlWorld) (state : HitlState) : HitlEvent → Bool
  | .receive index (some callback) now =>
    (state.daemons index).all fun daemon =>
      state.log.all fun entry =>
        match entry with
        | .stored profile request =>
          !completesQuorum world.mac daemon.config.telegram state.table callback now request.id ||
          world.clusterOf daemon.config.profile == world.clusterOf profile
        | _ => true
  | _ => true

/-- Held and performed requests are at the cluster they were stored for. -/
structure Placed (world : HitlWorld) (state : HitlState) : Prop where
  held : ∀ index config request profile stored,
    state.Holds index config request → .stored profile stored ∈ state.log →
    stored.id = request.id →
    world.clusterOf config.profile = world.clusterOf profile
  performed : ∀ id cluster history profile stored,
    .performed id cluster history ∈ state.log →
    .stored profile stored ∈ state.log → stored.id = id →
    cluster = world.clusterOf profile

section Steps

variable {world : HitlWorld} {state next : HitlState} {event : HitlEvent}

theorem placed_start : Placed world .start := by
  constructor
  · simp [HitlState.start]
  · simp [HitlState.start]

variable {request : PendingRequest} {verified : VerifiedCallback}

theorem completesQuorum_of_approved {telegram : TelegramGateway}
    {callback : CallbackQuery} {now : Int} {table after : PendingTable}
    (hverified : verifyCallback world.mac telegram callback = .ok verified)
    (houtcome : table.processCallbackAt verified.txnId verified.decision
      verified.approverId now = (.approved request, after)) :
    completesQuorum world.mac telegram table callback now request.id = true := by
  have hstep := processCallbackAt_step table verified.txnId verified.decision
    verified.approverId now
  rw [houtcome] at hstep
  cases hstep with
  | approved before hrow hpending hearly hdecision hquorum =>
    have hid : before.id = verified.txnId := table.row_id hrow
    simp only [completesQuorum, hverified, hid, hrow]
    simpa [hpending, hearly, hdecision] using hquorum

/-- Entries that store and carry out nothing, with no daemon taking a request
over, keep everything in its place. -/
theorem Placed.mono {entries : List Observation} (hplaced : Placed world state)
    (hlog : next.log = state.log ++ entries)
    (hstored : ∀ profile stored, .stored profile stored ∉ entries)
    (hperformed : ∀ id cluster history, .performed id cluster history ∉ entries)
    (hheld : ∀ index config request, next.Holds index config request →
      state.Holds index config request) :
    Placed world next := by
  constructor
  · intro index config request profile stored hholds hmem hid
    rw [hlog, mem_append] at hmem
    exact hplaced.held index config request profile stored
      (hheld _ _ _ hholds) (hmem.resolve_right (hstored _ _)) hid
  · intro id cluster history profile stored hmem hmem' hid
    rw [hlog, mem_append] at hmem hmem'
    exact hplaced.performed id cluster history profile stored
      (hmem.resolve_right (hperformed _ _ _))
      (hmem'.resolve_right (hstored _ _)) hid

/-- A request stored under a new id is neither held nor performed. -/
theorem Placed.stored {profile id : String} {new : NewPendingRequest}
    {now : Int} (hplaced : Placed world state)
    (hsound : Sound world.mac state) (hfresh : ¬Known state.log id)
    (hinsert : state.table.insertAt id new now = some (request, next.table))
    (hlog : next.log = state.log ++ [.stored profile request])
    (hdaemons : next.daemons = state.daemons) : Placed world next := by
  obtain ⟨hrequest, -⟩ := insertAt_eq_some hinsert
  have hold : ∀ profile' stored, .stored profile' stored ∈ next.log →
      Known state.log stored.id → .stored profile' stored ∈ state.log := by
    intro profile' stored hmem hknown
    rw [hlog, mem_append] at hmem
    refine hmem.resolve_right fun hnew => hfresh ?_
    obtain ⟨-, rfl⟩ : profile' = profile ∧ stored = request := by simpa using hnew
    exact hrequest ▸ hknown
  constructor
  · intro index config held profile' stored hholds hmem hid
    unfold HitlState.Holds at hholds
    rw [hdaemons] at hholds
    have hknown : Known state.log stored.id := hid ▸ (hsound.held index config held hholds).1.known
    exact hplaced.held index config held profile' stored hholds
      (hold profile' stored hmem hknown) hid
  · intro other cluster history profile' stored hmem hmem' hid
    have hbefore : .performed other cluster history ∈ state.log := by simpa [hlog] using hmem
    have hknown : Known state.log stored.id := by
      rw [hid]
      exact hsound.log.known_of_performs hbefore (by simp [Observation.performs])
    exact hplaced.performed other cluster history profile' stored hbefore
      (hold profile' stored hmem' hknown) hid

/-- The daemon that takes a request over is at the right cluster. -/
theorem Placed.approved {index : Nat} {config : DaemonConfig}
    {callback : CallbackQuery} {now : Int} (hplaced : Placed world state)
    (hcluster : ownCluster world state (.receive index (some callback) now) = true)
    (hdaemon : state.daemons index = some { config, phase := .idle })
    (hverified : verifyCallback world.mac config.telegram callback = .ok verified)
    (houtcome : state.table.processCallbackAt verified.txnId
      verified.decision verified.approverId now = (.approved request, next.table))
    (hlog : next.log = state.log ++ [.handled config.telegram callback now (.approved request)])
    (hheld : ∀ other config' held, next.Holds other config' held → state.Holds other config' held ∨
        other = index ∧ config' = config ∧ held = request) :
    Placed world next := by
  have hcompletes := completesQuorum_of_approved hverified houtcome
  simp only [ownCluster, hdaemon, Option.all_some, all_eq_true] at hcluster
  constructor
  · intro other config' held profile stored hholds hmem hid
    have hbefore : .stored profile stored ∈ state.log := by simpa [hlog] using hmem
    rcases hheld _ _ _ hholds with hold | ⟨rfl, rfl, rfl⟩
    · exact hplaced.held _ _ _ _ _ hold hbefore hid
    · have hstored := hcluster _ hbefore
      dsimp only at hstored
      rw [hid, hcompletes] at hstored
      simpa using hstored
  · intro id cluster history profile stored hmem hmem' hid
    exact hplaced.performed id cluster history profile stored
      (by simpa [hlog] using hmem) (by simpa [hlog] using hmem') hid

/-- A held request is carried out where it is held. -/
theorem Placed.performed_step {index : Nat} {config : DaemonConfig} {history : History}
    (hplaced : Placed world state)
    (hholder : state.Holds index config request)
    (hlog : next.log = state.log ++ [.performed request.id
      (world.clusterOf config.profile) history])
    (hheld : ∀ other config' held, next.Holds other config' held →
      state.Holds other config' held ∧ other ≠ index) :
    Placed world next := by
  constructor
  · intro other config' held profile stored hholds hmem hid
    exact hplaced.held _ _ _ _ _ (hheld _ _ _ hholds).1 (by simpa [hlog] using hmem) hid
  · intro id cluster history' profile stored hmem hmem' hid
    have hbefore : .stored profile stored ∈ state.log := by simpa [hlog] using hmem'
    rw [hlog, mem_append] at hmem
    rcases hmem with hold | hnew
    · exact hplaced.performed id cluster history' profile stored hold hbefore hid
    · obtain ⟨rfl, rfl, -⟩ : id = request.id ∧
          cluster = world.clusterOf config.profile ∧ history' = history := by simpa using hnew
      exact hplaced.held _ _ _ _ _ hholder hbefore hid

theorem placed_step (hok : FreshId state event ∧ ownCluster world state event = true)
    (hstep : hitlStep world state event = some next)
    (hinv : Sound world.mac state ∧ Placed world state) :
    Sound world.mac next ∧ Placed world next := by
  obtain ⟨hsound, hplaced⟩ := hinv
  refine ⟨sound_step hok.1 hstep hsound, ?_⟩
  cases hitlStep_change hstep with
  | quiet event entries hlog hentries hrows hheld =>
    refine hplaced.mono hlog (fun profile stored hmem => ?_)
      (fun id cluster history hmem => ?_) hheld
    · simpa [Observation.quiet] using hentries _ hmem
    · simpa [Observation.quiet] using hentries _ hmem
  | stored profile id new now request hinsert hlog hdaemons =>
    exact hplaced.stored hsound hok.1 hinsert hlog hdaemons
  | denied event telegram callback now before request hrow hpending hlog hrows
      hafter hstatus hheld => exact hplaced.mono hlog (by simp) (by simp) hheld
  | approved index config callback verified now before request hdaemon
      hverified houtcome hrow hpending hlog hrows hafter hstatus hquorum
      hheld => exact hplaced.approved hok.2 hdaemon hverified houtcome hlog hheld
  | performed event index config request history hholder hlog htable hheld =>
    exact hplaced.performed_step hholder hlog hheld

/-- When every last approve of a request is taken by a daemon of the cluster
the request was stored for, every mutation goes to that cluster. -/
theorem own_cluster_only {events : List HitlEvent} {last : HitlState}
    (hids : (insertedIds events).Nodup)
    (hclusters : StepsMeet (hitlStep world)
      (fun state event => ownCluster world state event = true) .start events)
    (hrun : runFrom (hitlStep world) .start events = some last) :
    OwnClusterOnly world last.log := by
  have hfresh : StepsMeet (hitlStep world) FreshId .start events :=
    freshIds_of_nodup (by simp [HitlState.start, Known]) hids
  obtain ⟨-, hplaced⟩ := invariant_of_stepsMeet placed_step
    (hfresh.and hclusters) ⟨sound_start, placed_start⟩ hrun
  rintro id cluster profile request ⟨history, _, _, hperformed, -⟩ hstored hid
  exact hplaced.performed id cluster history profile request hperformed hstored hid

end Steps

namespace ProfilesWitness

def config : DaemonConfig :=
  { profile := "prod", telegram := HandlerWitness.env.telegram }

/-- A request stored under one profile, approved at a daemon of another. -/
def events : List HitlEvent :=
  [.insert "homelab" "r1" HandlerWitness.newRequest 0, .startDaemon 0 config 1,
    .receive 0 (some HandlerWitness.callback) 5, .perform 0 HandlerWitness.env.gateway]

theorem sentTo_of_performed {log : List Observation} {cluster : String}
    (hperformed : .performed "r1" cluster QuorumWitness.history ∈ log) : SentTo log "r1" cluster :=
  ⟨QuorumWitness.history, .deleteGuest "pve1" 100 .qemu, .ok "UPID:1", hperformed,
    by simp [QuorumWitness.history]⟩

/-- The run of one profile meets the condition, and its mutation went to that
profile's cluster. -/
theorem own_cluster_only_delete : ∃ last, runFrom (hitlStep QuorumWitness.world) .start
      QuorumWitness.events = some last ∧
    SentTo last.log "r1" "homelab" ∧
    OwnClusterOnly QuorumWitness.world last.log := by
  have hlog : (runFrom (hitlStep QuorumWitness.world) .start
      QuorumWitness.events).map (·.log) = some (QuorumWitness.before ++
        [.performed "r1" "homelab" QuorumWitness.history]) := by decide +kernel
  obtain ⟨last, hrun, hlast⟩ := Option.map_eq_some_iff.mp hlog
  exact ⟨last, hrun, sentTo_of_performed (by simp [hlast]),
    own_cluster_only (by decide) (by decide +kernel) hrun⟩

/-- The daemon deletes the guest of its own cluster that has the vmid of the
other cluster's guest. -/
theorem foreign_cluster_deletes : (insertedIds events).Nodup ∧
    ∃ last, runFrom (hitlStep QuorumWitness.world) .start events = some last ∧
      SentTo last.log "r1" "prod" ∧
      ¬OwnClusterOnly QuorumWitness.world last.log := by
  refine ⟨by decide, ?_⟩
  have hlog : (runFrom (hitlStep QuorumWitness.world) .start events).map
      (·.log) = some (QuorumWitness.before.take 2 ++
        [.performed "r1" "prod" QuorumWitness.history]) := by decide +kernel
  obtain ⟨last, hrun, hlast⟩ := Option.map_eq_some_iff.mp hlog
  have hsent : SentTo last.log "r1" "prod" := sentTo_of_performed (by simp [hlast])
  refine ⟨last, hrun, hsent, fun honly => ?_⟩
  have hsame := honly "r1" "prod" "homelab"
    { HandlerWitness.request with status := .pending, approvers := [] } hsent
    (by simp [hlast, QuorumWitness.before]) rfl
  exact absurd hsame (by decide)

end ProfilesWitness

end Proxxx
