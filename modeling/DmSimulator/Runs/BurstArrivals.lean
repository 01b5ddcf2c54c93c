/-
  DmSimulator.Runs.BurstArrivals

  When the requests of a bursty run are issued, with unbounded time.

  A node never stores the time at which an epoch was released: it recovers it
  from the time of each `GenerateRequest` event and schedules the next one from
  it.  `PlanInv` follows the chain of issues: every request so far was issued at
  the release of its epoch plus its scheduled offset.
-/
import DmSimulator.Runs.Barrier
import DmSimulator.Runs.FrontendRuns

namespace DmSimulator

open Simulator

namespace Simulator

variable {P : CachePolicy}

-- ============================================================================
-- The times of the releases
-- ============================================================================

/-- The epoch that `release_next_epoch_if_ready` releases, if any, and the time at which
    it does. -/
def releasingNow (s : Simulator P) : List (EpochId × SimTime) :=
  s.releasing.toList.map fun epoch => (epoch, s.shared.scheduler.now)

/-- The epochs released in a run, in order, with the times of their releases. -/
inductive TimedReleaseLog (A : Arith) (s : Simulator P) :
    List (EpochId × SimTime) → Simulator P → Prop
  | start : TimedReleaseLog A s s.releasingNow (releaseNextEpochIfReady A s)
  | turn {log : List (EpochId × SimTime)} {t s' : Simulator P} {event : Event}
      {scheduler : Scheduler} :
      TimedReleaseLog A s log t → t.shared.scheduler.popNext = some (event, scheduler) →
      Dispatched A (t.popped scheduler) event s' →
      TimedReleaseLog A s (log ++ s'.releasingNow) (releaseNextEpochIfReady A s')

theorem map_fst_releasingNow (s : Simulator P) :
    s.releasingNow.map Prod.fst = s.releasing.toList := by
  unfold releasingNow
  rw [List.map_map]
  exact List.map_id _

/-- Without its times the log is the log of the released epochs. -/
theorem TimedReleaseLog.releaseLog {A : Arith} {s t : Simulator P}
    {log : List (EpochId × SimTime)} (h : TimedReleaseLog A s log t) :
    ReleaseLog A s (log.map Prod.fst) t := by
  induction h with
  | start =>
      rw [map_fst_releasingNow]
      exact .start
  | turn _ hpop hdispatched ih =>
      rw [List.map_append, map_fst_releasingNow]
      exact .turn ih hpop hdispatched

theorem exists_timedReleaseLog {A : Arith} {s t : Simulator P} (h : Reachable A s t) :
    ∃ log, TimedReleaseLog A s log t := by
  induction h with
  | refl => exact ⟨_, .start⟩
  | tail _ hmove ih =>
      obtain ⟨log, hlog⟩ := ih
      obtain ⟨event, scheduler, s', hpop, hdispatched, rfl⟩ := moves_iff.mp hmove
      exact ⟨_, .turn hlog hpop hdispatched⟩

/-- The states of a timed log are reachable. -/
theorem TimedReleaseLog.reachable {A : Arith} {s t : Simulator P}
    {log : List (EpochId × SimTime)} (h : TimedReleaseLog A s log t) : Reachable A s t := by
  induction h with
  | start => exact Relation.ReflTransGen.refl
  | turn _ hpop hdispatched ih =>
      exact Relation.ReflTransGen.tail ih (moves_iff.mpr ⟨_, _, _, hpop, hdispatched, rfl⟩)

end Simulator

-- ============================================================================
-- Requests issued on plan
-- ============================================================================

/-- The node issued the request for the spec at the release of the spec's epoch plus the
    spec's offset. -/
def PlannedAt (tickets : Tickets) (log : List (EpochId × SimTime)) (nodeId : NodeId)
    (id : RequestId) (spec : RequestSpec) : Prop :=
  ∃ t releaseTime, tickets id = some t ∧ t.For nodeId spec ∧ (spec.epochId, releaseTime) ∈ log ∧
    t.issueTime = releaseTime + spec.scheduledIssueOffset

/-- The node has issued one request for each spec, all of them on plan. -/
def OnPlan (tickets : Tickets) (log : List (EpochId × SimTime)) (nodeId : NodeId)
    (specs : List RequestSpec) : Prop :=
  ∃ ids, Issued tickets nodeId specs ids ∧ List.Forall₂ (PlannedAt tickets log nodeId) ids specs

section OnPlan

variable {tickets tickets' : Tickets} {log : List (EpochId × SimTime)} {nodeId : NodeId}
  {specs : List RequestSpec}

/-- Later releases and the tickets of other nodes change nothing. -/
theorem OnPlan.congr (h : OnPlan tickets log nodeId specs)
    (hold : ∀ id t, tickets id = some t → tickets' id = some t)
    (hnew : ∀ id t, tickets' id = some t → t.sourceNodeId = nodeId → tickets id = some t)
    (later : List (EpochId × SimTime)) : OnPlan tickets' (log ++ later) nodeId specs := by
  obtain ⟨ids, hissued, hplanned⟩ := h
  refine ⟨ids, hissued.congr hold hnew, hplanned.imp ?_⟩
  rintro id spec ⟨t, releaseTime, ht, hfor, hmem, htime⟩
  exact ⟨t, releaseTime, hold id t ht, hfor, List.mem_append_left later hmem, htime⟩

theorem OnPlan.snoc (h : OnPlan tickets log nodeId specs) {new : RequestId} {ticket : Ticket}
    {spec : RequestSpec} (hfor : ticket.For nodeId spec)
    (hlt : ∀ id t, tickets id = some t → id < new)
    (htickets : ∀ id, tickets' id = if id = new then some ticket else tickets id)
    {releaseTime : SimTime} (hmem : (spec.epochId, releaseTime) ∈ log)
    (htime : ticket.issueTime = releaseTime + spec.scheduledIssueOffset) :
    OnPlan tickets' log nodeId (specs ++ [spec]) := by
  obtain ⟨ids, hissued, hplanned⟩ := h
  refine ⟨ids ++ [new], hissued.snoc hfor hlt htickets, List.rel_append (hplanned.imp ?_)
    (.cons ⟨ticket, releaseTime, ?_, hfor, hmem, htime⟩ .nil)⟩
  · rintro id spec' ⟨t, time, ht, hrest⟩
    exact ⟨t, time, by rw [htickets id, if_neg (Nat.ne_of_lt (hlt id t ht)), ht], hrest⟩
  · rw [htickets, if_pos rfl]

end OnPlan

/-- The specs a node has issued so far. -/
def ComputeNode.issuedSpecs {P : CachePolicy} (node : ComputeNode P) : List RequestSpec :=
  node.workload.requests.take node.workload.nextIndex

/-- Everything issued so far was issued on plan, and `log` knows when the current epoch
    was released. -/
def PlanInv {P : CachePolicy} (s : Simulator P) (log : List (EpochId × SimTime)) : Prop :=
  ∃ phase base, RunInv s phase base ∧
    (∀ epoch, s.releasedEpoch = some epoch → (epoch, base) ∈ log) ∧
    ∀ node ∈ s.computeNodes.items, OnPlan s.view.tickets log node.nodeId node.issuedSpecs

section Turn

variable {P : CachePolicy} {s s' : Simulator P} {phase : RequestId → Phase} {base : SimTime}
  {event : Event} {scheduler : Scheduler} {log : List (EpochId × SimTime)}

theorem RunInv.ticket_lt (h : RunInv s phase base) {id : RequestId} {t : Ticket}
    (ht : s.view.tickets id = some t) : id < s.shared.nextRequestId := by
  unfold View.tickets at ht
  obtain ⟨request, hfind, -⟩ := Option.map_eq_some_iff.mp ht
  exact ((h.lifecycle.ids id).mp (Option.isSome_iff_exists.mpr ⟨request, hfind⟩)).2

theorem ComputeNode.issuedSpecs_afterIssue {node : ComputeNode P} {spec : RequestSpec}
    (hup : node.workload.upcoming = some spec) (stats : Stats) (time : SimTime) :
    (node.afterIssue .exact stats spec time).issuedSpecs = node.issuedSpecs ++ [spec] := by
  show node.workload.requests.take (node.workload.nextIndex + 1) = _
  rw [List.take_add_one]
  exact congrArg (fun next : Option RequestSpec => node.issuedSpecs ++ next.toList) hup

/-- A node that issues a request issues it on plan. -/
theorem onPlan_issue (h : RunInv s phase base) (hmode : issueModeOf s.config = .scheduledBursty)
    (hpop : s.shared.scheduler.popNext = some (event, scheduler))
    (hcurrent : ∀ epoch, s.releasedEpoch = some epoch → (epoch, base) ∈ log)
    (hplan : ∀ node ∈ s.computeNodes.items, OnPlan s.view.tickets log node.nodeId node.issuedSpecs)
    {node : ComputeNode P} {spec : RequestSpec}
    (hfind : s.computeNodes.find event.targetId = some node)
    (htype : event.type = .generateRequest) (hup : node.workload.upcoming = some spec)
    (htable : s'.shared.requestTable = s.shared.requestTable.insert
      (node.requestFor s.shared.nextRequestId spec event.time)) :
    OnPlan s'.view.tickets log node.nodeId (node.issuedSpecs ++ [spec]) ∧
      ∀ other ∈ s.computeNodes.items, other.nodeId ≠ node.nodeId →
        OnPlan s'.view.tickets log other.nodeId other.issuedSpecs := by
  obtain ⟨hnode, hkey⟩ := h.node_of_find hfind
  obtain ⟨-, -, -, -, hold⟩ := h.popped_ordered hpop
  have hpending : event.record ∈ s.view.pending := by
    rw [hold]
    exact Multiset.mem_cons_self _ _
  obtain ⟨spec', hup', hreleased⟩ :=
    ComputeNode.due_iff.mp (hnode.due_of_generate hpending htype hkey.symm)
  obtain rfl : spec = spec' := Option.some.inj (hup.symm.trans hup')
  obtain ⟨htime, -⟩ := hnode.epochBase_eq hpending htype hkey.symm hup
    (hnode.issueMode_eq.trans hmode)
  have htickets : ∀ id, s'.view.tickets id =
      if id = s.shared.nextRequestId then
        some (node.requestFor s.shared.nextRequestId spec event.time).ticket
      else s.view.tickets id := by
    intro id
    show (s'.shared.requestTable.find id).map Request.ticket = _
    rw [htable, updates_insert _ _ id]
    show Option.map _ (if id = s.shared.nextRequestId then _ else _) = _
    by_cases hid : id = s.shared.nextRequestId
    · rw [if_pos hid, if_pos hid]
      rfl
    · rw [if_neg hid, if_neg hid]
      rfl
  refine ⟨?_, fun other hother hne => ?_⟩
  · exact (hplan node (KeyedStore.find_eq_some.mp hfind).1).snoc ⟨rfl, rfl, rfl, rfl⟩
      (fun id t ht => h.ticket_lt ht) htickets (hcurrent spec.epochId hreleased) htime
  · rw [← List.append_nil log]
    refine (hplan other hother).congr ?_ ?_ []
    · intro id t ht
      rw [htickets, if_neg (Nat.ne_of_lt (h.ticket_lt ht)), ht]
    · intro id t ht hsource
      rw [htickets] at ht
      split at ht
      · -- the new request is the node's own
        exact absurd (hsource.symm.trans (congrArg Ticket.sourceNodeId (Option.some.inj ht)).symm) hne
      · exact ht

/-- A dispatch keeps the plan. -/
theorem PlanInv.dispatch (h : PlanInv s log) (hmode : issueModeOf s.config = .scheduledBursty)
    (hpop : s.shared.scheduler.popNext = some (event, scheduler))
    (hdispatched : Dispatched .exact (s.popped scheduler) event s') : PlanInv s' log := by
  obtain ⟨phase, base, hrun, hcurrent, hplan⟩ := h
  obtain ⟨phase', hrun'⟩ := hrun.of_dispatched hpop hdispatched
  refine ⟨phase', base, hrun', ?_, ?_⟩
  · rw [hdispatched.releasedEpoch_eq]
    exact hcurrent
  -- a turn that issues nothing keeps the tickets and the cursors
  have hsame : ∀ tickets' : Tickets, (∀ id, tickets' id = s.view.tickets id) →
      ∀ node ∈ s.computeNodes.items, OnPlan tickets' log node.nodeId node.issuedSpecs := by
    intro tickets' htickets node hmem
    rw [funext htickets]
    exact hplan node hmem
  cases hdispatched with
  | @compute node node' effect hfind hstep =>
      have hkept : ∀ tickets' : Tickets, (∀ id, tickets' id = s.view.tickets id) →
          node'.nodeId = node.nodeId → node'.workload = node.workload →
          ∀ other ∈ (s.computeNodes.insert node').items,
            OnPlan tickets' log other.nodeId other.issuedSpecs := by
        intro tickets' htickets hid hworkload other hother
        rcases KeyedStore.mem_insert.mp hother with rfl | ⟨hold, -⟩
        · rw [hid, ComputeNode.issuedSpecs, hworkload]
          exact hsame tickets' htickets node (KeyedStore.find_eq_some.mp hfind).1
        · exact hsame tickets' htickets other hold
      cases hstep with
      | drained => exact hkept _ (fun _ => rfl) rfl rfl
      | @issue spec htype hup =>
          intro other hother
          rcases KeyedStore.mem_insert.mp hother with rfl | ⟨hold, hne⟩
          · rw [ComputeNode.issuedSpecs_afterIssue hup]
            refine (onPlan_issue hrun hmode hpop hcurrent hplan hfind htype hup ?_).1
            rfl
          · refine (onPlan_issue hrun hmode hpop hcurrent hplan hfind htype hup ?_).2 other hold hne
            rfl
      | hit _ hrequest | miss _ hrequest | hitComplete _ hrequest | returned _ hrequest =>
          refine hkept _ ?_ rfl rfl
          exact tickets_of_write rfl hrequest rfl
      | complete => exact hkept _ (fun _ => rfl) rfl rfl
  | @memory memoryNode effect hfind htarget hstep =>
      cases hstep with
      | forwardIdle _ hrequest | forwardBusy _ hrequest | start _ hrequest =>
          apply hsame
          exact tickets_of_write rfl hrequest rfl
      | completeIdle | completeNext => exact hsame _ fun _ => rfl

/-- A release starts a new epoch of the plan. -/
theorem PlanInv.release (h : PlanInv s log) :
    PlanInv (releaseNextEpochIfReady .exact s) (log ++ s.releasingNow) := by
  obtain ⟨phase, base, hrun, hcurrent, hplan⟩ := h
  have hlater : ∀ node ∈ s.computeNodes.items,
      OnPlan s.view.tickets (log ++ s.releasingNow) node.nodeId node.issuedSpecs := fun node hmem =>
    (hplan node hmem).congr (fun _ _ ht => ht) (fun _ _ ht _ => ht) _
  rcases s.releasing_spec .exact with ⟨-, heq⟩ | ⟨epoch, hsome, hdrained, hnext, -, heq⟩
  · rw [heq]
    exact ⟨phase, base, hrun, fun epoch hepoch => List.mem_append_left _ (hcurrent epoch hepoch),
      hlater⟩
  · obtain ⟨hrun', -⟩ := hrun.afterRelease hdrained.1 hnext
    rw [heq]
    refine ⟨phase, _, hrun', ?_, hlater⟩
    intro released hreleased
    obtain rfl : epoch = released := Option.some.inj hreleased
    unfold releasingNow
    rw [hsome]
    exact List.mem_append_right _ (List.mem_singleton_self _)

end Turn

-- ============================================================================
-- Whole runs
-- ============================================================================

/-- The node has issued one request for each spec at the front of its stream, in order,
    each at the release of its epoch plus the offset of its spec. -/
structure IssuedOnPlan {P : CachePolicy} (t : Simulator P) (log : List (EpochId × SimTime))
    (nodeConfig : ComputeNodeConfig) (ids : List RequestId) : Prop where
  increasing : ids.Pairwise (· < ·)
  complete : ∀ request ∈ t.shared.requestTable.items,
    request.sourceNodeId = nodeConfig.nodeId → request.requestId ∈ ids
  onPlan : List.Forall₂ (fun id spec => ∃ request releaseTime,
    t.shared.requestTable.find id = some request ∧
      request.sourceNodeId = nodeConfig.nodeId ∧ request.objectId = spec.objectId ∧
      request.epochId = spec.epochId ∧ (spec.epochId, releaseTime) ∈ log ∧
      request.issueTime = releaseTime + spec.scheduledIssueOffset)
    ids (nodeConfig.requests.take ids.length)

namespace Simulator

variable {P : CachePolicy}

theorem planInv_of_log {config : SimulationConfig} (hprepared : Prepared config)
    {generatedWorkload : Option GeneratedWorkload}
    (hmode : issueModeOf config = .scheduledBursty) {log : List (EpochId × SimTime)}
    {t : Simulator P} (h : TimedReleaseLog .exact (ofConfig P config generatedWorkload) log t) :
    PlanInv t log := by
  induction h with
  | start =>
      have hinit : PlanInv (ofConfig P config generatedWorkload) [] := by
        refine ⟨fun _ => .lookup, 0, runInv_init P hprepared generatedWorkload _, ?_, ?_⟩
        · intro epoch hreleased
          cases hreleased
        · intro node hmem
          obtain ⟨nodeConfig, -, rfl⟩ := (emplaceNodes_spec P config _).1 node hmem
          refine ⟨[], ⟨List.Pairwise.nil, .nil, ?_⟩, .nil⟩
          intro id t ht
          cases ht
      exact hinit.release
  | @turn log t s' event scheduler hlog hpop hdispatched ih =>
      have hconfig : t.config = config := config_of_reaches hlog.reachable
      exact (ih.dispatch (by rw [hconfig]; exact hmode) hpop hdispatched).release

/-- The plan of the tickets, read in the request table. -/
theorem issuedOnPlan_of_planInv {t : Simulator P} {log : List (EpochId × SimTime)}
    (h : PlanInv t log) {nodeConfig : ComputeNodeConfig}
    (hmem : nodeConfig ∈ t.config.computeNodes) :
    ∃ node ids, t.computeNodes.find nodeConfig.nodeId = some node ∧
      node.workload.requests = nodeConfig.requests ∧ IssuedOnPlan t log nodeConfig ids ∧
      ids.length = min node.workload.nextIndex nodeConfig.requests.length := by
  obtain ⟨phase, base, hrun, -, hplan⟩ := h
  obtain ⟨node, hfind⟩ := hrun.present nodeConfig hmem
  obtain ⟨hin, hkey⟩ := KeyedStore.find_eq_some.mp hfind
  obtain ⟨ids, hissued, hplanned⟩ := hplan node hin
  obtain ⟨configured, hconfigured, hid, hrequests⟩ := (hrun.nodes node hin).configured
  obtain rfl : configured = nodeConfig :=
    List.inj_on_of_nodup_map hrun.prepared.nodeIds_nodup hconfigured hmem (hid.symm.trans hkey)
  have hlength : ids.length = min node.workload.nextIndex configured.requests.length := by
    rw [hplanned.length_eq, ComputeNode.issuedSpecs, List.length_take, hrequests]
  have hspecs : node.issuedSpecs = configured.requests.take ids.length := by
    rw [ComputeNode.issuedSpecs, hlength, hrequests, List.take_eq_take_min]
  rw [hspecs] at hissued hplanned
  refine ⟨node, ids, hfind, hrequests, ⟨hissued.increasing, ?_, ?_⟩, hlength⟩
  · intro request hrequest hsource
    refine hissued.complete request.requestId request.ticket ?_ (hsource.trans hkey.symm)
    exact (RunInv.ticket_of_mem hrequest).2
  · refine hplanned.imp ?_
    rintro id spec ⟨ticket, releaseTime, ht, ⟨hsource, hobject, -, hepoch⟩, hlog, htime⟩
    unfold View.tickets at ht
    obtain ⟨request, hrequest, rfl⟩ := Option.map_eq_some_iff.mp ht
    exact ⟨request, releaseTime, hrequest, hsource.trans hkey, hobject, hepoch, hlog, htime⟩

/-- Burst arrivals follow the plan: in every bursty run the released epochs, each with the
    time of its release, are common to all nodes, and each node issues the requests of its
    stream in order, each at the release of its epoch plus its scheduled offset.  Relative
    to the releases the arrivals are thus a function of the stream alone. -/
theorem run_burstArrivals {rng : RandomSource} {config : SimulationConfig}
    {s : Simulator (makeCachePolicy .exact config.localCache)}
    (h : construct .exact rng config = .ok s)
    (hmode : issueModeOf s.config = .scheduledBursty) :
    (∀ t, Reachable .exact s t → ∃ log, TimedReleaseLog .exact s log t) ∧
    ∀ log t, TimedReleaseLog .exact s log t →
      (log.map Prod.fst).Pairwise (· < ·) ∧
      ∀ nodeConfig ∈ s.config.computeNodes, ∃ ids, IssuedOnPlan t log nodeConfig ids ∧
        (RunsTo .exact s t → ids.length = nodeConfig.requests.length) := by
  obtain ⟨prepared, generatedWorkload, rfl, hprepared⟩ := construct_spec h
  refine ⟨fun t ht => exists_timedReleaseLog ht, fun log t hlog => ?_⟩
  refine ⟨(releaseLog_increasing hlog.releaseLog rfl).1, fun nodeConfig hmem => ?_⟩
  have hplan := planInv_of_log hprepared hmode hlog
  rw [← config_of_reaches hlog.reachable] at hmem
  obtain ⟨node, ids, hfind, hrequests, hissued, hlength⟩ := issuedOnPlan_of_planInv hplan hmem
  refine ⟨ids, hissued, fun hend => ?_⟩
  -- at the end every stream has been issued
  obtain ⟨-, hsettled⟩ := turnInv_of_reachable hprepared hlog.reachable
  have hup := hsettled (halted_iff.mp hend.halted) node (KeyedStore.find_eq_some.mp hfind).1
  have hall : node.workload.requests.length ≤ node.workload.nextIndex :=
    List.getElem?_eq_none_iff.mp hup
  rw [hlength, ← hrequests, Nat.min_eq_right hall]

/-- Two nodes that read objects in bursts of two, through an LRU cache. -/
def burstsOfTwo : SimulationConfig :=
  { localCache := { capacityBytes := 128, policyType := .lru }
    syntheticWorkload := some
      { computeNodeIds := [1, 3]
        objectCount := 12
        requestsPerNodePerEpoch := 3
        epochCount := 2
        hotSetSize := 4
        issueMode := .scheduledBursty
        burstSize := 2
        burstInterval := 100
        intraBurstGap := 3 } }

theorem burstsOfTwo_burstArrivals :
    ∃ s, construct .exact lowestSource burstsOfTwo = .ok s ∧
      ((∀ t, Reachable .exact s t → ∃ log, TimedReleaseLog .exact s log t) ∧
      ∀ log t, TimedReleaseLog .exact s log t →
        (log.map Prod.fst).Pairwise (· < ·) ∧
        ∀ nodeConfig ∈ s.config.computeNodes, ∃ ids, IssuedOnPlan t log nodeConfig ids ∧
          (RunsTo .exact s t → ids.length = nodeConfig.requests.length)) := by
  have haccepted : (construct .exact lowestSource burstsOfTwo).toOption.any
      (fun s => decide (issueModeOf s.config = .scheduledBursty)) = true := by decide +kernel
  cases hs : construct .exact lowestSource burstsOfTwo with
  | error message =>
      rw [hs] at haccepted
      cases haccepted
  | ok s =>
      rw [hs] at haccepted
      exact ⟨s, rfl, run_burstArrivals hs (of_decide_eq_true haccepted)⟩

end Simulator

end DmSimulator
