/-
  DmSimulator.Runs.Replication

  Runs with replicated caches, with unbounded time and exact byte counts.

  Under a policy that never admits, a node that is in an epoch holds the replicas
  of that epoch and nothing else, so a request of the epoch hits exactly if its
  object is one of them.
-/
import DmSimulator.Cache.Replicas
import DmSimulator.Runs.Barrier
import DmSimulator.Runs.Latency
import DmSimulator.Sim.ReplicaPlan
import DmSimulator.Workloads.AccessPattern

namespace DmSimulator

-- ============================================================================
-- One node
-- ============================================================================

/-- The objects that the plan leaves in a cache of the given capacity. -/
def replicaSet (plan : GlobalReplicaPlan) (capacityBytes : Nat) (epochId : EpochId) :
    List ObjectId :=
  (fill CacheReplica.sizeBytes capacityBytes 0 ((plan.lookup epochId).getD [])).map
    CacheReplica.objectId

namespace ComputeNode

variable {P : CachePolicy} {A : Arith} {node node' : ComputeNode P} {event : Event} {sh : Shared}
  {effect : Effect} {plan : GlobalReplicaPlan} {capacityBytes : Nat}

/-- The node runs the plan and holds the replicas of its current epoch. -/
structure Replicates (plan : GlobalReplicaPlan) (capacityBytes : Nat) (node : ComputeNode P) :
    Prop where
  plan_eq : node.globalReplicaPlan = some plan
  capacity_eq : node.localCache.capacityBytes = capacityBytes
  holds_iff : ∀ epochId, node.currentEpoch = some epochId → ∀ objectId,
    node.localCache.Holds objectId ↔ objectId ∈ replicaSet plan capacityBytes epochId

/-- A node that enters an epoch installs its replicas. -/
theorem Replicates.enterEpoch (h : node.Replicates plan capacityBytes)
    (hplan : ∀ epochId, (plannedObjects plan epochId).Nodup) (stats : Stats) (epochId : EpochId)
    (time : SimTime) :
    (node.enterEpoch .exact stats epochId time).capacityBytes = capacityBytes ∧
      ∀ objectId, (node.enterEpoch .exact stats epochId time).Holds objectId ↔
        objectId ∈ replicaSet plan capacityBytes epochId := by
  unfold ComputeNode.enterEpoch
  by_cases hepoch : node.currentEpoch = some epochId
  · rw [if_pos hepoch]
    exact ⟨h.capacity_eq, h.holds_iff epochId hepoch⟩
  · rw [if_neg hepoch, h.plan_eq]
    simp only
    constructor
    · exact (LocalCache.applyOp_capacityBytes (A := .exact)
        (node.localCache.onEpochStart stats epochId) (.installReplicas _ time _ epochId)).trans
          h.capacity_eq
    · intro objectId
      rw [LocalCache.holds_installReplicas time node.nodeId epochId (hplan epochId)]
      unfold replicaSet
      rw [← h.capacity_eq]
      exact Iff.rfl

/-- Handling an event keeps the replicas in place. -/
theorem Replicates.step (hP : P.NeverAdmits) (hplan : ∀ epochId, (plannedObjects plan epochId).Nodup)
    (h : node.Replicates plan capacityBytes)
    (hstep : ComputeStep .exact node event sh node' effect) :
    node'.Replicates plan capacityBytes := by
  cases hstep with
  | drained => exact h
  | @issue spec =>
      obtain ⟨hcapacity, hholds⟩ := h.enterEpoch hplan sh.stats spec.epochId event.time
      refine ⟨h.plan_eq, hcapacity, fun epochId hcurrent => ?_⟩
      rw [← Option.some.inj (hcurrent : some spec.epochId = some epochId)]
      exact hholds
  | @hit request | @miss request =>
      refine ⟨h.plan_eq, ?_, fun epochId hcurrent objectId => ?_⟩
      · exact (LocalCache.applyOp_capacityBytes (A := .exact) node.localCache
          (.lookup sh.stats (lookedUp request) event.time)).trans h.capacity_eq
      · exact (LocalCache.holds_lookup _ _ _ _ objectId).trans (h.holds_iff epochId hcurrent objectId)
  | hitComplete => exact ⟨h.plan_eq, h.capacity_eq, h.holds_iff⟩
  | @returned request =>
      refine ⟨h.plan_eq, ?_, fun epochId hcurrent objectId => ?_⟩
      · exact (LocalCache.applyOp_capacityBytes (A := .exact) node.localCache
          (.admitObject request (memoryResponse .exact request event.time) event.time)).trans
            h.capacity_eq
      · unfold LocalCache.Holds
        rw [show (LocalCache.admitObject .exact node.localCache request _ event.time).1.entries = _
          from LocalCache.admitObject_entries hP _ _ _]
        exact h.holds_iff epochId hcurrent objectId
  | complete => exact h

/-- Only a lookup decides between a hit and a miss, by what the cache holds. -/
theorem ComputeStep.outcome (hstep : ComputeStep .exact node event sh node' effect)
    {e : EventRecord} (he : e ∈ effect.events)
    (htype : e.type = .localCacheHitComplete ∨ e.type = .forwardToMemory) :
    event.type = .localCacheLookup ∧ e.requestId = event.requestId ∧
      ∃ request, sh.requestTable.find event.requestId = some request ∧
        (e.type = .localCacheHitComplete ↔ node.localCache.Holds request.objectId) := by
  have hgenerate : e.type = .generateRequest → False := fun hg => by
    rw [hg] at htype
    rcases htype with h | h <;> cases h
  cases hstep with
  | drained => cases he
  | issue =>
      rcases List.mem_cons.mp he with rfl | hin
      · rcases htype with h | h <;> cases h
      · exact (hgenerate (ComputeNode.mem_nextBurst hin).1).elim
  | @hit request hlookup hrequest hhit =>
      obtain rfl := List.mem_singleton.mp he
      exact ⟨hlookup, rfl, request, hrequest,
        iff_of_true rfl
          ((LocalCache.lookup_hit_iff sh.stats node.localCache (lookedUp request) event.time).mp
            hhit)⟩
  | @miss request hlookup hrequest hmiss =>
      obtain rfl := List.mem_singleton.mp he
      refine ⟨hlookup, rfl, request, hrequest, iff_of_false (fun h => by cases h) fun hheld => ?_⟩
      have hhit := (LocalCache.lookup_hit_iff sh.stats node.localCache (lookedUp request)
        event.time).mpr hheld
      rw [hhit] at hmiss
      cases hmiss
  | hitComplete | returned =>
      obtain rfl := List.mem_singleton.mp he
      rcases htype with h | h <;> cases h
  | complete =>
      exact (hgenerate (ComputeNode.mem_nextOnCompletion he).1).elim

end ComputeNode

/-- The memory node decides no lookup. -/
theorem MemoryNode.MemoryStep.no_outcome {A : Arith} {m m' : MemoryNode} {event : Event}
    {sh : Shared} {effect : Effect} (hstep : MemoryStep A m event sh m' effect) {e : EventRecord}
    (he : e ∈ effect.events) :
    e.type ≠ .localCacheHitComplete ∧ e.type ≠ .forwardToMemory := by
  cases hstep with
  | forwardIdle | start | completeIdle =>
      rw [List.mem_singleton.mp he]
      exact ⟨EventType.noConfusion, EventType.noConfusion⟩
  | forwardBusy => cases he
  | completeNext =>
      rcases List.mem_cons.mp he with rfl | hin
      · exact ⟨EventType.noConfusion, EventType.noConfusion⟩
      · rw [List.mem_singleton.mp hin]
        exact ⟨EventType.noConfusion, EventType.noConfusion⟩

-- ============================================================================
-- One turn
-- ============================================================================

namespace Simulator

variable {P : CachePolicy}

/-- A lookup of the request is decided by the replicas of its epoch. -/
def DecidedByPlan (plan : GlobalReplicaPlan) (capacityBytes : Nat) (t : Ticket)
    (e : EventRecord) : Prop :=
  (e.type = .localCacheHitComplete → t.objectId ∈ replicaSet plan capacityBytes t.epochId) ∧
    (e.type = .forwardToMemory → t.objectId ∉ replicaSet plan capacityBytes t.epochId)

/-- The nodes hold their replicas, and these have decided all lookups so far. -/
structure Replicated (plan : GlobalReplicaPlan) (capacityBytes : Nat) (s : Simulator P) :
    Prop where
  nodes : ∀ node ∈ s.computeNodes.items, node.Replicates plan capacityBytes
  decided : ∀ e, e ∈ s.view.pending ∨ e ∈ s.eventLog → ∀ t,
    s.view.tickets e.requestId = some t → DecidedByPlan plan capacityBytes t e

end Simulator

section Turn

variable {P : CachePolicy} {s s' : Simulator P} {phase : RequestId → Phase} {base : SimTime}
  {event : Event} {scheduler : Scheduler} {plan : GlobalReplicaPlan} {capacityBytes : Nat}

open Simulator

/-- The release of an epoch adds `GenerateRequest` events. -/
theorem RunInv.release_pending (h : RunInv s phase base) {e : EventRecord}
    (he : e ∈ (releaseNextEpochIfReady .exact s).view.pending) :
    e ∈ s.view.pending ∨ e.type = .generateRequest := by
  by_cases htype : e.type = .generateRequest
  · exact Or.inr htype
  · have hcount := h.release_countP htype
    have hpos : 0 < (releaseNextEpochIfReady .exact s).view.pending.countP
        (fun e' => e'.type = e.type) := Multiset.countP_pos.mpr ⟨e, he, rfl⟩
    rcases release_cases .exact s with ⟨-, heq⟩ | ⟨-, -, heq⟩ | ⟨epoch, hdrained, -, heq⟩
    · rw [heq] at he
      exact Or.inl he
    · rw [heq] at he
      exact Or.inl he
    · -- nothing else was pending
      rw [hcount, show s.view.pending = 0 from hdrained.1, Multiset.countP_zero] at hpos
      exact absurd hpos (Nat.lt_irrefl 0)

/-- Dispatching an event keeps the replicas in place. -/
theorem Dispatched.replicates (hP : P.NeverAdmits)
    (hplan : ∀ epochId, (plannedObjects plan epochId).Nodup)
    (h : ∀ node ∈ s.computeNodes.items, node.Replicates plan capacityBytes)
    (hdispatched : Dispatched .exact s event s') :
    ∀ node ∈ s'.computeNodes.items, node.Replicates plan capacityBytes := by
  cases hdispatched with
  | @compute node node' effect hfind hstep =>
      intro other hother
      rcases KeyedStore.mem_insert.mp hother with rfl | ⟨hold, -⟩
      · exact (h node (KeyedStore.find_eq_some.mp hfind).1).step hP hplan hstep
      · exact h other hold
  | memory => exact h

/-- What a dispatch adds to the queue is decided by the plan. -/
theorem RunInv.decided_of_dispatched (h : RunInv s phase base)
    (hr : s.Replicated plan capacityBytes)
    (hpop : s.shared.scheduler.popNext = some (event, scheduler))
    (hdispatched : Dispatched .exact (s.popped scheduler) event s') :
    ∃ effect : Effect, s'.shared = (s.popped scheduler).shared.apply effect ∧
      ∀ e ∈ effect.events, e.type = .localCacheHitComplete ∨ e.type = .forwardToMemory →
        e.requestId = event.requestId ∧ ∀ t, s.view.tickets event.requestId = some t →
          DecidedByPlan plan capacityBytes t e := by
  cases hdispatched with
  | @compute node node' effect hfind hstep =>
      refine ⟨effect, rfl, fun e he htype => ?_⟩
      obtain ⟨hlookup, hid, request, hrequest, hiff⟩ := hstep.outcome he htype
      refine ⟨hid, fun t ht => ?_⟩
      obtain ⟨request', node', hawaits, htarget, hcurrent⟩ := h.atSource hpop (Or.inl hlookup)
      obtain rfl : request = request' := Option.some.inj (hrequest.symm.trans hawaits.find)
      obtain rfl : request.ticket = t := Option.some.inj (hawaits.ticket.symm.trans ht)
      have hsource : s.computeNodes.find event.targetId = some node' := htarget ▸ hawaits.source
      obtain rfl : node = node' := Option.some.inj (hfind.symm.trans hsource)
      have hholds := (hr.nodes node (KeyedStore.find_eq_some.mp hsource).1).holds_iff
        request.epochId hcurrent request.objectId
      refine ⟨fun hhit => hholds.mp (hiff.mp hhit), fun hforward hmem => ?_⟩
      exact EventType.noConfusion (hforward.symm.trans (hiff.mpr (hholds.mpr hmem)))
  | @memory memoryNode effect hfind htarget hstep =>
      refine ⟨effect, rfl, fun e he htype => ?_⟩
      obtain ⟨hhit, hforward⟩ := hstep.no_outcome he
      exact (htype.elim hhit hforward).elim

/-- A turn keeps the replicas in place, and lookups are decided by them. -/
theorem Simulator.Replicated.move (hr : s.Replicated plan capacityBytes)
    (h : RunInv s phase base) (hP : P.NeverAdmits)
    (hplan : ∀ epochId, (plannedObjects plan epochId).Nodup) {t : Simulator P}
    (hmove : Run.Moves (step .exact) s t) : t.Replicated plan capacityBytes := by
  obtain ⟨e₀, -, hlog, hturn⟩ := h.turn_spec hmove
  obtain ⟨event, scheduler, s', hpop, hdispatched, rfl⟩ := moves_iff.mp hmove
  obtain ⟨phase', hrun'⟩ := h.of_dispatched hpop hdispatched
  obtain ⟨-, -, -, -, hold⟩ := h.popped_ordered hpop
  have hnodes := (release_nodes .exact s').1
  refine ⟨?_, ?_⟩
  · rw [hnodes]
    exact Dispatched.replicates (s := s.popped scheduler) hP hplan hr.nodes hdispatched
  -- an event of the state before the turn
  have hkept : ∀ e, e ∈ s.view.pending ∨ e ∈ s.eventLog → ∀ t,
      (releaseNextEpochIfReady .exact s').view.tickets e.requestId = some t →
        DecidedByPlan plan capacityBytes t e := by
    intro e he t ht
    refine hr.decided e he t ?_
    rw [← known_tickets hturn (he.elim (h.lifecycle.pending_ids e) (h.lifecycle.log_ids e))]
    exact ht
  have hevent : e₀ = event.record := by
    rw [(release_log .exact s').1, (dispatched_log hdispatched).1] at hlog
    exact (List.singleton_inj.mp (List.append_cancel_left hlog)).symm
  subst hevent
  have hpopped : event.record ∈ s.view.pending := by
    rw [hold]
    exact Multiset.mem_cons_self _ _
  rintro e (hpending | hlogged) t ht
  · rcases hrun'.release_pending hpending with hin | hgenerate
    · obtain ⟨effect, hshared, hdecided⟩ := h.decided_of_dispatched hr hpop hdispatched
      have haccepted : (scheduler.scheduleAll effect.events).refused = [] := by
        have hrefused := hrun'.accepted
        rw [hshared] at hrefused
        exact hrefused
      have hsplit : s'.view.pending =
          (effect.events : Multiset EventRecord) + scheduler.pending := by
        show s'.shared.scheduler.pending = _
        rw [hshared]
        exact Scheduler.scheduleAll_pending haccepted
      rw [hsplit, Multiset.mem_add] at hin
      rcases hin with hnew | hwaiting
      · by_cases htype : e.type = .localCacheHitComplete ∨ e.type = .forwardToMemory
        · obtain ⟨hid, hspec⟩ := hdecided e (Multiset.mem_coe.mp hnew) htype
          have hknown := known_tickets hturn (h.lifecycle.pending_ids event.record hpopped)
          rw [hid] at ht
          exact hspec t (hknown.symm.trans ht)
        · exact ⟨fun hhit => (htype (Or.inl hhit)).elim, fun hmiss => (htype (Or.inr hmiss)).elim⟩
      · exact hkept e (Or.inl (hold ▸ Multiset.mem_cons_of_mem hwaiting)) t ht
    · exact ⟨fun hhit => EventType.noConfusion (hhit.symm.trans hgenerate),
        fun hmiss => EventType.noConfusion (hmiss.symm.trans hgenerate)⟩
  · rw [hlog] at hlogged
    rcases List.mem_append.mp hlogged with hearlier | hlast
    · exact hkept e (Or.inr hearlier) t ht
    · rw [List.mem_singleton.mp hlast] at ht ⊢
      exact hkept event.record (Or.inl hpopped) t ht

end Turn

-- ============================================================================
-- Counting requests by their specs
-- ============================================================================

section Counting

variable {P : CachePolicy} {config : SimulationConfig} {s : Simulator P}
  {phase : RequestId → Phase} {base : SimTime}

open Simulator

/-- At the end of a run the requests of a node are those of its stream. -/
theorem ExactlyOnce.perm_of_node (h : ExactlyOnce config s) {nodeConfig : ComputeNodeConfig}
    (hmem : nodeConfig ∈ config.computeNodes) :
    ∃ requests : List Request,
      requests.Perm (s.shared.requestTable.items.filter
        (fun request => request.sourceNodeId = nodeConfig.nodeId)) ∧
      List.Forall₂ (fun request spec => request.IssuedFor nodeConfig.nodeId spec) requests
        nodeConfig.requests := by
  obtain ⟨ids, hincreasing, hspecs, hcomplete⟩ := h.issued nodeConfig hmem
  -- look the requests up one by one
  have hlookup : ∀ (ids : List RequestId) (specs : List RequestSpec),
      List.Forall₂ (fun id spec => ∃ request, s.shared.requestTable.find id = some request ∧
        request.IssuedFor nodeConfig.nodeId spec) ids specs →
      ∃ requests : List Request, requests.map Request.requestId = ids ∧
        (∀ request ∈ requests, request ∈ s.shared.requestTable.items ∧
          request.sourceNodeId = nodeConfig.nodeId) ∧
        List.Forall₂ (fun request spec => request.IssuedFor nodeConfig.nodeId spec) requests
          specs := by
    intro ids specs hall
    induction hall with
    | nil => exact ⟨[], rfl, by simp, .nil⟩
    | @cons id spec ids specs hfirst _ ih =>
        obtain ⟨request, hfind, hfor⟩ := hfirst
        obtain ⟨requests, hids, hin, hfors⟩ := ih
        obtain ⟨hitem, hid⟩ := KeyedStore.find_eq_some.mp hfind
        refine ⟨request :: requests, ?_, List.forall_mem_cons.mpr ⟨⟨hitem, hfor.1⟩, hin⟩,
          .cons hfor hfors⟩
        rw [List.map_cons, hids, hid]
  obtain ⟨requests, hids, hin, hfors⟩ := hlookup ids nodeConfig.requests hspecs
  refine ⟨requests, ?_, hfors⟩
  have hnodup : requests.Nodup := by
    refine List.Nodup.of_map Request.requestId ?_
    rw [hids]
    exact hincreasing.imp (fun hlt => Nat.ne_of_lt hlt)
  have hitems : s.shared.requestTable.items.Nodup :=
    List.Nodup.of_map Request.requestId s.shared.requestTable.nodup
  rw [List.perm_ext_iff_of_nodup hnodup (hitems.filter _)]
  intro request
  rw [List.mem_filter, decide_eq_true_eq]
  constructor
  · exact hin request
  · rintro ⟨hitem, hsource⟩
    have hid := hcomplete request hitem hsource
    rw [← hids] at hid
    obtain ⟨request', hrequest', hsame⟩ := List.mem_map.mp hid
    rwa [← List.inj_on_of_nodup_map s.shared.requestTable.nodup (hin request' hrequest').1 hitem
      hsame]

/-- A sum over the requests of a finished run is a sum over the streams. -/
theorem ExactlyOnce.sum_requests (h : ExactlyOnce config s)
    (hnodup : (config.computeNodes.map ComputeNodeConfig.nodeId).Nodup) {f : Request → Nat}
    {g : RequestSpec → Nat}
    (hfg : ∀ request nodeId spec, request.IssuedFor nodeId spec → f request = g spec) :
    (s.shared.requestTable.items.map f).sum =
      ((config.computeNodes.flatMap ComputeNodeConfig.requests).map g).sum := by
  have hkeys : ∀ request ∈ s.shared.requestTable.items, f request ≠ 0 →
      request.sourceNodeId ∈ config.computeNodes.map ComputeNodeConfig.nodeId := by
    intro request hmem _
    obtain ⟨nodeConfig, hconfig, hsource⟩ := h.sources request hmem
    rw [hsource]
    exact List.mem_map_of_mem hconfig
  rw [sum_eq_sum_filter Request.sourceNodeId f hnodup hkeys, List.map_map, List.flatMap,
    List.map_flatten, List.sum_flatten, List.map_map, List.map_map]
  refine congrArg List.sum (List.map_congr_left fun nodeConfig hmem => ?_)
  obtain ⟨requests, hperm, hfors⟩ := h.perm_of_node hmem
  show ((s.shared.requestTable.items.filter
    (fun request => request.sourceNodeId = nodeConfig.nodeId)).map f).sum =
      (nodeConfig.requests.map g).sum
  rw [← (hperm.map f).sum_eq]
  refine congrArg List.sum ?_
  have hsame := hfors.imp fun request spec hfor => hfg request nodeConfig.nodeId spec hfor
  exact List.forall₂_eq_eq_eq ▸ List.forall₂_map_left_iff.mpr (List.forall₂_map_right_iff.mpr hsame)

/-- The requests for a set of objects, counted object by object. -/
theorem sum_requestCount (specs : List RequestSpec) (epochId : EpochId) {objects : List ObjectId}
    (hnodup : objects.Nodup) :
    (specs.map fun spec =>
        if spec.epochId = epochId ∧ spec.objectId ∈ objects then 1 else 0).sum =
      (objects.map (requestCount specs epochId)).sum := by
  rw [sum_eq_sum_filter RequestSpec.objectId _ hnodup]
  · refine congrArg List.sum (List.map_congr_left fun objectId hmem => ?_)
    unfold requestCount requestsFor
    induction specs with
    | nil => rfl
    | cons spec specs ih =>
        by_cases hobject : spec.objectId = objectId
        · rw [List.filter_cons_of_pos (by simpa using hobject), List.map_cons, List.sum_cons, ih]
          by_cases hepoch : spec.epochId = epochId
          · rw [List.filter_cons_of_pos (by simpa using ⟨hepoch, hobject⟩), List.length_cons,
              if_pos ⟨hepoch, hobject ▸ hmem⟩, Nat.add_comm]
          · rw [List.filter_cons_of_neg (by simp [hepoch]), if_neg (fun h => hepoch h.1),
              Nat.zero_add]
        · rw [List.filter_cons_of_neg (by simpa using hobject),
            List.filter_cons_of_neg (by simp [hobject]), ih]
  · intro spec _ hne
    by_contra hnot
    exact hne (if_neg fun h => hnot h.2)

/-- The local hits of an epoch, over all nodes. -/
def Simulator.hitsIn (s : Simulator P) (epochId : EpochId) : Nat :=
  s.shared.responses.countP (fun p => p.servedFromTier = .localCache ∧
    (s.shared.requestTable.find p.requestId).any (fun request => request.epochId = epochId))

/-- With nothing pending, the hits of an epoch are the requests for its replicas. -/
theorem RunInv.hitsIn_eq (h : RunInv s phase base) (hnil : s.view.pending = 0)
    (hcompleted : ExactlyOnce config s)
    (hnodup : (config.computeNodes.map ComputeNodeConfig.nodeId).Nodup)
    {plan : GlobalReplicaPlan} {capacityBytes : Nat} (hr : s.Replicated plan capacityBytes)
    (epochId : EpochId) (hreplicas : (replicaSet plan capacityBytes epochId).Nodup) :
    s.hitsIn epochId = ((replicaSet plan capacityBytes epochId).map
      (requestCount (config.computeNodes.flatMap ComputeNodeConfig.requests) epochId)).sum := by
  have hcount : ∀ (q : Response → Bool) (l : List Response),
      l.countP q = (l.map fun p => if q p then 1 else 0).sum := by
    intro q l
    induction l with
    | nil => rfl
    | cons p l ih => rw [List.countP_cons, List.map_cons, List.sum_cons, ih, Nat.add_comm]
  unfold hitsIn
  rw [hcount, h.sum_responses, ← sum_requestCount _ epochId hreplicas]
  rw [← hcompleted.sum_requests hnodup (f := fun request =>
    if request.epochId = epochId ∧ request.objectId ∈ replicaSet plan capacityBytes epochId
    then 1 else 0)]
  · refine congrArg List.sum (List.map_congr_left fun request hmem => ?_)
    obtain ⟨hfind, hticket⟩ := RunInv.ticket_of_mem hmem
    have hfind' : s.shared.requestTable.find request.requestId = some request := hfind
    have hlogged := (h.lifecycle.tracks _ request hfind).logged
    have hdecided : ∀ e ∈ (phase request.requestId).logged s.config request.ticket,
        DecidedByPlan plan capacityBytes request.ticket e := by
      intro e he
      rw [← hlogged, List.mem_filter, decide_eq_true_eq] at he
      exact hr.decided e (Or.inr he.1) request.ticket (by rw [he.2]; exact hticket)
    have hended := h.ended_of_drained hnil hticket
    cases hphase : phase request.requestId with
    | hitEnd =>
        rw [hphase] at hdecided
        have hin : request.objectId ∈ replicaSet plan capacityBytes request.epochId :=
          (hdecided (request.ticket.computeEvent (request.ticket.hitTime s.config)
            .localCacheHitComplete) (List.mem_cons_of_mem _ List.mem_cons_self)).1 rfl
        have hanswer : Phase.hitEnd.answers s.config request.ticket =
          [request.ticket.response .localCache (request.ticket.hitTime s.config) 0] := rfl
        have hid : (request.ticket.response .localCache (request.ticket.hitTime s.config)
          0).requestId = request.requestId := rfl
        rw [hanswer, List.map_singleton, List.sum_singleton, hid, hfind']
        by_cases hepoch : request.epochId = epochId
        · rw [hepoch] at hin
          simp [Ticket.response, hepoch, hin]
        · simp [hepoch]
    | missEnd start =>
        rw [hphase] at hdecided
        have hout : request.objectId ∉ replicaSet plan capacityBytes request.epochId :=
          (hdecided (request.ticket.memoryEvent s.config (request.ticket.arrival s.config)
            .forwardToMemory) (List.mem_cons_of_mem _ List.mem_cons_self)).2 rfl
        have hanswer : (Phase.missEnd start).answers s.config request.ticket =
          [request.ticket.response .memory (request.ticket.returnTime s.config start)
            request.ticket.sizeBytes] := rfl
        rw [hanswer]
        by_cases hepoch : request.epochId = epochId
        · rw [hepoch] at hout
          simp [Ticket.response, hout]
        · simp [Ticket.response, hepoch]
    | _ =>
        rw [hphase] at hended
        exact hended.elim
  · rintro request nodeId spec ⟨-, hobject, -, hepoch⟩
    rw [hobject, hepoch]

end Counting

-- ============================================================================
-- Oracle replication
-- ============================================================================

theorem neverAdmits_of_oracle {A : Arith} {localCacheConfig : LocalCacheConfig}
    (h : localCacheConfig.policyType = .globalHottestReplication) :
    (makeCachePolicy A localCacheConfig).NeverAdmits := by
  unfold makeCachePolicy
  rw [h]
  exact fun _ _ _ => rfl

namespace Simulator

/-- All requests of the streams. -/
def requestSpecs {P : CachePolicy} (s : Simulator P) : List RequestSpec :=
  s.config.computeNodes.flatMap ComputeNodeConfig.requests

/-- Oracle replication in one epoch of a finished run.  `held` and `entered` say that
    from its first request on a node holds the replicas and nothing else. -/
structure OracleReplication {P : CachePolicy} (s final : Simulator P) (epochId : EpochId)
    (replicas : List ObjectId) : Prop where
  sizes : ∀ spec ∈ s.requestSpecs, spec.epochId = epochId →
    spec.sizeBytes = requestSize s.requestSpecs epochId spec.objectId
  greedy : ∃ ranked, RankedObjects s.requestSpecs epochId ranked ∧
    FitsUpTo (requestSize s.requestSpecs epochId) s.config.localCache.capacityBytes ranked replicas
  held : ∀ t, Reachable .exact s t → ∀ node ∈ t.computeNodes.items,
    node.currentEpoch = some epochId →
      ∀ objectId, node.localCache.Holds objectId ↔ objectId ∈ replicas
  entered : ∀ t, Reachable .exact s t → t.releasedEpoch = some epochId →
    ∀ request ∈ t.shared.requestTable.items, request.epochId = epochId →
      ∃ node, t.computeNodes.find request.sourceNodeId = some node ∧
        node.currentEpoch = some epochId
  hits : final.hitsIn epochId = (replicas.map (requestCount s.requestSpecs epochId)).sum
  heaviest : ∀ size, (∀ spec ∈ s.requestSpecs, spec.epochId = epochId → spec.sizeBytes = size) →
    ∀ chosen : Finset ObjectId, chosen.card * size ≤ s.config.localCache.capacityBytes →
      ∑ objectId ∈ chosen, requestCount s.requestSpecs epochId objectId ≤
        (replicas.map (requestCount s.requestSpecs epochId)).sum

/-- A configuration with oracle replication is synthetic, so its objects have one
    size each. -/
theorem construct_oracle {rng : RandomSource} {config : SimulationConfig}
    {s : Simulator (makeCachePolicy .exact config.localCache)}
    (horacle : config.localCache.policyType = .globalHottestReplication)
    (h : construct .exact rng config = .ok s) :
    ∃ prepared generatedWorkload, s = ofConfig _ prepared generatedWorkload ∧
      Prepared prepared ∧ prepared.localCache = config.localCache ∧
      ∃ objectSizes, SizedBy objectSizes (prepared.computeNodes.flatMap ComputeNodeConfig.requests) := by
  unfold construct at h
  simp only [bind_eq_ok, pure_eq_ok, Prod.exists] at h
  obtain ⟨prepared, generatedWorkload, hprepare, rfl⟩ := h
  refine ⟨prepared, generatedWorkload, rfl, prepared_of_prepareConfig hprepare, ?_⟩
  unfold prepareConfig at hprepare
  cases hsynthetic : config.syntheticWorkload with
  | none =>
      simp only [hsynthetic, bind_eq_ok, throwIf_eq_ok, exists_and_left, exists_const,
        decide_eq_false_iff_not, pure_eq_ok, Prod.mk.injEq, exists_eq_left'] at hprepare
      obtain ⟨-, _, hvalid, -⟩ := hprepare
      unfold validateConfig at hvalid
      simp [horacle, bind_eq_ok, throwIf_eq_ok] at hvalid
  | some synthetic =>
      simp only [hsynthetic, bind_eq_ok, throwIf_eq_ok, exists_and_left, exists_const,
        decide_eq_false_iff_not, pure_eq_ok, Prod.mk.injEq, exists_eq_left'] at hprepare
      obtain ⟨-, -, workload, hgenerate, _, -, -, rfl, -⟩ := hprepare
      refine ⟨rfl, objectSizesById rng
        { synthetic with memoryChannelCount := config.memoryChannelCount }, fun spec hspec => ?_⟩
      obtain ⟨nodeConfig, hconfig, hin⟩ := List.mem_flatMap.mp hspec
      obtain ⟨nodeWorkload, hworkload, rfl⟩ := List.mem_map.mp hconfig
      exact sizedBy_of_generate hgenerate nodeWorkload hworkload spec hin

section Oracle

variable {P : CachePolicy} {prepared : SimulationConfig}
  {generatedWorkload : Option GeneratedWorkload}

/-- The replicas are in place in every state of a run. -/
theorem replicated_of_reachable (hP : P.NeverAdmits) (hprepared : Prepared prepared)
    (horacle : prepared.localCache.policyType = .globalHottestReplication) {t : Simulator P}
    (ht : Reachable .exact (ofConfig P prepared generatedWorkload) t) :
    t.Replicated (buildGlobalReplicaPlan prepared.computeNodes)
      prepared.localCache.capacityBytes := by
  have hplan : ∀ epochId,
      (plannedObjects (buildGlobalReplicaPlan prepared.computeNodes) epochId).Nodup :=
    fun epochId => (buildGlobalReplicaPlan_spec prepared.computeNodes epochId).1.nodup
  have hstart : (releaseNextEpochIfReady .exact
      (ofConfig P prepared generatedWorkload)).Replicated
        (buildGlobalReplicaPlan prepared.computeNodes) prepared.localCache.capacityBytes := by
    have hplanned : (ofConfig P prepared generatedWorkload).computeNodes =
        emplaceNodes P prepared (some (buildGlobalReplicaPlan prepared.computeNodes)) := by
      unfold ofConfig
      simp [horacle]
    have hnodes : ∀ node ∈ (ofConfig P prepared generatedWorkload).computeNodes.items,
        node.Replicates (buildGlobalReplicaPlan prepared.computeNodes)
          prepared.localCache.capacityBytes := by
      intro node hmem
      rw [hplanned] at hmem
      obtain ⟨nodeConfig, -, rfl⟩ := (emplaceNodes_spec P prepared _).1 node hmem
      exact ⟨rfl, rfl, fun epochId hnone => by cases hnone⟩
    -- no request has a ticket yet
    have htickets : ∀ id, (releaseNextEpochIfReady .exact
        (ofConfig P prepared generatedWorkload)).view.tickets id = none := fun id =>
      release_keeps (fun t => t.view.tickets id) .exact (ofConfig P prepared generatedWorkload)
        fun _ => rfl
    refine ⟨?_, fun e _ ticket hticket => ?_⟩
    · rw [(release_nodes .exact _).1]
      exact hnodes
    · rw [htickets] at hticket
      cases hticket
  have hrun := Run.invariant_of_reaches
    (fun t => TurnInv t ∧ t.Replicated (buildGlobalReplicaPlan prepared.computeNodes)
      prepared.localCache.capacityBytes)
    (fun a b hinv hmove => ?_) ⟨turnInv_init hprepared, hstart⟩ ht
  · exact hrun.2
  · obtain ⟨hturn, hr⟩ := hinv
    obtain ⟨⟨phase, base, hinv'⟩, -⟩ := id hturn
    exact ⟨turnInv_move hturn hmove, hr.move hinv' hP hplan hmove⟩

end Oracle

/-- Two nodes with oracle replication over two channels; the caches have room for
    three of the twelve objects. -/
def oracleConfig : SimulationConfig :=
  { localCache := { capacityBytes := 200, policyType := .globalHottestReplication }
    memoryChannelCount := 2
    syntheticWorkload := some
      { computeNodeIds := [1, 3]
        objectCount := 12
        requestsPerNodePerEpoch := 4
        epochCount := 2
        hotSetSize := 4
        hotSetMode := .epochShift } }

end Simulator

end DmSimulator
