/-
  DmSimulator.Runs.Barrier

  The global epoch barrier, with unbounded time.

  `ReleaseLog` lists the epochs a run has released so far.  The list is strictly
  increasing; everything that is going on belongs to its last epoch; and when a
  request of an epoch is issued, every request of an earlier epoch has been
  issued and its completion event has been processed.
-/
import DmSimulator.Runs.Completion

namespace DmSimulator

namespace Simulator

variable {P : CachePolicy}

-- ============================================================================
-- The released epochs
-- ============================================================================

/-- The epoch that `release_next_epoch_if_ready` releases, if any. -/
def releasing (s : Simulator P) : Option EpochId :=
  if ¬ s.shared.scheduler.empty || ¬ s.allComputeNodesIdle then none
  else s.nextUnreleasedEpoch

theorem releasing_spec (A : Arith) (s : Simulator P) :
    (s.releasing = none ∧ releaseNextEpochIfReady A s = s) ∨
      ∃ epoch, s.releasing = some epoch ∧ s.Drained ∧ s.nextUnreleasedEpoch = some epoch ∧
        s.Unreleased epoch ∧ releaseNextEpochIfReady A s = s.afterRelease A epoch := by
  unfold releasing
  rcases release_cases A s with ⟨hnot, heq⟩ | ⟨hdrained, hnone, heq⟩ |
    ⟨epoch, hdrained, hnext, heq⟩
  · have hgate : (¬ s.shared.scheduler.empty || ¬ s.allComputeNodesIdle) = true := by
      rw [← Bool.not_eq_false, gate_iff_drained]
      exact hnot
    exact Or.inl ⟨if_pos hgate, heq⟩
  · left
    rw [(gate_iff_drained s).mpr hdrained, hnone]
    exact ⟨if_neg Bool.false_ne_true, heq⟩
  · right
    have hspec := s.nextUnreleasedEpoch_spec
    obtain ⟨-, -, -, hunreleased⟩ := hspec.mem epoch hnext
    rw [(gate_iff_drained s).mpr hdrained, hnext]
    exact ⟨epoch, if_neg Bool.false_ne_true, hdrained, rfl, hunreleased, heq⟩

/-- The epochs released in a run, in order. -/
inductive ReleaseLog (A : Arith) (s : Simulator P) : List EpochId → Simulator P → Prop
  | start : ReleaseLog A s s.releasing.toList (releaseNextEpochIfReady A s)
  | turn {log : List EpochId} {t s' : Simulator P} {event : Event} {scheduler : Scheduler} :
      ReleaseLog A s log t → t.shared.scheduler.popNext = some (event, scheduler) →
      Dispatched A (t.popped scheduler) event s' →
      ReleaseLog A s (log ++ s'.releasing.toList) (releaseNextEpochIfReady A s')

/-- Every reachable state has a log. -/
theorem exists_releaseLog {A : Arith} {s t : Simulator P} (h : Reachable A s t) :
    ∃ log, ReleaseLog A s log t := by
  induction h with
  | refl => exact ⟨_, .start⟩
  | tail _ hmove ih =>
      obtain ⟨log, hlog⟩ := ih
      obtain ⟨event, scheduler, s', hpop, hdispatched, rfl⟩ := moves_iff.mp hmove
      exact ⟨_, .turn hlog hpop hdispatched⟩

theorem Dispatched.releasedEpoch_eq {A : Arith} {s s' : Simulator P} {event : Event}
    (h : Dispatched A s event s') : s'.releasedEpoch = s.releasedEpoch := by
  cases h <;> rfl

/-- A release extends a strictly increasing log that ends in the released epoch. -/
theorem releaseLog_extend (A : Arith) {s : Simulator P} {log : List EpochId}
    (hsorted : log.Pairwise (· < ·)) (hlast : log.getLast? = s.releasedEpoch) :
    (log ++ s.releasing.toList).Pairwise (· < ·) ∧
      (log ++ s.releasing.toList).getLast? = (releaseNextEpochIfReady A s).releasedEpoch := by
  rcases s.releasing_spec A with ⟨hnone, heq⟩ | ⟨epoch, hsome, -, -, hunreleased, heq⟩
  · rw [hnone, heq, Option.toList_none, List.append_nil]
    exact ⟨hsorted, hlast⟩
  · rw [hsome, heq, Option.toList_some]
    refine ⟨List.pairwise_append.mpr ⟨hsorted, List.pairwise_singleton _ _, ?_⟩, ?_⟩
    · intro earlier hearlier new hnew
      rw [List.mem_singleton.mp hnew]
      -- the last released epoch is the largest of the log
      obtain ⟨init, last, rfl⟩ := List.eq_nil_or_concat' log |>.resolve_left
        (List.ne_nil_of_mem hearlier)
      rw [List.getLast?_append, List.getLast?_singleton, Option.some_or] at hlast
      have hlt := hunreleased last hlast.symm
      rcases List.mem_append.mp hearlier with hin | hin
      · exact lt_trans ((List.pairwise_append.mp hsorted).2.2 earlier hin last
          (List.mem_singleton_self last)) hlt
      · rw [List.mem_singleton.mp hin]
        exact hlt
    · rw [List.getLast?_append, List.getLast?_singleton, Option.some_or]
      rfl

/-- The released epochs of a run strictly increase. -/
theorem releaseLog_increasing {A : Arith} {s t : Simulator P} {log : List EpochId}
    (h : ReleaseLog A s log t) (hnone : s.releasedEpoch = none) :
    log.Pairwise (· < ·) ∧ log.getLast? = t.releasedEpoch := by
  induction h with
  | start => exact releaseLog_extend A List.Pairwise.nil hnone.symm
  | turn _ _ hdispatched ih =>
      obtain ⟨hsorted, hlast⟩ := ih
      refine releaseLog_extend A hsorted (hlast.trans ?_)
      rw [hdispatched.releasedEpoch_eq]
      rfl

-- ============================================================================
-- What belongs to the released epoch
-- ============================================================================

/-- The completion event of the request has been processed. -/
def CompletionProcessed (s : Simulator P) (id : RequestId) : Prop :=
  ∃ e ∈ s.eventLog, e.type = .requestComplete ∧ e.requestId = id

/-- The epoch an event belongs to: that of its request, or of the request a
    `GenerateRequest` event will issue. -/
def epochOf (s : Simulator P) (event : Event) : Option EpochId :=
  match event.type with
  | .generateRequest => (s.computeNodes.find event.targetId).bind ComputeNode.nextRequestEpoch
  | _ => (s.shared.requestTable.find event.requestId).map Request.epochId

/-- All unfinished requests and all pending events belong to the released epoch. -/
structure WithinReleasedEpoch (s : Simulator P) : Prop where
  requests : ∀ request ∈ s.shared.requestTable.items,
    request.currentStage ≠ .completed ∨ ¬ s.CompletionProcessed request.requestId →
      s.releasedEpoch = some request.epochId
  events : ∀ event ∈ s.shared.scheduler.events,
    ∃ epoch, s.releasedEpoch = some epoch ∧ s.epochOf event = some epoch

/-- Every request of an earlier epoch, of any node, has been issued and its
    completion event has been processed. -/
structure BehindBarrier (s : Simulator P) (epoch : EpochId) : Prop where
  completed : ∀ request ∈ s.shared.requestTable.items, request.epochId < epoch →
    s.CompletionProcessed request.requestId
  issued : ∀ node ∈ s.computeNodes.items,
    ∀ spec ∈ node.workload.requests.drop node.workload.nextIndex, epoch ≤ spec.epochId

end Simulator

section Barrier

variable {P : CachePolicy} {s : Simulator P} {phase : RequestId → Phase} {base : SimTime}

theorem Phase.complete_mem_logged (config : SimulationConfig) (t : Ticket) {phase : Phase}
    (h : phase.Ended) :
    ∃ e ∈ phase.logged config t, e.type = .requestComplete ∧ e.requestId = t.requestId := by
  cases phase with
  | hitEnd =>
      exact ⟨t.computeEvent (t.hitTime config) .requestComplete, by simp [Phase.logged], rfl, rfl⟩
  | missEnd start =>
      exact ⟨t.computeEvent (t.returnTime config start) .requestComplete, by simp [Phase.logged],
        rfl, rfl⟩
  | _ => exact h.elim

/-- A request that has ended has had its completion event processed. -/
theorem RunInv.completionProcessed (h : RunInv s phase base) {request : Request}
    (hmem : request ∈ s.shared.requestTable.items) (hended : (phase request.requestId).Ended) :
    s.CompletionProcessed request.requestId := by
  have hfind := (RunInv.ticket_of_mem hmem).1
  have hlogged := (h.lifecycle.tracks request.requestId request hfind).logged
  obtain ⟨e, hin, htype, hid⟩ := Phase.complete_mem_logged s.config request.ticket hended
  rw [← hlogged] at hin
  exact ⟨e, (List.mem_filter.mp hin).1, htype, hid⟩

theorem RunInv.withinReleasedEpoch (h : RunInv s phase base) : s.WithinReleasedEpoch := by
  have hepoch : ∀ {id : RequestId} {request : Request},
      s.view.tickets id = some request.ticket → ¬ (phase id).Ended →
        s.releasedEpoch = some request.epochId := by
    intro id request ht hnot
    obtain ⟨epoch, hreleased, -, heq⟩ := h.barrier id request.ticket ht
    rw [hreleased, ← heq hnot]
    rfl
  refine ⟨?_, ?_⟩
  · intro request hmem hunfinished
    obtain ⟨hfind, ht⟩ := RunInv.ticket_of_mem hmem
    refine hepoch ht fun hended => ?_
    rcases hunfinished with hstage | hnot
    · refine hstage ?_
      rw [(h.lifecycle.tracks request.requestId request hfind).stage]
      cases hp : phase request.requestId <;> rw [hp] at hended <;>
        first | rfl | exact hended.elim
    · exact hnot (h.completionProcessed hmem hended)
  · intro event hevent
    have hmem : event.record ∈ s.view.pending :=
      Scheduler.mem_pending.mpr ⟨event, hevent, rfl⟩
    by_cases hzero : event.requestId = 0
    · obtain ⟨htype, node, hfind⟩ := h.generates event.record hmem hzero
      obtain ⟨hnode, hkey⟩ := h.node_of_find hfind
      obtain ⟨spec, hup, hreleased⟩ :=
        ComputeNode.due_iff.mp (hnode.due_of_generate hmem htype hkey.symm)
      refine ⟨spec.epochId, hreleased, ?_⟩
      unfold Simulator.epochOf
      rw [show event.type = _ from htype, show s.computeNodes.find event.targetId = _ from hfind]
      exact RunInv.nextRequestEpoch_of_upcoming hup
    · obtain ⟨request, hfind⟩ := h.lifecycle.find_of_event hmem hzero
      have hwait := h.lifecycle.pending_eq hmem hfind
      have ht : s.view.tickets event.requestId = some request.ticket := by
        unfold View.tickets
        rw [show s.view.requestTable.find event.requestId = _ from hfind]
        rfl
      refine ⟨request.epochId, hepoch ht (Phase.not_ended_of_pending hwait), ?_⟩
      have htype : event.type ≠ .generateRequest := (Phase.pending_spec hwait).2.1
      unfold Simulator.epochOf
      rw [show s.shared.requestTable.find event.requestId = _ from hfind]
      cases hcase : event.type <;> first | exact absurd hcase htype | rfl

/-- Everything before the released epoch is behind the barrier. -/
theorem RunInv.behindBarrier (h : RunInv s phase base) {epoch : EpochId}
    (hreleased : s.releasedEpoch = some epoch) : s.BehindBarrier epoch := by
  refine ⟨?_, ?_⟩
  · intro request hmem hlt
    obtain ⟨-, ht⟩ := RunInv.ticket_of_mem hmem
    obtain ⟨released, hsome, -, heq⟩ := h.barrier request.requestId request.ticket ht
    refine h.completionProcessed hmem (by_contra fun hnot => ?_)
    have hsame : request.epochId = released := heq hnot
    have hsame' := Option.some.inj (hreleased.symm.trans hsome)
    lia
  · intro node hmem spec hspec
    have hnode := h.nodes node hmem
    obtain ⟨nodeConfig, hconfig, -, hrequests⟩ := hnode.configured
    have hsorted := h.prepared.epochs_sorted nodeConfig hconfig
    rw [← hrequests, List.pairwise_map] at hsorted
    have hdrop := hsorted.sublist (List.drop_sublist node.workload.nextIndex _)
    cases hlist : node.workload.requests.drop node.workload.nextIndex with
    | nil =>
        rw [hlist] at hspec
        simp at hspec
    | cons first rest =>
        rw [hlist] at hspec hdrop
        have hup : node.workload.upcoming = some first := by
          have hhead := congrArg List.head? hlist
          rw [List.head?_drop] at hhead
          exact hhead
        have hfirst := hnode.upcoming_epoch first epoch hup hreleased
        rcases List.mem_cons.mp hspec with rfl | hin
        · exact hfirst
        · exact le_trans hfirst ((List.pairwise_cons.mp hdrop).1 spec hin)

/-- While an epoch is the released one, the nodes that have issued requests of it
    are in it. -/
theorem RunInv.source_inEpoch (h : RunInv s phase base) {request : Request}
    (hmem : request ∈ s.shared.requestTable.items)
    (hreleased : s.releasedEpoch = some request.epochId) :
    ∃ node, s.computeNodes.find request.sourceNodeId = some node ∧
      node.currentEpoch = some request.epochId := by
  obtain ⟨-, hticket⟩ := RunInv.ticket_of_mem hmem
  obtain ⟨node, hsource⟩ := h.sources request.requestId request.ticket hticket
  obtain ⟨hnode, hkey⟩ := h.node_of_find hsource
  exact ⟨node, hsource, hnode.entered request.requestId request.ticket hticket hkey.symm hreleased⟩

/-- Lookups and returns are processed by the node that issued the request. -/
theorem Phase.source_target {config : SimulationConfig} {t : Ticket} {phase : Phase}
    {e : EventRecord} (h : phase.pending config t = some e)
    (htype : e.type = .localCacheLookup ∨ e.type = .returnResponse) :
    e.targetId = t.sourceNodeId := by
  cases phase <;> cases h <;> first | rfl | (rcases htype with htype | htype <;> cases htype)

/-- The node that processes the lookup or the return of a request has issued it and
    is in its epoch. -/
theorem RunInv.atSource (h : RunInv s phase base) {event : Event} {scheduler : Scheduler}
    (hpop : s.shared.scheduler.popNext = some (event, scheduler))
    (htype : event.type = .localCacheLookup ∨ event.type = .returnResponse) :
    ∃ request node, RunInv.Awaits s phase base event request node ∧
      event.targetId = request.sourceNodeId ∧ node.currentEpoch = some request.epochId := by
  have hpositive : event.requestId ≠ 0 := by
    intro hzero
    obtain ⟨-, -, -, -, hold⟩ := h.popped_ordered hpop
    have hgenerate := (h.generates event.record (hold ▸ Multiset.mem_cons_self _ _) hzero).1
    rcases htype with htype | htype <;> exact EventType.noConfusion (htype.symm.trans hgenerate)
  obtain ⟨request, node, hawaits⟩ := h.awaits_of_event hpop hpositive
  -- the request is unfinished, so it belongs to the released epoch
  obtain ⟨epoch, hreleased, -, hepoch⟩ := h.barrier event.requestId request.ticket hawaits.ticket
  rw [← hepoch (Phase.not_ended_of_pending hawaits.waits)] at hreleased
  obtain ⟨node', hnode', hcurrent⟩ :=
    h.source_inEpoch (KeyedStore.find_eq_some.mp hawaits.find).1 hreleased
  obtain rfl : node = node' := Option.some.inj (hawaits.source.symm.trans hnode')
  exact ⟨request, node, hawaits, Phase.source_target hawaits.waits htype, hcurrent⟩

/-- A request that appears in a turn was issued by a `GenerateRequest` event, for
    the next spec of its node. -/
theorem issue_of_new {s' : Simulator P} {event : Event} (h : Simulator.Dispatched .exact s event s')
    {request : Request} (hmem : request ∈ s'.shared.requestTable.items)
    (hnew : s.shared.requestTable.find request.requestId = none) :
    ∃ node spec, event.type = .generateRequest ∧
      s.computeNodes.find event.targetId = some node ∧ node.workload.upcoming = some spec ∧
        request.epochId = spec.epochId := by
  -- any other write has the id of a request that is in the table
  have hwrite : ∀ {written old : Request} {id : RequestId},
      request ∈ (s.shared.requestTable.insert written).items →
        s.shared.requestTable.find id = some old → written.requestId = old.requestId → False := by
    intro written old id hin hfind hid
    rcases KeyedStore.mem_insert.mp hin with rfl | ⟨hold, -⟩
    · rw [hid, (KeyedStore.find_eq_some.mpr ⟨(KeyedStore.find_eq_some.mp hfind).1, rfl⟩ :
        s.shared.requestTable.find old.requestId = some old)] at hnew
      cases hnew
    · exact KeyedStore.find_eq_none.mp hnew request hold rfl
  have hsame : request ∈ s.shared.requestTable.items → False := fun hin =>
    KeyedStore.find_eq_none.mp hnew request hin rfl
  cases h with
  | @compute node node' effect hfind hstep =>
      cases hstep with
      | drained => exact (hsame hmem).elim
      | @issue spec htype hup =>
          refine ⟨node, spec, htype, hfind, hup, ?_⟩
          rcases KeyedStore.mem_insert.mp hmem with rfl | ⟨hold, -⟩
          · rfl
          · exact (hsame hold).elim
      | hit _ hrequest => exact (hwrite hmem hrequest rfl).elim
      | miss _ hrequest => exact (hwrite hmem hrequest rfl).elim
      | hitComplete _ hrequest => exact (hwrite hmem hrequest rfl).elim
      | returned _ hrequest => exact (hwrite hmem hrequest rfl).elim
      | complete => exact (hsame hmem).elim
  | memory _ _ hstep =>
      cases hstep with
      | forwardIdle _ hrequest => exact (hwrite hmem hrequest rfl).elim
      | forwardBusy _ hrequest => exact (hwrite hmem hrequest rfl).elim
      | start _ hrequest => exact (hwrite hmem hrequest rfl).elim
      | completeIdle => exact (hsame hmem).elim
      | completeNext => exact (hsame hmem).elim

/-- A request that a turn issues belongs to the released epoch. -/
theorem RunInv.issue_epoch (h : RunInv s phase base) {event : Event} {scheduler : Scheduler}
    (hpop : s.shared.scheduler.popNext = some (event, scheduler))
    {s' : Simulator P}
    (hdispatched : Simulator.Dispatched .exact (s.popped scheduler) event s') {request : Request}
    (hmem : request ∈ s'.shared.requestTable.items)
    (hnew : s.shared.requestTable.find request.requestId = none) :
    s.releasedEpoch = some request.epochId := by
  obtain ⟨node, spec, htype, hfind, hup, hepoch⟩ := issue_of_new hdispatched hmem hnew
  obtain ⟨-, -, -, -, hold⟩ := h.popped_ordered hpop
  obtain ⟨hnode, hkey⟩ := h.node_of_find hfind
  obtain ⟨spec', hup', hreleased⟩ := ComputeNode.due_iff.mp
    (hnode.due_of_generate (hold ▸ Multiset.mem_cons_self _ _) htype hkey.symm)
  obtain rfl : spec = spec' := Option.some.inj (hup.symm.trans hup')
  rw [hepoch]
  exact hreleased

/-- A turn issues a request only when all earlier epochs are done. -/
theorem RunInv.issue_behindBarrier (h : RunInv s phase base) {t : Simulator P}
    (hmove : Run.Moves (Simulator.step .exact) s t) {request : Request}
    (hmem : request ∈ t.shared.requestTable.items)
    (hnew : s.shared.requestTable.find request.requestId = none) :
    s.BehindBarrier request.epochId := by
  obtain ⟨event, scheduler, s', hpop, hdispatched, rfl⟩ := Simulator.moves_iff.mp hmove
  have htable : (Simulator.releaseNextEpochIfReady .exact s').shared.requestTable =
      s'.shared.requestTable := by
    rcases Simulator.release_cases .exact s' with ⟨-, heq⟩ | ⟨-, -, heq⟩ | ⟨epoch, -, -, heq⟩ <;>
      rw [heq]
    rfl
  rw [htable] at hmem
  exact h.behindBarrier (h.issue_epoch hpop hdispatched hmem hnew)

end Barrier

namespace Simulator

/-- The global epoch barrier: the released epochs of a run strictly increase;
    everything that is going on belongs to the released epoch; and a request is
    issued only when every request of an earlier epoch has been completed. -/
theorem run_barrier {rng : RandomSource} {config : SimulationConfig}
    {s : Simulator (makeCachePolicy .exact config.localCache)}
    (h : construct .exact rng config = .ok s) :
    (∀ log t, ReleaseLog .exact s log t →
      log.Pairwise (· < ·) ∧ log.getLast? = t.releasedEpoch) ∧
    ∀ t, Reachable .exact s t →
      (∃ log, ReleaseLog .exact s log t) ∧ t.WithinReleasedEpoch ∧
        ∀ u, Run.Moves (step .exact) t u → ∀ request ∈ u.shared.requestTable.items,
          t.shared.requestTable.find request.requestId = none →
            t.BehindBarrier request.epochId := by
  obtain ⟨prepared, generatedWorkload, rfl, hprepared⟩ := construct_spec h
  refine ⟨fun log t hlog => releaseLog_increasing hlog rfl, fun t ht => ?_⟩
  obtain ⟨⟨phase, base, hrun⟩, -⟩ := turnInv_of_reachable hprepared ht
  exact ⟨exists_releaseLog ht, hrun.withinReleasedEpoch,
    fun u hmove request hmem hnew => hrun.issue_behindBarrier hmove hmem hnew⟩

/-- Two nodes, one of which skips an epoch. -/
def skippedEpochConfig : SimulationConfig :=
  { computeNodes :=
      [{ nodeId := 1
         requests := [{ objectId := 1, sizeBytes := 64 },
          { objectId := 2, sizeBytes := 64, epochId := 1 }] },
       { nodeId := 3, requests := [{ objectId := 1, sizeBytes := 64, epochId := 1 }] }] }

theorem skippedEpochConfig_barrier :
    ∃ s, construct .exact lowestSource skippedEpochConfig = .ok s ∧
      (∀ log t, ReleaseLog .exact s log t →
        log.Pairwise (· < ·) ∧ log.getLast? = t.releasedEpoch) ∧
      ∀ t, Reachable .exact s t →
        (∃ log, ReleaseLog .exact s log t) ∧ t.WithinReleasedEpoch ∧
          ∀ u, Run.Moves (step .exact) t u → ∀ request ∈ u.shared.requestTable.items,
            t.shared.requestTable.find request.requestId = none →
              t.BehindBarrier request.epochId :=
  ⟨_, rfl, run_barrier (show construct .exact lowestSource skippedEpochConfig = .ok _ from rfl)⟩

end Simulator

end DmSimulator
