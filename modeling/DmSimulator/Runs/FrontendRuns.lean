/-
  DmSimulator.Runs.FrontendRuns

  A bursty run in which every lookup misses refines the machine of its issuing
  side, with unbounded time.

  Turns of the memory side leave the `Frontend` as it is; the other turns and the
  releases are its steps.  The clock of the machine is that of the run, less the
  time at which the epoch was released.
-/
import DmSimulator.Runs.Frontend
import DmSimulator.Runs.Replication

namespace DmSimulator

-- ============================================================================
-- Nothing is ever cached
-- ============================================================================

/-- The node replicates nothing and its cache is empty. -/
structure ComputeNode.Bare {P : CachePolicy} (node : ComputeNode P) : Prop where
  plan_eq : node.globalReplicaPlan = none
  holds_not : ∀ objectId, ¬ node.localCache.Holds objectId

/-- The caches are empty, and no lookup so far has hit. -/
structure Simulator.NeverHits {P : CachePolicy} (s : Simulator P) : Prop where
  nodes : ∀ node ∈ s.computeNodes.items, node.Bare
  events : ∀ e, e ∈ s.view.pending ∨ e ∈ s.eventLog → e.type ≠ .localCacheHitComplete

section Misses

variable {P : CachePolicy} {s s' : Simulator P} {phase : RequestId → Phase} {base : SimTime}
  {event : Event} {scheduler : Scheduler} {node node' : ComputeNode P} {sh : Shared}
  {effect : Effect}

open Simulator

/-- Handling an event leaves the cache empty. -/
theorem ComputeNode.Bare.step (hP : P.NeverAdmits) (h : node.Bare)
    (hstep : ComputeStep .exact node event sh node' effect) : node'.Bare := by
  cases hstep with
  | drained => exact h
  | @issue spec =>
      refine ⟨h.plan_eq, ?_⟩
      show ∀ objectId, ¬ (node.enterEpoch .exact sh.stats spec.epochId event.time).Holds objectId
      unfold ComputeNode.enterEpoch
      rw [h.plan_eq]
      split
      · exact h.holds_not
      · exact h.holds_not
  | hit | miss =>
      exact ⟨h.plan_eq, fun objectId hheld =>
        h.holds_not objectId ((LocalCache.holds_lookup _ _ _ _ objectId).mp hheld)⟩
  | hitComplete => exact ⟨h.plan_eq, h.holds_not⟩
  | @returned request =>
      refine ⟨h.plan_eq, fun objectId hheld => h.holds_not objectId ?_⟩
      unfold LocalCache.Holds at hheld ⊢
      rw [show (LocalCache.admitObject .exact node.localCache request _ event.time).1.entries = _
        from LocalCache.admitObject_entries hP _ _ _] at hheld
      exact hheld
  | complete => exact h

/-- An empty cache schedules no completion of a hit. -/
theorem ComputeNode.Bare.no_hit (h : node.Bare)
    (hstep : ComputeStep .exact node event sh node' effect) {e : EventRecord}
    (he : e ∈ effect.events) : e.type ≠ .localCacheHitComplete := by
  intro htype
  obtain ⟨-, -, request, -, hiff⟩ := hstep.outcome he (Or.inl htype)
  exact h.holds_not request.objectId (hiff.mp htype)

/-- What a dispatch did to the shared state, and that it schedules no hit. -/
theorem Simulator.NeverHits.dispatched (h : s.NeverHits) (hP : P.NeverAdmits)
    (hdispatched : Dispatched .exact s event s') :
    (∀ node ∈ s'.computeNodes.items, node.Bare) ∧ ∃ effect : Effect,
      s'.shared = s.shared.apply effect ∧
        ∀ e ∈ effect.events, e.type ≠ .localCacheHitComplete := by
  cases hdispatched with
  | @compute node node' effect hfind hstep =>
      have hbare := h.nodes node (KeyedStore.find_eq_some.mp hfind).1
      refine ⟨fun other hother => ?_, effect, rfl, fun e he => hbare.no_hit hstep he⟩
      rcases KeyedStore.mem_insert.mp hother with rfl | ⟨hold, -⟩
      · exact hbare.step hP hstep
      · exact h.nodes other hold
  | @memory memoryNode effect hfind htarget hstep =>
      exact ⟨h.nodes, effect, rfl, fun e he => (hstep.no_outcome he).1⟩

/-- A turn leaves the caches empty. -/
theorem Simulator.NeverHits.move (h : s.NeverHits) (hP : P.NeverAdmits)
    (hrun : RunInv s phase base) {t : Simulator P} (hmove : Run.Moves (step .exact) s t) :
    t.NeverHits := by
  obtain ⟨event, scheduler, s', hpop, hdispatched, rfl⟩ := moves_iff.mp hmove
  obtain ⟨phase', hrun'⟩ := hrun.of_dispatched hpop hdispatched
  obtain ⟨-, -, -, -, hold⟩ := hrun.popped_ordered hpop
  have hpopped : (s.popped scheduler).NeverHits := by
    refine ⟨h.nodes, fun e he => h.events e (he.imp_left fun hwaiting => ?_)⟩
    rw [hold]
    exact Multiset.mem_cons_of_mem hwaiting
  obtain ⟨hnodes, effect, hshared, heffect⟩ := hpopped.dispatched hP hdispatched
  refine ⟨by rw [(release_nodes .exact s').1]; exact hnodes, ?_⟩
  rintro e (hpending | hlogged)
  · rcases hrun'.release_pending hpending with hin | hgenerate
    · have haccepted := hrun'.accepted
      rw [hshared] at haccepted
      have hsplit : s'.view.pending =
          (effect.events : Multiset EventRecord) + scheduler.pending := by
        show s'.shared.scheduler.pending = _
        rw [hshared]
        exact Scheduler.scheduleAll_pending haccepted
      rw [hsplit, Multiset.mem_add] at hin
      rcases hin with hnew | hwaiting
      · exact heffect e (Multiset.mem_coe.mp hnew)
      · exact hpopped.events e (Or.inl hwaiting)
    · rw [hgenerate]
      exact EventType.noConfusion
  · rw [(release_log .exact s').1, (dispatched_log hdispatched).1] at hlogged
    rcases List.mem_append.mp hlogged with hearlier | hlast
    · exact h.events e (Or.inr hearlier)
    · rw [List.mem_singleton.mp hlast]
      refine h.events event.record (Or.inl ?_)
      rw [hold]
      exact Multiset.mem_cons_self _ _

end Misses

-- ============================================================================
-- The front end of a state
-- ============================================================================

namespace WorkloadCursor

/-- The specs behind the cursor. -/
def remaining (w : WorkloadCursor) : List RequestSpec := w.requests.drop w.nextIndex

theorem remaining_of_some {w : WorkloadCursor} {spec : RequestSpec}
    (h : w.upcoming = some spec) : w.remaining = spec :: w.advance.remaining := by
  obtain ⟨hlt, hspec⟩ := List.getElem?_eq_some_iff.mp h
  unfold remaining
  rw [List.drop_eq_getElem_cons hlt, hspec]
  rfl

theorem remaining_of_none {w : WorkloadCursor} (h : w.upcoming = none) : w.remaining = [] :=
  List.drop_eq_nil_of_le (List.getElem?_eq_none_iff.mp h)

end WorkloadCursor

namespace Simulator

variable {P : CachePolicy}

/-- The specs a node of the store has still to issue. -/
def streamIn (nodes : KeyedStore (ComputeNode.nodeId (P := P))) (nodeId : NodeId) :
    List RequestSpec :=
  match nodes.find nodeId with
  | none => []
  | some node => node.workload.remaining

theorem streamIn_of_find {nodes : KeyedStore (ComputeNode.nodeId (P := P))} {nodeId : NodeId}
    {node : ComputeNode P} (h : nodes.find nodeId = some node) :
    streamIn nodes nodeId = node.workload.remaining := by
  unfold streamIn
  rw [h]

theorem streamIn_insert (nodes : KeyedStore (ComputeNode.nodeId (P := P)))
    (node : ComputeNode P) :
    streamIn (nodes.insert node) =
      Function.update (streamIn nodes) node.nodeId node.workload.remaining := by
  funext nodeId
  by_cases heq : nodeId = node.nodeId
  · rw [heq, Function.update_self]
    exact streamIn_of_find (KeyedStore.find_insert_self nodes node)
  · rw [Function.update_of_ne heq]
    unfold streamIn
    rw [KeyedStore.find_insert_ne nodes node heq]

/-- A node that issues nothing keeps its stream. -/
theorem streamIn_insert_same {nodes : KeyedStore (ComputeNode.nodeId (P := P))}
    {nodeId : NodeId} {node node' : ComputeNode P} (h : nodes.find nodeId = some node)
    (hid : node'.nodeId = node.nodeId) (hworkload : node'.workload = node.workload) :
    streamIn (nodes.insert node') = streamIn nodes := by
  have hkey : node.nodeId = nodeId := KeyedStore.key_of_find h
  rw [streamIn_insert, hid, hkey, hworkload, ← streamIn_of_find h, Function.update_eq_self]

/-- `f` is the issuing side of the state; `bases` are the release times of the epochs,
    the last of which is `base`. -/
structure HasFrontend (s : Simulator P) (base : SimTime) (bases : EpochId → SimTime)
    (f : Frontend) : Prop where
  streams : streamIn s.computeNodes = f.streams
  queue : s.shared.scheduler.agenda.filter EventRecord.isFrontend =
    f.queue.map (EventRecord.delay base)
  releasedEpoch : s.releasedEpoch = f.releasedEpoch
  nextRequestId : s.shared.nextRequestId = f.nextRequestId
  tickets : ∀ id, s.view.tickets id = (f.tickets id).map (Ticket.delay bases)
  arrived : (s.eventLog.filter (fun e => e.type = .forwardToMemory)).map EventRecord.requestId =
    f.arrived
  current : ∀ epoch, s.releasedEpoch = some epoch → bases epoch = base

end Simulator

section Turn

variable {P : CachePolicy} {s s' : Simulator P} {phase : RequestId → Phase} {base : SimTime}
  {bases : EpochId → SimTime} {f : Frontend} {event : Event} {scheduler : Scheduler}

open Simulator

/-- The clock of the records does not matter for their order. -/
theorem EventRecord.delay_lt_iff (base : SimTime) (a b : EventRecord) :
    a.time < b.time ↔ (a.delay base).time < (b.delay base).time :=
  (Nat.add_lt_add_iff_left (k := base)).symm

/-- A turn takes an event of the front end out of its queue or leaves the queue alone,
    and puts the new events of the front end into it. -/
theorem Simulator.HasFrontend.queue_turn (hf : s.HasFrontend base bases f)
    (hrun : RunInv s phase base)
    (hpop : s.shared.scheduler.popNext = some (event, scheduler)) {records : List EventRecord}
    (haccepted : (scheduler.scheduleAll records).refused = []) :
    ∃ rest, (event.record.isFrontend = true →
        ∃ e, f.queue = e :: rest ∧ event.record = e.delay base) ∧
      (event.record.isFrontend = false → f.queue = rest) ∧
      ∀ new, records.filter EventRecord.isFrontend = new.map (EventRecord.delay base) →
        (scheduler.scheduleAll records).agenda.filter EventRecord.isFrontend =
          (TimedQueue.enqueueAll EventRecord.time new rest).map (EventRecord.delay base) := by
  have hqueue := hf.queue
  obtain ⟨hordered, -, -, -, -⟩ := hrun.popped_ordered hpop
  rw [Scheduler.popNext_agenda hpop] at hqueue
  -- the queue of the machine is the part of the agenda that concerns it
  have hsplit : ∃ rest, scheduler.agenda.filter EventRecord.isFrontend =
        rest.map (EventRecord.delay base) ∧
      (event.record.isFrontend = true →
        ∃ e, f.queue = e :: rest ∧ event.record = e.delay base) ∧
      (event.record.isFrontend = false → f.queue = rest) := by
    cases hfront : event.record.isFrontend with
    | true =>
        rw [List.filter_cons_of_pos hfront] at hqueue
        obtain ⟨e, rest, hcons, he, hrest⟩ := List.map_eq_cons_iff.mp hqueue.symm
        exact ⟨rest, hrest.symm, fun _ => ⟨e, hcons, he.symm⟩, Bool.noConfusion⟩
    | false =>
        rw [List.filter_cons_of_neg (by rw [hfront]; exact Bool.false_ne_true)] at hqueue
        exact ⟨f.queue, hqueue, Bool.noConfusion, fun _ => rfl⟩
  obtain ⟨rest, hagenda, hfront, hback⟩ := hsplit
  refine ⟨rest, hfront, hback, fun new hnew => ?_⟩
  rw [hordered.agenda_scheduleAll haccepted,
    TimedQueue.filter_enqueueAll _ _ hordered.agenda_inOrder, hnew, hagenda,
    ← TimedQueue.map_enqueueAll (EventRecord.delay_lt_iff base)]

/-- Writing a request under its old ticket changes no ticket. -/
theorem tickets_of_write {id : RequestId} {old new : Request}
    (htable : s'.shared.requestTable = s.shared.requestTable.insert new)
    (hfind : s.shared.requestTable.find id = some old) (hticket : new.ticket = old.ticket) :
    ∀ id, s'.view.tickets id = s.view.tickets id := by
  intro id'
  show (s'.shared.requestTable.find id').map Request.ticket = _
  rw [htable]
  exact tickets_insert_same hfind hticket id'

/-- A turn that issues nothing. -/
theorem Simulator.HasFrontend.advance (hf : s.HasFrontend base bases f)
    (hstreams : streamIn s'.computeNodes = streamIn s.computeNodes)
    (hreleased : s'.releasedEpoch = s.releasedEpoch)
    (hnext : s'.shared.nextRequestId = s.shared.nextRequestId)
    (htickets : ∀ id, s'.view.tickets id = s.view.tickets id) {e : EventRecord}
    (hlog : s'.eventLog = s.eventLog ++ [e]) {arrived : List RequestId}
    (harrived : (f.arrived ++ if e.type = .forwardToMemory then [e.requestId] else []) = arrived)
    {queue : List EventRecord}
    (hqueue : s'.shared.scheduler.agenda.filter EventRecord.isFrontend =
      queue.map (EventRecord.delay base)) :
    s'.HasFrontend base bases { f with queue := queue, arrived := arrived } := by
  refine ⟨hstreams.trans hf.streams, hqueue, hreleased.trans hf.releasedEpoch,
    hnext.trans hf.nextRequestId, fun id => (htickets id).trans (hf.tickets id), ?_, ?_⟩
  · rw [hlog, List.filter_append, List.map_append, hf.arrived, ← harrived]
    by_cases htype : e.type = .forwardToMemory
    · rw [if_pos htype, List.filter_cons_of_pos (by simpa using htype)]
      rfl
    · rw [if_neg htype, List.filter_cons_of_neg (by simpa using htype)]
      rfl
  · rw [hreleased]
    exact hf.current

/-- A turn of the memory side leaves the front end alone. -/
theorem Simulator.HasFrontend.idle (hf : s.HasFrontend base bases f) (hrun : RunInv s phase base)
    (hpop : s.shared.scheduler.popNext = some (event, scheduler))
    (hstreams : streamIn s'.computeNodes = streamIn s.computeNodes)
    (hreleased : s'.releasedEpoch = s.releasedEpoch)
    (hnext : s'.shared.nextRequestId = s.shared.nextRequestId)
    (htickets : ∀ id, s'.view.tickets id = s.view.tickets id)
    (hlog : s'.eventLog = s.eventLog ++ [event.record]) {records : List EventRecord}
    (hscheduler : s'.shared.scheduler = scheduler.scheduleAll records)
    (haccepted : s'.shared.scheduler.refused = []) (hevent : event.record.isFrontend = false)
    (hrecords : records.filter EventRecord.isFrontend = []) : s'.HasFrontend base bases f := by
  rw [hscheduler] at haccepted
  obtain ⟨rest, -, hback, hagenda⟩ := hf.queue_turn hrun hpop haccepted
  obtain rfl := hback hevent
  have htype : event.record.type ≠ .forwardToMemory := by
    intro htype
    simp [EventRecord.isFrontend, htype] at hevent
  exact hf.advance hstreams hreleased hnext htickets hlog
    (by rw [if_neg htype, List.append_nil]) (by rw [hscheduler]; exact hagenda [] hrecords)

/-- What a bursty node schedules behind an issue. -/
theorem nextBurst_eq_nextIssue {node : ComputeNode P} {spec : RequestSpec} {time : SimTime}
    (stats : Stats) (hmode : node.issueMode = .scheduledBursty)
    (hbase : node.epochBase .exact spec time = base) :
    (node.afterIssue .exact stats spec time).nextBurst .exact =
      (Frontend.nextIssue node.nodeId node.workload.advance.remaining spec.epochId).map
        (EventRecord.delay base) := by
  unfold ComputeNode.nextBurst Frontend.nextIssue
  cases hup : node.workload.advance.upcoming with
  | none =>
      have hnone : (node.afterIssue .exact stats spec time).workload.upcoming = none := hup
      rw [hnone, WorkloadCursor.remaining_of_none hup]
      rfl
  | some next =>
      have hsome : (node.afterIssue .exact stats spec time).workload.upcoming = some next := hup
      rw [hsome, WorkloadCursor.remaining_of_some hup]
      show (if node.issueMode = WorkloadIssueMode.scheduledBursty ∧
          some spec.epochId = some next.epochId then
        some ({ time := node.epochBase .exact spec time + next.scheduledIssueOffset
                type := .generateRequest
                targetId := node.nodeId } : EventRecord)
        else none) = _
      rw [hbase]
      by_cases hepoch : next.epochId = spec.epochId
      · simp [hmode, hepoch, EventRecord.delay, generateEvent]
      · have hepoch' : ¬ spec.epochId = next.epochId := fun heq => hepoch heq.symm
        simp [hepoch, hepoch']

/-- The front end issues a request. -/
theorem Simulator.HasFrontend.issue (hf : s.HasFrontend base bases f)
    (hrun : RunInv s phase base) (hmode : issueModeOf s.config = .scheduledBursty)
    (hpop : s.shared.scheduler.popNext = some (event, scheduler)) {node : ComputeNode P}
    {spec : RequestSpec} (hfind : s.computeNodes.find event.targetId = some node)
    (htype : event.type = .generateRequest) (hup : node.workload.upcoming = some spec)
    {effect : Effect} (hissued : effect.issued = 1)
    (hrequest : effect.request =
      some (node.requestFor s.shared.nextRequestId spec event.time))
    (hevents : effect.events =
      { time := event.time
        type := .localCacheLookup
        targetId := node.nodeId
        requestId := s.shared.nextRequestId } ::
      ((node.afterIssue .exact s.shared.stats spec event.time).nextBurst .exact).toList)
    (haccepted : (scheduler.scheduleAll effect.events).refused = []) :
    ∃ f', Frontend.Step s.config f f' ∧
      ((s.popped scheduler).afterCompute event
        (node.afterIssue .exact s.shared.stats spec event.time) effect).HasFrontend base bases
          f' := by
  obtain ⟨hnode, hkey⟩ := hrun.node_of_find hfind
  obtain ⟨-, -, -, -, hold⟩ := hrun.popped_ordered hpop
  have hpending : event.record ∈ s.view.pending := by
    rw [hold]
    exact Multiset.mem_cons_self _ _
  obtain ⟨spec', hup', hreleased⟩ :=
    ComputeNode.due_iff.mp (hnode.due_of_generate hpending htype hkey.symm)
  obtain rfl : spec = spec' := Option.some.inj (hup.symm.trans hup')
  have hburst : node.issueMode = .scheduledBursty := hnode.issueMode_eq.trans hmode
  have hclock : event.time = base + spec.scheduledIssueOffset ∧
      node.epochBase .exact spec event.time = base :=
    hnode.epochBase_eq hpending htype hkey.symm hup hburst
  obtain ⟨htime, hbase⟩ := hclock
  set stream := node.workload.advance.remaining with hstream
  obtain ⟨rest, hfront, -, hagenda⟩ := hf.queue_turn hrun hpop haccepted
  obtain ⟨e, hqueue, he⟩ := hfront (by simp [EventRecord.isFrontend, Event.record, htype])
  have hetype : e.type = .generateRequest := by
    rw [← htype]
    exact (congrArg EventRecord.type he).symm
  have hetarget : event.targetId = e.targetId := congrArg EventRecord.targetId he
  have hetime : event.time = base + e.time := congrArg EventRecord.time he
  -- the new events, seen with the clock of the epoch
  have hnew : effect.events.filter EventRecord.isFrontend =
      ({ time := e.time
         type := .localCacheLookup
         targetId := e.targetId
         requestId := f.nextRequestId } ::
        (Frontend.nextIssue e.targetId stream spec.epochId).toList :
          List EventRecord).map (EventRecord.delay base) := by
    rw [hevents, nextBurst_eq_nextIssue _ hburst hbase, hkey, hetarget, hetime, hf.nextRequestId,
      List.filter_cons_of_pos rfl, List.map_cons, ← Option.toList_map, List.filter_eq_self.mpr]
    · rfl
    · intro e' he'
      obtain ⟨issue, hissue, rfl⟩ := Option.map_eq_some_iff.mp (Option.mem_toList.mp he')
      unfold Frontend.nextIssue at hissue
      split at hissue
      · cases hissue
      · split at hissue
        · rw [← Option.some.inj hissue]
          rfl
        · cases hissue
  have hstreams : f.streams e.targetId = spec :: stream := by
    rw [← hetarget, ← hf.streams, streamIn_of_find hfind, WorkloadCursor.remaining_of_some hup]
  refine ⟨f.afterIssue e rest spec stream, .issue hqueue hetype hstreams, ?_, ?_,
    hf.releasedEpoch, ?_, fun id => ?_, ?_, hf.current⟩
  · show streamIn (s.computeNodes.insert _) = Function.update f.streams e.targetId stream
    rw [streamIn_insert, hf.streams, ← hetarget, ← hkey]
    rfl
  · exact hagenda _ hnew
  · show s.shared.nextRequestId + effect.issued = f.nextRequestId + 1
    rw [hissued, hf.nextRequestId]
  · have htable : ((s.popped scheduler).afterCompute event
        (node.afterIssue .exact s.shared.stats spec event.time) effect).view.requestTable =
          s.shared.requestTable.insert
            (node.requestFor s.shared.nextRequestId spec event.time) := by
      show (s.view.after event.record scheduler.pending effect).requestTable = _
      unfold View.after
      rw [hrequest]
      rfl
    unfold View.tickets
    rw [htable, updates_insert _ _ id]
    show Option.map _ (if id = s.shared.nextRequestId then _ else _) =
      Option.map _ (Function.update f.tickets f.nextRequestId _ id)
    rw [hf.nextRequestId]
    by_cases hid : id = f.nextRequestId
    · rw [if_pos hid, hid, Function.update_self, Option.map_some, Option.map_some]
      unfold Ticket.delay Request.ticket ComputeNode.requestFor
      simp only
      rw [hf.current spec.epochId hreleased, hkey, hetarget, hetime]
    · rw [if_neg hid, Function.update_of_ne hid]
      exact hf.tickets id
  · show ((s.eventLog ++ [event.record]).filter _).map _ = f.arrived
    rw [List.filter_append, List.map_append, hf.arrived, List.filter_cons_of_neg
      (by simp [Event.record, htype])]
    exact List.append_nil f.arrived

/-- A dispatch is a step of the front end, or leaves it alone. -/
theorem Simulator.HasFrontend.dispatch (hf : s.HasFrontend base bases f)
    (hrun : RunInv s phase base) (hmisses : s.NeverHits)
    (hmode : issueModeOf s.config = .scheduledBursty)
    (hpop : s.shared.scheduler.popNext = some (event, scheduler))
    (hdispatched : Dispatched .exact (s.popped scheduler) event s') :
    ∃ f', Relation.ReflTransGen (Frontend.Step s.config) f f' ∧ s'.HasFrontend base bases f' := by
  obtain ⟨phase', hrun'⟩ := hrun.of_dispatched hpop hdispatched
  have haccepted := hrun'.accepted
  cases hdispatched with
  | @compute node node' effect hfind hstep =>
      obtain ⟨hnode, hkey⟩ := hrun.node_of_find hfind
      have hkeeps : ∀ {node₁ : ComputeNode P}, node₁.nodeId = node.nodeId →
          node₁.workload = node.workload →
            streamIn (s.computeNodes.insert node₁) = streamIn s.computeNodes :=
        fun hid hworkload => streamIn_insert_same hfind hid hworkload
      cases hstep with
      | drained htype hup =>
          obtain ⟨-, -, -, -, hold⟩ := hrun.popped_ordered hpop
          obtain ⟨spec, hspec, -⟩ := ComputeNode.due_iff.mp
            (hnode.due_of_generate (hold ▸ Multiset.mem_cons_self _ _) htype hkey.symm)
          cases hup.symm.trans hspec
      | @issue spec htype hup =>
          obtain ⟨f', hstep', hf'⟩ := hf.issue hrun hmode hpop hfind htype hup rfl rfl rfl haccepted
          exact ⟨f', Relation.ReflTransGen.single hstep', hf'⟩
      | @hit request htype hrequest hhit =>
          have hheld := (LocalCache.lookup_hit_iff _ _ _ _).mp hhit
          exact absurd hheld ((hmisses.nodes node (KeyedStore.find_eq_some.mp hfind).1).holds_not _)
      | @miss request htype hrequest hmiss =>
          obtain ⟨rest, hfront, -, hagenda⟩ := hf.queue_turn hrun hpop haccepted
          obtain ⟨e, hqueue, he⟩ :=
            hfront (by simp [EventRecord.isFrontend, Event.record, htype])
          have hetime : event.time = base + e.time := congrArg EventRecord.time he
          have heid : event.requestId = e.requestId := congrArg EventRecord.requestId he
          have hetype : e.type = .localCacheLookup := by
            rw [← htype]
            exact (congrArg EventRecord.type he).symm
          refine ⟨_, Relation.ReflTransGen.single (.lookup hqueue hetype), ?_⟩
          have hqueue' := hagenda
            [{ time := e.time + s.config.oneWayLinkLatency
               type := .forwardToMemory
               targetId := s.config.memoryNodeId
               requestId := e.requestId }] (by
            rw [hnode.memoryNodeId_eq, hnode.linkLatency_eq, hetime, heid]
            show [_] = [_]
            unfold EventRecord.delay
            rw [← Nat.add_assoc]
            rfl)
          apply hf.advance ?_ (by rfl) (by rfl) ?_ (by rfl) ?_ hqueue'
          · exact hkeeps rfl rfl
          · exact tickets_of_write rfl hrequest rfl
          · rw [if_neg (by simp [Event.record, htype]), List.append_nil]
      | hitComplete htype hrequest | returned htype hrequest =>
          exact ⟨f, Relation.ReflTransGen.refl, hf.idle hrun hpop (hkeeps rfl rfl) rfl rfl
            (tickets_of_write rfl hrequest rfl) rfl rfl haccepted
            (by simp [EventRecord.isFrontend, Event.record, htype]) rfl⟩
      | complete htype =>
          have hnone : node.nextOnCompletion (s.popped scheduler).shared.scheduler.now = none := by
            unfold ComputeNode.nextOnCompletion
            rw [hnode.issueMode_eq, hmode]
            split <;> simp
          refine ⟨f, Relation.ReflTransGen.refl, hf.idle hrun hpop (hkeeps rfl rfl) rfl rfl
            (fun id => rfl) rfl rfl haccepted
            (by simp [EventRecord.isFrontend, Event.record, htype]) ?_⟩
          rw [hnone]
          rfl
  | @memory memoryNode effect hfind htarget hstep =>
      cases hstep with
      | forwardIdle htype hrequest | forwardBusy htype hrequest =>
          obtain ⟨rest, hfront, -, hagenda⟩ := hf.queue_turn hrun hpop haccepted
          obtain ⟨e, hqueue, he⟩ :=
            hfront (by simp [EventRecord.isFrontend, Event.record, htype])
          have heid : event.requestId = e.requestId := congrArg EventRecord.requestId he
          have hetype : e.type = .forwardToMemory := by
            rw [← htype]
            exact (congrArg EventRecord.type he).symm
          refine ⟨_, Relation.ReflTransGen.single (.arrive hqueue hetype), ?_⟩
          apply hf.advance (by rfl) (by rfl) (by rfl) ?_ (by rfl) ?_ (hagenda [] rfl)
          · exact tickets_of_write rfl hrequest rfl
          rw [if_pos (show event.record.type = .forwardToMemory from htype),
            show event.record.requestId = e.requestId from heid]
      | start htype hrequest =>
          exact ⟨f, Relation.ReflTransGen.refl, hf.idle hrun hpop rfl rfl rfl
            (tickets_of_write rfl hrequest rfl) rfl rfl haccepted
            (by simp [EventRecord.isFrontend, Event.record, htype]) rfl⟩
      | completeIdle htype | completeNext htype =>
          exact ⟨f, Relation.ReflTransGen.refl, hf.idle hrun hpop rfl rfl rfl
            (fun id => rfl) rfl rfl haccepted
            (by simp [EventRecord.isFrontend, Event.record, htype]) rfl⟩

theorem releaseEvent_eq_nextIssue (s : Simulator P) (epoch : EpochId) (now : SimTime)
    (nodeConfig : ComputeNodeConfig) :
    s.releaseEvent .exact epoch now nodeConfig =
      (Frontend.nextIssue nodeConfig.nodeId (streamIn s.computeNodes nodeConfig.nodeId)
        epoch).map (EventRecord.delay now) := by
  unfold Simulator.releaseEvent Frontend.nextIssue streamIn ComputeNode.nextRequestEpoch
  cases s.computeNodes.find nodeConfig.nodeId with
  | none => rfl
  | some node =>
      cases hup : node.workload.upcoming with
      | none => simp [WorkloadCursor.remaining_of_none hup, hup]
      | some spec =>
          simp only [WorkloadCursor.remaining_of_some hup, hup, Option.map_some, Option.some.injEq,
            ComputeNode.nextRequestIssueOffset_eq hup]
          split <;> rfl

/-- The nodes wait for the epochs their streams wait for. -/
theorem Simulator.HasFrontend.awaits_iff (hf : s.HasFrontend base bases f) (epoch : EpochId) :
    s.Awaited s.computeNodes.items epoch ↔ f.Awaits epoch := by
  unfold Simulator.Awaited Frontend.Awaits Simulator.Unreleased
  rw [← hf.streams, ← hf.releasedEpoch]
  constructor
  · rintro ⟨node, hmem, hepoch, hunreleased⟩
    refine ⟨⟨node.nodeId, ?_⟩, hunreleased⟩
    rw [streamIn_of_find (KeyedStore.find_eq_some.mpr ⟨hmem, rfl⟩)]
    unfold ComputeNode.nextRequestEpoch at hepoch
    obtain ⟨spec, hup, heq⟩ := Option.map_eq_some_iff.mp hepoch
    exact ⟨spec, _, WorkloadCursor.remaining_of_some hup, heq⟩
  · rintro ⟨⟨nodeId, spec, rest, hstream, heq⟩, hunreleased⟩
    cases hfind : s.computeNodes.find nodeId with
    | none =>
        unfold streamIn at hstream
        rw [hfind] at hstream
        cases hstream
    | some node =>
        rw [streamIn_of_find hfind] at hstream
        refine ⟨node, (KeyedStore.find_eq_some.mp hfind).1, ?_, hunreleased⟩
        cases hup : node.workload.upcoming with
        | none => cases (WorkloadCursor.remaining_of_none hup).symm.trans hstream
        | some spec' =>
            obtain ⟨rfl, -⟩ :=
              List.cons.inj ((WorkloadCursor.remaining_of_some hup).symm.trans hstream)
            rw [← heq]
            exact RunInv.nextRequestEpoch_of_upcoming hup

/-- The release of an epoch is a step of the front end, whose clock it sets back. -/
theorem Simulator.HasFrontend.release (hf : s.HasFrontend base bases f)
    (hrun : RunInv s phase base) (hnil : s.view.pending = 0) {epoch : EpochId}
    (hnext : s.nextUnreleasedEpoch = some epoch) :
    ∃ f', Frontend.Step s.config f f' ∧
      (s.afterRelease .exact epoch).HasFrontend s.shared.scheduler.currentTime
        (Function.update bases epoch s.shared.scheduler.currentTime) f' := by
  have hleast := s.nextUnreleasedEpoch_spec
  rw [hnext] at hleast
  have hunreleased := (hleast.mem epoch rfl).choose_spec.2.2
  obtain ⟨hrun', -⟩ := hrun.afterRelease hnil hnext
  have hagenda : s.shared.scheduler.agenda = [] := Scheduler.agenda_eq_nil.mpr hnil
  have hqueue : f.queue = [] := by
    have hfilter := hf.queue
    rw [hagenda] at hfilter
    exact List.map_eq_nil_iff.mp hfilter.symm
  have hawaits : Simulator.LeastEpoch f.Awaits (some epoch) := by
    refine ⟨fun first hfirst => (hf.awaits_iff first).mp (hleast.mem first hfirst), ?_⟩
    exact fun other hother => hleast.le other ((hf.awaits_iff other).mpr hother)
  refine ⟨_, .release hqueue hawaits, hf.streams, ?_, rfl, hf.nextRequestId, fun id => ?_,
    hf.arrived, ?_⟩
  · have haccepted : (s.shared.scheduler.scheduleAll (s.config.computeNodes.filterMap
        (s.releaseEvent .exact epoch s.shared.scheduler.currentTime))).refused = [] :=
      hrun'.accepted
    show (s.shared.scheduler.scheduleAll _).agenda.filter _ = _
    rw [hrun.ordered.agenda_scheduleAll haccepted,
      TimedQueue.filter_enqueueAll _ _ hrun.ordered.agenda_inOrder, hagenda,
      List.filter_eq_self.mpr,
      funext (releaseEvent_eq_nextIssue s epoch s.shared.scheduler.currentTime), hf.streams,
      TimedQueue.map_enqueueAll (EventRecord.delay_lt_iff s.shared.scheduler.currentTime),
      List.map_filterMap]
    · rfl
    · intro e he
      obtain ⟨nodeConfig, -, hevent⟩ := List.mem_filterMap.mp he
      simp [EventRecord.isFrontend, (RunInv.releaseEvent_spec hevent).2.1]
  · show s.view.tickets id = _
    rw [hf.tickets id]
    cases hticket : f.tickets id with
    | none => rfl
    | some t =>
        -- the requests issued so far are of earlier epochs
        have ht : s.view.tickets id = some (t.delay bases) := by
          rw [hf.tickets id, hticket]
          rfl
        obtain ⟨released, hreleased, hle, -⟩ := hrun.barrier id _ ht
        have hlt : t.epochId < epoch := Nat.lt_of_le_of_lt hle (hunreleased released hreleased)
        show some (t.delay bases) = some (t.delay _)
        unfold Ticket.delay
        rw [Function.update_of_ne (Nat.ne_of_lt hlt)]
  · intro released hreleased
    obtain rfl : epoch = released := Option.some.inj hreleased
    exact Function.update_self _ _ _

end Turn

end DmSimulator
