/-
  DmSimulator.Runs.UnderWay

  The requests under way, in either reading of the arithmetic.

  A request is under way from its lookup to its answer: an event carries it or it
  waits in the queue of a channel.  An event that was refused goes on carrying its
  request, so that a node has as many requests under way as it counts outstanding
  ones and the epoch barrier stays closed for all of them: a node is in the epoch
  of every request that it has under way.
-/
import DmSimulator.Runs.Drain
import DmSimulator.Runs.Completion

namespace DmSimulator

-- ============================================================================
-- What carries a request
-- ============================================================================

/-- The events that carry a request which has not been answered. -/
def EventType.carries (type : EventType) : Bool := type = .localCacheLookup || type.delayed

/-- The events of a request that a compute node handles before the answer or with it. -/
def EventType.atSource : EventType → Bool
  | .localCacheLookup | .localCacheHitComplete | .returnResponse => true
  | _ => false

/-- The events that answer a request. -/
def EventType.answers : EventType → Bool
  | .localCacheHitComplete | .returnResponse => true
  | _ => false

/-- The requests that a collection of events carries. -/
def carried (events : Multiset EventRecord) : Multiset RequestId :=
  (events.filter fun e => e.type.carries).map EventRecord.requestId

theorem carried_add (events more : Multiset EventRecord) :
    carried (events + more) = carried events + carried more := by
  rw [carried, Multiset.filter_add, Multiset.map_add]
  rfl

theorem carried_cons_of_carries {e : EventRecord} (h : e.type.carries = true)
    (events : Multiset EventRecord) : carried (e ::ₘ events) = e.requestId ::ₘ carried events := by
  unfold carried
  rw [Multiset.filter_cons_of_pos events h, Multiset.map_cons]

theorem carried_cons_of_not {e : EventRecord} (h : e.type.carries = false)
    (events : Multiset EventRecord) : carried (e ::ₘ events) = carried events := by
  have hnot : ¬ e.type.carries = true := by
    rw [h]
    exact Bool.false_ne_true
  unfold carried
  rw [Multiset.filter_cons_of_neg events hnot]

theorem carried_generates {records : List EventRecord}
    (h : ∀ e ∈ records, e.type = .generateRequest) : carried (records : Multiset EventRecord) = 0 := by
  rw [carried, Multiset.filter_eq_nil.mpr, Multiset.map_zero]
  intro e he
  rw [h e (Multiset.mem_coe.mp he)]
  exact Bool.false_ne_true

/-- The requests in the queues of the channels. -/
def MemoryNode.waiting (m : MemoryNode) : Multiset RequestId :=
  (m.channels.map fun channel => (channel.queuedRequests : Multiset RequestId)).sum

theorem MemoryNode.waiting_setChannel {m : MemoryNode} {c : MemoryChannelId}
    {channel : ChannelState} (h : m.channels[c]? = some channel) (channel' : ChannelState) :
    (m.setChannel c channel').waiting + channel.queuedRequests =
      m.waiting + channel'.queuedRequests :=
  sum_map_set (fun channel : ChannelState => (channel.queuedRequests : Multiset RequestId)) h
    channel'

/-- The request that an event answers. -/
def Event.answered (event : Event) : Multiset RequestId :=
  if event.type.answers then {event.requestId} else 0

/-- The ids of the requests that an effect issues. -/
def Effect.issuedIds (effect : Effect) (sh : Shared) : Multiset RequestId :=
  if effect.issued = 0 then 0 else {sh.nextRequestId}

-- ============================================================================
-- One event
-- ============================================================================

theorem ComputeNode.ComputeStep.carried {P : CachePolicy} {A : Arith} {node node' : ComputeNode P}
    {event : Event} {sh : Shared} {effect : Effect} (h : ComputeStep A node event sh node' effect) :
    DmSimulator.carried effect.events + event.answered =
      DmSimulator.carried {event.record} + effect.issuedIds sh := by
  have hevent : event.type.carries = true →
      DmSimulator.carried {event.record} = {event.requestId} := fun hcarries =>
    carried_cons_of_carries (e := event.record) hcarries 0
  have hnone : event.type.carries = false → DmSimulator.carried {event.record} = 0 :=
    fun hcarries => carried_cons_of_not (e := event.record) hcarries 0
  unfold Event.answered
  cases h with
  | drained htype =>
      rw [hnone (by rw [htype]; rfl), htype]
      rfl
  | issue htype =>
      rw [hnone (by rw [htype]; rfl), htype, Multiset.zero_add, ← Multiset.cons_coe,
        carried_cons_of_carries rfl, carried_generates fun e he => (mem_nextBurst he).1]
      rfl
  | hit htype | miss htype | hitComplete htype | returned htype =>
      rw [hevent (by rw [htype]; rfl), htype]
      rfl
  | complete htype =>
      rw [hnone (by rw [htype]; rfl), htype,
        carried_generates fun e he => (mem_nextOnCompletion he).1]
      rfl

theorem MemoryNode.MemoryStep.carried {A : Arith} {m m' : MemoryNode} {event : Event} {sh : Shared}
    {effect : Effect} (h : MemoryStep A m event sh m' effect) :
    DmSimulator.carried effect.events + m'.waiting =
      DmSimulator.carried {event.record} + m.waiting := by
  have hevent : event.type.carries = true →
      DmSimulator.carried {event.record} = {event.requestId} := fun hcarries =>
    carried_cons_of_carries (e := event.record) hcarries 0
  have hnone : event.type.carries = false → DmSimulator.carried {event.record} = 0 :=
    fun hcarries => carried_cons_of_not (e := event.record) hcarries 0
  -- a request that joins the queue is carried no longer
  have hjoin : ∀ {c : MemoryChannelId} {channel channel' : ChannelState},
      m.channels[c]? = some channel →
      channel'.queuedRequests = channel.queuedRequests ++ [event.requestId] →
        (m.setChannel c channel').waiting = {event.requestId} + m.waiting := by
    intro c channel channel' hchannel hqueue
    have hset := waiting_setChannel hchannel channel'
    rw [hqueue, ← Multiset.coe_add, ← add_assoc, add_right_comm, add_left_inj] at hset
    rw [hset, add_comm]
    rfl
  cases h with
  | forwardIdle htype _ hchannel =>
      rw [hevent (by rw [htype]; rfl), hjoin hchannel rfl]
      exact zero_add _
  | forwardBusy htype _ hchannel =>
      rw [hevent (by rw [htype]; rfl), hjoin hchannel rfl]
      exact zero_add _
  | @start request channel rest htype hrequest hchannel hqueue =>
      have hset := waiting_setChannel hchannel
        { queuedRequests := rest
          serviceStartScheduled := false
          serviceInProgress := true }
      rw [hqueue, ← Multiset.cons_coe, Multiset.add_cons, ← Multiset.cons_add, add_left_inj] at hset
      rw [hnone (by rw [htype]; rfl), Multiset.zero_add, ← hset,
        show request.requestId = event.requestId from KeyedStore.key_of_find hrequest]
      rfl
  | @completeIdle request channel htype hrequest hchannel hprogress hqueue =>
      have hset := waiting_setChannel hchannel
        { queuedRequests := []
          serviceInProgress := false
          serviceStartScheduled := channel.serviceStartScheduled }
      rw [hqueue, add_left_inj] at hset
      rw [hevent (by rw [htype]; rfl), hset,
        show request.requestId = event.requestId from KeyedStore.key_of_find hrequest]
      rfl
  | @completeNext request channel next rest htype hrequest hchannel hprogress hqueue =>
      have hset := waiting_setChannel hchannel
        { queuedRequests := next :: rest
          serviceInProgress := false
          serviceStartScheduled := true }
      rw [hqueue, add_left_inj] at hset
      rw [hevent (by rw [htype]; rfl), hset,
        show request.requestId = event.requestId from KeyedStore.key_of_find hrequest]
      rfl

/-- Scheduling adds no more than the records. -/
theorem Scheduler.scheduleAll_pending_le (s : Scheduler) (records : List EventRecord) :
    (s.scheduleAll records).pending ≤ (records : Multiset EventRecord) + s.pending := by
  induction records generalizing s with
  | nil => exact le_of_eq (Multiset.zero_add _).symm
  | cons record rest ih =>
      have hone : (s.schedule record.event).1.pending ≤ record ::ₘ s.pending := by
        by_cases h : s.currentTime ≤ record.time
        · rw [schedule_pending h]
        · rw [show s.schedule record.event = ({ s with refused := s.refused ++ [record.event] }, false)
            from if_pos (Nat.lt_of_not_le h)]
          exact Multiset.le_cons_self _ _
      rw [scheduleAll_cons]
      refine (ih _).trans ?_
      rw [← Multiset.cons_coe, Multiset.cons_add, ← Multiset.add_cons]
      exact Multiset.add_le_add_left hone

namespace Simulator

variable {P : CachePolicy} {A : Arith} {s s' : Simulator P} {event : Event} {scheduler : Scheduler}
  {effect : Effect}

-- ============================================================================
-- Tickets
-- ============================================================================

/-- The node that issued a request. -/
def sourceOf (s : Simulator P) (id : RequestId) : Option NodeId :=
  (s.view.tickets id).map Ticket.sourceNodeId

/-- Tickets are kept. -/
theorem Drains.ticket (h : s.Drains) (hwrites : effect.Writes s.shared)
    (hshared : s'.shared = (s.popped scheduler).shared.apply effect) {id : RequestId} {t : Ticket}
    (ht : s.view.tickets id = some t) : s'.view.tickets id = some t := by
  obtain ⟨request, hfind, hticket⟩ := Option.map_eq_some_iff.mp ht
  obtain ⟨request', hfind', hsame⟩ := hwrites.ticket h.fresh hfind
  show (s'.shared.requestTable.find id).map Request.ticket = some t
  rw [hshared]
  exact Option.map_eq_some_iff.mpr ⟨request', hfind', hsame.trans hticket⟩

/-- A request that has been issued is not the next one. -/
theorem Drains.ne_next (h : s.Drains) {id : RequestId} {ticket : Ticket}
    (hticket : s.view.tickets id = some ticket) : id ≠ s.shared.nextRequestId := by
  rintro rfl
  obtain ⟨request, hfind, -⟩ := Option.map_eq_some_iff.mp hticket
  exact Option.some_ne_none request (hfind.symm.trans (h.fresh _ (le_refl _)))

-- ============================================================================
-- Requests under way
-- ============================================================================

/-- The requests that an event carries, refused or not, and those in the queues. -/
def underWay (s : Simulator P) : Multiset RequestId :=
  carried s.shared.scheduler.raised + s.memoryNode.waiting

/-- The request of an event that carries one is under way. -/
theorem mem_underWay {e : EventRecord} (he : e ∈ s.shared.scheduler.raised)
    (hcarries : e.type.carries = true) : e.requestId ∈ s.underWay :=
  Multiset.mem_add.mpr (Or.inl (Multiset.mem_map_of_mem EventRecord.requestId
    (Multiset.mem_filter.mpr ⟨he, hcarries⟩)))

/-- The requests of a node that are under way. -/
def underWayOf (s : Simulator P) (nodeId : NodeId) : Nat :=
  s.underWay.countP fun id => s.sourceOf id = some nodeId

theorem raised_popped (hpop : s.shared.scheduler.popNext = some (event, scheduler))
    (effect : Effect) :
    carried s.shared.scheduler.raised = carried {event.record} + carried scheduler.raised ∧
      carried ((s.popped scheduler).shared.apply effect).scheduler.raised =
        carried effect.events + carried scheduler.raised := by
  refine ⟨?_, ?_⟩
  · rw [Scheduler.popNext_raised hpop, ← carried_add]
    rfl
  · show carried (scheduler.scheduleAll effect.events).raised = _
    rw [Scheduler.scheduleAll_raised, carried_add]

/-- An event of a compute node adds the requests it issues and takes away the one it answers. -/
theorem underWay_afterCompute (hpop : s.shared.scheduler.popNext = some (event, scheduler))
    {node node' : ComputeNode P}
    (hstep : ComputeNode.ComputeStep A node event (s.popped scheduler).shared node' effect) :
    ((s.popped scheduler).afterCompute event node' effect).underWay + event.answered =
      s.underWay + effect.issuedIds s.shared := by
  obtain ⟨hraised, hraised'⟩ := raised_popped hpop effect
  have hcarried : carried effect.events + event.answered =
    carried {event.record} + effect.issuedIds s.shared := hstep.carried
  show carried ((s.popped scheduler).shared.apply effect).scheduler.raised +
    s.memoryNode.waiting + _ = carried s.shared.scheduler.raised + s.memoryNode.waiting + _
  rw [hraised, hraised']
  calc carried effect.events + carried scheduler.raised + s.memoryNode.waiting + event.answered
    _ = carried effect.events + event.answered +
        (carried scheduler.raised + s.memoryNode.waiting) := by ac_rfl
    _ = carried {event.record} + effect.issuedIds s.shared +
        (carried scheduler.raised + s.memoryNode.waiting) := by rw [hcarried]
    _ = _ := by ac_rfl

/-- The memory node passes the requests on. -/
theorem underWay_afterMemory (hpop : s.shared.scheduler.popNext = some (event, scheduler))
    {memoryNode : MemoryNode}
    (hstep : MemoryNode.MemoryStep A s.memoryNode event (s.popped scheduler).shared memoryNode
      effect) :
    ((s.popped scheduler).afterMemory event memoryNode effect).underWay = s.underWay := by
  obtain ⟨hraised, hraised'⟩ := raised_popped hpop effect
  have hcarried : carried effect.events + memoryNode.waiting =
    carried {event.record} + s.memoryNode.waiting := hstep.carried
  show carried ((s.popped scheduler).shared.apply effect).scheduler.raised + memoryNode.waiting =
    carried s.shared.scheduler.raised + s.memoryNode.waiting
  rw [hraised, hraised', add_right_comm, hcarried, add_right_comm]

-- ============================================================================
-- The pace of the nodes
-- ============================================================================

/-- The number of `GenerateRequest` events that are pending for a node. -/
def generatesOf (s : Simulator P) (nodeId : NodeId) : Nat :=
  (generatesFor s.view.pending nodeId).card

def completionsOf (s : Simulator P) (nodeId : NodeId) : Nat :=
  (completionsFor s.view.pending nodeId).card

/-- A node issues its requests in the order of their epochs, and enters an epoch only when
    it has no request under way. -/
structure NodePace (s : Simulator P) (node : ComputeNode P) : Prop where
  sorted : (node.workload.requests.map RequestSpec.epochId).Pairwise (· ≤ ·)
  ahead : ∀ spec ∈ node.workload.requests.drop node.workload.nextIndex,
    ∀ current, node.currentEpoch = some current → current ≤ spec.epochId
  outstanding : node.outstandingRequests = s.underWayOf node.nodeId
  generates : s.generatesOf node.nodeId ≤ 1
  load : node.issueMode ≠ .scheduledBursty →
    s.generatesOf node.nodeId + s.completionsOf node.nodeId + node.outstandingRequests ≤ 1
  due : 0 < s.generatesOf node.nodeId → ∀ spec, node.workload.upcoming = some spec →
    node.currentEpoch = some spec.epochId ∨ node.outstandingRequests = 0

/-- Every node is in the epoch of the requests that it has under way. -/
structure Paced (s : Simulator P) : Prop where
  drains : s.Drains
  nodeIds : (s.config.computeNodes.map ComputeNodeConfig.nodeId).Nodup
  known : ∀ id ∈ s.underWay, ∃ t, s.view.tickets id = some t
  targets : ∀ e ∈ s.shared.scheduler.raised, e.type.atSource = true →
    ∃ t, s.view.tickets e.requestId = some t ∧ t.sourceNodeId = e.targetId
  inEpoch : ∀ id ∈ s.underWay, ∀ t, s.view.tickets id = some t →
    ∀ node, s.computeNodes.find t.sourceNodeId = some node → node.currentEpoch = some t.epochId
  nodes : ∀ node ∈ s.computeNodes.items, s.NodePace node

/-- A node that has not changed, with nothing more going on. -/
theorem NodePace.frame {node node' : ComputeNode P} (h : s.NodePace node)
    (hid : node'.nodeId = node.nodeId) (hworkload : node'.workload = node.workload)
    (hmode : node'.issueMode = node.issueMode) (hcurrent : node'.currentEpoch = node.currentEpoch)
    (houtstanding : node'.outstandingRequests = node.outstandingRequests)
    (hunder : s'.underWayOf node.nodeId = s.underWayOf node.nodeId)
    (hgenerates : s'.generatesOf node.nodeId ≤ s.generatesOf node.nodeId)
    (hcompletions : s'.completionsOf node.nodeId ≤ s.completionsOf node.nodeId) :
    s'.NodePace node' := by
  refine ⟨?_, ?_, ?_, ?_, ?_, ?_⟩
  · rw [hworkload]
    exact h.sorted
  · rw [hworkload, hcurrent]
    exact h.ahead
  · rw [houtstanding, hid, hunder]
    exact h.outstanding
  · rw [hid]
    exact hgenerates.trans h.generates
  · rw [hmode, hid, houtstanding]
    intro hdriven
    have hload := h.load hdriven
    omega
  · rw [hid, hworkload, hcurrent, houtstanding]
    exact fun hpos => h.due (Nat.lt_of_lt_of_le hpos hgenerates)

/-- Which of the pending events are for a node, before and after an event. -/
theorem pendingOf_step (hpop : s.shared.scheduler.popNext = some (event, scheduler))
    (t : Simulator P) (hshared : t.shared = (s.popped scheduler).shared.apply effect)
    (nodeId : NodeId) :
    t.generatesOf nodeId + (generatesFor {event.record} nodeId).card ≤
        s.generatesOf nodeId + (generatesFor effect.events nodeId).card ∧
      t.completionsOf nodeId + (completionsFor {event.record} nodeId).card ≤
        s.completionsOf nodeId + (completionsFor effect.events nodeId).card := by
  have hpending : s.view.pending = {event.record} + scheduler.pending :=
    (Scheduler.popNext_eq_some hpop).1
  have hpending' : t.view.pending ≤ (effect.events : Multiset EventRecord) + scheduler.pending := by
    show t.shared.scheduler.pending ≤ _
    rw [hshared]
    exact Scheduler.scheduleAll_pending_le scheduler effect.events
  have hcard : ∀ (q : EventRecord → Prop) [DecidablePred q],
      (t.view.pending.filter q).card + (Multiset.filter q {event.record}).card ≤
        (s.view.pending.filter q).card +
          (Multiset.filter q (effect.events : Multiset EventRecord)).card := by
    intro q _
    have hle := Multiset.card_le_card (Multiset.filter_le_filter q hpending')
    rw [Multiset.filter_add, Multiset.card_add] at hle
    rw [hpending, Multiset.filter_add, Multiset.card_add]
    omega
  exact ⟨hcard _, hcard _⟩

-- ============================================================================
-- An event of a compute node
-- ============================================================================

/-- Only an issue takes a request id, and the new request has its node as source. -/
theorem ticket_of_issued {node node' : ComputeNode P}
    (hstep : ComputeNode.ComputeStep A node event (s.popped scheduler).shared node' effect)
    (hissued : effect.issued ≠ 0) :
    ∃ spec t, event.type = .generateRequest ∧ node.workload.upcoming = some spec ∧
      node' = node.afterIssue A s.shared.stats spec event.time ∧
        ((s.popped scheduler).afterCompute event node' effect).view.tickets
          s.shared.nextRequestId = some t ∧ t.sourceNodeId = node.nodeId ∧
            t.epochId = spec.epochId := by
  cases hstep with
  | @issue spec htype hup =>
      exact ⟨spec, (node.requestFor s.shared.nextRequestId spec event.time).ticket, htype, hup, rfl,
        congrArg (Option.map Request.ticket) (KeyedStore.find_insert_self _ _), rfl, rfl⟩
  | drained | hit | miss | hitComplete | returned | complete => exact absurd rfl hissued

section Compute

variable {node node' : ComputeNode P}

/-- The requests of each node that are under way after an event of a compute node. -/
theorem Paced.underWayOf_afterCompute (h : s.Paced)
    (hpop : s.shared.scheduler.popNext = some (event, scheduler))
    (hfind : s.computeNodes.find event.targetId = some node)
    (hstep : ComputeNode.ComputeStep A node event (s.popped scheduler).shared node' effect)
    (nodeId : NodeId) :
    ((s.popped scheduler).afterCompute event node' effect).underWayOf nodeId +
        (if event.type.answers ∧ event.targetId = nodeId then 1 else 0) =
      s.underWayOf nodeId + if effect.issued ≠ 0 ∧ event.targetId = nodeId then 1 else 0 := by
  have hticket : ∀ {id : RequestId} {t : Ticket}, s.view.tickets id = some t →
      ((s.popped scheduler).afterCompute event node' effect).view.tickets id = some t :=
    fun ht => h.drains.ticket hstep.writes rfl ht
  have hkey : node.nodeId = event.targetId := KeyedStore.key_of_find hfind
  have hsource : effect.issued ≠ 0 → ((s.popped scheduler).afterCompute event node'
      effect).sourceOf s.shared.nextRequestId = some event.targetId := by
    intro hissued
    obtain ⟨spec, t, -, -, -, ht, hsource, -⟩ := ticket_of_issued hstep hissued
    rw [sourceOf, ht, Option.map_some, hsource, hkey]
  have hunder := underWay_afterCompute hpop hstep
  generalize (s.popped scheduler).afterCompute event node' effect = s' at hticket hsource hunder
  have hcount := congrArg (Multiset.countP fun id => s'.sourceOf id = some nodeId) hunder
  rw [Multiset.countP_add, Multiset.countP_add] at hcount
  have hold : s.underWay.countP (fun id => s'.sourceOf id = some nodeId) =
      s.underWayOf nodeId := by
    refine Multiset.countP_congr rfl fun id hid => ?_
    obtain ⟨t, ht⟩ := h.known id hid
    unfold sourceOf
    rw [ht, hticket ht]
  have hanswered : event.answered.countP (fun id => s'.sourceOf id = some nodeId) =
      if event.type.answers ∧ event.targetId = nodeId then 1 else 0 := by
    unfold Event.answered
    by_cases hanswers : event.type.answers = true
    · have hraised : event.record ∈ s.shared.scheduler.raised := by
        rw [Scheduler.popNext_raised hpop]
        exact Multiset.mem_cons_self _ _
      obtain ⟨t, ht, htarget⟩ := h.targets event.record hraised (by
        show event.type.atSource = true
        cases htype : event.type <;> rw [htype] at hanswers <;>
          first | rfl | exact absurd hanswers Bool.false_ne_true)
      have ht' : s'.view.tickets event.requestId = some t := hticket ht
      have hid : s'.sourceOf event.requestId = some event.targetId := by
        rw [sourceOf, ht', Option.map_some, htarget]
        rfl
      rw [if_pos hanswers, ← Multiset.cons_zero, Multiset.countP_cons, Multiset.countP_zero, hid]
      simp [hanswers]
    · simp [hanswers]
  have hissued : (effect.issuedIds s.shared).countP (fun id => s'.sourceOf id = some nodeId) =
      if effect.issued ≠ 0 ∧ event.targetId = nodeId then 1 else 0 := by
    unfold Effect.issuedIds
    by_cases hzero : effect.issued = 0
    · simp [hzero]
    · rw [if_neg hzero, ← Multiset.cons_zero, Multiset.countP_cons, Multiset.countP_zero,
        hsource hzero]
      simp [hzero]
  rw [hold, hanswered, hissued] at hcount
  exact hcount

/-- The events that a node schedules for itself. -/
theorem scheduled_target
    (hstep : ComputeNode.ComputeStep A node event (s.popped scheduler).shared node' effect)
    {e : EventRecord} (he : e ∈ effect.events)
    (htype : e.type = .generateRequest ∨ e.type = .requestComplete) :
    e.targetId = node.nodeId := by
  cases hstep with
  | drained => cases he
  | issue =>
      rcases List.mem_cons.mp he with rfl | hburst
      · rfl
      · exact (ComputeNode.mem_nextBurst hburst).2.1
  | hit | hitComplete | returned => rw [List.mem_singleton.mp he]
  | miss =>
      rw [List.mem_singleton.mp he] at htype
      rcases htype with heq | heq <;> cases heq
  | complete => exact (ComputeNode.mem_nextOnCompletion he).2.1

/-- A node that does not handle the event keeps its pace. -/
theorem Paced.pace_other (h : s.Paced)
    (hpop : s.shared.scheduler.popNext = some (event, scheduler))
    (hfind : s.computeNodes.find event.targetId = some node)
    (hstep : ComputeNode.ComputeStep A node event (s.popped scheduler).shared node' effect)
    {other : ComputeNode P} (hother : other ∈ s.computeNodes.items)
    (hne : other.nodeId ≠ event.targetId) :
    ((s.popped scheduler).afterCompute event node' effect).NodePace other := by
  have hkey : node.nodeId = event.targetId := KeyedStore.key_of_find hfind
  have hunder := h.underWayOf_afterCompute hpop hfind hstep other.nodeId
  rw [if_neg fun hboth => hne hboth.2.symm, if_neg fun hboth => hne hboth.2.symm] at hunder
  obtain ⟨hgenerates, hcompletions⟩ := pendingOf_step hpop
    ((s.popped scheduler).afterCompute event node' effect) rfl other.nodeId
  have hnone : generatesFor effect.events other.nodeId = 0 ∧
      completionsFor effect.events other.nodeId = 0 := by
    refine ⟨Multiset.filter_eq_nil.mpr fun e he hboth => ?_,
      Multiset.filter_eq_nil.mpr fun e he hboth => ?_⟩
    · have htarget := scheduled_target hstep (Multiset.mem_coe.mp he) (Or.inl hboth.1)
      exact hne (hboth.2.symm.trans (htarget.trans hkey))
    · have htarget := scheduled_target hstep (Multiset.mem_coe.mp he) (Or.inr hboth.1)
      exact hne (hboth.2.symm.trans (htarget.trans hkey))
  rw [hnone.1] at hgenerates
  rw [hnone.2] at hcompletions
  exact (h.nodes other hother).frame rfl rfl rfl rfl rfl hunder
    (le_trans (Nat.le_add_right _ _) hgenerates) (le_trans (Nat.le_add_right _ _) hcompletions)

/-- A node that has answered a request, and has a completion event more at most. -/
theorem NodePace.answered (h : s.NodePace node) (hid : node'.nodeId = node.nodeId)
    (hworkload : node'.workload = node.workload) (hmode : node'.issueMode = node.issueMode)
    (hcurrent : node'.currentEpoch = node.currentEpoch) (hpos : node.outstandingRequests ≠ 0)
    (houtstanding : node'.outstandingRequests = node.outstandingRequests - 1)
    (hunder : s'.underWayOf node.nodeId + 1 = s.underWayOf node.nodeId)
    (hgenerates : s'.generatesOf node.nodeId ≤ s.generatesOf node.nodeId)
    (hcompletions : s'.completionsOf node.nodeId ≤ s.completionsOf node.nodeId + 1) :
    s'.NodePace node' := by
  refine ⟨?_, ?_, ?_, ?_, ?_, ?_⟩
  · rw [hworkload]
    exact h.sorted
  · rw [hworkload, hcurrent]
    exact h.ahead
  · rw [houtstanding, hid, h.outstanding, ← hunder, Nat.add_sub_cancel]
  · rw [hid]
    exact hgenerates.trans h.generates
  · rw [hmode, hid, houtstanding]
    intro hdriven
    have hload := h.load hdriven
    omega
  · rw [hid, hworkload, hcurrent]
    intro hgenerate spec hup
    exact Or.inl ((h.due (Nat.lt_of_lt_of_le hgenerate hgenerates) spec hup).resolve_right hpos)

/-- A node that has issued a request. -/
theorem NodePace.issued (h : s.NodePace node) {spec : RequestSpec} {stats : Stats} {time : SimTime}
    {lookup : EventRecord} (hlookup : lookup.type = .localCacheLookup)
    (hup : node.workload.upcoming = some spec)
    (hunder : s'.underWayOf node.nodeId = s.underWayOf node.nodeId + 1)
    (hgenerates : s'.generatesOf node.nodeId + 1 ≤ s.generatesOf node.nodeId +
      (generatesFor (lookup :: ((node.afterIssue A stats spec time).nextBurst A).toList :
        List EventRecord) node.nodeId).card)
    (hcompletions : s'.completionsOf node.nodeId ≤ s.completionsOf node.nodeId) :
    s'.NodePace (node.afterIssue A stats spec time) := by
  -- the generate events among the new ones are those of the burst
  have hburst : ∀ e ∈ generatesFor (lookup :: ((node.afterIssue A stats spec time).nextBurst
      A).toList : List EventRecord) node.nodeId,
        e ∈ ((node.afterIssue A stats spec time).nextBurst A).toList := by
    intro e he
    obtain ⟨hin, hgenerate, -⟩ := Multiset.mem_filter.mp he
    rcases List.mem_cons.mp (Multiset.mem_coe.mp hin) with rfl | hin
    · exact absurd (hlookup.symm.trans hgenerate) (by decide)
    · exact hin
  have hone : (generatesFor (lookup :: ((node.afterIssue A stats spec time).nextBurst A).toList :
      List EventRecord) node.nodeId).card ≤ 1 := by
    rw [← Multiset.cons_coe, generatesFor_cons_of_type (by rw [hlookup]; decide)]
    refine (Multiset.card_le_card (Multiset.filter_le _ _)).trans ?_
    cases (node.afterIssue A stats spec time).nextBurst A <;> simp
  have hdrop : node.workload.requests.drop node.workload.nextIndex =
      spec :: node.workload.requests.drop (node.workload.nextIndex + 1) := by
    have hget : node.workload.requests[node.workload.nextIndex]? = some spec := hup
    rw [List.drop_eq_getElem?_toList_append, hget]
    rfl
  have hle := h.generates
  refine ⟨h.sorted, ?_, ?_, ?_, ?_, ?_⟩
  · have hsorted := h.sorted
    rw [List.pairwise_map] at hsorted
    have hrest := hsorted.sublist (List.drop_sublist node.workload.nextIndex _)
    rw [hdrop] at hrest
    intro later hlater current hcurrent
    obtain rfl : spec.epochId = current := Option.some.inj hcurrent
    exact (List.pairwise_cons.mp hrest).1 later hlater
  · show node.outstandingRequests + 1 = s'.underWayOf node.nodeId
    rw [hunder, h.outstanding]
  · show s'.generatesOf node.nodeId ≤ 1
    omega
  · intro hdriven
    have hload := h.load hdriven
    have hzero : (generatesFor (lookup :: ((node.afterIssue A stats spec time).nextBurst A).toList :
        List EventRecord) node.nodeId).card = 0 := by
      rw [Multiset.card_eq_zero, Multiset.eq_zero_iff_forall_notMem]
      intro e he
      obtain ⟨-, -, -, hmode, -⟩ := ComputeNode.mem_nextBurst (hburst e he)
      exact hdriven hmode
    show s'.generatesOf node.nodeId + s'.completionsOf node.nodeId +
      (node.outstandingRequests + 1) ≤ 1
    omega
  · intro hpos later hlater
    have hpos' : 0 < s'.generatesOf node.nodeId := hpos
    obtain ⟨e, he⟩ := Multiset.card_pos_iff_exists_mem.mp (show 0 < (generatesFor (lookup ::
      ((node.afterIssue A stats spec time).nextBurst A).toList : List EventRecord)
        node.nodeId).card by omega)
    obtain ⟨-, -, -, -, spec', hup', hcurrent⟩ := ComputeNode.mem_nextBurst (hburst e he)
    obtain rfl : later = spec' := Option.some.inj (hlater.symm.trans hup')
    exact Or.inl hcurrent

/-- A node that has processed a completion event. -/
theorem NodePace.completed (h : s.NodePace node) {now : SimTime}
    (hunder : s'.underWayOf node.nodeId = s.underWayOf node.nodeId)
    (hgenerates : s'.generatesOf node.nodeId ≤ s.generatesOf node.nodeId +
      (generatesFor ((node.nextOnCompletion now).toList : List EventRecord) node.nodeId).card)
    (hcompletions : s'.completionsOf node.nodeId + 1 ≤ s.completionsOf node.nodeId) :
    s'.NodePace node := by
  by_cases hzero : (generatesFor ((node.nextOnCompletion now).toList : List EventRecord)
      node.nodeId).card = 0
  · rw [hzero] at hgenerates
    exact h.frame rfl rfl rfl rfl rfl hunder hgenerates (by omega)
  obtain ⟨e, he⟩ := Multiset.card_pos_iff_exists_mem.mp (Nat.pos_of_ne_zero hzero)
  obtain ⟨-, -, -, -, hmode, spec, hup, hcurrent⟩ :=
    ComputeNode.mem_nextOnCompletion (Multiset.mem_coe.mp (Multiset.mem_filter.mp he).1)
  have hone : (generatesFor ((node.nextOnCompletion now).toList : List EventRecord)
      node.nodeId).card ≤ 1 := by
    refine (Multiset.card_le_card (Multiset.filter_le _ _)).trans ?_
    cases node.nextOnCompletion now <;> simp
  have hload := h.load hmode
  refine ⟨h.sorted, h.ahead, ?_, ?_, fun _ => ?_, fun _ later hlater => ?_⟩
  · rw [hunder]
    exact h.outstanding
  · omega
  · omega
  · obtain rfl : spec = later := Option.some.inj (hup.symm.trans hlater)
    exact Or.inl hcurrent

/-- No completion event is scheduled at an issue or at a completion. -/
theorem completionsFor_of_types {events : List EventRecord} (nodeId : NodeId)
    (h : ∀ e ∈ events, e.type ≠ .requestComplete) :
    (completionsFor events nodeId).card = 0 := by
  rw [Multiset.card_eq_zero]
  exact Multiset.filter_eq_nil.mpr fun e he hboth => h e (Multiset.mem_coe.mp he) hboth.1

theorem generatesFor_of_types {events : List EventRecord} (nodeId : NodeId)
    (h : ∀ e ∈ events, e.type ≠ .generateRequest) :
    (generatesFor events nodeId).card = 0 := by
  rw [Multiset.card_eq_zero]
  exact Multiset.filter_eq_nil.mpr fun e he hboth => h e (Multiset.mem_coe.mp he) hboth.1

/-- The node that handles the event keeps its pace. -/
theorem Paced.pace_self (h : s.Paced)
    (hpop : s.shared.scheduler.popNext = some (event, scheduler))
    (hfind : s.computeNodes.find event.targetId = some node)
    (hstep : ComputeNode.ComputeStep A node event (s.popped scheduler).shared node' effect) :
    ((s.popped scheduler).afterCompute event node' effect).NodePace node' := by
  obtain ⟨hmem, hkey⟩ := KeyedStore.find_eq_some.mp hfind
  have hpace := h.nodes node hmem
  have hunder := h.underWayOf_afterCompute hpop hfind hstep node.nodeId
  obtain ⟨hgenerates, hcompletions⟩ := pendingOf_step hpop
    ((s.popped scheduler).afterCompute event node' effect) rfl node.nodeId
  have hgenerate : event.type = .generateRequest →
      (generatesFor {event.record} node.nodeId).card = 1 := by
    intro htype
    rw [← Multiset.cons_zero, generatesFor_cons htype hkey.symm]
    rfl
  have hcomplete : event.type = .requestComplete →
      (completionsFor {event.record} node.nodeId).card = 1 := by
    intro htype
    rw [← Multiset.cons_zero, completionsFor_cons htype hkey.symm]
    rfl
  -- an event that schedules one event of another type
  have hother : ∀ {e : EventRecord}, e.type ≠ .generateRequest → e.type ≠ .requestComplete →
      effect.events = [e] →
        ((s.popped scheduler).afterCompute event node' effect).generatesOf node.nodeId ≤
            s.generatesOf node.nodeId ∧
          ((s.popped scheduler).afterCompute event node' effect).completionsOf node.nodeId ≤
            s.completionsOf node.nodeId := by
    intro e hgenerate hcomplete hevents
    rw [hevents, generatesFor_of_types _ (by simpa using hgenerate)] at hgenerates
    rw [hevents, completionsFor_of_types _ (by simpa using hcomplete)] at hcompletions
    omega
  -- an event that answers and schedules its completion
  have hanswer : ∀ {e : EventRecord}, e.type = .requestComplete → effect.events = [e] →
      ((s.popped scheduler).afterCompute event node' effect).generatesOf node.nodeId ≤
          s.generatesOf node.nodeId ∧
        ((s.popped scheduler).afterCompute event node' effect).completionsOf node.nodeId ≤
          s.completionsOf node.nodeId + 1 := by
    intro e htype hevents
    have hone : (completionsFor ([e] : List EventRecord) node.nodeId).card ≤ 1 :=
      Multiset.card_le_card (Multiset.filter_le _ _)
    rw [hevents, generatesFor_of_types _ (by simp [htype])] at hgenerates
    rw [hevents] at hcompletions
    omega
  cases hstep with
  | drained htype =>
      rw [htype] at hunder
      exact hpace.frame rfl rfl rfl rfl rfl hunder (le_trans (Nat.le_add_right _ _) hgenerates)
        (le_trans (Nat.le_add_right _ _) hcompletions)
  | @issue spec htype hup =>
      rw [htype, if_neg fun hboth => absurd hboth.1 Bool.false_ne_true,
        if_pos ⟨Nat.one_ne_zero, hkey.symm⟩] at hunder
      rw [hgenerate htype] at hgenerates
      rw [completionsFor_of_types _ fun e he hcomplete => by
        rcases List.mem_cons.mp he with rfl | hburst
        · exact EventType.noConfusion hcomplete
        · exact EventType.noConfusion ((ComputeNode.mem_nextBurst hburst).1.symm.trans hcomplete)]
        at hcompletions
      exact hpace.issued rfl hup hunder hgenerates (le_trans (Nat.le_add_right _ _) hcompletions)
  | hit htype | miss htype =>
      rw [htype, if_neg fun hboth => absurd hboth.1 Bool.false_ne_true,
        if_neg fun hboth => hboth.1 rfl] at hunder
      obtain ⟨hgenerates', hcompletions'⟩ := hother EventType.noConfusion EventType.noConfusion rfl
      exact hpace.frame rfl rfl rfl rfl rfl hunder hgenerates' hcompletions'
  | hitComplete htype _ hpos | returned htype _ hpos =>
      rw [htype, if_pos ⟨rfl, hkey.symm⟩, if_neg fun hboth => hboth.1 rfl] at hunder
      obtain ⟨hgenerates', hcompletions'⟩ := hanswer rfl rfl
      exact hpace.answered rfl rfl rfl rfl hpos rfl hunder hgenerates' hcompletions'
  | complete htype =>
      rw [htype, if_neg fun hboth => absurd hboth.1 Bool.false_ne_true,
        if_neg fun hboth => hboth.1 rfl] at hunder
      rw [hcomplete htype, completionsFor_of_types _ fun e he hcomplete => EventType.noConfusion
        ((ComputeNode.mem_nextOnCompletion he).1.symm.trans hcomplete)] at hcompletions
      exact hpace.completed hunder (le_trans (Nat.le_add_right _ _) hgenerates) hcompletions

/-- A node changes its epoch only when it has no request under way. -/
theorem Paced.currentEpoch_kept (h : s.Paced)
    (hpop : s.shared.scheduler.popNext = some (event, scheduler))
    (hfind : s.computeNodes.find event.targetId = some node)
    (hstep : ComputeNode.ComputeStep A node event (s.popped scheduler).shared node' effect) :
    node'.currentEpoch = node.currentEpoch ∨ s.underWayOf node.nodeId = 0 := by
  obtain ⟨hmem, hkey⟩ := KeyedStore.find_eq_some.mp hfind
  cases hstep with
  | drained | hit | miss | hitComplete | returned | complete => exact Or.inl rfl
  | @issue spec htype hup =>
      have hpace := h.nodes node hmem
      have hin : event.record ∈ generatesFor s.view.pending node.nodeId := by
        refine Multiset.mem_filter.mpr ⟨?_, htype, hkey.symm⟩
        rw [show s.view.pending = event.record ::ₘ scheduler.pending from
          (Scheduler.popNext_eq_some hpop).1]
        exact Multiset.mem_cons_self _ _
      rcases hpace.due (Multiset.card_pos_iff_exists_mem.mpr ⟨_, hin⟩) spec hup with hsame | hzero
      · exact Or.inl hsame.symm
      · exact Or.inr (hpace.outstanding.symm.trans hzero)

/-- An event of a compute node keeps the pace. -/
theorem Paced.afterCompute (h : s.Paced)
    (hpop : s.shared.scheduler.popNext = some (event, scheduler))
    (hfind : s.computeNodes.find event.targetId = some node)
    (hstep : ComputeNode.ComputeStep A node event (s.popped scheduler).shared node' effect) :
    ((s.popped scheduler).afterCompute event node' effect).Paced := by
  have hkey : node.nodeId = event.targetId := KeyedStore.key_of_find hfind
  have hkey' : node'.nodeId = event.targetId := (computeStep_stream hstep).1.trans hkey
  have hticket : ∀ {id : RequestId} {t : Ticket}, s.view.tickets id = some t →
      ((s.popped scheduler).afterCompute event node' effect).view.tickets id = some t :=
    fun ht => h.drains.ticket hstep.writes rfl ht
  have hraised : event.record ∈ s.shared.scheduler.raised := by
    rw [Scheduler.popNext_raised hpop]
    exact Multiset.mem_cons_self _ _
  -- a request that is under way now was before, or it has just been issued
  have hunder : ∀ id ∈ ((s.popped scheduler).afterCompute event node' effect).underWay,
      id ∈ s.underWay ∨ id = s.shared.nextRequestId ∧ effect.issued ≠ 0 := by
    intro id hid
    have hin : id ∈ s.underWay + effect.issuedIds s.shared := by
      rw [← underWay_afterCompute hpop hstep]
      exact Multiset.mem_add.mpr (Or.inl hid)
    rcases Multiset.mem_add.mp hin with hold | hnew
    · exact Or.inl hold
    · unfold Effect.issuedIds at hnew
      split at hnew
      · exact absurd hnew (Multiset.notMem_zero id)
      · next hissued => exact Or.inr ⟨Multiset.mem_singleton.mp hnew, hissued⟩
  refine ⟨h.drains.dispatch hpop (.compute hfind hstep), h.nodeIds, ?_, ?_, ?_, ?_⟩
  · intro id hid
    rcases hunder id hid with hold | ⟨rfl, hissued⟩
    · obtain ⟨t, ht⟩ := h.known id hold
      exact ⟨t, hticket ht⟩
    · obtain ⟨spec, t, -, -, -, ht, -⟩ := ticket_of_issued hstep hissued
      exact ⟨t, ht⟩
  · intro e he hsource
    have hin : e ∈ (effect.events : Multiset EventRecord) + scheduler.raised := by
      rw [← Scheduler.scheduleAll_raised]
      exact he
    rcases Multiset.mem_add.mp hin with hnew | hold
    · have hrequest : event.type.atSource = true → e.requestId = event.requestId →
          e.targetId = node.nodeId → ∃ t, ((s.popped scheduler).afterCompute event node'
            effect).view.tickets e.requestId = some t ∧ t.sourceNodeId = e.targetId := by
        intro hat hid htarget
        obtain ⟨t, ht, hsource⟩ := h.targets event.record hraised hat
        refine ⟨t, ?_, hsource.trans (hkey.symm.trans htarget.symm)⟩
        rw [hid]
        exact hticket ht
      cases hstep with
      | drained => exact absurd hnew (Multiset.notMem_zero e)
      | @issue spec htype hup =>
          rcases List.mem_cons.mp (Multiset.mem_coe.mp hnew) with rfl | hburst
          · exact ⟨(node.requestFor s.shared.nextRequestId spec event.time).ticket,
              congrArg (Option.map Request.ticket) (KeyedStore.find_insert_self _ _), rfl⟩
          · rw [(ComputeNode.mem_nextBurst hburst).1] at hsource
            exact absurd hsource Bool.false_ne_true
      | hit htype =>
          obtain rfl := Multiset.mem_singleton.mp hnew
          exact hrequest (by rw [htype]; rfl) rfl rfl
      | miss | hitComplete | returned =>
          obtain rfl := Multiset.mem_singleton.mp hnew
          exact absurd hsource Bool.false_ne_true
      | complete =>
          rw [(ComputeNode.mem_nextOnCompletion (Multiset.mem_coe.mp hnew)).1] at hsource
          exact absurd hsource Bool.false_ne_true
    · obtain ⟨t, ht, htarget⟩ := h.targets e (by
        rw [Scheduler.popNext_raised hpop]
        exact Multiset.mem_cons_of_mem hold) hsource
      exact ⟨t, hticket ht, htarget⟩
  · intro id hid t ht other hother
    have hother' : (s.computeNodes.insert node').find t.sourceNodeId = some other := hother
    rw [KeyedStore.find_insert, hkey'] at hother'
    rcases hunder id hid with hold | ⟨rfl, hissued⟩
    · obtain ⟨t', ht'⟩ := h.known id hold
      obtain rfl : t' = t := Option.some.inj ((hticket ht').symm.trans ht)
      by_cases hown : t'.sourceNodeId = event.targetId
      · rw [if_pos hown] at hother'
        obtain rfl := Option.some.inj hother'
        have hcurrent := h.inEpoch id hold t' ht' node (by rw [hown]; exact hfind)
        rcases h.currentEpoch_kept hpop hfind hstep with hsame | hzero
        · rw [hsame]
          exact hcurrent
        · -- the request is under way
          have hnot := Multiset.countP_eq_zero.mp hzero id hold
          refine absurd ?_ hnot
          rw [sourceOf, ht', Option.map_some, hown, hkey]
      · rw [if_neg hown] at hother'
        exact h.inEpoch id hold t' ht' other hother'
    · obtain ⟨spec, t', -, -, rfl, ht', hsource, hepoch⟩ := ticket_of_issued hstep hissued
      obtain rfl : t' = t := Option.some.inj (ht'.symm.trans ht)
      rw [if_pos (hsource.trans hkey)] at hother'
      obtain rfl := Option.some.inj hother'
      rw [hepoch]
      rfl
  · intro other hother
    rcases KeyedStore.mem_insert.mp hother with rfl | ⟨hold, hne⟩
    · exact h.pace_self hpop hfind hstep
    · exact h.pace_other hpop hfind hstep hold (by rw [← hkey']; exact hne)

end Compute

-- ============================================================================
-- Runs
-- ============================================================================

/-- An event of the memory node keeps the pace. -/
theorem Paced.afterMemory (h : s.Paced)
    (hpop : s.shared.scheduler.popNext = some (event, scheduler)) {memoryNode : MemoryNode}
    (hfind : s.computeNodes.find event.targetId = none)
    (htarget : event.targetId = s.config.memoryNodeId)
    (hstep : MemoryNode.MemoryStep A s.memoryNode event (s.popped scheduler).shared memoryNode
      effect) :
    ((s.popped scheduler).afterMemory event memoryNode effect).Paced := by
  have hticket : ∀ {id : RequestId} {t : Ticket}, s.view.tickets id = some t →
      ((s.popped scheduler).afterMemory event memoryNode effect).view.tickets id = some t :=
    fun ht => h.drains.ticket hstep.writes rfl ht
  have hunder := underWay_afterMemory hpop hstep
  have hunderOf : ∀ nodeId, ((s.popped scheduler).afterMemory event memoryNode
      effect).underWayOf nodeId = s.underWayOf nodeId := by
    intro nodeId
    unfold underWayOf
    rw [hunder]
    refine Multiset.countP_congr rfl fun id hid => ?_
    obtain ⟨t, ht⟩ := h.known id hid
    unfold sourceOf
    rw [ht, hticket ht]
  have htypes : ∀ e ∈ effect.events, e.type ≠ .generateRequest ∧ e.type ≠ .requestComplete := by
    intro e he
    cases hstep with
    | forwardIdle | start | completeIdle =>
        rw [List.mem_singleton.mp he]
        exact ⟨EventType.noConfusion, EventType.noConfusion⟩
    | forwardBusy => cases he
    | completeNext =>
        rcases List.mem_cons.mp he with rfl | hin
        · exact ⟨EventType.noConfusion, EventType.noConfusion⟩
        · rw [List.mem_singleton.mp hin]
          exact ⟨EventType.noConfusion, EventType.noConfusion⟩
  refine ⟨h.drains.dispatch hpop (.memory hfind htarget hstep), h.nodeIds, ?_, ?_, ?_, ?_⟩
  · rw [hunder]
    intro id hid
    obtain ⟨t, ht⟩ := h.known id hid
    exact ⟨t, hticket ht⟩
  · intro e he hsource
    have hin : e ∈ (effect.events : Multiset EventRecord) + scheduler.raised := by
      rw [← Scheduler.scheduleAll_raised]
      exact he
    rcases Multiset.mem_add.mp hin with hnew | hold
    · -- only a response goes to a compute node
      have hreturn : ∀ {request : Request},
          s.shared.requestTable.find event.requestId = some request →
            e.requestId = request.requestId → e.targetId = request.sourceNodeId →
              ∃ t, ((s.popped scheduler).afterMemory event memoryNode effect).view.tickets
                e.requestId = some t ∧ t.sourceNodeId = e.targetId := by
        intro request hrequest hid hnode
        refine ⟨request.ticket, hticket ?_, hnode.symm⟩
        rw [hid, KeyedStore.key_of_find hrequest]
        exact congrArg (Option.map Request.ticket) hrequest
      cases hstep with
      | forwardIdle | start =>
          obtain rfl := Multiset.mem_singleton.mp hnew
          exact absurd hsource Bool.false_ne_true
      | forwardBusy => exact absurd hnew (Multiset.notMem_zero e)
      | completeIdle _ hrequest =>
          obtain rfl := Multiset.mem_singleton.mp hnew
          exact hreturn hrequest rfl rfl
      | completeNext _ hrequest =>
          rcases List.mem_cons.mp (Multiset.mem_coe.mp hnew) with rfl | hin
          · exact hreturn hrequest rfl rfl
          · obtain rfl := List.mem_singleton.mp hin
            exact absurd hsource Bool.false_ne_true
    · obtain ⟨t, ht, htarget⟩ := h.targets e (by
        rw [Scheduler.popNext_raised hpop]
        exact Multiset.mem_cons_of_mem hold) hsource
      exact ⟨t, hticket ht, htarget⟩
  · rw [hunder]
    intro id hid t ht node hnode
    obtain ⟨t', ht'⟩ := h.known id hid
    obtain rfl : t' = t := Option.some.inj ((hticket ht').symm.trans ht)
    exact h.inEpoch id hid t' ht' node hnode
  · intro node hmem
    obtain ⟨hgenerates, hcompletions⟩ := pendingOf_step hpop
      ((s.popped scheduler).afterMemory event memoryNode effect) rfl node.nodeId
    rw [generatesFor_of_types _ fun e he => (htypes e he).1] at hgenerates
    rw [completionsFor_of_types _ fun e he => (htypes e he).2] at hcompletions
    exact (h.nodes node hmem).frame rfl rfl rfl rfl rfl (hunderOf node.nodeId)
      (le_trans (Nat.le_add_right _ _) hgenerates) (le_trans (Nat.le_add_right _ _) hcompletions)

/-- The release starts each node at most once. -/
theorem generatesFor_afterRelease_le
    (hnodup : (s.config.computeNodes.map ComputeNodeConfig.nodeId).Nodup) (epoch : EpochId)
    (now : SimTime) (nodeId : NodeId) :
    (generatesFor (s.config.computeNodes.filterMap (s.releaseEvent A epoch now) :
      List EventRecord) nodeId).card ≤ 1 := by
  by_cases hmem : ∃ c ∈ s.config.computeNodes, c.nodeId = nodeId
  · obtain ⟨c, hc, rfl⟩ := hmem
    have hfilter := RunInv.filter_filterMap (f := s.releaseEvent A epoch now) hnodup
      (fun c r hr => (releaseEvent_generates hr).2.1) hc
    have hle : ∀ records : List EventRecord, (generatesFor records c.nodeId).card ≤
        (records.filter fun r => r.targetId = c.nodeId).length := by
      intro records
      have hsub : generatesFor records c.nodeId ≤
          Multiset.filter (fun r : EventRecord => r.targetId = c.nodeId) records :=
        Multiset.monotone_filter_right _ fun r hboth => hboth.2
      exact Multiset.card_le_card hsub
    refine (hle _).trans ?_
    rw [hfilter]
    cases s.releaseEvent A epoch now c <;> simp
  · rw [generatesFor, Multiset.filter_eq_nil.mpr]
    · exact Nat.zero_le 1
    · rintro r hr ⟨-, htarget⟩
      obtain ⟨c, hc, hevent⟩ := List.mem_filterMap.mp (Multiset.mem_coe.mp hr)
      exact hmem ⟨c, hc, (releaseEvent_generates hevent).2.1.symm.trans htarget⟩

/-- The release of an epoch keeps the pace: it waits until nothing is under way. -/
theorem Paced.release (h : s.Paced) : (releaseNextEpochIfReady A s).Paced := by
  refine release_preserves h fun epoch hdrained hnext => ?_
  have hdrains : (s.afterRelease A epoch).Drains := by
    rw [← afterRelease_eq hdrained hnext]
    exact h.drains.release
  have htypes : ∀ r ∈ s.config.computeNodes.filterMap
      (s.releaseEvent A epoch s.shared.scheduler.currentTime), r.type = .generateRequest := by
    intro r hr
    obtain ⟨c, -, hevent⟩ := List.mem_filterMap.mp hr
    exact (releaseEvent_generates hevent).1
  have hraised : (s.afterRelease A epoch).shared.scheduler.raised =
      (s.config.computeNodes.filterMap
        (s.releaseEvent A epoch s.shared.scheduler.currentTime) : List EventRecord) +
          s.shared.scheduler.raised :=
    Scheduler.scheduleAll_raised _ _
  have hunder : (s.afterRelease A epoch).underWay = s.underWay := by
    unfold underWay
    rw [hraised, carried_add, carried_generates htypes, zero_add]
    rfl
  have hpending : (s.afterRelease A epoch).view.pending ≤
      (s.config.computeNodes.filterMap
        (s.releaseEvent A epoch s.shared.scheduler.currentTime) : List EventRecord) := by
    refine (Scheduler.scheduleAll_pending_le _ _).trans ?_
    rw [hdrained.1, add_zero]
  have hcompletions : ∀ nodeId, (s.afterRelease A epoch).completionsOf nodeId = 0 := by
    intro nodeId
    refine Nat.le_zero.mp ((Multiset.card_le_card (Multiset.filter_le_filter _ hpending)).trans ?_)
    refine le_of_eq (completionsFor_of_types nodeId fun e he hcomplete => ?_)
    exact EventType.noConfusion ((htypes e he).symm.trans hcomplete)
  have hgenerates : ∀ nodeId, (s.afterRelease A epoch).generatesOf nodeId ≤ 1 := fun nodeId =>
    (Multiset.card_le_card (Multiset.filter_le_filter _ hpending)).trans
      (generatesFor_afterRelease_le h.nodeIds epoch _ nodeId)
  refine ⟨hdrains, h.nodeIds, hunder ▸ h.known, ?_, hunder ▸ h.inEpoch, ?_⟩
  · intro e he hsource
    rw [hraised] at he
    rcases Multiset.mem_add.mp he with hnew | hold
    · rw [htypes e (Multiset.mem_coe.mp hnew)] at hsource
      exact absurd hsource Bool.false_ne_true
    · exact h.targets e hold hsource
  · intro node hmem
    have hpace := h.nodes node hmem
    have hidle := hdrained.2 node hmem
    refine ⟨hpace.sorted, hpace.ahead, ?_, hgenerates _, fun _ => ?_, fun _ _ _ => Or.inr hidle⟩
    · rw [hpace.outstanding]
      unfold underWayOf
      rw [hunder]
      rfl
    · rw [hcompletions, hidle]
      exact hgenerates node.nodeId

/-- The configuration a constructor keeps, in either reading of the arithmetic. -/
theorem streams_of_prepareConfig {rng : RandomSource} {config prepared : SimulationConfig}
    {generatedWorkload : Option GeneratedWorkload}
    (h : prepareConfig A rng config = .ok (prepared, generatedWorkload)) :
    (prepared.computeNodes.map ComputeNodeConfig.nodeId).Nodup ∧
      ∀ c ∈ prepared.computeNodes, (c.requests.map RequestSpec.epochId).Pairwise (· ≤ ·) := by
  have hvalid : validateConfig prepared generatedWorkload = .ok () := by
    unfold prepareConfig at h
    cases hsynthetic : config.syntheticWorkload with
    | none =>
        simp only [hsynthetic, bind_eq_ok, throwIf_eq_ok, exists_and_left, exists_const,
          decide_eq_false_iff_not, pure_eq_ok, Prod.mk.injEq, exists_eq_left'] at h
        obtain ⟨-, _, hvalid, -, rfl, rfl⟩ := h
        exact hvalid
    | some synthetic =>
        simp only [hsynthetic, bind_eq_ok, throwIf_eq_ok, exists_and_left, exists_const,
          decide_eq_false_iff_not, pure_eq_ok, Prod.mk.injEq, exists_eq_left'] at h
        obtain ⟨-, -, workload, -, _, hvalid, -, rfl, rfl⟩ := h
        exact hvalid
  unfold validateConfig at hvalid
  simp only [bind_eq_ok, throwIf_eq_ok, exists_and_left, exists_const] at hvalid
  obtain ⟨hall, hnodup⟩ := validateNodes_spec hvalid.2
  exact ⟨hnodup, fun c hc => (hall c hc).2.2⟩

theorem paced_init {config : SimulationConfig} (generatedWorkload : Option GeneratedWorkload)
    (hnodup : (config.computeNodes.map ComputeNodeConfig.nodeId).Nodup)
    (hsorted : ∀ c ∈ config.computeNodes, (c.requests.map RequestSpec.epochId).Pairwise (· ≤ ·)) :
    (ofConfig P config generatedWorkload).Paced := by
  obtain ⟨plan, hplan⟩ : ∃ plan, (ofConfig P config generatedWorkload).computeNodes =
      emplaceNodes P config plan := ⟨_, rfl⟩
  have hunder : (ofConfig P config generatedWorkload).underWay = 0 := by
    have hwaiting : (ofConfig P config generatedWorkload).memoryNode.waiting = 0 := by
      show (List.map _ (List.replicate config.memoryChannelCount _)).sum = 0
      rw [List.map_replicate, List.sum_replicate]
      exact nsmul_zero _
    unfold underWay
    rw [hwaiting, add_zero]
    rfl
  refine ⟨drains_init P config generatedWorkload, hnodup, ?_, fun e he => ?_, ?_, ?_⟩
  · rw [hunder]
    exact fun id hid => absurd hid (Multiset.notMem_zero id)
  · exact absurd he (Multiset.notMem_zero e)
  · rw [hunder]
    exact fun id hid => absurd hid (Multiset.notMem_zero id)
  · intro node hmem
    rw [hplan] at hmem
    obtain ⟨c, hc, rfl⟩ := (emplaceNodes_spec P config plan).1 node hmem
    refine ⟨hsorted c hc, fun _ _ current hcurrent => ?_, ?_, Nat.zero_le 1, fun _ => Nat.zero_le 1,
      fun hpos => absurd hpos (Nat.lt_irrefl 0)⟩
    · cases hcurrent
    · unfold underWayOf
      rw [hunder]
      rfl

theorem Paced.dispatch (h : s.Paced) (hpop : s.shared.scheduler.popNext = some (event, scheduler))
    (hdispatched : Dispatched A (s.popped scheduler) event s') : s'.Paced := by
  cases hdispatched with
  | compute hfind hstep => exact h.afterCompute hpop hfind hstep
  | memory hfind htarget hstep => exact h.afterMemory hpop hfind htarget hstep

/-- A node that handles a lookup or an answer is in the epoch of the request. -/
theorem Paced.handles (h : s.Paced)
    (hpop : s.shared.scheduler.popNext = some (event, scheduler))
    (htype : event.type.atSource = true) {node : ComputeNode P}
    (hfind : s.computeNodes.find event.targetId = some node) :
    ∃ request, s.shared.requestTable.find event.requestId = some request ∧
      node.currentEpoch = some request.epochId := by
  have hraised : event.record ∈ s.shared.scheduler.raised := by
    rw [Scheduler.popNext_raised hpop]
    exact Multiset.mem_cons_self _ _
  obtain ⟨t, ht, htarget⟩ := h.targets event.record hraised htype
  obtain ⟨request, hrequest, rfl⟩ := Option.map_eq_some_iff.mp ht
  have hcarries : event.type.carries = true := by
    cases hcase : event.type <;> rw [hcase] at htype <;>
      first | rfl | exact absurd htype Bool.false_ne_true
  have hunder : event.requestId ∈ s.underWay :=
    Multiset.mem_add.mpr (Or.inl (Multiset.mem_map.mpr
      ⟨event.record, Multiset.mem_filter.mpr ⟨hraised, hcarries⟩, rfl⟩))
  exact ⟨request, hrequest, h.inEpoch _ hunder _ ht node (by rw [htarget]; exact hfind)⟩

end Simulator

end DmSimulator
