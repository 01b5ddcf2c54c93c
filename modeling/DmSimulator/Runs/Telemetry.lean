/-
  DmSimulator.Runs.Telemetry

  The statistics of a run, with unbounded time.

  A turn processes one event, and `Books` says what it writes down for it.  The
  telemetry is thereby a ledger of the event log: every figure is a sum over the
  log, `weigh`, of what the events of one type are worth.  At the end of a run
  the log holds every event of every request, and the sums over it are sums over
  the responses.
-/
import DmSimulator.Metrics.Conservation
import DmSimulator.Runs.Channels
import DmSimulator.Runs.EventCounts

namespace DmSimulator

-- ============================================================================
-- Scheduling without refusals
-- ============================================================================

namespace Scheduler

theorem refused_schedule (s : Scheduler) (event : Event) :
    s.refused <+: (s.schedule event).1.refused := by
  unfold schedule
  split
  · exact List.prefix_append _ _
  · exact List.prefix_refl _

theorem refused_scheduleAll (s : Scheduler) (records : List EventRecord) :
    s.refused <+: (s.scheduleAll records).refused := by
  induction records generalizing s with
  | nil => exact List.prefix_refl _
  | cons record rest ih => exact (refused_schedule s record.event).trans (ih _)

/-- Events that were all accepted were not in the past. -/
theorem le_of_accepted {s : Scheduler} {record : EventRecord} {rest : List EventRecord}
    (h : (s.scheduleAll (record :: rest)).refused = []) : s.currentTime ≤ record.time := by
  have hrest : (s.schedule record.event).1.refused = [] :=
    List.prefix_nil.mp (h ▸ refused_scheduleAll _ rest)
  by_contra hlt
  unfold schedule at hrest
  rw [if_pos (show record.event.time < s.currentTime from Nat.lt_of_not_le hlt)] at hrest
  exact List.append_ne_nil_of_right_ne_nil _ (List.cons_ne_nil _ _) hrest

/-- Where nothing has been refused, everything is pending. -/
theorem scheduleAll_pending {s : Scheduler} {records : List EventRecord}
    (h : (s.scheduleAll records).refused = []) :
    (s.scheduleAll records).pending = (records : Multiset EventRecord) + s.pending := by
  induction records generalizing s with
  | nil => exact (Multiset.zero_add _).symm
  | cons record rest ih =>
      rw [scheduleAll_cons, ih h, schedule_pending (le_of_accepted h), Multiset.add_cons,
        ← Multiset.cons_add, Multiset.cons_coe]

/-- Accepted events enter the agenda by their times alone. -/
theorem WellOrdered.agenda_scheduleAll {s : Scheduler} (hs : s.WellOrdered)
    {records : List EventRecord} (h : (s.scheduleAll records).refused = []) :
    (s.scheduleAll records).agenda =
      TimedQueue.enqueueAll EventRecord.time records s.agenda := by
  induction records generalizing s with
  | nil => rfl
  | cons record rest ih =>
      rw [scheduleAll_cons, ih (hs.schedule record.event) h, hs.agenda_schedule (le_of_accepted h)]
      rfl

end Scheduler

namespace Simulator

variable {P : CachePolicy}

-- ============================================================================
-- The ledger
-- ============================================================================

/-- What an event is worth: nothing, unless it is of the given type. -/
def worth (type : EventType) (value : Ticket → SimTime → Nat) (ticket : Option Ticket)
    (e : EventRecord) : Nat :=
  if e.type = type then ticket.elim 0 (fun t => value t e.time) else 0

/-- The processed events of one type, weighed. -/
def weigh (s : Simulator P) (type : EventType) (value : Ticket → SimTime → Nat) : Nat :=
  (s.eventLog.map (fun e => worth type value (s.view.tickets e.requestId) e)).sum

/-- The number of events of one type that have been scheduled. -/
def scheduledOf (s : Simulator P) (type : EventType) : Nat :=
  s.weigh type (fun _ _ => 1) + s.view.pending.countP (fun e => e.type = type)

/-- The ids of the compute nodes. -/
def nodeIds (s : Simulator P) : List NodeId :=
  s.config.computeNodes.map ComputeNodeConfig.nodeId

/-- What a turn has written down, answered and scheduled. -/
structure Booked (s t : Simulator P) (recording : Option Stats.Recording)
    (answers : List Response) (hits misses : Nat) : Prop where
  stats : t.shared.stats = recording.elim s.shared.stats (s.shared.stats.record .exact)
  valid : recording.elim True (Stats.Recording.Valid s.nodeIds s.config.memoryChannelCount)
  responses : t.shared.responses = s.shared.responses ++ answers
  hits : t.scheduledOf .localCacheHitComplete = s.scheduledOf .localCacheHitComplete + hits
  misses : t.scheduledOf .forwardToMemory = s.scheduledOf .forwardToMemory + misses

/-- What the effect of a handler writes down and schedules. -/
structure Entry (s : Simulator P) (effect : Effect) (recording : Option Stats.Recording)
    (hits misses : Nat) : Prop where
  stats : effect.stats = recording.elim s.shared.stats (s.shared.stats.record .exact)
  valid : recording.elim True (Stats.Recording.Valid s.nodeIds s.config.memoryChannelCount)
  hits : effect.events.countP (fun e => e.type = .localCacheHitComplete) = hits
  misses : effect.events.countP (fun e => e.type = .forwardToMemory) = misses

/-- What the turn that processes an event books. -/
inductive Books (s t : Simulator P) (e : EventRecord) : Prop
  | nothing : (e.type = .generateRequest ∨ e.type = .requestComplete) →
      Booked s t none [] 0 0 → Books s t e
  | hit : e.type = .localCacheLookup → Booked s t (some (.hit e.targetId)) [] 1 0 → Books s t e
  | miss : e.type = .localCacheLookup → Booked s t (some (.miss e.targetId)) [] 0 1 → Books s t e
  | answer (p : Response) : (e.type = .localCacheHitComplete ∨ e.type = .returnResponse) →
      Booked s t (some (.latency e.targetId p.totalLatency)) [p] 0 0 → Books s t e
  | arrival (request : Request) (depth : Nat) : e.type = .forwardToMemory →
      s.view.tickets e.requestId = some request.ticket →
      Booked s t (some (.arrival request (request.ticket.channel s.config) depth)) [] 0 0 →
        Books s t e
  | wait (request : Request) : e.type = .memoryServiceStart →
      s.view.tickets e.requestId = some request.ticket →
      Booked s t (some (.wait request (request.ticket.channel s.config)
        (e.time - request.ticket.arrival s.config))) [] 0 0 → Books s t e
  | service (request : Request) : e.type = .memoryServiceComplete →
      s.view.tickets e.requestId = some request.ticket →
      Booked s t (some (.service request (request.ticket.channel s.config)
        (request.ticket.serviceTime s.config))) [] 0 0 → Books s t e

end Simulator

section Turn

variable {P : CachePolicy} {s : Simulator P} {phase : RequestId → Phase} {base : SimTime}

open Simulator

/-- The requests that have been issued keep their tickets. -/
theorem known_tickets {t : Simulator P} {e : EventRecord}
    (hturn : s.Advances t e ∨ s.Issues t e) {id : RequestId} (hlt : id < s.shared.nextRequestId) :
    t.view.tickets id = s.view.tickets id := by
  rcases hturn with hadvances | hissues
  · exact hadvances.tickets _
  · obtain ⟨ticket, -, -, -, htickets⟩ := hissues.issued
    rw [htickets, if_neg (Nat.ne_of_lt hlt)]

/-- The requests of processed events keep their tickets. -/
theorem RunInv.logged_tickets (h : RunInv s phase base) {t : Simulator P} {e : EventRecord}
    (hturn : s.Advances t e ∨ s.Issues t e) {other : EventRecord} (hother : other ∈ s.eventLog) :
    t.view.tickets other.requestId = s.view.tickets other.requestId :=
  known_tickets hturn (h.lifecycle.log_ids other hother)

/-- The event of a turn is worth the same before and after it. -/
theorem worth_turn {t : Simulator P} {e : EventRecord} (hturn : s.Advances t e ∨ s.Issues t e)
    {type : EventType} (htype : type ≠ .generateRequest) (value : Ticket → SimTime → Nat) :
    worth type value (t.view.tickets e.requestId) e =
      worth type value (s.view.tickets e.requestId) e := by
  rcases hturn with hadvances | hissues
  · rw [hadvances.tickets]
  · unfold worth
    rw [if_neg (by rw [hissues.type_eq]; exact htype.symm),
      if_neg (by rw [hissues.type_eq]; exact htype.symm)]

/-- An event that is processed adds its worth. -/
theorem RunInv.weigh_turn (h : RunInv s phase base) {t : Simulator P} {e : EventRecord}
    (hlog : t.eventLog = s.eventLog ++ [e]) (hturn : s.Advances t e ∨ s.Issues t e)
    {type : EventType} (htype : type ≠ .generateRequest) (value : Ticket → SimTime → Nat) :
    t.weigh type value =
      s.weigh type value + worth type value (s.view.tickets e.requestId) e := by
  unfold weigh
  rw [hlog, List.map_append, List.sum_append, List.map_singleton, List.sum_singleton,
    worth_turn hturn htype]
  exact congrArg (· + _) (congrArg List.sum (List.map_congr_left fun other hother => by
    rw [h.logged_tickets hturn hother]))

/-- What a dispatch leads to satisfies the invariant. -/
theorem RunInv.of_dispatched (h : RunInv s phase base) {event : Event} {scheduler : Scheduler}
    (hpop : s.shared.scheduler.popNext = some (event, scheduler)) {s' : Simulator P}
    (hdispatched : Dispatched .exact (s.popped scheduler) event s') :
    ∃ phase', RunInv s' phase' base := by
  obtain ⟨s₁, phase', hdispatched', hrun'⟩ := h.dispatch hpop
  obtain rfl : s₁ = s' :=
    Except.ok.inj (hdispatched'.dispatchEvent_eq.symm.trans hdispatched.dispatchEvent_eq)
  exact ⟨phase', hrun'⟩

/-- The release of an epoch schedules `GenerateRequest` events only. -/
theorem RunInv.release_countP (h : RunInv s phase base) {type : EventType}
    (htype : type ≠ .generateRequest) :
    (releaseNextEpochIfReady .exact s).view.pending.countP (fun e => e.type = type) =
      s.view.pending.countP (fun e => e.type = type) := by
  rcases release_cases .exact s with ⟨-, heq⟩ | ⟨-, -, heq⟩ | ⟨epoch, -, -, heq⟩ <;> rw [heq]
  have hspec : ∀ r ∈ s.config.computeNodes.filterMap
      (s.releaseEvent .exact epoch s.shared.scheduler.currentTime),
      r.type = .generateRequest ∧ s.shared.scheduler.currentTime ≤ r.time := by
    intro r hr
    obtain ⟨nodeConfig, -, hevent⟩ := List.mem_filterMap.mp hr
    obtain ⟨-, hgenerate, -, hle⟩ := RunInv.releaseEvent_spec hevent
    exact ⟨hgenerate, hle⟩
  obtain ⟨-, hpending, -, -⟩ := h.ordered.scheduleAll _ fun r hr => (hspec r hr).2
  have hpending' : (s.afterRelease .exact epoch).view.pending = _ + s.view.pending := hpending
  rw [hpending', Multiset.countP_add, Nat.add_eq_right, Multiset.countP_eq_zero]
  intro r hr heq'
  exact htype (heq'.symm.trans (hspec r (Multiset.mem_coe.mp hr)).1)

/-- A turn schedules what its handler does. -/
theorem RunInv.scheduledOf_turn (h : RunInv s phase base) {event : Event} {scheduler : Scheduler}
    (hpop : s.shared.scheduler.popNext = some (event, scheduler)) {s' : Simulator P}
    (hdispatched : Dispatched .exact (s.popped scheduler) event s') {effect : Effect}
    (hshared : s'.shared = (s.popped scheduler).shared.apply effect)
    (hturn : s.Advances (releaseNextEpochIfReady .exact s') event.record ∨
      s.Issues (releaseNextEpochIfReady .exact s') event.record)
    {type : EventType} (htype : type ≠ .generateRequest) :
    (releaseNextEpochIfReady .exact s').scheduledOf type =
      s.scheduledOf type + effect.events.countP (fun e => e.type = type) := by
  obtain ⟨phase', hrun'⟩ := h.of_dispatched hpop hdispatched
  obtain ⟨-, -, -, -, hold⟩ := h.popped_ordered hpop
  have hlog : (releaseNextEpochIfReady .exact s').eventLog = s.eventLog ++ [event.record] :=
    (release_log .exact s').1.trans (dispatched_log hdispatched).1
  have hpending : s'.view.pending = (effect.events : Multiset EventRecord) + scheduler.pending := by
    have haccepted : (scheduler.scheduleAll effect.events).refused = [] := by
      have hrefused := hrun'.accepted
      rw [hshared] at hrefused
      exact hrefused
    show s'.shared.scheduler.pending = _
    rw [hshared]
    exact Scheduler.scheduleAll_pending haccepted
  have hworth : worth type (fun _ _ => 1) (s.view.tickets event.record.requestId) event.record =
      ({event.record} : Multiset EventRecord).countP (fun e => e.type = type) := by
    unfold worth
    rw [← Multiset.cons_zero, Multiset.countP_cons, Multiset.countP_zero, Nat.zero_add]
    by_cases heq : event.record.type = type
    · rw [if_pos heq, if_pos heq]
      rcases hturn with hadvances | hissues
      · obtain ⟨request, hfind⟩ := hadvances.issued
        show Option.elim ((s.shared.requestTable.find _).map Request.ticket) 0 _ = 1
        rw [hfind]
        rfl
      · exact absurd (heq.symm.trans hissues.type_eq) htype
    · rw [if_neg heq, if_neg heq]
  unfold scheduledOf
  rw [h.weigh_turn hlog hturn htype, hrun'.release_countP htype, hpending, hold, hworth,
    ← Multiset.singleton_add, Multiset.countP_add, Multiset.countP_add, Multiset.coe_countP]
  lia

/-- A turn books what the effect of its handler enters. -/
theorem RunInv.booked_of_entry (h : RunInv s phase base) {event : Event} {scheduler : Scheduler}
    (hpop : s.shared.scheduler.popNext = some (event, scheduler)) {s' : Simulator P}
    (hdispatched : Dispatched .exact (s.popped scheduler) event s') {effect : Effect}
    (hshared : s'.shared = (s.popped scheduler).shared.apply effect)
    (hturn : s.Advances (releaseNextEpochIfReady .exact s') event.record ∨
      s.Issues (releaseNextEpochIfReady .exact s') event.record)
    {recording : Option Stats.Recording} {hits misses : Nat}
    (hentry : s.Entry effect recording hits misses) :
    Booked s (releaseNextEpochIfReady .exact s') recording effect.responses hits misses := by
  have hstats : (releaseNextEpochIfReady .exact s').shared.stats = s'.shared.stats :=
    release_keeps (fun t => t.shared.stats) .exact s' fun _ => rfl
  have hresponses : (releaseNextEpochIfReady .exact s').shared.responses = s'.shared.responses :=
    release_keeps (fun t => t.shared.responses) .exact s' fun _ => rfl
  refine ⟨?_, hentry.valid, ?_, ?_, ?_⟩
  · rw [hstats, hshared]
    exact hentry.stats
  · rw [hresponses, hshared]
    rfl
  · rw [h.scheduledOf_turn hpop hdispatched hshared hturn (by decide), hentry.hits]
  · rw [h.scheduledOf_turn hpop hdispatched hshared hturn (by decide), hentry.misses]

/-- Lookups and requests to issue the next request are neither hits nor misses. -/
theorem Simulator.Entry.nothing {effect : Effect} (hstats : effect.stats = s.shared.stats)
    (hevents : ∀ r ∈ effect.events, r.type = .localCacheLookup ∨ r.type = .generateRequest) :
    s.Entry effect none 0 0 := by
  have hnone : ∀ type : EventType, type ≠ .localCacheLookup → type ≠ .generateRequest →
      effect.events.countP (fun e => e.type = type) = 0 := by
    intro type hlookup hgenerate
    rw [List.countP_eq_zero]
    intro r hr heq
    have htype : r.type = type := of_decide_eq_true heq
    rcases hevents r hr with hr | hr
    · exact hlookup (htype.symm.trans hr)
    · exact hgenerate (htype.symm.trans hr)
  exact ⟨hstats, trivial, hnone _ (by decide) (by decide), hnone _ (by decide) (by decide)⟩

/-- What a compute node books. -/
theorem RunInv.books_compute (h : RunInv s phase base) {event : Event} {scheduler : Scheduler}
    {node node' : ComputeNode P} (hfind : s.computeNodes.find event.targetId = some node)
    {effect : Effect}
    (hstep : ComputeNode.ComputeStep .exact node event (s.popped scheduler).shared node' effect)
    {t : Simulator P} (hbooked : ∀ {recording : Option Stats.Recording} {hits misses : Nat},
      s.Entry effect recording hits misses →
        Booked s t recording effect.responses hits misses) :
    s.Books t event.record := by
  have hmem : event.targetId ∈ s.nodeIds := by
    obtain ⟨hnode, hkey⟩ := h.node_of_find hfind
    obtain ⟨nodeConfig, hconfig, hid, -⟩ := hnode.configured
    exact List.mem_map.mpr ⟨nodeConfig, hconfig, hid.symm.trans hkey⟩
  have hkey : node.nodeId = event.targetId := KeyedStore.key_of_find hfind
  cases hstep with
  | drained htype hup =>
      refine .nothing (Or.inl htype) (hbooked (.nothing rfl ?_))
      exact fun r hr => absurd hr List.not_mem_nil
  | issue htype hup =>
      refine .nothing (Or.inl htype) (hbooked (.nothing rfl ?_))
      intro r hr
      rcases List.mem_cons.mp hr with rfl | hburst
      · exact Or.inl rfl
      · exact Or.inr (ComputeNode.mem_nextBurst hburst).1
  | hit htype hrequest =>
      refine .hit htype (hbooked ⟨?_, hmem, rfl, rfl⟩)
      exact congrArg s.shared.stats.recordCacheHit hkey
  | miss htype hrequest =>
      refine .miss htype (hbooked ⟨?_, hmem, rfl, rfl⟩)
      exact congrArg s.shared.stats.recordCacheMiss hkey
  | @hitComplete request htype hrequest =>
      refine .answer (ComputeNode.hitResponse .exact request event.time) (Or.inl htype)
        (hbooked ⟨?_, hmem, rfl, rfl⟩)
      exact congrArg (fun id => s.shared.stats.recordLatency .exact id _) hkey
  | @returned request htype hrequest =>
      refine .answer (ComputeNode.memoryResponse .exact request event.time) (Or.inr htype)
        (hbooked ⟨?_, hmem, rfl, rfl⟩)
      exact congrArg (fun id => s.shared.stats.recordLatency .exact id _) hkey
  | complete htype =>
      refine .nothing (Or.inr htype) (hbooked (.nothing rfl ?_))
      exact fun r hr => Or.inr (ComputeNode.mem_nextOnCompletion hr).1

/-- A request that starts its service was put into its queue when it arrived. -/
theorem RunInv.enqueued_of_start (h : RunInv s phase base) {e : EventRecord}
    (hpending : e ∈ s.view.pending) (htype : e.type = .memoryServiceStart) {request : Request}
    (hrequest : s.shared.requestTable.find e.requestId = some request) :
    request.memoryEnqueueTime = request.ticket.arrival s.config := by
  have hwait := h.lifecycle.pending_eq hpending hrequest
  exact (h.lifecycle.tracks _ request hrequest).enqueued
    (Phase.arrived_of_start s.config request.ticket hwait htype).1

/-- What the memory node books. -/
theorem RunInv.books_memory (h : RunInv s phase base) {event : Event} {scheduler : Scheduler}
    (hpending : event.record ∈ s.view.pending) {memoryNode : MemoryNode} {effect : Effect}
    (hstep : MemoryNode.MemoryStep .exact s.memoryNode event (s.popped scheduler).shared
      memoryNode effect)
    {t : Simulator P} (hbooked : ∀ {recording : Option Stats.Recording} {hits misses : Nat},
      s.Entry effect recording hits misses →
        Booked s t recording effect.responses hits misses) :
    s.Books t event.record := by
  have hticket : ∀ {request new : Request},
      s.shared.requestTable.find event.requestId = some request → new.ticket = request.ticket →
      s.view.tickets event.record.requestId = some new.ticket := by
    intro request new hfind heq
    show (s.shared.requestTable.find event.requestId).map Request.ticket = _
    rw [hfind, heq]
    rfl
  cases hstep with
  | @forwardIdle request channel htype hrequest
  | @forwardBusy request channel htype hrequest =>
      refine .arrival (MemoryNode.enqueued request event.time)
        (channel.queuedRequests.length + 1) htype (hticket hrequest rfl)
        (hbooked ⟨?_, rfl, rfl, rfl⟩)
      show MemoryNode.arrivalStats _ _ _ _ = _
      rw [h.channelFor_eq]
      rfl
  | @start request channel rest htype hrequest =>
      refine .wait { request with currentStage := .waitingForResponse } htype
        (hticket hrequest rfl) (hbooked ⟨?_, rfl, rfl, rfl⟩)
      show MemoryNode.waitStats .exact _ _ _ _ = _
      rw [h.channelFor_eq, h.enqueued_of_start hpending htype hrequest]
      rfl
  | @completeIdle request channel htype hrequest
  | @completeNext request channel next rest htype hrequest =>
      refine .service request htype (hticket hrequest rfl) (hbooked ⟨?_, rfl, rfl, rfl⟩)
      show Stats.recordObjectService .exact _ _ _ _ = _
      rw [h.channelFor_eq, h.serviceTimeFor_eq]
      rfl

/-- What a turn books. -/
theorem RunInv.books (h : RunInv s phase base) {t : Simulator P}
    (hmove : Run.Moves (step .exact) s t) :
    ∃ e, t.eventLog = s.eventLog ++ [e] ∧ (s.Advances t e ∨ s.Issues t e) ∧ s.Books t e := by
  obtain ⟨e, hpending, hlog, hturn⟩ := h.turn_spec hmove
  refine ⟨e, hlog, hturn, ?_⟩
  obtain ⟨event, scheduler, s', hpop, hdispatched, rfl⟩ := moves_iff.mp hmove
  have hevent : event.record = e := by
    rw [(release_log .exact s').1, (dispatched_log hdispatched).1] at hlog
    exact List.singleton_inj.mp (List.append_cancel_left hlog)
  subst hevent
  cases hdispatched with
  | compute hfind hstep =>
      exact h.books_compute hfind hstep
        (h.booked_of_entry hpop (.compute hfind hstep) rfl hturn)
  | memory hfind htarget hstep =>
      exact h.books_memory hpending hstep
        (h.booked_of_entry hpop (.memory hfind htarget hstep) rfl hturn)

end Turn

-- ============================================================================
-- The telemetry is a ledger of the log
-- ============================================================================

namespace Simulator

variable {P : CachePolicy}

/-- What the log is worth. -/
def ledger (s : Simulator P) : Stats.Totals :=
  { remoteAccesses := s.weigh .forwardToMemory (fun _ _ => 1)
    queueWaitSamples := s.weigh .memoryServiceStart (fun _ _ => 1)
    totalQueueWait := s.weigh .memoryServiceStart (fun t time => time - t.arrival s.config)
    bytesServed := s.weigh .memoryServiceComplete (fun t _ => t.sizeBytes)
    totalRemoteServiceTime := s.weigh .memoryServiceComplete (fun t _ => t.serviceTime s.config) }

/-- A request of the node for the object in the epoch has been forwarded to memory. -/
def Forwarded (s : Simulator P) (epochId : EpochId) (objectId : ObjectId) (nodeId : NodeId) :
    Prop :=
  ∃ e ∈ s.eventLog, e.type = .forwardToMemory ∧ ∃ ticket,
    s.view.tickets e.requestId = some ticket ∧ ticket.epochId = epochId ∧
      ticket.objectId = objectId ∧ ticket.sourceNodeId = nodeId

/-- The statistics agree with each other, with the log and with the responses. -/
structure Telemetry (s : Simulator P) : Prop where
  consistent : s.shared.stats.Consistent s.nodeIds s.config.memoryChannelCount
  totals : s.shared.stats.totals = s.ledger
  hits : s.shared.stats.localCacheHits = s.scheduledOf .localCacheHitComplete
  misses : s.shared.stats.localCacheMisses = s.scheduledOf .forwardToMemory
  latencies : s.shared.stats.latencies = s.shared.responses.map Response.totalLatency
  latency : s.shared.stats.totalLatency = (s.shared.responses.map Response.totalLatency).sum
  requesters : ∀ epochId objectId nodeId,
    nodeId ∈ (s.shared.stats.objectBucket epochId objectId).requesters ↔
      s.Forwarded epochId objectId nodeId

theorem telemetry_init (P : CachePolicy) {config : SimulationConfig}
    (hprepared : Prepared config) (generatedWorkload : Option GeneratedWorkload) :
    Telemetry (releaseNextEpochIfReady .exact (ofConfig P config generatedWorkload)) := by
  have hfresh : ∀ s : Simulator P, s.eventLog = [] → s.shared.responses = [] →
      s.shared.stats = {} →
      (∀ type, type ≠ .generateRequest → s.view.pending.countP (fun e => e.type = type) = 0) →
      s.Telemetry := by
    intro s hlog hresponses hstats hpending
    have hweigh : ∀ type value, s.weigh type value = 0 := by
      intro type value
      unfold weigh
      rw [hlog]
      rfl
    refine ⟨?_, ?_, ?_, ?_, ?_, ?_, ?_⟩
    · rw [hstats]
      exact .init _ _
    · unfold ledger
      rw [hstats, hweigh, hweigh, hweigh, hweigh, hweigh]
      rfl
    · unfold scheduledOf
      rw [hstats, hweigh, hpending _ (by decide)]
    · unfold scheduledOf
      rw [hstats, hweigh, hpending _ (by decide)]
    · rw [hstats, hresponses]
      rfl
    · rw [hstats, hresponses]
      rfl
    · intro epochId objectId nodeId
      rw [hstats]
      refine ⟨fun hmem => absurd hmem (Finset.notMem_empty _), ?_⟩
      rintro ⟨e, he, -⟩
      rw [hlog] at he
      exact absurd he List.not_mem_nil
  have hpending : ∀ type, type ≠ .generateRequest →
      (releaseNextEpochIfReady .exact
        (ofConfig P config generatedWorkload)).view.pending.countP (fun e => e.type = type) = 0 :=
    fun type htype => ((runInv_init P hprepared generatedWorkload fun _ => .lookup).release_countP
      htype).trans rfl
  have hkeeps := fun {α : Type} (f : Simulator P → α) =>
    release_keeps f .exact (ofConfig P config generatedWorkload)
  exact hfresh _ (hkeeps Simulator.eventLog fun _ => rfl)
    (hkeeps (fun t => t.shared.responses) fun _ => rfl)
    (hkeeps (fun t => t.shared.stats) fun _ => rfl) hpending

theorem ledger_turn {s : Simulator P} {phase : RequestId → Phase} {base : SimTime}
    (h : RunInv s phase base) {t : Simulator P} {e : EventRecord} (hconfig : t.config = s.config)
    (hlog : t.eventLog = s.eventLog ++ [e]) (hturn : s.Advances t e ∨ s.Issues t e) :
    t.ledger =
      { remoteAccesses := s.ledger.remoteAccesses +
          worth .forwardToMemory (fun _ _ => 1) (s.view.tickets e.requestId) e
        queueWaitSamples := s.ledger.queueWaitSamples +
          worth .memoryServiceStart (fun _ _ => 1) (s.view.tickets e.requestId) e
        totalQueueWait := s.ledger.totalQueueWait +
          worth .memoryServiceStart (fun t time => time - t.arrival s.config)
            (s.view.tickets e.requestId) e
        bytesServed := s.ledger.bytesServed +
          worth .memoryServiceComplete (fun t _ => t.sizeBytes) (s.view.tickets e.requestId) e
        totalRemoteServiceTime := s.ledger.totalRemoteServiceTime +
          worth .memoryServiceComplete (fun t _ => t.serviceTime s.config)
            (s.view.tickets e.requestId) e } := by
  unfold ledger
  rw [hconfig, h.weigh_turn hlog hturn (by decide), h.weigh_turn hlog hturn (by decide),
    h.weigh_turn hlog hturn (by decide), h.weigh_turn hlog hturn (by decide),
    h.weigh_turn hlog hturn (by decide)]

theorem forwarded_turn {s : Simulator P} {phase : RequestId → Phase} {base : SimTime}
    (h : RunInv s phase base) {t : Simulator P} {e : EventRecord}
    (hlog : t.eventLog = s.eventLog ++ [e]) (hturn : s.Advances t e ∨ s.Issues t e)
    (epochId : EpochId) (objectId : ObjectId) (nodeId : NodeId) :
    t.Forwarded epochId objectId nodeId ↔
      s.Forwarded epochId objectId nodeId ∨ e.type = .forwardToMemory ∧ ∃ ticket,
        s.view.tickets e.requestId = some ticket ∧ ticket.epochId = epochId ∧
          ticket.objectId = objectId ∧ ticket.sourceNodeId = nodeId := by
  have hlast : e.type = .forwardToMemory →
      t.view.tickets e.requestId = s.view.tickets e.requestId := by
    intro htype
    rcases hturn with hadvances | hissues
    · exact hadvances.tickets _
    · cases htype.symm.trans hissues.type_eq
  unfold Forwarded
  rw [hlog]
  constructor
  · rintro ⟨other, hother, htype, ticket, hticket, hkey⟩
    rcases List.mem_append.mp hother with hold | hnew
    · rw [h.logged_tickets hturn hold] at hticket
      exact Or.inl ⟨other, hold, htype, ticket, hticket, hkey⟩
    · obtain rfl := List.mem_singleton.mp hnew
      rw [hlast htype] at hticket
      exact Or.inr ⟨htype, ticket, hticket, hkey⟩
  · rintro (⟨other, hold, htype, ticket, hticket, hkey⟩ | ⟨htype, ticket, hticket, hkey⟩)
    · rw [← h.logged_tickets hturn hold] at hticket
      exact ⟨other, List.mem_append_left _ hold, htype, ticket, hticket, hkey⟩
    · rw [← hlast htype] at hticket
      exact ⟨e, List.mem_append_right _ (List.mem_singleton_self e), htype, ticket, hticket, hkey⟩

/-- A turn that books what its event is worth keeps the ledger. -/
theorem Telemetry.of_booked {s t : Simulator P} (ht : s.Telemetry)
    (hnodup : s.nodeIds.Nodup) (hconfig : t.config = s.config)
    {recording : Option Stats.Recording} {answers : List Response} {hits misses : Nat}
    (hbooked : Booked s t recording answers hits misses) {stats : Stats}
    (hstats : recording.elim s.shared.stats (s.shared.stats.record .exact) = stats)
    (htotals : stats.totals = t.ledger)
    (hhits : stats.localCacheHits = s.shared.stats.localCacheHits + hits)
    (hmisses : stats.localCacheMisses = s.shared.stats.localCacheMisses + misses)
    (hlatencies : stats.latencies =
      s.shared.stats.latencies ++ answers.map Response.totalLatency)
    (hlatency : stats.totalLatency =
      s.shared.stats.totalLatency + (answers.map Response.totalLatency).sum)
    (hrequesters : ∀ epochId objectId nodeId,
      nodeId ∈ (stats.objectBucket epochId objectId).requesters ↔
        t.Forwarded epochId objectId nodeId) : t.Telemetry := by
  have hnew : t.shared.stats = stats := hbooked.stats.trans hstats
  have hnodes : t.nodeIds = s.nodeIds := by
    unfold nodeIds
    rw [hconfig]
  refine ⟨?_, ?_, ?_, ?_, ?_, ?_, ?_⟩
  · rw [hnodes, hconfig, hbooked.stats]
    have hvalid := hbooked.valid
    cases recording with
    | none => exact ht.consistent
    | some r => exact ht.consistent.record hnodup hvalid
  · rw [hnew, htotals]
  · rw [hnew, hhits, ht.hits, hbooked.hits]
  · rw [hnew, hmisses, ht.misses, hbooked.misses]
  · rw [hnew, hlatencies, ht.latencies, hbooked.responses, List.map_append]
  · rw [hnew, hlatency, ht.latency, hbooked.responses, List.map_append, List.sum_append]
  · rw [hnew]
    exact hrequesters

theorem Telemetry.move {s : Simulator P} {phase : RequestId → Phase} {base : SimTime}
    (ht : s.Telemetry) (h : RunInv s phase base) {t : Simulator P}
    (hmove : Run.Moves (step .exact) s t) : t.Telemetry := by
  obtain ⟨hconfig, -, -⟩ := move_spec hmove
  obtain ⟨e, hlog, hturn, hbooks⟩ := h.books hmove
  have hledger := ledger_turn h hconfig hlog hturn
  have hnodup : s.nodeIds.Nodup := h.prepared.nodeIds_nodup
  -- an event that is no arrival adds no requester
  have hsame : e.type ≠ .forwardToMemory → ∀ epochId objectId nodeId,
      nodeId ∈ (s.shared.stats.objectBucket epochId objectId).requesters ↔
        t.Forwarded epochId objectId nodeId := by
    intro htype epochId objectId nodeId
    rw [ht.requesters, forwarded_turn h hlog hturn]
    exact ⟨Or.inl, fun hor => hor.resolve_right fun hboth => htype hboth.1⟩
  cases hbooks with
  | nothing htype hbooked =>
      refine ht.of_booked hnodup hconfig hbooked rfl ?_ rfl rfl (List.append_nil _).symm rfl ?_
      · rw [hledger]
        rcases htype with htype | htype <;> simp only [worth, htype] <;> exact ht.totals
      · exact hsame (by rcases htype with htype | htype <;> rw [htype] <;> decide)
  | hit htype hbooked =>
      refine ht.of_booked hnodup hconfig hbooked rfl ?_ rfl rfl (List.append_nil _).symm rfl
        (hsame (by rw [htype]; decide))
      rw [hledger]
      simp only [worth, htype]
      exact ht.totals
  | miss htype hbooked =>
      refine ht.of_booked hnodup hconfig hbooked rfl ?_ rfl rfl (List.append_nil _).symm rfl
        (hsame (by rw [htype]; decide))
      rw [hledger]
      simp only [worth, htype]
      exact ht.totals
  | answer p htype hbooked =>
      refine ht.of_booked hnodup hconfig hbooked rfl ?_ rfl rfl rfl rfl
        (hsame (by rcases htype with htype | htype <;> rw [htype] <;> decide))
      rw [hledger]
      rcases htype with htype | htype <;> simp only [worth, htype] <;> exact ht.totals
  | arrival request depth htype hticket hbooked =>
      refine ht.of_booked hnodup hconfig hbooked (Option.elim_some ..) ?_
        rfl rfl (List.append_nil _).symm rfl ?_
      · rw [hledger, hticket, ← ht.totals]
        simp only [worth, htype]
        exact Stats.totals_recordRemoteAccess _ _ _ _
      · intro epochId objectId nodeId
        rw [forwarded_turn h hlog hturn, ← ht.requesters]
        rw [Stats.requesters_record, hticket]
        simp only
        by_cases hkey : epochId = request.epochId ∧ objectId = request.objectId
        · rw [if_pos hkey, Finset.mem_insert]
          constructor
          · rintro (hnode | hold)
            · exact Or.inr ⟨htype, _, rfl, hkey.1.symm, hkey.2.symm, hnode.symm⟩
            · exact Or.inl hold
          · rintro (hold | ⟨-, ticket, hsome, -, -, hnode⟩)
            · exact Or.inr hold
            · rw [← Option.some.inj hsome] at hnode
              exact Or.inl hnode.symm
        · rw [if_neg hkey]
          refine ⟨Or.inl, ?_⟩
          rintro (hold | ⟨-, ticket, hsome, hepoch, hobject, -⟩)
          · exact hold
          · rw [← Option.some.inj hsome] at hepoch hobject
            exact absurd ⟨hepoch.symm, hobject.symm⟩ hkey
  | wait request htype hticket hbooked =>
      refine ht.of_booked hnodup hconfig hbooked (Option.elim_some ..) ?_
        rfl rfl (List.append_nil _).symm rfl ?_
      · rw [hledger, hticket, ← ht.totals]
        simp only [worth, htype]
        exact Stats.totals_recordObjectQueueWait _ _ _ _
      · intro epochId objectId nodeId
        rw [Stats.requesters_record]
        exact hsame (by rw [htype]; decide) epochId objectId nodeId
  | service request htype hticket hbooked =>
      refine ht.of_booked hnodup hconfig hbooked (Option.elim_some ..) ?_
        rfl rfl (List.append_nil _).symm rfl ?_
      · rw [hledger, hticket, ← ht.totals]
        simp only [worth, htype]
        exact Stats.totals_recordObjectService _ _ _ _
      · intro epochId objectId nodeId
        rw [Stats.requesters_record]
        exact hsame (by rw [htype]; decide) epochId objectId nodeId

theorem telemetry_of_reachable {P : CachePolicy} {config : SimulationConfig}
    (hprepared : Prepared config) {generatedWorkload : Option GeneratedWorkload}
    {t : Simulator P} (h : Reachable .exact (ofConfig P config generatedWorkload) t) :
    t.Telemetry := by
  have hboth : TurnInv t ∧ t.Telemetry := by
    refine Run.invariant_of_reaches (fun t => TurnInv t ∧ t.Telemetry) ?_
      ⟨turnInv_init hprepared, telemetry_init P hprepared generatedWorkload⟩ h
    rintro a b ⟨hturn, ht⟩ hmove
    have hnext := turnInv_move hturn hmove
    obtain ⟨⟨phase, base, hrun⟩, -⟩ := hturn
    exact ⟨hnext, ht.move hrun hmove⟩
  exact hboth.2

end Simulator

-- ============================================================================
-- Sums over the log and sums over the responses
-- ============================================================================

section Sums

variable {P : CachePolicy} {s : Simulator P} {phase : RequestId → Phase} {base : SimTime}

open Simulator

/-- The log, weighed request by request. -/
theorem RunInv.weigh_eq (h : RunInv s phase base) (type : EventType)
    (value : Ticket → SimTime → Nat) :
    s.weigh type value = (s.shared.requestTable.items.map fun request =>
      (((phase request.requestId).logged s.config request.ticket).map
        (worth type value (some request.ticket))).sum).sum := by
  have hkeys : ∀ e ∈ s.eventLog, worth type value (s.view.tickets e.requestId) e ≠ 0 →
      e.requestId ∈ s.shared.requestTable.items.map Request.requestId := by
    intro e _ hne
    cases hfind : s.shared.requestTable.find e.requestId with
    | none =>
        refine absurd ?_ hne
        unfold worth View.tickets
        rw [show s.view.requestTable.find e.requestId = none from hfind]
        exact ite_self 0
    | some request =>
        obtain ⟨hmem, hid⟩ := KeyedStore.find_eq_some.mp hfind
        exact List.mem_map.mpr ⟨request, hmem, hid⟩
  unfold weigh
  rw [sum_eq_sum_filter EventRecord.requestId _ s.shared.requestTable.nodup hkeys, List.map_map]
  refine congrArg List.sum (List.map_congr_left fun request hmem => ?_)
  obtain ⟨hfind, hticket⟩ := RunInv.ticket_of_mem hmem
  have hlogged := (h.lifecycle.tracks _ request hfind).logged
  rw [← hlogged]
  refine congrArg List.sum (List.map_congr_left fun e he => ?_)
  have hid : e.requestId = request.requestId := by simpa using (List.mem_filter.mp he).2
  rw [hid, hticket]

/-- The responses, summed request by request. -/
theorem RunInv.sum_responses (h : RunInv s phase base) (g : Response → Nat) :
    (s.shared.responses.map g).sum = (s.shared.requestTable.items.map fun request =>
      (((phase request.requestId).answers s.config request.ticket).map g).sum).sum := by
  have hkeys : ∀ p ∈ s.shared.responses, g p ≠ 0 →
      p.requestId ∈ s.shared.requestTable.items.map Request.requestId := by
    intro p hp _
    have hsome := (h.lifecycle.ids p.requestId).mpr (h.lifecycle.response_ids p hp)
    obtain ⟨request, hfind⟩ := Option.isSome_iff_exists.mp hsome
    obtain ⟨hmem, hid⟩ := KeyedStore.find_eq_some.mp hfind
    exact List.mem_map.mpr ⟨request, hmem, hid⟩
  rw [sum_eq_sum_filter Response.requestId g s.shared.requestTable.nodup hkeys, List.map_map]
  refine congrArg List.sum (List.map_congr_left fun request hmem => ?_)
  have hanswered := (h.lifecycle.tracks _ request (RunInv.ticket_of_mem hmem).1).answered
  rw [← hanswered]
  rfl

/-- With nothing pending, what the events of each request are worth is what its
    response is worth. -/
theorem RunInv.weigh_of_drained (h : RunInv s phase base) (hnil : s.view.pending = 0)
    {type : EventType} {value : Ticket → SimTime → Nat} {g : Response → Nat}
    (hended : ∀ (t : Ticket) (phase : Phase), phase.Ended →
      ((phase.logged s.config t).map (worth type value (some t))).sum =
        ((phase.answers s.config t).map g).sum) :
    s.weigh type value = (s.shared.responses.map g).sum := by
  rw [h.weigh_eq, h.sum_responses]
  refine congrArg List.sum (List.map_congr_left fun request hmem => ?_)
  exact hended _ _ (h.ended_of_drained hnil (RunInv.ticket_of_mem hmem).2)

/-- What the service of a miss is worth. -/
theorem Phase.worth_missEnd_start (config : SimulationConfig) (t : Ticket) (start : SimTime)
    (value : Ticket → SimTime → Nat) :
    (((Phase.missEnd start).logged config t).map
      (worth .memoryServiceStart value (some t))).sum = value t start := by
  show 0 + (0 + (value t start + 0)) = value t start
  omega

theorem Phase.worth_missEnd_complete (config : SimulationConfig) (t : Ticket) (start : SimTime)
    (value : Ticket → SimTime → Nat) :
    (((Phase.missEnd start).logged config t).map
      (worth .memoryServiceComplete value (some t))).sum = value t (t.serviceEnd config start) := by
  show 0 + (0 + (0 + (value t (t.serviceEnd config start) + 0))) = _
  omega

/-- What the ledger of a request that has ended holds. -/
theorem Phase.counts_of_ended (config : SimulationConfig) (t : Ticket) {phase : Phase}
    (hended : phase.Ended) (type : EventType)
    (htype : type = .forwardToMemory ∨ type = .memoryServiceStart) :
    ((phase.logged config t).map (worth type (fun _ _ => 1) (some t))).sum =
      ((phase.answers config t).map
        (fun p => if p.servedFromTier = .memory then 1 else 0)).sum := by
  cases phase with
  | hitEnd => rcases htype with rfl | rfl <;> rfl
  | missEnd start => rcases htype with rfl | rfl <;> rfl
  | _ => exact hended.elim

theorem RunInv.misses_of_drained (h : RunInv s phase base) (ht : s.Telemetry)
    (hnil : s.view.pending = 0) :
    s.shared.stats.localCacheMisses =
      (s.shared.responses.map (fun p => if p.servedFromTier = .memory then 1 else 0)).sum := by
  rw [ht.misses]
  unfold scheduledOf
  rw [hnil, Multiset.countP_zero, Nat.add_zero]
  exact h.weigh_of_drained hnil fun t phase hended =>
    Phase.counts_of_ended s.config t hended _ (Or.inl rfl)

theorem RunInv.hits_of_drained (h : RunInv s phase base) (ht : s.Telemetry)
    (hnil : s.view.pending = 0) :
    s.shared.stats.localCacheHits =
      (s.shared.responses.map (fun p => if p.servedFromTier = .localCache then 1 else 0)).sum := by
  rw [ht.hits]
  unfold scheduledOf
  rw [hnil, Multiset.countP_zero, Nat.add_zero]
  refine h.weigh_of_drained hnil fun t phase hended => ?_
  cases phase with
  | hitEnd => rfl
  | missEnd start => rfl
  | _ => exact hended.elim

/-- The ids of the issued requests count up from one. -/
theorem RunInv.requestIds_perm (h : RunInv s phase base) :
    (s.shared.requestTable.items.map Request.requestId).Perm
      (List.range' 1 (s.shared.nextRequestId - 1)) := by
  rw [List.perm_ext_iff_of_nodup s.shared.requestTable.nodup List.nodup_range']
  intro id
  have hsome : id ∈ s.shared.requestTable.items.map Request.requestId ↔
      (s.shared.requestTable.find id).isSome := by
    rw [Option.isSome_iff_exists, List.mem_map]
    exact exists_congr fun request => KeyedStore.find_eq_some.symm
  rw [hsome, show (s.shared.requestTable.find id).isSome ↔ _ from h.lifecycle.ids id,
    List.mem_range'_1]
  show 1 ≤ id ∧ id < s.shared.nextRequestId ↔ _
  lia

theorem RunInv.length_requests (h : RunInv s phase base) :
    s.shared.requestTable.items.length + 1 = s.shared.nextRequestId := by
  have hlength := h.requestIds_perm.length_eq
  rw [List.length_map, List.length_range'] at hlength
  have hissued := h.issued
  lia

end Sums

namespace Simulator

-- ============================================================================
-- Conservation at the end of a run
-- ============================================================================

variable {P : CachePolicy}

/-- The nodes that missed on an object in an epoch: the sources of its requests that
    were served from memory. -/
def missSources (s : Simulator P) (epochId : EpochId) (objectId : ObjectId) : Finset NodeId :=
  ((s.shared.requestTable.items.filter fun request =>
    request.epochId = epochId ∧ request.objectId = objectId ∧
      ∃ p ∈ s.shared.responses, p.requestId = request.requestId ∧
        p.servedFromTier = .memory).map Request.sourceNodeId).toFinset

/-- The figures of a finished run agree with each other and with the responses. -/
structure TelemetryConserved (s : Simulator P) : Prop where
  channels : ∀ epochId channelId,
    s.shared.stats.ChannelConserved s.config.memoryChannelCount epochId channelId
  remoteAccesses : (s.shared.stats.allContentionStats.map
    ObjectContentionStats.remoteAccesses).sum = s.shared.stats.localCacheMisses
  queueWaitSamples : (s.shared.stats.allContentionStats.map
    ObjectContentionStats.queueWaitSamples).sum = s.shared.stats.localCacheMisses
  bytesServed : (s.shared.stats.allContentionStats.map ObjectContentionStats.bytesServed).sum =
    ((s.shared.responses.filter (fun p => p.servedFromTier = .memory)).map
      Response.bytesTransferred).sum
  totalQueueWait : (s.shared.stats.allContentionStats.map
    ObjectContentionStats.totalQueueWait).sum = s.shared.stats.totalMemoryWait
  distinctRequesters : ∀ epochId, ∀ row ∈ s.shared.stats.contentionByEpoch epochId,
    row.distinctRequesters = (s.missSources epochId row.objectId).card
  nodes : s.shared.stats.NodesBalanced s.nodeIds
  lookups : s.shared.stats.localCacheHits + s.shared.stats.localCacheMisses =
    s.shared.stats.completedRequests
  completed : s.shared.stats.completedRequests = s.shared.requestTable.items.length
  issued : s.shared.requestTable.items.length + 1 = s.shared.nextRequestId

end Simulator

section Conserved

variable {P : CachePolicy} {s : Simulator P} {phase : RequestId → Phase} {base : SimTime}

open Simulator

/-- A request that has ended was forwarded just when it was served from memory. -/
theorem Phase.forwarded_iff (config : SimulationConfig) (t : Ticket) {phase : Phase}
    (hended : phase.Ended) :
    (∃ e ∈ phase.logged config t, e.type = .forwardToMemory) ↔
      ∃ p ∈ phase.answers config t, p.servedFromTier = .memory := by
  cases phase with
  | hitEnd =>
      refine ⟨?_, ?_⟩
      · rintro ⟨e, he, htype⟩
        simp only [Phase.logged, List.mem_cons, List.not_mem_nil, or_false] at he
        rcases he with rfl | rfl | rfl <;> cases htype
      · rintro ⟨p, hp, htier⟩
        rw [List.mem_singleton.mp hp] at htier
        cases htier
  | missEnd start =>
      exact ⟨fun _ => ⟨_, List.mem_singleton_self _, rfl⟩,
        fun _ => ⟨_, List.mem_cons_of_mem _ List.mem_cons_self, rfl⟩⟩
  | _ => exact hended.elim

/-- With nothing pending, the requesters of an object are the nodes that missed on it. -/
theorem RunInv.requesters_eq (h : RunInv s phase base) (ht : s.Telemetry)
    (hnil : s.view.pending = 0) (epochId : EpochId) (objectId : ObjectId) :
    (s.shared.stats.objectBucket epochId objectId).requesters =
      s.missSources epochId objectId := by
  have hlogged : ∀ {request : Request}, request ∈ s.shared.requestTable.items →
      ((∃ e ∈ s.eventLog, e.requestId = request.requestId ∧ e.type = .forwardToMemory) ↔
        ∃ p ∈ s.shared.responses, p.requestId = request.requestId ∧
          p.servedFromTier = .memory) := by
    intro request hmem
    obtain ⟨hfind, hticket⟩ := RunInv.ticket_of_mem hmem
    have htracks := h.lifecycle.tracks _ request hfind
    have hiff := Phase.forwarded_iff s.config request.ticket (h.ended_of_drained hnil hticket)
    rw [← htracks.logged, ← htracks.answered] at hiff
    simp only [List.mem_filter, decide_eq_true_eq, and_assoc] at hiff
    exact hiff
  ext nodeId
  rw [ht.requesters]
  unfold missSources Forwarded
  simp only [List.mem_toFinset, List.mem_map, List.mem_filter, decide_eq_true_eq]
  constructor
  · rintro ⟨e, he, htype, ticket, hticket, hepoch, hobject, hsource⟩
    unfold View.tickets at hticket
    obtain ⟨request, hfind, rfl⟩ := Option.map_eq_some_iff.mp hticket
    obtain ⟨hmem, hid⟩ := KeyedStore.find_eq_some.mp hfind
    exact ⟨request, ⟨hmem, hepoch, hobject, (hlogged hmem).mp ⟨e, he, hid.symm, htype⟩⟩, hsource⟩
  · rintro ⟨request, ⟨hmem, hepoch, hobject, hserved⟩, hsource⟩
    obtain ⟨e, he, hid, htype⟩ := (hlogged hmem).mpr hserved
    refine ⟨e, he, htype, request.ticket, ?_, hepoch, hobject, hsource⟩
    rw [hid]
    exact (RunInv.ticket_of_mem hmem).2

/-- With nothing pending, the telemetry is conserved. -/
theorem RunInv.telemetryConserved (h : RunInv s phase base) (ht : s.Telemetry)
    (hnil : s.view.pending = 0) : s.TelemetryConserved := by
  have hcount : ∀ type, type = .forwardToMemory ∨ type = .memoryServiceStart →
      s.weigh type (fun _ _ => 1) = s.shared.stats.localCacheMisses := by
    intro type htype
    rw [h.misses_of_drained ht hnil]
    exact h.weigh_of_drained hnil fun t phase hended =>
      Phase.counts_of_ended s.config t hended type htype
  have hbytes : s.weigh .memoryServiceComplete (fun t _ => t.sizeBytes) =
      (s.shared.responses.map
        (fun p => if p.servedFromTier = .memory then p.bytesTransferred else 0)).sum := by
    refine h.weigh_of_drained hnil fun t phase hended => ?_
    cases phase with
    | hitEnd => rfl
    | missEnd start => exact Phase.worth_missEnd_complete s.config t start _
    | _ => exact hended.elim
  have hcompleted : s.shared.stats.completedRequests = s.shared.responses.length := by
    unfold Stats.completedRequests
    rw [ht.latencies, List.length_map]
  refine ⟨ht.consistent.channelConserved, ?_, ?_, ?_, ?_, ?_, ht.consistent.nodes, ?_, ?_,
    h.length_requests⟩
  · rw [← Stats.overAll_eq fun _ => rfl]
    exact (congrArg Stats.Totals.remoteAccesses ht.totals).trans (hcount _ (Or.inl rfl))
  · rw [← Stats.overAll_eq fun _ => rfl]
    exact (congrArg Stats.Totals.queueWaitSamples ht.totals).trans (hcount _ (Or.inr rfl))
  · rw [← Stats.overAll_eq fun _ => rfl]
    refine ((congrArg Stats.Totals.bytesServed ht.totals).trans hbytes).trans ?_
    have hfilter := UnorderedMap.foldr_map_filter (· + ·)
      (fun p : Response => decide (p.servedFromTier = .memory)) Response.bytesTransferred
      s.shared.responses
    simp only [decide_eq_true_eq] at hfilter
    exact hfilter.symm
  · rw [← Stats.overAll_eq fun _ => rfl]
    exact ht.consistent.queueWait
  · intro epochId row hrow
    have hsnapshot := congrArg ObjectContentionStats.distinctRequesters
      (ht.consistent.stamped.row hrow)
    rw [hsnapshot, ← h.requesters_eq ht hnil]
    rfl
  · rw [h.hits_of_drained ht hnil, h.misses_of_drained ht hnil, hcompleted, ← List.sum_map_add]
    generalize s.shared.responses = responses
    induction responses with
    | nil => rfl
    | cons p rest ih =>
        rw [List.map_cons, List.sum_cons, ih, List.length_cons]
        cases p.servedFromTier <;> exact Nat.add_comm _ _
  · rw [hcompleted]
    have hlength := (h.responses_perm hnil).length_eq
    rw [List.length_map, List.length_map] at hlength
    exact hlength

end Conserved

namespace Simulator

/-- At the end of every run of an accepted configuration the telemetry is conserved. -/
theorem run_telemetryConserved {rng : RandomSource} {config : SimulationConfig}
    {s : Simulator (makeCachePolicy .exact config.localCache)}
    (h : construct .exact rng config = .ok s) :
    (∃ final, RunsTo .exact s final) ∧
      ∀ final, RunsTo .exact s final → final.TelemetryConserved := by
  obtain ⟨prepared, generatedWorkload, rfl, hprepared⟩ := construct_spec h
  refine ⟨exists_runsTo _ hprepared generatedWorkload, fun final hfinal => ?_⟩
  obtain ⟨⟨phase, base, hrun⟩, -⟩ := turnInv_of_reachable hprepared hfinal.reaches
  exact hrun.telemetryConserved (telemetry_of_reachable hprepared hfinal.reaches)
    (halted_iff.mp hfinal.halted)

theorem contendedConfig_telemetryConserved :
    ∃ s, construct .exact lowestSource contendedConfig = .ok s ∧
      (∃ final, RunsTo .exact s final) ∧
        ∀ final, RunsTo .exact s final → final.TelemetryConserved :=
  ⟨_, rfl, run_telemetryConserved
    (show construct .exact lowestSource contendedConfig = .ok _ from rfl)⟩

end Simulator

end DmSimulator
