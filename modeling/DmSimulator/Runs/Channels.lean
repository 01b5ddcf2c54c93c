/-
  DmSimulator.Runs.Channels

  The memory channels refine the FIFO queue recursion, with unbounded time.

  `forwards` lists the `ForwardToMemory` events of a channel as they were
  processed, and `jobs` reads the arrival and service times off them.  The
  service events of the requests are then on the log at the times `Fifo.starts`
  computes from the channel's own jobs, whatever happens on other channels.
-/
import DmSimulator.Runs.Completion
import Mathlib.Algebra.Order.Floor.Div

namespace DmSimulator

namespace Simulator

variable {P : CachePolicy}

-- ============================================================================
-- What a channel has seen
-- ============================================================================

/-- The channel the event's request is mapped to. -/
def channelOfEvent (s : Simulator P) (e : EventRecord) : Option MemoryChannelId :=
  (s.shared.requestTable.find e.requestId).map fun request =>
    memoryChannelForObject request.objectId s.config.memoryChannelCount

/-- The `ForwardToMemory` events of a channel, in the order they were processed. -/
def forwards (s : Simulator P) (c : MemoryChannelId) : List EventRecord :=
  s.eventLog.filter (fun e => e.type = .forwardToMemory ∧ s.channelOfEvent e = some c)

/-- Base latency plus the size over the bandwidth, rounded up. -/
def serviceTimeOf (s : Simulator P) (e : EventRecord) : SimTime :=
  match s.shared.requestTable.find e.requestId with
  | none => 0
  | some request =>
      s.config.memoryBaseLatency +
        (request.sizeBytes : Nat) ⌈/⌉ (s.config.memoryBandwidthBytesPerTime : Nat)

/-- The arrival and service times on a channel. -/
def jobs (s : Simulator P) (c : MemoryChannelId) : List Fifo.Job :=
  (s.forwards c).map fun e => { arrival := e.time, service := s.serviceTimeOf e }

/-- The events of one type that the request has on the log. -/
def eventsOf (s : Simulator P) (type : EventType) (id : RequestId) : List EventRecord :=
  s.eventLog.filter (fun e => e.type = type ∧ e.requestId = id)

def memoryEvent (s : Simulator P) (type : EventType) (id : RequestId) (time : SimTime) :
    EventRecord :=
  { time := time, type := type, targetId := s.config.memoryNodeId, requestId := id }

/-- The request that arrived with `e` has been served from `start` on: each of its
    two service events is on the log once, at the right time. -/
structure ServedFrom (s : Simulator P) (e : EventRecord) (start : SimTime) : Prop where
  started : s.eventsOf .memoryServiceStart e.requestId =
    [s.memoryEvent .memoryServiceStart e.requestId start]
  completed : s.eventsOf .memoryServiceComplete e.requestId =
    [s.memoryEvent .memoryServiceComplete e.requestId (start + s.serviceTimeOf e)]

/-- The log holds nothing else of the service, but it may not be finished yet. -/
structure ServingFrom (s : Simulator P) (e : EventRecord) (start : SimTime) : Prop where
  started : s.eventsOf .memoryServiceStart e.requestId <+:
    [s.memoryEvent .memoryServiceStart e.requestId start]
  completed : s.eventsOf .memoryServiceComplete e.requestId <+:
    [s.memoryEvent .memoryServiceComplete e.requestId (start + s.serviceTimeOf e)]

/-- The channel has behaved as a FIFO server so far. -/
structure FifoChannel (s : Simulator P) (c : MemoryChannelId) : Prop where
  arrivals_sorted : ((s.forwards c).map EventRecord.time).Pairwise (· ≤ ·)
  arrivals_once : ((s.forwards c).map EventRecord.requestId).Nodup
  recursion : Fifo.Recursion (s.jobs c) (Fifo.starts (s.jobs c))
  serving : List.Forall₂ s.ServingFrom (s.forwards c) (Fifo.starts (s.jobs c))

/-- The turn from `s` to `t` that starts the service of a request records the time
    since the request arrived as its queue wait. -/
def RecordsWait (s t : Simulator P) (start : EventRecord) : Prop :=
  ∃ request arrival, s.shared.requestTable.find start.requestId = some request ∧
    arrival ∈ s.forwards (memoryChannelForObject request.objectId s.config.memoryChannelCount) ∧
    arrival.requestId = start.requestId ∧ arrival.time ≤ start.time ∧
    t.shared.stats =
      (s.shared.stats.recordMemoryWait .exact (start.time - arrival.time)).recordObjectQueueWait
        .exact { request with currentStage := .waitingForResponse }
        (memoryChannelForObject request.objectId s.config.memoryChannelCount)
        (start.time - arrival.time)

-- ============================================================================
-- The log is in time order
-- ============================================================================

/-- The processed events are in time order and not in the future. -/
structure LogOrdered (s : Simulator P) : Prop where
  sorted : (s.eventLog.map EventRecord.time).Pairwise (· ≤ ·)
  past : ∀ e ∈ s.eventLog, e.time ≤ s.shared.scheduler.currentTime

theorem scheduleAll_currentTime (scheduler : Scheduler) (records : List EventRecord) :
    (scheduler.scheduleAll records).currentTime = scheduler.currentTime := by
  induction records generalizing scheduler with
  | nil => rfl
  | cons record rest ih =>
      rw [Scheduler.scheduleAll_cons, ih]
      exact Scheduler.schedule_currentTime scheduler _

theorem release_log (A : Arith) (s : Simulator P) :
    (releaseNextEpochIfReady A s).eventLog = s.eventLog ∧
      (releaseNextEpochIfReady A s).shared.scheduler.currentTime =
        s.shared.scheduler.currentTime :=
  ⟨release_keeps Simulator.eventLog A s fun _ => rfl,
    release_keeps (fun t => t.shared.scheduler.currentTime) A s fun _ =>
      scheduleAll_currentTime _ _⟩

theorem dispatched_log {A : Arith} {s s' : Simulator P} {event : Event}
    (h : Dispatched A s event s') : s'.eventLog = s.eventLog ++ [event.record] ∧
      s'.shared.scheduler.currentTime = s.shared.scheduler.currentTime := by
  cases h with
  | compute _ _ => exact ⟨rfl, scheduleAll_currentTime _ _⟩
  | memory _ _ _ => exact ⟨rfl, scheduleAll_currentTime _ _⟩

theorem logOrdered_move {s t : Simulator P} (hturn : TurnInv s) (h : s.LogOrdered)
    (hmove : Run.Moves (step .exact) s t) : t.LogOrdered := by
  obtain ⟨⟨phase, base, hrun⟩, -⟩ := hturn
  obtain ⟨event, scheduler, s', hpop, hdispatched, rfl⟩ := moves_iff.mp hmove
  obtain ⟨-, hle, htime, -, -⟩ := hrun.popped_ordered hpop
  obtain ⟨hlog, hnow⟩ := dispatched_log hdispatched
  obtain ⟨hlog', hnow'⟩ := release_log .exact s'
  have hall : ∀ e ∈ s.eventLog, e.time ≤ event.time := fun e he => le_trans (h.past e he) hle
  have hcurrent : s'.shared.scheduler.currentTime = event.time := hnow.trans htime
  refine ⟨?_, ?_⟩
  · rw [hlog', hlog]
    show ((s.eventLog ++ [event.record]).map EventRecord.time).Pairwise (· ≤ ·)
    rw [List.map_append, List.pairwise_append]
    refine ⟨h.sorted, List.pairwise_singleton _ _, ?_⟩
    intro time htime' last hlast
    obtain ⟨e, he, rfl⟩ := List.mem_map.mp htime'
    rw [List.mem_singleton.mp hlast]
    exact hall e he
  · rw [hlog', hlog, hnow', hcurrent]
    intro e he
    rcases List.mem_append.mp he with hin | hin
    · exact hall e hin
    · rw [List.mem_singleton.mp hin]
      exact le_refl _

theorem logOrdered_of_reachable {P : CachePolicy} {config : SimulationConfig}
    (hprepared : Prepared config) {generatedWorkload : Option GeneratedWorkload}
    {t : Simulator P} (h : Reachable .exact (ofConfig P config generatedWorkload) t) :
    t.LogOrdered := by
  have hboth : TurnInv t ∧ t.LogOrdered := by
    refine Run.invariant_of_reaches (fun t => TurnInv t ∧ t.LogOrdered) ?_ ?_ h
    · rintro a b ⟨hturn, hlog⟩ hmove
      exact ⟨turnInv_move hturn hmove, logOrdered_move hturn hlog hmove⟩
    · refine ⟨turnInv_init hprepared, ?_⟩
      obtain ⟨hlog, -⟩ := release_log .exact (ofConfig P config generatedWorkload)
      have hnil : (releaseNextEpochIfReady .exact
          (ofConfig P config generatedWorkload)).eventLog = [] := hlog
      refine ⟨by rw [hnil]; exact List.Pairwise.nil, ?_⟩
      rw [hnil]
      exact fun e he => absurd he List.not_mem_nil
  exact hboth.2

end Simulator

-- ============================================================================
-- The events of a request on its channel
-- ============================================================================

namespace Phase

variable (config : SimulationConfig) (t : Ticket)

/-- When the service of the request has ended. -/
def servedStart : Phase → Option SimTime
  | returning start | missDone start | missEnd start => some start
  | _ => none

theorem logged_forward {phase : Phase} {e : EventRecord} (h : e ∈ phase.logged config t)
    (htype : e.type = .forwardToMemory) :
    e = t.memoryEvent config (t.arrival config) .forwardToMemory := by
  cases phase <;>
    simp only [logged, List.mem_cons, List.not_mem_nil, or_false] at h <;>
    rcases h with rfl | rfl | rfl | rfl | rfl | rfl <;>
    first | rfl | cases htype

/-- A request that waits for its service to start has arrived. -/
theorem arrived_of_start {phase : Phase} {e : EventRecord} (h : phase.pending config t = some e)
    (htype : e.type = .memoryServiceStart) : phase.Arrived ∧
      t.memoryEvent config (t.arrival config) .forwardToMemory ∈ phase.logged config t := by
  cases phase with
  | starting start => exact ⟨trivial, List.mem_cons_of_mem _ List.mem_cons_self⟩
  | hitEnd => cases h
  | queued => cases h
  | missEnd start => cases h
  | _ =>
      rw [← Option.some.inj h] at htype
      cases htype

theorem filter_start (phase : Phase) :
    (phase.logged config t).filter (fun e => e.type = .memoryServiceStart) =
      (phase.place.start).elim []
        (fun start => [t.memoryEvent config start .memoryServiceStart]) := by
  cases phase <;> rfl

theorem filter_complete (phase : Phase) :
    (phase.logged config t).filter (fun e => e.type = .memoryServiceComplete) =
      (phase.servedStart).elim []
        (fun start => [t.memoryEvent config (t.serviceEnd config start) .memoryServiceComplete]) := by
  cases phase <;> rfl

theorem servedStart_eq {phase : Phase} {start : SimTime} (h : phase.place.start = some start) :
    phase.servedStart = none ∨ phase.servedStart = some start := by
  cases phase <;> simp_all [servedStart, place, Place.start]

theorem filter_forward_length (phase : Phase) :
    ((phase.logged config t).filter (fun e => e.type = .forwardToMemory)).length ≤ 1 := by
  cases phase <;> first | exact Nat.zero_le 1 | exact Nat.le_refl 1

/-- A request that has ended after it arrived has been served. -/
theorem servedStart_of_ended {phase : Phase} {e : EventRecord} (hended : phase.Ended)
    (h : e ∈ phase.logged config t) (htype : e.type = .forwardToMemory) :
    ∃ start, phase.servedStart = some start ∧ phase.place.start = some start := by
  cases phase with
  | missEnd start => exact ⟨start, rfl, rfl⟩
  | hitEnd =>
      simp only [logged, List.mem_cons, List.not_mem_nil, or_false] at h
      rcases h with rfl | rfl | rfl <;> cases htype
  | _ => exact hended.elim

end Phase

section Refinement

variable {P : CachePolicy} {s : Simulator P} {phase : RequestId → Phase} {base : SimTime}

/-- The log, restricted to one request. -/
theorem RunInv.eventsOf_eq (h : RunInv s phase base) {id : RequestId} {request : Request}
    (hfind : s.shared.requestTable.find id = some request) (type : EventType) :
    s.eventsOf type id =
      ((phase id).logged s.config request.ticket).filter (fun e => e.type = type) := by
  have hid : request.requestId = id := KeyedStore.key_of_find hfind
  have hlogged : s.eventLog.filter (fun e => e.requestId = request.requestId) =
      (phase id).logged s.config request.ticket := (h.lifecycle.tracks id request hfind).logged
  rw [← hlogged, List.filter_filter, hid]
  unfold Simulator.eventsOf
  apply List.filter_congr
  intro e _
  rw [Bool.decide_and]

theorem Simulator.mem_forwards {c : MemoryChannelId} {e : EventRecord} :
    e ∈ s.forwards c ↔ e ∈ s.eventLog ∧ e.type = .forwardToMemory ∧
      ∃ request, s.shared.requestTable.find e.requestId = some request ∧
        memoryChannelForObject request.objectId s.config.memoryChannelCount = c := by
  unfold Simulator.forwards Simulator.channelOfEvent
  simp [List.mem_filter]

/-- An arrival on the log is that of its request's ticket. -/
theorem RunInv.forward_eq (h : RunInv s phase base) {e : EventRecord} {request : Request}
    (he : e ∈ s.eventLog) (htype : e.type = .forwardToMemory)
    (hfind : s.shared.requestTable.find e.requestId = some request) :
    e = request.ticket.memoryEvent s.config (request.ticket.arrival s.config)
      .forwardToMemory := by
  have hid : request.requestId = e.requestId := KeyedStore.key_of_find hfind
  have hlogged : s.eventLog.filter (fun e => e.requestId = request.requestId) = _ :=
    (h.lifecycle.tracks e.requestId request hfind).logged
  have hmem : e ∈ s.eventLog.filter (fun e => e.requestId = request.requestId) := by
    rw [List.mem_filter]
    exact ⟨he, by simp [hid]⟩
  rw [hlogged] at hmem
  exact Phase.logged_forward _ _ hmem htype

/-- The arrivals of the server are those of the log. -/
theorem arrivals_eq_forwards (s : Simulator P) (c : MemoryChannelId) :
    arrivals s.config s.view.tickets s.eventLog c =
      (s.forwards c).map EventRecord.requestId := by
  unfold arrivals Simulator.forwards
  congr 1
  apply List.filter_congr
  intro e _
  unfold channelOf Simulator.channelOfEvent View.tickets
  cases hfind : s.shared.requestTable.find e.requestId with
  | none => simp [show s.view.requestTable.find e.requestId = none from hfind]
  | some request =>
      rw [show s.view.requestTable.find e.requestId = some request from hfind]
      rfl

/-- The jobs of the server are those of the log. -/
theorem RunInv.jobs_eq (h : RunInv s phase base) (c : MemoryChannelId) :
    s.jobs c = (arrivals s.config s.view.tickets s.eventLog c).map
      (jobOf s.config s.view.tickets) := by
  rw [arrivals_eq_forwards, List.map_map]
  apply List.map_congr_left
  intro e he
  obtain ⟨hlog, htype, request, hfind, -⟩ := Simulator.mem_forwards.mp he
  have heq := h.forward_eq hlog htype hfind
  have ht : s.view.tickets e.requestId = some request.ticket := by
    show (s.shared.requestTable.find e.requestId).map Request.ticket = _
    rw [hfind]
    rfl
  show _ = jobOf s.config s.view.tickets e.requestId
  rw [RunInv.jobOf_eq ht]
  unfold Simulator.serviceTimeOf
  rw [hfind]
  exact congrArg (fun time : SimTime => ({ arrival := time, service := _ } : Fifo.Job))
    (congrArg EventRecord.time heq)

/-- When an arrived request starts, it starts as the recursion says. -/
theorem ServerInv.start_of_arrival {config : SimulationConfig} {tickets : Tickets}
    {log : List EventRecord} {now : SimTime} {place : RequestId → Place} {c : MemoryChannelId}
    {channel : ChannelState} {served : List RequestId}
    (h : ServerInv config tickets log now place c channel served) {k : Nat} {id : RequestId}
    {start : SimTime} (hid : (arrivals config tickets log c)[k]? = some id)
    (hstart : (Fifo.starts ((arrivals config tickets log c).map (jobOf config tickets)))[k]? =
      some start) :
    (place id).start = none ∨ (place id).start = some start := by
  rw [h.arrivals_eq] at hid hstart
  rw [List.map_append, Fifo.starts_append] at hstart
  by_cases hk : k < served.length
  · right
    rw [List.getElem?_append_left hk] at hid
    rw [List.getElem?_append_left (by rw [Fifo.length_starts, List.length_map]; exact hk)] at hstart
    have hleft : (served.map (fun id => (place id).start))[k]? = some (place id).start := by
      rw [List.getElem?_map, hid]
      rfl
    rw [h.starts, List.getElem?_map, hstart] at hleft
    exact (Option.some.inj hleft).symm
  · left
    rw [List.getElem?_append_right (Nat.le_of_not_lt hk)] at hid
    have hmem : id ∈ channel.queuedRequests := List.mem_of_getElem? hid
    have hwaiting := (h.waiting_iff id (h.channelOf_queue hmem)).mp hmem
    cases hplace : place id <;> rw [hplace] at hwaiting <;> first | rfl | exact hwaiting.elim

namespace RunInv

/-- A request arrives at its channel at most once. -/
theorem forwards_nodup (h : RunInv s phase base) (c : MemoryChannelId) :
    ((s.forwards c).map EventRecord.requestId).Nodup := by
  rw [List.nodup_iff_count_le_one]
  intro id
  by_cases hmem : id ∈ (s.forwards c).map EventRecord.requestId
  · obtain ⟨e, he, rfl⟩ := List.mem_map.mp hmem
    obtain ⟨-, -, request, hfind, -⟩ := Simulator.mem_forwards.mp he
    have hone : (s.eventsOf .forwardToMemory e.requestId).length ≤ 1 := by
      rw [h.eventsOf_eq hfind]
      exact Phase.filter_forward_length _ _ _
    refine le_trans ?_ hone
    rw [List.count_eq_countP, List.countP_map, List.countP_eq_length_filter]
    unfold Simulator.forwards Simulator.eventsOf
    rw [List.filter_filter]
    refine (List.monotone_filter_right s.eventLog fun other hother => ?_).length_le
    simp only [Bool.and_eq_true, Function.comp_apply, beq_iff_eq, decide_eq_true_eq] at hother ⊢
    exact ⟨hother.2.1, hother.1⟩
  · rw [List.count_eq_zero_of_not_mem hmem]
    exact Nat.zero_le 1

/-- What the log holds of the service of an arrived request. -/
theorem servingFrom (h : RunInv s phase base) {e : EventRecord} {request : Request}
    (hfind : s.shared.requestTable.find e.requestId = some request) {start : SimTime}
    (hstart : (phase e.requestId).place.start = none ∨
      (phase e.requestId).place.start = some start) : s.ServingFrom e start := by
  have hid : request.requestId = e.requestId := KeyedStore.key_of_find hfind
  have htime : s.serviceTimeOf e = request.ticket.serviceTime s.config := by
    unfold Simulator.serviceTimeOf
    rw [hfind]
    rfl
  refine ⟨?_, ?_⟩
  · rw [h.eventsOf_eq hfind, Phase.filter_start]
    rcases hstart with hnone | hsome
    · rw [hnone]
      exact List.nil_prefix
    · rw [hsome, ← hid]
      exact List.prefix_refl _
  · rw [h.eventsOf_eq hfind, Phase.filter_complete]
    rcases hstart with hnone | hsome
    · have hserved : (phase e.requestId).servedStart = none := by
        cases hp : phase e.requestId <;> rw [hp] at hnone <;> first | rfl | cases hnone
      rw [hserved]
      exact List.nil_prefix
    · rcases Phase.servedStart_eq hsome with hserved | hserved <;> rw [hserved]
      · exact List.nil_prefix
      · rw [htime, ← hid]
        exact List.prefix_refl _

/-- The channel has behaved as a FIFO server. -/
theorem fifoChannel (h : RunInv s phase base) (hlog : s.LogOrdered) (c : MemoryChannelId) :
    s.FifoChannel c := by
  refine ⟨?_, h.forwards_nodup c, Fifo.starts_recursion _, ?_⟩
  · exact hlog.sorted.sublist (List.filter_sublist.map _)
  rw [List.forall₂_iff_get]
  refine ⟨by rw [Fifo.length_starts, Simulator.jobs, List.length_map], ?_⟩
  intro k hk hk'
  set e := (s.forwards c).get ⟨k, hk⟩ with hedef
  have he : e ∈ s.forwards c := List.get_mem _ _
  obtain ⟨hin, htype, request, hfind, hc⟩ := Simulator.mem_forwards.mp he
  refine h.servingFrom hfind ?_
  -- the channel exists, and its server has started the request or not
  obtain ⟨channel, hchannel⟩ := h.exists_channel request.ticket
  obtain ⟨served, hserver⟩ := h.channels c channel (by rw [← hc]; exact hchannel)
  have hid : (arrivals s.config s.view.tickets s.eventLog c)[k]? = some e.requestId := by
    rw [arrivals_eq_forwards, List.getElem?_map, List.getElem?_eq_getElem hk]
    rfl
  refine hserver.start_of_arrival hid ?_
  rw [← h.jobs_eq]
  exact List.getElem?_eq_getElem hk'

/-- With nothing pending, every arrived request has been served. -/
theorem served_of_drained (h : RunInv s phase base) (hlog : s.LogOrdered)
    (hnil : s.view.pending = 0) (c : MemoryChannelId) :
    List.Forall₂ s.ServedFrom (s.forwards c) (Fifo.starts (s.jobs c)) := by
  have hserving := (h.fifoChannel hlog c).serving
  rw [List.forall₂_iff_get] at hserving ⊢
  refine ⟨hserving.1, fun k hk hk' => ?_⟩
  have hprefix := hserving.2 k hk hk'
  set e := (s.forwards c).get ⟨k, hk⟩ with hedef
  have he : e ∈ s.forwards c := List.get_mem _ _
  obtain ⟨hin, htype, request, hfind, hc⟩ := Simulator.mem_forwards.mp he
  have ht : s.view.tickets e.requestId = some request.ticket := by
    show (s.shared.requestTable.find e.requestId).map Request.ticket = _
    rw [hfind]
    rfl
  have hended := h.ended_of_drained hnil ht
  have hmem : e ∈ (phase e.requestId).logged s.config request.ticket := by
    have hid : request.requestId = e.requestId := KeyedStore.key_of_find hfind
    have hlogged : s.eventLog.filter (fun e => e.requestId = request.requestId) = _ :=
      (h.lifecycle.tracks e.requestId request hfind).logged
    rw [← hlogged, List.mem_filter]
    exact ⟨hin, by simp [hid]⟩
  obtain ⟨start, hserved, hstart⟩ := Phase.servedStart_of_ended _ _ hended hmem htype
  -- a list that is no longer than its one element is empty or that element
  have hone : ∀ {events : List EventRecord} {event : EventRecord},
      events <+: [event] → events ≠ [] → events = [event] := by
    intro events event hpre hne
    exact hpre.eq_of_length (le_antisymm hpre.length_le (List.length_pos_iff.mpr hne))
  refine ⟨hone hprefix.started ?_, hone hprefix.completed ?_⟩
  · rw [h.eventsOf_eq hfind, Phase.filter_start, hstart]
    exact List.cons_ne_nil _ _
  · rw [h.eventsOf_eq hfind, Phase.filter_complete, hserved]
    exact List.cons_ne_nil _ _

/-- The turn that starts a service records the wait since the arrival. -/
theorem recordsWait (h : RunInv s phase base) (hlog : s.LogOrdered) {t : Simulator P}
    (hmove : Run.Moves (Simulator.step .exact) s t) {start : EventRecord}
    (hstart : t.eventLog = s.eventLog ++ [start]) (htype : start.type = .memoryServiceStart) :
    s.RecordsWait t start := by
  obtain ⟨event, scheduler, s', hpop, hdispatched, rfl⟩ := Simulator.moves_iff.mp hmove
  obtain ⟨-, hle, -, -, hold⟩ := h.popped_ordered hpop
  have hevent : event.record = start := by
    rw [(Simulator.release_log .exact s').1, (Simulator.dispatched_log hdispatched).1] at hstart
    exact List.singleton_inj.mp (List.append_cancel_left hstart)
  subst hevent
  have hstats : (Simulator.releaseNextEpochIfReady .exact s').shared.stats = s'.shared.stats := by
    rcases Simulator.release_cases .exact s' with ⟨-, heq⟩ | ⟨-, -, heq⟩ | ⟨epoch, -, -, heq⟩ <;>
      rw [heq]
    rfl
  have hpending : event.record ∈ s.view.pending := by
    rw [hold]
    exact Multiset.mem_cons_self _ _
  cases hdispatched with
  | compute _ hstep =>
      cases hstep with
      | drained h' => cases htype.symm.trans h'
      | issue h' => cases htype.symm.trans h'
      | hit h' => cases htype.symm.trans h'
      | miss h' => cases htype.symm.trans h'
      | hitComplete h' => cases htype.symm.trans h'
      | returned h' => cases htype.symm.trans h'
      | complete h' => cases htype.symm.trans h'
  | memory _ _ hstep =>
      cases hstep with
      | @start request channel rest _ hfind hchannel hqueue =>
          have hfind' : s.view.requestTable.find event.record.requestId = some request := hfind
          have hid : request.requestId = event.record.requestId := KeyedStore.key_of_find hfind
          obtain ⟨harrived, hforward⟩ := Phase.arrived_of_start s.config request.ticket
            (h.lifecycle.pending_eq hpending hfind') htype
          have htracks := h.lifecycle.tracks event.record.requestId request hfind'
          rw [← htracks.logged] at hforward
          have hin := (List.mem_filter.mp hforward).1
          have henqueued : request.memoryEnqueueTime = request.ticket.arrival s.config :=
            htracks.enqueued harrived
          refine ⟨request, _, hfind, Simulator.mem_forwards.mpr ⟨hin, rfl, request, ?_, rfl⟩, hid,
            le_trans (hlog.past _ hin) hle, ?_⟩
          · exact (congrArg s.shared.requestTable.find hid).trans hfind
          · have hchannelFor : (s.popped scheduler).memoryNode.channelFor request =
                memoryChannelForObject request.objectId s.config.memoryChannelCount :=
              h.channelFor_eq request
            rw [hstats]
            show MemoryNode.waitStats .exact s.shared.stats _ _ _ = _
            rw [hchannelFor, henqueued]
            rfl
      | forwardIdle h' => cases htype.symm.trans h'
      | forwardBusy h' => cases htype.symm.trans h'
      | completeIdle h' => cases htype.symm.trans h'
      | completeNext h' => cases htype.symm.trans h'

end RunInv

end Refinement

-- ============================================================================
-- The queue recursion
-- ============================================================================

namespace Simulator

/-- Three nodes that send objects of different sizes to two channels. -/
def contendedConfig : SimulationConfig :=
  { memoryChannelCount := 2
    memoryBaseLatency := 3
    memoryBandwidthBytesPerTime := 16
    computeNodes :=
      [{ nodeId := 1, requests := [{ objectId := 2, sizeBytes := 100 }] },
       { nodeId := 3, requests := [{ objectId := 4, sizeBytes := 64 }] },
       { nodeId := 5, requests := [{ objectId := 5, sizeBytes := 64 }] }] }

end Simulator

end DmSimulator
