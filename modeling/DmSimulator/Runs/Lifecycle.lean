/-
  DmSimulator.Runs.Lifecycle

  The life of a request, with unbounded time.

  A request is in one `Phase` at a time.  The phase determines the one event
  the request has pending (none while it waits in a memory queue and after its
  end), the events it has behind it, and its response.  `Lifecycle` says that
  this describes the event queue, the event log, the responses and the request
  table; the lemmas say how it survives each kind of move.
-/
import DmSimulator.Runs.Turns
import Mathlib.Data.Multiset.Filter
import Mathlib.Logic.Function.Basic

namespace DmSimulator

/-- What is fixed about a request when it is issued. -/
structure Ticket where
  requestId : RequestId
  sourceNodeId : NodeId
  objectId : ObjectId
  issueTime : SimTime
  sizeBytes : Nat
  epochId : EpochId
deriving DecidableEq

def Request.ticket (request : Request) : Ticket :=
  { requestId := request.requestId
    sourceNodeId := request.sourceNodeId
    objectId := request.objectId
    issueTime := request.issueTime
    sizeBytes := request.sizeBytes
    epochId := request.epochId }

namespace Ticket

variable (config : SimulationConfig) (t : Ticket)

def channel : MemoryChannelId := memoryChannelForObject t.objectId config.memoryChannelCount

/-- Base latency plus the time to serialize the object, rounded up. -/
def serviceTime : SimTime :=
  config.memoryBaseLatency +
    (t.sizeBytes + config.memoryBandwidthBytesPerTime - 1) / config.memoryBandwidthBytesPerTime

def hitTime : SimTime := t.issueTime + config.localCache.hitLatency

/-- When a request that misses arrives at the memory node. -/
def arrival : SimTime := t.issueTime + config.oneWayLinkLatency

def serviceEnd (start : SimTime) : SimTime := start + t.serviceTime config

def returnTime (start : SimTime) : SimTime := t.serviceEnd config start + config.oneWayLinkLatency

def computeEvent (time : SimTime) (type : EventType) : EventRecord :=
  { time := time, type := type, targetId := t.sourceNodeId, requestId := t.requestId }

def memoryEvent (time : SimTime) (type : EventType) : EventRecord :=
  { time := time, type := type, targetId := config.memoryNodeId, requestId := t.requestId }

def response (tier : ServedFromTier) (time : SimTime) (bytes : Nat) : Response :=
  { requestId := t.requestId
    objectId := t.objectId
    servedFromTier := tier
    completionTime := time
    totalLatency := time - t.issueTime
    bytesTransferred := bytes }

end Ticket

/-- Where a request stands.  From the start of its service on, the phase carries
    the start time. -/
inductive Phase
  | lookup
  | hit
  | hitDone
  | hitEnd
  | forward
  | queued
  | starting (start : SimTime)
  | serving (start : SimTime)
  | returning (start : SimTime)
  | missDone (start : SimTime)
  | missEnd (start : SimTime)
deriving DecidableEq

namespace Phase

variable (config : SimulationConfig) (t : Ticket)

/-- The event the request has pending. -/
def pending : Phase → Option EventRecord
  | lookup => some (t.computeEvent t.issueTime .localCacheLookup)
  | hit => some (t.computeEvent (t.hitTime config) .localCacheHitComplete)
  | hitDone => some (t.computeEvent (t.hitTime config) .requestComplete)
  | hitEnd => none
  | forward => some (t.memoryEvent config (t.arrival config) .forwardToMemory)
  | queued => none
  | starting start => some (t.memoryEvent config start .memoryServiceStart)
  | serving start => some (t.memoryEvent config (t.serviceEnd config start) .memoryServiceComplete)
  | returning start => some (t.computeEvent (t.returnTime config start) .returnResponse)
  | missDone start => some (t.computeEvent (t.returnTime config start) .requestComplete)
  | missEnd _ => none

/-- The events of the request that have been processed. -/
def logged : Phase → List EventRecord
  | lookup => []
  | hit => [t.computeEvent t.issueTime .localCacheLookup]
  | hitDone =>
      [t.computeEvent t.issueTime .localCacheLookup,
        t.computeEvent (t.hitTime config) .localCacheHitComplete]
  | hitEnd =>
      [t.computeEvent t.issueTime .localCacheLookup,
        t.computeEvent (t.hitTime config) .localCacheHitComplete,
        t.computeEvent (t.hitTime config) .requestComplete]
  | forward => [t.computeEvent t.issueTime .localCacheLookup]
  | queued | starting _ =>
      [t.computeEvent t.issueTime .localCacheLookup,
        t.memoryEvent config (t.arrival config) .forwardToMemory]
  | serving start =>
      [t.computeEvent t.issueTime .localCacheLookup,
        t.memoryEvent config (t.arrival config) .forwardToMemory,
        t.memoryEvent config start .memoryServiceStart]
  | returning start =>
      [t.computeEvent t.issueTime .localCacheLookup,
        t.memoryEvent config (t.arrival config) .forwardToMemory,
        t.memoryEvent config start .memoryServiceStart,
        t.memoryEvent config (t.serviceEnd config start) .memoryServiceComplete]
  | missDone start =>
      [t.computeEvent t.issueTime .localCacheLookup,
        t.memoryEvent config (t.arrival config) .forwardToMemory,
        t.memoryEvent config start .memoryServiceStart,
        t.memoryEvent config (t.serviceEnd config start) .memoryServiceComplete,
        t.computeEvent (t.returnTime config start) .returnResponse]
  | missEnd start =>
      [t.computeEvent t.issueTime .localCacheLookup,
        t.memoryEvent config (t.arrival config) .forwardToMemory,
        t.memoryEvent config start .memoryServiceStart,
        t.memoryEvent config (t.serviceEnd config start) .memoryServiceComplete,
        t.computeEvent (t.returnTime config start) .returnResponse,
        t.computeEvent (t.returnTime config start) .requestComplete]

/-- The responses the request has got. -/
def answers : Phase → List Response
  | hitDone | hitEnd => [t.response .localCache (t.hitTime config) 0]
  | missDone start | missEnd start =>
      [t.response .memory (t.returnTime config start) t.sizeBytes]
  | _ => []

def stage : Phase → RequestStage
  | lookup => .generated
  | hit => .localLookup
  | forward | queued | starting _ => .forwardedToMemory
  | serving _ | returning _ => .waitingForResponse
  | hitDone | hitEnd | missDone _ | missEnd _ => .completed

/-- The request has joined a memory queue. -/
def Arrived : Phase → Prop
  | queued | starting _ | serving _ | returning _ | missDone _ | missEnd _ => True
  | _ => False

/-- The request has been through all its events. -/
def Ended : Phase → Prop
  | hitEnd | missEnd _ => True
  | _ => False

end Phase

/-- The traces that requests leave in a simulator. -/
structure View where
  nextRequestId : RequestId
  requestTable : RequestTable
  pending : Multiset EventRecord
  log : List EventRecord
  responses : List Response

def Simulator.view {P : CachePolicy} (s : Simulator P) : View :=
  { nextRequestId := s.shared.nextRequestId
    requestTable := s.shared.requestTable
    pending := s.shared.scheduler.pending
    log := s.eventLog
    responses := s.shared.responses }

/-- The request's traces are those of its phase. -/
structure Tracks (config : SimulationConfig) (v : View) (request : Request) (phase : Phase) :
    Prop where
  pending : v.pending.filter (fun e => e.requestId = request.requestId) =
    (phase.pending config request.ticket).elim 0 (fun e => {e})
  logged : v.log.filter (fun e => e.requestId = request.requestId) =
    phase.logged config request.ticket
  answered : v.responses.filter (fun p => p.requestId = request.requestId) =
    phase.answers config request.ticket
  stage : request.currentStage = phase.stage
  enqueued : phase.Arrived → request.memoryEnqueueTime = request.ticket.arrival config

/-- Every request's traces are those of its phase, and there are no others.
    Request ids count up from one; id zero marks `GenerateRequest` events. -/
structure Lifecycle (config : SimulationConfig) (v : View) (phase : RequestId → Phase) :
    Prop where
  tracks : ∀ id request, v.requestTable.find id = some request →
    Tracks config v request (phase id)
  ids : ∀ id, (v.requestTable.find id).isSome ↔ 1 ≤ id ∧ id < v.nextRequestId
  pending_ids : ∀ e ∈ v.pending, e.requestId < v.nextRequestId
  log_ids : ∀ e ∈ v.log, e.requestId < v.nextRequestId
  response_ids : ∀ p ∈ v.responses, 1 ≤ p.requestId ∧ p.requestId < v.nextRequestId
  generated : (v.log.filter (fun e => e.requestId = 0)).length + 1 = v.nextRequestId

/-- The table maps the request's id to the request and is otherwise unchanged. -/
def Updates (table table' : RequestTable) (request : Request) : Prop :=
  ∀ id, table'.find id = if id = request.requestId then some request else table.find id

theorem updates_insert (table : RequestTable) (request : Request) :
    Updates table (table.insert request) request := by
  intro id
  by_cases h : id = request.requestId
  · rw [if_pos h, h]
    exact KeyedStore.find_insert_self table request
  · rw [if_neg h]
    exact KeyedStore.find_insert_ne table request h

theorem updates_self {table : RequestTable} {id : RequestId} {request : Request}
    (h : table.find id = some request) : Updates table table request := by
  have hid := KeyedStore.key_of_find h
  intro id'
  by_cases heq : id' = request.requestId
  · rw [if_pos heq, heq, hid]
    exact h
  · rw [if_neg heq]

namespace Lifecycle

variable {config : SimulationConfig} {v : View} {phase : RequestId → Phase}

-- ============================================================================
-- Reading the phase off an event
-- ============================================================================

theorem find_of_event (h : Lifecycle config v phase) {e : EventRecord} (he : e ∈ v.pending)
    (hid : e.requestId ≠ 0) :
    ∃ request, v.requestTable.find e.requestId = some request := by
  have hlt := h.pending_ids e he
  have hsome := (h.ids e.requestId).mpr ⟨by lia, hlt⟩
  exact Option.isSome_iff_exists.mp hsome

/-- A pending event is the one its request's phase waits for. -/
theorem pending_eq (h : Lifecycle config v phase) {e : EventRecord} (he : e ∈ v.pending)
    {request : Request} (hfind : v.requestTable.find e.requestId = some request) :
    (phase e.requestId).pending config request.ticket = some e := by
  have hkey : request.requestId = e.requestId := KeyedStore.key_of_find hfind
  have htracks := (h.tracks e.requestId request hfind).pending
  have hmem : e ∈ v.pending.filter (fun e' => e'.requestId = request.requestId) := by
    rw [Multiset.mem_filter, hkey]
    exact ⟨he, rfl⟩
  rw [htracks] at hmem
  cases hpending : (phase e.requestId).pending config request.ticket with
  | none => simp [hpending] at hmem
  | some e' =>
      rw [hpending] at hmem
      simp only [Option.elim_some, Multiset.mem_singleton] at hmem
      rw [hmem]

-- ============================================================================
-- Moves
-- ============================================================================

/-- The other requests' pending events do not change. -/
theorem filter_of_ne {pending : Multiset EventRecord} {e : EventRecord} {id : RequestId}
    (h : e.requestId ≠ id) :
    (e ::ₘ pending).filter (fun e => e.requestId = id) =
      pending.filter (fun e => e.requestId = id) :=
  Multiset.filter_cons_of_neg pending h

/-- Processing its pending event takes a request to a new phase. -/
theorem advance (h : Lifecycle config v phase) {e : EventRecord} {rest : Multiset EventRecord}
    (hpending : v.pending = e ::ₘ rest) {request request' : Request}
    (hfind : v.requestTable.find e.requestId = some request)
    (hticket : request'.ticket = request.ticket) {phase' : Phase} {table : RequestTable}
    {responses : List Response} (htable : Updates v.requestTable table request')
    (hlogged : phase'.logged config request.ticket =
      (phase e.requestId).logged config request.ticket ++ [e])
    (hanswers : phase'.answers config request.ticket =
      (phase e.requestId).answers config request.ticket ++ responses)
    (hresponses : ∀ p ∈ responses, p.requestId = e.requestId)
    (hstage : request'.currentStage = phase'.stage)
    (henqueued : phase'.Arrived → request'.memoryEnqueueTime = request.ticket.arrival config) :
    Lifecycle config
      { nextRequestId := v.nextRequestId
        requestTable := table
        pending := (phase'.pending config request.ticket).elim 0 (fun e => {e}) + rest
        log := v.log ++ [e]
        responses := v.responses ++ responses }
      (Function.update phase e.requestId phase') := by
  have hkey : request.requestId = e.requestId := KeyedStore.key_of_find hfind
  have hkey' : request'.requestId = e.requestId := (congrArg Ticket.requestId hticket).trans hkey
  have htracks := h.tracks e.requestId request hfind
  have hrange := (h.ids e.requestId).mp (by rw [hfind]; rfl)
  have hwait := h.pending_eq (by rw [hpending]; exact Multiset.mem_cons_self e rest) hfind
  -- the request had no second event pending
  have hrest : rest.filter (fun e' => e'.requestId = e.requestId) = 0 := by
    have hfilter := htracks.pending
    rw [hwait, hkey, hpending, Multiset.filter_cons_of_pos (p := fun e' => e'.requestId = e.requestId)
      rest rfl] at hfilter
    exact (Multiset.cons_inj_right e).mp hfilter
  have hnew : ∀ e', (phase'.pending config request.ticket) = some e' →
      e'.requestId = e.requestId := by
    intro e' he'
    rw [← hkey]
    cases phase' <;> simp only [Phase.pending, Option.some.injEq, reduceCtorEq] at he' <;>
      · subst he'
        rfl
  refine ⟨?_, ?_, ?_, ?_, ?_, ?_⟩
  · intro id other hother
    rw [htable id] at hother
    by_cases hid : id = e.requestId
    · subst hid
      rw [if_pos hkey'.symm] at hother
      obtain rfl : request' = other := Option.some.inj hother
      rw [Function.update_self]
      refine ⟨?_, ?_, ?_, hstage, fun ha => by rw [henqueued ha, hticket]⟩
      · rw [hticket, hkey', Multiset.filter_add, hrest, Multiset.add_zero]
        cases hp : phase'.pending config request.ticket with
        | none => rfl
        | some e' => simp [hnew e' hp, Multiset.filter_singleton]
      · rw [hticket, hkey', List.filter_append, hlogged, ← htracks.logged, hkey]
        simp
      · have hall : responses.filter (fun p => p.requestId = e.requestId) = responses :=
          List.filter_eq_self.mpr fun p hp => by simp [hresponses p hp]
        rw [hticket, hkey', List.filter_append, hanswers, ← htracks.answered, hkey, hall]
    · rw [if_neg (by rw [hkey']; exact hid)] at hother
      rw [Function.update_of_ne hid]
      have hid' : other.requestId = id := KeyedStore.key_of_find hother
      have hne : e.requestId ≠ other.requestId := by rw [hid']; exact fun heq => hid heq.symm
      obtain ⟨hp, hl, ha, hs, hq⟩ := h.tracks id other hother
      refine ⟨?_, ?_, ?_, hs, hq⟩
      · rw [← hp, hpending, filter_of_ne hne, Multiset.filter_add]
        cases hpend : phase'.pending config request.ticket with
        | none => simp
        | some e' => simp [hnew e' hpend, hne, Multiset.filter_singleton]
      · rw [← hl, List.filter_append]
        simp [hne]
      · rw [← ha, List.filter_append, List.append_right_eq_self, List.filter_eq_nil_iff]
        intro p hp'
        simp [hresponses p hp', hne]
  · intro id
    rw [← h.ids id, htable id]
    by_cases hid : id = request'.requestId
    · rw [if_pos hid, hid, hkey', hfind]
      rfl
    · rw [if_neg hid]
  · intro e' he'
    rcases Multiset.mem_add.mp he' with hnew' | hold
    · cases hp : phase'.pending config request.ticket with
      | none => simp [hp] at hnew'
      | some e'' =>
          simp only [hp, Option.elim_some, Multiset.mem_singleton] at hnew'
          rw [hnew', hnew e'' hp]
          exact hrange.2
    · exact h.pending_ids e' (by rw [hpending]; exact Multiset.mem_cons_of_mem hold)
  · intro e' he'
    rcases List.mem_append.mp he' with hold | hnew'
    · exact h.log_ids e' hold
    · rw [List.mem_singleton.mp hnew']
      exact hrange.2
  · intro p hp
    rcases List.mem_append.mp hp with hold | hnew'
    · exact h.response_ids p hold
    · rw [hresponses p hnew']
      exact hrange
  · have hne : e.requestId ≠ 0 := by lia
    simpa [List.filter_append, hne] using h.generated

/-- A node issues a request under a fresh id. -/
theorem issue (h : Lifecycle config v phase) {e : EventRecord} {rest : Multiset EventRecord}
    (hpending : v.pending = e ::ₘ rest) (hzero : e.requestId = 0) (request : Request)
    (hid : request.requestId = v.nextRequestId) (hstage : request.currentStage = .generated) :
    Lifecycle config
      { nextRequestId := v.nextRequestId + 1
        requestTable := v.requestTable.insert request
        pending := request.ticket.computeEvent request.issueTime .localCacheLookup ::ₘ rest
        log := v.log ++ [e]
        responses := v.responses }
      (Function.update phase v.nextRequestId .lookup) := by
  have hpos : 1 ≤ v.nextRequestId := by
    have := h.generated
    lia
  have hupdates := updates_insert v.requestTable request
  have hrest : ∀ e' ∈ rest, e'.requestId < v.nextRequestId := fun e' he' =>
    h.pending_ids e' (by rw [hpending]; exact Multiset.mem_cons_of_mem he')
  have hevent : (request.ticket.computeEvent request.issueTime .localCacheLookup).requestId =
      v.nextRequestId := hid
  refine ⟨?_, ?_, ?_, ?_, ?_, ?_⟩
  · intro id other hother
    rw [hupdates id, hid] at hother
    by_cases heq : id = v.nextRequestId
    · subst heq
      rw [if_pos rfl] at hother
      obtain rfl : request = other := Option.some.inj hother
      rw [Function.update_self]
      refine ⟨?_, ?_, ?_, hstage, fun ha => ha.elim⟩
      · have hnone : rest.filter (fun e' => e'.requestId = request.requestId) = 0 := by
          rw [Multiset.filter_eq_nil]
          intro e' he' heq
          have := hrest e' he'
          lia
        rw [Multiset.filter_cons_of_pos (p := fun e' => e'.requestId = request.requestId) rest
          rfl, hnone]
        rfl
      · show (v.log ++ [e]).filter _ = []
        rw [List.filter_eq_nil_iff]
        intro e' he'
        simp only [decide_eq_true_eq]
        rcases List.mem_append.mp he' with hold | hnew
        · have := h.log_ids e' hold
          lia
        · rw [List.mem_singleton.mp hnew]
          lia
      · show v.responses.filter _ = []
        rw [List.filter_eq_nil_iff]
        intro p hp
        simp only [decide_eq_true_eq]
        have := h.response_ids p hp
        lia
    · rw [if_neg heq] at hother
      rw [Function.update_of_ne heq]
      have hother' : other.requestId = id := KeyedStore.key_of_find hother
      have hrange := (h.ids id).mp (by rw [hother]; rfl)
      obtain ⟨hp, hl, ha, hs, hq⟩ := h.tracks id other hother
      refine ⟨?_, ?_, ha, hs, hq⟩
      · rw [← hp, hpending, filter_of_ne (by rw [hevent]; lia), filter_of_ne (by lia)]
      · have hne : e.requestId ≠ other.requestId := by lia
        rw [← hl, List.filter_append]
        simp [hne]
  · intro id
    rw [hupdates id, hid]
    by_cases heq : id = v.nextRequestId
    · rw [if_pos heq]
      simp only [Option.isSome_some, true_iff]
      lia
    · rw [if_neg heq, h.ids id]
      simp only
      lia
  · intro e' he'
    rcases Multiset.mem_cons.mp he' with rfl | hold
    · rw [hevent]
      exact Nat.lt_succ_self _
    · exact Nat.lt_succ_of_lt (hrest e' hold)
  · intro e' he'
    rcases List.mem_append.mp he' with hold | hnew
    · exact Nat.lt_succ_of_lt (h.log_ids e' hold)
    · rw [List.mem_singleton.mp hnew, hzero]
      exact Nat.succ_pos _
  · intro p hp
    have := h.response_ids p hp
    exact ⟨this.1, Nat.lt_succ_of_lt this.2⟩
  · have := h.generated
    simp only [List.filter_append, List.length_append]
    simp [hzero]
    lia

/-- A queued request has its service start scheduled. -/
theorem start (h : Lifecycle config v phase) {id : RequestId} {request : Request}
    (hfind : v.requestTable.find id = some request) (hphase : phase id = .queued)
    (time : SimTime) :
    Lifecycle config
      { v with
        pending := request.ticket.memoryEvent config time .memoryServiceStart ::ₘ v.pending }
      (Function.update phase id (.starting time)) := by
  have hkey : request.requestId = id := KeyedStore.key_of_find hfind
  have hevent : (request.ticket.memoryEvent config time .memoryServiceStart).requestId = id :=
    hkey
  have hrange := (h.ids id).mp (by rw [hfind]; rfl)
  refine ⟨?_, h.ids, ?_, h.log_ids, h.response_ids, h.generated⟩
  · intro id' other hother
    obtain ⟨hp, hl, ha, hs, hq⟩ := h.tracks id' other hother
    by_cases heq : id' = id
    · subst heq
      obtain rfl : request = other := Option.some.inj (hfind.symm.trans hother)
      rw [hphase] at hp hl ha hs hq
      rw [Function.update_self]
      refine ⟨?_, hl, ha, hs, hq⟩
      rw [Multiset.filter_cons_of_pos (p := fun e' => e'.requestId = request.requestId) v.pending
        rfl, hp]
      rfl
    · have hother' : other.requestId = id' := KeyedStore.key_of_find hother
      rw [Function.update_of_ne heq]
      refine ⟨?_, hl, ha, hs, hq⟩
      rw [← hp]
      exact filter_of_ne (by rw [hevent, hother']; exact fun h => heq h.symm)
  · intro e he
    rcases Multiset.mem_cons.mp he with rfl | hold
    · rw [hevent]
      exact hrange.2
    · exact h.pending_ids e hold

/-- `GenerateRequest` events come and go without touching the requests. -/
theorem schedule (h : Lifecycle config v phase) (records : Multiset EventRecord)
    (hzero : ∀ e ∈ records, e.requestId = 0) :
    Lifecycle config { v with pending := records + v.pending } phase := by
  have hpos : 1 ≤ v.nextRequestId := by
    have := h.generated
    lia
  refine ⟨?_, h.ids, ?_, h.log_ids, h.response_ids, h.generated⟩
  · intro id request hfind
    obtain ⟨hp, hl, ha, hs, hq⟩ := h.tracks id request hfind
    have hkey : request.requestId = id := KeyedStore.key_of_find hfind
    have hrange := (h.ids id).mp (by rw [hfind]; rfl)
    refine ⟨?_, hl, ha, hs, hq⟩
    have hnone : records.filter (fun e => e.requestId = request.requestId) = 0 := by
      rw [Multiset.filter_eq_nil]
      intro e he heq
      have := hzero e he
      lia
    rw [← hp, Multiset.filter_add, hnone, Multiset.zero_add]
  · intro e he
    rcases Multiset.mem_add.mp he with hnew | hold
    · rw [hzero e hnew]
      exact hpos
    · exact h.pending_ids e hold

theorem init (config : SimulationConfig) (phase : RequestId → Phase) :
    Lifecycle config
      { nextRequestId := 1, requestTable := KeyedStore.empty, pending := 0, log := [],
        responses := [] } phase := by
  refine ⟨?_, ?_, ?_, ?_, ?_, rfl⟩
  · intro id request hfind
    simp at hfind
  · intro id
    simp only [KeyedStore.find_empty, Option.isSome_none, Bool.false_eq_true, false_iff]
    lia
  · intro e he
    simp at he
  · intro e he
    simp at he
  · intro p hp
    simp at hp

end Lifecycle

end DmSimulator
