/-
  DmSimulator.Runs.Handlers

  What each event handler can do, said once.

  An `Effect` is what a handler does to the shared state.  `ComputeStep` and
  `MemoryStep` have one constructor per path through the handlers, and
  `handleEvent_iff` says that a handler returns exactly when one of the paths
  applies.
-/
import DmSimulator.Nodes.MemoryNode

namespace DmSimulator

/-- What a handler does to the shared state: how many request ids it takes, the
    request it writes, the responses it appends, the statistics it leaves, and
    the events it schedules. -/
structure Effect where
  issued : Nat := 0
  request : Option Request := none
  responses : List Response := []
  stats : Stats
  events : List EventRecord := []

namespace Scheduler

/-- Schedule events one after the other. -/
def scheduleAll (s : Scheduler) (records : List EventRecord) : Scheduler :=
  records.foldl (fun s record => (s.schedule record.event).1) s

@[simp] theorem scheduleAll_nil (s : Scheduler) : s.scheduleAll [] = s := rfl

@[simp] theorem scheduleAll_cons (s : Scheduler) (record : EventRecord)
    (records : List EventRecord) :
    s.scheduleAll (record :: records) = (s.schedule record.event).1.scheduleAll records := rfl

end Scheduler

/-- Carry out an effect. -/
def Shared.apply (sh : Shared) (effect : Effect) : Shared :=
  { scheduler := sh.scheduler.scheduleAll effect.events
    nextRequestId := sh.nextRequestId + effect.issued
    requestTable :=
      match effect.request with
      | none => sh.requestTable
      | some request => sh.requestTable.insert request
    responses := sh.responses ++ effect.responses
    stats := effect.stats }

-- ============================================================================
-- Cursor and request table
-- ============================================================================

namespace WorkloadCursor

def advance (w : WorkloadCursor) : WorkloadCursor := { w with nextIndex := w.nextIndex + 1 }

theorem hasNext_iff {w : WorkloadCursor} : w.hasNext = true ↔ w.upcoming.isSome = true := by
  simp [hasNext, upcoming]

theorem hasNext_of_none {w : WorkloadCursor} (h : w.upcoming = none) : w.hasNext = false := by
  rw [← Bool.not_eq_true, hasNext_iff, h]
  simp

theorem hasNext_of_some {w : WorkloadCursor} {spec : RequestSpec} (h : w.upcoming = some spec) :
    w.hasNext = true := by
  rw [hasNext_iff, h]
  rfl

theorem next_of_some {w : WorkloadCursor} {spec : RequestSpec} (h : w.upcoming = some spec) :
    w.next = .ok (spec, w.advance) := by
  unfold upcoming at h
  simp [next, h, advance]

theorem peekNext_of_some {w : WorkloadCursor} {spec : RequestSpec}
    (h : w.upcoming = some spec) : w.peekNext = .ok spec := by
  unfold upcoming at h
  simp [peekNext, h]

end WorkloadCursor

theorem Shared.requestAt_eq {sh : Shared} {requestId : RequestId} {request : Request}
    (h : sh.requestTable.find requestId = some request) :
    sh.requestAt requestId = .ok request := by
  simp [requestAt, h]

-- ============================================================================
-- Compute nodes
-- ============================================================================

namespace ComputeNode

variable {P : CachePolicy} (A : Arith)

/-- The request a node issues for a spec. -/
def requestFor (node : ComputeNode P) (requestId : RequestId) (spec : RequestSpec)
    (time : SimTime) : Request :=
  { requestId := requestId
    sourceNodeId := node.nodeId
    objectId := spec.objectId
    operationType := .read
    issueTime := time
    sizeBytes := spec.sizeBytes
    epochId := spec.epochId
    currentStage := .generated }

/-- The cache of a node after `start_epoch_if_needed`. -/
def enterEpoch (stats : Stats) (node : ComputeNode P) (epochId : EpochId) (time : SimTime) :
    LocalCache P :=
  if node.currentEpoch = some epochId then node.localCache
  else
    match node.globalReplicaPlan with
    | none => node.localCache.onEpochStart stats epochId
    | some plan =>
        (node.localCache.onEpochStart stats epochId).installReplicas A
          ((plan.lookup epochId).getD []) time node.nodeId epochId

/-- The epoch base a bursty node recovers from the issue time. -/
def epochBase (node : ComputeNode P) (spec : RequestSpec) (time : SimTime) : SimTime :=
  if node.issueMode = .scheduledBursty then
    if time ≥ spec.scheduledIssueOffset then A.sub time spec.scheduledIssueOffset else 0
  else node.currentEpochStartTime

/-- The node after it has issued the request of a spec. -/
def afterIssue (stats : Stats) (node : ComputeNode P) (spec : RequestSpec) (time : SimTime) :
    ComputeNode P :=
  { node with
    workload := node.workload.advance
    currentEpoch := some spec.epochId
    currentEpochStartTime := node.epochBase A spec time
    localCache := node.enterEpoch A stats spec.epochId time
    outstandingRequests := node.outstandingRequests + 1 }

/-- The event `schedule_next_bursty_request_if_ready` schedules, if any. -/
def nextBurst (node : ComputeNode P) : Option EventRecord :=
  match node.workload.upcoming with
  | none => none
  | some spec =>
      if node.issueMode = .scheduledBursty ∧ node.currentEpoch = some spec.epochId then
        some
          { time := A.add node.currentEpochStartTime spec.scheduledIssueOffset
            type := .generateRequest
            targetId := node.nodeId }
      else none

/-- The event `handle_request_complete` schedules, if any. -/
def nextOnCompletion (node : ComputeNode P) (now : SimTime) : Option EventRecord :=
  match node.workload.upcoming with
  | none => none
  | some spec =>
      if node.issueMode ≠ .scheduledBursty ∧ node.currentEpoch = some spec.epochId then
        some { time := now, type := .generateRequest, targetId := node.nodeId }
      else none

variable {A} in
/-- What is scheduled behind an issue. -/
theorem mem_nextBurst {node : ComputeNode P} {e : EventRecord}
    (h : e ∈ (node.nextBurst A).toList) :
    e.type = .generateRequest ∧ e.targetId = node.nodeId ∧ e.requestId = 0 ∧
      node.issueMode = .scheduledBursty ∧
        ∃ spec, node.workload.upcoming = some spec ∧ node.currentEpoch = some spec.epochId := by
  unfold nextBurst at h
  cases hup : node.workload.upcoming with
  | none =>
      rw [hup] at h
      cases h
  | some spec =>
      simp only [hup] at h
      split at h
      · next hboth =>
          rw [List.mem_singleton.mp h]
          exact ⟨rfl, rfl, rfl, hboth.1, spec, rfl, hboth.2⟩
      · cases h

/-- What is scheduled behind a completion. -/
theorem mem_nextOnCompletion {node : ComputeNode P} {now : SimTime} {e : EventRecord}
    (h : e ∈ (node.nextOnCompletion now).toList) :
    e.type = .generateRequest ∧ e.targetId = node.nodeId ∧ e.requestId = 0 ∧ e.time = now ∧
      node.issueMode ≠ .scheduledBursty ∧
        ∃ spec, node.workload.upcoming = some spec ∧ node.currentEpoch = some spec.epochId := by
  unfold nextOnCompletion at h
  cases hup : node.workload.upcoming with
  | none =>
      rw [hup] at h
      cases h
  | some spec =>
      simp only [hup] at h
      split at h
      · next hboth =>
          rw [List.mem_singleton.mp h]
          exact ⟨rfl, rfl, rfl, rfl, hboth.1, spec, rfl, hboth.2⟩
      · cases h

def hitResponse (request : Request) (time : SimTime) : Response :=
  { requestId := request.requestId
    objectId := request.objectId
    servedFromTier := .localCache
    completionTime := time
    totalLatency := A.sub time request.issueTime
    bytesTransferred := 0 }

def memoryResponse (request : Request) (time : SimTime) : Response :=
  { requestId := request.requestId
    objectId := request.objectId
    servedFromTier := .memory
    completionTime := time
    totalLatency := A.sub time request.issueTime
    bytesTransferred := request.sizeBytes }

/-- The request as the local lookup hands it to the cache. -/
def lookedUp (request : Request) : Request := { request with currentStage := .localLookup }

theorem startEpochIfNeeded_eq (stats : Stats) (node : ComputeNode P) (epochId : EpochId)
    (time : SimTime) :
    node.startEpochIfNeeded A stats epochId time =
      { node with
        currentEpoch := some epochId
        localCache := node.enterEpoch A stats epochId time } := by
  unfold startEpochIfNeeded enterEpoch
  split
  · rename_i h
    rw [← h]
  · cases node.globalReplicaPlan with
    | none => rfl
    | some plan =>
        simp only
        cases plan.lookup epochId <;> rfl

theorem scheduleNextBurstyRequestIfReady_eq (node : ComputeNode P) (sh : Shared) :
    node.scheduleNextBurstyRequestIfReady A sh =
      .ok { sh with scheduler := sh.scheduler.scheduleAll (node.nextBurst A).toList } := by
  unfold scheduleNextBurstyRequestIfReady nextBurst
  cases hup : node.workload.upcoming with
  | none => simp [WorkloadCursor.hasNext_of_none hup, pure, Except.pure]
  | some spec =>
      have hnext := WorkloadCursor.hasNext_of_some hup
      have hpeek := WorkloadCursor.peekNext_of_some hup
      by_cases hmode : node.issueMode = .scheduledBursty
      · by_cases hepoch : node.currentEpoch = some spec.epochId
        · simp [hnext, hpeek, hmode, hepoch, Shared.schedule, pure, Except.pure, bind,
            Except.bind]
        · have hepoch' : ¬ some spec.epochId = node.currentEpoch := fun h => hepoch h.symm
          simp [hnext, hpeek, hmode, hepoch, hepoch', pure, Except.pure, bind, Except.bind]
      · simp [hmode, pure, Except.pure]

/-- The paths through `ComputeNode::handle_event`. -/
inductive ComputeStep (node : ComputeNode P) (event : Event) (sh : Shared) :
    ComputeNode P → Effect → Prop
  | drained :
      event.type = .generateRequest → node.workload.upcoming = none →
      ComputeStep node event sh node { stats := sh.stats }
  | issue {spec : RequestSpec} :
      event.type = .generateRequest → node.workload.upcoming = some spec →
      ComputeStep node event sh (node.afterIssue A sh.stats spec event.time)
        { issued := 1
          request := some (node.requestFor sh.nextRequestId spec event.time)
          stats := sh.stats
          events :=
            { time := event.time
              type := .localCacheLookup
              targetId := node.nodeId
              requestId := sh.nextRequestId } ::
            ((node.afterIssue A sh.stats spec event.time).nextBurst A).toList }
  | hit {request : Request} :
      event.type = .localCacheLookup → sh.requestTable.find event.requestId = some request →
      (node.localCache.lookup sh.stats (lookedUp request) event.time).2 = true →
      ComputeStep node event sh
        { node with
          localCache := (node.localCache.lookup sh.stats (lookedUp request) event.time).1 }
        { request := some (lookedUp request)
          stats := sh.stats.recordCacheHit node.nodeId
          events :=
            [{ time := A.add event.time node.localCacheHitLatency
               type := .localCacheHitComplete
               targetId := node.nodeId
               requestId := event.requestId }] }
  | miss {request : Request} :
      event.type = .localCacheLookup → sh.requestTable.find event.requestId = some request →
      (node.localCache.lookup sh.stats (lookedUp request) event.time).2 = false →
      ComputeStep node event sh
        { node with
          localCache := (node.localCache.lookup sh.stats (lookedUp request) event.time).1 }
        { request := some { request with currentStage := .forwardedToMemory }
          stats := sh.stats.recordCacheMiss node.nodeId
          events :=
            [{ time := A.add event.time node.oneWayLinkLatency
               type := .forwardToMemory
               targetId := node.memoryNodeId
               requestId := event.requestId }] }
  | hitComplete {request : Request} :
      event.type = .localCacheHitComplete →
      sh.requestTable.find event.requestId = some request → node.outstandingRequests ≠ 0 →
      ComputeStep node event sh
        { node with outstandingRequests := node.outstandingRequests - 1 }
        { request := some { request with currentStage := .completed }
          responses := [hitResponse A request event.time]
          stats := sh.stats.recordLatency A node.nodeId (A.sub event.time request.issueTime)
          events :=
            [{ time := event.time
               type := .requestComplete
               targetId := node.nodeId
               requestId := event.requestId }] }
  | returned {request : Request} :
      event.type = .returnResponse →
      sh.requestTable.find event.requestId = some request → node.outstandingRequests ≠ 0 →
      ComputeStep node event sh
        { node with
          localCache :=
            (node.localCache.admitObject A request (memoryResponse A request event.time)
              event.time).1
          outstandingRequests := node.outstandingRequests - 1 }
        { request := some { request with currentStage := .completed }
          responses := [memoryResponse A request event.time]
          stats := sh.stats.recordLatency A node.nodeId (A.sub event.time request.issueTime)
          events :=
            [{ time := event.time
               type := .requestComplete
               targetId := node.nodeId
               requestId := event.requestId }] }
  | complete :
      event.type = .requestComplete →
      ComputeStep node event sh node
        { stats := sh.stats
          events := (node.nextOnCompletion sh.scheduler.now).toList }

theorem handleGenerateRequest_eq {node : ComputeNode P} {event : Event} {sh : Shared}
    {spec : RequestSpec} (h : node.workload.upcoming = some spec) :
    node.handleGenerateRequest A event sh =
      .ok (node.afterIssue A sh.stats spec event.time,
        sh.apply
          { issued := 1
            request := some (node.requestFor sh.nextRequestId spec event.time)
            stats := sh.stats
            events :=
              { time := event.time
                type := .localCacheLookup
                targetId := node.nodeId
                requestId := sh.nextRequestId } ::
              ((node.afterIssue A sh.stats spec event.time).nextBurst A).toList }) := by
  have hnext := WorkloadCursor.hasNext_of_some h
  unfold handleGenerateRequest
  rw [if_neg (by simp [hnext]), WorkloadCursor.next_of_some h]
  simp only [bind, Except.bind, startEpochIfNeeded_eq]
  by_cases hmode : node.issueMode = .scheduledBursty
  · simp only [hmode, if_true]
    rw [scheduleNextBurstyRequestIfReady_eq]
    simp only [afterIssue, epochBase, hmode, if_true, Shared.apply, List.append_nil]
    rfl
  · simp only [hmode, if_false]
    rw [scheduleNextBurstyRequestIfReady_eq]
    simp only [afterIssue, epochBase, hmode, if_false, Shared.apply, List.append_nil]
    rfl

theorem handleLocalCacheLookup_hit {node : ComputeNode P} {event : Event} {sh : Shared}
    {request : Request} (h : sh.requestTable.find event.requestId = some request)
    (hhit : (node.localCache.lookup sh.stats (lookedUp request) event.time).2 = true) :
    node.handleLocalCacheLookup A event sh =
      .ok ({ node with
          localCache := (node.localCache.lookup sh.stats (lookedUp request) event.time).1 },
        sh.apply
          { request := some (lookedUp request)
            stats := sh.stats.recordCacheHit node.nodeId
            events :=
              [{ time := A.add event.time node.localCacheHitLatency
                 type := .localCacheHitComplete
                 targetId := node.nodeId
                 requestId := event.requestId }] }) := by
  unfold handleLocalCacheLookup
  rw [Shared.requestAt_eq h]
  simp only [Shared.apply, List.append_nil]
  exact if_pos hhit

theorem handleLocalCacheLookup_miss {node : ComputeNode P} {event : Event} {sh : Shared}
    {request : Request} (h : sh.requestTable.find event.requestId = some request)
    (hmiss : (node.localCache.lookup sh.stats (lookedUp request) event.time).2 = false) :
    node.handleLocalCacheLookup A event sh =
      .ok ({ node with
          localCache := (node.localCache.lookup sh.stats (lookedUp request) event.time).1 },
        sh.apply
          { request := some { request with currentStage := .forwardedToMemory }
            stats := sh.stats.recordCacheMiss node.nodeId
            events :=
              [{ time := A.add event.time node.oneWayLinkLatency
                 type := .forwardToMemory
                 targetId := node.memoryNodeId
                 requestId := event.requestId }] }) := by
  unfold handleLocalCacheLookup
  rw [Shared.requestAt_eq h]
  simp only [Shared.apply, List.append_nil]
  exact if_neg (by rw [Bool.not_eq_true]; exact hmiss)

theorem handleLocalCacheHitComplete_eq {node : ComputeNode P} {event : Event} {sh : Shared}
    {request : Request} (h : sh.requestTable.find event.requestId = some request)
    (hout : node.outstandingRequests ≠ 0) :
    node.handleLocalCacheHitComplete A event sh =
      .ok ({ node with outstandingRequests := node.outstandingRequests - 1 },
        sh.apply
          { request := some { request with currentStage := .completed }
            responses := [hitResponse A request event.time]
            stats := sh.stats.recordLatency A node.nodeId (A.sub event.time request.issueTime)
            events :=
              [{ time := event.time
                 type := .requestComplete
                 targetId := node.nodeId
                 requestId := event.requestId }] }) := by
  unfold handleLocalCacheHitComplete
  rw [Shared.requestAt_eq h]
  exact if_neg hout

theorem handleReturnResponse_eq {node : ComputeNode P} {event : Event} {sh : Shared}
    {request : Request} (h : sh.requestTable.find event.requestId = some request)
    (hout : node.outstandingRequests ≠ 0) :
    node.handleReturnResponse A event sh =
      .ok ({ node with
          localCache :=
            (node.localCache.admitObject A request (memoryResponse A request event.time)
              event.time).1
          outstandingRequests := node.outstandingRequests - 1 },
        sh.apply
          { request := some { request with currentStage := .completed }
            responses := [memoryResponse A request event.time]
            stats := sh.stats.recordLatency A node.nodeId (A.sub event.time request.issueTime)
            events :=
              [{ time := event.time
                 type := .requestComplete
                 targetId := node.nodeId
                 requestId := event.requestId }] }) := by
  unfold handleReturnResponse
  rw [Shared.requestAt_eq h]
  exact if_neg hout

theorem handleRequestComplete_eq (node : ComputeNode P) (sh : Shared) :
    node.handleRequestComplete sh =
      .ok (node, sh.apply
        { stats := sh.stats
          events := (node.nextOnCompletion sh.scheduler.now).toList }) := by
  unfold handleRequestComplete nextOnCompletion
  by_cases hmode : node.issueMode = .scheduledBursty
  · cases hup : node.workload.upcoming <;>
      simp [hmode, Shared.apply, pure, Except.pure]
  · cases hup : node.workload.upcoming with
    | none =>
        simp [hmode, WorkloadCursor.hasNext_of_none hup, Shared.apply, pure, Except.pure]
    | some spec =>
        have hnext := WorkloadCursor.hasNext_of_some hup
        have hpeek := WorkloadCursor.peekNext_of_some hup
        by_cases hepoch : node.currentEpoch = some spec.epochId
        · simp [hmode, hnext, hpeek, hepoch, Shared.apply, Shared.schedule, pure, Except.pure,
            bind, Except.bind]
        · have hepoch' : ¬ some spec.epochId = node.currentEpoch := fun h => hepoch h.symm
          cases hcurrent : node.currentEpoch with
          | none => simp [hmode, hnext, Shared.apply, pure, Except.pure]
          | some epoch =>
              rw [hcurrent] at hepoch hepoch'
              simp [hmode, hnext, hpeek, hepoch, hepoch', Shared.apply, pure, Except.pure,
                bind, Except.bind]

theorem handleEvent_of_step {node node' : ComputeNode P} {event : Event} {sh : Shared}
    {effect : Effect} (h : ComputeStep A node event sh node' effect) :
    node.handleEvent A event sh = .ok (node', sh.apply effect) := by
  unfold handleEvent
  cases h with
  | drained htype hup =>
      rw [htype]
      have hnext := WorkloadCursor.hasNext_of_none hup
      simp [handleGenerateRequest, hnext, Shared.apply, pure, Except.pure]
  | issue htype hup => rw [htype]; exact handleGenerateRequest_eq A hup
  | hit htype hfind hhit => rw [htype]; exact handleLocalCacheLookup_hit A hfind hhit
  | miss htype hfind hmiss => rw [htype]; exact handleLocalCacheLookup_miss A hfind hmiss
  | hitComplete htype hfind hout =>
      rw [htype]; exact handleLocalCacheHitComplete_eq A hfind hout
  | returned htype hfind hout => rw [htype]; exact handleReturnResponse_eq A hfind hout
  | complete htype => rw [htype]; exact handleRequestComplete_eq node sh

theorem find_of_handleEvent_ok {sh : Shared} {requestId : RequestId} {α : Type}
    {k : Request → Except String α} {result : α}
    (h : (sh.requestAt requestId >>= k) = .ok result) :
    ∃ request, sh.requestTable.find requestId = some request := by
  cases hfind : sh.requestTable.find requestId with
  | none => simp [Shared.requestAt, hfind, bind, Except.bind] at h
  | some request => exact ⟨request, rfl⟩

/-- A compute node returns from an event along one of the paths. -/
theorem step_of_handleEvent {node node' : ComputeNode P} {event : Event} {sh sh' : Shared}
    (h : node.handleEvent A event sh = .ok (node', sh')) :
    ∃ effect, ComputeStep A node event sh node' effect ∧ sh' = sh.apply effect := by
  have finish : ∀ {node'' effect}, ComputeStep A node event sh node'' effect →
      ∃ effect, ComputeStep A node event sh node' effect ∧ sh' = sh.apply effect := by
    intro node'' effect hstep
    have heq := (handleEvent_of_step A hstep).symm.trans h
    simp only [Except.ok.injEq, Prod.mk.injEq] at heq
    obtain ⟨rfl, rfl⟩ := heq
    exact ⟨effect, hstep, rfl⟩
  unfold handleEvent at h
  cases htype : event.type <;> simp only [htype] at h
  case generateRequest =>
    cases hup : node.workload.upcoming with
    | none => exact finish (.drained htype hup)
    | some spec => exact finish (.issue htype hup)
  case localCacheLookup =>
    obtain ⟨request, hfind⟩ := find_of_handleEvent_ok h
    cases hhit : (node.localCache.lookup sh.stats (lookedUp request) event.time).2 with
    | true => exact finish (.hit htype hfind hhit)
    | false => exact finish (.miss htype hfind hhit)
  case localCacheHitComplete =>
    obtain ⟨request, hfind⟩ := find_of_handleEvent_ok h
    by_cases hout : node.outstandingRequests = 0
    · unfold handleLocalCacheHitComplete at h
      rw [Shared.requestAt_eq hfind] at h
      have herror := (if_pos hout).symm.trans h
      cases herror
    · exact finish (.hitComplete htype hfind hout)
  case returnResponse =>
    obtain ⟨request, hfind⟩ := find_of_handleEvent_ok h
    by_cases hout : node.outstandingRequests = 0
    · unfold handleReturnResponse at h
      rw [Shared.requestAt_eq hfind] at h
      have herror := (if_pos hout).symm.trans h
      cases herror
    · exact finish (.returned htype hfind hout)
  case requestComplete => exact finish (.complete htype)
  all_goals cases h

end ComputeNode

-- ============================================================================
-- The memory node
-- ============================================================================

namespace MemoryNode

variable (A : Arith)

def startEvent (m : MemoryNode) (requestId : RequestId) (time : SimTime) : EventRecord :=
  { time := time, type := .memoryServiceStart, targetId := m.nodeId, requestId := requestId }

def enqueued (request : Request) (time : SimTime) : Request :=
  { request with memoryEnqueueTime := time }

/-- The statistics after a request has joined a queue that is now `depth` long. -/
def arrivalStats (stats : Stats) (request : Request) (channelId : MemoryChannelId)
    (depth : Nat) : Stats :=
  (stats.observeMemoryQueueDepth depth).recordRemoteAccess request channelId depth

/-- The statistics after a request has waited. -/
def waitStats (stats : Stats) (request : Request) (channelId : MemoryChannelId)
    (waitTime : SimTime) : Stats :=
  (stats.recordMemoryWait A waitTime).recordObjectQueueWait A request channelId waitTime

/-- The paths through `MemoryNode::handle_event`. -/
inductive MemoryStep (m : MemoryNode) (event : Event) (sh : Shared) :
    MemoryNode → Effect → Prop
  | forwardIdle {request : Request} {channel : ChannelState} :
      event.type = .forwardToMemory → sh.requestTable.find event.requestId = some request →
      m.channels[m.channelFor request]? = some channel →
      channel.serviceInProgress = false → channel.serviceStartScheduled = false →
      MemoryStep m event sh
        (m.setChannel (m.channelFor request)
          { queuedRequests := channel.queuedRequests ++ [event.requestId]
            serviceInProgress := false
            serviceStartScheduled := true })
        { request := some (enqueued request event.time)
          stats := arrivalStats sh.stats (enqueued request event.time) (m.channelFor request)
            (channel.queuedRequests.length + 1)
          events :=
            [m.startEvent ((channel.queuedRequests ++ [event.requestId]).headD
              kInvalidRequestId) event.time] }
  | forwardBusy {request : Request} {channel : ChannelState} :
      event.type = .forwardToMemory → sh.requestTable.find event.requestId = some request →
      m.channels[m.channelFor request]? = some channel →
      (channel.serviceInProgress = true ∨ channel.serviceStartScheduled = true) →
      MemoryStep m event sh
        (m.setChannel (m.channelFor request)
          { channel with queuedRequests := channel.queuedRequests ++ [event.requestId] })
        { request := some (enqueued request event.time)
          stats := arrivalStats sh.stats (enqueued request event.time) (m.channelFor request)
            (channel.queuedRequests.length + 1) }
  | start {request : Request} {channel : ChannelState} {rest : List RequestId} :
      event.type = .memoryServiceStart →
      sh.requestTable.find event.requestId = some request →
      m.channels[m.channelFor request]? = some channel →
      channel.queuedRequests = event.requestId :: rest →
      MemoryStep m event sh
        (m.setChannel (m.channelFor request)
          { queuedRequests := rest
            serviceStartScheduled := false
            serviceInProgress := true })
        { request := some { request with currentStage := .waitingForResponse }
          stats := waitStats A sh.stats { request with currentStage := .waitingForResponse }
            (m.channelFor request) (A.sub event.time request.memoryEnqueueTime)
          events :=
            [{ time := A.add event.time (m.serviceTimeFor A request)
               type := .memoryServiceComplete
               targetId := m.nodeId
               requestId := request.requestId }] }
  | completeIdle {request : Request} {channel : ChannelState} :
      event.type = .memoryServiceComplete →
      sh.requestTable.find event.requestId = some request →
      m.channels[m.channelFor request]? = some channel →
      channel.serviceInProgress = true → channel.queuedRequests = [] →
      MemoryStep m event sh
        (m.setChannel (m.channelFor request)
          { queuedRequests := []
            serviceInProgress := false
            serviceStartScheduled := channel.serviceStartScheduled })
        { stats := sh.stats.recordObjectService A request (m.channelFor request)
            (m.serviceTimeFor A request)
          events :=
            [{ time := A.add event.time m.config.oneWayLinkLatency
               type := .returnResponse
               targetId := request.sourceNodeId
               requestId := request.requestId }] }
  | completeNext {request : Request} {channel : ChannelState} {next : RequestId}
      {rest : List RequestId} :
      event.type = .memoryServiceComplete →
      sh.requestTable.find event.requestId = some request →
      m.channels[m.channelFor request]? = some channel →
      channel.serviceInProgress = true → channel.queuedRequests = next :: rest →
      MemoryStep m event sh
        (m.setChannel (m.channelFor request)
          { queuedRequests := next :: rest
            serviceInProgress := false
            serviceStartScheduled := true })
        { stats := sh.stats.recordObjectService A request (m.channelFor request)
            (m.serviceTimeFor A request)
          events :=
            [{ time := A.add event.time m.config.oneWayLinkLatency
               type := .returnResponse
               targetId := request.sourceNodeId
               requestId := request.requestId },
             m.startEvent next event.time] }

theorem channelState_eq {m : MemoryNode} {channelId : MemoryChannelId} {channel : ChannelState}
    (h : m.channels[channelId]? = some channel) : m.channelState channelId = .ok channel := by
  simp [channelState, h]

theorem handleEvent_of_step {m m' : MemoryNode} {event : Event} {sh : Shared}
    {effect : Effect} (h : MemoryStep A m event sh m' effect) :
    m.handleEvent A event sh = .ok (m', sh.apply effect) := by
  unfold handleEvent
  cases h with
  | @forwardIdle request channel htype hfind hchannel hprogress hscheduled =>
      obtain ⟨queue, progress, scheduled⟩ := channel
      obtain rfl : progress = false := hprogress
      obtain rfl : scheduled = false := hscheduled
      rw [htype]
      simp only
      unfold handleForwardToMemory
      rw [Shared.requestAt_eq hfind]
      simp only [bind, Except.bind]
      rw [channelState_eq hchannel]
      simp only [Bool.false_eq_true, not_false_eq_true, and_self, if_true,
        List.length_append, List.length_singleton, Shared.apply, List.append_nil]
      rfl
  | @forwardBusy request channel htype hfind hchannel hbusy =>
      rw [htype]
      simp only
      unfold handleForwardToMemory
      rw [Shared.requestAt_eq hfind]
      simp only [bind, Except.bind]
      rw [channelState_eq hchannel]
      have hnot : ¬ (¬ channel.serviceInProgress = true ∧
          ¬ channel.serviceStartScheduled = true) := by
        rintro ⟨hprogress, hscheduled⟩
        rcases hbusy with h | h
        · exact hprogress h
        · exact hscheduled h
      simp only [hnot, if_false, List.length_append, List.length_singleton, Shared.apply,
        List.append_nil]
      rfl
  | start htype hfind hchannel hqueue =>
      rw [htype]
      simp only
      unfold handleMemoryServiceStart
      rw [Shared.requestAt_eq hfind]
      simp only [bind, Except.bind]
      rw [channelState_eq hchannel]
      simp only [hqueue, ne_eq, not_true, if_false, Shared.apply, List.append_nil]
      rfl
  | @completeIdle request channel htype hfind hchannel hprogress hqueue =>
      obtain ⟨queue, progress, scheduled⟩ := channel
      obtain rfl : progress = true := hprogress
      obtain rfl : queue = [] := hqueue
      rw [htype]
      simp only
      unfold handleMemoryServiceComplete
      rw [Shared.requestAt_eq hfind]
      simp only [bind, Except.bind]
      rw [channelState_eq hchannel]
      simp only [ne_eq, not_true, if_false, Shared.apply, List.append_nil]
      rfl
  | @completeNext request channel next rest htype hfind hchannel hprogress hqueue =>
      obtain ⟨queue, progress, scheduled⟩ := channel
      obtain rfl : progress = true := hprogress
      obtain rfl : queue = next :: rest := hqueue
      rw [htype]
      simp only
      unfold handleMemoryServiceComplete
      rw [Shared.requestAt_eq hfind]
      simp only [bind, Except.bind]
      rw [channelState_eq hchannel]
      simp only [ne_eq, not_true, if_false, Shared.apply, List.append_nil,
        reduceCtorEq, not_false_eq_true, if_true]
      rfl

/-- The memory node returns from an event along one of the paths. -/
theorem step_of_handleEvent {m m' : MemoryNode} {event : Event} {sh sh' : Shared}
    (h : m.handleEvent A event sh = .ok (m', sh')) :
    ∃ effect, MemoryStep A m event sh m' effect ∧ sh' = sh.apply effect := by
  have finish : ∀ {m'' effect}, MemoryStep A m event sh m'' effect →
      ∃ effect, MemoryStep A m event sh m' effect ∧ sh' = sh.apply effect := by
    intro m'' effect hstep
    have heq := (handleEvent_of_step A hstep).symm.trans h
    simp only [Except.ok.injEq, Prod.mk.injEq] at heq
    obtain ⟨rfl, rfl⟩ := heq
    exact ⟨effect, hstep, rfl⟩
  have hchannel : ∀ {request : Request} {α : Type} {k : ChannelState → Except String α}
      {result : α}, (m.channelState (m.channelFor request) >>= k) = .ok result →
      ∃ channel, m.channels[m.channelFor request]? = some channel := by
    intro request α k result hok
    cases hget : m.channels[m.channelFor request]? with
    | none => simp [channelState, hget, bind, Except.bind] at hok
    | some channel => exact ⟨channel, rfl⟩
  unfold handleEvent at h
  cases htype : event.type <;> simp only [htype] at h
  case forwardToMemory =>
    obtain ⟨request, hfind⟩ := ComputeNode.find_of_handleEvent_ok h
    unfold handleForwardToMemory at h
    rw [Shared.requestAt_eq hfind] at h
    obtain ⟨channel, hget⟩ := hchannel h
    cases hprogress : channel.serviceInProgress with
    | true => exact finish (.forwardBusy htype hfind hget (Or.inl hprogress))
    | false =>
        cases hscheduled : channel.serviceStartScheduled with
        | true => exact finish (.forwardBusy htype hfind hget (Or.inr hscheduled))
        | false => exact finish (.forwardIdle htype hfind hget hprogress hscheduled)
  case memoryServiceStart =>
    obtain ⟨request, hfind⟩ := ComputeNode.find_of_handleEvent_ok h
    unfold handleMemoryServiceStart at h
    rw [Shared.requestAt_eq hfind] at h
    obtain ⟨channel, hget⟩ := hchannel h
    simp only [bind, Except.bind, channelState_eq hget] at h
    cases hqueue : channel.queuedRequests with
    | nil => simp [hqueue, throw, throwThe, MonadExceptOf.throw] at h
    | cons front rest =>
        by_cases hfront : front = event.requestId
        · exact finish (.start htype hfind hget (hfront ▸ hqueue))
        · simp [hqueue, hfront, throw, throwThe, MonadExceptOf.throw] at h
  case memoryServiceComplete =>
    obtain ⟨request, hfind⟩ := ComputeNode.find_of_handleEvent_ok h
    unfold handleMemoryServiceComplete at h
    rw [Shared.requestAt_eq hfind] at h
    obtain ⟨channel, hget⟩ := hchannel h
    simp only [bind, Except.bind, channelState_eq hget] at h
    cases hprogress : channel.serviceInProgress with
    | false => simp [hprogress, throw, throwThe, MonadExceptOf.throw] at h
    | true =>
        cases hqueue : channel.queuedRequests with
        | nil => exact finish (.completeIdle htype hfind hget hprogress hqueue)
        | cons next rest => exact finish (.completeNext htype hfind hget hprogress hqueue)
  all_goals cases h

end MemoryNode

end DmSimulator
