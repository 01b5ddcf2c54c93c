/-
  DmSimulator.Nodes.ComputeNode

  Compute nodes (`nodes/compute_node.cpp`).  What the nodes of a simulation hold
  references to (the scheduler, the request table, the responses, the
  statistics, the request id counter) is the record `Shared`; a handler maps a
  node and the shared state to their successors.
-/
import DmSimulator.Cache.LocalCache
import DmSimulator.Sim.Config
import DmSimulator.Sim.Scheduler
import DmSimulator.Workloads.Workload

namespace DmSimulator

/-- The request table; a request is stored under its own id. -/
abbrev RequestTable : Type := KeyedStore Request.requestId

structure Shared where
  scheduler : Scheduler := {}
  nextRequestId : RequestId := 1
  requestTable : RequestTable := KeyedStore.empty
  responses : List Response := []
  stats : Stats := {}

namespace Shared

/-- `unordered_map::at` on the request table. -/
def requestAt (sh : Shared) (requestId : RequestId) : Except String Request :=
  match sh.requestTable.find requestId with
  | none => .error "request_table.at"
  | some request => .ok request

/-- Write through a reference into the request table. -/
def setRequest (sh : Shared) (request : Request) : Shared :=
  { sh with requestTable := sh.requestTable.insert request }

/-- `scheduler.schedule(..)`; every caller ignores the flag. -/
def schedule (sh : Shared) (event : EventRecord) : Shared :=
  { sh with scheduler := (sh.scheduler.schedule event.event).1 }

end Shared

structure ComputeNode (P : CachePolicy) where
  nodeId : NodeId
  memoryNodeId : NodeId
  workload : WorkloadCursor
  issueMode : WorkloadIssueMode := .completionDriven
  oneWayLinkLatency : SimTime := 0
  localCacheHitLatency : SimTime := 0
  localCache : LocalCache P
  globalReplicaPlan : Option GlobalReplicaPlan := none
  currentEpoch : Option EpochId := none
  currentEpochStartTime : SimTime := 0
  outstandingRequests : Nat := 0

namespace ComputeNode

variable {P : CachePolicy} (A : Arith)

def nextRequestEpoch (node : ComputeNode P) : Option EpochId :=
  node.workload.upcoming.map RequestSpec.epochId

def nextRequestIssueOffset (node : ComputeNode P) : SimTime :=
  match node.workload.upcoming with
  | none => 0
  | some spec => spec.scheduledIssueOffset

def startEpochIfNeeded (stats : Stats) (node : ComputeNode P) (epochId : EpochId)
    (eventTime : SimTime) : ComputeNode P :=
  if node.currentEpoch = some epochId then node
  else
    let node :=
      { node with
        currentEpoch := some epochId
        localCache := node.localCache.onEpochStart stats epochId }
    match node.globalReplicaPlan with
    | none => node
    | some plan =>
        match plan.lookup epochId with
        | none =>
            { node with
              localCache := node.localCache.installReplicas A [] eventTime node.nodeId epochId }
        | some replicas =>
            { node with
              localCache :=
                node.localCache.installReplicas A replicas eventTime node.nodeId epochId }

def scheduleNextBurstyRequestIfReady (node : ComputeNode P) (sh : Shared) :
    Except String Shared :=
  if node.issueMode ≠ .scheduledBursty || node.currentEpoch.isNone ||
      ¬ node.workload.hasNext then
    return sh
  else do
    let spec ← node.workload.peekNext
    if some spec.epochId ≠ node.currentEpoch then
      return sh
    else
      return sh.schedule
        { time := A.add node.currentEpochStartTime spec.scheduledIssueOffset
          type := .generateRequest
          targetId := node.nodeId }

def handleGenerateRequest (node : ComputeNode P) (event : Event) (sh : Shared) :
    Except String (ComputeNode P × Shared) :=
  if ¬ node.workload.hasNext then return (node, sh)
  else do
    let (spec, workload) ← node.workload.next
    let node := { node with workload := workload }
    let requestId := sh.nextRequestId
    let sh := { sh with nextRequestId := sh.nextRequestId + 1 }
    let request : Request :=
      { requestId := requestId
        sourceNodeId := node.nodeId
        objectId := spec.objectId
        operationType := .read
        issueTime := event.time
        sizeBytes := spec.sizeBytes
        epochId := spec.epochId
        currentStage := .generated }
    let node :=
      if node.issueMode = .scheduledBursty then
        { node with
          currentEpochStartTime :=
            if event.time ≥ spec.scheduledIssueOffset then
              A.sub event.time spec.scheduledIssueOffset
            else 0 }
      else node
    let node := node.startEpochIfNeeded A sh.stats request.epochId event.time
    let sh := sh.setRequest request
    let node := { node with outstandingRequests := node.outstandingRequests + 1 }
    let sh := sh.schedule
      { time := event.time
        type := .localCacheLookup
        targetId := node.nodeId
        requestId := requestId }
    let sh ← node.scheduleNextBurstyRequestIfReady A sh
    return (node, sh)

def handleLocalCacheLookup (node : ComputeNode P) (event : Event) (sh : Shared) :
    Except String (ComputeNode P × Shared) := do
  let request ← sh.requestAt event.requestId
  let request := { request with currentStage := .localLookup }
  let (localCache, hit) := node.localCache.lookup sh.stats request event.time
  let node := { node with localCache := localCache }
  if hit then
    let sh := sh.setRequest request
    let sh := { sh with stats := sh.stats.recordCacheHit node.nodeId }
    return (node, sh.schedule
      { time := A.add event.time node.localCacheHitLatency
        type := .localCacheHitComplete
        targetId := node.nodeId
        requestId := event.requestId })
  else
    let sh := { sh with stats := sh.stats.recordCacheMiss node.nodeId }
    let sh := sh.setRequest { request with currentStage := .forwardedToMemory }
    return (node, sh.schedule
      { time := A.add event.time node.oneWayLinkLatency
        type := .forwardToMemory
        targetId := node.memoryNodeId
        requestId := event.requestId })

def handleLocalCacheHitComplete (node : ComputeNode P) (event : Event) (sh : Shared) :
    Except String (ComputeNode P × Shared) := do
  let request ← sh.requestAt event.requestId
  let request := { request with currentStage := .completed }
  let latency := A.sub event.time request.issueTime
  let response : Response :=
    { requestId := request.requestId
      objectId := request.objectId
      servedFromTier := .localCache
      completionTime := event.time
      totalLatency := latency
      bytesTransferred := 0 }
  let sh := sh.setRequest request
  let sh :=
    { sh with
      responses := sh.responses ++ [response]
      stats := sh.stats.recordLatency A node.nodeId latency }
  if node.outstandingRequests = 0 then
    throw "Outstanding request count underflow"
  else
    let node := { node with outstandingRequests := node.outstandingRequests - 1 }
    return (node, sh.schedule
      { time := event.time
        type := .requestComplete
        targetId := node.nodeId
        requestId := event.requestId })

def handleReturnResponse (node : ComputeNode P) (event : Event) (sh : Shared) :
    Except String (ComputeNode P × Shared) := do
  let request ← sh.requestAt event.requestId
  let latency := A.sub event.time request.issueTime
  let response : Response :=
    { requestId := request.requestId
      objectId := request.objectId
      servedFromTier := .memory
      completionTime := event.time
      totalLatency := latency
      bytesTransferred := request.sizeBytes }
  let sh :=
    { sh with
      responses := sh.responses ++ [response]
      stats := sh.stats.recordLatency A node.nodeId latency }
  let (localCache, _admitted) := node.localCache.admitObject A request response event.time
  let node := { node with localCache := localCache }
  let sh := sh.setRequest { request with currentStage := .completed }
  if node.outstandingRequests = 0 then
    throw "Outstanding request count underflow"
  else
    let node := { node with outstandingRequests := node.outstandingRequests - 1 }
    return (node, sh.schedule
      { time := event.time
        type := .requestComplete
        targetId := node.nodeId
        requestId := event.requestId })

def handleRequestComplete (node : ComputeNode P) (sh : Shared) :
    Except String (ComputeNode P × Shared) :=
  if node.issueMode = .scheduledBursty then return (node, sh)
  else if node.workload.hasNext && node.currentEpoch.isSome then do
    let spec ← node.workload.peekNext
    if some spec.epochId = node.currentEpoch then
      return (node, sh.schedule
        { time := sh.scheduler.now
          type := .generateRequest
          targetId := node.nodeId })
    else
      return (node, sh)
  else
    return (node, sh)

def handleEvent (node : ComputeNode P) (event : Event) (sh : Shared) :
    Except String (ComputeNode P × Shared) :=
  match event.type with
  | .generateRequest => node.handleGenerateRequest A event sh
  | .localCacheLookup => node.handleLocalCacheLookup A event sh
  | .localCacheHitComplete => node.handleLocalCacheHitComplete A event sh
  | .returnResponse => node.handleReturnResponse A event sh
  | .requestComplete => node.handleRequestComplete sh
  | _ => throw "ComputeNode received unsupported event type"

end ComputeNode

end DmSimulator
