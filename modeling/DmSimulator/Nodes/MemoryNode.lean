/-
  DmSimulator.Nodes.MemoryNode

  The memory node (`nodes/memory_node.cpp`): one FIFO server per channel, each
  with a queue and two flags.
-/
import DmSimulator.Nodes.ComputeNode

namespace DmSimulator

structure ChannelState where
  queuedRequests : List RequestId := []
  serviceInProgress : Bool := false
  serviceStartScheduled : Bool := false
deriving DecidableEq, Repr

structure MemoryNode where
  nodeId : NodeId
  config : SimulationConfig
  channels : List ChannelState
deriving DecidableEq

namespace MemoryNode

variable (A : Arith)

def serviceTimeFor (m : MemoryNode) (request : Request) : SimTime :=
  let bandwidth := m.config.memoryBandwidthBytesPerTime
  let serializationDelay := A.sub (A.add request.sizeBytes bandwidth) 1 / bandwidth
  A.add m.config.memoryBaseLatency serializationDelay

def channelFor (m : MemoryNode) (request : Request) : MemoryChannelId :=
  memoryChannelForObject request.objectId m.config.memoryChannelCount

/-- `vector::at` on the channels. -/
def channelState (m : MemoryNode) (channelId : MemoryChannelId) : Except String ChannelState :=
  match m.channels[channelId]? with
  | none => .error "channels.at"
  | some channel => .ok channel

/-- Write through a reference into the channels. -/
def setChannel (m : MemoryNode) (channelId : MemoryChannelId) (channel : ChannelState) :
    MemoryNode :=
  { m with channels := m.channels.set channelId channel }

/-- Schedule the start of service of the request at the head of the queue. -/
def scheduleStart (m : MemoryNode) (channel : ChannelState) (time : SimTime) (sh : Shared) :
    Shared :=
  sh.schedule
    { time := time
      type := .memoryServiceStart
      targetId := m.nodeId
      requestId := channel.queuedRequests.headD kInvalidRequestId }

def handleForwardToMemory (m : MemoryNode) (event : Event) (sh : Shared) :
    Except String (MemoryNode × Shared) := do
  let request ← sh.requestAt event.requestId
  let channelId := m.channelFor request
  let channel ← m.channelState channelId
  let request := { request with memoryEnqueueTime := event.time }
  let channel :=
    { channel with queuedRequests := channel.queuedRequests ++ [event.requestId] }
  let stats := sh.stats.observeMemoryQueueDepth channel.queuedRequests.length
  let stats := stats.recordRemoteAccess request channelId channel.queuedRequests.length
  let sh := { sh.setRequest request with stats := stats }
  if ¬ channel.serviceInProgress ∧ ¬ channel.serviceStartScheduled then
    let channel := { channel with serviceStartScheduled := true }
    return (m.setChannel channelId channel, m.scheduleStart channel event.time sh)
  else
    return (m.setChannel channelId channel, sh)

def handleMemoryServiceStart (m : MemoryNode) (event : Event) (sh : Shared) :
    Except String (MemoryNode × Shared) := do
  let request ← sh.requestAt event.requestId
  let channelId := m.channelFor request
  let channel ← m.channelState channelId
  match channel.queuedRequests with
  | [] => throw "Memory service started with empty queue"
  | front :: rest =>
      if front ≠ event.requestId then
        throw "Memory service started out of FIFO order"
      else
        let channel :=
          { queuedRequests := rest
            serviceStartScheduled := false
            serviceInProgress := true }
        let request := { request with currentStage := .waitingForResponse }
        let waitTime := A.sub event.time request.memoryEnqueueTime
        let stats := sh.stats.recordMemoryWait A waitTime
        let stats := stats.recordObjectQueueWait A request channelId waitTime
        let sh := { sh.setRequest request with stats := stats }
        return (m.setChannel channelId channel, sh.schedule
          { time := A.add event.time (m.serviceTimeFor A request)
            type := .memoryServiceComplete
            targetId := m.nodeId
            requestId := request.requestId })

def handleMemoryServiceComplete (m : MemoryNode) (event : Event) (sh : Shared) :
    Except String (MemoryNode × Shared) := do
  let request ← sh.requestAt event.requestId
  let channelId := m.channelFor request
  let channel ← m.channelState channelId
  if ¬ channel.serviceInProgress then
    throw "Memory service completed without active request"
  else
    let channel := { channel with serviceInProgress := false }
    let stats := sh.stats.recordObjectService A request channelId (m.serviceTimeFor A request)
    let sh := { sh with stats := stats }
    let sh := sh.schedule
      { time := A.add event.time m.config.oneWayLinkLatency
        type := .returnResponse
        targetId := request.sourceNodeId
        requestId := request.requestId }
    if channel.queuedRequests ≠ [] then
      let channel := { channel with serviceStartScheduled := true }
      return (m.setChannel channelId channel, m.scheduleStart channel event.time sh)
    else
      return (m.setChannel channelId channel, sh)

def handleEvent (m : MemoryNode) (event : Event) (sh : Shared) :
    Except String (MemoryNode × Shared) :=
  match event.type with
  | .forwardToMemory => m.handleForwardToMemory event sh
  | .memoryServiceStart => m.handleMemoryServiceStart A event sh
  | .memoryServiceComplete => m.handleMemoryServiceComplete A event sh
  | _ => throw "MemoryNode received unsupported event type"

end MemoryNode

end DmSimulator
