/-
  DmSimulator.Model.Request

  Identifiers, requests, responses and events (`sim/types.hpp`,
  `model/request.hpp`, `model/response.hpp`, `sim/event.hpp`).
-/
import DmSimulator.Lib.Arith

namespace DmSimulator

abbrev SimTime := Nat
abbrev NodeId := Nat
abbrev ObjectId := Nat
abbrev RequestId := Nat
abbrev EpochId := Nat
abbrev MemoryChannelId := Nat

/-- The request id of events that carry no request. -/
def kInvalidRequestId : RequestId := 0

/-- Static object-to-channel mapping; the cast truncates to 32 bits. -/
def memoryChannelForObject (objectId : ObjectId) (channelCount : Nat) : MemoryChannelId :=
  if objectId = 0 then 0 else ((objectId - 1) % channelCount) % 2 ^ 32

inductive OperationType
  | read
deriving DecidableEq, Repr

inductive RequestStage
  | generated
  | localLookup
  | forwardedToMemory
  | waitingForResponse
  | completed
deriving DecidableEq, Repr

/-- One entry of a node's request stream.  `scheduledIssueOffset` is the planned
    arrival time relative to the epoch release. -/
structure RequestSpec where
  objectId : ObjectId := 0
  sizeBytes : Nat := 0
  epochId : EpochId := 0
  scheduledIssueOffset : SimTime := 0
deriving DecidableEq, Repr

structure Request where
  requestId : RequestId := kInvalidRequestId
  sourceNodeId : NodeId := 0
  objectId : ObjectId := 0
  operationType : OperationType := .read
  issueTime : SimTime := 0
  sizeBytes : Nat := 0
  epochId : EpochId := 0
  currentStage : RequestStage := .generated
  memoryEnqueueTime : SimTime := 0
deriving DecidableEq, Repr

inductive ServedFromTier
  | localCache
  | memory
deriving DecidableEq, Repr

structure Response where
  requestId : RequestId := kInvalidRequestId
  objectId : ObjectId := 0
  servedFromTier : ServedFromTier := .memory
  completionTime : SimTime := 0
  totalLatency : SimTime := 0
  bytesTransferred : Nat := 0
deriving DecidableEq, Repr

inductive EventType
  | generateRequest
  | localCacheLookup
  | localCacheHitComplete
  | forwardToSharedCache
  | sharedCacheLookup
  | sharedCacheHitComplete
  | forwardToMemory
  | memoryQueueEnqueue
  | memoryServiceStart
  | memoryServiceComplete
  | returnResponse
  | requestComplete
  | epochAdvance
deriving DecidableEq, Repr

/-- A schedulable event.  `sequence` is stamped by the scheduler. -/
structure Event where
  time : SimTime := 0
  type : EventType := .generateRequest
  targetId : NodeId := 0
  requestId : RequestId := kInvalidRequestId
  sequence : Nat := 0
deriving DecidableEq, Repr

/-- The event log row of the simulator. -/
structure EventRecord where
  time : SimTime := 0
  type : EventType := .generateRequest
  targetId : NodeId := 0
  requestId : RequestId := kInvalidRequestId
deriving DecidableEq, Repr

/-- An event without its sequence number. -/
def Event.record (event : Event) : EventRecord :=
  { time := event.time, type := event.type, targetId := event.targetId,
    requestId := event.requestId }

/-- The event a record describes, before the scheduler stamps it. -/
def EventRecord.event (record : EventRecord) : Event :=
  { time := record.time, type := record.type, targetId := record.targetId,
    requestId := record.requestId }

/-- Every object maps to one of the channels. -/
theorem memoryChannelForObject_lt (objectId : ObjectId) {channelCount : Nat}
    (h : 0 < channelCount) : memoryChannelForObject objectId channelCount < channelCount := by
  unfold memoryChannelForObject
  split
  · exact h
  · exact Nat.lt_of_le_of_lt (Nat.mod_le _ _) (Nat.mod_lt _ h)

end DmSimulator
