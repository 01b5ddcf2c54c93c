/-
  DmSimulator.Metrics.Stats

  Statistics of a run (`metrics/stats.cpp`): latencies, memory waits, cache
  hits, and the per-epoch contention buckets of objects and channels that the
  contention-aware policy reads back as telemetry.

  Byte and time counters go through `Arith`; the event counters are naturals,
  and the averages are exact rationals.
-/
import DmSimulator.Lib.UnorderedMap
import DmSimulator.Model.Request
import Mathlib.Data.Rat.Defs
import Mathlib.Data.List.Sort
import Mathlib.Data.Finset.Card

namespace DmSimulator

structure ObjectContentionStats where
  epochId : EpochId := 0
  objectId : ObjectId := 0
  memoryChannelId : MemoryChannelId := 0
  remoteAccesses : Nat := 0
  distinctRequesters : Nat := 0
  bytesServed : Nat := 0
  totalRemoteServiceTime : SimTime := 0
  totalQueueWait : SimTime := 0
  maxQueueWait : SimTime := 0
  queueWaitSamples : Nat := 0
  maxObservedQueueDepth : Nat := 0
  averageQueueWait : Rat := 0
deriving DecidableEq

structure ChannelContentionStats where
  epochId : EpochId := 0
  memoryChannelId : MemoryChannelId := 0
  remoteAccesses : Nat := 0
  bytesServed : Nat := 0
  totalRemoteServiceTime : SimTime := 0
  totalQueueWait : SimTime := 0
  maxQueueWait : SimTime := 0
  queueWaitSamples : Nat := 0
  maxQueueDepth : Nat := 0
  averageQueueWait : Rat := 0
deriving DecidableEq

structure NodeLatencyStats where
  totalLatency : SimTime := 0
  latencies : List SimTime := []
deriving DecidableEq, Repr

structure NodeCacheStats where
  hits : Nat := 0
  misses : Nat := 0
deriving DecidableEq, Repr

structure InternalObjectContentionStats where
  stats : ObjectContentionStats := {}
  requesters : Finset NodeId := ∅
deriving DecidableEq

structure InternalChannelContentionStats where
  stats : ChannelContentionStats := {}
deriving DecidableEq

/-- Fields ending in an underscore share their name with a method of the class. -/
structure Stats where
  totalLatency : SimTime := 0
  latencies : List SimTime := []
  perNodeStats : UnorderedMap NodeId NodeLatencyStats := ∅
  totalMemoryWait : SimTime := 0
  maxMemoryWait : SimTime := 0
  memoryWaitSamples : Nat := 0
  peakMemoryQueueDepth : Nat := 0
  peakMemoryChannelQueueDepth : Nat := 0
  localCacheHits : Nat := 0
  localCacheMisses : Nat := 0
  perNodeCacheStats : UnorderedMap NodeId NodeCacheStats := ∅
  contentionByEpoch_ : UnorderedMap EpochId (UnorderedMap ObjectId InternalObjectContentionStats) := ∅
  channelContentionByEpoch_ :
    UnorderedMap EpochId (UnorderedMap MemoryChannelId InternalChannelContentionStats) := ∅

namespace Stats

variable (A : Arith)

def recordLatency (s : Stats) (nodeId : NodeId) (latency : SimTime) : Stats :=
  let nodeStats := s.perNodeStats.getD nodeId {}
  { s with
    totalLatency := A.add s.totalLatency latency
    latencies := s.latencies ++ [latency]
    perNodeStats := s.perNodeStats.insert nodeId
      { totalLatency := A.add nodeStats.totalLatency latency
        latencies := nodeStats.latencies ++ [latency] } }

def recordMemoryWait (s : Stats) (waitTime : SimTime) : Stats :=
  { s with
    totalMemoryWait := A.add s.totalMemoryWait waitTime
    memoryWaitSamples := s.memoryWaitSamples + 1
    maxMemoryWait := if waitTime > s.maxMemoryWait then waitTime else s.maxMemoryWait }

def observeMemoryQueueDepth (s : Stats) (queueDepth : Nat) : Stats :=
  { s with
    peakMemoryQueueDepth :=
      if queueDepth > s.peakMemoryQueueDepth then queueDepth else s.peakMemoryQueueDepth
    peakMemoryChannelQueueDepth :=
      if queueDepth > s.peakMemoryChannelQueueDepth then queueDepth
      else s.peakMemoryChannelQueueDepth }

def recordCacheHit (s : Stats) (nodeId : NodeId) : Stats :=
  let nodeStats := s.perNodeCacheStats.getD nodeId {}
  { s with
    localCacheHits := s.localCacheHits + 1
    perNodeCacheStats :=
      s.perNodeCacheStats.insert nodeId { nodeStats with hits := nodeStats.hits + 1 } }

def recordCacheMiss (s : Stats) (nodeId : NodeId) : Stats :=
  let nodeStats := s.perNodeCacheStats.getD nodeId {}
  { s with
    localCacheMisses := s.localCacheMisses + 1
    perNodeCacheStats :=
      s.perNodeCacheStats.insert nodeId { nodeStats with misses := nodeStats.misses + 1 } }

/-- `contention_bucket`: the bucket of the request's epoch and object, created
    if absent, with its identifiers stamped on. -/
def contentionBucket (s : Stats) (request : Request) (memoryChannelId : MemoryChannelId) :
    InternalObjectContentionStats :=
  let bucket := (s.contentionByEpoch_.getD request.epochId ∅).getD request.objectId {}
  { bucket with
    stats := { bucket.stats with
      epochId := request.epochId
      objectId := request.objectId
      memoryChannelId := memoryChannelId } }

/-- Write back through the reference `contention_bucket` returned. -/
def setContentionBucket (s : Stats) (request : Request)
    (bucket : InternalObjectContentionStats) : Stats :=
  { s with
    contentionByEpoch_ := s.contentionByEpoch_.insert request.epochId
      ((s.contentionByEpoch_.getD request.epochId ∅).insert request.objectId bucket) }

def channelBucket (s : Stats) (epochId : EpochId) (memoryChannelId : MemoryChannelId) :
    InternalChannelContentionStats :=
  let bucket := (s.channelContentionByEpoch_.getD epochId ∅).getD memoryChannelId {}
  { stats := { bucket.stats with epochId := epochId, memoryChannelId := memoryChannelId } }

/-- Write back through the reference `channel_bucket` returned. -/
def setChannelBucket (s : Stats) (epochId : EpochId) (memoryChannelId : MemoryChannelId)
    (bucket : InternalChannelContentionStats) : Stats :=
  { s with
    channelContentionByEpoch_ := s.channelContentionByEpoch_.insert epochId
      ((s.channelContentionByEpoch_.getD epochId ∅).insert memoryChannelId bucket) }

def recordRemoteAccess (s : Stats) (request : Request) (memoryChannelId : MemoryChannelId)
    (observedQueueDepth : Nat) : Stats :=
  let bucket := s.contentionBucket request memoryChannelId
  let requesters := insert request.sourceNodeId bucket.requesters
  let s := s.setContentionBucket request
    { stats := { bucket.stats with
        remoteAccesses := bucket.stats.remoteAccesses + 1
        distinctRequesters := requesters.card
        maxObservedQueueDepth :=
          if observedQueueDepth > bucket.stats.maxObservedQueueDepth then observedQueueDepth
          else bucket.stats.maxObservedQueueDepth }
      requesters := requesters }
  let channel := s.channelBucket request.epochId memoryChannelId
  s.setChannelBucket request.epochId memoryChannelId
    { stats := { channel.stats with
        remoteAccesses := channel.stats.remoteAccesses + 1
        maxQueueDepth :=
          if observedQueueDepth > channel.stats.maxQueueDepth then observedQueueDepth
          else channel.stats.maxQueueDepth } }

def recordObjectQueueWait (s : Stats) (request : Request) (memoryChannelId : MemoryChannelId)
    (waitTime : SimTime) : Stats :=
  let bucket := s.contentionBucket request memoryChannelId
  let totalQueueWait := A.add bucket.stats.totalQueueWait waitTime
  let queueWaitSamples := bucket.stats.queueWaitSamples + 1
  let s := s.setContentionBucket request
    { bucket with
      stats := { bucket.stats with
        totalQueueWait := totalQueueWait
        queueWaitSamples := queueWaitSamples
        maxQueueWait :=
          if waitTime > bucket.stats.maxQueueWait then waitTime else bucket.stats.maxQueueWait
        averageQueueWait := (totalQueueWait : Rat) / (queueWaitSamples : Rat) } }
  let channel := s.channelBucket request.epochId memoryChannelId
  let totalQueueWait := A.add channel.stats.totalQueueWait waitTime
  let queueWaitSamples := channel.stats.queueWaitSamples + 1
  s.setChannelBucket request.epochId memoryChannelId
    { stats := { channel.stats with
        totalQueueWait := totalQueueWait
        queueWaitSamples := queueWaitSamples
        maxQueueWait :=
          if waitTime > channel.stats.maxQueueWait then waitTime else channel.stats.maxQueueWait
        averageQueueWait := (totalQueueWait : Rat) / (queueWaitSamples : Rat) } }

def recordObjectService (s : Stats) (request : Request) (memoryChannelId : MemoryChannelId)
    (serviceTime : SimTime) : Stats :=
  let bucket := s.contentionBucket request memoryChannelId
  let s := s.setContentionBucket request
    { bucket with
      stats := { bucket.stats with
        totalRemoteServiceTime := A.add bucket.stats.totalRemoteServiceTime serviceTime
        bytesServed := A.add bucket.stats.bytesServed request.sizeBytes } }
  let channel := s.channelBucket request.epochId memoryChannelId
  s.setChannelBucket request.epochId memoryChannelId
    { stats := { channel.stats with
        totalRemoteServiceTime := A.add channel.stats.totalRemoteServiceTime serviceTime
        bytesServed := A.add channel.stats.bytesServed request.sizeBytes } }

/-- `snapshot_contention`: the public row of a bucket. -/
def snapshotContention (internal : InternalObjectContentionStats) : ObjectContentionStats :=
  { internal.stats with
    distinctRequesters := internal.requesters.card
    averageQueueWait :=
      if internal.stats.queueWaitSamples = 0 then 0
      else (internal.stats.totalQueueWait : Rat) / (internal.stats.queueWaitSamples : Rat) }

/-- `snapshot_channel_contention`: the public row of a channel bucket. -/
def snapshotChannelContention (internal : InternalChannelContentionStats) :
    ChannelContentionStats :=
  { internal.stats with
    averageQueueWait :=
      if internal.stats.queueWaitSamples = 0 then 0
      else (internal.stats.totalQueueWait : Rat) / (internal.stats.queueWaitSamples : Rat) }

/-- The object rows of an epoch, sorted by object id. -/
def contentionByEpoch (s : Stats) (epochId : EpochId) : List ObjectContentionStats :=
  match s.contentionByEpoch_.lookup epochId with
  | none => []
  | some objects =>
      (objects.values.map snapshotContention).insertionSort
        (fun lhs rhs => lhs.objectId ≤ rhs.objectId)

/-- The object rows of all epochs, sorted by epoch and then by object id. -/
def allContentionStats (s : Stats) : List ObjectContentionStats :=
  (s.contentionByEpoch_.values.flatMap
      (fun objects => objects.values.map snapshotContention)).insertionSort
    (fun lhs rhs =>
      if lhs.epochId ≠ rhs.epochId then lhs.epochId < rhs.epochId
      else lhs.objectId ≤ rhs.objectId)

def channelContention (s : Stats) (epochId : EpochId) (memoryChannelId : MemoryChannelId) :
    Option ChannelContentionStats :=
  match s.channelContentionByEpoch_.lookup epochId with
  | none => none
  | some channels =>
      match channels.lookup memoryChannelId with
      | none => none
      | some internal => some (snapshotChannelContention internal)

def completedRequests (s : Stats) : Nat := s.latencies.length

def nodeCompletedRequests (s : Stats) (nodeId : NodeId) : Nat :=
  match s.perNodeStats.lookup nodeId with
  | none => 0
  | some nodeStats => nodeStats.latencies.length

def nodeTotalLatency (s : Stats) (nodeId : NodeId) : SimTime :=
  match s.perNodeStats.lookup nodeId with
  | none => 0
  | some nodeStats => nodeStats.totalLatency

def nodeLocalCacheHits (s : Stats) (nodeId : NodeId) : Nat :=
  match s.perNodeCacheStats.lookup nodeId with
  | none => 0
  | some nodeStats => nodeStats.hits

def nodeLocalCacheMisses (s : Stats) (nodeId : NodeId) : Nat :=
  match s.perNodeCacheStats.lookup nodeId with
  | none => 0
  | some nodeStats => nodeStats.misses

end Stats

end DmSimulator
