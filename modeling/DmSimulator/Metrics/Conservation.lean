/-
  DmSimulator.Metrics.Conservation

  What the recording functions of the statistics conserve, with exact counters.

  Every memory event is recorded twice, in the bucket of its object and in the
  bucket of its channel.  `Balanced` says that a channel's figure is that of its
  objects together, for a figure that adds up or that keeps a maximum; `overAll`
  is a figure summed over all object buckets.  Each recording function writes one
  bucket of each kind, and the lemmas about `written` say what that does to them.
-/
import DmSimulator.Lib.Tally
import DmSimulator.Metrics.Stats
import Mathlib.Algebra.BigOperators.Group.Finset.Piecewise

namespace DmSimulator

namespace Stats

variable {s : Stats}

-- ============================================================================
-- Buckets
-- ============================================================================

/-- The bucket of an object in an epoch; all zero if there is none. -/
def objectBucket (s : Stats) (epochId : EpochId) (objectId : ObjectId) :
    InternalObjectContentionStats :=
  (s.contentionByEpoch_.getD epochId ∅).getD objectId {}

/-- The bucket of a channel in an epoch; all zero if there is none. -/
def channelBucketOf (s : Stats) (epochId : EpochId) (memoryChannelId : MemoryChannelId) :
    InternalChannelContentionStats :=
  (s.channelContentionByEpoch_.getD epochId ∅).getD memoryChannelId {}

/-- Both buckets of a request written. -/
def written (s : Stats) (request : Request) (memoryChannelId : MemoryChannelId)
    (object : InternalObjectContentionStats) (channel : InternalChannelContentionStats) : Stats :=
  (s.setContentionBucket request object).setChannelBucket request.epochId memoryChannelId channel

variable {request : Request} {memoryChannelId : MemoryChannelId}
  {object : InternalObjectContentionStats} {channel : InternalChannelContentionStats}

theorem objects_written (epochId : EpochId) :
    (s.written request memoryChannelId object channel).contentionByEpoch_.getD epochId ∅ =
      if epochId = request.epochId then
        (s.contentionByEpoch_.getD request.epochId ∅).insert request.objectId object
      else s.contentionByEpoch_.getD epochId ∅ :=
  UnorderedMap.getD_insert _ _ _ _ _

theorem objectBucket_written (epochId : EpochId) (objectId : ObjectId) :
    (s.written request memoryChannelId object channel).objectBucket epochId objectId =
      if epochId = request.epochId ∧ objectId = request.objectId then object
      else s.objectBucket epochId objectId := by
  unfold objectBucket
  rw [objects_written]
  by_cases hepoch : epochId = request.epochId
  · rw [if_pos hepoch, UnorderedMap.getD_insert, hepoch]
    by_cases hobject : objectId = request.objectId
    · rw [if_pos hobject, if_pos ⟨rfl, hobject⟩]
    · rw [if_neg hobject, if_neg (fun h => hobject h.2)]
  · rw [if_neg hepoch, if_neg (fun h => hepoch h.1)]

theorem channels_written (epochId : EpochId) :
    (s.written request memoryChannelId object channel).channelContentionByEpoch_.getD epochId ∅ =
      if epochId = request.epochId then
        (s.channelContentionByEpoch_.getD request.epochId ∅).insert memoryChannelId channel
      else s.channelContentionByEpoch_.getD epochId ∅ :=
  UnorderedMap.getD_insert _ _ _ _ _

theorem channelBucketOf_written (epochId : EpochId) (channelId : MemoryChannelId) :
    (s.written request memoryChannelId object channel).channelBucketOf epochId channelId =
      if epochId = request.epochId ∧ channelId = memoryChannelId then channel
      else s.channelBucketOf epochId channelId := by
  unfold channelBucketOf
  rw [channels_written]
  by_cases hepoch : epochId = request.epochId
  · rw [if_pos hepoch, UnorderedMap.getD_insert, hepoch]
    by_cases hchannel : channelId = memoryChannelId
    · rw [if_pos hchannel, if_pos ⟨rfl, hchannel⟩]
    · rw [if_neg hchannel, if_neg (fun h => hchannel h.2)]
  · rw [if_neg hepoch, if_neg (fun h => hepoch h.1)]

-- ============================================================================
-- Totals
-- ============================================================================

section Totals

variable (op : Nat → Nat → Nat) (fo : InternalObjectContentionStats → Nat)
  (fc : InternalChannelContentionStats → Nat) (channelCount : Nat)

/-- A figure over the objects of an epoch that map to a channel. -/
def overChannel (s : Stats) (epochId : EpochId) (channelId : MemoryChannelId) : Nat :=
  UnorderedMap.tally op
    (fun objectId bucket =>
      if memoryChannelForObject objectId channelCount = channelId then fo bucket else 0)
    (s.contentionByEpoch_.getD epochId ∅)

/-- A figure summed over all objects of all epochs. -/
def overAll (s : Stats) : Nat :=
  UnorderedMap.tally (· + ·)
    (fun _ objects => UnorderedMap.tally (· + ·) (fun _ bucket => fo bucket) objects)
    s.contentionByEpoch_

/-- The figure of every channel is that of its objects together. -/
def Balanced (s : Stats) : Prop :=
  ∀ epochId channelId,
    fc (s.channelBucketOf epochId channelId) = s.overChannel op fo channelCount epochId channelId

variable {op fo fc channelCount}

/-- Where one object's figure grows by `x`, so does the sum over all objects. -/
theorem overAll_written {x : Nat} (hzero : fo {} = 0)
    (hobject : fo object = fo (s.objectBucket request.epochId request.objectId) + x) :
    (s.written request memoryChannelId object channel).overAll fo = s.overAll fo + x := by
  refine UnorderedMap.tally_insert (· + ·) ∅ rfl ?_
  exact UnorderedMap.tally_insert (· + ·) _ hzero hobject

variable [Std.Commutative op] [Std.Associative op] [hi : Std.LawfulIdentity op 0]

/-- A figure that grows by the same amount in both buckets stays balanced. -/
theorem Balanced.written (h : Balanced op fo fc channelCount s) {x : Nat} (hzero : fo {} = 0)
    (hchannel : memoryChannelId = memoryChannelForObject request.objectId channelCount)
    (hfo : fo object = op (fo (s.objectBucket request.epochId request.objectId)) x)
    (hfc : fc channel = op (fc (s.channelBucketOf request.epochId memoryChannelId)) x) :
    Balanced op fo fc channelCount (s.written request memoryChannelId object channel) := by
  intro epochId channelId
  rw [channelBucketOf_written]
  unfold overChannel
  rw [objects_written]
  by_cases hepoch : epochId = request.epochId
  · subst hepoch
    rw [if_pos rfl]
    by_cases hsame : channelId = memoryChannelId
    · subst hsame
      rw [if_pos ⟨rfl, rfl⟩, hfc, h]
      refine (UnorderedMap.tally_insert op {} ?_ ?_).symm
      · rw [hzero, ite_self]
      · rw [if_pos hchannel.symm, if_pos hchannel.symm]
        exact hfo
    · have hother : ¬ memoryChannelForObject request.objectId channelCount = channelId := by
        rw [← hchannel]
        exact fun heq => hsame heq.symm
      rw [if_neg (fun hboth => hsame hboth.2), h]
      refine ((UnorderedMap.tally_insert op {} (x := 0) ?_ ?_).trans
        (hi.right_id _)).symm
      · rw [hzero, ite_self]
      · rw [if_neg hother, if_neg hother, hi.right_id]
  · rw [if_neg (fun hboth => hepoch hboth.1), if_neg hepoch]
    exact h epochId channelId

end Totals

-- ============================================================================
-- The recording functions
-- ============================================================================

/-- The figures that the rows of objects and channels have in common. -/
structure ChannelsBalanced (channelCount : Nat) (s : Stats) : Prop where
  remoteAccesses : Balanced (· + ·) (fun object => object.stats.remoteAccesses)
    (fun channel => channel.stats.remoteAccesses) channelCount s
  bytesServed : Balanced (· + ·) (fun object => object.stats.bytesServed)
    (fun channel => channel.stats.bytesServed) channelCount s
  totalRemoteServiceTime : Balanced (· + ·) (fun object => object.stats.totalRemoteServiceTime)
    (fun channel => channel.stats.totalRemoteServiceTime) channelCount s
  totalQueueWait : Balanced (· + ·) (fun object => object.stats.totalQueueWait)
    (fun channel => channel.stats.totalQueueWait) channelCount s
  queueWaitSamples : Balanced (· + ·) (fun object => object.stats.queueWaitSamples)
    (fun channel => channel.stats.queueWaitSamples) channelCount s
  maxQueueWait : Balanced max (fun object => object.stats.maxQueueWait)
    (fun channel => channel.stats.maxQueueWait) channelCount s
  maxQueueDepth : Balanced max (fun object => object.stats.maxObservedQueueDepth)
    (fun channel => channel.stats.maxQueueDepth) channelCount s

/-- The figures are read off the two tables of buckets. -/
theorem ChannelsBalanced.congr {channelCount : Nat} (h : ChannelsBalanced channelCount s)
    {s' : Stats} (hobjects : s'.contentionByEpoch_ = s.contentionByEpoch_)
    (hchannels : s'.channelContentionByEpoch_ = s.channelContentionByEpoch_) :
    ChannelsBalanced channelCount s' := by
  have hbalanced : ∀ {op fo fc}, Balanced op fo fc channelCount s →
      Balanced op fo fc channelCount s' := by
    intro op fo fc hb epochId channelId
    have hepoch := hb epochId channelId
    unfold overChannel channelBucketOf at hepoch ⊢
    rw [hobjects, hchannels]
    exact hepoch
  exact ⟨hbalanced h.remoteAccesses, hbalanced h.bytesServed, hbalanced h.totalRemoteServiceTime,
    hbalanced h.totalQueueWait, hbalanced h.queueWaitSamples, hbalanced h.maxQueueWait,
    hbalanced h.maxQueueDepth⟩

/-- The identifiers of a bucket are the keys it is stored under. -/
def Stamped (channelCount : Nat) (s : Stats) : Prop :=
  ∀ epochId objectId bucket,
    (s.contentionByEpoch_.getD epochId ∅).lookup objectId = some bucket →
      bucket.stats.epochId = epochId ∧ bucket.stats.objectId = objectId ∧
        bucket.stats.memoryChannelId = memoryChannelForObject objectId channelCount

theorem Stamped.written {channelCount : Nat} (h : Stamped channelCount s)
    (hepoch : object.stats.epochId = request.epochId)
    (hobject : object.stats.objectId = request.objectId)
    (hchannel : object.stats.memoryChannelId =
      memoryChannelForObject request.objectId channelCount) :
    Stamped channelCount (s.written request memoryChannelId object channel) := by
  intro epochId objectId bucket hlookup
  rw [objects_written] at hlookup
  by_cases hkey : epochId = request.epochId
  · subst hkey
    rw [if_pos rfl] at hlookup
    by_cases hid : objectId = request.objectId
    · subst hid
      rw [AList.lookup_insert] at hlookup
      rw [← Option.some.inj hlookup]
      exact ⟨hepoch, hobject, hchannel⟩
    · rw [AList.lookup_insert_ne hid] at hlookup
      exact h _ _ _ hlookup
  · rw [if_neg hkey] at hlookup
    exact h _ _ _ hlookup

/-- Keeping the larger value is taking the maximum. -/
theorem ite_gt_eq_max (value peak : Nat) :
    (if value > peak then value else peak) = max peak value := by
  split <;> omega

theorem max_zero_right (value : Nat) : value = max value 0 := (Nat.max_zero value).symm

section Recording

variable {channelCount : Nat}

theorem ChannelsBalanced.recordRemoteAccess (h : ChannelsBalanced channelCount s)
    (hchannel : memoryChannelId = memoryChannelForObject request.objectId channelCount)
    (depth : Nat) :
    ChannelsBalanced channelCount (s.recordRemoteAccess request memoryChannelId depth) := by
  refine ⟨h.remoteAccesses.written (x := 1) rfl hchannel rfl rfl,
    h.bytesServed.written (x := 0) rfl hchannel rfl rfl,
    h.totalRemoteServiceTime.written (x := 0) rfl hchannel rfl rfl,
    h.totalQueueWait.written (x := 0) rfl hchannel rfl rfl,
    h.queueWaitSamples.written (x := 0) rfl hchannel rfl rfl,
    h.maxQueueWait.written (x := 0) rfl hchannel (max_zero_right _) (max_zero_right _),
    h.maxQueueDepth.written (x := depth) rfl hchannel (ite_gt_eq_max _ _) (ite_gt_eq_max _ _)⟩

theorem ChannelsBalanced.recordObjectQueueWait (h : ChannelsBalanced channelCount s)
    (hchannel : memoryChannelId = memoryChannelForObject request.objectId channelCount)
    (waitTime : SimTime) :
    ChannelsBalanced channelCount
      (s.recordObjectQueueWait .exact request memoryChannelId waitTime) := by
  refine ⟨h.remoteAccesses.written (x := 0) rfl hchannel rfl rfl,
    h.bytesServed.written (x := 0) rfl hchannel rfl rfl,
    h.totalRemoteServiceTime.written (x := 0) rfl hchannel rfl rfl,
    h.totalQueueWait.written (x := waitTime) rfl hchannel rfl rfl,
    h.queueWaitSamples.written (x := 1) rfl hchannel rfl rfl,
    h.maxQueueWait.written (x := waitTime) rfl hchannel (ite_gt_eq_max _ _) (ite_gt_eq_max _ _),
    h.maxQueueDepth.written (x := 0) rfl hchannel (max_zero_right _) (max_zero_right _)⟩

theorem ChannelsBalanced.recordObjectService (h : ChannelsBalanced channelCount s)
    (hchannel : memoryChannelId = memoryChannelForObject request.objectId channelCount)
    (serviceTime : SimTime) :
    ChannelsBalanced channelCount
      (s.recordObjectService .exact request memoryChannelId serviceTime) := by
  refine ⟨h.remoteAccesses.written (x := 0) rfl hchannel rfl rfl,
    h.bytesServed.written (x := request.sizeBytes) rfl hchannel rfl rfl,
    h.totalRemoteServiceTime.written (x := serviceTime) rfl hchannel rfl rfl,
    h.totalQueueWait.written (x := 0) rfl hchannel rfl rfl,
    h.queueWaitSamples.written (x := 0) rfl hchannel rfl rfl,
    h.maxQueueWait.written (x := 0) rfl hchannel (max_zero_right _) (max_zero_right _),
    h.maxQueueDepth.written (x := 0) rfl hchannel (max_zero_right _) (max_zero_right _)⟩

end Recording

/-- The figures of the memory, summed over all objects of all epochs. -/
structure Totals where
  remoteAccesses : Nat
  queueWaitSamples : Nat
  totalQueueWait : Nat
  bytesServed : Nat
  totalRemoteServiceTime : Nat
deriving DecidableEq

def totals (s : Stats) : Totals :=
  { remoteAccesses := s.overAll (fun bucket => bucket.stats.remoteAccesses)
    queueWaitSamples := s.overAll (fun bucket => bucket.stats.queueWaitSamples)
    totalQueueWait := s.overAll (fun bucket => bucket.stats.totalQueueWait)
    bytesServed := s.overAll (fun bucket => bucket.stats.bytesServed)
    totalRemoteServiceTime := s.overAll (fun bucket => bucket.stats.totalRemoteServiceTime) }

theorem totals_recordRemoteAccess (s : Stats) (request : Request)
    (memoryChannelId : MemoryChannelId) (depth : Nat) :
    (s.recordRemoteAccess request memoryChannelId depth).totals =
      { s.totals with remoteAccesses := s.totals.remoteAccesses + 1 } := by
  unfold totals
  rw [Totals.mk.injEq]
  exact ⟨overAll_written rfl rfl, overAll_written (x := 0) rfl rfl,
    overAll_written (x := 0) rfl rfl, overAll_written (x := 0) rfl rfl,
    overAll_written (x := 0) rfl rfl⟩

theorem totals_recordObjectQueueWait (s : Stats) (request : Request)
    (memoryChannelId : MemoryChannelId) (waitTime : SimTime) :
    (s.recordObjectQueueWait .exact request memoryChannelId waitTime).totals =
      { s.totals with
        queueWaitSamples := s.totals.queueWaitSamples + 1
        totalQueueWait := s.totals.totalQueueWait + waitTime } := by
  unfold totals
  rw [Totals.mk.injEq]
  exact ⟨overAll_written (x := 0) rfl rfl, overAll_written rfl rfl, overAll_written rfl rfl,
    overAll_written (x := 0) rfl rfl, overAll_written (x := 0) rfl rfl⟩

theorem totals_recordObjectService (s : Stats) (request : Request)
    (memoryChannelId : MemoryChannelId) (serviceTime : SimTime) :
    (s.recordObjectService .exact request memoryChannelId serviceTime).totals =
      { s.totals with
        bytesServed := s.totals.bytesServed + request.sizeBytes
        totalRemoteServiceTime := s.totals.totalRemoteServiceTime + serviceTime } := by
  unfold totals
  rw [Totals.mk.injEq]
  exact ⟨overAll_written (x := 0) rfl rfl, overAll_written (x := 0) rfl rfl,
    overAll_written (x := 0) rfl rfl, overAll_written rfl rfl, overAll_written rfl rfl⟩

-- ============================================================================
-- Figures of the nodes
-- ============================================================================

/-- One node's figure grows by `x`. -/
def Credits (before after : NodeId → Nat) (nodeId : NodeId) (x : Nat) : Prop :=
  ∀ other, after other = before other + if other = nodeId then x else 0

/-- The sum over distinct nodes grows with the figure of one of them. -/
theorem sum_credits {before after : NodeId → Nat} {nodeId : NodeId} {x : Nat}
    (h : Credits before after nodeId x) {nodeIds : List NodeId} (hnodup : nodeIds.Nodup)
    (hmem : nodeId ∈ nodeIds) : (nodeIds.map after).sum = (nodeIds.map before).sum + x := by
  rw [← List.sum_toFinset after hnodup, ← List.sum_toFinset before hnodup,
    Finset.sum_congr rfl fun other _ => h other, Finset.sum_add_distrib, Finset.sum_ite_eq',
    if_pos (List.mem_toFinset.mpr hmem)]

theorem credits_hits (s : Stats) (nodeId : NodeId) :
    Credits s.nodeLocalCacheHits (s.recordCacheHit nodeId).nodeLocalCacheHits nodeId 1 := by
  intro other
  unfold nodeLocalCacheHits recordCacheHit
  by_cases h : other = nodeId
  · subst h
    rw [if_pos rfl, AList.lookup_insert]
    unfold UnorderedMap.getD
    cases s.perNodeCacheStats.lookup other <;> rfl
  · rw [if_neg h, AList.lookup_insert_ne h]
    rfl

theorem hits_recordCacheMiss (s : Stats) (nodeId : NodeId) :
    (s.recordCacheMiss nodeId).nodeLocalCacheHits = s.nodeLocalCacheHits := by
  funext other
  unfold nodeLocalCacheHits recordCacheMiss
  by_cases h : other = nodeId
  · subst h
    rw [AList.lookup_insert]
    unfold UnorderedMap.getD
    cases s.perNodeCacheStats.lookup other <;> rfl
  · rw [AList.lookup_insert_ne h]

theorem credits_misses (s : Stats) (nodeId : NodeId) :
    Credits s.nodeLocalCacheMisses (s.recordCacheMiss nodeId).nodeLocalCacheMisses nodeId 1 := by
  intro other
  unfold nodeLocalCacheMisses recordCacheMiss
  by_cases h : other = nodeId
  · subst h
    rw [if_pos rfl, AList.lookup_insert]
    unfold UnorderedMap.getD
    cases s.perNodeCacheStats.lookup other <;> rfl
  · rw [if_neg h, AList.lookup_insert_ne h]
    rfl

theorem misses_recordCacheHit (s : Stats) (nodeId : NodeId) :
    (s.recordCacheHit nodeId).nodeLocalCacheMisses = s.nodeLocalCacheMisses := by
  funext other
  unfold nodeLocalCacheMisses recordCacheHit
  by_cases h : other = nodeId
  · subst h
    rw [AList.lookup_insert]
    unfold UnorderedMap.getD
    cases s.perNodeCacheStats.lookup other <;> rfl
  · rw [AList.lookup_insert_ne h]

theorem credits_completed (s : Stats) (nodeId : NodeId) (latency : SimTime) :
    Credits s.nodeCompletedRequests (s.recordLatency .exact nodeId latency).nodeCompletedRequests
      nodeId 1 := by
  intro other
  unfold nodeCompletedRequests recordLatency
  by_cases h : other = nodeId
  · subst h
    rw [if_pos rfl, AList.lookup_insert]
    unfold UnorderedMap.getD
    cases s.perNodeStats.lookup other with
    | none => rfl
    | some nodeStats => exact List.length_append
  · rw [if_neg h, AList.lookup_insert_ne h]
    rfl

theorem credits_latency (s : Stats) (nodeId : NodeId) (latency : SimTime) :
    Credits s.nodeTotalLatency (s.recordLatency .exact nodeId latency).nodeTotalLatency nodeId
      latency := by
  intro other
  unfold nodeTotalLatency recordLatency
  by_cases h : other = nodeId
  · subst h
    rw [if_pos rfl, AList.lookup_insert]
    unfold UnorderedMap.getD
    cases s.perNodeStats.lookup other <;> rfl
  · rw [if_neg h, AList.lookup_insert_ne h]
    rfl

/-- The figures of the nodes sum to the global ones. -/
structure NodesBalanced (nodeIds : List NodeId) (s : Stats) : Prop where
  hits : (nodeIds.map s.nodeLocalCacheHits).sum = s.localCacheHits
  misses : (nodeIds.map s.nodeLocalCacheMisses).sum = s.localCacheMisses
  completed : (nodeIds.map s.nodeCompletedRequests).sum = s.completedRequests
  latency : (nodeIds.map s.nodeTotalLatency).sum = s.totalLatency

-- ============================================================================
-- Recordings
-- ============================================================================

/-- What a handler writes down. -/
inductive Recording
  | hit (nodeId : NodeId)
  | miss (nodeId : NodeId)
  | latency (nodeId : NodeId) (latency : SimTime)
  | arrival (request : Request) (memoryChannelId : MemoryChannelId) (depth : Nat)
  | wait (request : Request) (memoryChannelId : MemoryChannelId) (waitTime : SimTime)
  | service (request : Request) (memoryChannelId : MemoryChannelId) (serviceTime : SimTime)

def record (A : Arith) (s : Stats) : Recording → Stats
  | .hit nodeId => s.recordCacheHit nodeId
  | .miss nodeId => s.recordCacheMiss nodeId
  | .latency nodeId latency => s.recordLatency A nodeId latency
  | .arrival request memoryChannelId depth =>
      (s.observeMemoryQueueDepth depth).recordRemoteAccess request memoryChannelId depth
  | .wait request memoryChannelId waitTime =>
      (s.recordMemoryWait A waitTime).recordObjectQueueWait A request memoryChannelId waitTime
  | .service request memoryChannelId serviceTime =>
      s.recordObjectService A request memoryChannelId serviceTime

/-- The recording names one of the nodes, or the channel of its object. -/
def Recording.Valid (nodeIds : List NodeId) (channelCount : Nat) : Recording → Prop
  | .hit nodeId | .miss nodeId | .latency nodeId _ => nodeId ∈ nodeIds
  | .arrival request memoryChannelId _ | .wait request memoryChannelId _
  | .service request memoryChannelId _ =>
      memoryChannelId = memoryChannelForObject request.objectId channelCount

/-- Every recording stamps what it writes. -/
theorem Stamped.record {channelCount : Nat} (h : Stamped channelCount s) {A : Arith}
    {nodeIds : List NodeId} {recording : Recording}
    (hvalid : recording.Valid nodeIds channelCount) :
    Stamped channelCount (s.record A recording) := by
  cases recording with
  | hit | miss | latency => exact h
  | arrival request memoryChannelId depth =>
      have hobserved : Stamped channelCount (s.observeMemoryQueueDepth depth) := h
      exact hobserved.written rfl rfl hvalid
  | wait request memoryChannelId waitTime =>
      have hwaited : Stamped channelCount (s.recordMemoryWait A waitTime) := h
      exact hwaited.written rfl rfl hvalid
  | service request memoryChannelId serviceTime => exact h.written rfl rfl hvalid

/-- The copies of a figure that are kept in different buckets agree. -/
structure Consistent (nodeIds : List NodeId) (channelCount : Nat) (s : Stats) : Prop where
  channels : ChannelsBalanced channelCount s
  stamped : Stamped channelCount s
  nodes : NodesBalanced nodeIds s
  queueWait : s.totals.totalQueueWait = s.totalMemoryWait

theorem Consistent.init (nodeIds : List NodeId) (channelCount : Nat) :
    Consistent nodeIds channelCount {} := by
  have hzero : ∀ f : NodeId → Nat, (∀ nodeId, f nodeId = 0) → (nodeIds.map f).sum = 0 := by
    intro f hf
    refine List.sum_eq_zero fun x hx => ?_
    obtain ⟨nodeId, -, rfl⟩ := List.mem_map.mp hx
    exact hf nodeId
  refine ⟨⟨fun _ _ => rfl, fun _ _ => rfl, fun _ _ => rfl, fun _ _ => rfl, fun _ _ => rfl,
    fun _ _ => rfl, fun _ _ => rfl⟩, fun _ _ _ hlookup => ?_,
    ⟨hzero _ fun _ => rfl, hzero _ fun _ => rfl, hzero _ fun _ => rfl, hzero _ fun _ => rfl⟩, rfl⟩
  cases hlookup

/-- Every recording keeps the copies in step. -/
theorem Consistent.record {nodeIds : List NodeId} {channelCount : Nat}
    (h : Consistent nodeIds channelCount s) (hnodup : nodeIds.Nodup) {recording : Recording}
    (hvalid : recording.Valid nodeIds channelCount) :
    Consistent nodeIds channelCount (s.record .exact recording) := by
  obtain ⟨hchannels, hstamped, hnodes, hwait⟩ := h
  have hstamped' := hstamped.record (A := .exact) hvalid
  cases recording with
  | hit nodeId =>
      refine ⟨hchannels.congr rfl rfl, hstamped', ⟨?_, ?_, hnodes.completed, hnodes.latency⟩, hwait⟩
      · rw [show s.record .exact (.hit nodeId) = s.recordCacheHit nodeId from rfl,
          sum_credits (credits_hits s nodeId) hnodup hvalid, hnodes.hits]
        rfl
      · rw [show s.record .exact (.hit nodeId) = s.recordCacheHit nodeId from rfl,
          misses_recordCacheHit, hnodes.misses]
        rfl
  | miss nodeId =>
      refine ⟨hchannels.congr rfl rfl, hstamped', ⟨?_, ?_, hnodes.completed, hnodes.latency⟩, hwait⟩
      · rw [show s.record .exact (.miss nodeId) = s.recordCacheMiss nodeId from rfl,
          hits_recordCacheMiss, hnodes.hits]
        rfl
      · rw [show s.record .exact (.miss nodeId) = s.recordCacheMiss nodeId from rfl,
          sum_credits (credits_misses s nodeId) hnodup hvalid, hnodes.misses]
        rfl
  | latency nodeId latency =>
      refine ⟨hchannels.congr rfl rfl, hstamped', ⟨hnodes.hits, hnodes.misses, ?_, ?_⟩, hwait⟩
      · rw [show s.record .exact (.latency nodeId latency) = s.recordLatency .exact nodeId latency from rfl,
          sum_credits (credits_completed s nodeId latency) hnodup hvalid, hnodes.completed]
        have hlength : (s.latencies ++ [latency]).length = s.latencies.length + 1 :=
          List.length_append
        exact hlength.symm
      · rw [show s.record .exact (.latency nodeId latency) = s.recordLatency .exact nodeId latency from rfl,
          sum_credits (credits_latency s nodeId latency) hnodup hvalid, hnodes.latency]
        rfl
  | arrival request memoryChannelId depth =>
      have hobserved : ChannelsBalanced channelCount (s.observeMemoryQueueDepth depth) :=
        hchannels.congr rfl rfl
      refine ⟨hobserved.recordRemoteAccess hvalid depth, hstamped',
        ⟨hnodes.hits, hnodes.misses, hnodes.completed, hnodes.latency⟩, ?_⟩
      exact (congrArg Totals.totalQueueWait (totals_recordRemoteAccess _ _ _ _)).trans hwait
  | wait request memoryChannelId waitTime =>
      have hwaited : ChannelsBalanced channelCount (s.recordMemoryWait .exact waitTime) :=
        hchannels.congr rfl rfl
      refine ⟨hwaited.recordObjectQueueWait hvalid waitTime, hstamped',
        ⟨hnodes.hits, hnodes.misses, hnodes.completed, hnodes.latency⟩, ?_⟩
      exact (congrArg Totals.totalQueueWait (totals_recordObjectQueueWait _ _ _ _)).trans
        (congrArg (· + waitTime) hwait)
  | service request memoryChannelId serviceTime =>
      refine ⟨hchannels.recordObjectService hvalid serviceTime, hstamped',
        ⟨hnodes.hits, hnodes.misses, hnodes.completed, hnodes.latency⟩, ?_⟩
      exact (congrArg Totals.totalQueueWait (totals_recordObjectService _ _ _ _)).trans hwait

/-- An arrival adds its source to the requesters of its object; nothing else does. -/
theorem requesters_record (s : Stats) (recording : Recording) (epochId : EpochId)
    (objectId : ObjectId) :
    ((s.record .exact recording).objectBucket epochId objectId).requesters =
      match recording with
      | .arrival request _ _ =>
          if epochId = request.epochId ∧ objectId = request.objectId then
            insert request.sourceNodeId (s.objectBucket epochId objectId).requesters
          else (s.objectBucket epochId objectId).requesters
      | _ => (s.objectBucket epochId objectId).requesters := by
  -- a bucket that is written without a new requester
  have hsame : ∀ {s' : Stats} {request : Request} {memoryChannelId : MemoryChannelId}
      {object : InternalObjectContentionStats} {channel : InternalChannelContentionStats},
      s'.contentionByEpoch_ = s.contentionByEpoch_ →
      object.requesters = (s.objectBucket request.epochId request.objectId).requesters →
      ((s'.written request memoryChannelId object channel).objectBucket epochId
        objectId).requesters = (s.objectBucket epochId objectId).requesters := by
    intro s' request memoryChannelId object channel hobjects hrequesters
    rw [objectBucket_written]
    split
    · rename_i hkey
      rw [hrequesters, hkey.1, hkey.2]
    · unfold objectBucket
      rw [hobjects]
  cases recording with
  | hit | miss | latency => rfl
  | wait | service => exact hsame rfl rfl
  | arrival request memoryChannelId depth =>
      show (Stats.objectBucket (Stats.written _ request memoryChannelId _ _) epochId
        objectId).requesters = _
      rw [objectBucket_written]
      by_cases hkey : epochId = request.epochId ∧ objectId = request.objectId
      · simp only [hkey.1, hkey.2]
        rfl
      · simp only [if_neg hkey]
        rfl

-- ============================================================================
-- Public rows
-- ============================================================================

/-- The public row of a channel; all zero if there is none. -/
def channelRow (s : Stats) (epochId : EpochId) (channelId : MemoryChannelId) :
    ChannelContentionStats :=
  (s.channelContention epochId channelId).getD {}

/-- The object rows of an epoch whose objects map to a channel. -/
def rowsOnChannel (s : Stats) (channelCount : Nat) (epochId : EpochId)
    (channelId : MemoryChannelId) : List ObjectContentionStats :=
  (s.contentionByEpoch epochId).filter fun row =>
    memoryChannelForObject row.objectId channelCount = channelId

/-- The row of a channel is that of its objects together. -/
structure ChannelConserved (s : Stats) (channelCount : Nat) (epochId : EpochId)
    (channelId : MemoryChannelId) : Prop where
  remoteAccesses : (s.channelRow epochId channelId).remoteAccesses =
    ((s.rowsOnChannel channelCount epochId channelId).map
      ObjectContentionStats.remoteAccesses).sum
  bytesServed : (s.channelRow epochId channelId).bytesServed =
    ((s.rowsOnChannel channelCount epochId channelId).map ObjectContentionStats.bytesServed).sum
  totalRemoteServiceTime : (s.channelRow epochId channelId).totalRemoteServiceTime =
    ((s.rowsOnChannel channelCount epochId channelId).map
      ObjectContentionStats.totalRemoteServiceTime).sum
  totalQueueWait : (s.channelRow epochId channelId).totalQueueWait =
    ((s.rowsOnChannel channelCount epochId channelId).map
      ObjectContentionStats.totalQueueWait).sum
  queueWaitSamples : (s.channelRow epochId channelId).queueWaitSamples =
    ((s.rowsOnChannel channelCount epochId channelId).map
      ObjectContentionStats.queueWaitSamples).sum
  maxQueueWait : (s.channelRow epochId channelId).maxQueueWait =
    ((s.rowsOnChannel channelCount epochId channelId).map
      ObjectContentionStats.maxQueueWait).foldr max 0
  maxQueueDepth : (s.channelRow epochId channelId).maxQueueDepth =
    ((s.rowsOnChannel channelCount epochId channelId).map
      ObjectContentionStats.maxObservedQueueDepth).foldr max 0

theorem contentionByEpoch_perm (s : Stats) (epochId : EpochId) :
    (s.contentionByEpoch epochId).Perm
      ((s.contentionByEpoch_.getD epochId ∅).values.map snapshotContention) := by
  unfold contentionByEpoch UnorderedMap.getD
  cases s.contentionByEpoch_.lookup epochId with
  | none => exact List.Perm.refl _
  | some objects => exact List.perm_insertionSort _ _

/-- A row of an epoch is the snapshot of the bucket of its object. -/
theorem Stamped.row {channelCount : Nat} (h : Stamped channelCount s) {epochId : EpochId}
    {row : ObjectContentionStats} (hrow : row ∈ s.contentionByEpoch epochId) :
    row = snapshotContention (s.objectBucket epochId row.objectId) := by
  rw [(s.contentionByEpoch_perm epochId).mem_iff] at hrow
  obtain ⟨bucket, hbucket, rfl⟩ := List.mem_map.mp hrow
  obtain ⟨⟨objectId, bucket⟩, hentry, rfl⟩ := List.mem_map.mp hbucket
  have hlookup := AList.mem_lookup_iff.mpr hentry
  have hobject : (snapshotContention bucket).objectId = objectId := (h _ _ _ hlookup).2.1
  rw [hobject]
  exact congrArg snapshotContention (UnorderedMap.getD_of_lookup hlookup {}).symm

theorem channelRow_eq (s : Stats) (epochId : EpochId) (channelId : MemoryChannelId) :
    s.channelRow epochId channelId =
      snapshotChannelContention (s.channelBucketOf epochId channelId) := by
  unfold channelRow channelContention channelBucketOf UnorderedMap.getD
  cases s.channelContentionByEpoch_.lookup epochId with
  | none => rfl
  | some channels =>
      simp only [Option.getD_some]
      cases channels.lookup channelId <;> rfl

section Rows

variable {op : Nat → Nat → Nat} [Std.Commutative op] [Std.Associative op]
  [Std.LawfulIdentity op 0] {fo : InternalObjectContentionStats → Nat}
  {f : ObjectContentionStats → Nat}

/-- A figure over the objects of a channel, read off the public rows. -/
theorem Stamped.overChannel_eq {channelCount : Nat} (h : Stamped channelCount s)
    (hf : ∀ bucket, f (snapshotContention bucket) = fo bucket) (epochId : EpochId)
    (channelId : MemoryChannelId) :
    s.overChannel op fo channelCount epochId channelId =
      ((s.rowsOnChannel channelCount epochId channelId).map f).foldr op 0 := by
  have hperm := ((s.contentionByEpoch_perm epochId).filter fun row =>
    memoryChannelForObject row.objectId channelCount = channelId).map f
  unfold rowsOnChannel
  rw [UnorderedMap.foldr_perm op hperm, UnorderedMap.foldr_map_filter op]
  unfold overChannel UnorderedMap.tally UnorderedMap.values
  rw [List.map_map, List.map_map]
  congr 1
  apply List.map_congr_left
  rintro ⟨objectId, bucket⟩ hentry
  have hobject : (snapshotContention bucket).objectId = objectId :=
    (h _ _ _ (AList.mem_lookup_iff.mpr hentry)).2.1
  simp only [Function.comp_apply, hobject, decide_eq_true_eq, hf]

/-- The sum over all objects of all epochs, read off the public rows. -/
theorem overAll_eq (hf : ∀ bucket, f (snapshotContention bucket) = fo bucket) :
    s.overAll fo = (s.allContentionStats.map f).sum := by
  unfold allContentionStats
  rw [((List.perm_insertionSort _ _).map f).sum_eq, List.map_flatMap, List.flatMap, List.sum_flatten]
  unfold overAll UnorderedMap.tally UnorderedMap.values
  rw [List.map_map, List.map_map]
  refine congrArg List.sum (List.map_congr_left fun entry _ => ?_)
  simp only [Function.comp_apply, List.map_map]
  refine congrArg List.sum (List.map_congr_left fun bucket _ => ?_)
  exact (hf bucket.2).symm

end Rows

/-- Balanced buckets make conserved rows. -/
theorem Consistent.channelConserved {nodeIds : List NodeId} {channelCount : Nat}
    (h : Consistent nodeIds channelCount s) (epochId : EpochId) (channelId : MemoryChannelId) :
    s.ChannelConserved channelCount epochId channelId := by
  obtain ⟨hchannels, hstamped, -, -⟩ := h
  have hsum : ∀ f : ObjectContentionStats → Nat,
      s.overChannel (· + ·) (fun bucket => f (snapshotContention bucket)) channelCount epochId
        channelId = ((s.rowsOnChannel channelCount epochId channelId).map f).sum :=
    fun f => hstamped.overChannel_eq (fun _ => rfl) _ _
  have hmax : ∀ f : ObjectContentionStats → Nat,
      s.overChannel max (fun bucket => f (snapshotContention bucket)) channelCount epochId
        channelId = ((s.rowsOnChannel channelCount epochId channelId).map f).foldr max 0 :=
    fun f => hstamped.overChannel_eq (fun _ => rfl) _ _
  constructor <;> rw [channelRow_eq]
  · exact (hchannels.remoteAccesses _ _).trans (hsum ObjectContentionStats.remoteAccesses)
  · exact (hchannels.bytesServed _ _).trans (hsum ObjectContentionStats.bytesServed)
  · exact (hchannels.totalRemoteServiceTime _ _).trans
      (hsum ObjectContentionStats.totalRemoteServiceTime)
  · exact (hchannels.totalQueueWait _ _).trans (hsum ObjectContentionStats.totalQueueWait)
  · exact (hchannels.queueWaitSamples _ _).trans (hsum ObjectContentionStats.queueWaitSamples)
  · exact (hchannels.maxQueueWait _ _).trans (hmax ObjectContentionStats.maxQueueWait)
  · exact (hchannels.maxQueueDepth _ _).trans (hmax ObjectContentionStats.maxObservedQueueDepth)

end Stats

end DmSimulator
