/-
  DmSimulator.Metrics.Reports

  The reporting methods of the statistics (`metrics/stats.cpp`): averages and
  rates as exact rationals, the contention rows of an object, and the ranked rows
  of objects and channels.
-/
import DmSimulator.Lib.Ranking
import DmSimulator.Metrics.Histogram

namespace DmSimulator

open Ranking

inductive ContentionSortKey
  | totalQueueWait
  | totalRemoteServiceTime
  | distinctRequesters
deriving DecidableEq, Repr

namespace Stats

def averageLatency (s : Stats) : Rat :=
  if s.latencies.isEmpty then 0 else (s.totalLatency : Rat) / (s.latencies.length : Rat)

def nodeAverageLatency (s : Stats) (nodeId : NodeId) : Rat :=
  match s.perNodeStats.lookup nodeId with
  | none => 0
  | some nodeStats =>
      if nodeStats.latencies.isEmpty then 0
      else (nodeStats.totalLatency : Rat) / (nodeStats.latencies.length : Rat)

def averageMemoryWait (s : Stats) : Rat :=
  if s.memoryWaitSamples = 0 then 0
  else (s.totalMemoryWait : Rat) / (s.memoryWaitSamples : Rat)

def localCacheHitRate (s : Stats) : Rat :=
  let total := s.localCacheHits + s.localCacheMisses
  if total = 0 then 0 else (s.localCacheHits : Rat) / (total : Rat)

def nodeLocalCacheHitRate (s : Stats) (nodeId : NodeId) : Rat :=
  match s.perNodeCacheStats.lookup nodeId with
  | none => 0
  | some nodeStats =>
      let total := nodeStats.hits + nodeStats.misses
      if total = 0 then 0 else (nodeStats.hits : Rat) / (total : Rat)

def objectContention? (s : Stats) (epochId : EpochId) (objectId : ObjectId) :
    Option ObjectContentionStats :=
  match s.contentionByEpoch_.lookup epochId with
  | none => none
  | some objects =>
      match objects.lookup objectId with
      | none => none
      | some internal => some (snapshotContention internal)

def previousEpochObjectContention (s : Stats) (currentEpoch : EpochId) (objectId : ObjectId) :
    Option ObjectContentionStats :=
  if currentEpoch = 0 then none else s.objectContention? (currentEpoch - 1) objectId

/-- The rows of all epochs, by epoch and then by object id. -/
def contentionLess (lhs rhs : ObjectContentionStats) : Bool :=
  if lhs.epochId ≠ rhs.epochId then lhs.epochId < rhs.epochId
  else lhs.objectId < rhs.objectId

/-- The comparator of `top_contention_objects`; `contentionLess` breaks its ties. -/
def topContentionLess (sortKey : ContentionSortKey) (lhs rhs : ObjectContentionStats) : Bool :=
  match sortKey with
  | .totalQueueWait =>
      if lhs.totalQueueWait ≠ rhs.totalQueueWait then lhs.totalQueueWait > rhs.totalQueueWait
      else contentionLess lhs rhs
  | .totalRemoteServiceTime =>
      if lhs.totalRemoteServiceTime ≠ rhs.totalRemoteServiceTime then
        lhs.totalRemoteServiceTime > rhs.totalRemoteServiceTime
      else contentionLess lhs rhs
  | .distinctRequesters =>
      if lhs.distinctRequesters ≠ rhs.distinctRequesters then
        lhs.distinctRequesters > rhs.distinctRequesters
      else contentionLess lhs rhs

def topContentionObjects (s : Stats) (sortKey : ContentionSortKey) (limit : Nat) :
    List ObjectContentionStats :=
  (sortBy (topContentionLess sortKey) s.allContentionStats).take limit

/-- The channel rows of all epochs, by epoch and then by channel id. -/
def channelContentionLess (lhs rhs : ChannelContentionStats) : Bool :=
  if lhs.epochId ≠ rhs.epochId then lhs.epochId < rhs.epochId
  else lhs.memoryChannelId < rhs.memoryChannelId

/-- The rows of `all_channel_contention_stats` before they are sorted. -/
def channelRows (s : Stats) : List ChannelContentionStats :=
  s.channelContentionByEpoch_.values.flatMap
    (fun channels => channels.values.map snapshotChannelContention)

def allChannelContentionStats (s : Stats) : List ChannelContentionStats :=
  sortBy channelContentionLess s.channelRows

/-- The rows of `all_contention_stats` before they are sorted. -/
def contentionRows (s : Stats) : List ObjectContentionStats :=
  s.contentionByEpoch_.values.flatMap (fun objects => objects.values.map snapshotContention)

-- ============================================================================
-- The comparators rank the rows
-- ============================================================================

theorem ranksBy_contentionLess :
    RanksBy (fun row : ObjectContentionStats => toLex (row.epochId, row.objectId))
      contentionLess :=
  (ranksBy_key ObjectContentionStats.objectId).lex ObjectContentionStats.epochId

theorem ranksBy_channelContentionLess :
    RanksBy (fun row : ChannelContentionStats => toLex (row.epochId, row.memoryChannelId))
      channelContentionLess :=
  (ranksBy_key ChannelContentionStats.memoryChannelId).lex ChannelContentionStats.epochId

/-- The figure a sort key ranks by. -/
def sortFigure (sortKey : ContentionSortKey) (row : ObjectContentionStats) : Nat :=
  match sortKey with
  | .totalQueueWait => row.totalQueueWait
  | .totalRemoteServiceTime => row.totalRemoteServiceTime
  | .distinctRequesters => row.distinctRequesters

theorem ranksBy_topContentionLess (sortKey : ContentionSortKey) :
    RanksBy
      (fun row : ObjectContentionStats =>
        toLex (OrderDual.toDual (sortFigure sortKey row), toLex (row.epochId, row.objectId)))
      (topContentionLess sortKey) := by
  cases sortKey with
  | totalQueueWait =>
      exact ranksBy_contentionLess.lexDesc ObjectContentionStats.totalQueueWait
  | totalRemoteServiceTime =>
      exact ranksBy_contentionLess.lexDesc ObjectContentionStats.totalRemoteServiceTime
  | distinctRequesters =>
      exact ranksBy_contentionLess.lexDesc ObjectContentionStats.distinctRequesters

/-- `all_contention_stats` is a sort of its rows. -/
theorem isSortOf_allContentionStats (s : Stats) :
    IsSortOf contentionLess s.contentionRows s.allContentionStats := by
  have hsame : s.allContentionStats = sortBy contentionLess s.contentionRows := by
    unfold allContentionStats sortBy contentionRows
    congr 1
    funext lhs rhs
    rw [ranksBy_contentionLess.eq_false_iff, Prod.Lex.toLex_le_toLex]
    by_cases heq : lhs.epochId = rhs.epochId <;> simp [heq]
  rw [hsame]
  exact ranksBy_contentionLess.isSortOf_sortBy _

theorem isSortOf_allChannelContentionStats (s : Stats) :
    IsSortOf channelContentionLess s.channelRows s.allChannelContentionStats :=
  ranksBy_channelContentionLess.isSortOf_sortBy _

end Stats

end DmSimulator
