/-
  DmSimulator.Metrics.Rows

  The public rows of the statistics and the buckets they come from.

  The identifiers in a row are the keys its bucket is stored under, so that two
  rows with the same identifiers are one row, and the comparators that end with
  the identifiers leave no two rows tied.
-/
import DmSimulator.Metrics.Conservation
import DmSimulator.Metrics.Reports

namespace DmSimulator

namespace Stats

open Ranking

variable {s : Stats} {request : Request} {memoryChannelId : MemoryChannelId}
  {object : InternalObjectContentionStats} {channel : InternalChannelContentionStats}
  {channelCount : Nat}

-- ============================================================================
-- Rows and buckets
-- ============================================================================

theorem mem_contentionRows {row : ObjectContentionStats} :
    row ∈ s.contentionRows ↔ ∃ epochId objectId bucket,
      (s.contentionByEpoch_.getD epochId ∅).lookup objectId = some bucket ∧
        row = snapshotContention bucket := by
  unfold contentionRows
  simp only [List.mem_flatMap, List.mem_map, UnorderedMap.mem_values]
  constructor
  · rintro ⟨objects, ⟨epochId, hepoch⟩, bucket, ⟨objectId, hobject⟩, rfl⟩
    refine ⟨epochId, objectId, bucket, ?_, rfl⟩
    rw [UnorderedMap.getD_of_lookup hepoch]
    exact hobject
  · rintro ⟨epochId, objectId, bucket, hlookup, rfl⟩
    unfold UnorderedMap.getD at hlookup
    cases hepoch : s.contentionByEpoch_.lookup epochId with
    | none =>
        rw [hepoch] at hlookup
        cases hlookup
    | some objects =>
        rw [hepoch] at hlookup
        exact ⟨objects, ⟨epochId, hepoch⟩, bucket, ⟨objectId, hlookup⟩, rfl⟩

theorem mem_channelRows {row : ChannelContentionStats} :
    row ∈ s.channelRows ↔ ∃ epochId channelId bucket,
      (s.channelContentionByEpoch_.getD epochId ∅).lookup channelId = some bucket ∧
        row = snapshotChannelContention bucket := by
  unfold channelRows
  simp only [List.mem_flatMap, List.mem_map, UnorderedMap.mem_values]
  constructor
  · rintro ⟨channels, ⟨epochId, hepoch⟩, bucket, ⟨channelId, hchannel⟩, rfl⟩
    refine ⟨epochId, channelId, bucket, ?_, rfl⟩
    rw [UnorderedMap.getD_of_lookup hepoch]
    exact hchannel
  · rintro ⟨epochId, channelId, bucket, hlookup, rfl⟩
    unfold UnorderedMap.getD at hlookup
    cases hepoch : s.channelContentionByEpoch_.lookup epochId with
    | none =>
        rw [hepoch] at hlookup
        cases hlookup
    | some channels =>
        rw [hepoch] at hlookup
        exact ⟨channels, ⟨epochId, hepoch⟩, bucket, ⟨channelId, hlookup⟩, rfl⟩

/-- The identifiers of a channel bucket are the keys it is stored under, and the channel
    is one of the channels. -/
def ChannelsStamped (channelCount : Nat) (s : Stats) : Prop :=
  ∀ epochId channelId bucket,
    (s.channelContentionByEpoch_.getD epochId ∅).lookup channelId = some bucket →
      bucket.stats.epochId = epochId ∧ bucket.stats.memoryChannelId = channelId ∧
        channelId < channelCount

theorem ChannelsStamped.init (channelCount : Nat) : ChannelsStamped channelCount {} := by
  intro epochId channelId bucket hlookup
  cases hlookup

theorem ChannelsStamped.written (h : ChannelsStamped channelCount s)
    (hepoch : channel.stats.epochId = request.epochId)
    (hchannel : channel.stats.memoryChannelId = memoryChannelId)
    (hlt : memoryChannelId < channelCount) :
    ChannelsStamped channelCount (s.written request memoryChannelId object channel) := by
  intro epochId channelId bucket hlookup
  rw [channels_written] at hlookup
  by_cases hkey : epochId = request.epochId
  · subst hkey
    rw [if_pos rfl] at hlookup
    by_cases hid : channelId = memoryChannelId
    · subst hid
      rw [AList.lookup_insert] at hlookup
      rw [← Option.some.inj hlookup]
      exact ⟨hepoch, hchannel, hlt⟩
    · rw [AList.lookup_insert_ne hid] at hlookup
      exact h _ _ _ hlookup
  · rw [if_neg hkey] at hlookup
    exact h _ _ _ hlookup

/-- Every recording stamps what it writes. -/
theorem ChannelsStamped.record (h : ChannelsStamped channelCount s)
    (hchannels : 0 < channelCount) {A : Arith} {nodeIds : List NodeId} {recording : Recording}
    (hvalid : recording.Valid nodeIds channelCount) :
    ChannelsStamped channelCount (s.record A recording) := by
  have hlt : ∀ request : Request,
      memoryChannelForObject request.objectId channelCount < channelCount :=
    fun request => memoryChannelForObject_lt request.objectId hchannels
  cases recording with
  | hit | miss | latency => exact h
  | arrival request memoryChannelId depth =>
      have hobserved : ChannelsStamped channelCount (s.observeMemoryQueueDepth depth) := h
      exact hobserved.written rfl rfl (hvalid ▸ hlt request)
  | wait request memoryChannelId waitTime =>
      have hwaited : ChannelsStamped channelCount (s.recordMemoryWait A waitTime) := h
      exact hwaited.written rfl rfl (hvalid ▸ hlt request)
  | service request memoryChannelId serviceTime =>
      exact h.written rfl rfl (hvalid ▸ hlt request)

-- ============================================================================
-- Rows with the same identifiers
-- ============================================================================

theorem Stamped.row_eq (h : Stamped channelCount s) {row row' : ObjectContentionStats}
    (hrow : row ∈ s.contentionRows) (hrow' : row' ∈ s.contentionRows)
    (hepoch : row.epochId = row'.epochId) (hobject : row.objectId = row'.objectId) :
    row = row' := by
  obtain ⟨epochId, objectId, bucket, hlookup, rfl⟩ := mem_contentionRows.mp hrow
  obtain ⟨epochId', objectId', bucket', hlookup', rfl⟩ := mem_contentionRows.mp hrow'
  obtain ⟨hkey, hid, -⟩ := h _ _ _ hlookup
  obtain ⟨hkey', hid', -⟩ := h _ _ _ hlookup'
  have hsameEpoch : epochId = epochId' := hkey.symm.trans (Eq.trans hepoch hkey')
  have hsameObject : objectId = objectId' := hid.symm.trans (Eq.trans hobject hid')
  subst hsameEpoch hsameObject
  rw [hlookup] at hlookup'
  rw [Option.some.inj hlookup']

theorem ChannelsStamped.row_eq (h : ChannelsStamped channelCount s)
    {row row' : ChannelContentionStats} (hrow : row ∈ s.channelRows) (hrow' : row' ∈ s.channelRows)
    (hepoch : row.epochId = row'.epochId) (hchannel : row.memoryChannelId = row'.memoryChannelId) :
    row = row' := by
  obtain ⟨epochId, channelId, bucket, hlookup, rfl⟩ := mem_channelRows.mp hrow
  obtain ⟨epochId', channelId', bucket', hlookup', rfl⟩ := mem_channelRows.mp hrow'
  obtain ⟨hkey, hid, -⟩ := h _ _ _ hlookup
  obtain ⟨hkey', hid', -⟩ := h _ _ _ hlookup'
  have hsameEpoch : epochId = epochId' := hkey.symm.trans (Eq.trans hepoch hkey')
  have hsameChannel : channelId = channelId' := hid.symm.trans (Eq.trans hchannel hid')
  subst hsameEpoch hsameChannel
  rw [hlookup] at hlookup'
  rw [Option.some.inj hlookup']

theorem ChannelsStamped.row_lt (h : ChannelsStamped channelCount s)
    {row : ChannelContentionStats} (hrow : row ∈ s.channelRows) :
    row.memoryChannelId < channelCount := by
  obtain ⟨epochId, channelId, bucket, hlookup, rfl⟩ := mem_channelRows.mp hrow
  obtain ⟨-, hid, hlt⟩ := h _ _ _ hlookup
  exact hid.symm ▸ hlt

end Stats

end DmSimulator
