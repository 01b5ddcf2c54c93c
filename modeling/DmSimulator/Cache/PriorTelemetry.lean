/-
  DmSimulator.Cache.PriorTelemetry

  What the telemetry snapshot of `ContentionAwarePolicy` is meant to be: for
  every object the statistics of the past epochs, the older the less they weigh,
  and the greatest values of these.

  The snapshot is a ledger of the rows of past epochs, so it depends on nothing
  else.
-/
import DmSimulator.Cache.ContentionPolicy
import DmSimulator.Lib.Ledger
import DmSimulator.Metrics.Conservation
import Mathlib.Algebra.BigOperators.Group.Finset.Basic

namespace DmSimulator

-- ============================================================================
-- Sums of statistics
-- ============================================================================

namespace ScoringContentionStats

instance : Zero ScoringContentionStats := ⟨{}⟩

instance : Add ScoringContentionStats :=
  ⟨fun a b =>
    { remoteAccesses := a.remoteAccesses + b.remoteAccesses
      distinctRequesters := a.distinctRequesters + b.distinctRequesters
      bytesServed := a.bytesServed + b.bytesServed
      totalQueueWait := a.totalQueueWait + b.totalQueueWait
      totalRemoteServiceTime := a.totalRemoteServiceTime + b.totalRemoteServiceTime }⟩

@[ext] theorem ext {a b : ScoringContentionStats} (hremote : a.remoteAccesses = b.remoteAccesses)
    (hrequesters : a.distinctRequesters = b.distinctRequesters)
    (hbytes : a.bytesServed = b.bytesServed) (hwait : a.totalQueueWait = b.totalQueueWait)
    (hservice : a.totalRemoteServiceTime = b.totalRemoteServiceTime) : a = b := by
  cases a
  cases b
  simp_all

instance : AddCommMonoid ScoringContentionStats where
  add_assoc _ _ _ := by ext <;> exact add_assoc _ _ _
  zero_add _ := by ext <;> exact zero_add _
  add_zero _ := by ext <;> exact add_zero _
  add_comm _ _ := by ext <;> exact add_comm _ _
  nsmul := nsmulRec

end ScoringContentionStats

/-- The figures of a row, weighed. -/
def ObjectContentionStats.weighted (row : ObjectContentionStats) (weight : Rat) :
    ScoringContentionStats :=
  { remoteAccesses := row.remoteAccesses * weight
    distinctRequesters := row.distinctRequesters * weight
    bytesServed := row.bytesServed * weight
    totalQueueWait := row.totalQueueWait * weight
    totalRemoteServiceTime := row.totalRemoteServiceTime * weight }

/-- The statistics of an object in an epoch; all zero if there are none. -/
def Stats.objectContention (s : Stats) (epochId : EpochId) (objectId : ObjectId) :
    ObjectContentionStats :=
  Stats.snapshotContention (s.objectBucket epochId objectId)

namespace ContentionAwarePolicy

variable {config : ContentionPolicyConfig}

/-- How many epochs back the telemetry of a variant reaches. -/
def telemetryHorizon (config : ContentionPolicyConfig) : Nat :=
  match config.variant with
  | .smoothed | .smoothedReuseGated => config.telemetryHistoryEpochs
  | .v1 | .reuseGated | .hysteresis => 1

/-- The telemetry of an object that an epoch `epochId` may rely on: over the ages below the
    horizon and below `epochId`, the statistics of the epoch that lies one more than the age
    back, weighed by the decay to the power of the age. -/
def priorTelemetry (config : ContentionPolicyConfig) (stats : Stats) (epochId : EpochId)
    (objectId : ObjectId) : ScoringContentionStats :=
  ∑ age ∈ (Finset.range (telemetryHorizon config)).filter (· < epochId),
    (stats.objectContention (epochId - 1 - age) objectId).weighted (config.telemetryDecay ^ age)

/-- Each figure is the greatest of its kind over all objects. -/
structure MaximaOf (telemetry : ObjectId → ScoringContentionStats) (maxima : NormalizationMaxima) :
    Prop where
  remoteAccesses :
    IsGreatest (insert 0 (Set.range fun o => (telemetry o).remoteAccesses)) maxima.remoteAccesses
  distinctRequesters :
    IsGreatest (insert 0 (Set.range fun o => (telemetry o).distinctRequesters))
      maxima.distinctRequesters
  totalQueueWait :
    IsGreatest (insert 0 (Set.range fun o => (telemetry o).totalQueueWait)) maxima.totalQueueWait
  totalRemoteServiceTime :
    IsGreatest (insert 0 (Set.range fun o => (telemetry o).totalRemoteServiceTime))
      maxima.totalRemoteServiceTime
  costDensity :
    IsGreatest (insert 0 (Set.range fun o => costPerCacheByte (telemetry o))) maxima.costDensity

/-- The snapshot of a policy is the prior telemetry of the epoch: the entry of each object
    and the greatest values, and there is an entry for every object that a past epoch within
    the horizon has a row for. -/
structure HoldsPriorTelemetry (config : ContentionPolicyConfig) (stats : Stats)
    (epochId : EpochId) (s : ContentionState) : Prop where
  entries : ∀ objectId,
    s.previousEpochStats.getD objectId 0 = priorTelemetry config stats epochId objectId
  objects : ∀ objectId, (s.previousEpochStats.lookup objectId).isSome ↔
    ∃ age, age < telemetryHorizon config ∧ age < epochId ∧
      ∃ row ∈ stats.contentionByEpoch (epochId - 1 - age), row.objectId = objectId
  maxima : MaximaOf (priorTelemetry config stats epochId) s.maxima

-- ============================================================================
-- The snapshot
-- ============================================================================

theorem historyEpochs_eq (config : ContentionPolicyConfig) :
    historyEpochs config = telemetryHorizon config := by
  unfold historyEpochs usesSmoothedTelemetry telemetryHorizon
  cases config.variant <;> rfl

/-- The rows of the snapshot loop, each with its weight. -/
def snapshotRows (config : ContentionPolicyConfig) (stats : Stats) (epochId : EpochId) :
    List (ObjectContentionStats × Rat) :=
  (snapshotAges config epochId).flatMap fun age =>
    (stats.contentionByEpoch (epochId - age - 1)).map fun row => (row, config.telemetryDecay ^ age)

/-- The snapshot is the ledger of its rows. -/
theorem epochSnapshot_eq (stats : Stats) (epochId : EpochId) :
    epochSnapshot config stats epochId =
      (snapshotRows config stats epochId).foldl
        (UnorderedMap.book (fun p => p.1.objectId) fun p => p.1.weighted p.2) ∅ := by
  unfold epochSnapshot snapshotRows
  rw [List.foldl_flatMap]
  congr 1
  funext previous age
  rw [List.foldl_map]
  rfl

/-- The rows of an object in an epoch together are its statistics. -/
theorem sum_rows {channelCount : Nat} {stats : Stats} (h : stats.Stamped channelCount)
    (epochId : EpochId) (objectId : ObjectId) (weight : Rat) :
    ((stats.contentionByEpoch epochId).map fun row =>
      if row.objectId = objectId then row.weighted weight else 0).sum =
        (stats.objectContention epochId objectId).weighted weight := by
  have hzero : (Stats.snapshotContention {}).weighted weight = 0 := by
    ext <;> exact zero_mul weight
  rw [((stats.contentionByEpoch_perm epochId).map _).sum_eq, List.map_map, UnorderedMap.values,
    List.map_map]
  have hentries : ((stats.contentionByEpoch_.getD epochId ∅).entries.map
      ((((fun row : ObjectContentionStats =>
        if row.objectId = objectId then row.weighted weight else 0)) ∘ Stats.snapshotContention) ∘
          fun entry => entry.2)) =
      (stats.contentionByEpoch_.getD epochId ∅).entries.map fun entry =>
        if entry.1 = objectId then (Stats.snapshotContention entry.2).weighted weight else 0 := by
    refine List.map_congr_left fun entry hentry => ?_
    have hstamp := (h _ _ _ (UnorderedMap.mem_entries.mp hentry)).2.1
    show (if entry.2.stats.objectId = objectId then _ else 0) = _
    rw [hstamp]
  rw [hentries, UnorderedMap.sum_entries_of_key _ objectId fun bucket =>
    (Stats.snapshotContention bucket).weighted weight]
  unfold Stats.objectContention Stats.objectBucket
  rw [UnorderedMap.getD.eq_def _ objectId]
  cases (stats.contentionByEpoch_.getD epochId ∅).lookup objectId with
  | none => exact hzero.symm
  | some bucket => rfl

/-- The ages of the snapshot loop. -/
theorem snapshotAges_eq (config : ContentionPolicyConfig) (epochId : EpochId) :
    (snapshotAges config epochId).toFinset =
      (Finset.range (telemetryHorizon config)).filter (· < epochId) := by
  ext age
  simp [snapshotAges, historyEpochs_eq]

theorem mem_snapshotAges {epochId : EpochId} {age : Nat} :
    age ∈ snapshotAges config epochId ↔ age < telemetryHorizon config ∧ age < epochId := by
  simp [snapshotAges, historyEpochs_eq]

/-- What the snapshot holds of an object. -/
theorem epochSnapshot_getD {channelCount : Nat} {stats : Stats}
    (h : stats.Stamped channelCount) (epochId : EpochId) (objectId : ObjectId) :
    (epochSnapshot config stats epochId).getD objectId 0 =
      priorTelemetry config stats epochId objectId := by
  rw [epochSnapshot_eq, UnorderedMap.getD_foldl_book, UnorderedMap.getD_empty, zero_add]
  unfold snapshotRows priorTelemetry
  rw [List.map_flatMap, List.flatMap_def, List.sum_flatten, List.map_map, ← snapshotAges_eq,
    List.sum_toFinset _ (show (snapshotAges config epochId).Nodup from List.nodup_range)]
  refine congrArg List.sum (List.map_congr_left fun age hage => ?_)
  rw [Function.comp_apply, List.map_map]
  have hepoch : epochId - age - 1 = epochId - 1 - age := Nat.sub_right_comm epochId age 1
  rw [hepoch]
  exact sum_rows h _ _ _

/-- The objects of the snapshot. -/
theorem epochSnapshot_lookup_isSome (stats : Stats) (epochId : EpochId) (objectId : ObjectId) :
    ((epochSnapshot config stats epochId).lookup objectId).isSome ↔
      ∃ age, age < telemetryHorizon config ∧ age < epochId ∧
        ∃ row ∈ stats.contentionByEpoch (epochId - 1 - age), row.objectId = objectId := by
  rw [epochSnapshot_eq, UnorderedMap.isSome_foldl_book]
  constructor
  · rintro (hnone | ⟨p, hp, hobject⟩)
    · cases hnone
    · obtain ⟨age, hage, hrow⟩ := List.mem_flatMap.mp hp
      obtain ⟨row, hin, rfl⟩ := List.mem_map.mp hrow
      obtain ⟨hhorizon, hlt⟩ := mem_snapshotAges.mp hage
      rw [Nat.sub_right_comm] at hin
      exact ⟨age, hhorizon, hlt, row, hin, hobject⟩
  · rintro ⟨age, hhorizon, hlt, row, hin, hobject⟩
    rw [Nat.sub_right_comm] at hin
    exact Or.inr ⟨_, List.mem_flatMap.mpr ⟨age, mem_snapshotAges.mpr ⟨hhorizon, hlt⟩,
      List.mem_map.mpr ⟨row, hin, rfl⟩⟩, hobject⟩

/-- A figure that a loop over the entries keeps the larger value of. -/
theorem isGreatest_figure (previous : UnorderedMap ObjectId ScoringContentionStats)
    {step : NormalizationMaxima → ScoringContentionStats → NormalizationMaxima}
    {figure : NormalizationMaxima → Rat} {f : ScoringContentionStats → Rat}
    (hstart : figure {} = 0) (hzero : f 0 = 0)
    (hstep : ∀ maxima stats, max (figure maxima) (f stats) = figure (step maxima stats)) :
    IsGreatest (insert 0 (Set.range fun objectId => f (previous.getD objectId 0)))
      (figure (previous.values.foldl step {})) := by
  have hfold : previous.values.foldl (fun best stats => max best (f stats)) (figure {}) =
      figure (previous.values.foldl step {}) := List.foldl_hom figure hstep
  rw [← hfold, hstart]
  exact UnorderedMap.isGreatest_values hzero previous

/-- The maxima of a snapshot. -/
theorem refreshNormalizationMaxima_spec
    (previous : UnorderedMap ObjectId ScoringContentionStats) :
    MaximaOf (fun objectId => previous.getD objectId 0)
      (refreshNormalizationMaxima previous {}) := by
  unfold refreshNormalizationMaxima
  refine ⟨?_, ?_, ?_, ?_, ?_⟩
  · exact isGreatest_figure previous rfl rfl fun _ _ => rfl
  · exact isGreatest_figure previous rfl rfl fun _ _ => rfl
  · exact isGreatest_figure previous rfl rfl fun _ _ => rfl
  · exact isGreatest_figure previous rfl rfl fun _ _ => rfl
  · exact isGreatest_figure previous rfl (if_pos rfl) fun _ _ => rfl

/-- A policy that has just taken its snapshot holds the prior telemetry. -/
theorem holdsPriorTelemetry_of_snapshot {channelCount : Nat} {stats : Stats}
    (h : stats.Stamped channelCount) {epochId : EpochId} {s : ContentionState}
    (hprevious : s.previousEpochStats = epochSnapshot config stats epochId)
    (hmaxima : s.maxima = refreshNormalizationMaxima s.previousEpochStats {}) :
    HoldsPriorTelemetry config stats epochId s := by
  refine ⟨fun objectId => ?_, fun objectId => ?_, ?_⟩
  · rw [hprevious]
    exact epochSnapshot_getD h epochId objectId
  · rw [hprevious]
    exact epochSnapshot_lookup_isSome stats epochId objectId
  · have hspec := refreshNormalizationMaxima_spec s.previousEpochStats
    rw [← hmaxima, hprevious] at hspec
    rwa [funext (epochSnapshot_getD h epochId)] at hspec

/-- The snapshot of an epoch depends on the epochs before it alone. -/
theorem epochSnapshot_congr {stats stats' : Stats} {epochId : EpochId}
    (h : ∀ earlier, earlier < epochId →
      stats'.contentionByEpoch earlier = stats.contentionByEpoch earlier) :
    epochSnapshot config stats' epochId = epochSnapshot config stats epochId := by
  rw [epochSnapshot_eq, epochSnapshot_eq]
  unfold snapshotRows
  congr 1
  refine List.flatMap_congr fun age hage => ?_
  have hlt := (mem_snapshotAges.mp hage).2
  rw [h _ (by lia)]

end ContentionAwarePolicy

end DmSimulator
