/-
  DmSimulator.Cache.ContentionVariants

  Variants of the contention-aware policy with neutral knobs make the decisions of
  the plain variant.

  Scores read the snapshot through `getD`, so entries that hold nothing but zeroes,
  such as those of epochs that decay to weight zero, do not count.
-/
import DmSimulator.Cache.ContentionPolicy
import DmSimulator.Cache.PolicySim
import DmSimulator.Lib.Tally

namespace DmSimulator

-- ============================================================================
-- Maxima over a map
-- ============================================================================

theorem foldl_max_le {α : Type} [LinearOrder α] {l : List α} {start bound : α} :
    l.foldl max start ≤ bound ↔ start ≤ bound ∧ ∀ a ∈ l, a ≤ bound := by
  induction l generalizing start with
  | nil => simp
  | cons a l ih => rw [List.foldl_cons, ih, max_le_iff, List.forall_mem_cons, and_assoc]

/-- The values of a map that are not below what an absent key counts as. -/
theorem foldl_max_values_le {υ α : Type} [LinearOrder α] {m : UnorderedMap ObjectId υ} {g : υ → α}
    {zero : υ} {start bound : α} (hzero : g zero ≤ start) :
    (m.values.map g).foldl max start ≤ bound ↔
      start ≤ bound ∧ ∀ key, g (m.getD key zero) ≤ bound := by
  rw [foldl_max_le]
  refine and_congr_right fun hstart => ?_
  constructor
  · intro h key
    unfold UnorderedMap.getD
    cases hlookup : m.lookup key with
    | none => exact hzero.trans hstart
    | some value =>
        exact h _ (List.mem_map_of_mem
          (List.mem_map.mpr ⟨⟨key, value⟩, UnorderedMap.mem_entries.mpr hlookup, rfl⟩))
  · intro h a ha
    obtain ⟨value, hvalue, rfl⟩ := List.mem_map.mp ha
    obtain ⟨⟨key, value⟩, hentry, rfl⟩ := List.mem_map.mp hvalue
    have hkey := h key
    unfold UnorderedMap.getD at hkey
    rw [UnorderedMap.mem_entries.mp hentry] at hkey
    exact hkey

/-- Maps that differ in entries worth nothing have the same maxima. -/
theorem foldl_max_values_congr {υ α : Type} [LinearOrder α] {m m' : UnorderedMap ObjectId υ}
    {g : υ → α} {zero : υ} {start : α} (hzero : g zero ≤ start)
    (h : ∀ key, m'.getD key zero = m.getD key zero) :
    (m'.values.map g).foldl max start = (m.values.map g).foldl max start := by
  refine eq_of_forall_ge_iff fun bound => ?_
  rw [foldl_max_values_le hzero, foldl_max_values_le hzero]
  simp only [h]

namespace ContentionAwarePolicy

-- ============================================================================
-- Scores
-- ============================================================================

theorem normalized_zero (maxValue : Rat) : normalized 0 maxValue = 0 := by
  unfold normalized
  split
  · rfl
  · rw [zero_div]
    rfl

theorem costPerCacheByte_zero : costPerCacheByte {} = 0 := rfl

/-- The score of an object from its local count and its snapshot entry. -/
def scoreWith (weights : ContentionPolicyWeights) (localHotnessThreshold cacheCapacityBytes : Nat)
    (count : Nat) (previous : ScoringContentionStats) (maxima : NormalizationMaxima)
    (sizeBytes : Nat) : ContentionScoreComponents :=
  let localHotness := normalized count localHotnessThreshold
  let remoteAccesses := normalized previous.remoteAccesses maxima.remoteAccesses
  let distinctRequesters := normalized previous.distinctRequesters maxima.distinctRequesters
  let queueWait := normalized previous.totalQueueWait maxima.totalQueueWait
  let remoteServiceTime :=
    normalized previous.totalRemoteServiceTime maxima.totalRemoteServiceTime
  let costDensity := normalized (costPerCacheByte previous) maxima.costDensity
  let sizePenalty : Rat :=
    if cacheCapacityBytes = 0 then 1
    else min ((sizeBytes : Rat) / (cacheCapacityBytes : Rat)) 1
  { localHotness := localHotness
    remoteAccesses := remoteAccesses
    distinctRequesters := distinctRequesters
    queueWait := queueWait
    remoteServiceTime := remoteServiceTime
    costDensity := costDensity
    costPerCacheByte := costPerCacheByte previous
    sizePenalty := sizePenalty
    totalScore :=
      weights.localHotnessWeight * localHotness +
      weights.remoteAccessWeight * remoteAccesses +
      weights.distinctRequesterWeight * distinctRequesters +
      weights.queueWaitWeight * queueWait +
      weights.remoteServiceTimeWeight * remoteServiceTime +
      weights.costDensityWeight * costDensity -
      weights.sizePenaltyWeight * sizePenalty }

/-- An object without a snapshot entry scores like one whose entry is all zeroes. -/
theorem scoreObject_eq (config : ContentionPolicyConfig) (cacheCapacityBytes : Nat)
    (s : ContentionState) (objectId : ObjectId) (sizeBytes : Nat) :
    scoreObject config cacheCapacityBytes s objectId sizeBytes =
      scoreWith config.weights config.localHotnessThreshold cacheCapacityBytes
        (countFor s objectId) (s.previousEpochStats.getD objectId {}) s.maxima sizeBytes := by
  unfold scoreObject scoreWith UnorderedMap.getD
  cases s.previousEpochStats.lookup objectId with
  | none =>
      simp only [Option.getD_none, normalized_zero, costPerCacheByte_zero]
  | some previous => rfl

-- ============================================================================
-- Snapshots
-- ============================================================================

theorem refreshNormalizationMaxima_congr {m m' : UnorderedMap ObjectId ScoringContentionStats}
    (h : ∀ objectId, m'.getD objectId {} = m.getD objectId {}) :
    refreshNormalizationMaxima m' {} = refreshNormalizationMaxima m {} := by
  -- every component is a maximum of its own
  have hcomponents : ∀ (l : List ScoringContentionStats) (maxima : NormalizationMaxima),
      l.foldl (fun maxima stats =>
        { remoteAccesses := max maxima.remoteAccesses stats.remoteAccesses
          distinctRequesters := max maxima.distinctRequesters stats.distinctRequesters
          totalQueueWait := max maxima.totalQueueWait stats.totalQueueWait
          totalRemoteServiceTime :=
            max maxima.totalRemoteServiceTime stats.totalRemoteServiceTime
          costDensity := max maxima.costDensity (costPerCacheByte stats) }) maxima =
      { remoteAccesses :=
          (l.map ScoringContentionStats.remoteAccesses).foldl max maxima.remoteAccesses
        distinctRequesters :=
          (l.map ScoringContentionStats.distinctRequesters).foldl max maxima.distinctRequesters
        totalQueueWait :=
          (l.map ScoringContentionStats.totalQueueWait).foldl max maxima.totalQueueWait
        totalRemoteServiceTime :=
          (l.map ScoringContentionStats.totalRemoteServiceTime).foldl max
            maxima.totalRemoteServiceTime
        costDensity := (l.map costPerCacheByte).foldl max maxima.costDensity } := by
    intro l
    induction l with
    | nil => exact fun maxima => rfl
    | cons stats l ih =>
        intro maxima
        rw [List.foldl_cons, ih]
        rfl
  unfold refreshNormalizationMaxima
  rw [hcomponents, hcomponents]
  congr 1
  · exact foldl_max_values_congr (le_refl (0 : Rat)) h
  · exact foldl_max_values_congr (le_refl (0 : Rat)) h
  · exact foldl_max_values_congr (le_refl (0 : Rat)) h
  · exact foldl_max_values_congr (le_refl (0 : Rat)) h
  · exact foldl_max_values_congr (le_of_eq costPerCacheByte_zero) h

/-- A row of weight zero adds nothing. -/
theorem getD_addContentionSnapshot_zero (previous : UnorderedMap ObjectId ScoringContentionStats)
    (row : ObjectContentionStats) (objectId : ObjectId) :
    (addContentionSnapshot previous row 0).getD objectId {} = previous.getD objectId {} := by
  unfold addContentionSnapshot
  simp only [mul_zero, add_zero]
  rw [UnorderedMap.getD_insert]
  split
  · rename_i heq
    rw [heq]
  · rfl

theorem getD_foldl_zero (rows : List ObjectContentionStats)
    (previous : UnorderedMap ObjectId ScoringContentionStats) (objectId : ObjectId) :
    (rows.foldl (fun previous row => addContentionSnapshot previous row 0) previous).getD
      objectId {} = previous.getD objectId {} := by
  induction rows generalizing previous with
  | nil => rfl
  | cons row rows ih => rw [List.foldl_cons, ih, getD_addContentionSnapshot_zero]

/-- Without decay memory the snapshot is that of the last epoch. -/
theorem getD_epochSnapshot_noDecay {config plain : ContentionPolicyConfig}
    (hdecay : config.telemetryDecay = 0) (hhistory : 0 < historyEpochs config)
    (hplain : historyEpochs plain = 1) (stats : Stats) (epochId : EpochId) (objectId : ObjectId) :
    (epochSnapshot config stats epochId).getD objectId {} =
      (epochSnapshot plain stats epochId).getD objectId {} := by
  unfold epochSnapshot snapshotAges
  rw [hplain]
  cases epochId with
  | zero => simp
  | succ epoch =>
      obtain ⟨ages, hages⟩ : ∃ ages, min (historyEpochs config) (epoch + 1) = ages + 1 :=
        ⟨min (historyEpochs config) (epoch + 1) - 1, by lia⟩
      have hone : min 1 (epoch + 1) = 1 := by lia
      rw [hages, hone, List.range_succ_eq_map, List.foldl_cons, List.range_one, List.foldl_cons,
        List.foldl_nil, pow_zero, pow_zero]
      -- all later ages have weight zero
      generalize (stats.contentionByEpoch (epoch + 1 - 0 - 1)).foldl
        (fun previous row => addContentionSnapshot previous row 1) ∅ = previous
      rw [List.foldl_map]
      induction List.range ages generalizing previous with
      | nil => rfl
      | cons age rest ih =>
          rw [List.foldl_cons, ih, hdecay, zero_pow (Nat.succ_ne_zero age), getD_foldl_zero]

-- ============================================================================
-- What an operation leaves
-- ============================================================================

section Fields

variable (config : ContentionPolicyConfig) (stats : Stats) (s : ContentionState)

/-- What the first event of an epoch leaves, but for the confirmation counts. -/
theorem onEpochStart_fields (epochId : EpochId) (h : s.currentEpoch ≠ some epochId) :
    (onEpochStart config stats s epochId).currentEpoch = some epochId ∧
      (onEpochStart config stats s epochId).localAccessCounts =
        (if config.resetOnEpochChange then ∅ else s.localAccessCounts) ∧
      (onEpochStart config stats s epochId).previousEpochStats =
        epochSnapshot config stats epochId ∧
      (onEpochStart config stats s epochId).maxima =
        refreshNormalizationMaxima (epochSnapshot config stats epochId) {} := by
  unfold onEpochStart pruneLocalConfirmation
  rw [if_neg h]
  by_cases hreset : config.resetOnEpochChange = true <;>
    by_cases hconfirm : usesLocalConfirmation config = true <;>
    simp [hreset, hconfirm]

/-- The state a lookup counts in. -/
def startedFor (request : Request) : ContentionState :=
  if s.currentEpoch ≠ some request.epochId then onEpochStart config stats s request.epochId else s

theorem startedFor_currentEpoch (request : Request) :
    (startedFor config stats s request).currentEpoch = some request.epochId := by
  unfold startedFor
  split
  · rename_i h
    exact (onEpochStart_fields config stats s request.epochId h).1
  · rename_i h
    exact not_not.mp h

theorem onLookup_fields (request : Request) :
    (onLookup config stats s request).currentEpoch = some request.epochId ∧
      (onLookup config stats s request).localAccessCounts =
        bumpCount (startedFor config stats s request).localAccessCounts request.objectId ∧
      (onLookup config stats s request).previousEpochStats =
        (startedFor config stats s request).previousEpochStats ∧
      (onLookup config stats s request).maxima = (startedFor config stats s request).maxima ∧
      (usesLocalConfirmation config = true →
        (onLookup config stats s request).localConfirmationCounts =
          bumpCount (startedFor config stats s request).localConfirmationCounts
            request.objectId) := by
  have hcurrent := startedFor_currentEpoch config stats s request
  unfold onLookup
  rw [show (if s.currentEpoch ≠ some request.epochId then
    onEpochStart config stats s request.epochId else s) = startedFor config stats s request from rfl]
  by_cases hconfirm : usesLocalConfirmation config = true
  · simp [hconfirm, hcurrent]
  · simp [hconfirm, hcurrent]

end Fields

theorem countOf_bumpCount_self (counts : UnorderedMap ObjectId Nat) (key : ObjectId) :
    0 < countOf (bumpCount counts key) key := by
  unfold countOf bumpCount
  rw [AList.lookup_insert]
  exact Nat.succ_pos _

theorem countOf_bumpCount_pos {counts : UnorderedMap ObjectId Nat} {key' : ObjectId}
    (key : ObjectId) (h : 0 < countOf counts key') : 0 < countOf (bumpCount counts key) key' := by
  by_cases heq : key' = key
  · rw [heq]
    exact countOf_bumpCount_self counts key
  · unfold countOf bumpCount at *
    rw [AList.lookup_insert_ne heq]
    exact h

-- ============================================================================
-- Neutral knobs
-- ============================================================================

/-- The knobs of a variant are neutral, so it is to behave like `plain`.
    `parse_contention_policy_config` refuses a history of zero epochs. -/
inductive Neutral (config plain : ContentionPolicyConfig) : Prop
  | smoothedOneEpoch : plain.variant = .v1 → config.variant = .smoothed →
      config.telemetryHistoryEpochs = 1 → Neutral config plain
  | smoothedNoDecay : plain.variant = .v1 → config.variant = .smoothed →
      config.telemetryDecay = 0 → 0 < config.telemetryHistoryEpochs → Neutral config plain
  | hysteresis : plain.variant = .v1 → config.variant = .hysteresis →
      config.evictionScoreMargin = 0 → Neutral config plain
  | reuseGated : plain.variant = .v1 → config.variant = .reuseGated →
      config.localReuseGateThreshold = 1 → Neutral config plain
  | smoothedReuseGated : plain.variant = .smoothed → config.variant = .smoothedReuseGated →
      config.evictionScoreMargin = 0 →
      config.localConfirmationBypassScoreMargin = 0 ∨ config.localReuseGateThreshold = 1 →
      config.telemetryHistoryEpochs = plain.telemetryHistoryEpochs →
      config.telemetryDecay = plain.telemetryDecay → Neutral config plain

/-- The knobs that every variant reads are the same. -/
structure SameBase (config plain : ContentionPolicyConfig) : Prop where
  weights : config.weights = plain.weights
  minAdmitScore : config.minAdmitScore = plain.minAdmitScore
  localHotnessThreshold : config.localHotnessThreshold = plain.localHotnessThreshold
  resetOnEpochChange : config.resetOnEpochChange = plain.resetOnEpochChange

section Neutral

variable {config plain : ContentionPolicyConfig}

/-- The snapshots are the same but for entries of zeroes. -/
theorem Neutral.snapshot (h : Neutral config plain) (stats : Stats) (epochId : EpochId)
    (objectId : ObjectId) :
    (epochSnapshot config stats epochId).getD objectId {} =
      (epochSnapshot plain stats epochId).getD objectId {} := by
  have hfirst : ∀ c : ContentionPolicyConfig, historyEpochs c = 1 →
      epochSnapshot c stats epochId = epochSnapshot {} stats epochId := by
    intro c hc
    unfold epochSnapshot snapshotAges
    rw [hc, show historyEpochs {} = 1 from rfl]
    refine List.foldl_ext _ _ _ fun previous age hage => ?_
    obtain rfl : age = 0 := by
      have := List.mem_range.mp hage
      lia
    rw [pow_zero, pow_zero]
  cases h with
  | smoothedOneEpoch hplain hvariant hhistory =>
      rw [hfirst config (by simp [historyEpochs, usesSmoothedTelemetry, hvariant, hhistory]),
        hfirst plain (by simp [historyEpochs, usesSmoothedTelemetry, hplain])]
  | smoothedNoDecay hplain hvariant hdecay hhistory =>
      exact getD_epochSnapshot_noDecay hdecay
        (by simpa [historyEpochs, usesSmoothedTelemetry, hvariant] using hhistory)
        (by simp [historyEpochs, usesSmoothedTelemetry, hplain]) stats epochId objectId
  | hysteresis hplain hvariant =>
      rw [hfirst config (by simp [historyEpochs, usesSmoothedTelemetry, hvariant]),
        hfirst plain (by simp [historyEpochs, usesSmoothedTelemetry, hplain])]
  | reuseGated hplain hvariant =>
      rw [hfirst config (by simp [historyEpochs, usesSmoothedTelemetry, hvariant]),
        hfirst plain (by simp [historyEpochs, usesSmoothedTelemetry, hplain])]
  | smoothedReuseGated hplain hvariant _ _ hhistory hdecay =>
      have hsame : historyEpochs config = historyEpochs plain := by
        simp [historyEpochs, usesSmoothedTelemetry, hvariant, hplain, hhistory]
      unfold epochSnapshot snapshotAges
      rw [hsame, hdecay]

theorem Neutral.requiredMargin_eq (h : Neutral config plain) :
    requiredMargin config = requiredMargin plain := by
  unfold requiredMargin usesHysteresis
  cases h with
  | smoothedOneEpoch hplain hvariant => simp [hplain, hvariant]
  | smoothedNoDecay hplain hvariant => simp [hplain, hvariant]
  | hysteresis hplain hvariant hmargin => simp [hplain, hvariant, hmargin]
  | reuseGated hplain hvariant => simp [hplain, hvariant]
  | smoothedReuseGated hplain hvariant hmargin => simp [hplain, hvariant, hmargin]

end Neutral

-- ============================================================================
-- The simulation
-- ============================================================================

/-- The two states score alike and have made the same decisions. -/
structure ScoreAlike (s s' : ContentionState) : Prop where
  currentEpoch : s'.currentEpoch = s.currentEpoch
  localAccessCounts : s'.localAccessCounts = s.localAccessCounts
  snapshot : ∀ objectId,
    s'.previousEpochStats.getD objectId {} = s.previousEpochStats.getD objectId {}
  maxima : s'.maxima = s.maxima
  diagnostics : List.Forall₂ SameDecision s.diagnostics s'.diagnostics

/-- The node has looked the object up in the epoch. -/
structure LookedUpIn (config : ContentionPolicyConfig) (s : ContentionState) (epochId : EpochId)
    (objectId : ObjectId) : Prop where
  currentEpoch : s.currentEpoch = some epochId
  count : 0 < countFor s objectId
  confirmation : usesLocalConfirmation config = true → 0 < confirmationCountFor s objectId

section Simulation

variable {config plain : ContentionPolicyConfig} {s s' : ContentionState}

theorem ScoreAlike.scoreObject_eq (h : ScoreAlike s s') (hbase : SameBase config plain)
    (cacheCapacityBytes : Nat) (objectId : ObjectId) (sizeBytes : Nat) :
    scoreObject plain cacheCapacityBytes s' objectId sizeBytes =
      scoreObject config cacheCapacityBytes s objectId sizeBytes := by
  rw [ContentionAwarePolicy.scoreObject_eq, ContentionAwarePolicy.scoreObject_eq, hbase.weights,
    hbase.localHotnessThreshold, h.snapshot, h.maxima]
  unfold countFor
  rw [h.localAccessCounts]

theorem ScoreAlike.onEpochStart (h : ScoreAlike s s') (hbase : SameBase config plain)
    (hneutral : Neutral config plain) (stats : Stats) (epochId : EpochId) :
    ScoreAlike (onEpochStart config stats s epochId) (onEpochStart plain stats s' epochId) := by
  by_cases hcurrent : s.currentEpoch = some epochId
  · have hcurrent' : s'.currentEpoch = some epochId := h.currentEpoch.trans hcurrent
    unfold ContentionAwarePolicy.onEpochStart
    rw [if_pos hcurrent, if_pos hcurrent']
    exact h
  · have hcurrent' : s'.currentEpoch ≠ some epochId := by rwa [h.currentEpoch]
    obtain ⟨hepoch, hcounts, hsnapshot, hmaxima⟩ := onEpochStart_fields config stats s epochId
      hcurrent
    obtain ⟨hepoch', hcounts', hsnapshot', hmaxima'⟩ := onEpochStart_fields plain stats s' epochId
      hcurrent'
    have hsame := hneutral.snapshot stats epochId
    refine ⟨hepoch'.trans hepoch.symm, ?_, fun objectId => ?_, ?_, ?_⟩
    · rw [hcounts, hcounts', hbase.resetOnEpochChange, h.localAccessCounts]
    · rw [hsnapshot, hsnapshot', hsame]
    · rw [hmaxima, hmaxima', refreshNormalizationMaxima_congr hsame]
    · rw [onEpochStart_diagnostics, onEpochStart_diagnostics]
      exact h.diagnostics

theorem ScoreAlike.onLookup (h : ScoreAlike s s') (hbase : SameBase config plain)
    (hneutral : Neutral config plain) (stats : Stats) (request : Request) :
    ScoreAlike (onLookup config stats s request) (onLookup plain stats s' request) := by
  have hstarted : ScoreAlike (startedFor config stats s request)
      (startedFor plain stats s' request) := by
    unfold startedFor
    rw [h.currentEpoch]
    split
    · exact h.onEpochStart hbase hneutral stats request.epochId
    · exact h
  obtain ⟨hepoch, hcounts, hsnapshot, hmaxima, -⟩ := onLookup_fields config stats s request
  obtain ⟨hepoch', hcounts', hsnapshot', hmaxima', -⟩ := onLookup_fields plain stats s' request
  refine ⟨hepoch'.trans hepoch.symm, ?_, fun objectId => ?_, ?_, ?_⟩
  · rw [hcounts, hcounts', hstarted.localAccessCounts]
  · rw [hsnapshot, hsnapshot', hstarted.snapshot]
  · rw [hmaxima, hmaxima', hstarted.maxima]
  · rw [onLookup_diagnostics, onLookup_diagnostics]
    exact h.diagnostics

/-- A variant without gates admits by score. -/
theorem admissionDecision_ungated (cacheCapacityBytes : Nat) (s : ContentionState)
    (request : Request) (hvariant : config.variant ≠ .reuseGated)
    (hconfirm : usesLocalConfirmation config = false) :
    (admissionDecision config cacheCapacityBytes s request).shouldAdmit =
      ! decide (scoreOf config cacheCapacityBytes s request.objectId request.sizeBytes <
        config.minAdmitScore) := by
  unfold admissionDecision
  rw [if_neg (by simp [hvariant])]
  simp only [hconfirm]
  split
  · rename_i hlow
    simp [hlow]
  · rename_i hlow
    simp [hlow]

/-- With neutral knobs the gates of a variant let every object pass that was looked up. -/
theorem Neutral.admissionDecision_byScore (h : Neutral config plain) (cacheCapacityBytes : Nat)
    (request : Request) (hready : LookedUpIn config s request.epochId request.objectId) :
    (admissionDecision config cacheCapacityBytes s request).shouldAdmit =
      ! decide (scoreOf config cacheCapacityBytes s request.objectId request.sizeBytes <
        config.minAdmitScore) := by
  cases h with
  | smoothedOneEpoch _ hvariant | smoothedNoDecay _ hvariant | hysteresis _ hvariant =>
      exact admissionDecision_ungated cacheCapacityBytes s request (by simp [hvariant])
        (by simp [usesLocalConfirmation, hvariant])
  | reuseGated _ hvariant hthreshold =>
      have hcount := hready.count
      have hconfirm : usesLocalConfirmation config = false := by
        simp [usesLocalConfirmation, hvariant]
      unfold admissionDecision
      rw [if_neg (by simp [hthreshold]; lia)]
      simp only [hconfirm]
      split
      · rename_i hlow
        simp [hlow]
      · rename_i hlow
        simp [hlow]
  | smoothedReuseGated _ hvariant _ hopen =>
      have hconfirm : usesLocalConfirmation config = true := by
        simp [usesLocalConfirmation, hvariant]
      have hcount := hready.confirmation hconfirm
      unfold admissionDecision
      rw [if_neg (by simp [hvariant])]
      simp only [hconfirm]
      by_cases hlow : scoreOf config cacheCapacityBytes s request.objectId request.sizeBytes <
          config.minAdmitScore
      · simp [hlow]
      · rcases hopen with hbypass | hthreshold
        · simp [hlow, hbypass, not_lt.mp hlow]
        · simp [hlow, hthreshold, Nat.succ_le_of_lt hcount]

theorem Neutral.plain_ungated (h : Neutral config plain) :
    plain.variant ≠ .reuseGated ∧ usesLocalConfirmation plain = false := by
  unfold usesLocalConfirmation
  cases h with
  | smoothedOneEpoch hplain | smoothedNoDecay hplain | hysteresis hplain | reuseGated hplain
  | smoothedReuseGated hplain => simp [hplain]

theorem Neutral.admissionDecision_eq (hneutral : Neutral config plain)
    (hbase : SameBase config plain) (h : ScoreAlike s s') (cacheCapacityBytes : Nat)
    (request : Request) (hready : LookedUpIn config s request.epochId request.objectId) :
    (admissionDecision config cacheCapacityBytes s request).shouldAdmit =
      (admissionDecision plain cacheCapacityBytes s' request).shouldAdmit := by
  have hscore : scoreOf plain cacheCapacityBytes s' request.objectId request.sizeBytes =
      scoreOf config cacheCapacityBytes s request.objectId request.sizeBytes :=
    congrArg ContentionScoreComponents.totalScore (h.scoreObject_eq hbase _ _ _)
  obtain ⟨hvariant, hconfirm⟩ := hneutral.plain_ungated
  rw [hneutral.admissionDecision_byScore cacheCapacityBytes request hready,
    admissionDecision_ungated cacheCapacityBytes s' request hvariant hconfirm, hscore,
    hbase.minAdmitScore]

theorem Neutral.selectVictim_eq (hneutral : Neutral config plain) (hbase : SameBase config plain)
    (h : ScoreAlike s s') (cacheCapacityBytes : Nat) (entries : Residents) (request : Request) :
    selectVictim config cacheCapacityBytes s entries request =
      selectVictim plain cacheCapacityBytes s' entries request := by
  have hscore : scoreOf plain cacheCapacityBytes s' = scoreOf config cacheCapacityBytes s := by
    funext objectId sizeBytes
    exact congrArg ContentionScoreComponents.totalScore (h.scoreObject_eq hbase _ _ _)
  have hweaker : weaker plain cacheCapacityBytes s' = weaker config cacheCapacityBytes s := by
    unfold weaker
    rw [hscore]
  unfold selectVictim
  rw [hweaker, hscore, hneutral.requiredMargin_eq]

theorem ScoreAlike.onAdmissionResult (h : ScoreAlike s s') (hbase : SameBase config plain)
    (cacheCapacityBytes : Nat) (request : Request) (admitted : Bool) (reason reason' : String)
    (victims : List ObjectId) :
    ScoreAlike (onAdmissionResult config cacheCapacityBytes s request admitted reason victims)
      (onAdmissionResult plain cacheCapacityBytes s' request admitted reason' victims) := by
  have hscore := h.scoreObject_eq hbase cacheCapacityBytes request.objectId request.sizeBytes
  refine ⟨h.currentEpoch, h.localAccessCounts, h.snapshot, h.maxima,
    List.rel_append h.diagnostics (.cons ?_ .nil)⟩
  rw [hscore]
  refine ⟨reason', variantLabel plain, ?_⟩
  by_cases hconfirm : usesLocalConfirmation config = true <;>
    by_cases hconfirm' : usesLocalConfirmation plain = true <;>
    simp only [hconfirm, hconfirm'] <;> exact ⟨_, _, _, rfl⟩

theorem LookedUpIn.onLookup_self (config : ContentionPolicyConfig) (stats : Stats)
    (s : ContentionState) (request : Request) :
    LookedUpIn config (ContentionAwarePolicy.onLookup config stats s request) request.epochId
      request.objectId := by
  obtain ⟨hepoch, hcounts, -, -, hconfirmations⟩ := onLookup_fields config stats s request
  refine ⟨hepoch, ?_, fun hconfirm => ?_⟩
  · unfold countFor
    rw [hcounts]
    exact countOf_bumpCount_self _ _
  · unfold confirmationCountFor
    rw [hconfirmations hconfirm]
    exact countOf_bumpCount_self _ _

/-- A further lookup in the same epoch keeps the counts of the others. -/
theorem LookedUpIn.onLookup (stats : Stats) (request : Request) {objectId : ObjectId}
    (h : LookedUpIn config s request.epochId objectId) :
    LookedUpIn config (ContentionAwarePolicy.onLookup config stats s request) request.epochId
      objectId := by
  obtain ⟨hepoch, hcounts, -, -, hconfirmations⟩ := onLookup_fields config stats s request
  have hstarted : startedFor config stats s request = s := by
    unfold startedFor
    rw [if_neg (not_not.mpr h.currentEpoch)]
  rw [hstarted] at hcounts hconfirmations
  refine ⟨hepoch, ?_, fun hconfirm => ?_⟩
  · unfold countFor
    rw [hcounts]
    exact countOf_bumpCount_pos _ h.count
  · unfold confirmationCountFor
    rw [hconfirmations hconfirm]
    exact countOf_bumpCount_pos _ (h.confirmation hconfirm)

end Simulation

end ContentionAwarePolicy

/-- A variant with neutral knobs makes the decisions of the plain variant. -/
def neutralSim {config plain : ContentionPolicyConfig}
    (hneutral : ContentionAwarePolicy.Neutral config plain)
    (hbase : ContentionAwarePolicy.SameBase config plain) (cacheCapacityBytes : Nat) :
    PolicySim (ContentionAwarePolicy config cacheCapacityBytes)
      (ContentionAwarePolicy plain cacheCapacityBytes) where
  rel := ContentionAwarePolicy.ScoreAlike
  ready := ContentionAwarePolicy.LookedUpIn config
  init := ⟨rfl, rfl, fun _ => rfl, rfl, .nil⟩
  onLookup stats request _ _ h := h.onLookup hbase hneutral stats request
  onEpochStart stats epochId h := h.onEpochStart hbase hneutral stats epochId
  onAccess _ _ _ := rfl
  admissionDecision request _ h hready :=
    hneutral.admissionDecision_eq hbase h cacheCapacityBytes request hready
  selectVictim entries request h :=
    hneutral.selectVictim_eq hbase h cacheCapacityBytes entries request
  onAdmissionResult request _ _ admitted reason reason' victims h :=
    h.onAdmissionResult hbase cacheCapacityBytes request admitted reason reason' victims
  diagnostics h := h.diagnostics
  ready_onLookup stats request _ _ :=
    ContentionAwarePolicy.LookedUpIn.onLookup_self config stats _ request
  ready_onLookup_other stats request _ _ h := h.onLookup stats request
  ready_onAdmissionResult _ _ _ _ _ _ h := ⟨h.currentEpoch, h.count, h.confirmation⟩

end DmSimulator
