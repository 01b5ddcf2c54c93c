/-
  DmSimulator.Scripts.HotObjectCapacity

  The dry-run check of the experiment matrix (`validate_hot_object_capacity` of
  `scripts/run_matrix.py`) against the checks of the workload generator.

  The script counts the objects on the hot channels by a formula and makes one
  comparison; the generator walks over the object ids and makes three.  The
  generator's channel ids have 32 bits.  `hotSetVerdict` makes the generator's
  checks against a given number of eligible objects, so that they can be read
  with channel ids of any size.
-/
import DmSimulator.Lib.Residues
import DmSimulator.Workloads.Generated

namespace DmSimulator

open Residues

-- ============================================================================
-- The check of the script
-- ============================================================================

/-- The `shared_count` table. -/
def sharedCountOf (overlap : CrossNodeOverlap) (hotSetSize : Nat) : Nat :=
  match overlap with
  | .low => 0
  | .medium => hotSetSize / 2
  | .high => hotSetSize

/-- `math.ceil(count * fraction)`. -/
def ceilShare (count : Nat) (fraction : Rat) : Nat := (⌈(count : Rat) * fraction⌉).toNat

def validateHotObjectCapacity (objectCount nodeCount hotSetSize : Nat)
    (overlap : CrossNodeOverlap) (hotSetMode : HotSetMode) (churnFraction : Rat)
    (memoryChannelCount hotObjectChannelCount : Nat) : Except String Unit :=
  let channelLimit :=
    if hotObjectChannelCount = 0 then memoryChannelCount else hotObjectChannelCount
  let completeChannelGroups := objectCount / memoryChannelCount
  let remainder := objectCount % memoryChannelCount
  let eligibleCount := completeChannelGroups * channelLimit + min remainder channelLimit
  let sharedCount := sharedCountOf overlap hotSetSize
  let privateCount := hotSetSize - sharedCount
  let requiredCount := sharedCount + privateCount * nodeCount
  let effectiveChurn := if hotSetMode = .static then 0 else churnFraction
  let requiredCount :=
    if 0 < effectiveChurn ∧ effectiveChurn < 1 then
      requiredCount +
        (if sharedCount > 0 then ceilShare sharedCount effectiveChurn else 0) +
        (if privateCount > 0 then ceilShare privateCount effectiveChurn * nodeCount else 0)
    else requiredCount
  throwIf (requiredCount > eligibleCount)
    s!"Invalid matrix workload: requested hot-set overlap and churn need {requiredCount} hot-object candidates, but object_count={objectCount}, memory_channel_count={memoryChannelCount}, and hot_object_channel_count={hotObjectChannelCount} provide only {eligibleCount}"

-- ============================================================================
-- The checks of the generator
-- ============================================================================

/-- `memory_channel_for_object` without the cast to 32 bits. -/
def exactChannelForObject (objectId : ObjectId) (channelCount : Nat) : MemoryChannelId :=
  if objectId = 0 then 0 else (objectId - 1) % channelCount

/-- `eligible_hot_object_count` without the cast to 32 bits. -/
def exactEligibleHotObjectCount (config : SyntheticWorkloadConfig) : Nat :=
  ((makeObjectUniverse config.objectCount).filter (fun objectId =>
    exactChannelForObject objectId config.memoryChannelCount <
      effectiveHotObjectChannelCount config)).length

/-- What `validate_synthetic_workload_config` asks of the hot sets. -/
def hotSetVerdict (config : SyntheticWorkloadConfig) (eligibleCount : Nat) :
    Except String Unit := do
  throwIf (config.hotSetSize > config.objectCount)
    "Synthetic workload hot_set_size must not exceed object_count"
  throwIf (requiredHotObjectsPerEpoch config > eligibleCount)
    "Synthetic workload has too few hot-channel-eligible objects for requested overlap"
  let churnFraction := effectiveHotSetChurnFraction config
  if churnFraction > 0 ∧ churnFraction < 1 then
    throwIf (requiredHotObjectsPerEpoch config + totalReplacementsPerEpoch config churnFraction >
        eligibleCount)
      "Synthetic workload has too few hot-channel-eligible objects for requested partial hot-set churn"

/-- What `validate_synthetic_workload_config` asks of the other fields. -/
structure OtherFieldsValid (A : Arith) (config : SyntheticWorkloadConfig) : Prop where
  nodes : config.computeNodeIds ≠ []
  nodeIds_nodup : config.computeNodeIds.Nodup
  objects : 0 < config.objectCount
  channels : 0 < config.memoryChannelCount
  hotChannels : config.hotObjectChannelCount ≤ config.memoryChannelCount
  objectSize : 0 < config.objectSizeBytes
  smallSize : 0 < config.objectSizeSmallBytes
  largeSize : 0 < config.objectSizeLargeBytes
  sizes : config.objectSizeSmallBytes ≤ config.objectSizeLargeBytes
  requests : 0 < config.requestsPerNodePerEpoch
  epochs : 0 < config.epochCount
  hotSetSize : 0 < config.hotSetSize
  hotAccess : 0 ≤ config.hotAccessProbability ∧ config.hotAccessProbability ≤ 1
  churn : 0 ≤ config.hotSetChurnFraction ∧ config.hotSetChurnFraction ≤ 1
  largeObjects : 0 ≤ config.largeObjectProbability ∧ config.largeObjectProbability ≤ 1
  burstSize : 0 < config.burstSize
  burstInterval : 0 < config.burstInterval
  burstTiming : config.issueMode = .scheduledBursty → 1 < config.burstSize →
    config.intraBurstGap ≤ (Arith.wordSize - 1) / (config.burstSize - 1) ∧
      A.mul (config.burstSize - 1) config.intraBurstGap ≤ config.burstInterval

/-- With the other fields valid, the generator's verdict is that on the hot sets. -/
theorem validateSyntheticWorkloadConfig_eq_hotSetVerdict {A : Arith}
    {config : SyntheticWorkloadConfig} (h : OtherFieldsValid A config) :
    validateSyntheticWorkloadConfig A config =
      hotSetVerdict config (eligibleHotObjectCount config) := by
  have hpass : ∀ {condition : Bool} {message : String} (rest : Unit → Except String Unit),
      condition = false → (throwIf condition message >>= rest) = rest () := by
    intro condition message rest hcondition
    rw [hcondition]
    rfl
  have hpositive : ∀ {n : Nat}, 0 < n → decide (n = 0) = false := by
    intro n hn
    exact decide_eq_false hn.ne'
  have hunit : ∀ {p : Rat}, 0 ≤ p ∧ p ≤ 1 → (decide (p < 0) || decide (p > 1)) = false := by
    intro p hp
    rw [decide_eq_false (not_lt.mpr hp.1), decide_eq_false (not_lt.mpr hp.2)]
    rfl
  unfold validateSyntheticWorkloadConfig hotSetVerdict
  rw [hpass _ (by simpa using h.nodes), hpass _ (by simpa using h.nodeIds_nodup),
    hpass _ (hpositive h.objects), hpass _ (hpositive h.channels),
    hpass _ (by simpa using h.hotChannels), hpass _ (hpositive h.objectSize),
    hpass _ (by rw [hpositive h.smallSize, hpositive h.largeSize]; rfl),
    hpass _ (by simpa using h.sizes), hpass _ (hpositive h.requests),
    hpass _ (hpositive h.epochs), hpass _ (hpositive h.hotSetSize)]
  by_cases hfits : config.hotSetSize > config.objectCount
  · rw [decide_eq_true hfits]
    rfl
  · have hsize := decide_eq_false hfits
    rw [hpass _ hsize, hpass _ hsize, hpass _ (hunit h.hotAccess), hpass _ (hunit h.churn),
      hpass _ (hunit h.largeObjects), hpass _ (hpositive h.burstSize),
      hpass _ (hpositive h.burstInterval)]
    split
    next hbursty =>
      obtain ⟨hgap, hspan⟩ := h.burstTiming hbursty.1 hbursty.2
      rw [hpass _ (decide_eq_false (not_lt.mpr hgap)),
        hpass _ (decide_eq_false (not_lt.mpr hspan))]
    next => rfl

/-- Where the channel ids fit in 32 bits the cast does nothing. -/
theorem eligibleHotObjectCount_eq_exact {config : SyntheticWorkloadConfig}
    (hchannels : 0 < config.memoryChannelCount) (h : config.memoryChannelCount ≤ 2 ^ 32) :
    eligibleHotObjectCount config = exactEligibleHotObjectCount config := by
  have hsame : ∀ objectId, memoryChannelForObject objectId config.memoryChannelCount =
      exactChannelForObject objectId config.memoryChannelCount := by
    intro objectId
    unfold memoryChannelForObject exactChannelForObject
    split
    · rfl
    · exact Nat.mod_eq_of_lt ((Nat.mod_lt _ hchannels).trans_le h)
  unfold eligibleHotObjectCount exactEligibleHotObjectCount
  simp only [hsame]

-- ============================================================================
-- The two counts
-- ============================================================================

/-- The objects on the hot channels are the residues below the channel limit. -/
theorem exactEligibleHotObjectCount_eq_countBelow (config : SyntheticWorkloadConfig) :
    exactEligibleHotObjectCount config =
      countBelow config.memoryChannelCount (effectiveHotObjectChannelCount config)
        config.objectCount := by
  unfold exactEligibleHotObjectCount countBelow makeObjectUniverse
  rw [List.range'_eq_map_range, List.filter_map, List.length_map]
  congr 1
  apply List.filter_congr
  intro i _
  have hne : 1 + i ≠ 0 := by omega
  simp only [Function.comp_apply, exactChannelForObject, if_neg hne, Nat.add_sub_cancel_left]

/-- `eligible_count` of the script. -/
theorem exactEligibleHotObjectCount_eq {config : SyntheticWorkloadConfig}
    (hchannels : 0 < config.memoryChannelCount)
    (hhot : config.hotObjectChannelCount ≤ config.memoryChannelCount) :
    exactEligibleHotObjectCount config =
      config.objectCount / config.memoryChannelCount * effectiveHotObjectChannelCount config +
        min (config.objectCount % config.memoryChannelCount)
          (effectiveHotObjectChannelCount config) := by
  rw [exactEligibleHotObjectCount_eq_countBelow]
  apply countBelow_eq hchannels
  unfold effectiveHotObjectChannelCount
  split
  · exact Nat.le_refl _
  · exact hhot

/-- A hot set larger than the universe never fits. -/
theorem hotSetSize_le_required {config : SyntheticWorkloadConfig}
    (hnodes : config.computeNodeIds ≠ []) :
    config.hotSetSize ≤ requiredHotObjectsPerEpoch config := by
  have hpos := List.length_pos_iff.mpr hnodes
  have hshared := sharedHotObjectCount_le config
  have hmul := Nat.le_mul_of_pos_right (config.hotSetSize - sharedHotObjectCount config) hpos
  unfold requiredHotObjectsPerEpoch
  simp only
  omega

/-- `required_count` of the script, before and after partial churn. -/
def requiredCandidates (config : SyntheticWorkloadConfig) : Nat :=
  let churnFraction := effectiveHotSetChurnFraction config
  if 0 < churnFraction ∧ churnFraction < 1 then
    requiredHotObjectsPerEpoch config + totalReplacementsPerEpoch config churnFraction
  else requiredHotObjectsPerEpoch config

/-- Between no churn and full churn, replacements are the rounded-up share. -/
theorem replacementCount_eq_ceilShare {churnFraction : Rat} (hpos : 0 < churnFraction)
    (hlt : churnFraction < 1) (segmentSize : Nat) :
    replacementCount segmentSize churnFraction =
      if segmentSize > 0 then ceilShare segmentSize churnFraction else 0 := by
  unfold replacementCount ceilShare
  rcases Nat.eq_zero_or_pos segmentSize with rfl | hsegment
  · rfl
  · rw [if_pos hsegment, if_neg, if_neg (not_le.mpr hlt)]
    simp [hsegment.ne', hpos]

/-- The generator's three checks come to one comparison. -/
theorem hotSetVerdict_eq_error_iff {config : SyntheticWorkloadConfig} {eligibleCount : Nat}
    (hnodes : config.computeNodeIds ≠ []) (heligible : eligibleCount ≤ config.objectCount) :
    (∃ message, hotSetVerdict config eligibleCount = .error message) ↔
      requiredCandidates config > eligibleCount := by
  have hrequired := hotSetSize_le_required hnodes
  unfold hotSetVerdict requiredCandidates throwIf
  simp only [decide_eq_true_eq, gt_iff_lt]
  by_cases hsize : config.objectCount < config.hotSetSize
  · rw [if_pos hsize]
    refine iff_of_true ⟨_, rfl⟩ ?_
    split <;> omega
  · rw [if_neg hsize]
    by_cases hoverlap : eligibleCount < requiredHotObjectsPerEpoch config
    · rw [if_pos hoverlap]
      refine iff_of_true ⟨_, rfl⟩ ?_
      split <;> omega
    · rw [if_neg hoverlap]
      by_cases hpartial : 0 < effectiveHotSetChurnFraction config ∧
          effectiveHotSetChurnFraction config < 1
      · rw [if_pos hpartial, if_pos hpartial]
        by_cases hchurn : eligibleCount < requiredHotObjectsPerEpoch config +
            totalReplacementsPerEpoch config (effectiveHotSetChurnFraction config)
        · rw [if_pos hchurn]
          exact iff_of_true ⟨_, rfl⟩ hchurn
        · rw [if_neg hchurn]
          refine iff_of_false ?_ hchurn
          rintro ⟨message, herror⟩
          cases herror
      · rw [if_neg hpartial, if_neg hpartial]
        refine iff_of_false ?_ hoverlap
        rintro ⟨message, herror⟩
        cases herror

/-- The check of the script on the fields of a workload. -/
def capacityCheck (config : SyntheticWorkloadConfig) : Except String Unit :=
  validateHotObjectCapacity config.objectCount config.computeNodeIds.length config.hotSetSize
    config.crossNodeOverlap config.hotSetMode config.hotSetChurnFraction
    config.memoryChannelCount config.hotObjectChannelCount

theorem throwIf_eq_error_iff {condition : Bool} {message : String} :
    (∃ error, throwIf condition message = .error error) ↔ condition = true := by
  cases condition with
  | true => exact iff_of_true ⟨message, rfl⟩ rfl
  | false =>
      refine iff_of_false ?_ Bool.false_ne_true
      rintro ⟨error, herror⟩
      cases herror

theorem capacityCheck_eq_error_iff {config : SyntheticWorkloadConfig}
    (hchannels : 0 < config.memoryChannelCount)
    (hhot : config.hotObjectChannelCount ≤ config.memoryChannelCount) :
    (∃ message, capacityCheck config = .error message) ↔
      requiredCandidates config > exactEligibleHotObjectCount config := by
  have hshared : sharedCountOf config.crossNodeOverlap config.hotSetSize =
      sharedHotObjectCount config := rfl
  rw [exactEligibleHotObjectCount_eq hchannels hhot]
  unfold capacityCheck validateHotObjectCapacity
  rw [throwIf_eq_error_iff, decide_eq_true_iff]
  unfold requiredCandidates requiredHotObjectsPerEpoch totalReplacementsPerEpoch
    effectiveHotSetChurnFraction effectiveHotObjectChannelCount
  simp only [hshared]
  by_cases hpartial : 0 < (if config.hotSetMode = .static then 0 else config.hotSetChurnFraction) ∧
      (if config.hotSetMode = .static then 0 else config.hotSetChurnFraction) < 1
  · rw [if_pos hpartial, if_pos hpartial, replacementCount_eq_ceilShare hpartial.1 hpartial.2,
      replacementCount_eq_ceilShare hpartial.1 hpartial.2, ite_mul, Nat.zero_mul, Nat.add_assoc]
  · rw [if_neg hpartial, if_neg hpartial]

/-- The dry-run check agrees with the generator.  Over exact naturals it raises just
    when the generator rejects the hot sets; the generator's verdict on the workload is
    that verdict for the objects it counts, and where the channel ids fit in 32 bits
    these are the ones counted over exact naturals. -/
theorem validateHotObjectCapacity_agrees {A : Arith} {config : SyntheticWorkloadConfig}
    (h : OtherFieldsValid A config) :
    ((∃ message, capacityCheck config = .error message) ↔
      ∃ message, hotSetVerdict config (exactEligibleHotObjectCount config) = .error message) ∧
    validateSyntheticWorkloadConfig A config =
      hotSetVerdict config (eligibleHotObjectCount config) ∧
    (config.memoryChannelCount ≤ 2 ^ 32 →
      eligibleHotObjectCount config = exactEligibleHotObjectCount config) := by
  have heligible : exactEligibleHotObjectCount config ≤ config.objectCount := by
    rw [exactEligibleHotObjectCount_eq_countBelow]
    exact countBelow_le _ _ _
  refine ⟨?_, validateSyntheticWorkloadConfig_eq_hotSetVerdict h,
    eligibleHotObjectCount_eq_exact h.channels⟩
  rw [capacityCheck_eq_error_iff h.channels h.hotChannels,
    hotSetVerdict_eq_error_iff h.nodes heligible]

/-- Ten objects on four channels, the hot ones on three of them: eight are eligible, and
    a third of one shared and two private segments of two objects each is churned. -/
def partialChurnWorkload : SyntheticWorkloadConfig :=
  { computeNodeIds := [0, 1]
    objectCount := 10
    memoryChannelCount := 4
    hotObjectChannelCount := 3
    hotSetSize := 4
    crossNodeOverlap := .medium
    hotSetMode := .epochShift
    hotSetChurnFraction := 1 / 3
    requestsPerNodePerEpoch := 1 }

/-- Six objects and three replacements are one too many. -/
theorem partialChurnWorkload_agrees :
    ((∃ message, capacityCheck partialChurnWorkload = .error message) ↔
      ∃ message, hotSetVerdict partialChurnWorkload
        (exactEligibleHotObjectCount partialChurnWorkload) = .error message) ∧
    validateSyntheticWorkloadConfig Arith.exact partialChurnWorkload =
      hotSetVerdict partialChurnWorkload (eligibleHotObjectCount partialChurnWorkload) ∧
    (partialChurnWorkload.memoryChannelCount ≤ 2 ^ 32 →
      eligibleHotObjectCount partialChurnWorkload =
        exactEligibleHotObjectCount partialChurnWorkload) :=
  validateHotObjectCapacity_agrees
    { nodes := by decide
      nodeIds_nodup := by decide
      objects := by decide
      channels := by decide
      hotChannels := by decide
      objectSize := by decide
      smallSize := by decide
      largeSize := by decide
      sizes := by decide
      requests := by decide
      epochs := by decide
      hotSetSize := by decide
      hotAccess := by decide +kernel
      churn := by decide +kernel
      largeObjects := by decide +kernel
      burstSize := by decide
      burstInterval := by decide
      burstTiming := by decide }

end DmSimulator
