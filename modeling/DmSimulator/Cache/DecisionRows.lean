/-
  DmSimulator.Cache.DecisionRows

  What the decision records of the contention-aware policy say: the score is weighed
  from shares of the largest values, and the reason is the one that the score and the
  counts of the record call for.
-/
import DmSimulator.Cache.BypassRows
import DmSimulator.Cache.Verdicts
import DmSimulator.Sim.ConfigRanges

namespace DmSimulator

open ContentionAwarePolicy

-- ============================================================================
-- Scores
-- ============================================================================

/-- The weighted sum of the components. -/
def ContentionPolicyWeights.weigh (weights : ContentionPolicyWeights)
    (score : ContentionScoreComponents) : Rat :=
  weights.localHotnessWeight * score.localHotness +
    weights.remoteAccessWeight * score.remoteAccesses +
    weights.distinctRequesterWeight * score.distinctRequesters +
    weights.queueWaitWeight * score.queueWait +
    weights.remoteServiceTimeWeight * score.remoteServiceTime +
    weights.costDensityWeight * score.costDensity -
    weights.sizePenaltyWeight * score.sizePenalty

/-- What the score gains at most. -/
def ContentionPolicyWeights.gain (weights : ContentionPolicyWeights) : Rat :=
  weights.localHotnessWeight + weights.remoteAccessWeight + weights.distinctRequesterWeight +
    weights.queueWaitWeight + weights.remoteServiceTimeWeight + weights.costDensityWeight

def IsShare (value : Rat) : Prop := 0 ≤ value ∧ value ≤ 1

/-- The score is weighed from shares. -/
structure ContentionScoreComponents.Weighed (weights : ContentionPolicyWeights)
    (score : ContentionScoreComponents) : Prop where
  total : score.totalScore = weights.weigh score
  localHotness : IsShare score.localHotness
  remoteAccesses : IsShare score.remoteAccesses
  distinctRequesters : IsShare score.distinctRequesters
  queueWait : IsShare score.queueWait
  remoteServiceTime : IsShare score.remoteServiceTime
  costDensity : IsShare score.costDensity
  sizePenalty : IsShare score.sizePenalty
  costPerCacheByte : 0 ≤ score.costPerCacheByte

theorem IsShare.weighted {weight value : Rat} (h : IsShare value) (hweight : 0 ≤ weight) :
    0 ≤ weight * value ∧ weight * value ≤ weight :=
  ⟨mul_nonneg hweight h.1, mul_le_of_le_one_right hweight h.2⟩

/-- A weighed score loses no more than the size penalty and gains no more than the other
    weights together. -/
theorem ContentionScoreComponents.Weighed.bounds {weights : ContentionPolicyWeights}
    {score : ContentionScoreComponents} (h : score.Weighed weights) (hrange : weights.InRange) :
    -weights.sizePenaltyWeight ≤ score.totalScore ∧ score.totalScore ≤ weights.gain := by
  have hhot := h.localHotness.weighted hrange.localHotnessWeight
  have haccess := h.remoteAccesses.weighted hrange.remoteAccessWeight
  have hrequesters := h.distinctRequesters.weighted hrange.distinctRequesterWeight
  have hwait := h.queueWait.weighted hrange.queueWaitWeight
  have hservice := h.remoteServiceTime.weighted hrange.remoteServiceTimeWeight
  have hdensity := h.costDensity.weighted hrange.costDensityWeight
  have hsize := h.sizePenalty.weighted hrange.sizePenaltyWeight
  rw [h.total]
  unfold ContentionPolicyWeights.weigh ContentionPolicyWeights.gain
  constructor <;> linarith

theorem isShare_zero : IsShare 0 := ⟨le_refl 0, by decide⟩

theorem isShare_normalized {value maxValue : Rat} (h : 0 ≤ value) :
    IsShare (normalized value maxValue) := by
  unfold normalized
  split
  · exact isShare_zero
  · rename_i hmax
    exact ⟨le_min (div_nonneg h (not_le.mp hmax).le) (by decide), min_le_right _ _⟩

-- ============================================================================
-- Telemetry
-- ============================================================================

structure ScoringContentionStats.Nonneg (stats : ScoringContentionStats) : Prop where
  remoteAccesses : 0 ≤ stats.remoteAccesses
  distinctRequesters : 0 ≤ stats.distinctRequesters
  bytesServed : 0 ≤ stats.bytesServed
  totalQueueWait : 0 ≤ stats.totalQueueWait
  totalRemoteServiceTime : 0 ≤ stats.totalRemoteServiceTime

theorem ScoringContentionStats.Nonneg.costPerCacheByte {stats : ScoringContentionStats}
    (h : stats.Nonneg) : 0 ≤ ContentionAwarePolicy.costPerCacheByte stats := by
  unfold ContentionAwarePolicy.costPerCacheByte
  split
  · exact le_refl 0
  · simp only
    split
    · exact le_refl 0
    · rename_i hsize
      exact div_nonneg (add_nonneg h.totalQueueWait h.totalRemoteServiceTime) (not_le.mp hsize).le

/-- No figure of the snapshot is negative. -/
def NonnegSnapshot (previous : UnorderedMap ObjectId ScoringContentionStats) : Prop :=
  ∀ objectId stats, previous.lookup objectId = some stats → stats.Nonneg

theorem NonnegSnapshot.getD {previous : UnorderedMap ObjectId ScoringContentionStats}
    (h : NonnegSnapshot previous) (objectId : ObjectId) : (previous.getD objectId {}).Nonneg := by
  unfold UnorderedMap.getD
  cases hlookup : previous.lookup objectId with
  | none => constructor <;> exact le_refl 0
  | some stats => exact h objectId stats hlookup

theorem NonnegSnapshot.add {previous : UnorderedMap ObjectId ScoringContentionStats}
    (h : NonnegSnapshot previous) (row : ObjectContentionStats) {weight : Rat}
    (hweight : 0 ≤ weight) : NonnegSnapshot (addContentionSnapshot previous row weight) := by
  intro objectId stats hlookup
  unfold addContentionSnapshot at hlookup
  simp only at hlookup
  by_cases heq : objectId = row.objectId
  · rw [heq, AList.lookup_insert] at hlookup
    have hold := h.getD row.objectId
    rw [← Option.some.inj hlookup]
    have hgrow : ∀ (old : Rat) (n : Nat), 0 ≤ old → 0 ≤ old + n * weight :=
      fun old n hnonneg => add_nonneg hnonneg (mul_nonneg (Nat.cast_nonneg n) hweight)
    exact ⟨hgrow _ _ hold.remoteAccesses, hgrow _ _ hold.distinctRequesters,
      hgrow _ _ hold.bytesServed, hgrow _ _ hold.totalQueueWait,
      hgrow _ _ hold.totalRemoteServiceTime⟩
  · rw [AList.lookup_insert_ne heq] at hlookup
    exact h objectId stats hlookup

theorem nonneg_epochSnapshot {config : ContentionPolicyConfig} (hdecay : 0 ≤ config.telemetryDecay)
    (stats : Stats) (epochId : EpochId) : NonnegSnapshot (epochSnapshot config stats epochId) := by
  have hrows : ∀ (rows : List ObjectContentionStats) (weight : Rat), 0 ≤ weight →
      ∀ previous, NonnegSnapshot previous →
        NonnegSnapshot (rows.foldl (fun previous row => addContentionSnapshot previous row weight)
          previous) := by
    intro rows weight hweight
    induction rows with
    | nil => exact fun previous h => h
    | cons row rest ih => exact fun previous h => ih _ (h.add row hweight)
  have hempty : NonnegSnapshot ∅ := by
    intro objectId stats hlookup
    cases hlookup
  unfold epochSnapshot
  generalize snapshotAges config epochId = ages
  revert hempty
  generalize (∅ : UnorderedMap ObjectId ScoringContentionStats) = previous
  induction ages generalizing previous with
  | nil => exact fun h => h
  | cons age rest ih => exact fun h => ih _ (hrows _ _ (pow_nonneg hdecay age) _ h)

theorem weighed_scoreObject (config : ContentionPolicyConfig) (cacheCapacityBytes : Nat)
    {s : ContentionState} (h : NonnegSnapshot s.previousEpochStats) (objectId : ObjectId)
    (sizeBytes : Nat) :
    (scoreObject config cacheCapacityBytes s objectId sizeBytes).Weighed config.weights := by
  have hhot : IsShare (normalized (countFor s objectId) config.localHotnessThreshold) :=
    isShare_normalized (Nat.cast_nonneg _)
  have hsize : IsShare (if cacheCapacityBytes = 0 then 1
      else min ((sizeBytes : Rat) / (cacheCapacityBytes : Rat)) 1) := by
    split
    · exact ⟨by decide, le_refl 1⟩
    · exact ⟨le_min (div_nonneg (Nat.cast_nonneg _) (Nat.cast_nonneg _)) (by decide),
        min_le_right _ _⟩
  unfold scoreObject
  cases hlookup : s.previousEpochStats.lookup objectId with
  | none =>
      exact ⟨rfl, hhot, isShare_zero, isShare_zero, isShare_zero, isShare_zero, isShare_zero, hsize,
        le_refl 0⟩
  | some stats =>
      have hstats := h objectId stats hlookup
      exact ⟨rfl, hhot, isShare_normalized hstats.remoteAccesses,
        isShare_normalized hstats.distinctRequesters, isShare_normalized hstats.totalQueueWait,
        isShare_normalized hstats.totalRemoteServiceTime,
        isShare_normalized hstats.costPerCacheByte, hsize, hstats.costPerCacheByte⟩

-- ============================================================================
-- Explained records
-- ============================================================================

namespace PolicyDecisionRecord

variable (config : ContentionPolicyConfig) (record : PolicyDecisionRecord)

/-- The score and the counts of the record let the object in. -/
def Accepts : Prop :=
  config.minAdmitScore ≤ record.score.totalScore ∧
    (usesLocalConfirmation config = true →
      record.requiredLocalConfirmationCount ≤ record.recentLocalConfirmationCount ∨
        record.localConfirmationBypassed = true)

/-- The reason of the record is the one that its score and its counts call for.  Only the
    count behind the reuse gate is not in the record. -/
inductive Justified : Prop
  | placed (admitted : record.admitted = true) (reason : record.reason = "admitted")
      (accepts : record.Accepts config)
  | gated (rejected : record.admitted = false) (reason : record.reason = "policy_rejected")
      (nothing : record.evictedObjects = []) (variant : config.variant = .reuseGated)
      (cold : record.score.localHotness * config.localHotnessThreshold <
        config.localReuseGateThreshold)
  | belowMinimum (rejected : record.admitted = false)
      (reason : record.reason =
        if usesLocalConfirmation config then "below_min_score" else "policy_rejected")
      (nothing : record.evictedObjects = [])
      (low : record.score.totalScore < config.minAdmitScore)
  | pending (rejected : record.admitted = false)
      (reason : record.reason = "local_confirmation_pending")
      (nothing : record.evictedObjects = []) (confirms : usesLocalConfirmation config = true)
      (high : config.minAdmitScore ≤ record.score.totalScore)
      (unconfirmed : record.recentLocalConfirmationCount < record.requiredLocalConfirmationCount)
      (noBypass : record.localConfirmationBypassed = false)
  | tooLarge (rejected : record.admitted = false) (reason : record.reason = "object_too_large")
      (nothing : record.evictedObjects = []) (accepts : record.Accepts config)
      (whole : record.score.sizePenalty = 1)
  | noVictim (rejected : record.admitted = false) (reason : record.reason = "no_victim")
      (accepts : record.Accepts config)

/-- What the confirmation columns of the record say. -/
structure Confirmation : Prop where
  required : record.requiredLocalConfirmationCount =
    if usesLocalConfirmation config then config.localReuseGateThreshold else 0
  bypassed : record.localConfirmationBypassed = true ↔ usesLocalConfirmation config = true ∧
    record.recentLocalConfirmationCount < record.requiredLocalConfirmationCount ∧
      config.minAdmitScore + config.localConfirmationBypassScoreMargin ≤ record.score.totalScore

structure Explained : Prop where
  variant : record.policyVariant = variantLabel config
  score : record.score.Weighed config.weights
  confirmation : record.Confirmation config
  justified : record.Justified config

end PolicyDecisionRecord

namespace ContentionAwarePolicy

variable {config : ContentionPolicyConfig} {cacheCapacityBytes : Nat}

/-- The record that an attempt adds. -/
def decisionRecord (config : ContentionPolicyConfig) (cacheCapacityBytes : Nat)
    (s : ContentionState) (request : Request) (admitted : Bool) (reason : String)
    (victims : List ObjectId) : PolicyDecisionRecord :=
  let score := scoreObject config cacheCapacityBytes s request.objectId request.sizeBytes
  let confirms := usesLocalConfirmation config
  { nodeId := request.sourceNodeId
    epochId := request.epochId
    requestId := request.requestId
    objectId := request.objectId
    admitted := admitted
    reason := reason
    policyVariant := variantLabel config
    score := score
    recentLocalConfirmationCount :=
      if confirms then confirmationCountFor s request.objectId else 0
    requiredLocalConfirmationCount := if confirms then config.localReuseGateThreshold else 0
    localConfirmationBypassed := confirms &&
      (confirmationCountFor s request.objectId < config.localReuseGateThreshold &&
        score.totalScore ≥ config.minAdmitScore + config.localConfirmationBypassScoreMargin)
    evictedObjects := victims }

theorem onAdmissionResult_eq (s : ContentionState) (request : Request) (admitted : Bool)
    (reason : String) (victims : List ObjectId) :
    onAdmissionResult config cacheCapacityBytes s request admitted reason victims =
      { s with diagnostics := s.diagnostics ++
        [decisionRecord config cacheCapacityBytes s request admitted reason victims] } := by
  unfold onAdmissionResult decisionRecord
  cases usesLocalConfirmation config with
  | true => simp
  | false => simp

/-- What the policy decides, case by case. -/
theorem admissionDecision_cases (s : ContentionState) (request : Request) :
    (config.variant = .reuseGated ∧
        countFor s request.objectId < config.localReuseGateThreshold ∧
        admissionDecision config cacheCapacityBytes s request =
          { shouldAdmit := false, reason := "policy_rejected" }) ∨
      (scoreOf config cacheCapacityBytes s request.objectId request.sizeBytes <
          config.minAdmitScore ∧
        admissionDecision config cacheCapacityBytes s request =
          { shouldAdmit := false
            reason :=
              if usesLocalConfirmation config then "below_min_score" else "policy_rejected" }) ∨
      (config.minAdmitScore ≤
          scoreOf config cacheCapacityBytes s request.objectId request.sizeBytes ∧
        (usesLocalConfirmation config = true →
          config.localReuseGateThreshold ≤ confirmationCountFor s request.objectId ∨
            config.minAdmitScore + config.localConfirmationBypassScoreMargin ≤
              scoreOf config cacheCapacityBytes s request.objectId request.sizeBytes) ∧
        admissionDecision config cacheCapacityBytes s request =
          { shouldAdmit := true, reason := "admitted" }) ∨
      (config.minAdmitScore ≤
          scoreOf config cacheCapacityBytes s request.objectId request.sizeBytes ∧
        usesLocalConfirmation config = true ∧
        confirmationCountFor s request.objectId < config.localReuseGateThreshold ∧
        ¬ config.minAdmitScore + config.localConfirmationBypassScoreMargin ≤
          scoreOf config cacheCapacityBytes s request.objectId request.sizeBytes ∧
        admissionDecision config cacheCapacityBytes s request =
          { shouldAdmit := false, reason := "local_confirmation_pending" }) := by
  generalize hdecision : admissionDecision config cacheCapacityBytes s request = decision
  unfold admissionDecision at hdecision
  simp only at hdecision
  split at hdecision
  · rename_i hgate
    rw [Bool.and_eq_true, decide_eq_true_eq, decide_eq_true_eq] at hgate
    exact Or.inl ⟨hgate.1, hgate.2, hdecision.symm⟩
  · right
    split at hdecision
    · rename_i hlow
      exact Or.inl ⟨hlow, hdecision.symm⟩
    · rename_i hlow
      have hhigh := not_lt.mp hlow
      right
      split at hdecision
      · rename_i hconfirm
        exact Or.inl ⟨hhigh, fun h => absurd h hconfirm, hdecision.symm⟩
      · rename_i hconfirm
        split at hdecision
        · rename_i hcount
          exact Or.inl ⟨hhigh, fun _ => Or.inl hcount, hdecision.symm⟩
        · rename_i hcount
          split at hdecision
          · rename_i hbypass
            exact Or.inl ⟨hhigh, fun _ => Or.inr hbypass, hdecision.symm⟩
          · rename_i hbypass
            exact Or.inr ⟨hhigh, not_not.mp hconfirm, Nat.lt_of_not_le hcount, hbypass,
              hdecision.symm⟩

section Record

variable {s : ContentionState} {request : Request} {admitted : Bool} {reason : String}
  {victims : List ObjectId}

theorem confirmation_decisionRecord :
    (decisionRecord config cacheCapacityBytes s request admitted reason victims).Confirmation
      config := by
  constructor
  · rfl
  · unfold decisionRecord
    by_cases hconfirm : usesLocalConfirmation config = true
    · simp only [hconfirm, Bool.true_and, Bool.and_eq_true, decide_eq_true_eq, ge_iff_le, if_true,
        true_and]
    · simp only [hconfirm, Bool.false_and, Bool.false_eq_true, false_and]

/-- What the policy lets in, the record accepts. -/
theorem accepts_decisionRecord
    (h : (admissionDecision config cacheCapacityBytes s request).shouldAdmit = true) :
    (decisionRecord config cacheCapacityBytes s request admitted reason victims).Accepts
      config := by
  rcases @admissionDecision_cases config cacheCapacityBytes s request with
    ⟨-, -, hdecision⟩ | ⟨-, hdecision⟩ | ⟨hhigh, hconfirm, -⟩ | ⟨-, -, -, -, hdecision⟩
  · rw [hdecision] at h
    cases h
  · rw [hdecision] at h
    cases h
  · refine ⟨hhigh, fun huses => ?_⟩
    unfold decisionRecord
    simp only [huses, if_true, Bool.true_and, Bool.and_eq_true, decide_eq_true_eq]
    rcases Nat.lt_or_ge (confirmationCountFor s request.objectId) config.localReuseGateThreshold
      with hcount | hcount
    · rcases hconfirm huses with hle | hbypass
      · exact Or.inl hle
      · exact Or.inr ⟨hcount, hbypass⟩
    · exact Or.inl hcount
  · rw [hdecision] at h
    cases h

/-- An object below the reuse gate is not as hot as the gate. -/
theorem localHotness_lt_gate (hcount : countFor s request.objectId < config.localReuseGateThreshold)
    (sizeBytes : Nat) :
    (scoreObject config cacheCapacityBytes s request.objectId sizeBytes).localHotness *
      config.localHotnessThreshold < config.localReuseGateThreshold := by
  have hhot : (scoreObject config cacheCapacityBytes s request.objectId sizeBytes).localHotness =
      normalized (countFor s request.objectId) config.localHotnessThreshold := by
    unfold scoreObject
    cases s.previousEpochStats.lookup request.objectId <;> rfl
  have hlt : ((countFor s request.objectId : Nat) : Rat) < config.localReuseGateThreshold :=
    Nat.cast_lt.mpr hcount
  rw [hhot]
  unfold normalized
  split
  · rw [zero_mul]
    exact lt_of_le_of_lt (Nat.cast_nonneg _) hlt
  · rename_i hthreshold
    have hpos := not_le.mp hthreshold
    refine lt_of_le_of_lt (mul_le_mul_of_nonneg_right (min_le_left _ _) hpos.le) ?_
    rw [div_mul_cancel₀ _ hpos.ne']
    exact hlt

/-- The record of a verdict is explained. -/
theorem explained_decisionRecord {c : LocalCache (ContentionAwarePolicy config cacheCapacityBytes)}
    (hsnapshot : NonnegSnapshot (ContentionState.previousEpochStats c.policy))
    (hcapacity : c.capacityBytes = cacheCapacityBytes) {response : Response}
    (h : LocalCache.Verdict c request response admitted reason victims) :
    (decisionRecord config cacheCapacityBytes c.policy request admitted reason victims).Explained
      config := by
  refine ⟨rfl, weighed_scoreObject config cacheCapacityBytes hsnapshot _ _,
    confirmation_decisionRecord, ?_⟩
  cases h with
  | placed haccepted => exact .placed rfl rfl (accepts_decisionRecord haccepted)
  | noVictim haccepted => exact .noVictim rfl rfl (accepts_decisionRecord haccepted)
  | tooLarge haccepted hlarge =>
      refine .tooLarge rfl rfl rfl (accepts_decisionRecord haccepted) ?_
      show (if cacheCapacityBytes = 0 then 1
        else min ((request.sizeBytes : Rat) / (cacheCapacityBytes : Rat)) 1) = 1
      split
      · rfl
      · rename_i hne
        rw [hcapacity] at hlarge
        refine min_eq_right ((one_le_div (Nat.cast_pos.mpr (Nat.pos_of_ne_zero hne))).mpr ?_)
        exact Nat.cast_le.mpr hlarge.le
  | refused hrejected =>
      change (admissionDecision config cacheCapacityBytes c.policy request).shouldAdmit = false
        at hrejected
      show PolicyDecisionRecord.Justified config (decisionRecord config cacheCapacityBytes c.policy
        request false (admissionDecision config cacheCapacityBytes c.policy request).reason [])
      rcases @admissionDecision_cases config cacheCapacityBytes c.policy request with
        ⟨hvariant, hcount, hdecision⟩ | ⟨hlow, hdecision⟩ | ⟨-, -, hdecision⟩ |
          ⟨hhigh, hconfirm, hcount, hbypass, hdecision⟩
      · rw [hdecision]
        exact .gated rfl rfl rfl hvariant (localHotness_lt_gate hcount _)
      · rw [hdecision]
        exact .belowMinimum rfl rfl rfl hlow
      · rw [hdecision] at hrejected
        cases hrejected
      · rw [hdecision]
        refine .pending rfl rfl rfl hconfirm hhigh ?_ ?_
        · unfold decisionRecord
          simp only [hconfirm, if_true]
          exact hcount
        · unfold decisionRecord
          simp only [hconfirm, Bool.true_and, Bool.and_eq_false_iff, decide_eq_false_iff_not]
          exact Or.inr hbypass

end Record

-- ============================================================================
-- The records of a cache
-- ============================================================================

theorem nonneg_onEpochStart (hdecay : 0 ≤ config.telemetryDecay) {s : ContentionState}
    (h : NonnegSnapshot s.previousEpochStats) (stats : Stats) (epochId : EpochId) :
    NonnegSnapshot (onEpochStart config stats s epochId).previousEpochStats := by
  unfold onEpochStart
  split
  · exact h
  · exact nonneg_epochSnapshot hdecay stats epochId

theorem nonneg_onLookup (hdecay : 0 ≤ config.telemetryDecay) {s : ContentionState}
    (h : NonnegSnapshot s.previousEpochStats) (stats : Stats) (request : Request) :
    NonnegSnapshot (onLookup config stats s request).previousEpochStats := by
  have hstart : NonnegSnapshot (if s.currentEpoch ≠ some request.epochId then
      onEpochStart config stats s request.epochId else s).previousEpochStats := by
    split
    · exact nonneg_onEpochStart hdecay h stats request.epochId
    · exact h
  unfold onLookup
  cases usesLocalConfirmation config <;> exact hstart

end ContentionAwarePolicy

/-- What a decision record says about its attempt. -/
def PolicyDecisionRecord.attempt (record : PolicyDecisionRecord) : LocalCache.AttemptRow where
  nodeId := record.nodeId
  epochId := record.epochId
  requestId := record.requestId
  objectId := record.objectId
  admitted := record.admitted
  reason := record.reason
  evictedObjects := record.evictedObjects

namespace LocalCache

variable {P : CachePolicy} {A : Arith} {config : ContentionPolicyConfig} {cacheCapacityBytes : Nat}

/-- The recordings of the attempts, without those of installed replicas. -/
def attempts (c : LocalCache P) : List AttemptRow :=
  (c.recordings.filter (fun row => row.2 = "remote_response")).map Prod.fst

theorem attempts_append_attempt {c c' : LocalCache P} {row : AttemptRow}
    (h : c'.recordings = c.recordings ++ [(row, "remote_response")]) :
    c'.attempts = c.attempts ++ [row] := by
  unfold attempts
  rw [h, List.filter_append, List.map_append]
  rfl

theorem attempts_append_replicas {c c' : LocalCache P} {nodeId : NodeId} {epochId : EpochId}
    {objects : List ObjectId}
    (h : c'.recordings = c.recordings ++ objects.map (replicaRow nodeId epochId)) :
    c'.attempts = c.attempts := by
  have hnone : (objects.map (replicaRow nodeId epochId)).filter
      (fun row => row.2 = "remote_response") = [] := by
    rw [List.filter_eq_nil_iff, List.forall_mem_map]
    exact fun objectId _ => Bool.false_ne_true
  unfold attempts
  rw [h, List.filter_append, hnone, List.append_nil]

/-- The decision records of the policy. -/
def decisions (c : LocalCache P) : List PolicyDecisionRecord := P.diagnostics c.policy

/-- The lifecycle records and the decision records tell of the same attempts, in order. -/
def SameAttempts (c : LocalCache P) : Prop :=
  c.attempts = c.decisions.map PolicyDecisionRecord.attempt

theorem SameAttempts.init (capacityBytes : Nat) :
    @SameAttempts (ContentionAwarePolicy config cacheCapacityBytes)
      { capacityBytes := capacityBytes } := rfl

/-- The decision records of a contention-aware cache are explained. -/
structure Explained (c : LocalCache (ContentionAwarePolicy config cacheCapacityBytes)) :
    Prop where
  capacity : c.capacityBytes = cacheCapacityBytes
  snapshot : NonnegSnapshot (ContentionState.previousEpochStats c.policy)
  records : ∀ record ∈ c.decisions, record.Explained config

theorem Explained.init :
    @Explained config cacheCapacityBytes { capacityBytes := cacheCapacityBytes } where
  capacity := rfl
  snapshot := fun _ _ h => nomatch h
  records := fun _ h => absurd h List.not_mem_nil

variable {c : LocalCache (ContentionAwarePolicy config cacheCapacityBytes)}

/-- Only an attempt adds a decision record. -/
theorem decisions_applyOp (op : CacheOp) :
    ((applyOp A c op).decisions = c.decisions ∧
        (applyOp A c op).attempts = c.attempts) ∨
      ∃ request response admitted reason victims,
        Verdict c request response admitted reason victims ∧
          (applyOp A c op).decisions = c.decisions ++
            [decisionRecord config cacheCapacityBytes c.policy request admitted reason victims] ∧
          (applyOp A c op).attempts = c.attempts ++
            [attemptRow request admitted reason victims] := by
  have hattempts : (applyOp A c op).recordings = c.recordings →
      (applyOp A c op).attempts = c.attempts := by
    intro hsame
    unfold attempts
    rw [hsame]
  rcases recorded_applyOp (A := A) (ContentionAwarePolicy.choosesResidents _ _) c op with
    ⟨stats, request, time, hit, hpolicy, hsame⟩ | ⟨stats, epochId, hpolicy, hsame⟩ |
      ⟨request, response, time, admitted, reason, victims, hverdict, hpolicy, hadded⟩ |
        ⟨nodeId, epochId, objects, hpolicy, hadded⟩
  · refine Or.inl ⟨?_, hattempts hsame⟩
    unfold decisions
    rw [hpolicy]
    exact onLookup_diagnostics config stats c.policy request
  · refine Or.inl ⟨?_, hattempts hsame⟩
    unfold decisions
    rw [hpolicy]
    exact onEpochStart_diagnostics config stats c.policy epochId
  · refine Or.inr ⟨request, response, admitted, reason, victims, hverdict, ?_,
      attempts_append_attempt hadded⟩
    have hresult := hpolicy.trans
      (@onAdmissionResult_eq config cacheCapacityBytes c.policy request admitted reason victims)
    exact congrArg ContentionState.diagnostics hresult
  · refine Or.inl ⟨?_, attempts_append_replicas hadded⟩
    unfold decisions
    rw [hpolicy]

theorem SameAttempts.applyOp (h : c.SameAttempts) (op : CacheOp) :
    (applyOp A c op).SameAttempts := by
  unfold SameAttempts at h ⊢
  rcases decisions_applyOp (A := A) op with ⟨hdecisions, hattempts⟩ |
    ⟨request, response, admitted, reason, victims, -, hdecisions, hattempts⟩
  · rw [hdecisions, hattempts, h]
  · rw [hdecisions, hattempts, h, List.map_append]
    rfl

theorem nonneg_applyOp (hdecay : 0 ≤ config.telemetryDecay)
    (h : NonnegSnapshot (ContentionState.previousEpochStats c.policy)) (op : CacheOp) :
    NonnegSnapshot (ContentionState.previousEpochStats (applyOp A c op).policy) := by
  rcases recorded_applyOp (A := A) (ContentionAwarePolicy.choosesResidents _ _) c op with
    ⟨stats, request, _, _, hpolicy, -⟩ | ⟨stats, epochId, hpolicy, -⟩ |
      ⟨_, _, _, _, _, _, -, hpolicy, -⟩ | ⟨_, _, _, hpolicy, -⟩
  · rw [hpolicy]
    exact nonneg_onLookup hdecay h stats request
  · rw [hpolicy]
    exact nonneg_onEpochStart hdecay h stats epochId
  · rw [hpolicy]
    exact h
  · rw [hpolicy]
    exact h

theorem Explained.applyOp (hdecay : 0 ≤ config.telemetryDecay) (h : c.Explained) (op : CacheOp) :
    (applyOp A c op).Explained := by
  refine ⟨(applyOp_capacityBytes c op).trans h.capacity, nonneg_applyOp hdecay h.snapshot op, ?_⟩
  rcases decisions_applyOp (A := A) op with ⟨hdecisions, -⟩ |
    ⟨request, response, admitted, reason, victims, hverdict, hdecisions, -⟩
  · rw [hdecisions]
    exact h.records
  · rw [hdecisions, List.forall_mem_append, List.forall_mem_singleton]
    exact ⟨h.records, explained_decisionRecord h.snapshot h.capacity hverdict⟩

end LocalCache

end DmSimulator
