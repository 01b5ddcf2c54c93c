/-
  DmSimulator.Cache.ContentionPolicy

  `ContentionAwarePolicy` (`cache/contention_policy.cpp`).  The telemetry
  snapshot `previousEpochStats` and its normalization maxima are taken from the
  statistics at the first event of an epoch; scores are exact rationals.
-/
import DmSimulator.Cache.HotnessPolicy
import Mathlib.Algebra.Order.Field.Rat
import Mathlib.Data.Rat.Cast.Order

namespace DmSimulator

structure NormalizationMaxima where
  remoteAccesses : Rat := 0
  distinctRequesters : Rat := 0
  totalQueueWait : Rat := 0
  totalRemoteServiceTime : Rat := 0
  costDensity : Rat := 0
deriving DecidableEq

structure ScoringContentionStats where
  remoteAccesses : Rat := 0
  distinctRequesters : Rat := 0
  bytesServed : Rat := 0
  totalQueueWait : Rat := 0
  totalRemoteServiceTime : Rat := 0
deriving DecidableEq

/-- `localConfirmationByEpoch` is an ordered map: its list is sorted by epoch. -/
structure ContentionState where
  currentEpoch : Option EpochId := none
  localAccessCounts : UnorderedMap ObjectId Nat := ∅
  localConfirmationByEpoch : List (EpochId × UnorderedMap ObjectId Nat) := []
  localConfirmationCounts : UnorderedMap ObjectId Nat := ∅
  previousEpochStats : UnorderedMap ObjectId ScoringContentionStats := ∅
  maxima : NormalizationMaxima := {}
  diagnostics : List PolicyDecisionRecord := []

namespace ContentionAwarePolicy

variable (A : Arith) (config : ContentionPolicyConfig) (cacheCapacityBytes : Nat)

def usesSmoothedTelemetry : Bool :=
  config.variant = .smoothed || config.variant = .smoothedReuseGated

def usesLocalConfirmation : Bool := config.variant = .smoothedReuseGated

def usesHysteresis : Bool :=
  config.variant = .hysteresis ||
    (config.variant = .smoothedReuseGated && config.evictionScoreMargin > 0)

def variantLabel : String :=
  match config.variant with
  | .v1 => "v1"
  | .smoothed => "smoothed"
  | .reuseGated => "reuse_gated"
  | .hysteresis => "hysteresis"
  | .smoothedReuseGated => "smoothed_reuse_gated"

-- ============================================================================
-- Epoch snapshots
-- ============================================================================

def costPerCacheByte (stats : ScoringContentionStats) : Rat :=
  if stats.remoteAccesses ≤ 0 || stats.bytesServed ≤ 0 then 0
  else
    let estimatedSizeBytes := stats.bytesServed / stats.remoteAccesses
    if estimatedSizeBytes ≤ 0 then 0
    else (stats.totalQueueWait + stats.totalRemoteServiceTime) / estimatedSizeBytes

def addContentionSnapshot (previous : UnorderedMap ObjectId ScoringContentionStats)
    (objectStats : ObjectContentionStats) (weight : Rat) :
    UnorderedMap ObjectId ScoringContentionStats :=
  let aggregate := previous.getD objectStats.objectId {}
  previous.insert objectStats.objectId
    { remoteAccesses := aggregate.remoteAccesses + objectStats.remoteAccesses * weight
      distinctRequesters :=
        aggregate.distinctRequesters + objectStats.distinctRequesters * weight
      bytesServed := aggregate.bytesServed + objectStats.bytesServed * weight
      totalQueueWait := aggregate.totalQueueWait + objectStats.totalQueueWait * weight
      totalRemoteServiceTime :=
        aggregate.totalRemoteServiceTime + objectStats.totalRemoteServiceTime * weight }

def refreshNormalizationMaxima (previous : UnorderedMap ObjectId ScoringContentionStats)
    (maxima : NormalizationMaxima) : NormalizationMaxima :=
  previous.values.foldl
    (fun maxima stats =>
      { remoteAccesses := max maxima.remoteAccesses stats.remoteAccesses
        distinctRequesters := max maxima.distinctRequesters stats.distinctRequesters
        totalQueueWait := max maxima.totalQueueWait stats.totalQueueWait
        totalRemoteServiceTime :=
          max maxima.totalRemoteServiceTime stats.totalRemoteServiceTime
        costDensity := max maxima.costDensity (costPerCacheByte stats) })
    maxima

/-- The number of past epochs the snapshot looks back on. -/
def historyEpochs : Nat :=
  if usesSmoothedTelemetry config then config.telemetryHistoryEpochs else 1

/-- The ages the snapshot loop visits: it breaks off at the first age that
    reaches back before epoch zero. -/
def snapshotAges (epochId : EpochId) : List Nat :=
  List.range (min (historyEpochs config) epochId)

/-- The telemetry snapshot taken at the start of an epoch. -/
def epochSnapshot (stats : Stats) (epochId : EpochId) :
    UnorderedMap ObjectId ScoringContentionStats :=
  (snapshotAges config epochId).foldl
    (fun previous age =>
      (stats.contentionByEpoch (epochId - age - 1)).foldl
        (fun previous objectStats =>
          addContentionSnapshot previous objectStats (config.telemetryDecay ^ age))
        previous)
    ∅

/-- The loop of `prune_local_confirmation` over the epoch buckets, oldest first. -/
def pruneBuckets (firstRetainedEpoch : EpochId) :
    List (EpochId × UnorderedMap ObjectId Nat) → UnorderedMap ObjectId Nat →
      List (EpochId × UnorderedMap ObjectId Nat) × UnorderedMap ObjectId Nat
  | [], counts => ([], counts)
  | (epoch, bucket) :: rest, counts =>
      if epoch < firstRetainedEpoch then
        pruneBuckets firstRetainedEpoch rest (subtractCounts counts bucket)
      else ((epoch, bucket) :: rest, counts)

def pruneLocalConfirmation (s : ContentionState) (epochId : EpochId) : ContentionState :=
  let window := max config.localConfirmationWindowEpochs 1
  let firstRetainedEpoch := if epochId ≥ window - 1 then epochId - (window - 1) else 0
  let pruned :=
    pruneBuckets firstRetainedEpoch s.localConfirmationByEpoch s.localConfirmationCounts
  { s with localConfirmationByEpoch := pruned.1, localConfirmationCounts := pruned.2 }

def onEpochStart (stats : Stats) (s : ContentionState) (epochId : EpochId) :
    ContentionState :=
  if s.currentEpoch = some epochId then s
  else
    let s := { s with currentEpoch := some epochId }
    let s := if config.resetOnEpochChange then { s with localAccessCounts := ∅ } else s
    let s := if usesLocalConfirmation config then pruneLocalConfirmation config s epochId else s
    let previous := epochSnapshot config stats epochId
    { s with
      previousEpochStats := previous
      maxima := refreshNormalizationMaxima previous {} }

/-- `++buckets[epoch][key]` on the ordered map. -/
def bumpBucket (epochId : EpochId) (key : ObjectId) :
    List (EpochId × UnorderedMap ObjectId Nat) → List (EpochId × UnorderedMap ObjectId Nat)
  | [] => [(epochId, bumpCount ∅ key)]
  | (epoch, bucket) :: rest =>
      if epochId < epoch then (epochId, bumpCount ∅ key) :: (epoch, bucket) :: rest
      else if epochId = epoch then (epoch, bumpCount bucket key) :: rest
      else (epoch, bucket) :: bumpBucket epochId key rest

def onLookup (stats : Stats) (s : ContentionState) (request : Request) : ContentionState :=
  let s :=
    if s.currentEpoch ≠ some request.epochId then onEpochStart config stats s request.epochId
    else s
  let s := { s with localAccessCounts := bumpCount s.localAccessCounts request.objectId }
  if usesLocalConfirmation config then
    { s with
      localConfirmationByEpoch :=
        bumpBucket request.epochId request.objectId s.localConfirmationByEpoch
      localConfirmationCounts := bumpCount s.localConfirmationCounts request.objectId }
  else s

theorem onEpochStart_diagnostics (stats : Stats) (s : ContentionState) (epochId : EpochId) :
    (onEpochStart config stats s epochId).diagnostics = s.diagnostics := by
  unfold onEpochStart pruneLocalConfirmation
  split
  · rfl
  · by_cases hreset : config.resetOnEpochChange = true <;>
      by_cases hconfirm : usesLocalConfirmation config = true <;>
      simp only [hreset, hconfirm] <;> rfl

theorem onLookup_diagnostics (stats : Stats) (s : ContentionState) (request : Request) :
    (onLookup config stats s request).diagnostics = s.diagnostics := by
  have hstart : (if s.currentEpoch ≠ some request.epochId then
      onEpochStart config stats s request.epochId else s).diagnostics = s.diagnostics := by
    split
    · exact onEpochStart_diagnostics config stats s request.epochId
    · rfl
  rw [← hstart]
  unfold onLookup
  by_cases hconfirm : usesLocalConfirmation config = true <;> simp only [hconfirm] <;> rfl

-- ============================================================================
-- Scores and decisions
-- ============================================================================

def countFor (s : ContentionState) (objectId : ObjectId) : Nat :=
  countOf s.localAccessCounts objectId

def confirmationCountFor (s : ContentionState) (objectId : ObjectId) : Nat :=
  countOf s.localConfirmationCounts objectId

def normalized (value maxValue : Rat) : Rat :=
  if maxValue ≤ 0 then 0 else min (value / maxValue) 1

def scoreObject (s : ContentionState) (objectId : ObjectId) (sizeBytes : Nat) :
    ContentionScoreComponents :=
  let score : ContentionScoreComponents :=
    { localHotness := normalized (countFor s objectId) config.localHotnessThreshold }
  let score :=
    match s.previousEpochStats.lookup objectId with
    | none => score
    | some previous =>
        { score with
          remoteAccesses := normalized previous.remoteAccesses s.maxima.remoteAccesses
          distinctRequesters :=
            normalized previous.distinctRequesters s.maxima.distinctRequesters
          queueWait := normalized previous.totalQueueWait s.maxima.totalQueueWait
          remoteServiceTime :=
            normalized previous.totalRemoteServiceTime s.maxima.totalRemoteServiceTime
          costPerCacheByte := costPerCacheByte previous
          costDensity := normalized (costPerCacheByte previous) s.maxima.costDensity }
  let sizePenalty : Rat :=
    if cacheCapacityBytes = 0 then 1
    else min ((sizeBytes : Rat) / (cacheCapacityBytes : Rat)) 1
  { score with
    sizePenalty := sizePenalty
    totalScore :=
      config.weights.localHotnessWeight * score.localHotness +
      config.weights.remoteAccessWeight * score.remoteAccesses +
      config.weights.distinctRequesterWeight * score.distinctRequesters +
      config.weights.queueWaitWeight * score.queueWait +
      config.weights.remoteServiceTimeWeight * score.remoteServiceTime +
      config.weights.costDensityWeight * score.costDensity -
      config.weights.sizePenaltyWeight * sizePenalty }

/-- The total score of a resident or incoming object. -/
def scoreOf (s : ContentionState) (objectId : ObjectId) (sizeBytes : Nat) : Rat :=
  (scoreObject config cacheCapacityBytes s objectId sizeBytes).totalScore

def admissionDecision (s : ContentionState) (request : Request) : AdmissionDecision :=
  if config.variant = .reuseGated &&
      countFor s request.objectId < config.localReuseGateThreshold then
    { shouldAdmit := false, reason := "policy_rejected" }
  else
    let totalScore := scoreOf config cacheCapacityBytes s request.objectId request.sizeBytes
    if totalScore < config.minAdmitScore then
      { shouldAdmit := false
        reason := if usesLocalConfirmation config then "below_min_score" else "policy_rejected" }
    else if ¬ usesLocalConfirmation config then
      { shouldAdmit := true, reason := "admitted" }
    else if confirmationCountFor s request.objectId ≥ config.localReuseGateThreshold then
      { shouldAdmit := true, reason := "admitted" }
    else if totalScore ≥
        config.minAdmitScore + config.localConfirmationBypassScoreMargin then
      { shouldAdmit := true, reason := "admitted" }
    else
      { shouldAdmit := false, reason := "local_confirmation_pending" }

/-- The scan of `ContentionAwarePolicy::select_victim` moves from `victim` to `entry`. -/
def weaker (s : ContentionState) (entry victim : CacheEntry) : Bool :=
  let candidateScore := scoreOf config cacheCapacityBytes s entry.objectId entry.sizeBytes
  let victimScore := scoreOf config cacheCapacityBytes s victim.objectId victim.sizeBytes
  if candidateScore < victimScore then true
  else if candidateScore = victimScore &&
      entry.lastAccessTime < victim.lastAccessTime then true
  else candidateScore = victimScore &&
      entry.lastAccessTime = victim.lastAccessTime && entry.objectId < victim.objectId

/-- The margin by which the incoming object has to beat the victim. -/
def requiredMargin : Rat := if usesHysteresis config then config.evictionScoreMargin else 0

def selectVictim (s : ContentionState) (entries : Residents) (incomingRequest : Request) :
    Option ObjectId :=
  match scanEntries (weaker config cacheCapacityBytes s) entries with
  | none => none
  | some victim =>
      if scoreOf config cacheCapacityBytes s incomingRequest.objectId
            incomingRequest.sizeBytes ≤
          scoreOf config cacheCapacityBytes s victim.objectId victim.sizeBytes +
            requiredMargin config then
        none
      else some victim.objectId

def onAdmissionResult (s : ContentionState) (request : Request) (admitted : Bool)
    (reason : String) (evictedObjects : List ObjectId) : ContentionState :=
  let score := scoreObject config cacheCapacityBytes s request.objectId request.sizeBytes
  let record : PolicyDecisionRecord :=
    { nodeId := request.sourceNodeId
      epochId := request.epochId
      requestId := request.requestId
      objectId := request.objectId
      admitted := admitted
      reason := reason
      policyVariant := variantLabel config
      score := score }
  let record :=
    if usesLocalConfirmation config then
      { record with
        recentLocalConfirmationCount := confirmationCountFor s request.objectId
        requiredLocalConfirmationCount := config.localReuseGateThreshold
        localConfirmationBypassed :=
          confirmationCountFor s request.objectId < config.localReuseGateThreshold &&
            score.totalScore ≥
              config.minAdmitScore + config.localConfirmationBypassScoreMargin }
    else record
  { s with diagnostics := s.diagnostics ++ [{ record with evictedObjects := evictedObjects }] }

end ContentionAwarePolicy

def ContentionAwarePolicy (config : ContentionPolicyConfig) (cacheCapacityBytes : Nat) :
    CachePolicy where
  State := ContentionState
  init := {}
  onLookup stats s request _ _ := ContentionAwarePolicy.onLookup config stats s request
  onEpochStart stats s epochId := ContentionAwarePolicy.onEpochStart config stats s epochId
  onAccess _ entry accessTime := entry.touch accessTime
  shouldAdmit s request _ :=
    (ContentionAwarePolicy.admissionDecision config cacheCapacityBytes s request).shouldAdmit
  admissionDecision s request _ :=
    ContentionAwarePolicy.admissionDecision config cacheCapacityBytes s request
  selectVictim := ContentionAwarePolicy.selectVictim config cacheCapacityBytes
  onAdmissionResult s request _ _ admitted reason evictedObjects :=
    ContentionAwarePolicy.onAdmissionResult config cacheCapacityBytes s request admitted reason
      evictedObjects
  diagnostics s := s.diagnostics
  onAccess_objectId _ := CacheEntry.touch_objectId
  onAccess_sizeBytes _ := CacheEntry.touch_sizeBytes

end DmSimulator
