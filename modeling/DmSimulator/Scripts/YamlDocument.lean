/-
  DmSimulator.Scripts.YamlDocument

  The configuration file of a run is a block document, and what it says: the
  `ExperimentConfig` that the run stands for, with its floats as the file writes them.
-/
import DmSimulator.Scripts.SweepLists
import DmSimulator.Scripts.YamlConfig
import DmSimulator.Sim.DocumentedYaml

namespace DmSimulator

open Decimal Yaml

-- ============================================================================
-- What a run stands for
-- ============================================================================

/-- The weights by the names of their fields. -/
def ContentionPolicyWeights.entries (weights : ContentionPolicyWeights) : Weights :=
  [("local_hotness_weight", weights.localHotnessWeight),
    ("remote_access_weight", weights.remoteAccessWeight),
    ("distinct_requester_weight", weights.distinctRequesterWeight),
    ("queue_wait_weight", weights.queueWaitWeight),
    ("remote_service_time_weight", weights.remoteServiceTimeWeight),
    ("size_penalty_weight", weights.sizePenaltyWeight),
    ("cost_density_weight", weights.costDensityWeight)]

/-- The weights of a profile: the defaults, but for one. -/
def ContentionWeightProfile.weights (profile : ContentionWeightProfile) :
    ContentionPolicyWeights :=
  let weights : ContentionPolicyWeights := {}
  match profile.weightValue with
  | none => weights
  | some value =>
      match profile.weightName with
      | "local_hotness_weight" => { weights with localHotnessWeight := value }
      | "remote_access_weight" => { weights with remoteAccessWeight := value }
      | "distinct_requester_weight" => { weights with distinctRequesterWeight := value }
      | "queue_wait_weight" => { weights with queueWaitWeight := value }
      | "remote_service_time_weight" => { weights with remoteServiceTimeWeight := value }
      | "size_penalty_weight" => { weights with sizePenaltyWeight := value }
      | "cost_density_weight" => { weights with costDensityWeight := value }
      | _ => weights

def policyTypeOf : String → LocalCachePolicyType
  | "always_remote" => .alwaysRemote
  | "lru" => .lru
  | "hotness_only" | "hotness_only_cumulative" | "hotness_only_windowed" => .hotnessOnly
  | "global_hottest_replication" => .globalHottestReplication
  | _ => .contentionAware

def hotnessConfigOf : String → HotnessPolicyConfig
  | "hotness_only_cumulative" => { minAdmitCount := 2, historyMode := .cumulative }
  | "hotness_only_windowed" =>
      { minAdmitCount := 2, historyMode := .windowed, historyWindowEpochs := 4 }
  | _ => { minAdmitCount := 2, historyMode := .epoch }

def contentionConfigOf (policy : String) (profile : ContentionWeightProfile) :
    ContentionPolicyConfig :=
  let base : ContentionPolicyConfig :=
    { weights := profile.weights, resetOnEpochChange := false }
  let composite : ContentionPolicyConfig :=
    { base with
      variant := .smoothedReuseGated
      telemetryHistoryEpochs := 4
      telemetryDecay := 1 / 2
      localReuseGateThreshold := 2
      localConfirmationWindowEpochs := 2
      localConfirmationBypassScoreMargin := 1 }
  match policy with
  | "contention_aware" | "contention_aware_v1" => base
  | "contention_aware_smoothed" =>
      { base with variant := .smoothed, telemetryHistoryEpochs := 4, telemetryDecay := 1 / 4 }
  | "contention_aware_size_value" =>
      { base with
        variant := .smoothed
        telemetryHistoryEpochs := 4
        telemetryDecay := 1 / 4
        weights := { profile.weights with costDensityWeight := 1 } }
  | "contention_aware_reuse_gated" =>
      { base with variant := .reuseGated, localReuseGateThreshold := 2 }
  | "contention_aware_hysteresis" =>
      { base with variant := .hysteresis, evictionScoreMargin := 1 / 4 }
  | "contention_aware_smoothed_reuse_gated" => composite
  | "contention_aware_smoothed_reuse_gated_hysteresis" =>
      { composite with evictionScoreMargin := 1 / 10 }
  | _ => {}

def overlapOf : String → CrossNodeOverlap
  | "low" => .low
  | "medium" => .medium
  | _ => .high

def objectSizeModeOf (mode : String) : ObjectSizeMode :=
  if mode = "bimodal" then .bimodal else .fixed

def issueModeNamed (mode : String) : WorkloadIssueMode :=
  if mode = "scheduled_bursty" then .scheduledBursty else .completionDriven

def levelOf (levels : List (String × Nat)) (level : String) : Nat := (levels.lookup level).getD 0

/-- A float as the `g` format keeps it. -/
abbrev written (value : Rat) : Rat := rounded 5 value

def MatrixRun.workload (run : MatrixRun) (system : PresetSystem) : SyntheticWorkloadConfig :=
  { seed := run.seed.toNat
    computeNodeIds := system.computeNodeIds.take run.computeNodeCount
    objectCount := run.objectCount
    memoryChannelCount := run.memoryChannelCount
    objectSizeBytes := system.objectSizeBytes
    hotSetChurnFraction := written run.hotSetChurnFraction
    hotObjectChannelCount := run.hotObjectChannelCount
    objectSizeMode := objectSizeModeOf run.objectSizeMode
    objectSizeSmallBytes := system.objectSizeSmallBytes
    objectSizeLargeBytes := system.objectSizeLargeBytes
    largeObjectProbability := written run.largeObjectProbability
    issueMode := issueModeNamed run.workloadIssueMode
    burstSize := run.burstSize
    burstInterval := run.burstInterval
    intraBurstGap := run.intraBurstGap
    nodePhaseJitter := run.nodePhaseJitter
    requestsPerNodePerEpoch := run.requestsPerNodePerEpoch
    epochCount := run.epochCount
    hotSetSize := run.hotSetSize
    hotAccessProbability := written run.hotAccessProbability
    hotSetMode := run.preset.hotSetMode
    crossNodeOverlap := overlapOf run.crossNodeOverlap }

def MatrixRun.localCache (run : MatrixRun) (system : PresetSystem) : LocalCacheConfig :=
  { capacityBytes := cacheCapacityBytes system run
    hitLatency := system.cacheHitLatency
    policyType := policyTypeOf run.policy
    hotness := hotnessConfigOf run.policy
    contention := contentionConfigOf run.policy run.contentionWeightProfile }

def MatrixRun.experiment (run : MatrixRun) (system : PresetSystem) : ExperimentConfig :=
  { name := run.runName
    outputDir := pathText run.outputDir
    simulation :=
      { memoryNodeId := system.memoryNodeId
        oneWayLinkLatency := levelOf LINK_LATENCY_BY_LEVEL run.linkLatencyLevel
        memoryBaseLatency := levelOf MEMORY_BASE_LATENCY_BY_LEVEL run.memoryBaseLatencyLevel
        memoryBandwidthBytesPerTime :=
          levelOf MEMORY_BANDWIDTH_BYTES_PER_TIME_BY_LEVEL run.memoryBandwidthLevel
        localCache := run.localCache system
        syntheticWorkload := some (run.workload system)
        memoryChannelCount := run.memoryChannelCount } }

-- ============================================================================
-- Values that are written
-- ============================================================================

/-- A run whose figures the simulator's machine integers hold. -/
structure MatrixRun.Fits (run : MatrixRun) (system : PresetSystem) : Prop where
  seed_nonneg : 0 ≤ run.seed
  seed : run.seed < 2 ^ 64
  objectCount : run.objectCount < 2 ^ 64
  epochCount : run.epochCount < 2 ^ 64
  requestsPerNodePerEpoch : run.requestsPerNodePerEpoch < 2 ^ 64
  burstSize : run.burstSize < 2 ^ 64
  burstInterval : run.burstInterval < 2 ^ 64
  intraBurstGap : run.intraBurstGap < 2 ^ 64
  nodePhaseJitter : run.nodePhaseJitter < 2 ^ 64
  hotSetSize : run.hotSetSize < 2 ^ 64
  memoryChannelCount : run.memoryChannelCount < 2 ^ 64
  cacheCapacityBytes : cacheCapacityBytes system run < 2 ^ 64

theorem digit_isPlain {text : List Char} (hhead : text.head?.any Char.isDigit = true)
    (hchars : ∀ c ∈ text, isPlainChar c = true) : IsPlain text := by
  obtain ⟨c, rest, rfl⟩ : ∃ c rest, text = c :: rest := by
    cases text with
    | nil => exact absurd hhead (by decide)
    | cons c rest => exact ⟨c, rest, rfl⟩
  have hc : c.isDigit = true := hhead
  refine ⟨⟨c, rest, rfl, ?_⟩, hchars, ?_⟩
  · rw [Char.isAlphanum, hc, Bool.or_true]
  · intro hnull
    have hword : ∀ word ∈ nullWords, word.head?.any Char.isDigit = false := by decide
    rw [hword _ hnull] at hhead
    exact absurd hhead (by decide)

theorem isPlainChar_of_isDigit {c : Char} (h : c.isDigit = true) : isPlainChar c = true := by
  rw [isPlainChar, Char.isAlphanum, h, Bool.or_true, Bool.true_or]

theorem isPlain_toString (n : Nat) : IsPlain (toString n).toList := by
  have hdigits : (toString n).toList = Nat.toDigits 10 n := Nat.toList_repr
  rw [hdigits]
  refine digit_isPlain ?_ (fun c hc => isPlainChar_of_isDigit (isDigit_toDigits n c hc))
  obtain ⟨c, rest, hcons⟩ := List.exists_cons_of_ne_nil (toDigits_ne_nil n)
  have hc := isDigit_toDigits n c (by rw [hcons]; exact List.mem_cons_self)
  rw [hcons]
  exact hc

theorem isPlain_generalText {value : Rat} (h : 0 ≤ value) : IsPlain (generalText value).toList := by
  have htext : (generalText value).toList = (significant 5 value).text := by
    rw [generalText, String.toList_ofList, formatGeneral, if_neg (not_lt.mpr h)]
  rw [htext]
  refine digit_isPlain (head?_text _) (fun c hc => ?_)
  rcases Significant.mem_text hc with hdigit | hother
  · exact isPlainChar_of_isDigit hdigit
  · have hplain : ['.', 'e', '-', '+'].all isPlainChar = true := by decide
    exact List.all_eq_true.mp hplain c hother

-- ============================================================================
-- Weights
-- ============================================================================

/-- The weights that the configuration of the run lists. -/
def MatrixRun.writtenWeights (run : MatrixRun) : ContentionPolicyWeights :=
  if run.policy = "contention_aware_size_value" then
    { run.contentionWeightProfile.weights with costDensityWeight := 1 }
  else run.contentionWeightProfile.weights

def weightItems (weights : ContentionPolicyWeights) : List Item :=
  weights.entries.map (fun weight => field weight.1 (generalText weight.2))

theorem mapM_weightItem (weights : ContentionPolicyWeights) :
    (DEFAULT_CONTENTION_WEIGHTS.map Prod.fst).mapM (weightItem weights.entries) =
      .ok (weightItems weights) := rfl

/-- The weights of a profile are the dictionary that the script makes of it, and the
    `g` format keeps them. -/
theorem contentionWeightsForProfile_eq :
    ∀ profile ∈ NO_CONTENTION_WEIGHT_PROFILE :: CONTENTION_WEIGHT_PROFILES,
      contentionWeightsForProfile profile = .ok profile.weights.entries ∧
        ∀ weight ∈ profile.weights.entries,
          written weight.2 = weight.2 ∧ 0 ≤ weight.2 ∧ weight.2 ≤ 4 := by
  decide +kernel

theorem mem_profiles {preset : MatrixPreset} {policy : String} {profile : ContentionWeightProfile}
    (h : profile ∈ contentionWeightProfilesForPolicy preset policy) :
    profile ∈ NO_CONTENTION_WEIGHT_PROFILE :: CONTENTION_WEIGHT_PROFILES := by
  unfold contentionWeightProfilesForPolicy at h
  have hone : ∀ {other}, other ∈ [NO_CONTENTION_WEIGHT_PROFILE] →
      other ∈ NO_CONTENTION_WEIGHT_PROFILE :: CONTENTION_WEIGHT_PROFILES := by
    intro other hother
    rw [List.mem_singleton.mp hother]
    exact List.mem_cons_self
  split at h
  next =>
      split at h
      next => exact List.mem_cons_of_mem _ h
      next => exact hone h
  next => exact hone h

theorem weightsForRun_eq {run : MatrixRun}
    (h : run.contentionWeightProfile ∈ contentionWeightProfilesForPolicy run.preset run.policy) :
    weightsForRun run = .ok run.writtenWeights.entries := by
  have hprofile := (contentionWeightsForProfile_eq _ (mem_profiles h)).1
  simp only [weightsForRun, hprofile, bind, Except.bind, MatrixRun.writtenWeights]
  split
  next => rfl
  next => rfl

theorem written_one : written 1 = 1 := by decide +kernel

theorem writtenWeights_kept {run : MatrixRun}
    (h : run.contentionWeightProfile ∈ contentionWeightProfilesForPolicy run.preset run.policy) :
    ∀ weight ∈ run.writtenWeights.entries,
      written weight.2 = weight.2 ∧ 0 ≤ weight.2 ∧ weight.2 ≤ 4 := by
  have hprofile := (contentionWeightsForProfile_eq _ (mem_profiles h)).2
  unfold MatrixRun.writtenWeights
  split
  next =>
      have hone : written 1 = 1 ∧ (0 : Rat) ≤ 1 ∧ (1 : Rat) ≤ 4 :=
        ⟨written_one, by decide, by decide⟩
      simp only [ContentionPolicyWeights.entries, List.forall_mem_cons] at hprofile ⊢
      obtain ⟨hlocal, hremote, hrequesters, hwait, hservice, hsize, -, hnil⟩ := hprofile
      exact ⟨hlocal, hremote, hrequesters, hwait, hservice, hsize, hone, hnil⟩
  next => exact hprofile

-- ============================================================================
-- The document
-- ============================================================================

/-- The block under `local_cache` that only some policies have. -/
def policyBlock (run : MatrixRun) (weightItems : List Item) : Block :=
  if yamlPolicyName run.policy = "hotness_only" then
    .nested "hotness".toList (.items (hotnessItems run.policy) .done) .done
  else if yamlPolicyName run.policy = "contention_aware" then
    .nested "contention".toList (.items (contentionItems run weightItems) .done) .done
  else .done

def configDocument (system : PresetSystem) (run : MatrixRun)
    (nodeIds : List Nat) (baseLatency bandwidth linkLatency : Nat) (policy : Block) : Block :=
  .nested "experiment".toList (.items (experimentItems run) .done) (.blank
    (.nested "memory".toList (.items (memoryItems system run baseLatency bandwidth) .done) (.blank
      (.nested "link".toList (.items (linkItems linkLatency) .done) (.blank
        (.nested "local_cache".toList (.items (localCacheItems system run) policy) (.blank
          (.nested "workload".toList (.items (workloadItems system run nodeIds) .done)
            .done))))))))

/-- The document of a run. -/
def MatrixRun.document (run : MatrixRun) (system : PresetSystem) : Block :=
  configDocument system run (system.computeNodeIds.take run.computeNodeCount)
    (levelOf MEMORY_BASE_LATENCY_BY_LEVEL run.memoryBaseLatencyLevel)
    (levelOf MEMORY_BANDWIDTH_BYTES_PER_TIME_BY_LEVEL run.memoryBandwidthLevel)
    (levelOf LINK_LATENCY_BY_LEVEL run.linkLatencyLevel)
    (policyBlock run (weightItems run.writtenWeights))

theorem render_nested_items (indent : Nat) (key : String) (items : List Item) (rest : Block) :
    (Block.nested key.toList (.items items .done) rest).render indent =
      sectionLines indent key items ++ rest.render indent := by
  rw [Block.render, render_items, Block.render, List.append_nil]
  rfl

theorem policyLines_eq {run : MatrixRun}
    (h : run.contentionWeightProfile ∈ contentionWeightProfilesForPolicy run.preset run.policy) :
    policyLines run = .ok ((policyBlock run (weightItems run.writtenWeights)).render 2) := by
  unfold policyLines policyBlock
  dsimp only
  split
  next =>
      rw [render_nested_items, Block.render, List.append_nil]
      rfl
  next =>
      split
      next =>
          rw [weightsForRun_eq h, render_nested_items, Block.render, List.append_nil]
          simp only [bind, Except.bind, mapM_weightItem]
          rfl
      next => rfl

theorem itemOf_eq_ok {T : Type} {table : List (String × T)} {key : String} {value : T} :
    itemOf table key = .ok value ↔ table.lookup key = some value := by
  unfold itemOf
  cases table.lookup key with
  | none => simp [throw, throwThe, MonadExceptOf.throw]
  | some found => simp [pure, Except.pure]

theorem levelOf_eq {levels : List (String × Nat)} {level : String} {value : Nat}
    (h : itemOf levels level = .ok value) : levelOf levels level = value := by
  rw [levelOf, itemOf_eq_ok.mp h, Option.getD_some]

/-- What is written is the text of the document. -/
theorem writeYamlConfig_eq {run : MatrixRun} {system : PresetSystem} {contents : String}
    (hprofile : run.contentionWeightProfile ∈
      contentionWeightProfilesForPolicy run.preset run.policy)
    (h : writeYamlConfig system run = .ok contents) :
    contents = String.ofList (run.document system).text ∧
      run.computeNodeCount ≤ system.computeNodeIds.length := by
  simp only [writeYamlConfig, yamlLines, memoryBaseLatency, memoryBandwidthBytesPerTime,
    oneWayLinkLatency, policyLines_eq hprofile, bind_eq_ok, pure_eq_ok, Except.ok.injEq] at h
  obtain ⟨_, ⟨nodeIds, hnodeIds, baseLatency, hbase, bandwidth, hbandwidth, linkLatency, hlink, _,
    rfl, rfl⟩, rfl⟩ := h
  rw [← levelOf_eq hbase, ← levelOf_eq hbandwidth, ← levelOf_eq hlink]
  unfold nodeIdsForRun at hnodeIds
  split at hnodeIds
  next => exact absurd hnodeIds (by simp [throw, throwThe, MonadExceptOf.throw])
  next hle =>
      rw [pure_eq_ok] at hnodeIds
      refine ⟨?_, not_lt.mp hle⟩
      rw [← hnodeIds]
      congr 2
      simp only [MatrixRun.document, configDocument, render_nested_items, Block.render,
        Item.line, render_items, List.append_assoc, List.append_nil, List.cons_append,
        List.nil_append, sectionLines]

end DmSimulator
