/-
  DmSimulator.Sim.ConfigRanges

  What the loader of configurations has checked: the ranges of the fields, whether
  they are given or keep their defaults.
-/
import DmSimulator.Sim.ConfigLoader
import DmSimulator.Workloads.Schedule

namespace DmSimulator

open Yaml

-- ============================================================================
-- Ranges
-- ============================================================================

structure HotnessPolicyConfig.InRange (config : HotnessPolicyConfig) : Prop where
  historyWindowEpochs : 0 < config.historyWindowEpochs

structure ContentionPolicyWeights.InRange (weights : ContentionPolicyWeights) : Prop where
  localHotnessWeight : 0 ≤ weights.localHotnessWeight
  remoteAccessWeight : 0 ≤ weights.remoteAccessWeight
  distinctRequesterWeight : 0 ≤ weights.distinctRequesterWeight
  queueWaitWeight : 0 ≤ weights.queueWaitWeight
  remoteServiceTimeWeight : 0 ≤ weights.remoteServiceTimeWeight
  sizePenaltyWeight : 0 ≤ weights.sizePenaltyWeight
  costDensityWeight : 0 ≤ weights.costDensityWeight

structure ContentionPolicyConfig.InRange (config : ContentionPolicyConfig) : Prop where
  weights : config.weights.InRange
  minAdmitScore : 0 ≤ config.minAdmitScore
  localHotnessThreshold : 0 < config.localHotnessThreshold
  telemetryHistoryEpochs : 0 < config.telemetryHistoryEpochs
  telemetryDecay : 0 ≤ config.telemetryDecay
  localReuseGateThreshold : 0 < config.localReuseGateThreshold
  localConfirmationWindowEpochs : 0 < config.localConfirmationWindowEpochs
  localConfirmationBypassScoreMargin : 0 ≤ config.localConfirmationBypassScoreMargin
  evictionScoreMargin : 0 ≤ config.evictionScoreMargin

structure SyntheticWorkloadConfig.InRange (config : SyntheticWorkloadConfig) : Prop where
  objectSizeBytes : 0 < config.objectSizeBytes
  hotSetChurnFraction : 0 ≤ config.hotSetChurnFraction ∧ config.hotSetChurnFraction ≤ 1
  hotObjectChannelCount : config.hotObjectChannelCount ≤ config.memoryChannelCount
  objectSizeSmallBytes : 0 < config.objectSizeSmallBytes
  objectSizes : config.objectSizeSmallBytes ≤ config.objectSizeLargeBytes
  largeObjectProbability : 0 ≤ config.largeObjectProbability ∧ config.largeObjectProbability ≤ 1
  burstSize : 0 < config.burstSize
  burstInterval : 0 < config.burstInterval

/-- The configurations that the loader gives. -/
structure SimulationConfig.Loaded (config : SimulationConfig) : Prop where
  memoryChannelCount : 0 < config.memoryChannelCount
  computeNodes : config.computeNodes = []
  hotness : config.localCache.hotness.InRange
  contention : config.localCache.contention.InRange
  workload : ∃ workload, config.syntheticWorkload = some workload ∧ workload.InRange ∧
    workload.memoryChannelCount = config.memoryChannelCount

theorem HotnessPolicyConfig.inRange_default : HotnessPolicyConfig.InRange {} := ⟨by decide⟩

theorem ContentionPolicyConfig.inRange_default : ContentionPolicyConfig.InRange {} where
  weights := by constructor <;> decide +kernel
  minAdmitScore := by decide
  localHotnessThreshold := by decide
  telemetryHistoryEpochs := by decide
  telemetryDecay := by decide
  localReuseGateThreshold := by decide
  localConfirmationWindowEpochs := by decide
  localConfirmationBypassScoreMargin := by decide
  evictionScoreMargin := by decide

-- ============================================================================
-- Fields
-- ============================================================================

namespace YamlCpp

variable {yaml : YamlCpp} {T : Type}

theorem optionalAs_spec {read : Node → Except LoadError T} {p : T → Prop} {node : Node}
    {key : String} {current value : T} (hcurrent : p current)
    (hread : ∀ child value, read child = .ok value → p value)
    (h : yaml.optionalAs read node key current = .ok value) : p value := by
  rw [optionalAs, bind_eq_ok] at h
  obtain ⟨child, -, h⟩ := h
  cases child with
  | none =>
      rw [pure_eq_ok] at h
      rwa [← h]
  | some child => exact hread child value h

theorem optionalChecked_spec {S : Type} {read : Node → Except String S} {accept : S → Option T}
    {p : T → Prop} (haccept : ∀ s value, accept s = some value → p value)
    {expected key context : String} {node : Node} {current value : T} (hcurrent : p current)
    (h : yaml.optionalChecked read accept expected node key context current = .ok value) :
    p value := by
  refine optionalAs_spec hcurrent (fun child value hvalue => ?_) h
  rw [bind_eq_ok] at hvalue
  obtain ⟨s, -, hvalue⟩ := hvalue
  cases hs : accept s with
  | none =>
      rw [hs] at hvalue
      cases hvalue
  | some accepted =>
      rw [hs, pure_eq_ok] at hvalue
      rw [← hvalue]
      exact haccept s accepted hs

theorem optionalNonnegativeDouble_spec {node : Node} {key context : String}
    {current value : Rat} (hcurrent : 0 ≤ current)
    (h : yaml.optionalNonnegativeDouble node key context current = .ok value) : 0 ≤ value := by
  refine optionalChecked_spec (p := fun value => 0 ≤ value) ?_ hcurrent h
  intro s accepted haccept
  simpa using (Option.filter_eq_some_iff.mp haccept).2

theorem optionalProbability_spec {node : Node} {key context : String}
    {current value : Rat} (hcurrent : 0 ≤ current ∧ current ≤ 1)
    (h : yaml.optionalProbability node key context current = .ok value) :
    0 ≤ value ∧ value ≤ 1 := by
  refine optionalChecked_spec (p := fun value => 0 ≤ value ∧ value ≤ 1) ?_ hcurrent h
  intro s accepted haccept
  simpa using (Option.filter_eq_some_iff.mp haccept).2

theorem optionalPositiveU64_spec {node : Node} {key context : String} {current value : Nat}
    (hcurrent : 0 < current)
    (h : yaml.optionalPositiveU64 node key context current = .ok value) : 0 < value := by
  refine optionalChecked_spec (p := fun value => 0 < value) ?_ hcurrent h
  intro s accepted haccept
  obtain ⟨rfl, hne⟩ := Option.guard_eq_some_iff.mp haccept
  exact Nat.pos_of_ne_zero (by simpa using hne)

-- ============================================================================
-- Sections
-- ============================================================================

theorem parseHotnessPolicyConfig_spec {node : Node} {config : HotnessPolicyConfig}
    (h : yaml.parseHotnessPolicyConfig node = .ok config) : config.InRange := by
  rw [parseHotnessPolicyConfig, bind_eq_ok] at h
  obtain ⟨child, -, h⟩ := h
  cases child with
  | none =>
      rw [pure_eq_ok] at h
      rw [← h]
      exact HotnessPolicyConfig.inRange_default
  | some child =>
      simp only [bind_eq_ok] at h
      obtain ⟨minAdmitCount, -, reset, -, h⟩ := h
      split at h
      next => cases h
      next =>
          simp only [bind_eq_ok, pure_eq_ok] at h
          obtain ⟨historyMode, -, window, hwindow, rfl⟩ := h
          exact ⟨optionalPositiveU64_spec HotnessPolicyConfig.inRange_default.1 hwindow⟩

theorem parseContentionWeights_spec {node : Node} {current weights : ContentionPolicyWeights}
    (hcurrent : current.InRange) (h : yaml.parseContentionWeights node current = .ok weights) :
    weights.InRange := by
  simp only [parseContentionWeights, bind_eq_ok, pure_eq_ok] at h
  obtain ⟨_, hlocal, _, hremote, _, hrequesters, _, hwait, _, hservice, _, hsize, _, hdensity,
    rfl⟩ := h
  exact
    { localHotnessWeight := optionalNonnegativeDouble_spec hcurrent.localHotnessWeight hlocal
      remoteAccessWeight := optionalNonnegativeDouble_spec hcurrent.remoteAccessWeight hremote
      distinctRequesterWeight :=
        optionalNonnegativeDouble_spec hcurrent.distinctRequesterWeight hrequesters
      queueWaitWeight := optionalNonnegativeDouble_spec hcurrent.queueWaitWeight hwait
      remoteServiceTimeWeight :=
        optionalNonnegativeDouble_spec hcurrent.remoteServiceTimeWeight hservice
      sizePenaltyWeight := optionalNonnegativeDouble_spec hcurrent.sizePenaltyWeight hsize
      costDensityWeight := optionalNonnegativeDouble_spec hcurrent.costDensityWeight hdensity }

theorem parseContentionPolicyConfig_spec {node : Node} {config : ContentionPolicyConfig}
    (h : yaml.parseContentionPolicyConfig node = .ok config) : config.InRange := by
  have hdefault := ContentionPolicyConfig.inRange_default
  rw [parseContentionPolicyConfig, bind_eq_ok] at h
  obtain ⟨child, -, h⟩ := h
  cases child with
  | none =>
      rw [pure_eq_ok] at h
      rwa [← h]
  | some child =>
      simp only [bind_eq_ok, pure_eq_ok] at h
      obtain ⟨_, -, _, hweights, _, hscore, _, hhotness, _, -, _, hepochs, _, hdecay, _, hgate, _,
        hwindow, _, hbypass, _, hmargin, rfl⟩ := h
      exact
        { weights := parseContentionWeights_spec hdefault.weights hweights
          minAdmitScore := optionalNonnegativeDouble_spec hdefault.minAdmitScore hscore
          localHotnessThreshold :=
            optionalPositiveU64_spec hdefault.localHotnessThreshold hhotness
          telemetryHistoryEpochs :=
            optionalPositiveU64_spec hdefault.telemetryHistoryEpochs hepochs
          telemetryDecay := optionalNonnegativeDouble_spec hdefault.telemetryDecay hdecay
          localReuseGateThreshold :=
            optionalPositiveU64_spec hdefault.localReuseGateThreshold hgate
          localConfirmationWindowEpochs :=
            optionalPositiveU64_spec hdefault.localConfirmationWindowEpochs hwindow
          localConfirmationBypassScoreMargin :=
            optionalNonnegativeDouble_spec hdefault.localConfirmationBypassScoreMargin hbypass
          evictionScoreMargin :=
            optionalNonnegativeDouble_spec hdefault.evictionScoreMargin hmargin }

theorem parseHotObjectChannelCount_spec {channels count : Nat} {node : Node}
    (h : yaml.parseHotObjectChannelCount channels node = .ok count) : count ≤ channels := by
  rw [parseHotObjectChannelCount, bind_eq_ok] at h
  obtain ⟨given, -, h⟩ := h
  split at h
  next => cases h
  next hle =>
      rw [pure_eq_ok] at h
      rw [← h]
      exact Nat.not_lt.mp hle

theorem parseWorkloadConfig_spec {node : Node} {channels : Nat} {config : SyntheticWorkloadConfig}
    (h : yaml.parseWorkloadConfig node channels = .ok config) :
    config.InRange ∧ config.memoryChannelCount = channels := by
  simp only [parseWorkloadConfig, bind_eq_ok] at h
  obtain ⟨_, -, _, -, _, -, objectSize, -, h⟩ := h
  split at h
  next => cases h
  next hobject =>
      simp only [bind_eq_ok] at h
      obtain ⟨_, hchurn, hotChannels, hhot, _, -, small, hsmall, large, hlarge, h⟩ := h
      split at h
      next => cases h
      next hsizes =>
          simp only [bind_eq_ok] at h
          obtain ⟨_, hlargeObjects, _, -, _, hburst, _, hinterval, _, -, _, -, _, -, _, -,
            _, -, hotAccess, -, _, -, _, -, h⟩ := h
          cases hotAccess with
          | none => cases h
          | some hotAccess =>
              rw [pure_eq_ok] at h
              have hhotChannels : hotChannels ≤ channels := by
                exact optionalAs_spec (p := fun count => count ≤ channels) (Nat.zero_le _)
                  (fun _ _ hcount => parseHotObjectChannelCount_spec hcount) hhot
              rw [← h]
              exact
                ⟨{ objectSizeBytes := Nat.pos_of_ne_zero hobject
                   hotSetChurnFraction := optionalProbability_spec (by decide +kernel) hchurn
                   hotObjectChannelCount := hhotChannels
                   objectSizeSmallBytes := optionalPositiveU64_spec (by decide) hsmall
                   objectSizes := Nat.not_lt.mp hsizes
                   largeObjectProbability :=
                     optionalProbability_spec (by decide +kernel) hlargeObjects
                   burstSize := optionalPositiveU64_spec (by decide) hburst
                   burstInterval := optionalPositiveU64_spec (by decide) hinterval }, rfl⟩

/-- What the loader gives is in range. -/
theorem loadExperimentConfig_loaded {path contents : String} {experiment : ExperimentConfig}
    (h : yaml.loadExperimentConfig path contents = .ok experiment) :
    experiment.simulation.Loaded := by
  unfold loadExperimentConfig at h
  split at h
  next => cases h
  next root _ =>
      simp only [parseExperimentConfig, parseLocalCacheConfig, bind_eq_ok, pure_eq_ok] at h
      obtain ⟨_, -, _, -, _, -, _, -, _, -, _, -, _, -, _, -, _, -, _, -, channels, hchannels, _, -,
        _, hcache, workload, hworkload, rfl⟩ := h
      obtain ⟨_, -, _, -, _, -, _, hhotness, _, hcontention, rfl⟩ := hcache
      obtain ⟨hrange, hsame⟩ := parseWorkloadConfig_spec hworkload
      exact
        { memoryChannelCount := optionalPositiveU64_spec (by decide) hchannels
          computeNodes := rfl
          hotness := parseHotnessPolicyConfig_spec hhotness
          contention := parseContentionPolicyConfig_spec hcontention
          workload := ⟨workload, rfl, hrange, hsame⟩ }

end YamlCpp

end DmSimulator
