/-
  DmSimulator.Runs.DecisionRows

  The reports on decisions over a run, in either reading of the arithmetic: every
  decision record is explained by its own score and counts, and the lifecycle records
  tell of the same attempts.
-/
import DmSimulator.Cache.DecisionRows
import DmSimulator.Runs.CacheRuns
import DmSimulator.Runs.ConfirmationRuns
import DmSimulator.Runs.Recency
import DmSimulator.Sim.Diagnostics

namespace DmSimulator

namespace Simulator

variable {P : CachePolicy} {A : Arith} {s : Simulator P}

-- ============================================================================
-- Reports and caches
-- ============================================================================

/-- Every decision record of the report is one of a node's policy. -/
theorem exists_node_of_policyDiagnostics {record : PolicyDecisionRecord}
    (h : record ∈ s.policyDiagnostics) :
    ∃ node ∈ s.computeNodes.items, record ∈ node.localCache.decisions := by
  have hmem := (ranksBy_policyDecisionLess.isSortOf_sortBy s.policyRecords).perm.subset h
  obtain ⟨_, _, node, hfind, hrecord⟩ := mem_collect.mp hmem
  exact ⟨node, (KeyedStore.find_eq_some.mp hfind).1, hrecord⟩

/-- What the report on admissions says about the attempts. -/
def admissionAttempts (s : Simulator P) : List LocalCache.AttemptRow :=
  (s.cacheAdmissionDiagnostics.filter
    (fun record => record.placementSource = "remote_response")).map
      (fun record => (LocalCache.recorded record).1)

theorem attempts_eq_map (c : LocalCache P) :
    c.attempts = (c.admissionRecords.filter
      (fun record => record.placementSource = "remote_response")).map
        (fun record => (LocalCache.recorded record).1) := by
  unfold LocalCache.attempts LocalCache.recordings
  rw [List.filter_map, List.map_map]
  rfl

/-- Where the caches of the nodes tell of the same attempts, so do the reports. -/
theorem admissionAttempts_perm
    (h : ∀ node ∈ s.computeNodes.items, node.localCache.SameAttempts) :
    s.admissionAttempts.Perm (s.policyDiagnostics.map PolicyDecisionRecord.attempt) := by
  have hrecords : (s.cacheRecords.filter
      (fun record => record.placementSource = "remote_response")).map
        (fun record => (LocalCache.recorded record).1) =
      s.policyRecords.map PolicyDecisionRecord.attempt := by
    unfold cacheRecords policyRecords collect
    rw [List.filter_flatMap, List.map_flatMap, List.map_flatMap]
    refine congrArg List.flatten (List.map_congr_left fun nodeConfig _ => ?_)
    cases hfind : s.computeNodes.find nodeConfig.nodeId with
    | none => rfl
    | some node =>
        simp only
        rw [← attempts_eq_map]
        exact h node (KeyedStore.find_eq_some.mp hfind).1
  have hcache := (ranksBy_cacheAdmissionLess.isSortOf_sortBy s.cacheRecords).perm
  have hpolicy := (ranksBy_policyDecisionLess.isSortOf_sortBy s.policyRecords).perm
  unfold admissionAttempts
  exact ((hcache.filter _).map _).trans (hrecords ▸ (hpolicy.map _).symm)

-- ============================================================================
-- Whole runs
-- ============================================================================

theorem explained_of_reachable {contention : ContentionPolicyConfig} {config : SimulationConfig}
    (hP : P = ContentionAwarePolicy contention config.localCache.capacityBytes)
    (hdecay : 0 ≤ contention.telemetryDecay) {generatedWorkload : Option GeneratedWorkload}
    {t : Simulator P} (h : Reachable A (ofConfig P config generatedWorkload) t) :
    ∀ record ∈ t.policyDiagnostics, record.Explained contention := by
  subst hP
  have hcaches := caches_of_reachable LocalCache.Explained.init
    (fun c op hc => hc.applyOp hdecay op) h
  intro record hrecord
  obtain ⟨node, hnode, hdecision⟩ := exists_node_of_policyDiagnostics hrecord
  exact (hcaches node hnode).records record hdecision

theorem sameAttempts_of_reachable {contention : ContentionPolicyConfig} {capacityBytes : Nat}
    {config : SimulationConfig} (hP : P = ContentionAwarePolicy contention capacityBytes)
    {generatedWorkload : Option GeneratedWorkload} {t : Simulator P}
    (h : Reachable A (ofConfig P config generatedWorkload) t) :
    ∀ node ∈ t.computeNodes.items, node.localCache.SameAttempts := by
  subst hP
  exact caches_of_reachable (LocalCache.SameAttempts.init _) (fun c op hc => hc.applyOp op) h

theorem construct_contentionAware {rng : RandomSource} {config : SimulationConfig}
    (hpolicy : config.localCache.policyType = .contentionAware)
    {s : Simulator (makeCachePolicy A config.localCache)} (h : construct A rng config = .ok s) :
    ∃ prepared generatedWorkload, s = ofConfig _ prepared generatedWorkload ∧
      makeCachePolicy A config.localCache =
        ContentionAwarePolicy config.localCache.contention prepared.localCache.capacityBytes := by
  unfold construct at h
  simp only [bind_eq_ok, pure_eq_ok, Prod.exists] at h
  obtain ⟨prepared, generatedWorkload, hprepare, rfl⟩ := h
  refine ⟨prepared, generatedWorkload, rfl, ?_⟩
  rw [prepareConfig_localCache hprepare]
  exact makeCachePolicy_contentionAware hpolicy

/-- In every state of a run under the contention-aware policy the report on decisions and
    the report on admissions tell of the same attempts, row for row. -/
theorem run_attemptsAgree {rng : RandomSource} {config : SimulationConfig}
    (hpolicy : config.localCache.policyType = .contentionAware)
    {s : Simulator (makeCachePolicy A config.localCache)} (h : construct A rng config = .ok s) :
    ∀ t, Reachable A s t →
      t.admissionAttempts.Perm (t.policyDiagnostics.map PolicyDecisionRecord.attempt) := by
  obtain ⟨prepared, generatedWorkload, rfl, hP⟩ := construct_contentionAware hpolicy h
  exact fun t ht => admissionAttempts_perm (sameAttempts_of_reachable hP ht)

theorem twoEpochWindow_attemptsAgree :
    ∃ s, construct .word64 lowestSource twoEpochWindow = .ok s ∧
      ∀ t, Reachable .word64 s t →
        t.admissionAttempts.Perm (t.policyDiagnostics.map PolicyDecisionRecord.attempt) :=
  ⟨_, rfl, run_attemptsAgree rfl
    (show construct .word64 lowestSource twoEpochWindow = .ok _ from rfl)⟩

end Simulator

end DmSimulator
