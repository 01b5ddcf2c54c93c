/-
  DmSimulator.Runs.Variants

  The variants of the contention-aware policy collapse when their knobs are
  neutral: the whole run is that of the plain variant.
-/
import DmSimulator.Cache.ContentionVariants
import DmSimulator.Runs.PolicyRuns

namespace DmSimulator

namespace Simulator

/-- A run under a variant with neutral knobs is the run under the plain variant. -/
theorem run_neutralVariant {rng : RandomSource} {config : SimulationConfig}
    {plain : ContentionPolicyConfig}
    {s : Simulator (makeCachePolicy .exact config.localCache)}
    (hpolicy : config.localCache.policyType = .contentionAware)
    (hbase : ContentionAwarePolicy.SameBase config.localCache.contention plain)
    (hneutral : ContentionAwarePolicy.Neutral config.localCache.contention plain)
    (h : construct .exact rng config = .ok s) :
    ∃ t, construct .exact rng (config.withContention plain) = .ok t ∧
      (∃ final, RunsTo .exact s final) ∧ (∃ final, RunsTo .exact t final) ∧
      ∀ final final', RunsTo .exact s final → RunsTo .exact t final' → SameRun final final' := by
  obtain ⟨prepared, generatedWorkload, rfl, hprepared, hcache, hprepared', hconstruct⟩ :=
    construct_withContention h plain
  have hsim : Nonempty (PolicySim (makeCachePolicy .exact config.localCache)
      (makeCachePolicy .exact (config.withContention plain).localCache)) := by
    have hpolicy' : (config.withContention plain).localCache.policyType = .contentionAware := hpolicy
    unfold makeCachePolicy
    rw [hpolicy, hpolicy']
    exact ⟨neutralSim hneutral hbase config.localCache.capacityBytes⟩
  obtain ⟨sim⟩ := hsim
  refine ⟨_, hconstruct, exists_runsTo _ hprepared generatedWorkload,
    exists_runsTo _ hprepared' generatedWorkload, fun final final' hfinal hfinal' => ?_⟩
  have hplain : prepared.localCache.policyType ≠ .globalHottestReplication := by
    rw [hcache, hpolicy]
    decide
  obtain ⟨final₁, hfinal₁, hsame⟩ := runsTo_of_sim sim hprepared hplain plain hfinal
  rw [Run.EndsIn.unique hfinal' hfinal₁]
  exact hsame

/-- Two nodes over three epochs, the last two of which look back on telemetry; older
    epochs decay at once. -/
def forgetfulConfig : SimulationConfig :=
  { computeNodes :=
      [{ nodeId := 1
         requests := [{ objectId := 1, sizeBytes := 64 }, { objectId := 1, sizeBytes := 64 },
          { objectId := 2, sizeBytes := 64, epochId := 1 },
          { objectId := 1, sizeBytes := 64, epochId := 2 }] },
       { nodeId := 3
         requests := [{ objectId := 1, sizeBytes := 64 },
          { objectId := 2, sizeBytes := 64, epochId := 1 }] }]
    localCache :=
      { capacityBytes := 64
        policyType := .contentionAware
        contention := { variant := .smoothed, telemetryHistoryEpochs := 3, telemetryDecay := 0 } } }

theorem forgetfulConfig_neutralVariant :
    ∃ s t, construct .exact lowestSource forgetfulConfig = .ok s ∧
      construct .exact lowestSource (forgetfulConfig.withContention {}) = .ok t ∧
      (∃ final, RunsTo .exact s final) ∧ (∃ final, RunsTo .exact t final) ∧
      ∀ final final', RunsTo .exact s final → RunsTo .exact t final' → SameRun final final' := by
  have hneutral : ContentionAwarePolicy.Neutral forgetfulConfig.localCache.contention {} :=
    .smoothedNoDecay rfl rfl rfl (by decide)
  have hbase : ContentionAwarePolicy.SameBase forgetfulConfig.localCache.contention {} :=
    ⟨rfl, rfl, rfl, rfl⟩
  obtain ⟨t, ht⟩ := run_neutralVariant rfl hbase hneutral
    (show construct .exact lowestSource forgetfulConfig = .ok _ from rfl)
  exact ⟨_, t, rfl, ht⟩

end Simulator

end DmSimulator
