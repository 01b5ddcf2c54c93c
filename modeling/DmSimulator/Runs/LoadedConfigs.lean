/-
  DmSimulator.Runs.LoadedConfigs

  Which loaded configurations the simulator accepts.  The loader and the
  constructor each check a part: for a configuration in the ranges of the loader the
  constructor succeeds exactly when what the loader leaves unchecked holds.
-/
import DmSimulator.Runs.Start
import DmSimulator.Scripts.HotObjectCapacity
import DmSimulator.Sim.ConfigRanges
import DmSimulator.Sim.DocumentedYaml
import DmSimulator.Workloads.BurstOffsets

namespace DmSimulator

-- ============================================================================
-- The nodes and epochs of a generated workload
-- ============================================================================

section Generated

variable {A : Arith} {rng : RandomSource} {config : SyntheticWorkloadConfig}

theorem generateEpoch_nodeIds {objects : List ObjectId} {objectSizes : List Nat}
    {segments : HotSetSegments} {epochId : EpochId} {nodeIndex : Nat}
    {workloads workloads' : List NodeWorkload}
    {hotSets hotSets' : UnorderedMap NodeId (List ObjectId)} {engine engine' : rng.Engine}
    (h : generateEpoch A rng config objects objectSizes segments epochId nodeIndex workloads
      hotSets engine = .ok (workloads', hotSets', engine')) :
    workloads'.map NodeWorkload.nodeId = workloads.map NodeWorkload.nodeId := by
  induction workloads generalizing nodeIndex workloads' hotSets hotSets' engine engine' with
  | nil =>
      simp only [generateEpoch, pure_eq_ok, Prod.mk.injEq] at h
      rw [← h.1]
  | cons workload rest ih =>
      simp only [generateEpoch, bind_eq_ok, pure_eq_ok, Prod.mk.injEq, Prod.exists] at h
      obtain ⟨requests, engine₁, -, rest', hotSets₁, engine₂, hrest, rfl, -⟩ := h
      rw [List.map_cons, List.map_cons, ih hrest]

theorem generateEpochs_nodeIds {objects hotObjectCandidates : List ObjectId}
    {objectSizes : List Nat} {epochs : Nat} {epochId : EpochId} {segments : HotSetSegments}
    {cursor : Nat} {engine : rng.Engine} {workload workload' : GeneratedWorkload}
    (h : generateEpochs A rng config objects hotObjectCandidates objectSizes epochs epochId
      segments cursor engine workload = .ok workload') :
    workload'.nodeWorkloads.map NodeWorkload.nodeId =
      workload.nodeWorkloads.map NodeWorkload.nodeId := by
  induction epochs generalizing epochId segments cursor engine workload with
  | zero =>
      simp only [generateEpochs, pure_eq_ok] at h
      rw [← h]
  | succ epochs ih =>
      simp only [generateEpochs, bind_eq_ok, Prod.exists] at h
      obtain ⟨segments', cursor', -, workloads', hotSets', engine', hepoch, hrest⟩ := h
      rw [ih hrest]
      exact generateEpoch_nodeIds hepoch

/-- One stream for every configured node. -/
theorem generateSyntheticWorkload_nodeIds {workload : GeneratedWorkload}
    (h : generateSyntheticWorkload A rng config = .ok workload) :
    workload.nodeWorkloads.map NodeWorkload.nodeId = config.computeNodeIds := by
  unfold generateSyntheticWorkload at h
  obtain ⟨-, -, hgenerate⟩ := bind_eq_ok.mp h
  rw [generateEpochs_nodeIds hgenerate, List.map_map]
  exact List.map_id _

theorem streamPlan_epochs (nodeId : NodeId) (epochs : Nat) :
    ((streamPlan A rng config nodeId epochs).map Prod.fst).Pairwise (· ≤ ·) ∧
      ∀ epochId ∈ (streamPlan A rng config nodeId epochs).map Prod.fst, epochId < epochs := by
  induction epochs with
  | zero => exact ⟨List.Pairwise.nil, fun epochId h => absurd h List.not_mem_nil⟩
  | succ epochs ih =>
      obtain ⟨hsorted, hbefore⟩ := ih
      have hepoch : (epochPlan A rng config nodeId epochs 0
          config.requestsPerNodePerEpoch).map Prod.fst =
            List.replicate config.requestsPerNodePerEpoch epochs := by
        unfold epochPlan
        rw [List.map_map, Function.comp_def, List.map_const', List.length_range']
      rw [streamPlan_succ, List.map_append, hepoch]
      refine ⟨List.pairwise_append.mpr
        ⟨hsorted, List.pairwise_replicate.mpr (Or.inr (Nat.le_refl _)), ?_⟩, ?_⟩
      · intro epochId hmem last hlast
        rw [List.eq_of_mem_replicate hlast]
        exact (hbefore epochId hmem).le
      · intro epochId hmem
        rcases List.mem_append.mp hmem with hmem | hmem
        · exact (hbefore epochId hmem).trans (Nat.lt_succ_self _)
        · rw [List.eq_of_mem_replicate hmem]
          exact Nat.lt_succ_self _

theorem length_streamPlan (nodeId : NodeId) (epochs : Nat) :
    (streamPlan A rng config nodeId epochs).length = epochs * config.requestsPerNodePerEpoch := by
  induction epochs with
  | zero => rw [Nat.zero_mul]; rfl
  | succ epochs ih =>
      rw [streamPlan_succ, List.length_append, ih, epochPlan, List.length_map, List.length_range',
        Nat.succ_mul]

/-- The streams are in epoch order. -/
theorem generateSyntheticWorkload_epochs {workload : GeneratedWorkload}
    (h : generateSyntheticWorkload A rng config = .ok workload) :
    ∀ w ∈ workload.nodeWorkloads, (w.requests.map RequestSpec.epochId).Pairwise (· ≤ ·) := by
  intro w hw
  have hplan := generateSyntheticWorkload_plan h w hw
  have hepochs : w.requests.map RequestSpec.epochId =
      (w.requests.map RequestSpec.plan).map Prod.fst := by
    rw [List.map_map]
    rfl
  rw [hepochs, hplan]
  exact (streamPlan_epochs w.nodeId config.epochCount).1

end Generated

-- ============================================================================
-- Checks on the workload
-- ============================================================================

/-- What the loader leaves to the checks of the generator. -/
structure SyntheticWorkloadConfig.Runnable (A : Arith) (config : SyntheticWorkloadConfig) :
    Prop where
  nodes : config.computeNodeIds ≠ []
  nodeIds_nodup : config.computeNodeIds.Nodup
  objects : 0 < config.objectCount
  requests : 0 < config.requestsPerNodePerEpoch
  epochs : 0 < config.epochCount
  hotSetSize : 0 < config.hotSetSize
  hotAccess : 0 ≤ config.hotAccessProbability ∧ config.hotAccessProbability ≤ 1
  burstTiming : config.issueMode = .scheduledBursty → 1 < config.burstSize →
    config.intraBurstGap ≤ (Arith.wordSize - 1) / (config.burstSize - 1) ∧
      A.mul (config.burstSize - 1) config.intraBurstGap ≤ config.burstInterval
  candidates : requiredCandidates config ≤ eligibleHotObjectCount config

theorem eligibleHotObjectCount_le (config : SyntheticWorkloadConfig) :
    eligibleHotObjectCount config ≤ config.objectCount := by
  unfold eligibleHotObjectCount
  refine (List.length_filter_le _ _).trans ?_
  unfold makeObjectUniverse
  simp

/-- The other checks on the fields. -/
theorem otherFieldsValid_iff {A : Arith} {config : SyntheticWorkloadConfig}
    (hrange : config.InRange) (hchannels : 0 < config.memoryChannelCount) :
    OtherFieldsValid A config ∧ requiredCandidates config ≤ eligibleHotObjectCount config ↔
      config.Runnable A := by
  constructor
  · rintro ⟨h, hcandidates⟩
    exact ⟨h.nodes, h.nodeIds_nodup, h.objects, h.requests, h.epochs, h.hotSetSize, h.hotAccess,
      h.burstTiming, hcandidates⟩
  · intro h
    refine ⟨?_, h.candidates⟩
    exact
      { nodes := h.nodes
        nodeIds_nodup := h.nodeIds_nodup
        objects := h.objects
        channels := hchannels
        hotChannels := hrange.hotObjectChannelCount
        objectSize := hrange.objectSizeBytes
        smallSize := hrange.objectSizeSmallBytes
        largeSize := hrange.objectSizeSmallBytes.trans_le hrange.objectSizes
        sizes := hrange.objectSizes
        requests := h.requests
        epochs := h.epochs
        hotSetSize := h.hotSetSize
        hotAccess := h.hotAccess
        churn := hrange.hotSetChurnFraction
        largeObjects := hrange.largeObjectProbability
        burstSize := hrange.burstSize
        burstInterval := hrange.burstInterval
        burstTiming := h.burstTiming }

theorem hotSetVerdict_eq_ok_iff {config : SyntheticWorkloadConfig} {eligibleCount : Nat}
    (hnodes : config.computeNodeIds ≠ []) (heligible : eligibleCount ≤ config.objectCount) :
    hotSetVerdict config eligibleCount = .ok () ↔
      requiredCandidates config ≤ eligibleCount := by
  rw [← not_lt, ← gt_iff_lt, ← hotSetVerdict_eq_error_iff hnodes heligible]
  cases hotSetVerdict config eligibleCount with
  | ok u => simp
  | error message => simp

/-- The fields that the generator checks, one after another. -/
theorem otherFieldsValid_of_validate {A : Arith} {config : SyntheticWorkloadConfig}
    (h : validateSyntheticWorkloadConfig A config = .ok ()) : OtherFieldsValid A config := by
  unfold validateSyntheticWorkloadConfig at h
  simp only [bind_eq_ok, throwIf_eq_ok, exists_and_left, exists_const, decide_eq_false_iff_not,
    Bool.or_eq_false_iff, not_lt, gt_iff_lt] at h
  obtain ⟨hnodes, hnodup, hobjects, hchannels, hhot, hsize, ⟨hsmall, hlarge⟩, hsizes, hrequests,
    hepochs, hhotSet, -, haccess, hchurn, hlargeObjects, hburst, hinterval, hrest⟩ := h
  refine
    { nodes := by simpa using hnodes
      nodeIds_nodup := by simpa using hnodup
      objects := Nat.pos_of_ne_zero hobjects
      channels := Nat.pos_of_ne_zero hchannels
      hotChannels := hhot
      objectSize := Nat.pos_of_ne_zero hsize
      smallSize := Nat.pos_of_ne_zero hsmall
      largeSize := Nat.pos_of_ne_zero hlarge
      sizes := hsizes
      requests := Nat.pos_of_ne_zero hrequests
      epochs := Nat.pos_of_ne_zero hepochs
      hotSetSize := Nat.pos_of_ne_zero hhotSet
      hotAccess := haccess
      churn := hchurn
      largeObjects := hlargeObjects
      burstSize := Nat.pos_of_ne_zero hburst
      burstInterval := Nat.pos_of_ne_zero hinterval
      burstTiming := ?_ }
  intro hmode hone
  rw [if_pos ⟨hmode, hone⟩] at hrest
  simp only [bind_eq_ok, throwIf_eq_ok, exists_and_left, decide_eq_false_iff_not, not_lt] at hrest
  exact ⟨hrest.1, hrest.2.1⟩

theorem validate_eq_ok_iff {A : Arith} {config : SyntheticWorkloadConfig}
    (hrange : config.InRange) (hchannels : 0 < config.memoryChannelCount) :
    validateSyntheticWorkloadConfig A config = .ok () ↔ config.Runnable A := by
  rw [← otherFieldsValid_iff hrange hchannels]
  constructor
  · intro h
    have hvalid := otherFieldsValid_of_validate h
    rw [validateSyntheticWorkloadConfig_eq_hotSetVerdict hvalid,
      hotSetVerdict_eq_ok_iff hvalid.nodes (eligibleHotObjectCount_le config)] at h
    exact ⟨hvalid, h⟩
  · rintro ⟨hvalid, hcandidates⟩
    rw [validateSyntheticWorkloadConfig_eq_hotSetVerdict hvalid,
      hotSetVerdict_eq_ok_iff hvalid.nodes (eligibleHotObjectCount_le config)]
    exact hcandidates

-- ============================================================================
-- Checks on the configuration
-- ============================================================================

/-- What the loader leaves to the constructor. -/
structure SimulationConfig.Runnable (A : Arith) (config : SimulationConfig)
    (workload : SyntheticWorkloadConfig) : Prop where
  bandwidth : 0 < config.memoryBandwidthBytesPerTime
  memoryNode : config.memoryNodeId ∉ workload.computeNodeIds
  workload : workload.Runnable A

namespace Simulator

theorem validateNodes_eq_ok {memoryNodeId : NodeId} {seen : List NodeId}
    {nodeConfigs : List ComputeNodeConfig}
    (hfresh : ∀ nodeConfig ∈ nodeConfigs,
      nodeConfig.nodeId ≠ memoryNodeId ∧ nodeConfig.nodeId ∉ seen)
    (hsorted : ∀ nodeConfig ∈ nodeConfigs,
      (nodeConfig.requests.map RequestSpec.epochId).Pairwise (· ≤ ·))
    (hnodup : (nodeConfigs.map ComputeNodeConfig.nodeId).Nodup) :
    validateNodes memoryNodeId seen nodeConfigs = .ok () := by
  induction nodeConfigs generalizing seen with
  | nil => rfl
  | cons first rest ih =>
      rw [List.map_cons, List.nodup_cons] at hnodup
      obtain ⟨hmemory, hseen⟩ := hfresh first List.mem_cons_self
      simp only [validateNodes, bind_eq_ok, throwIf_eq_ok, exists_and_left, exists_const,
        decide_eq_false_iff_not, not_not]
      refine ⟨hmemory, hseen,
        List.isChain_iff_pairwise.mpr (hsorted first List.mem_cons_self), ?_⟩
      refine ih (fun nodeConfig hmem => ?_)
        (fun nodeConfig hmem => hsorted nodeConfig (List.mem_cons_of_mem first hmem)) hnodup.2
      obtain ⟨hmemory', hseen'⟩ := hfresh nodeConfig (List.mem_cons_of_mem first hmem)
      refine ⟨hmemory', fun hin => ?_⟩
      rcases List.mem_cons.mp hin with heq | hin
      · exact hnodup.1 (heq ▸ List.mem_map_of_mem hmem)
      · exact hseen' hin

/-- The constructor succeeds just when the preparation of the configuration does. -/
theorem construct_isOk_iff {A : Arith} {rng : RandomSource} {config : SimulationConfig} :
    (∃ s, construct A rng config = .ok s) ↔
      ∃ prepared, prepareConfig A rng config = .ok prepared := by
  unfold construct
  simp only [bind_eq_ok, pure_eq_ok, Prod.exists]
  constructor
  · rintro ⟨s, prepared, workload, h, -⟩
    exact ⟨prepared, workload, h⟩
  · rintro ⟨prepared, workload, h⟩
    exact ⟨_, prepared, workload, h, rfl⟩

/-- The configuration with the streams of the generated workload. -/
def withGenerated (config : SimulationConfig) (workload : SyntheticWorkloadConfig)
    (generated : GeneratedWorkload) : SimulationConfig :=
  { config with
    syntheticWorkload := some workload
    computeNodes := generated.nodeWorkloads.map (fun nodeWorkload =>
      { nodeId := nodeWorkload.nodeId, requests := nodeWorkload.requests }) }

theorem prepareConfig_isOk_iff {A : Arith} {rng : RandomSource} {config : SimulationConfig}
    {workload : SyntheticWorkloadConfig} (hworkload : config.syntheticWorkload = some workload)
    (hnodes : config.computeNodes = []) (hchannels : 0 < config.memoryChannelCount)
    (hsame : workload.memoryChannelCount = config.memoryChannelCount) :
    (∃ prepared, prepareConfig A rng config = .ok prepared) ↔
      ∃ generated, generateSyntheticWorkload A rng workload = .ok generated ∧
        validateConfig (withGenerated config workload generated) (some generated) = .ok () ∧
          0 < config.memoryBandwidthBytesPerTime := by
  have hwith : { workload with memoryChannelCount := config.memoryChannelCount } = workload := by
    rw [← hsame]
  unfold prepareConfig
  simp only [hworkload, hwith, bind_eq_ok, throwIf_eq_ok, exists_and_left, exists_const,
    decide_eq_false_iff_not, pure_eq_ok, Prod.exists, Prod.mk.injEq]
  constructor
  · rintro ⟨-, -, _, _, generated, hgenerate, _, _, ⟨rfl, rfl⟩, _, hvalid, hbandwidth, -, -⟩
    exact ⟨generated, hgenerate, hvalid, Nat.pos_of_ne_zero hbandwidth⟩
  · rintro ⟨generated, hgenerate, hvalid, hbandwidth⟩
    refine ⟨hchannels.ne', ?_, _, _, generated, hgenerate, _, _, ⟨rfl, rfl⟩, (), hvalid,
      hbandwidth.ne', rfl, rfl⟩
    rw [hnodes]
    decide

/-- The streams of a generated workload pass the checks on the nodes. -/
theorem validateConfig_withGenerated_iff {A : Arith} {rng : RandomSource}
    {config : SimulationConfig} {workload : SyntheticWorkloadConfig}
    {generated : GeneratedWorkload}
    (hgenerate : generateSyntheticWorkload A rng workload = .ok generated)
    (hnodup : workload.computeNodeIds.Nodup) :
    validateConfig (withGenerated config workload generated) (some generated) = .ok () ↔
      config.memoryNodeId ∉ workload.computeNodeIds := by
  have hids := generateSyntheticWorkload_nodeIds hgenerate
  have hnodeIds : (withGenerated config workload generated).computeNodes.map
      ComputeNodeConfig.nodeId = workload.computeNodeIds := by
    rw [← hids, withGenerated, List.map_map]
    rfl
  unfold validateConfig
  simp only [bind_eq_ok, throwIf_eq_ok, exists_and_left, exists_const]
  constructor
  · rintro ⟨-, hnodes⟩ hmem
    rw [← hnodeIds] at hmem
    obtain ⟨nodeConfig, hin, heq⟩ := List.mem_map.mp hmem
    exact ((validateNodes_spec hnodes).1 nodeConfig hin).1 heq
  · intro hmemory
    refine ⟨by simp, validateNodes_eq_ok (fun nodeConfig hmem => ?_) (fun nodeConfig hmem => ?_)
      (hnodeIds ▸ hnodup)⟩
    · refine ⟨fun heq => hmemory ?_, List.not_mem_nil⟩
      rw [← hnodeIds]
      exact List.mem_map.mpr ⟨nodeConfig, hmem, heq⟩
    · obtain ⟨w, hw, rfl⟩ := List.mem_map.mp hmem
      exact generateSyntheticWorkload_epochs hgenerate w hw

theorem construct_isOk_iff_runnable (A : Arith) (rng : RandomSource) {config : SimulationConfig}
    {workload : SyntheticWorkloadConfig} (hworkload : config.syntheticWorkload = some workload)
    (hnodes : config.computeNodes = []) (hrange : workload.InRange)
    (hchannels : 0 < config.memoryChannelCount)
    (hsame : workload.memoryChannelCount = config.memoryChannelCount) :
    (∃ s, construct A rng config = .ok s) ↔ config.Runnable A workload := by
  have hvalid := validate_eq_ok_iff (A := A) hrange (hchannels.trans_eq hsame.symm)
  rw [construct_isOk_iff, prepareConfig_isOk_iff hworkload hnodes hchannels hsame]
  constructor
  · rintro ⟨generated, hgenerate, hconfig, hbandwidth⟩
    have hcheck : validateSyntheticWorkloadConfig A workload = .ok () := by
      unfold generateSyntheticWorkload at hgenerate
      exact (bind_eq_ok.mp hgenerate).choose_spec.1
    have hrunnable := hvalid.mp hcheck
    rw [validateConfig_withGenerated_iff hgenerate hrunnable.nodeIds_nodup] at hconfig
    exact ⟨hbandwidth, hconfig, hrunnable⟩
  · intro h
    obtain ⟨generated, hgenerate, -⟩ :=
      exists_generateSyntheticWorkload A rng (hvalid.mpr h.workload)
    exact ⟨generated, hgenerate,
      (validateConfig_withGenerated_iff hgenerate h.workload.nodeIds_nodup).mpr h.memoryNode,
      h.bandwidth⟩

/-- A mapping of plain scalars. -/
def plainFields (fields : List (String × String)) : Yaml.Block :=
  .items (fields.map (fun field => .entry field.1.toList (.plain field.2.toList))) .done

/-- The fields that have no default. -/
def requiredFields : Yaml.Block :=
  .nested "experiment".toList (plainFields [("name", "small"), ("output_dir", "results")]) <|
  .nested "memory".toList (plainFields
    [("node_id", "99"), ("base_latency", "10"), ("bandwidth_bytes_per_time", "4")]) <|
  .nested "link".toList (plainFields [("one_way_latency", "2")]) <|
  .nested "local_cache".toList (plainFields
    [("capacity_bytes", "64"), ("hit_latency", "1"), ("policy", "lru")]) <|
  .nested "workload".toList (.entry "compute_node_ids".toList (.flow ["1".toList, "2".toList]) <|
    plainFields [("seed", "7"), ("object_count", "8"), ("object_size_bytes", "64"),
      ("requests_per_node_per_epoch", "4"), ("epoch_count", "2"), ("hot_set_size", "2"),
      ("hot_access_probability", "0.5"), ("hot_set_mode", "static"),
      ("cross_node_overlap", "high")])
  .done

end Simulator

end DmSimulator
