/-
  DmSimulator.Workloads.BurstOffsets

  The issue offsets of a generated bursty workload in machine arithmetic.

  The validator checks that the span of one burst fits a `SimTime`, but not that
  the offset of the last burst of an epoch does.  The offsets of a node are in
  order exactly if the last one, added up without wrapping, fits.
-/
import DmSimulator.Workloads.Generated

namespace DmSimulator

section Offsets

variable {A : Arith} {rng : RandomSource} {config : SyntheticWorkloadConfig}

/-- Wrapping at every step is wrapping once. -/
theorem scheduledIssueOffset_word64 (rng : RandomSource) (config : SyntheticWorkloadConfig)
    (nodeId : NodeId) (epochId : EpochId) (i : Nat) :
    scheduledIssueOffset .word64 rng config nodeId epochId i =
      scheduledIssueOffset .exact rng config nodeId epochId i % Arith.wordSize := by
  unfold scheduledIssueOffset
  split
  · rfl
  · simp [Arith.add, Arith.mul, Arith.norm]

-- ============================================================================
-- The offsets of a generated stream
-- ============================================================================

/-- When a request is to be issued. -/
def RequestSpec.plan (spec : RequestSpec) : EpochId × SimTime :=
  (spec.epochId, spec.scheduledIssueOffset)

/-- The planned offsets of one node in one epoch, from request index `i` on. -/
def epochPlan (A : Arith) (rng : RandomSource) (config : SyntheticWorkloadConfig)
    (nodeId : NodeId) (epochId : EpochId) (i count : Nat) : List (EpochId × SimTime) :=
  (List.range' i count).map (fun k => (epochId, scheduledIssueOffset A rng config nodeId epochId k))

/-- The planned offsets of one node in the first epochs. -/
def streamPlan (A : Arith) (rng : RandomSource) (config : SyntheticWorkloadConfig)
    (nodeId : NodeId) (epochs : Nat) : List (EpochId × SimTime) :=
  (List.range epochs).flatMap (fun epochId =>
    epochPlan A rng config nodeId epochId 0 config.requestsPerNodePerEpoch)

theorem streamPlan_succ (A : Arith) (rng : RandomSource) (config : SyntheticWorkloadConfig)
    (nodeId : NodeId) (epochs : Nat) :
    streamPlan A rng config nodeId (epochs + 1) = streamPlan A rng config nodeId epochs ++
      epochPlan A rng config nodeId epochs 0 config.requestsPerNodePerEpoch := by
  unfold streamPlan
  rw [List.range_succ, List.flatMap_append]
  simp

theorem generateRequests_plan {objectSizes : List Nat} {hotSet coldSet : List ObjectId}
    {nodeId : NodeId} {epochId : EpochId} {count i : Nat} {engine engine' : rng.Engine}
    {requests : List RequestSpec}
    (h : generateRequests A rng config objectSizes hotSet coldSet nodeId epochId count i engine =
      .ok (requests, engine')) :
    requests.map RequestSpec.plan = epochPlan A rng config nodeId epochId i count := by
  induction count generalizing i engine engine' requests with
  | zero =>
      simp only [generateRequests, pure_eq_ok, Prod.mk.injEq] at h
      rw [← h.1]
      rfl
  | succ count ih =>
      simp only [generateRequests, bind_eq_ok, pure_eq_ok, Prod.mk.injEq, Prod.exists] at h
      obtain ⟨objectId, engine₁, -, rest, engine₂, hrest, rfl, -⟩ := h
      rw [List.map_cons, ih hrest, epochPlan, epochPlan, List.range'_succ, List.map_cons]
      rfl

theorem generateEpoch_plan {objects : List ObjectId} {objectSizes : List Nat}
    {segments : HotSetSegments} {epochId : EpochId} {nodeIndex : Nat}
    {workloads workloads' : List NodeWorkload}
    {hotSets hotSets' : UnorderedMap NodeId (List ObjectId)} {engine engine' : rng.Engine}
    (h : generateEpoch A rng config objects objectSizes segments epochId nodeIndex workloads
      hotSets engine = .ok (workloads', hotSets', engine'))
    (hplan : ∀ w ∈ workloads,
      w.requests.map RequestSpec.plan = streamPlan A rng config w.nodeId epochId) :
    ∀ w ∈ workloads',
      w.requests.map RequestSpec.plan = streamPlan A rng config w.nodeId (epochId + 1) := by
  induction workloads generalizing nodeIndex workloads' hotSets hotSets' engine engine' with
  | nil =>
      simp only [generateEpoch, pure_eq_ok, Prod.mk.injEq] at h
      rw [← h.1]
      exact fun w hw => absurd hw List.not_mem_nil
  | cons workload rest ih =>
      simp only [generateEpoch, bind_eq_ok, pure_eq_ok, Prod.mk.injEq, Prod.exists] at h
      obtain ⟨requests, engine₁, hrequests, rest', hotSets₁, engine₂, hrest, rfl, -⟩ := h
      refine List.forall_mem_cons.mpr ⟨?_,
        ih hrest fun w hw => hplan w (List.mem_cons_of_mem workload hw)⟩
      show (workload.requests ++ requests).map RequestSpec.plan = _
      rw [List.map_append, hplan workload List.mem_cons_self, generateRequests_plan hrequests,
        streamPlan_succ]

theorem generateEpochs_plan {objects hotObjectCandidates : List ObjectId}
    {objectSizes : List Nat} {epochs : Nat} {epochId : EpochId} {segments : HotSetSegments}
    {cursor : Nat} {engine : rng.Engine} {workload workload' : GeneratedWorkload}
    (h : generateEpochs A rng config objects hotObjectCandidates objectSizes epochs epochId
      segments cursor engine workload = .ok workload')
    (hplan : ∀ w ∈ workload.nodeWorkloads,
      w.requests.map RequestSpec.plan = streamPlan A rng config w.nodeId epochId) :
    ∀ w ∈ workload'.nodeWorkloads,
      w.requests.map RequestSpec.plan = streamPlan A rng config w.nodeId (epochId + epochs) := by
  induction epochs generalizing epochId segments cursor engine workload with
  | zero =>
      simp only [generateEpochs, pure_eq_ok] at h
      rw [← h]
      exact hplan
  | succ epochs ih =>
      simp only [generateEpochs, bind_eq_ok, Prod.exists] at h
      obtain ⟨segments', cursor', -, workloads', hotSets', engine', hepoch, hrest⟩ := h
      have hsum : epochId + (epochs + 1) = epochId + 1 + epochs := by lia
      rw [hsum]
      exact ih hrest (generateEpoch_plan hepoch hplan)

/-- A generated stream follows the plan of its node. -/
theorem generateSyntheticWorkload_plan {workload : GeneratedWorkload}
    (h : generateSyntheticWorkload A rng config = .ok workload) :
    ∀ w ∈ workload.nodeWorkloads,
      w.requests.map RequestSpec.plan = streamPlan A rng config w.nodeId config.epochCount := by
  unfold generateSyntheticWorkload at h
  obtain ⟨-, -, hgenerate⟩ := bind_eq_ok.mp h
  have hplan := generateEpochs_plan hgenerate (by
    intro w hw
    obtain ⟨nodeId, -, rfl⟩ := List.mem_map.mp hw
    rfl)
  rwa [Nat.zero_add] at hplan

/-- The offsets of the requests of one epoch, in request order. -/
def offsetsIn (requests : List RequestSpec) (epochId : EpochId) : List SimTime :=
  (requests.filter (fun spec => spec.epochId = epochId)).map RequestSpec.scheduledIssueOffset

theorem offsetsIn_eq {requests : List RequestSpec} {nodeId : NodeId} {epochs : Nat}
    (hplan : requests.map RequestSpec.plan = streamPlan A rng config nodeId epochs)
    {epochId : EpochId} (hlt : epochId < epochs) :
    offsetsIn requests epochId = (List.range config.requestsPerNodePerEpoch).map
      (scheduledIssueOffset A rng config nodeId epochId) := by
  have hoffsets : offsetsIn requests epochId =
      ((requests.map RequestSpec.plan).filter (fun p => p.1 = epochId)).map Prod.snd := by
    unfold offsetsIn
    rw [List.filter_map, List.map_map]
    rfl
  rw [hoffsets, hplan]
  clear hoffsets hplan
  -- only the part of the epoch passes the filter
  have hepoch : ∀ e, (epochPlan A rng config nodeId e 0 config.requestsPerNodePerEpoch).filter
      (fun p => p.1 = epochId) =
        if e = epochId then epochPlan A rng config nodeId e 0 config.requestsPerNodePerEpoch
        else [] := by
    intro e
    unfold epochPlan
    rw [List.filter_map]
    by_cases heq : e = epochId
    · simp [heq, Function.comp_def]
    · simp [heq, Function.comp_def]
  induction epochs with
  | zero => exact absurd hlt (Nat.not_lt_zero _)
  | succ epochs ih =>
      rw [streamPlan_succ, List.filter_append, List.map_append, hepoch]
      by_cases heq : epochs = epochId
      · subst heq
        have hnone : (streamPlan A rng config nodeId epochs).filter (fun p => p.1 = epochs) = [] := by
          rw [List.filter_eq_nil_iff]
          intro p hp
          unfold streamPlan epochPlan at hp
          obtain ⟨e, he, hmem⟩ := List.mem_flatMap.mp hp
          obtain ⟨k, -, rfl⟩ := List.mem_map.mp hmem
          simpa using Nat.ne_of_lt (List.mem_range.mp he)
        rw [hnone, if_pos rfl, List.map_nil, List.nil_append, epochPlan, List.map_map,
          List.range_eq_range']
        rfl
      · rw [if_neg heq, List.map_nil, List.append_nil]
        exact ih (by lia)

-- ============================================================================
-- When the offsets are in order
-- ============================================================================

/-- The offset of the last request of an epoch, added up without wrapping. -/
def lastOffset (config : SyntheticWorkloadConfig) (jitter : SimTime) : Nat :=
  let lastIndex := config.requestsPerNodePerEpoch - 1
  jitter + lastIndex / config.burstSize * config.burstInterval +
    lastIndex % config.burstSize * config.intraBurstGap

theorem nodeEpochJitter_le (rng : RandomSource) (config : SyntheticWorkloadConfig)
    (nodeId : NodeId) (epochId : EpochId) :
    nodeEpochJitter rng config nodeId epochId ≤ config.nodePhaseJitter := by
  unfold nodeEpochJitter
  split
  · exact Nat.zero_le _
  · exact (rng.uniformInt_mem 0 config.nodePhaseJitter _ (Nat.zero_le _)).2

/-- The planned offsets of a node are in order exactly if the last one fits. -/
theorem scheduledIssueOffset_ordered_iff
    (h : validateSyntheticWorkloadConfig A config = .ok ())
    (hmode : config.issueMode = .scheduledBursty)
    (hinterval : config.burstInterval < Arith.wordSize)
    (hjitter : config.nodePhaseJitter < Arith.wordSize) (nodeId : NodeId) (epochId : EpochId) :
    (∀ i j, i ≤ j → j ≤ config.requestsPerNodePerEpoch - 1 →
      scheduledIssueOffset .word64 rng config nodeId epochId i ≤
        scheduledIssueOffset .word64 rng config nodeId epochId j) ↔
      lastOffset config (nodeEpochJitter rng config nodeId epochId) < Arith.wordSize := by
  obtain ⟨hfit, hgap⟩ := burstsFit_and_gap_le h hmode
  have hbursty : config.issueMode ≠ .completionDriven := by
    rw [hmode]
    decide
  have hpos : 0 < Arith.wordSize := by decide
  have hlast : scheduledIssueOffset .exact rng config nodeId epochId
      (config.requestsPerNodePerEpoch - 1) =
        lastOffset config (nodeEpochJitter rng config nodeId epochId) := by
    unfold scheduledIssueOffset lastOffset
    rw [if_neg hbursty]
    rfl
  have hfirst : scheduledIssueOffset .exact rng config nodeId epochId 0 =
      nodeEpochJitter rng config nodeId epochId := by
    unfold scheduledIssueOffset
    simp [if_neg hbursty]
  simp only [scheduledIssueOffset_word64]
  rw [← hlast]
  refine Arith.reduced_monotone_iff (scheduledIssueOffset_le_succ hfit rng nodeId epochId) ?_ ?_
  · intro i
    rcases scheduledIssueOffset_succ hfit.burstSize_pos hmode rng nodeId epochId i with
      ⟨hlt, heq⟩ | heq
    · have hsmall := hgap (by omega)
      lia
    · lia
  · rw [hfirst]
    exact lt_of_le_of_lt (nodeEpochJitter_le rng config nodeId epochId) hjitter

/-- For every accepted bursty configuration of machine times and every source of
    jitter, the offsets of a node in an epoch are nondecreasing exactly if the last of
    them does not overflow. -/
theorem generateSyntheticWorkload_offsets_ordered_iff (rng : RandomSource)
    (h : validateSyntheticWorkloadConfig .word64 config = .ok ())
    (hmode : config.issueMode = .scheduledBursty)
    (hinterval : config.burstInterval < Arith.wordSize)
    (hjitter : config.nodePhaseJitter < Arith.wordSize) :
    ∃ workload, generateSyntheticWorkload .word64 rng config = .ok workload ∧
      ∀ w ∈ workload.nodeWorkloads, ∀ epochId, epochId < config.epochCount →
        ((offsetsIn w.requests epochId).Pairwise (· ≤ ·) ↔
          lastOffset config (nodeEpochJitter rng config w.nodeId epochId) < Arith.wordSize) := by
  obtain ⟨workload, hgenerate, -⟩ := exists_generateSyntheticWorkload .word64 rng h
  refine ⟨workload, hgenerate, fun w hw epochId hlt => ?_⟩
  rw [offsetsIn_eq (generateSyntheticWorkload_plan hgenerate w hw) hlt,
    ← scheduledIssueOffset_ordered_iff h hmode hinterval hjitter, List.pairwise_map,
    List.pairwise_iff_getElem]
  simp only [List.getElem_range, List.length_range]
  constructor
  · intro hall i j hij hj
    rcases Nat.eq_or_lt_of_le hij with rfl | hless
    · exact le_refl _
    by_cases hnone : config.requestsPerNodePerEpoch = 0
    · omega
    · exact hall i j (by omega) (by omega) hless
  · intro hall i j hi hj hless
    exact hall i j (by omega) (by omega)

end Offsets

/-- One node whose bursts of one request are half a word of time apart. -/
def distantBursts (requests : Nat) : SyntheticWorkloadConfig :=
  { computeNodeIds := [1]
    objectCount := 1
    requestsPerNodePerEpoch := requests
    hotSetSize := 1
    issueMode := .scheduledBursty
    burstSize := 1
    burstInterval := 2 ^ 63 }

theorem distantBursts_ordered_iff :
    ∃ workload,
      generateSyntheticWorkload .word64 lowestSource (distantBursts 2) = .ok workload ∧
      ∀ w ∈ workload.nodeWorkloads, ∀ epochId, epochId < 1 →
        ((offsetsIn w.requests epochId).Pairwise (· ≤ ·) ↔
          lastOffset (distantBursts 2)
            (nodeEpochJitter lowestSource (distantBursts 2) w.nodeId epochId) < Arith.wordSize) :=
  generateSyntheticWorkload_offsets_ordered_iff lowestSource (by decide +kernel) rfl
    (by decide) (by decide)

/-- Three requests are accepted, but the offset of the third wraps to zero. -/
theorem distantBursts_not_ordered :
    validateSyntheticWorkloadConfig .word64 (distantBursts 3) = .ok () ∧
      ∃ workload,
        generateSyntheticWorkload .word64 lowestSource (distantBursts 3) = .ok workload ∧
        ∃ w ∈ workload.nodeWorkloads, offsetsIn w.requests 0 = [0, 2 ^ 63, 0] ∧
          ¬ (offsetsIn w.requests 0).Pairwise (· ≤ ·) := by
  have hvalid : validateSyntheticWorkloadConfig .word64 (distantBursts 3) = .ok () := by
    decide +kernel
  obtain ⟨workload, hgenerate, -⟩ := exists_generateSyntheticWorkload .word64 lowestSource hvalid
  have hoffsets : (generateSyntheticWorkload .word64 lowestSource (distantBursts 3)).toOption.any
      (fun result => result.nodeWorkloads.any fun w => offsetsIn w.requests 0 = [0, 2 ^ 63, 0]) =
        true := by decide +kernel
  rw [hgenerate] at hoffsets
  obtain ⟨w, hw, heq⟩ := List.any_eq_true.mp hoffsets
  refine ⟨hvalid, workload, hgenerate, w, hw, of_decide_eq_true heq, ?_⟩
  rw [of_decide_eq_true heq]
  decide +kernel

end DmSimulator
