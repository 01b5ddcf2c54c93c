/-
  DmSimulator.Workloads.AccessPattern

  Timing and object sizes stay out of the access pattern: two configurations
  that differ in nothing else draw the same objects from the same engine, epoch
  by epoch and node by node.  Sizes are looked up in one table, so an object has
  one size in a workload.
-/
import DmSimulator.Lib.Lockstep
import DmSimulator.Workloads.Generated

namespace DmSimulator

/-- The configuration with the arrival schedule and the object sizes at their
    defaults. -/
def withDefaultTimingAndSizes (config : SyntheticWorkloadConfig) : SyntheticWorkloadConfig :=
  let defaults : SyntheticWorkloadConfig := {}
  { config with
    issueMode := defaults.issueMode
    burstSize := defaults.burstSize
    burstInterval := defaults.burstInterval
    intraBurstGap := defaults.intraBurstGap
    nodePhaseJitter := defaults.nodePhaseJitter
    objectSizeMode := defaults.objectSizeMode
    objectSizeBytes := defaults.objectSizeBytes
    objectSizeSmallBytes := defaults.objectSizeSmallBytes
    objectSizeLargeBytes := defaults.objectSizeLargeBytes
    largeObjectProbability := defaults.largeObjectProbability }

/-- The two configurations differ at most in the arrival schedule and the object
    sizes. -/
def SamePattern (config config' : SyntheticWorkloadConfig) : Prop :=
  withDefaultTimingAndSizes config = withDefaultTimingAndSizes config'

/-- What does not depend on timing and sizes is the same. -/
theorem SamePattern.congr {config config' : SyntheticWorkloadConfig}
    (h : SamePattern config config') {α : Type} (f : SyntheticWorkloadConfig → α)
    (hf : ∀ config, f (withDefaultTimingAndSizes config) = f config) : f config = f config' := by
  unfold SamePattern at h
  rw [← hf config, ← hf config', h]

/-- What a request accesses, and when in the order of epochs. -/
def RequestSpec.access (spec : RequestSpec) : ObjectId × EpochId := (spec.objectId, spec.epochId)

/-- The accesses of a node, in stream order. -/
def NodeWorkload.accesses (workload : NodeWorkload) : NodeId × List (ObjectId × EpochId) :=
  (workload.nodeId, workload.requests.map RequestSpec.access)

/-- Every object has one size, in all streams. -/
def OneSizePerObject (workloads : List NodeWorkload) : Prop :=
  ∀ workload ∈ workloads, ∀ spec ∈ workload.requests,
    ∀ other ∈ workloads, ∀ spec' ∈ other.requests,
      spec.objectId = spec'.objectId → spec.sizeBytes = spec'.sizeBytes

-- ============================================================================
-- One size table
-- ============================================================================

/-- The sizes of a stream come from the table. -/
def SizedBy (objectSizes : List Nat) (requests : List RequestSpec) : Prop :=
  ∀ spec ∈ requests, spec.sizeBytes = objectSizes.getD spec.objectId 0

theorem oneSizePerObject_of_sizedBy {objectSizes : List Nat} {workloads : List NodeWorkload}
    (h : ∀ workload ∈ workloads, SizedBy objectSizes workload.requests) :
    OneSizePerObject workloads := by
  intro workload hworkload spec hspec other hother spec' hspec' hobject
  rw [h workload hworkload spec hspec, h other hother spec' hspec', hobject]

-- ============================================================================
-- Two generations side by side
-- ============================================================================

section TwoRuns

variable {A : Arith} {rng : RandomSource} {config config' : SyntheticWorkloadConfig}
  {objectSizes objectSizes' : List Nat}

/-- Streams with the same accesses, each with the sizes of its own table. -/
structure SameAccesses (objectSizes objectSizes' : List Nat)
    (requests requests' : List RequestSpec) : Prop where
  access_eq : requests.map RequestSpec.access = requests'.map RequestSpec.access
  sized : SizedBy objectSizes requests
  sized' : SizedBy objectSizes' requests'

theorem SameAccesses.cons {spec spec' : RequestSpec} {requests requests' : List RequestSpec}
    (haccess : spec.access = spec'.access)
    (hsize : spec.sizeBytes = objectSizes.getD spec.objectId 0)
    (hsize' : spec'.sizeBytes = objectSizes'.getD spec'.objectId 0)
    (h : SameAccesses objectSizes objectSizes' requests requests') :
    SameAccesses objectSizes objectSizes' (spec :: requests) (spec' :: requests') := by
  refine ⟨?_, ?_, ?_⟩
  · rw [List.map_cons, List.map_cons, haccess, h.access_eq]
  · exact List.forall_mem_cons.mpr ⟨hsize, h.sized⟩
  · exact List.forall_mem_cons.mpr ⟨hsize', h.sized'⟩

theorem SameAccesses.append {first first' second second' : List RequestSpec}
    (h : SameAccesses objectSizes objectSizes' first first')
    (h' : SameAccesses objectSizes objectSizes' second second') :
    SameAccesses objectSizes objectSizes' (first ++ second) (first' ++ second') := by
  refine ⟨?_, ?_, ?_⟩
  · rw [List.map_append, List.map_append, h.access_eq, h'.access_eq]
  · exact fun spec hspec => (List.mem_append.mp hspec).elim (h.sized spec) (h'.sized spec)
  · exact fun spec hspec => (List.mem_append.mp hspec).elim (h.sized' spec) (h'.sized' spec)

theorem generateRequests_lockstep (hprobability :
      config.hotAccessProbability = config'.hotAccessProbability)
    (hotSet coldSet : List ObjectId) (nodeId : NodeId) (epochId : EpochId) (count i : Nat)
    (engine : rng.Engine) :
    Lockstep (fun result result' => result.2 = result'.2 ∧
        SameAccesses objectSizes objectSizes' result.1 result'.1)
      (generateRequests A rng config objectSizes hotSet coldSet nodeId epochId count i engine)
      (generateRequests A rng config' objectSizes' hotSet coldSet nodeId epochId count i
        engine) := by
  induction count generalizing i engine with
  | zero => exact Lockstep.pure ⟨rfl, rfl, by simp [SizedBy], by simp [SizedBy]⟩
  | succ count ih =>
      rw [generateRequests, generateRequests, hprobability]
      refine (Lockstep.refl (R := Eq) (fun _ => rfl) _).bind ?_
      rintro ⟨objectId, engine₁⟩ _ rfl
      refine (ih (i + 1) engine₁).bind ?_
      rintro ⟨rest, engine₂⟩ ⟨rest', engine₂'⟩ ⟨hengine, hrest⟩
      simp only at hengine hrest
      subst hengine
      exact Lockstep.pure ⟨rfl, SameAccesses.cons rfl rfl rfl hrest⟩

/-- Workloads with the same accesses, node by node. -/
def SameWorkloads (objectSizes objectSizes' : List Nat) :
    List NodeWorkload → List NodeWorkload → Prop :=
  List.Forall₂ (fun workload workload' => workload.nodeId = workload'.nodeId ∧
    SameAccesses objectSizes objectSizes' workload.requests workload'.requests)

theorem generateEpoch_lockstep
    (hprobability : config.hotAccessProbability = config'.hotAccessProbability)
    (hcount : config.requestsPerNodePerEpoch = config'.requestsPerNodePerEpoch)
    (objects : List ObjectId) (segments : HotSetSegments) (epochId : EpochId) {nodeIndex : Nat}
    {workloads workloads' : List NodeWorkload}
    (hworkloads : SameWorkloads objectSizes objectSizes' workloads workloads')
    (hotSets : UnorderedMap NodeId (List ObjectId)) (engine : rng.Engine) :
    Lockstep (fun result result' => result.2 = result'.2 ∧
        SameWorkloads objectSizes objectSizes' result.1 result'.1)
      (generateEpoch A rng config objects objectSizes segments epochId nodeIndex workloads
        hotSets engine)
      (generateEpoch A rng config' objects objectSizes' segments epochId nodeIndex workloads'
        hotSets engine) := by
  induction hworkloads generalizing nodeIndex hotSets engine with
  | nil => exact Lockstep.pure ⟨rfl, List.Forall₂.nil⟩
  | @cons workload workload' rest rest' hworkload hrest ih =>
      obtain ⟨hnode, haccesses⟩ := hworkload
      rw [generateEpoch, generateEpoch, ← hnode, hcount]
      refine (generateRequests_lockstep hprobability _ _ _ _ _ _ _).bind ?_
      rintro ⟨requests, engine₁⟩ ⟨requests', engine₁'⟩ ⟨hengine, hrequests⟩
      simp only at hengine hrequests
      subst hengine
      refine (ih _ _).bind ?_
      rintro ⟨tail, state⟩ ⟨tail', state'⟩ ⟨hstate, htail⟩
      simp only at hstate htail
      subst hstate
      exact Lockstep.pure ⟨rfl, List.Forall₂.cons ⟨rfl, haccesses.append hrequests⟩ htail⟩

theorem generateEpochs_lockstep (h : SamePattern config config')
    (objects candidates : List ObjectId) (epochs : Nat) (epochId : EpochId)
    (segments : HotSetSegments) (cursor : Nat) (engine : rng.Engine)
    {workload workload' : GeneratedWorkload} (hepochs : workload.epochs = workload'.epochs)
    (hworkloads : SameWorkloads objectSizes objectSizes' workload.nodeWorkloads
      workload'.nodeWorkloads) :
    Lockstep (fun result result' => result.epochs = result'.epochs ∧
        SameWorkloads objectSizes objectSizes' result.nodeWorkloads result'.nodeWorkloads)
      (generateEpochs A rng config objects candidates objectSizes epochs epochId segments cursor
        engine workload)
      (generateEpochs A rng config' objects candidates objectSizes' epochs epochId segments
        cursor engine workload') := by
  induction epochs generalizing epochId segments cursor engine workload workload' with
  | zero => exact Lockstep.pure ⟨hepochs, hworkloads⟩
  | succ epochs ih =>
      rw [generateEpochs, generateEpochs, h.congr epochLayout (fun _ => rfl)]
      refine (Lockstep.refl (R := Eq) (fun _ => rfl) _).bind ?_
      rintro ⟨segments', cursor'⟩ _ rfl
      refine (generateEpoch_lockstep
        (h.congr SyntheticWorkloadConfig.hotAccessProbability (fun _ => rfl))
        (h.congr SyntheticWorkloadConfig.requestsPerNodePerEpoch (fun _ => rfl))
        objects segments' epochId hworkloads ∅ engine).bind ?_
      rintro ⟨workloads, hotSets, engine'⟩ ⟨workloads', state'⟩ ⟨hstate, hsame⟩
      simp only at hstate hsame
      subst hstate
      exact ih (epochId + 1) segments' cursor' engine' (by rw [hepochs]) hsame

theorem SameWorkloads.accesses_eq {workloads workloads' : List NodeWorkload}
    (h : SameWorkloads objectSizes objectSizes' workloads workloads') :
    workloads.map NodeWorkload.accesses = workloads'.map NodeWorkload.accesses := by
  induction h with
  | nil => rfl
  | cons hworkload hrest ih =>
      rw [List.map_cons, List.map_cons, ih]
      unfold NodeWorkload.accesses
      rw [hworkload.1, hworkload.2.access_eq]

theorem SameWorkloads.sized {workloads workloads' : List NodeWorkload}
    (h : SameWorkloads objectSizes objectSizes' workloads workloads') :
    (∀ workload ∈ workloads, SizedBy objectSizes workload.requests) ∧
      ∀ workload ∈ workloads', SizedBy objectSizes' workload.requests := by
  induction h with
  | nil => exact ⟨by simp, by simp⟩
  | cons hworkload hrest ih =>
      exact ⟨List.forall_mem_cons.mpr ⟨hworkload.2.sized, ih.1⟩,
        List.forall_mem_cons.mpr ⟨hworkload.2.sized', ih.2⟩⟩

variable (rng) in
theorem generateSyntheticWorkload_lockstep
    (h : validateSyntheticWorkloadConfig A config = .ok ())
    (h' : validateSyntheticWorkloadConfig A config' = .ok ()) (hsame : SamePattern config config') :
    Lockstep (fun result result' => result.epochs = result'.epochs ∧
        SameWorkloads (objectSizesById rng config) (objectSizesById rng config')
          result.nodeWorkloads result'.nodeWorkloads)
      (generateSyntheticWorkload A rng config) (generateSyntheticWorkload A rng config') := by
  have hstart : SameWorkloads (objectSizesById rng config) (objectSizesById rng config')
      (config'.computeNodeIds.map (fun nodeId => { nodeId := nodeId, requests := [] }))
      (config'.computeNodeIds.map (fun nodeId => { nodeId := nodeId, requests := [] })) := by
    refine List.forall₂_map_left_iff.mpr (List.forall₂_map_right_iff.mpr
      (List.forall₂_same.mpr fun nodeId _ => ⟨rfl, rfl, ?_, ?_⟩))
    · exact fun spec hspec => absurd hspec List.not_mem_nil
    · exact fun spec hspec => absurd hspec List.not_mem_nil
  unfold generateSyntheticWorkload
  rw [h, h', hsame.congr SyntheticWorkloadConfig.seed (fun _ => rfl),
    hsame.congr SyntheticWorkloadConfig.objectCount (fun _ => rfl),
    hsame.congr SyntheticWorkloadConfig.computeNodeIds (fun _ => rfl),
    hsame.congr SyntheticWorkloadConfig.epochCount (fun _ => rfl),
    hsame.congr eligibleHotObjects (fun _ => rfl)]
  exact generateEpochs_lockstep hsame _ _ _ 0 {} 0 _ rfl hstart

end TwoRuns

/-- The sizes of a generated workload come from one table. -/
theorem sizedBy_of_generate {A : Arith} {rng : RandomSource} {config : SyntheticWorkloadConfig}
    {workload : GeneratedWorkload}
    (hgenerate : generateSyntheticWorkload A rng config = .ok workload) :
    ∀ nodeWorkload ∈ workload.nodeWorkloads,
      SizedBy (objectSizesById rng config) nodeWorkload.requests := by
  have hvalid : validateSyntheticWorkloadConfig A config = .ok () := by
    unfold generateSyntheticWorkload at hgenerate
    obtain ⟨⟨⟩, hvalid, -⟩ := bind_eq_ok.mp hgenerate
    exact hvalid
  have hlockstep := generateSyntheticWorkload_lockstep rng hvalid hvalid rfl
  rw [hgenerate] at hlockstep
  obtain ⟨_, -, -, hsame⟩ := hlockstep.ok_right
  exact hsame.sized.1

/-- Two accepted configurations that differ in the arrival schedule and the
    object sizes alone generate the same accesses and the same hot sets. -/
theorem generateSyntheticWorkload_accesses (A : Arith) (rng : RandomSource)
    {config config' : SyntheticWorkloadConfig}
    (h : validateSyntheticWorkloadConfig A config = .ok ())
    (h' : validateSyntheticWorkloadConfig A config' = .ok ())
    (hsame : SamePattern config config') :
    ∃ workload workload', generateSyntheticWorkload A rng config = .ok workload ∧
      generateSyntheticWorkload A rng config' = .ok workload' ∧
      workload.nodeWorkloads.map NodeWorkload.accesses =
        workload'.nodeWorkloads.map NodeWorkload.accesses ∧
      workload.epochs = workload'.epochs ∧
      OneSizePerObject workload.nodeWorkloads ∧ OneSizePerObject workload'.nodeWorkloads := by
  obtain ⟨workload, hworkload, -⟩ := exists_generateSyntheticWorkload A rng h
  have hlockstep := generateSyntheticWorkload_lockstep rng h h' hsame
  rw [hworkload] at hlockstep
  obtain ⟨workload', hworkload', hmeta, hsames⟩ := hlockstep.ok_right
  exact ⟨workload, workload', hworkload, hworkload', hsames.accesses_eq, hmeta,
    oneSizePerObject_of_sizedBy hsames.sized.1, oneSizePerObject_of_sizedBy hsames.sized.2⟩

/-- The churning configuration with bursty arrivals and two object sizes. -/
def burstyChurningConfig : SyntheticWorkloadConfig :=
  { churningConfig with
    issueMode := .scheduledBursty
    burstSize := 2
    burstInterval := 7
    intraBurstGap := 3
    nodePhaseJitter := 5
    objectSizeMode := .bimodal
    objectSizeSmallBytes := 32
    objectSizeLargeBytes := 128
    largeObjectProbability := 1 / 2 }

theorem burstyChurningConfig_accesses :
    ∃ workload workload',
      generateSyntheticWorkload .exact lowestSource churningConfig = .ok workload ∧
      generateSyntheticWorkload .exact lowestSource burstyChurningConfig = .ok workload' ∧
      workload.nodeWorkloads.map NodeWorkload.accesses =
        workload'.nodeWorkloads.map NodeWorkload.accesses ∧
      workload.epochs = workload'.epochs ∧
      OneSizePerObject workload.nodeWorkloads ∧ OneSizePerObject workload'.nodeWorkloads :=
  generateSyntheticWorkload_accesses .exact lowestSource churningConfig_valid
    (by decide +kernel) rfl

end DmSimulator
