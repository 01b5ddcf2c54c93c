/-
  DmSimulator.Workloads.ChannelCount

  What a generated workload has to do with the memory channels.

  Unless the hot objects are kept to some of the channels, the generator does not
  look at the number of channels beyond checking it.  Its requests are for the
  objects of its universe.
-/
import DmSimulator.Workloads.Generated

namespace DmSimulator

namespace SyntheticWorkloadConfig

/-- The configuration with another number of memory channels. -/
def withChannels (config : SyntheticWorkloadConfig) (count : Nat) : SyntheticWorkloadConfig :=
  { config with memoryChannelCount := count }

end SyntheticWorkloadConfig

section Channels

variable (A : Arith) (rng : RandomSource) (config : SyntheticWorkloadConfig) (count : Nat)

theorem generateRequests_withChannels (objectSizes : List Nat) (hotSet coldSet : List ObjectId)
    (nodeId : NodeId) (epochId : EpochId) (requests i : Nat) (engine : rng.Engine) :
    generateRequests A rng (config.withChannels count) objectSizes hotSet coldSet nodeId epochId
        requests i engine =
      generateRequests A rng config objectSizes hotSet coldSet nodeId epochId requests i
        engine := by
  induction requests generalizing i engine with
  | zero => rfl
  | succ requests ih =>
      rw [generateRequests, generateRequests]
      simp only [ih]
      rfl

theorem generateEpoch_withChannels (objects : List ObjectId) (objectSizes : List Nat)
    (segments : HotSetSegments) (epochId : EpochId) (nodeIndex : Nat)
    (workloads : List NodeWorkload) (hotSets : UnorderedMap NodeId (List ObjectId))
    (engine : rng.Engine) :
    generateEpoch A rng (config.withChannels count) objects objectSizes segments epochId nodeIndex
        workloads hotSets engine =
      generateEpoch A rng config objects objectSizes segments epochId nodeIndex workloads hotSets
        engine := by
  induction workloads generalizing nodeIndex hotSets engine with
  | nil => rfl
  | cons workload rest ih =>
      rw [generateEpoch, generateEpoch]
      simp only [ih, generateRequests_withChannels]
      rfl

theorem generateEpochs_withChannels (objects candidates : List ObjectId)
    (objectSizes : List Nat) (epochs : Nat) (epochId : EpochId) (segments : HotSetSegments)
    (cursor : Nat) (engine : rng.Engine) (workload : GeneratedWorkload) :
    generateEpochs A rng (config.withChannels count) objects candidates objectSizes epochs epochId
        segments cursor engine workload =
      generateEpochs A rng config objects candidates objectSizes epochs epochId segments cursor
        engine workload := by
  induction epochs generalizing epochId segments cursor engine workload with
  | zero => rfl
  | succ epochs ih =>
      rw [generateEpochs, generateEpochs]
      simp only [ih, generateEpoch_withChannels]
      rfl

theorem objectSizesById_withChannels :
    objectSizesById rng (config.withChannels count) = objectSizesById rng config := by
  have hdraw : ∀ objects engine, drawSizes rng (config.withChannels count) objects engine =
      drawSizes rng config objects engine := by
    intro objects engine
    induction objects generalizing engine with
    | zero => rfl
    | succ objects ih =>
        rw [drawSizes, drawSizes]
        simp only [ih]
        rfl
  unfold objectSizesById
  simp only [hdraw]
  rfl

/-- Where every object is eligible, all of them are. -/
theorem eligibleHotObjects_eq_self {config : SyntheticWorkloadConfig}
    (h : config.hotObjectChannelCount = 0) (objects : List ObjectId) :
    eligibleHotObjects config objects = objects := by
  unfold eligibleHotObjects effectiveHotObjectChannelCount
  simp only
  rw [if_pos h, if_pos rfl]

/-- Two accepted numbers of channels give the same workload. -/
theorem generateSyntheticWorkload_withChannels {config : SyntheticWorkloadConfig}
    (hhot : config.hotObjectChannelCount = 0) {count : Nat} {workload workload' : GeneratedWorkload}
    (h : generateSyntheticWorkload A rng config = .ok workload)
    (h' : generateSyntheticWorkload A rng (config.withChannels count) = .ok workload') :
    workload' = workload := by
  unfold generateSyntheticWorkload at h h'
  obtain ⟨-, -, hgenerate⟩ := bind_eq_ok.mp h
  obtain ⟨-, -, hgenerate'⟩ := bind_eq_ok.mp h'
  simp only [generateEpochs_withChannels, objectSizesById_withChannels] at hgenerate'
  have hhot' : (config.withChannels count).hotObjectChannelCount = 0 := hhot
  simp only [eligibleHotObjects_eq_self hhot'] at hgenerate'
  simp only [eligibleHotObjects_eq_self hhot] at hgenerate
  exact Except.ok.inj (hgenerate'.symm.trans hgenerate)

end Channels

-- ============================================================================
-- The objects of the requests
-- ============================================================================

section Objects

variable {A : Arith} {rng : RandomSource} {config : SyntheticWorkloadConfig}

/-- The requests are for the given objects. -/
def Accesses (objects : List ObjectId) (requests : List RequestSpec) : Prop :=
  ∀ spec ∈ requests, spec.objectId ∈ objects

theorem hotSetForNode_subset (segments : HotSetSegments) (nodeIndex : Nat) :
    hotSetForNode segments nodeIndex ⊆ allHotObjects segments := by
  unfold hotSetForNode allHotObjects
  rw [List.getD_eq_getElem?_getD]
  intro objectId hobject
  rcases List.mem_append.mp hobject with hshared | hprivate
  · exact List.mem_append_left _ hshared
  · cases hsegment : segments.privateHotObjectsByNode[nodeIndex]? with
    | none =>
        rw [hsegment] at hprivate
        exact absurd hprivate List.not_mem_nil
    | some segment =>
        rw [hsegment] at hprivate
        exact List.mem_append_right _
          (List.mem_flatten.mpr ⟨segment, List.mem_of_getElem? hsegment, hprivate⟩)

/-- The chosen object is one of the two sets. -/
theorem mem_of_chooseObject {hotSet coldSet : List ObjectId} {hotAccessProbability : Rat}
    {engine engine' : rng.Engine} {objectId : ObjectId}
    (h : chooseObject rng hotSet coldSet hotAccessProbability engine = .ok (objectId, engine')) :
    objectId ∈ hotSet ∨ objectId ∈ coldSet := by
  unfold chooseObject at h
  simp only at h
  generalize hcandidates : (if ((rng.bernoulli hotAccessProbability engine).1 ||
    coldSet.isEmpty) = true then hotSet else coldSet) = candidates at h
  have hsubset : objectId ∈ candidates → objectId ∈ hotSet ∨ objectId ∈ coldSet := by
    rw [← hcandidates]
    split
    · exact Or.inl
    · exact Or.inr
  by_cases hempty : candidates.isEmpty = true
  · rw [if_pos hempty] at h
    cases h
  · rw [if_neg hempty] at h
    generalize hfound : candidates[(rng.uniformInt 0 (candidates.length - 1)
      (rng.bernoulli hotAccessProbability engine).2).1]? = found at h
    cases found with
    | none => cases h
    | some found =>
        obtain ⟨rfl, -⟩ := Prod.mk.inj (Except.ok.inj h)
        exact hsubset (List.mem_of_getElem? hfound)

theorem generateRequests_accesses {objects objectSizes hotSet coldSet : List Nat}
    (hhot : hotSet ⊆ objects) (hcold : coldSet ⊆ objects) {nodeId : NodeId} {epochId : EpochId}
    {count i : Nat} {engine engine' : rng.Engine} {requests : List RequestSpec}
    (h : generateRequests A rng config objectSizes hotSet coldSet nodeId epochId count i engine =
      .ok (requests, engine')) : Accesses objects requests := by
  induction count generalizing i engine engine' requests with
  | zero =>
      simp only [generateRequests, pure_eq_ok, Prod.mk.injEq] at h
      rw [← h.1]
      exact fun spec hspec => absurd hspec List.not_mem_nil
  | succ count ih =>
      simp only [generateRequests, bind_eq_ok, pure_eq_ok, Prod.mk.injEq, Prod.exists] at h
      obtain ⟨objectId, engine₁, hchoose, rest, engine₂, hrest, rfl, -⟩ := h
      refine List.forall_mem_cons.mpr ⟨?_, ih hrest⟩
      rcases mem_of_chooseObject hchoose with hmem | hmem
      · exact hhot hmem
      · exact hcold hmem

theorem generateEpoch_accesses {objects : List ObjectId} {objectSizes : List Nat}
    {segments : HotSetSegments} (hsegments : allHotObjects segments ⊆ objects)
    {epochId : EpochId} {nodeIndex : Nat} {workloads workloads' : List NodeWorkload}
    {hotSets hotSets' : UnorderedMap NodeId (List ObjectId)} {engine engine' : rng.Engine}
    (h : generateEpoch A rng config objects objectSizes segments epochId nodeIndex workloads
      hotSets engine = .ok (workloads', hotSets', engine'))
    (hworkloads : ∀ w ∈ workloads, Accesses objects w.requests) :
    ∀ w ∈ workloads', Accesses objects w.requests := by
  induction workloads generalizing nodeIndex workloads' hotSets hotSets' engine engine' with
  | nil =>
      simp only [generateEpoch, pure_eq_ok, Prod.mk.injEq] at h
      rw [← h.1]
      exact hworkloads
  | cons workload rest ih =>
      simp only [generateEpoch, bind_eq_ok, pure_eq_ok, Prod.mk.injEq, Prod.exists] at h
      obtain ⟨requests, engine₁, hrequests, rest', hotSets₁, engine₂, hrest, rfl, -⟩ := h
      have hnew : Accesses objects requests := generateRequests_accesses
        (fun objectId hobject => hsegments (hotSetForNode_subset segments nodeIndex hobject))
        (fun objectId hobject => (List.mem_filter.mp hobject).1) hrequests
      refine List.forall_mem_cons.mpr ⟨fun spec hspec => ?_,
        ih hrest fun w hw => hworkloads w (List.mem_cons_of_mem workload hw)⟩
      rcases List.mem_append.mp hspec with hold | hin
      · exact hworkloads workload List.mem_cons_self spec hold
      · exact hnew spec hin

theorem generateEpochs_accesses (h : WorkloadChecked config) {objects : List ObjectId}
    (hperm : objects.Perm (makeObjectUniverse config.objectCount)) {objectSizes : List Nat}
    {epochs : Nat} {epochId : EpochId} {segments : HotSetSegments}
    (hsegments : epochId = 0 ∨ Layout config (eligibleHotObjects config objects) segments)
    {cursor : Nat} {engine : rng.Engine} {workload workload' : GeneratedWorkload}
    (hgenerate : generateEpochs A rng config objects (eligibleHotObjects config objects)
      objectSizes epochs epochId segments cursor engine workload = .ok workload')
    (hworkloads : ∀ w ∈ workload.nodeWorkloads, Accesses objects w.requests) :
    ∀ w ∈ workload'.nodeWorkloads, Accesses objects w.requests := by
  induction epochs generalizing epochId segments cursor engine workload with
  | zero =>
      simp only [generateEpochs, pure_eq_ok] at hgenerate
      rw [← hgenerate]
      exact hworkloads
  | succ epochs ih =>
      simp only [generateEpochs, bind_eq_ok, Prod.exists] at hgenerate
      obtain ⟨segments', cursor', hlayout, workloads', hotSets', engine', hepoch, hrest⟩ :=
        hgenerate
      obtain ⟨segments₁, cursor₁, hlayout₁, hspec⟩ :=
        epochLayout_spec (hotSetsFit h hperm) hsegments cursor
      obtain ⟨rfl, -⟩ := Prod.mk.inj (Except.ok.inj (hlayout.symm.trans hlayout₁))
      have hsubset : allHotObjects segments' ⊆ objects := by
        intro objectId hobject
        have hcandidate := hspec.mem objectId hobject
        rw [eligibleHotObjects_eq_filter h.channels_pos] at hcandidate
        exact (List.mem_filter.mp hcandidate).1
      exact ih (Or.inr hspec) hrest (generateEpoch_accesses hsubset hepoch hworkloads)

/-- The requests of a generated workload are for objects that exist. -/
theorem generateSyntheticWorkload_inRange {workload : GeneratedWorkload}
    (h : generateSyntheticWorkload A rng config = .ok workload) :
    ∀ w ∈ workload.nodeWorkloads, ∀ spec ∈ w.requests,
      1 ≤ spec.objectId ∧ spec.objectId ≤ config.objectCount := by
  unfold generateSyntheticWorkload at h
  obtain ⟨⟨⟩, hvalid, hgenerate⟩ := bind_eq_ok.mp h
  have hperm := rng.shuffle_perm (makeObjectUniverse config.objectCount) (rng.seed config.seed)
  intro w hw spec hspec
  refine mem_makeObjectUniverse (hperm.subset ?_)
  refine generateEpochs_accesses (workloadChecked_of_validate hvalid) hperm (Or.inl rfl) hgenerate
    ?_ w hw spec hspec
  intro w hw
  obtain ⟨nodeId, -, rfl⟩ := List.mem_map.mp hw
  exact fun spec hspec => absurd hspec List.not_mem_nil

end Objects

end DmSimulator
