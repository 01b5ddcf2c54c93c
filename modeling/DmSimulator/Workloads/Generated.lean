/-
  DmSimulator.Workloads.Generated

  Generation of an accepted workload: it succeeds, it has one epoch after the
  other, and the hot sets of every epoch have the configured size, channels and
  overlap, whatever the random source draws.
-/
import DmSimulator.Workloads.HotSets

namespace DmSimulator

-- ============================================================================
-- What the checks give
-- ============================================================================

/-- The checks the layout and the choice of objects rest on. -/
structure WorkloadChecked (config : SyntheticWorkloadConfig) : Prop where
  nodeIds_nodup : config.computeNodeIds.Nodup
  channels_pos : 0 < config.memoryChannelCount
  hotSetSize_pos : 0 < config.hotSetSize
  required_le : requiredHotObjectsPerEpoch config ≤ eligibleHotObjectCount config
  required_pos : 0 < requiredHotObjectsPerEpoch config
  churn_le : 0 < effectiveHotSetChurnFraction config → effectiveHotSetChurnFraction config < 1 →
    requiredHotObjectsPerEpoch config +
      totalReplacementsPerEpoch config (effectiveHotSetChurnFraction config) ≤
        eligibleHotObjectCount config

theorem requiredHotObjectsPerEpoch_pos {config : SyntheticWorkloadConfig}
    (hnodes : config.computeNodeIds ≠ []) (hsize : 0 < config.hotSetSize) :
    0 < requiredHotObjectsPerEpoch config := by
  have hpos := List.length_pos_iff.mpr hnodes
  have hle := sharedHotObjectCount_le config
  have hmul := Nat.le_mul_of_pos_right (config.hotSetSize - sharedHotObjectCount config) hpos
  unfold requiredHotObjectsPerEpoch
  simp only
  omega

/-- A check made under a condition. -/
theorem throwIf_of_if {p : Prop} [Decidable p] {condition : Bool} {message : String} {u : Unit}
    (h : (if p then throwIf condition message else pure ()) = .ok u) (hp : p) :
    condition = false := by
  rw [if_pos hp] at h
  exact throwIf_eq_ok.mp h

theorem workloadChecked_of_validate {A : Arith} {config : SyntheticWorkloadConfig}
    (h : validateSyntheticWorkloadConfig A config = .ok ()) : WorkloadChecked config := by
  unfold validateSyntheticWorkloadConfig at h
  simp only [bind_eq_ok, throwIf_eq_ok, exists_and_left, exists_const] at h
  obtain ⟨hnodes, hnodup, -, hchannels, -, -, -, -, -, -, hsize, -, -, -, -, -, -, hrest⟩ := h
  have hhot : 0 < config.hotSetSize := by
    simp only [decide_eq_false_iff_not] at hsize
    omega
  -- the burst checks come before the last two
  have hlast : (requiredHotObjectsPerEpoch config ≤ eligibleHotObjectCount config) ∧
      (0 < effectiveHotSetChurnFraction config → effectiveHotSetChurnFraction config < 1 →
        requiredHotObjectsPerEpoch config +
          totalReplacementsPerEpoch config (effectiveHotSetChurnFraction config) ≤
            eligibleHotObjectCount config) := by
    split at hrest
    · simp only [bind_eq_ok, throwIf_eq_ok, exists_and_left, exists_const] at hrest
      obtain ⟨-, -, hrequired, hif⟩ := hrest
      exact ⟨by simpa using hrequired, fun hpos hlt => by simpa using throwIf_of_if hif ⟨hpos, hlt⟩⟩
    · simp only [bind_eq_ok, throwIf_eq_ok, exists_and_left, exists_const] at hrest
      obtain ⟨hrequired, hif⟩ := hrest
      exact ⟨by simpa using hrequired, fun hpos hlt => by simpa using throwIf_of_if hif ⟨hpos, hlt⟩⟩
  refine ⟨?_, ?_, hhot, hlast.1, ?_, hlast.2⟩
  · simpa using hnodup
  · simp only [decide_eq_false_iff_not] at hchannels
    omega
  · refine requiredHotObjectsPerEpoch_pos ?_ hhot
    simpa using hnodes

-- ============================================================================
-- The candidates of the hot sets
-- ============================================================================

theorem mem_makeObjectUniverse {objectCount : Nat} {objectId : ObjectId}
    (h : objectId ∈ makeObjectUniverse objectCount) : 1 ≤ objectId ∧ objectId ≤ objectCount := by
  unfold makeObjectUniverse at h
  rw [List.mem_range'_1] at h
  exact ⟨h.1, Nat.lt_one_add_iff.mp h.2⟩

section Candidates

variable {config : SyntheticWorkloadConfig} {objects : List ObjectId}

theorem eligibleHotObjects_eq_filter (hchannels : 0 < config.memoryChannelCount) :
    eligibleHotObjects config objects = objects.filter (fun objectId =>
      memoryChannelForObject objectId config.memoryChannelCount <
        effectiveHotObjectChannelCount config) := by
  unfold eligibleHotObjects
  simp only
  split
  · rename_i hall
    rw [hall, List.filter_eq_self.mpr]
    exact fun objectId _ => decide_eq_true (memoryChannelForObject_lt objectId hchannels)
  · rfl

theorem length_eligibleHotObjects (hchannels : 0 < config.memoryChannelCount)
    (hperm : objects.Perm (makeObjectUniverse config.objectCount)) :
    (eligibleHotObjects config objects).length = eligibleHotObjectCount config := by
  rw [eligibleHotObjects_eq_filter hchannels]
  exact (hperm.filter _).length_eq

theorem hotSetsFit (h : WorkloadChecked config)
    (hperm : objects.Perm (makeObjectUniverse config.objectCount)) :
    HotSetsFit config (eligibleHotObjects config objects) := by
  have hlength := length_eligibleHotObjects h.channels_pos hperm
  refine ⟨?_, ?_, ?_, ?_⟩
  · rw [eligibleHotObjects_eq_filter h.channels_pos]
    exact (hperm.nodup_iff.mpr List.nodup_range').filter _
  · rw [hlength]
    exact h.required_le
  · rw [hlength]
    exact h.churn_le
  · rw [← List.length_pos_iff, hlength]
    exact Nat.lt_of_lt_of_le h.required_pos h.required_le

end Candidates

-- ============================================================================
-- The hot sets of an epoch
-- ============================================================================

/-- A hot set of the configured size, of objects that exist and that map to the
    hot channels. -/
structure HotSetFits (config : SyntheticWorkloadConfig) (hotSet : List ObjectId) : Prop where
  length_eq : hotSet.length = config.hotSetSize
  nodup : hotSet.Nodup
  inRange : ∀ objectId ∈ hotSet, 1 ≤ objectId ∧ objectId ≤ config.objectCount
  onHotChannels : config.hotObjectChannelCount ≠ 0 → ∀ objectId ∈ hotSet,
    memoryChannelForObject objectId config.memoryChannelCount < config.hotObjectChannelCount

/-- How many hot objects two different nodes have in common. -/
def overlapSize (config : SyntheticWorkloadConfig) : Nat :=
  match config.crossNodeOverlap with
  | .low => 0
  | .medium => config.hotSetSize / 2
  | .high => config.hotSetSize

/-- Every node has a hot set, and two of them overlap as configured. -/
structure HotSetsStructured (config : SyntheticWorkloadConfig)
    (hotSetsByNode : UnorderedMap NodeId (List ObjectId)) : Prop where
  fits : ∀ nodeId ∈ config.computeNodeIds, ∃ hotSet,
    hotSetsByNode.lookup nodeId = some hotSet ∧ HotSetFits config hotSet
  overlap : ∀ nodeId ∈ config.computeNodeIds, ∀ other ∈ config.computeNodeIds, nodeId ≠ other →
    ∀ hotSet otherHotSet, hotSetsByNode.lookup nodeId = some hotSet →
      hotSetsByNode.lookup other = some otherHotSet →
        (hotSet.toFinset ∩ otherHotSet.toFinset).card = overlapSize config

section HotSets

variable {config : SyntheticWorkloadConfig} {objects : List ObjectId} {segments : HotSetSegments}

theorem hotSetFits_of_layout (h : WorkloadChecked config)
    (hperm : objects.Perm (makeObjectUniverse config.objectCount))
    (hlayout : Layout config (eligibleHotObjects config objects) segments) {nodeIndex : Nat}
    (hlt : nodeIndex < config.computeNodeIds.length) :
    HotSetFits config (hotSetForNode segments nodeIndex) := by
  have hmem : ∀ objectId ∈ hotSetForNode segments nodeIndex, objectId ∈ objects ∧
      memoryChannelForObject objectId config.memoryChannelCount <
        effectiveHotObjectChannelCount config := by
    intro objectId hobject
    have hcandidate := hlayout.mem_hotSetForNode hlt hobject
    rw [eligibleHotObjects_eq_filter h.channels_pos, List.mem_filter, decide_eq_true_iff]
      at hcandidate
    exact hcandidate
  refine ⟨hlayout.length_hotSetForNode hlt, hlayout.nodup_hotSetForNode hlt, ?_, ?_⟩
  · exact fun objectId hobject => mem_makeObjectUniverse (hperm.subset (hmem objectId hobject).1)
  · intro hne objectId hobject
    have hchannel := (hmem objectId hobject).2
    unfold effectiveHotObjectChannelCount at hchannel
    rw [if_neg hne] at hchannel
    exact hchannel

/-- The hot sets of the nodes, in node order from `nodeIndex` on. -/
def HotSetsFrom (segments : HotSetSegments) (nodeIds : List NodeId) (nodeIndex : Nat)
    (hotSetsByNode : UnorderedMap NodeId (List ObjectId)) : Prop :=
  ∀ k nodeId, nodeIds[k]? = some nodeId →
    hotSetsByNode.lookup nodeId = some (hotSetForNode segments (nodeIndex + k))

theorem hotSetsStructured_of_layout (h : WorkloadChecked config)
    (hperm : objects.Perm (makeObjectUniverse config.objectCount))
    (hlayout : Layout config (eligibleHotObjects config objects) segments)
    {hotSetsByNode : UnorderedMap NodeId (List ObjectId)}
    (hsets : HotSetsFrom segments config.computeNodeIds 0 hotSetsByNode) :
    HotSetsStructured config hotSetsByNode := by
  have hlookup : ∀ nodeId ∈ config.computeNodeIds, ∃ k, k < config.computeNodeIds.length ∧
      config.computeNodeIds[k]? = some nodeId ∧
      hotSetsByNode.lookup nodeId = some (hotSetForNode segments k) := by
    intro nodeId hnode
    obtain ⟨k, hk, hget⟩ := List.mem_iff_getElem.mp hnode
    have hsome : config.computeNodeIds[k]? = some nodeId := by
      rw [List.getElem?_eq_getElem hk, hget]
    have hset := hsets k nodeId hsome
    rw [Nat.zero_add] at hset
    exact ⟨k, hk, hsome, hset⟩
  refine ⟨?_, ?_⟩
  · intro nodeId hnode
    obtain ⟨k, hk, -, hset⟩ := hlookup nodeId hnode
    exact ⟨_, hset, hotSetFits_of_layout h hperm hlayout hk⟩
  · intro nodeId hnode other hother hne hotSet otherHotSet hhot hhot'
    obtain ⟨k, hk, hget, hset⟩ := hlookup nodeId hnode
    obtain ⟨k', hk', hget', hset'⟩ := hlookup other hother
    have hindex : k ≠ k' := by
      rintro rfl
      rw [hget, Option.some.injEq] at hget'
      exact hne hget'
    rw [hhot, Option.some.injEq] at hset
    rw [hhot', Option.some.injEq] at hset'
    rw [hset, hset', hlayout.card_inter_hotSetForNode hk hk' hindex]
    rfl

end HotSets

-- ============================================================================
-- Requests are always generated
-- ============================================================================

section Generation

variable {A : Arith} {rng : RandomSource} {config : SyntheticWorkloadConfig}

theorem chooseObject_ok {hotSet : List ObjectId} (hhot : hotSet ≠ []) (coldSet : List ObjectId)
    (hotAccessProbability : Rat) (engine : rng.Engine) :
    ∃ result, chooseObject rng hotSet coldSet hotAccessProbability engine = .ok result := by
  unfold chooseObject
  simp only
  generalize hcandidates : (if ((rng.bernoulli hotAccessProbability engine).1 ||
    coldSet.isEmpty) = true then hotSet else coldSet) = candidates
  have hne : candidates ≠ [] := by
    rw [← hcandidates]
    split
    · exact hhot
    · rename_i hcold
      rw [Bool.or_eq_true, not_or, List.isEmpty_iff] at hcold
      exact hcold.2
  have hpos := List.length_pos_iff.mpr hne
  have hdraw := (rng.uniformInt_mem 0 (candidates.length - 1)
    (rng.bernoulli hotAccessProbability engine).2 (Nat.zero_le _)).2
  rw [if_neg (by rw [List.isEmpty_iff]; exact hne),
    List.getElem?_eq_getElem (by omega : (rng.uniformInt 0 (candidates.length - 1)
      (rng.bernoulli hotAccessProbability engine).2).1 < candidates.length)]
  exact ⟨_, rfl⟩

theorem generateRequests_ok {hotSet : List ObjectId} (hhot : hotSet ≠ [])
    (objectSizes : List Nat) (coldSet : List ObjectId) (nodeId : NodeId) (epochId : EpochId)
    (count i : Nat) (engine : rng.Engine) :
    ∃ result, generateRequests A rng config objectSizes hotSet coldSet nodeId epochId count i
      engine = .ok result := by
  induction count generalizing i engine with
  | zero => exact ⟨_, rfl⟩
  | succ count ih =>
      obtain ⟨⟨objectId, engine'⟩, hchoice⟩ :=
        chooseObject_ok hhot coldSet config.hotAccessProbability engine
      obtain ⟨⟨rest, engine''⟩, hrest⟩ := ih (i + 1) engine'
      rw [generateRequests, hchoice]
      simp only [bind, Except.bind, hrest]
      exact ⟨_, rfl⟩

theorem hotSetForNode_ne_nil (h : WorkloadChecked config) {candidates : List ObjectId}
    {segments : HotSetSegments} (hlayout : Layout config candidates segments) {nodeIndex : Nat}
    (hlt : nodeIndex < config.computeNodeIds.length) : hotSetForNode segments nodeIndex ≠ [] := by
  rw [← List.length_pos_iff, hlayout.length_hotSetForNode hlt]
  exact h.hotSetSize_pos

/-- An epoch is generated for every node; it records the hot sets of the nodes
    and of nobody else. -/
theorem generateEpoch_spec (h : WorkloadChecked config) {candidates : List ObjectId}
    {segments : HotSetSegments} (hlayout : Layout config candidates segments)
    (objects : List ObjectId) (objectSizes : List Nat) (epochId : EpochId) {nodeIndex : Nat}
    {workloads : List NodeWorkload}
    (hlength : nodeIndex + workloads.length = config.computeNodeIds.length)
    (hnodup : (workloads.map NodeWorkload.nodeId).Nodup)
    (hotSets : UnorderedMap NodeId (List ObjectId)) (engine : rng.Engine) :
    ∃ workloads' hotSets' engine', generateEpoch A rng config objects objectSizes segments epochId
        nodeIndex workloads hotSets engine = .ok (workloads', hotSets', engine') ∧
      workloads'.map NodeWorkload.nodeId = workloads.map NodeWorkload.nodeId ∧
      HotSetsFrom segments (workloads.map NodeWorkload.nodeId) nodeIndex hotSets' ∧
      ∀ nodeId ∉ workloads.map NodeWorkload.nodeId,
        hotSets'.lookup nodeId = hotSets.lookup nodeId := by
  induction workloads generalizing nodeIndex hotSets engine with
  | nil =>
      refine ⟨[], hotSets, engine, rfl, rfl, ?_, fun _ _ => rfl⟩
      intro k nodeId hget
      cases hget
  | cons workload rest ih =>
      rw [List.map_cons, List.nodup_cons] at hnodup
      rw [List.length_cons] at hlength
      have hhot := hotSetForNode_ne_nil h hlayout (by omega : nodeIndex < _)
      obtain ⟨⟨requests, engine₁⟩, hrequests⟩ : ∃ result, generateRequests A rng config objectSizes
          (hotSetForNode segments nodeIndex)
          (coldObjectsForNode objects (hotSetForNode segments nodeIndex)) workload.nodeId epochId
          config.requestsPerNodePerEpoch 0 engine = .ok result :=
        generateRequests_ok hhot objectSizes _ workload.nodeId epochId _ 0 engine
      obtain ⟨rest', hotSets', engine₂, hrest, hids, hfrom, hothers⟩ := ih
        (by omega : nodeIndex + 1 + rest.length = _) hnodup.2
        (hotSets.insert workload.nodeId (hotSetForNode segments nodeIndex)) engine₁
      refine ⟨{ workload with requests := workload.requests ++ requests } :: rest', hotSets',
        engine₂, ?_, ?_, ?_, ?_⟩
      · rw [generateEpoch]
        simp only [bind, Except.bind, hrequests, hrest]
        rfl
      · rw [List.map_cons, List.map_cons, hids]
      · intro k nodeId hget
        cases k with
        | zero =>
            rw [List.map_cons, List.getElem?_cons_zero, Option.some.injEq] at hget
            subst hget
            rw [hothers _ hnodup.1, AList.lookup_insert, Nat.add_zero]
        | succ k =>
            rw [List.map_cons, List.getElem?_cons_succ] at hget
            rw [hfrom k nodeId hget, Nat.add_assoc, Nat.add_comm 1 k]
      · intro nodeId hnode
        rw [List.map_cons, List.mem_cons, not_or] at hnode
        rw [hothers nodeId hnode.2, AList.lookup_insert_ne hnode.1]

/-- The epochs generated so far: consecutive, each with structured hot sets. -/
structure EpochsStructured (config : SyntheticWorkloadConfig) (epochs : List EpochHotSetMetadata)
    (count : Nat) : Prop where
  ids : epochs.map EpochHotSetMetadata.epochId = List.range count
  structured : ∀ epoch ∈ epochs, HotSetsStructured config epoch.hotSetsByNode

theorem EpochsStructured.append {epochs : List EpochHotSetMetadata} {count : Nat}
    (h : EpochsStructured config epochs count) {epoch : EpochHotSetMetadata}
    (hid : epoch.epochId = count) (hsets : HotSetsStructured config epoch.hotSetsByNode) :
    EpochsStructured config (epochs ++ [epoch]) (count + 1) := by
  refine ⟨?_, ?_⟩
  · rw [List.map_append, h.ids, List.map_singleton, hid, List.range_succ]
  · intro found hfound
    rcases List.mem_append.mp hfound with hold | hnew
    · exact h.structured found hold
    · rw [List.mem_singleton.mp hnew]
      exact hsets

theorem generateEpochs_spec (h : WorkloadChecked config) {objects : List ObjectId}
    (hperm : objects.Perm (makeObjectUniverse config.objectCount)) (objectSizes : List Nat)
    (epochs : Nat) {epochId : EpochId} {segments : HotSetSegments}
    (hsegments : epochId = 0 ∨ Layout config (eligibleHotObjects config objects) segments)
    (cursor : Nat) (engine : rng.Engine) (workload : GeneratedWorkload)
    (hids : workload.nodeWorkloads.map NodeWorkload.nodeId = config.computeNodeIds)
    (hepochs : EpochsStructured config workload.epochs epochId) :
    ∃ workload', generateEpochs A rng config objects (eligibleHotObjects config objects)
        objectSizes epochs epochId segments cursor engine workload = .ok workload' ∧
      EpochsStructured config workload'.epochs (epochId + epochs) := by
  induction epochs generalizing epochId segments cursor engine workload with
  | zero => exact ⟨workload, rfl, hepochs⟩
  | succ epochs ih =>
      obtain ⟨segments', cursor', hlayout, hspec⟩ :=
        epochLayout_spec (hotSetsFit h hperm) hsegments cursor
      have hlength : 0 + workload.nodeWorkloads.length = config.computeNodeIds.length := by
        rw [Nat.zero_add, ← hids, List.length_map]
      have hnodup : (workload.nodeWorkloads.map NodeWorkload.nodeId).Nodup := by
        rw [hids]
        exact h.nodeIds_nodup
      obtain ⟨workloads, hotSets, engine', hepoch, hids', hfrom, -⟩ :=
        generateEpoch_spec (A := A) h hspec objects objectSizes epochId hlength hnodup ∅ engine
      rw [hids] at hfrom hids'
      obtain ⟨workload', hrest, hstructured⟩ := ih (Or.inr hspec) cursor' engine'
        { nodeWorkloads := workloads
          epochs := workload.epochs ++ [{ epochId := epochId, hotSetsByNode := hotSets }] } hids'
        (hepochs.append rfl (hotSetsStructured_of_layout h hperm hspec hfrom))
      refine ⟨workload', ?_, ?_⟩
      · rw [generateEpochs, hlayout]
        simp only [bind, Except.bind, hepoch, hrest]
      · rw [Nat.add_comm epochs, ← Nat.add_assoc]
        exact hstructured

/-- An accepted configuration generates a workload. -/
theorem exists_generateSyntheticWorkload (A : Arith) (rng : RandomSource)
    {config : SyntheticWorkloadConfig}
    (h : validateSyntheticWorkloadConfig A config = .ok ()) :
    ∃ workload, generateSyntheticWorkload A rng config = .ok workload ∧
      EpochsStructured config workload.epochs config.epochCount := by
  have hchecked := workloadChecked_of_validate h
  have hperm := rng.shuffle_perm (makeObjectUniverse config.objectCount) (rng.seed config.seed)
  obtain ⟨workload, hgenerate, hstructured⟩ := generateEpochs_spec (A := A) hchecked hperm
    (objectSizesById rng config) config.epochCount (Or.inl rfl) 0
    (rng.shuffle (makeObjectUniverse config.objectCount) (rng.seed config.seed)).2
    { nodeWorkloads :=
        config.computeNodeIds.map (fun nodeId => { nodeId := nodeId, requests := [] })
      epochs := [] } (by simp [Function.comp_def]) ⟨rfl, by simp⟩
  rw [Nat.zero_add] at hstructured
  refine ⟨workload, ?_, hstructured⟩
  unfold generateSyntheticWorkload
  rw [h]
  exact hgenerate

/-- An accepted configuration generates a workload with structured hot sets in
    every epoch. -/
theorem generateSyntheticWorkload_hotSets (A : Arith) (rng : RandomSource)
    {config : SyntheticWorkloadConfig}
    (h : validateSyntheticWorkloadConfig A config = .ok ()) :
    ∃ workload, generateSyntheticWorkload A rng config = .ok workload ∧
      workload.epochs.map EpochHotSetMetadata.epochId = List.range config.epochCount ∧
      ∀ epoch ∈ workload.epochs, HotSetsStructured config epoch.hotSetsByNode := by
  obtain ⟨workload, hgenerate, hstructured⟩ := exists_generateSyntheticWorkload A rng h
  exact ⟨workload, hgenerate, hstructured.ids, hstructured.structured⟩

end Generation

/-- Three nodes with half of their hot sets in common, on one of two channels;
    half of every segment is replaced from epoch to epoch. -/
def churningConfig : SyntheticWorkloadConfig :=
  { computeNodeIds := [1, 2, 3]
    objectCount := 24
    memoryChannelCount := 2
    hotObjectChannelCount := 1
    hotSetChurnFraction := 1 / 2
    requestsPerNodePerEpoch := 2
    epochCount := 3
    hotSetSize := 4
    hotSetMode := .epochShift
    crossNodeOverlap := .medium }

theorem churningConfig_valid :
    validateSyntheticWorkloadConfig .exact churningConfig = .ok () := by
  decide +kernel

theorem churningConfig_hotSets :
    ∃ workload, generateSyntheticWorkload .exact lowestSource churningConfig = .ok workload ∧
      workload.epochs.map EpochHotSetMetadata.epochId = List.range 3 ∧
      ∀ epoch ∈ workload.epochs, HotSetsStructured churningConfig epoch.hotSetsByNode :=
  generateSyntheticWorkload_hotSets .exact lowestSource churningConfig_valid

end DmSimulator
