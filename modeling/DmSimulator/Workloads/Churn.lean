/-
  DmSimulator.Workloads.Churn

  From one epoch to the next: generation succeeds at every replacement, and the
  hot sets change by exactly the configured churn.

  The layouts of the epochs form a chain, each made from the one before it
  (`LayoutsFrom`).  A partial churn keeps the front of every segment and fills up
  with objects that were hot for nobody; a full shift moves on to the next window
  of the candidates.
-/
import DmSimulator.Workloads.Generated

namespace DmSimulator

-- ============================================================================
-- The chain of layouts
-- ============================================================================

/-- The layouts of consecutive epochs, each made from the one before it. -/
inductive LayoutsFrom (config : SyntheticWorkloadConfig) (candidates : List ObjectId) :
    EpochId → HotSetSegments → Nat → List HotSetSegments → Prop
  | done (epochId : EpochId) (segments : HotSetSegments) (cursor : Nat) :
      LayoutsFrom config candidates epochId segments cursor []
  | next {epochId : EpochId} {segments segments' : HotSetSegments} {cursor cursor' : Nat}
      {rest : List HotSetSegments} :
      epochLayout config candidates epochId segments cursor = .ok (segments', cursor') →
      LayoutsFrom config candidates (epochId + 1) segments' cursor' rest →
      LayoutsFrom config candidates epochId segments cursor (segments' :: rest)

section Chain

variable {A : Arith} {rng : RandomSource} {config : SyntheticWorkloadConfig}

/-- What generation records for an epoch are the hot sets of its layout. -/
theorem generateEpochs_layouts (h : WorkloadChecked config) {objects : List ObjectId}
    (hperm : objects.Perm (makeObjectUniverse config.objectCount)) (objectSizes : List Nat)
    (epochs : Nat) {epochId : EpochId} {segments : HotSetSegments}
    (hsegments : epochId = 0 ∨ Layout config (eligibleHotObjects config objects) segments)
    (cursor : Nat) (engine : rng.Engine) (workload : GeneratedWorkload)
    (hids : workload.nodeWorkloads.map NodeWorkload.nodeId = config.computeNodeIds) :
    ∃ workload' layouts recorded,
      generateEpochs A rng config objects (eligibleHotObjects config objects)
        objectSizes epochs epochId segments cursor engine workload = .ok workload' ∧
      LayoutsFrom config (eligibleHotObjects config objects) epochId segments cursor layouts ∧
      workload'.epochs = workload.epochs ++ recorded ∧ recorded.length = epochs ∧
      List.Forall₂ (fun layout epoch =>
        HotSetsFrom layout config.computeNodeIds 0 epoch.hotSetsByNode) layouts recorded := by
  induction epochs generalizing epochId segments cursor engine workload with
  | zero =>
      exact ⟨workload, [], [], rfl, .done _ _ _, (List.append_nil _).symm, rfl, .nil⟩
  | succ epochs ih =>
      obtain ⟨segments', cursor', hlayout, hspec⟩ :=
        epochLayout_spec (hotSetsFit h hperm) hsegments cursor
      have hlength : 0 + workload.nodeWorkloads.length = config.computeNodeIds.length := by
        rw [Nat.zero_add, ← hids, List.length_map]
      have hnodup : (workload.nodeWorkloads.map NodeWorkload.nodeId).Nodup := by
        rw [hids]
        exact h.nodeIds_nodup
      obtain ⟨workloads, hotSets, engine', hepoch, hids', hfrom, -⟩ :=
        generateEpoch_spec (A := A) h hspec objects objectSizes epochId hlength hnodup ∅ engine
      rw [hids] at hfrom hids'
      obtain ⟨workload', layouts, recorded, hrest, hlayouts, hepochs, hcount, hsets⟩ :=
        ih (Or.inr hspec) cursor' engine'
          { nodeWorkloads := workloads
            epochs := workload.epochs ++ [{ epochId := epochId, hotSetsByNode := hotSets }] } hids'
      refine ⟨workload', segments' :: layouts,
        { epochId := epochId, hotSetsByNode := hotSets } :: recorded, ?_, .next hlayout hlayouts,
        ?_, by rw [List.length_cons, hcount], .cons hfrom hsets⟩
      · rw [generateEpochs, hlayout]
        simp only [bind, Except.bind, hepoch, hrest]
      · rw [hepochs, List.append_assoc]
        rfl

end Chain

-- ============================================================================
-- From one layout to the next
-- ============================================================================

section Shift

variable {config : SyntheticWorkloadConfig} {candidates : List ObjectId}
  {segments segments' : HotSetSegments}

/-- The epoch after `segments` has the layout `segments'`: by churn it is the same one,
    a refilled one, or that of the next window of the candidates. -/
structure LayoutShift (config : SyntheticWorkloadConfig) (candidates : List ObjectId)
    (segments segments' : HotSetSegments) : Prop where
  layout : Layout config candidates segments
  layout' : Layout config candidates segments'
  still : effectiveHotSetChurnFraction config ≤ 0 → segments' = segments
  refills : 0 < effectiveHotSetChurnFraction config → effectiveHotSetChurnFraction config < 1 →
    Refills candidates segments (effectiveHotSetChurnFraction config) segments'
  windows : 1 ≤ effectiveHotSetChurnFraction config → ∃ cursor,
    allHotObjects segments = window candidates cursor (requiredHotObjectsPerEpoch config) ∧
    allHotObjects segments' = window candidates (cursor + requiredHotObjectsPerEpoch config)
      (requiredHotObjectsPerEpoch config)

/-- What is known of the layout of an epoch: with full shifts, the epoch's window. -/
structure EpochLayout (config : SyntheticWorkloadConfig) (candidates : List ObjectId)
    (epochId : EpochId) (segments : HotSetSegments) : Prop where
  layout : Layout config candidates segments
  window_eq : 1 ≤ effectiveHotSetChurnFraction config → allHotObjects segments =
    window candidates (epochId * requiredHotObjectsPerEpoch config)
      (requiredHotObjectsPerEpoch config)

theorem epochLayout_first (h : HotSetsFit config candidates) {cursor' : Nat}
    (hlayout : epochLayout config candidates 0 segments 0 = .ok (segments', cursor')) :
    EpochLayout config candidates 0 segments' := by
  obtain ⟨allocated, cursor₁, hallocate, hspec, hwindow⟩ := allocateHotSetSegments_spec h 0
  unfold epochLayout at hlayout
  simp only [if_true] at hlayout
  obtain ⟨rfl, -⟩ := Prod.mk.inj (Except.ok.inj (hallocate.symm.trans hlayout))
  exact ⟨hspec, fun _ => by rw [Nat.zero_mul, hwindow]⟩

theorem epochLayout_next (h : HotSetsFit config candidates) {epochId : EpochId}
    {cursor cursor' : Nat} (hprevious : EpochLayout config candidates epochId segments)
    (hlayout : epochLayout config candidates (epochId + 1) segments cursor =
      .ok (segments', cursor')) :
    EpochLayout config candidates (epochId + 1) segments' ∧
      LayoutShift config candidates segments segments' := by
  unfold epochLayout at hlayout
  simp only [Nat.succ_ne_zero, if_false] at hlayout
  by_cases hshift : effectiveHotSetChurnFraction config ≥ 1
  · rw [if_pos hshift, if_neg (by rw [List.isEmpty_iff]; exact h.nonempty)] at hlayout
    obtain ⟨allocated, cursor₁, hallocate, hspec, hwindow⟩ := allocateHotSetSegments_spec h
      (((epochId + 1) * requiredHotObjectsPerEpoch config) % candidates.length)
    obtain ⟨rfl, -⟩ := Prod.mk.inj (Except.ok.inj (hallocate.symm.trans hlayout))
    rw [window_mod] at hwindow
    have hpos : 0 < effectiveHotSetChurnFraction config := lt_of_lt_of_le one_pos hshift
    refine ⟨⟨hspec, fun _ => hwindow⟩, hprevious.layout, hspec,
      fun hle => absurd hpos (not_lt.mpr hle), fun _ hlt => absurd hlt (not_lt.mpr hshift),
      fun _ => ⟨epochId * requiredHotObjectsPerEpoch config, hprevious.window_eq hshift, ?_⟩⟩
    rw [hwindow, Nat.succ_mul]
  rw [if_neg hshift] at hlayout
  by_cases hchurn : effectiveHotSetChurnFraction config > 0
  · rw [if_pos hchurn] at hlayout
    obtain ⟨churned, cursor₁, hchurned, hspec, hrefills⟩ :=
      churnHotSetSegments_spec h hchurn (lt_of_not_ge hshift) hprevious.layout cursor
    obtain ⟨rfl, -⟩ := Prod.mk.inj (Except.ok.inj (hchurned.symm.trans hlayout))
    exact ⟨⟨hspec, fun hge => absurd hge hshift⟩, hprevious.layout, hspec,
      fun hle => absurd hchurn (not_lt.mpr hle), fun _ _ => hrefills,
      fun hge => absurd hge hshift⟩
  · rw [if_neg hchurn] at hlayout
    obtain ⟨rfl, -⟩ := Prod.mk.inj (Except.ok.inj hlayout)
    exact ⟨⟨hprevious.layout, fun hge => absurd hge hshift⟩, hprevious.layout, hprevious.layout,
      fun _ => rfl, fun hpos => absurd hpos hchurn, fun hge => absurd hge hshift⟩

/-- Neighbours in the chain of layouts. -/
theorem LayoutsFrom.shift (h : HotSetsFit config candidates) {layouts : List HotSetSegments}
    {epochId : EpochId} {cursor : Nat}
    (hlayouts : LayoutsFrom config candidates (epochId + 1) segments cursor layouts)
    (hprevious : EpochLayout config candidates epochId segments) {i : Nat}
    {layout layout' : HotSetSegments} (hget : (segments :: layouts)[i]? = some layout)
    (hget' : (segments :: layouts)[i + 1]? = some layout') :
    LayoutShift config candidates layout layout' := by
  generalize hnext : epochId + 1 = nextEpoch at hlayouts
  induction hlayouts generalizing epochId i with
  | done => simp at hget'
  | @next _ segments segments' cursor cursor' rest hlayout _ ih =>
      subst hnext
      obtain ⟨hepoch, hshift⟩ := epochLayout_next h hprevious hlayout
      cases i with
      | zero =>
          rw [List.getElem?_cons_zero, Option.some.injEq] at hget
          rw [List.getElem?_cons_succ, List.getElem?_cons_zero, Option.some.injEq] at hget'
          rw [← hget, ← hget']
          exact hshift
      | succ i =>
          rw [List.getElem?_cons_succ] at hget hget'
          exact ih hepoch hget hget' rfl

end Shift

-- ============================================================================
-- From one hot set to the next
-- ============================================================================

/-- The objects of a hot set that its node shares with all others. -/
def sharedSegment (config : SyntheticWorkloadConfig) (hotSet : List ObjectId) : List ObjectId :=
  hotSet.take (sharedHotObjectCount config)

/-- The objects of a hot set that are its node's own. -/
def privateSegment (config : SyntheticWorkloadConfig) (hotSet : List ObjectId) : List ObjectId :=
  hotSet.drop (sharedHotObjectCount config)

/-- How many objects of a segment stay when a fraction of it is replaced. -/
def keptCount (churnFraction : Rat) (segmentSize : Nat) : Nat :=
  segmentSize - (⌈(segmentSize : Rat) * churnFraction⌉).toNat

/-- The part of a segment that stays, and the part that is replaced. -/
def keptPart (churnFraction : Rat) (segment : List ObjectId) : List ObjectId :=
  segment.take (keptCount churnFraction segment.length)

def replacedPart (churnFraction : Rat) (segment : List ObjectId) : List ObjectId :=
  segment.drop (keptCount churnFraction segment.length)

/-- The hot sets of an epoch and of the one before it under a partial churn: both
    segments keep their fronts, and the rest was hot for nobody. -/
structure PartialChurn (config : SyntheticWorkloadConfig)
    (previous hotSetsByNode : UnorderedMap NodeId (List ObjectId)) : Prop where
  kept : ∀ nodeId ∈ config.computeNodeIds, ∃ old hotSet,
    previous.lookup nodeId = some old ∧ hotSetsByNode.lookup nodeId = some hotSet ∧
    (sharedSegment config hotSet).length = (sharedSegment config old).length ∧
    (privateSegment config hotSet).length = (privateSegment config old).length ∧
    keptPart config.hotSetChurnFraction (sharedSegment config hotSet) =
      keptPart config.hotSetChurnFraction (sharedSegment config old) ∧
    keptPart config.hotSetChurnFraction (privateSegment config hotSet) =
      keptPart config.hotSetChurnFraction (privateSegment config old)
  fresh : ∀ nodeId ∈ config.computeNodeIds, ∀ hotSet,
    hotSetsByNode.lookup nodeId = some hotSet →
      ∀ objectId ∈ replacedPart config.hotSetChurnFraction (sharedSegment config hotSet) ++
          replacedPart config.hotSetChurnFraction (privateSegment config hotSet),
        ∀ other ∈ config.computeNodeIds, ∀ old, previous.lookup other = some old →
          objectId ∉ old

/-- No object is hot for any node in both epochs. -/
def NothingStaysHot (config : SyntheticWorkloadConfig)
    (previous hotSetsByNode : UnorderedMap NodeId (List ObjectId)) : Prop :=
  ∀ nodeId ∈ config.computeNodeIds, ∀ other ∈ config.computeNodeIds, ∀ old hotSet,
    previous.lookup nodeId = some old → hotSetsByNode.lookup other = some hotSet →
      old.Disjoint hotSet

/-- The hot sets of an epoch against those of the one before it. -/
structure ChurnedExactly (config : SyntheticWorkloadConfig)
    (previous hotSetsByNode : UnorderedMap NodeId (List ObjectId)) : Prop where
  still : config.hotSetMode = .static ∨ config.hotSetChurnFraction = 0 →
    ∀ nodeId ∈ config.computeNodeIds, hotSetsByNode.lookup nodeId = previous.lookup nodeId
  partly : config.hotSetMode = .epochShift → 0 < config.hotSetChurnFraction →
    config.hotSetChurnFraction < 1 → PartialChurn config previous hotSetsByNode
  fully : config.hotSetMode = .epochShift → config.hotSetChurnFraction = 1 →
    2 * requiredHotObjectsPerEpoch config ≤ eligibleHotObjectCount config →
      NothingStaysHot config previous hotSetsByNode

section HotSets

variable {config : SyntheticWorkloadConfig} {candidates : List ObjectId}
  {segments segments' : HotSetSegments}

theorem keptCount_eq {churnFraction : Rat} (hpos : 0 < churnFraction) (hlt : churnFraction < 1)
    (segmentSize : Nat) :
    keptCount churnFraction segmentSize =
      segmentSize - replacementCount segmentSize churnFraction := by
  unfold keptCount replacementCount
  by_cases hzero : segmentSize = 0
  · rw [hzero]
    simp
  · have hnot : ¬ churnFraction ≤ 0 := not_le.mpr hpos
    have hnot' : ¬ churnFraction ≥ 1 := not_le.mpr hlt
    simp [hzero, hnot, hnot']

theorem keepPrefixForChurn_eq {churnFraction : Rat} (hpos : 0 < churnFraction)
    (hlt : churnFraction < 1) (segment : List ObjectId) :
    keepPrefixForChurn segment churnFraction = keptPart churnFraction segment := by
  unfold keepPrefixForChurn keptPart
  rw [keptCount_eq hpos hlt]

/-- What a refilled segment keeps and what it replaces. -/
theorem parts_of_refill {churnFraction : Rat} {segment added : List ObjectId}
    (hlength : (keptPart churnFraction segment ++ added).length = segment.length) :
    keptPart churnFraction (keptPart churnFraction segment ++ added) =
        keptPart churnFraction segment ∧
      replacedPart churnFraction (keptPart churnFraction segment ++ added) = added := by
  have hkept : (keptPart churnFraction segment).length =
      keptCount churnFraction segment.length := by
    unfold keptPart
    rw [List.length_take]
    exact Nat.min_eq_left (Nat.sub_le _ _)
  refine ⟨?_, ?_⟩
  · rw [keptPart, hlength]
    exact List.take_left' hkept
  · rw [replacedPart, hlength]
    exact List.drop_left' hkept

/-- The segments of a node's hot set. -/
theorem segments_of_hotSet (h : Layout config candidates segments) {nodeIndex : Nat}
    (hlt : nodeIndex < config.computeNodeIds.length) :
    ∃ segment, segments.privateHotObjectsByNode[nodeIndex]? = some segment ∧
      sharedSegment config (hotSetForNode segments nodeIndex) = segments.sharedHotObjects ∧
      privateSegment config (hotSetForNode segments nodeIndex) = segment := by
  obtain ⟨segment, hget, -, heq⟩ := h.privateSegment hlt
  refine ⟨segment, hget, ?_, ?_⟩
  · rw [sharedSegment, heq]
    exact List.take_left' h.shared_length
  · rw [privateSegment, heq]
    exact List.drop_left' h.shared_length

/-- All hot sets of a layout are made of its objects. -/
theorem Layout.mem_allHotObjects (h : Layout config candidates segments) {nodeIndex : Nat}
    (hlt : nodeIndex < config.computeNodeIds.length) {objectId : ObjectId}
    (hobject : objectId ∈ hotSetForNode segments nodeIndex) :
    objectId ∈ allHotObjects segments := by
  obtain ⟨segment, -, hmem, heq⟩ := h.privateSegment hlt
  rw [heq] at hobject
  exact (List.Sublist.append_left (List.sublist_flatten_of_mem hmem) _).subset hobject

theorem refilled_getElem? {privates : List (List ObjectId)} {churnFraction : Rat}
    {added : List (List ObjectId)} {nodeIndex : Nat} {segment : List ObjectId}
    (h : (refilled ((privates.map (fun s => keepPrefixForChurn s churnFraction)).zip
      (privates.map List.length)) added)[nodeIndex]? = some segment) :
    ∃ old more, privates[nodeIndex]? = some old ∧ added[nodeIndex]? = some more ∧
      segment = keepPrefixForChurn old churnFraction ++ more := by
  unfold refilled at h
  rw [List.zip_map', List.getElem?_zipWith, List.getElem?_map] at h
  cases hold : privates[nodeIndex]? with
  | none => simp [hold] at h
  | some old =>
      cases hmore : added[nodeIndex]? with
      | none => simp [hold, hmore] at h
      | some more =>
          simp only [hold, hmore, Option.map_some, Option.some.injEq] at h
          exact ⟨old, more, rfl, rfl, h.symm⟩

/-- A refilled layout keeps the fronts of a node's two segments, and the rest was in
    no hot set before. -/
theorem LayoutShift.refilled_hotSet (h : LayoutShift config candidates segments segments')
    (hpos : 0 < effectiveHotSetChurnFraction config)
    (hlt : effectiveHotSetChurnFraction config < 1) {nodeIndex : Nat}
    (hindex : nodeIndex < config.computeNodeIds.length) :
    let churnFraction := effectiveHotSetChurnFraction config
    let old := hotSetForNode segments nodeIndex
    let hotSet := hotSetForNode segments' nodeIndex
    ((sharedSegment config hotSet).length = (sharedSegment config old).length ∧
      (privateSegment config hotSet).length = (privateSegment config old).length ∧
      keptPart churnFraction (sharedSegment config hotSet) =
        keptPart churnFraction (sharedSegment config old) ∧
      keptPart churnFraction (privateSegment config hotSet) =
        keptPart churnFraction (privateSegment config old)) ∧
    ∀ objectId ∈ replacedPart churnFraction (sharedSegment config hotSet) ++
        replacedPart churnFraction (privateSegment config hotSet),
      objectId ∉ allHotObjects segments := by
  intro churnFraction old hotSet
  obtain ⟨addedShared, addedPrivate, -, hsegments', hfresh⟩ := h.refills hpos hlt
  obtain ⟨segment, hget, hshared, hprivate⟩ := segments_of_hotSet h.layout hindex
  obtain ⟨segment', hget', hshared', hprivate'⟩ := segments_of_hotSet h.layout' hindex
  have hlengths : segment'.length = segment.length := by
    rw [h.layout'.segment_length segment' (List.mem_of_getElem? hget'),
      h.layout.segment_length segment (List.mem_of_getElem? hget)]
  have hsharedLength : segments'.sharedHotObjects.length = segments.sharedHotObjects.length := by
    rw [h.layout'.shared_length, h.layout.shared_length]
  -- the two segments, refilled
  have hsharedRefilled : segments'.sharedHotObjects =
      keptPart churnFraction segments.sharedHotObjects ++ addedShared := by
    rw [hsegments', ← keepPrefixForChurn_eq hpos hlt]
  obtain ⟨more, hmore, hprivateRefilled⟩ : ∃ more, more ∈ addedPrivate ∧
      segment' = keptPart churnFraction segment ++ more := by
    rw [hsegments'] at hget'
    obtain ⟨found, more, hfound, hmore, heq⟩ := refilled_getElem? hget'
    rw [hget, Option.some.injEq] at hfound
    rw [← hfound, keepPrefixForChurn_eq hpos hlt] at heq
    exact ⟨more, List.mem_of_getElem? hmore, heq⟩
  obtain ⟨hkeptShared, hreplacedShared⟩ :=
    parts_of_refill (hsharedRefilled ▸ hsharedLength)
  obtain ⟨hkeptPrivate, hreplacedPrivate⟩ := parts_of_refill (hprivateRefilled ▸ hlengths)
  rw [← hsharedRefilled] at hkeptShared hreplacedShared
  rw [← hprivateRefilled] at hkeptPrivate hreplacedPrivate
  rw [hshared, hshared', hprivate, hprivate']
  refine ⟨⟨hsharedLength, hlengths, hkeptShared, hkeptPrivate⟩, fun objectId hmem => ?_⟩
  rw [hreplacedShared, hreplacedPrivate] at hmem
  refine hfresh.allowed objectId ?_
  rcases List.mem_append.mp hmem with hin | hin
  · exact List.mem_append_left _ hin
  · exact List.mem_append_right _ (List.mem_flatten_of_mem hmore hin)

/-- The recorded hot sets of neighbouring layouts are churned exactly. -/
theorem LayoutShift.churnedExactly (h : LayoutShift config candidates segments segments')
    (hcandidates : candidates.Nodup)
    (hcount : candidates.length = eligibleHotObjectCount config)
    {previous hotSetsByNode : UnorderedMap NodeId (List ObjectId)}
    (hprevious : HotSetsFrom segments config.computeNodeIds 0 previous)
    (hsets : HotSetsFrom segments' config.computeNodeIds 0 hotSetsByNode) :
    ChurnedExactly config previous hotSetsByNode := by
  have hlookup : ∀ nodeId ∈ config.computeNodeIds, ∃ k, k < config.computeNodeIds.length ∧
      previous.lookup nodeId = some (hotSetForNode segments k) ∧
      hotSetsByNode.lookup nodeId = some (hotSetForNode segments' k) := by
    intro nodeId hnode
    obtain ⟨k, hk, hget⟩ := List.mem_iff_getElem.mp hnode
    have hsome : config.computeNodeIds[k]? = some nodeId := by
      rw [List.getElem?_eq_getElem hk, hget]
    have hold := hprevious k nodeId hsome
    have hnew := hsets k nodeId hsome
    rw [Nat.zero_add] at hold hnew
    exact ⟨k, hk, hold, hnew⟩
  refine ⟨?_, ?_, ?_⟩
  · intro hstill nodeId hnode
    obtain ⟨k, -, hold, hnew⟩ := hlookup nodeId hnode
    have hzero : effectiveHotSetChurnFraction config ≤ 0 := by
      unfold effectiveHotSetChurnFraction
      rcases hstill with hmode | hfraction
      · rw [if_pos hmode]
      · split
        · exact le_refl _
        · exact le_of_eq hfraction
    rw [hold, hnew, h.still hzero]
  · intro hmode hpos hlt
    have heffective : effectiveHotSetChurnFraction config = config.hotSetChurnFraction := by
      unfold effectiveHotSetChurnFraction
      rw [if_neg (by rw [hmode]; decide)]
    rw [← heffective] at hpos hlt
    refine ⟨fun nodeId hnode => ?_, fun nodeId hnode hotSet hhot objectId hmem other hother old
      hold => ?_⟩
    · obtain ⟨k, hk, hold, hnew⟩ := hlookup nodeId hnode
      have hkept := (h.refilled_hotSet hpos hlt hk).1
      rw [heffective] at hkept
      exact ⟨_, _, hold, hnew, hkept⟩
    · obtain ⟨k, hk, -, hnew⟩ := hlookup nodeId hnode
      obtain ⟨j, hj, hold', -⟩ := hlookup other hother
      rw [hnew, Option.some.injEq] at hhot
      rw [hold', Option.some.injEq] at hold
      have hfresh := (h.refilled_hotSet hpos hlt hk).2 objectId
      rw [heffective, hhot] at hfresh
      exact fun hin => hfresh hmem (h.layout.mem_allHotObjects hj (hold ▸ hin))
  · intro hmode hone hroom nodeId hnode other hother old hotSet hold hhot
    obtain ⟨k, hk, hold', -⟩ := hlookup nodeId hnode
    obtain ⟨j, hj, -, hnew'⟩ := hlookup other hother
    have hfull : 1 ≤ effectiveHotSetChurnFraction config := by
      unfold effectiveHotSetChurnFraction
      rw [if_neg (by rw [hmode]; decide), hone]
    obtain ⟨cursor, hwindow, hwindow'⟩ := h.windows hfull
    rw [hold', Option.some.injEq] at hold
    rw [hnew', Option.some.injEq] at hhot
    intro objectId hin hin'
    have hmem := h.layout.mem_allHotObjects hk (hold ▸ hin)
    have hmem' := h.layout'.mem_allHotObjects hj (hhot ▸ hin')
    rw [hwindow] at hmem
    rw [hwindow'] at hmem'
    exact disjoint_window hcandidates cursor (by omega) hmem hmem'

end HotSets

/-- The layout behind a recorded epoch. -/
theorem exists_layout {R : HotSetSegments → EpochHotSetMetadata → Prop}
    {layouts : List HotSetSegments} {recorded : List EpochHotSetMetadata}
    (h : List.Forall₂ R layouts recorded) {i : Nat} {epoch : EpochHotSetMetadata}
    (hget : recorded[i]? = some epoch) : ∃ layout, layouts[i]? = some layout ∧ R layout epoch := by
  induction h generalizing i with
  | nil => cases hget
  | @cons layout first layouts recorded hfirst _ ih =>
      cases i with
      | zero =>
          rw [List.getElem?_cons_zero, Option.some.injEq] at hget
          exact ⟨layout, rfl, hget ▸ hfirst⟩
      | succ i =>
          rw [List.getElem?_cons_succ] at hget
          exact ih hget

section Generation

variable (A : Arith) (rng : RandomSource) {config : SyntheticWorkloadConfig}

/-- Between consecutive epochs the hot sets change by exactly the configured churn. -/
theorem generateSyntheticWorkload_churn
    (h : validateSyntheticWorkloadConfig A config = .ok ()) :
    ∃ workload, generateSyntheticWorkload A rng config = .ok workload ∧
      workload.epochs.length = config.epochCount ∧
      ∀ i previous epoch, workload.epochs[i]? = some previous →
        workload.epochs[i + 1]? = some epoch →
          ChurnedExactly config previous.hotSetsByNode epoch.hotSetsByNode := by
  have hchecked := workloadChecked_of_validate h
  have hperm := rng.shuffle_perm (makeObjectUniverse config.objectCount) (rng.seed config.seed)
  have hfit := hotSetsFit hchecked hperm
  obtain ⟨workload, layouts, recorded, hgenerate, hlayouts, hepochs, hcount, hsets⟩ :=
    generateEpochs_layouts (A := A) hchecked hperm (objectSizesById rng config) config.epochCount
      (Or.inl rfl) 0
      (rng.shuffle (makeObjectUniverse config.objectCount) (rng.seed config.seed)).2
      { nodeWorkloads :=
          config.computeNodeIds.map (fun nodeId => { nodeId := nodeId, requests := [] })
        epochs := [] } (by simp [Function.comp_def])
  rw [List.nil_append] at hepochs
  refine ⟨workload, ?_, by rw [hepochs, hcount], ?_⟩
  · unfold generateSyntheticWorkload
    rw [h]
    exact hgenerate
  · intro i previous epoch hprevious hepoch
    rw [hepochs] at hprevious hepoch
    obtain ⟨layout, hlayout, hfrom⟩ := exists_layout hsets hprevious
    obtain ⟨layout', hlayout', hfrom'⟩ := exists_layout hsets hepoch
    cases hlayouts with
    | done => cases hlayout
    | next hfirst hrest =>
        have hshift := hrest.shift hfit (epochLayout_first hfit hfirst) hlayout hlayout'
        exact hshift.churnedExactly hfit.nodup (length_eligibleHotObjects hchecked.channels_pos hperm)
          hfrom hfrom'

end Generation

theorem churningConfig_churn :
    ∃ workload, generateSyntheticWorkload .exact lowestSource churningConfig = .ok workload ∧
      workload.epochs.length = 3 ∧
      ∀ i previous epoch, workload.epochs[i]? = some previous →
        workload.epochs[i + 1]? = some epoch →
          ChurnedExactly churningConfig previous.hotSetsByNode epoch.hotSetsByNode :=
  generateSyntheticWorkload_churn .exact lowestSource churningConfig_valid

-- ============================================================================
-- Replacements are always found
-- ============================================================================

/-- The eligible objects of a generated workload, in the order of the shuffle. -/
def hotObjectCandidates (rng : RandomSource) (config : SyntheticWorkloadConfig) : List ObjectId :=
  eligibleHotObjects config
    (rng.shuffle (makeObjectUniverse config.objectCount) (rng.seed config.seed)).1

section Replacements

variable {config : SyntheticWorkloadConfig} {candidates : List ObjectId}
  {previous : HotSetSegments}

/-- Before the last replacement of a churn there is a fresh object to be found in one
    pass, wherever the cursor stands. -/
theorem exists_replacement (h : HotSetsFit config candidates)
    (hpos : 0 < effectiveHotSetChurnFraction config)
    (hlt : effectiveHotSetChurnFraction config < 1) (hprevious : Layout config candidates previous)
    {added : List ObjectId}
    (hadded : added.length <
      totalReplacementsPerEpoch config (effectiveHotSetChurnFraction config)) (cursor : Nat) :
    ∃ replacement cursor',
      nextUnusedObject candidates
        (added ++ keptObjects previous (effectiveHotSetChurnFraction config))
        (allHotObjects previous) candidates.length cursor = .ok (replacement, cursor') := by
  have hkept := hprevious.card_kept (effectiveHotSetChurnFraction config)
  have hcard := card_used_le added.reverse
    (keptObjects previous (effectiveHotSetChurnFraction config)) (allHotObjects previous)
  rw [List.reverse_reverse, List.length_reverse, hkept] at hcard
  have hfit := h.churn_le hpos hlt
  -- pigeonhole: what is used or was hot does not fill the candidates
  obtain ⟨objectId, hmem, hfresh⟩ := exists_fresh h.nodup
    (show ((added ++ keptObjects previous (effectiveHotSetChurnFraction config)) ++
      allHotObjects previous).toFinset.card < candidates.length by omega)
  rw [List.mem_append, not_or] at hfresh
  obtain ⟨replacement, cursor', hfound, -⟩ := nextUnusedObject_spec h.nonempty
    ⟨objectId, mem_window_length hmem cursor, hfresh⟩
  exact ⟨replacement, cursor', hfound⟩

end Replacements

/-- Validation is sufficient: generation never throws, the candidates are not empty,
    every scan for a replacement succeeds within one pass from any cursor, and every
    node has a hot object to choose. -/
theorem generateSyntheticWorkload_total (A : Arith) (rng : RandomSource)
    {config : SyntheticWorkloadConfig}
    (h : validateSyntheticWorkloadConfig A config = .ok ()) :
    (∃ workload, generateSyntheticWorkload A rng config = .ok workload) ∧
      hotObjectCandidates rng config ≠ [] ∧
      (∀ epochId segments cursor,
        epochId = 0 ∨ Layout config (hotObjectCandidates rng config) segments →
        ∃ segments' cursor',
          epochLayout config (hotObjectCandidates rng config) epochId segments cursor =
            .ok (segments', cursor') ∧
          Layout config (hotObjectCandidates rng config) segments') ∧
      (0 < effectiveHotSetChurnFraction config → effectiveHotSetChurnFraction config < 1 →
        ∀ previous, Layout config (hotObjectCandidates rng config) previous →
          ∀ added : List ObjectId, added.length <
              totalReplacementsPerEpoch config (effectiveHotSetChurnFraction config) →
            ∀ cursor, ∃ replacement cursor',
              nextUnusedObject (hotObjectCandidates rng config)
                (added ++ keptObjects previous (effectiveHotSetChurnFraction config))
                (allHotObjects previous) (hotObjectCandidates rng config).length cursor =
                  .ok (replacement, cursor')) ∧
      ∀ segments, Layout config (hotObjectCandidates rng config) segments →
        ∀ nodeIndex, nodeIndex < config.computeNodeIds.length → ∀ coldSet engine,
          ∃ choice, chooseObject rng (hotSetForNode segments nodeIndex) coldSet
            config.hotAccessProbability engine = .ok choice := by
  have hchecked := workloadChecked_of_validate h
  have hperm := rng.shuffle_perm (makeObjectUniverse config.objectCount) (rng.seed config.seed)
  have hfit : HotSetsFit config (hotObjectCandidates rng config) := hotSetsFit hchecked hperm
  obtain ⟨workload, hgenerate, -⟩ := exists_generateSyntheticWorkload A rng h
  refine ⟨⟨workload, hgenerate⟩, hfit.nonempty, ?_, ?_, ?_⟩
  · exact fun epochId segments cursor hsegments => epochLayout_spec hfit hsegments cursor
  · exact fun hpos hlt previous hprevious added hadded cursor =>
      exists_replacement hfit hpos hlt hprevious hadded cursor
  · intro segments hlayout nodeIndex hlt coldSet engine
    exact chooseObject_ok (hotSetForNode_ne_nil hchecked hlayout hlt) coldSet _ engine

theorem churningConfig_total :
    (∃ workload, generateSyntheticWorkload .exact lowestSource churningConfig = .ok workload) ∧
      hotObjectCandidates lowestSource churningConfig ≠ [] :=
  have htotal := generateSyntheticWorkload_total .exact lowestSource churningConfig_valid
  ⟨htotal.1, htotal.2.1⟩

end DmSimulator
