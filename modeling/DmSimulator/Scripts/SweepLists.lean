/-
  DmSimulator.Scripts.SweepLists

  What the parsers of the sweep lists accept, and the choices that the matrix makes
  from lists without duplicates.
-/
import DmSimulator.Scripts.RunMatrix

namespace DmSimulator

-- ============================================================================
-- What the parsers accept
-- ============================================================================

theorem exists_of_mapM_eq_ok {α β : Type} {f : α → Except String β} {items : List α}
    {values : List β} (h : items.mapM f = .ok values) :
    ∀ value ∈ values, ∃ item ∈ items, f item = .ok value := by
  induction items generalizing values with
  | nil =>
      rw [List.mapM_nil, pure_eq_ok] at h
      intro value hvalue
      rw [← h] at hvalue
      exact absurd hvalue List.not_mem_nil
  | cons item items ih =>
      rw [List.mapM_cons, bind_eq_ok] at h
      obtain ⟨first, hfirst, h⟩ := h
      rw [bind_eq_ok] at h
      obtain ⟨rest, hrest, h⟩ := h
      rw [pure_eq_ok] at h
      intro value hvalue
      rw [← h] at hvalue
      rcases List.mem_cons.mp hvalue with rfl | hvalue
      · exact ⟨item, List.mem_cons_self, hfirst⟩
      · obtain ⟨other, hother, hf⟩ := ih hrest value hvalue
        exact ⟨other, List.mem_cons_of_mem _ hother, hf⟩

theorem parseSeeds_ne_nil {py : Conversions} {value : String} {seeds : List Int}
    (h : parseSeeds py value = .ok seeds) : seeds ≠ [] := by
  unfold parseSeeds at h
  simp only [bind_eq_ok, throwIf_eq_ok, pure_eq_ok, exists_and_left, exists_const] at h
  obtain ⟨parsed, -, hne, rfl⟩ := h
  simpa using hne

theorem parseInts_ne_nil {py : Conversions} {refused : Int → Bool} {kind value : String}
    {values : List Nat} (h : parseInts py refused kind value = .ok values) : values ≠ [] := by
  unfold parseInts at h
  simp only [bind_eq_ok, throwIf_eq_ok, pure_eq_ok, exists_and_left, exists_const] at h
  obtain ⟨parsed, -, hne, rfl⟩ := h
  simpa using hne

theorem parsePolicies_spec {value : String} {policies : List String}
    (h : parsePolicies value = .ok policies) :
    policies ≠ [] ∧ ∀ policy ∈ policies, policy ∈ POLICIES := by
  unfold parsePolicies at h
  simp only [bind_eq_ok, throwIf_eq_ok, pure_eq_ok, exists_and_left, exists_const] at h
  obtain ⟨hne, hvalid, rfl⟩ := h
  refine ⟨by simpa using hne, ?_⟩
  simpa [List.filter_eq_nil_iff] using hvalid

theorem parseNames_spec {allowed : List String}
    {invalidLabel expected emptyMessage value : String} {names : List String}
    (h : parseNames allowed invalidLabel expected emptyMessage value = .ok names) :
    names ≠ [] ∧ ∀ name ∈ names, name ∈ allowed := by
  unfold parseNames at h
  simp only [bind_eq_ok, throwIf_eq_ok, pure_eq_ok, exists_and_left, exists_const] at h
  obtain ⟨hvalid, hne, rfl⟩ := h
  refine ⟨by simpa using hne, ?_⟩
  simpa [List.filter_eq_nil_iff] using hvalid

theorem parseFloats_spec {py : Conversions} {refused : Rat → Bool}
    {expected value label : String} {values : List Rat}
    (h : parseFloats py refused expected value label = .ok values) :
    values ≠ [] ∧ ∀ x ∈ values, refused x = false := by
  unfold parseFloats at h
  simp only [bind_eq_ok, throwIf_eq_ok, pure_eq_ok, exists_and_left, exists_const] at h
  obtain ⟨parsed, hparsed, hne, rfl⟩ := h
  refine ⟨by simpa using hne, ?_⟩
  intro x hx
  obtain ⟨item, -, hitem⟩ := exists_of_mapM_eq_ok hparsed x hx
  split at hitem
  next => exact absurd hitem (by simp [throw, throwThe, MonadExceptOf.throw])
  next => exact absurd hitem (by simp [throw, throwThe, MonadExceptOf.throw])
  next y _ =>
      split at hitem
      next => exact absurd hitem (by simp [throw, throwThe, MonadExceptOf.throw])
      next hrefused =>
          rw [pure_eq_ok] at hitem
          rw [← hitem]
          exact Bool.eq_false_of_not_eq_true hrefused

theorem parseProbabilities_spec {py : Conversions} {value label : String} {values : List Rat}
    (h : parseProbabilities py value label = .ok values) :
    values ≠ [] ∧ ∀ x ∈ values, 0 ≤ x := by
  obtain ⟨hne, hrefused⟩ := parseFloats_spec h
  refine ⟨hne, fun x hx => ?_⟩
  have hrange := hrefused x hx
  rw [Bool.or_eq_false_iff] at hrange
  exact not_lt.mp (of_decide_eq_false hrange.1)

theorem parsePositiveFloats_spec {py : Conversions} {value label : String} {values : List Rat}
    (h : parsePositiveFloats py value label = .ok values) :
    values ≠ [] ∧ ∀ x ∈ values, 0 ≤ x := by
  obtain ⟨hne, hrefused⟩ := parseFloats_spec h
  refine ⟨hne, fun x hx => ?_⟩
  exact (not_le.mp (of_decide_eq_false (hrefused x hx))).le

/-- The command line texts of the sweep lists. -/
structure SweepTexts where
  policies : String
  seeds : String
  nodeCounts : String
  objectCounts : String
  epochCounts : String
  epochLengths : String
  workloadIssueModes : String
  burstSizes : String
  burstIntervals : String
  intraBurstGaps : String
  nodePhaseJitters : String
  hotSetSizes : String
  hotAccessProbabilities : String
  churnFractions : String
  overlaps : String
  objectSizeModes : String
  largeObjectProbabilities : String
  cacheHotsetMultipliers : String
  memoryChannelCounts : String
  hotObjectChannelCounts : String
  memoryBandwidthLevels : String
  memoryBaseLatencyLevels : String
  linkLatencyLevels : String

/-- The parsers accept the texts and return the lists, as `main` calls them. -/
structure SweepLists.ParsedFrom (s : SweepLists) (py : Conversions) (texts : SweepTexts) :
    Prop where
  policies : parsePolicies texts.policies = .ok s.policies
  seeds : parseSeeds py texts.seeds = .ok s.seeds
  nodeCounts : parsePositiveInts py texts.nodeCounts = .ok s.nodeCounts
  objectCounts : parsePositiveInts py texts.objectCounts = .ok s.objectCounts
  epochCounts : parsePositiveInts py texts.epochCounts = .ok s.epochCounts
  epochLengths : parsePositiveInts py texts.epochLengths = .ok s.epochLengths
  workloadIssueModes :
    parseWorkloadIssueModes texts.workloadIssueModes = .ok s.workloadIssueModes
  burstSizes : parsePositiveInts py texts.burstSizes = .ok s.burstSizes
  burstIntervals : parsePositiveInts py texts.burstIntervals = .ok s.burstIntervals
  intraBurstGaps : parseNonnegativeInts py texts.intraBurstGaps = .ok s.intraBurstGaps
  nodePhaseJitters : parseNonnegativeInts py texts.nodePhaseJitters = .ok s.nodePhaseJitters
  hotSetSizes : parsePositiveInts py texts.hotSetSizes = .ok s.hotSetSizes
  hotAccessProbabilities :
    parseProbabilities py texts.hotAccessProbabilities "hot-access probability" =
      .ok s.hotAccessProbabilities
  churnFractions : parseProbabilities py texts.churnFractions "churn fraction" =
    .ok s.churnFractions
  overlaps : parseOverlaps texts.overlaps = .ok s.overlaps
  objectSizeModes : parseObjectSizeModes texts.objectSizeModes = .ok s.objectSizeModes
  largeObjectProbabilities :
    parseProbabilities py texts.largeObjectProbabilities "large-object probability" =
      .ok s.largeObjectProbabilities
  cacheMultipliers :
    parsePositiveFloats py texts.cacheHotsetMultipliers "cache hot-set multiplier" =
      .ok s.cacheMultipliers
  memoryChannelCounts :
    parsePositiveInts py texts.memoryChannelCounts = .ok s.memoryChannelCounts
  hotObjectChannelCounts :
    parseNonnegativeInts py texts.hotObjectChannelCounts = .ok s.hotObjectChannelCounts
  memoryBandwidthLevels :
    parseLevels texts.memoryBandwidthLevels MEMORY_BANDWIDTH_BYTES_PER_TIME_BY_LEVEL
      "memory bandwidth level" = .ok s.memoryBandwidthLevels
  memoryBaseLatencyLevels :
    parseLevels texts.memoryBaseLatencyLevels MEMORY_BASE_LATENCY_BY_LEVEL
      "memory base-latency level" = .ok s.memoryBaseLatencyLevels
  linkLatencyLevels :
    parseLevels texts.linkLatencyLevels LINK_LATENCY_BY_LEVEL "link latency level" =
      .ok s.linkLatencyLevels

-- ============================================================================
-- The choices of the matrix
-- ============================================================================

/-- Every dimension has one of the selected values. -/
structure Dimensions.Within (d : Dimensions) (s : SweepLists) : Prop where
  seed : d.seed ∈ s.seeds
  policy : d.policy ∈ s.policies
  computeNodeCount : d.computeNodeCount ∈ s.nodeCounts
  objectCount : d.objectCount ∈ s.objectCounts
  epochCount : d.epochCount ∈ s.epochCounts
  requestsPerNodePerEpoch : d.requestsPerNodePerEpoch ∈ s.epochLengths
  workloadIssueMode : d.workloadIssueMode ∈ s.workloadIssueModes
  burstSize : d.burstSize ∈ s.burstSizes
  burstInterval : d.burstInterval ∈ s.burstIntervals
  intraBurstGap : d.intraBurstGap ∈ s.intraBurstGaps
  nodePhaseJitter : d.nodePhaseJitter ∈ s.nodePhaseJitters
  hotSetSize : d.hotSetSize ∈ s.hotSetSizes
  hotAccessProbability : d.hotAccessProbability ∈ s.hotAccessProbabilities
  hotSetChurnFraction : d.hotSetChurnFraction ∈ s.churnFractions
  crossNodeOverlap : d.crossNodeOverlap ∈ s.overlaps
  objectSizeMode : d.objectSizeMode ∈ s.objectSizeModes
  largeObjectProbability : d.largeObjectProbability ∈ s.largeObjectProbabilities
  cacheCapacityHotsetMultiplier : d.cacheCapacityHotsetMultiplier ∈ s.cacheMultipliers
  memoryChannelCount : d.memoryChannelCount ∈ s.memoryChannelCounts
  hotObjectChannelCount : d.hotObjectChannelCount ∈ s.hotObjectChannelCounts
  memoryBandwidthLevel : d.memoryBandwidthLevel ∈ s.memoryBandwidthLevels
  memoryBaseLatencyLevel : d.memoryBaseLatencyLevel ∈ s.memoryBaseLatencyLevels
  linkLatencyLevel : d.linkLatencyLevel ∈ s.linkLatencyLevels

/-- What the parsers promise of a choice. -/
structure Dimensions.Valid (d : Dimensions) : Prop where
  policy : d.policy ∈ POLICIES
  workloadIssueMode : d.workloadIssueMode ∈ ["completion_driven", "scheduled_bursty"]
  hotAccessProbability : 0 ≤ d.hotAccessProbability
  hotSetChurnFraction : 0 ≤ d.hotSetChurnFraction
  crossNodeOverlap : d.crossNodeOverlap ∈ ["low", "medium", "high"]
  objectSizeMode : d.objectSizeMode ∈ ["fixed", "bimodal"]
  largeObjectProbability : 0 ≤ d.largeObjectProbability
  cacheCapacityHotsetMultiplier : 0 ≤ d.cacheCapacityHotsetMultiplier
  memoryBandwidthLevel : d.memoryBandwidthLevel ∈ ["mild", "moderate", "severe"]
  memoryBaseLatencyLevel : d.memoryBaseLatencyLevel ∈ ["low", "medium", "high"]
  linkLatencyLevel : d.linkLatencyLevel ∈ ["low", "medium", "high"]

theorem SweepLists.ParsedFrom.valid {s : SweepLists} {py : Conversions} {texts : SweepTexts}
    (h : s.ParsedFrom py texts) {d : Dimensions} (hd : d.Within s) : d.Valid where
  policy := (parsePolicies_spec h.policies).2 _ hd.policy
  workloadIssueMode := (parseNames_spec h.workloadIssueModes).2 _ hd.workloadIssueMode
  hotAccessProbability :=
    (parseProbabilities_spec h.hotAccessProbabilities).2 _ hd.hotAccessProbability
  hotSetChurnFraction := (parseProbabilities_spec h.churnFractions).2 _ hd.hotSetChurnFraction
  crossNodeOverlap := (parseNames_spec h.overlaps).2 _ hd.crossNodeOverlap
  objectSizeMode := (parseNames_spec h.objectSizeModes).2 _ hd.objectSizeMode
  largeObjectProbability :=
    (parseProbabilities_spec h.largeObjectProbabilities).2 _ hd.largeObjectProbability
  cacheCapacityHotsetMultiplier :=
    (parsePositiveFloats_spec h.cacheMultipliers).2 _ hd.cacheCapacityHotsetMultiplier
  memoryBandwidthLevel := (parseNames_spec h.memoryBandwidthLevels).2 _ hd.memoryBandwidthLevel
  memoryBaseLatencyLevel :=
    (parseNames_spec h.memoryBaseLatencyLevels).2 _ hd.memoryBaseLatencyLevel
  linkLatencyLevel := (parseNames_spec h.linkLatencyLevels).2 _ hd.linkLatencyLevel

/-- No list repeats a value. -/
structure SweepLists.DuplicateFree (s : SweepLists) : Prop where
  policies : s.policies.Nodup
  seeds : s.seeds.Nodup
  nodeCounts : s.nodeCounts.Nodup
  objectCounts : s.objectCounts.Nodup
  epochCounts : s.epochCounts.Nodup
  epochLengths : s.epochLengths.Nodup
  workloadIssueModes : s.workloadIssueModes.Nodup
  burstSizes : s.burstSizes.Nodup
  burstIntervals : s.burstIntervals.Nodup
  intraBurstGaps : s.intraBurstGaps.Nodup
  nodePhaseJitters : s.nodePhaseJitters.Nodup
  hotSetSizes : s.hotSetSizes.Nodup
  hotAccessProbabilities : s.hotAccessProbabilities.Nodup
  churnFractions : s.churnFractions.Nodup
  overlaps : s.overlaps.Nodup
  objectSizeModes : s.objectSizeModes.Nodup
  largeObjectProbabilities : s.largeObjectProbabilities.Nodup
  cacheMultipliers : s.cacheMultipliers.Nodup
  memoryChannelCounts : s.memoryChannelCounts.Nodup
  hotObjectChannelCounts : s.hotObjectChannelCounts.Nodup
  memoryBandwidthLevels : s.memoryBandwidthLevels.Nodup
  memoryBaseLatencyLevels : s.memoryBaseLatencyLevels.Nodup
  linkLatencyLevels : s.linkLatencyLevels.Nodup

def Dimensions.toTuple (d : Dimensions) : DimensionTuple :=
  (d.seed, d.policy, d.computeNodeCount, d.objectCount, d.epochCount, d.requestsPerNodePerEpoch,
    d.workloadIssueMode, d.burstSize, d.burstInterval, d.intraBurstGap, d.nodePhaseJitter,
    d.hotSetSize, d.hotAccessProbability, d.hotSetChurnFraction, d.crossNodeOverlap,
    d.objectSizeMode, d.largeObjectProbability, d.cacheCapacityHotsetMultiplier,
    d.memoryChannelCount, d.hotObjectChannelCount, d.memoryBandwidthLevel,
    d.memoryBaseLatencyLevel, d.linkLatencyLevel)

theorem Dimensions.ofTuple_injective : Function.Injective Dimensions.ofTuple := by
  have hleft : Function.LeftInverse Dimensions.toTuple Dimensions.ofTuple := fun _ => rfl
  exact hleft.injective

theorem SweepLists.mem_dimensions {s : SweepLists} {d : Dimensions} :
    d ∈ s.dimensions ↔ d.Within s := by
  have htuple : Dimensions.ofTuple d.toTuple ∈ s.product.map Dimensions.ofTuple ↔
      d.toTuple ∈ s.product :=
    List.mem_map_of_injective Dimensions.ofTuple_injective
  apply htuple.trans
  unfold SweepLists.product Dimensions.toTuple
  simp only [List.mem_product]
  constructor
  · rintro ⟨h1, h2, h3, h4, h5, h6, h7, h8, h9, h10, h11, h12, h13, h14, h15, h16, h17, h18, h19,
      h20, h21, h22, h23⟩
    exact ⟨h1, h2, h3, h4, h5, h6, h7, h8, h9, h10, h11, h12, h13, h14, h15, h16, h17, h18, h19,
      h20, h21, h22, h23⟩
  · intro h
    exact ⟨h.1, h.2, h.3, h.4, h.5, h.6, h.7, h.8, h.9, h.10, h.11, h.12, h.13, h.14, h.15, h.16,
      h.17, h.18, h.19, h.20, h.21, h.22, h.23⟩

theorem SweepLists.DuplicateFree.dimensions {s : SweepLists} (h : s.DuplicateFree) :
    s.dimensions.Nodup := by
  apply List.Nodup.map Dimensions.ofTuple_injective
  exact h.seeds.product <| h.policies.product <| h.nodeCounts.product <|
    h.objectCounts.product <| h.epochCounts.product <| h.epochLengths.product <|
    h.workloadIssueModes.product <| h.burstSizes.product <| h.burstIntervals.product <|
    h.intraBurstGaps.product <| h.nodePhaseJitters.product <| h.hotSetSizes.product <|
    h.hotAccessProbabilities.product <| h.churnFractions.product <| h.overlaps.product <|
    h.objectSizeModes.product <| h.largeObjectProbabilities.product <|
    h.cacheMultipliers.product <| h.memoryChannelCounts.product <|
    h.hotObjectChannelCounts.product <| h.memoryBandwidthLevels.product <|
    h.memoryBaseLatencyLevels.product h.linkLatencyLevels

/-- The parsers refuse an empty list, so there is a choice with any two selected channel
    counts. -/
theorem SweepLists.ParsedFrom.exists_within {s : SweepLists} {py : Conversions}
    {texts : SweepTexts} (h : s.ParsedFrom py texts) {channels hotChannels : Nat}
    (hchannels : channels ∈ s.memoryChannelCounts)
    (hhot : hotChannels ∈ s.hotObjectChannelCounts) :
    ∃ d : Dimensions, d.Within s ∧ d.memoryChannelCount = channels ∧
      d.hotObjectChannelCount = hotChannels := by
  have hpick : ∀ {α : Type} {l : List α}, l ≠ [] → ∃ a, a ∈ l :=
    fun hne => List.exists_mem_of_ne_nil _ hne
  obtain ⟨policy, hpolicy⟩ := hpick (parsePolicies_spec h.policies).1
  obtain ⟨seed, hseed⟩ := hpick (parseSeeds_ne_nil h.seeds)
  obtain ⟨nodes, hnodes⟩ := hpick (parseInts_ne_nil h.nodeCounts)
  obtain ⟨objects, hobjects⟩ := hpick (parseInts_ne_nil h.objectCounts)
  obtain ⟨epochs, hepochs⟩ := hpick (parseInts_ne_nil h.epochCounts)
  obtain ⟨epochLength, hepochLength⟩ := hpick (parseInts_ne_nil h.epochLengths)
  obtain ⟨issueMode, hissueMode⟩ := hpick (parseNames_spec h.workloadIssueModes).1
  obtain ⟨burstSize, hburstSize⟩ := hpick (parseInts_ne_nil h.burstSizes)
  obtain ⟨burstInterval, hburstInterval⟩ := hpick (parseInts_ne_nil h.burstIntervals)
  obtain ⟨gap, hgap⟩ := hpick (parseInts_ne_nil h.intraBurstGaps)
  obtain ⟨jitter, hjitter⟩ := hpick (parseInts_ne_nil h.nodePhaseJitters)
  obtain ⟨hotSetSize, hhotSetSize⟩ := hpick (parseInts_ne_nil h.hotSetSizes)
  obtain ⟨hotAccess, hhotAccess⟩ := hpick (parseProbabilities_spec h.hotAccessProbabilities).1
  obtain ⟨churn, hchurn⟩ := hpick (parseProbabilities_spec h.churnFractions).1
  obtain ⟨overlap, hoverlap⟩ := hpick (parseNames_spec h.overlaps).1
  obtain ⟨sizeMode, hsizeMode⟩ := hpick (parseNames_spec h.objectSizeModes).1
  obtain ⟨large, hlarge⟩ := hpick (parseProbabilities_spec h.largeObjectProbabilities).1
  obtain ⟨multiplier, hmultiplier⟩ := hpick (parsePositiveFloats_spec h.cacheMultipliers).1
  obtain ⟨bandwidth, hbandwidth⟩ := hpick (parseNames_spec h.memoryBandwidthLevels).1
  obtain ⟨base, hbase⟩ := hpick (parseNames_spec h.memoryBaseLatencyLevels).1
  obtain ⟨link, hlink⟩ := hpick (parseNames_spec h.linkLatencyLevels).1
  exact ⟨⟨seed, policy, nodes, objects, epochs, epochLength, issueMode, burstSize, burstInterval,
    gap, jitter, hotSetSize, hotAccess, churn, overlap, sizeMode, large, multiplier, channels,
    hotChannels, bandwidth, base, link⟩,
    ⟨hseed, hpolicy, hnodes, hobjects, hepochs, hepochLength, hissueMode, hburstSize,
      hburstInterval, hgap, hjitter, hhotSetSize, hhotAccess, hchurn, hoverlap, hsizeMode, hlarge,
      hmultiplier, hchannels, hhot, hbandwidth, hbase, hlink⟩, rfl, rfl⟩

-- ============================================================================
-- The runs of a matrix
-- ============================================================================

theorem foldlM_append_eq_ok {α β : Type} {f : α → Except String (List β)} {g : α → List β}
    (hg : ∀ a more, f a = .ok more → more = g a) {l : List α} {runs out : List β}
    (h : l.foldlM (fun runs a => do
      let more ← f a
      return runs ++ more) runs = .ok out) : out = runs ++ l.flatMap g := by
  induction l generalizing runs with
  | nil =>
      rw [List.foldlM_nil, pure_eq_ok] at h
      rw [List.flatMap_nil, List.append_nil, h]
  | cons a l ih =>
      rw [List.foldlM_cons, bind_eq_ok] at h
      obtain ⟨next, hnext, h⟩ := h
      rw [bind_eq_ok] at hnext
      obtain ⟨more, hmore, hnext⟩ := hnext
      rw [pure_eq_ok] at hnext
      rw [ih h, ← hnext, hg a more hmore, List.flatMap_cons, List.append_assoc]

/-- The choices that become runs, with the weight profiles of their policies. -/
def choices (preset : MatrixPreset) (s : SweepLists) :
    List (Dimensions × ContentionWeightProfile) :=
  s.dimensions.flatMap (fun d =>
    if d.hotObjectChannelCount ≤ d.memoryChannelCount then
      (contentionWeightProfilesForPolicy preset d.policy).map (fun profile => (d, profile))
    else [])

theorem runsAt_eq_ok {preset : MatrixPreset} {resultsDir : Path} {d : Dimensions}
    {more : List MatrixRun} (h : runsAt preset resultsDir d = .ok more) :
    more = (if d.hotObjectChannelCount ≤ d.memoryChannelCount then
      (contentionWeightProfilesForPolicy preset d.policy).map (matrixRun preset resultsDir d)
      else []) := by
  unfold runsAt at h
  split at h
  next hskip =>
      rw [pure_eq_ok] at h
      rw [if_neg (not_le.mpr hskip), h]
  next hkept =>
      simp only [bind_eq_ok, throwIf_eq_ok, pure_eq_ok, exists_and_left, exists_const] at h
      obtain ⟨-, overlap, -, -, -, -, rfl⟩ := h
      rw [if_pos (not_lt.mp hkept)]

/-- `build_runs` makes one run of every choice. -/
theorem buildRuns_eq_ok {preset : MatrixPreset} {s : SweepLists} {resultsDir : Path}
    {runs : List MatrixRun} (h : buildRuns preset s resultsDir = .ok runs) :
    runs = (choices preset s).map (fun c => matrixRun preset resultsDir c.1 c.2) := by
  rw [foldlM_append_eq_ok (fun d more hmore => runsAt_eq_ok hmore) h]
  unfold choices
  rw [List.nil_append, List.map_flatMap]
  congr 1
  funext d
  split
  next => rw [List.map_map]; rfl
  next => rfl

theorem mem_choices {preset : MatrixPreset} {s : SweepLists} {d : Dimensions}
    {profile : ContentionWeightProfile} :
    (d, profile) ∈ choices preset s ↔
      d.Within s ∧ d.hotObjectChannelCount ≤ d.memoryChannelCount ∧
        profile ∈ contentionWeightProfilesForPolicy preset d.policy := by
  unfold choices
  rw [List.mem_flatMap]
  constructor
  · rintro ⟨other, hother, hmem⟩
    split at hmem
    next hle =>
        obtain ⟨p, hp, heq⟩ := List.mem_map.mp hmem
        obtain ⟨rfl, rfl⟩ := Prod.mk.inj heq
        exact ⟨SweepLists.mem_dimensions.mp hother, hle, hp⟩
    next => exact absurd hmem List.not_mem_nil
  · rintro ⟨hwithin, hle, hprofile⟩
    refine ⟨d, SweepLists.mem_dimensions.mpr hwithin, ?_⟩
    rw [if_pos hle]
    exact List.mem_map_of_mem hprofile

/-- The 24 profiles have different tokens. -/
theorem CONTENTION_WEIGHT_PROFILES_nodup :
    (CONTENTION_WEIGHT_PROFILES.map (fun p => runNameToken p.profile)).Nodup := by
  decide +kernel

theorem contentionWeightProfilesForPolicy_nodup (preset : MatrixPreset) (policy : String) :
    (contentionWeightProfilesForPolicy preset policy).Nodup := by
  unfold contentionWeightProfilesForPolicy
  split
  next =>
      split
      next => exact List.Nodup.of_map _ CONTENTION_WEIGHT_PROFILES_nodup
      next => exact List.nodup_singleton _
  next => exact List.nodup_singleton _

theorem SweepLists.DuplicateFree.choices {s : SweepLists} (h : s.DuplicateFree)
    (preset : MatrixPreset) : (choices preset s).Nodup := by
  have hfst : ∀ {d : Dimensions} {c : Dimensions × ContentionWeightProfile},
      c ∈ (if d.hotObjectChannelCount ≤ d.memoryChannelCount then
        (contentionWeightProfilesForPolicy preset d.policy).map (fun profile => (d, profile))
        else []) → c.1 = d := by
    intro d c hc
    split at hc
    next =>
        obtain ⟨profile, -, rfl⟩ := List.mem_map.mp hc
        rfl
    next => exact absurd hc List.not_mem_nil
  apply List.nodup_flatMap.mpr
  constructor
  · intro d _
    split
    next =>
        exact (contentionWeightProfilesForPolicy_nodup preset d.policy).map
          (fun _ _ heq => (Prod.mk.inj heq).2)
    next => exact List.nodup_nil
  · apply h.dimensions.imp
    intro d other hne c hc hother
    exact hne ((hfst hc).symm.trans (hfst hother))

end DmSimulator
