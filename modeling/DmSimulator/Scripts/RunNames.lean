/-
  DmSimulator.Scripts.RunNames

  When the runs of a matrix have different names.

  A full name is the token of the preset and labelled parts, joined by `__`; it is
  read back part by part.  Every token but that of a float determines its value: a
  float is written with six significant digits, so that the names of two runs agree
  where their floats do after rounding.
-/
import DmSimulator.Lib.Segments
import DmSimulator.Scripts.SweepLists

namespace DmSimulator

open Decimal Segments

-- ============================================================================
-- Numbers
-- ============================================================================

theorem toList_toString_nat (n : Nat) : (toString n).toList = Nat.toDigits 10 n :=
  Nat.toList_repr

theorem toDigits_ten_injective {m n : Nat} (h : Nat.toDigits 10 m = Nat.toDigits 10 n) :
    m = n := by
  have hm := Nat.ofDigitChars_ten_toDigits (n := m)
  rw [h, Nat.ofDigitChars_ten_toDigits] at hm
  exact hm.symm

theorem toString_nat_injective {m n : Nat} (h : (toString m).toList = (toString n).toList) :
    m = n := by
  rw [toList_toString_nat, toList_toString_nat] at h
  exact toDigits_ten_injective h

theorem notMem_toDigits {c : Char} (hc : c.isDigit = false) (n : Nat) :
    c ∉ Nat.toDigits 10 n := by
  intro hmem
  have hdigit := Nat.isDigit_of_mem_toDigits (by decide) (by decide) hmem
  rw [hc] at hdigit
  exact absurd hdigit Bool.false_ne_true

theorem toList_toString_int (n : Int) : (toString n).toList =
    if n < 0 then '-' :: Nat.toDigits 10 n.natAbs else Nat.toDigits 10 n.natAbs := by
  cases n with
  | ofNat n =>
      rw [if_neg (by simp)]
      exact Nat.toList_repr
  | negSucc n =>
      rw [if_pos (Int.negSucc_lt_zero n)]
      change ("-" ++ Nat.repr (n + 1)).toList = _
      rw [String.toList_append, Nat.toList_repr]
      rfl

theorem toString_int_injective {m n : Int} (h : (toString m).toList = (toString n).toList) :
    m = n := by
  rw [toList_toString_int, toList_toString_int] at h
  have hminus : ∀ n : Nat, '-' ∉ Nat.toDigits 10 n := notMem_toDigits rfl
  split at h <;> split at h
  next =>
      have habs := toDigits_ten_injective (List.cons.inj h).2
      omega
  next =>
      have hmem : '-' ∈ Nat.toDigits 10 n.natAbs := by
        rw [← h]
        exact List.mem_cons_self
      exact absurd hmem (hminus _)
  next =>
      have hmem : '-' ∈ Nat.toDigits 10 m.natAbs := by
        rw [h]
        exact List.mem_cons_self
      exact absurd hmem (hminus _)
  next =>
      have habs := toDigits_ten_injective h
      omega

theorem clean_toString_nat (n : Nat) : Clean '_' (toString n).toList := by
  apply clean_of_notMem
  rw [toList_toString_nat]
  exact notMem_toDigits rfl n

theorem clean_toString_int (n : Int) : Clean '_' (toString n).toList := by
  have hdigits := notMem_toDigits (c := '_') rfl n.natAbs
  apply clean_of_notMem
  rw [toList_toString_int]
  split
  next => exact List.not_mem_cons_of_ne_of_not_mem (by decide) hdigits
  next => exact hdigits

theorem toList_burstToken (d : Dimensions) : (burstToken d).toList =
    Nat.toDigits 10 d.burstSize ++ '-' :: (Nat.toDigits 10 d.burstInterval ++ '-' ::
      (Nat.toDigits 10 d.intraBurstGap ++ '-' :: Nat.toDigits 10 d.nodePhaseJitter)) := by
  have hdash : ("-" : String).toList = ['-'] := rfl
  unfold burstToken
  simp only [String.toList_append, toList_toString_nat, hdash, List.append_assoc,
    List.cons_append, List.nil_append]

/-- The four numbers can be told apart. -/
theorem burstToken_injective {d e : Dimensions}
    (h : (burstToken d).toList = (burstToken e).toList) :
    d.burstSize = e.burstSize ∧ d.burstInterval = e.burstInterval ∧
      d.intraBurstGap = e.intraBurstGap ∧ d.nodePhaseJitter = e.nodePhaseJitter := by
  have hdash : ∀ n : Nat, '-' ∉ Nat.toDigits 10 n := notMem_toDigits rfl
  rw [toList_burstToken, toList_burstToken] at h
  obtain ⟨hsize, h⟩ := append_cons_inj (hdash _) (hdash _) h
  obtain ⟨hinterval, h⟩ := append_cons_inj (hdash _) (hdash _) h
  obtain ⟨hgap, hjitter⟩ := append_cons_inj (hdash _) (hdash _) h
  exact ⟨toDigits_ten_injective hsize, toDigits_ten_injective hinterval,
    toDigits_ten_injective hgap, toDigits_ten_injective hjitter⟩

theorem clean_burstToken (d : Dimensions) : Clean '_' (burstToken d).toList := by
  have hclean : ∀ n : Nat, Clean '_' (Nat.toDigits 10 n) :=
    fun n => clean_of_notMem (notMem_toDigits rfl n)
  have hdash : '-' ≠ '_' := by decide
  rw [toList_burstToken]
  apply (hclean _).append_cons hdash
  apply (hclean _).append_cons hdash
  exact (hclean _).append_cons hdash (hclean _)

-- ============================================================================
-- Floats
-- ============================================================================

/-- No `p` and no `_` in a formatted float. -/
theorem notMem_formatGeneral {c : Char} (hdigit : c.isDigit = false)
    (hsign : c ∉ ['.', 'e', '-', '+']) (x : Rat) : c ∉ formatGeneral 5 x := by
  intro hmem
  rcases mem_formatGeneral hmem with h | h
  · rw [hdigit] at h
    exact absurd h Bool.false_ne_true
  · exact hsign h

theorem toList_slugFloat (x : Rat) : (slugFloat x).toList =
    (formatGeneral 5 x).map (fun c => if c = '.' then 'p' else c) := String.toList_ofList

/-- The points can be put back. -/
theorem map_toList_slugFloat (x : Rat) :
    (slugFloat x).toList.map (fun c => if c = 'p' then '.' else c) = formatGeneral 5 x := by
  have hp : 'p' ∉ formatGeneral 5 x := notMem_formatGeneral rfl (by decide) x
  have hback : ∀ c ∈ formatGeneral 5 x,
      (if (if c = '.' then 'p' else c) = 'p' then '.' else if c = '.' then 'p' else c) = c := by
    intro c hc
    by_cases hpoint : c = '.'
    · rw [if_pos hpoint, if_pos rfl, hpoint]
    · have hne : c ≠ 'p' := fun heq => hp (heq ▸ hc)
      rw [if_neg hpoint, if_neg hne]
  rw [toList_slugFloat, List.map_map]
  exact (List.map_congr_left hback).trans (List.map_id _)

/-- `slug_float` loses what the rounding loses. -/
theorem slugFloat_eq_iff {x y : Rat} (hx : 0 ≤ x) (hy : 0 ≤ y) :
    slugFloat x = slugFloat y ↔ significant 5 x = significant 5 y := by
  rw [← formatGeneral_eq_iff hx hy]
  constructor
  · intro h
    rw [← map_toList_slugFloat x, ← map_toList_slugFloat y, h]
  · intro h
    unfold slugFloat
    rw [h]

theorem clean_slugFloat (x : Rat) : Clean '_' (slugFloat x).toList := by
  apply clean_of_notMem
  rw [toList_slugFloat]
  intro hmem
  obtain ⟨c, hc, heq⟩ := List.mem_map.mp hmem
  have hunderscore : '_' ∉ formatGeneral 5 x := notMem_formatGeneral rfl (by decide) x
  split at heq
  next => exact absurd heq (by decide)
  next => exact hunderscore (heq ▸ hc)

-- ============================================================================
-- Named values
-- ============================================================================

/-- A token for every value, each without `__`. -/
structure Encodes (token : String → String) (values : List String) : Prop where
  injective : (values.map token).Nodup
  clean : ∀ value ∈ values, Clean '_' (token value).toList

theorem Encodes.eq {token : String → String} {values : List String} (h : Encodes token values)
    {x y : String} (hx : x ∈ values) (hy : y ∈ values)
    (heq : (token x).toList = (token y).toList) : x = y :=
  List.inj_on_of_nodup_map h.injective hx hy (String.toList_injective heq)

theorem encodes_policies : Encodes runNameToken POLICIES :=
  ⟨by decide +kernel, by decide +kernel⟩

theorem encodes_issueModes :
    Encodes runNameToken ["completion_driven", "scheduled_bursty"] :=
  ⟨by decide +kernel, by decide +kernel⟩

theorem encodes_profiles :
    Encodes runNameToken (CONTENTION_WEIGHT_PROFILES.map (fun p => p.profile)) where
  injective := by
    rw [List.map_map]
    exact CONTENTION_WEIGHT_PROFILES_nodup
  clean := by decide +kernel

theorem profile_ne_empty : ∀ p ∈ CONTENTION_WEIGHT_PROFILES, p.profile ≠ "" := by
  decide +kernel

theorem eq_of_profile_eq {p q : ContentionWeightProfile} (hp : p ∈ CONTENTION_WEIGHT_PROFILES)
    (hq : q ∈ CONTENTION_WEIGHT_PROFILES)
    (h : (runNameToken p.profile).toList = (runNameToken q.profile).toList) : p = q :=
  List.inj_on_of_nodup_map CONTENTION_WEIGHT_PROFILES_nodup hp hq (String.toList_injective h)

-- ============================================================================
-- The parts of a full name
-- ============================================================================

/-- A labelled part without the `__` before it. -/
def partText (label token : String) : List Char := label.toList ++ '-' :: token.toList

theorem toList_namePart (label token : String) :
    (namePart label token).toList = '_' :: '_' :: partText label token := by
  have hdash : ("-" : String).toList = ['-'] := rfl
  have hunderscores : ("__" : String).toList = ['_', '_'] := rfl
  unfold namePart partText
  rw [String.toList_append, String.toList_append, String.toList_append, hdash, hunderscores,
    List.append_assoc, List.append_assoc]
  rfl

theorem partText_inj {label token other : String} :
    partText label token = partText label other ↔ token.toList = other.toList := by
  unfold partText
  rw [List.append_cancel_left_eq, List.cons.injEq, and_iff_right rfl]

theorem clean_partText {label token : String} (hlabel : Clean '_' label.toList)
    (htoken : Clean '_' token.toList) : Clean '_' (partText label token) :=
  hlabel.append_cons (by decide) htoken

def weightParts (profile : ContentionWeightProfile) : List (List Char) :=
  if profile.profile ≠ "" then [partText "weight" (runNameToken profile.profile)] else []

/-- The parts from `seed` on. -/
def laterParts (preset : MatrixPreset) (d : Dimensions) : List (List Char) :=
  [partText "seed" (toString d.seed),
    partText "nodes" (toString d.computeNodeCount),
    partText "objects" (toString d.objectCount),
    partText "epochs" (toString d.epochCount),
    partText "rpe" (toString d.requestsPerNodePerEpoch),
    partText "issue" (runNameToken d.workloadIssueMode),
    partText "burst" (burstToken d),
    partText "hotset" (toString d.hotSetSize),
    partText "hotp" (slugFloat d.hotAccessProbability),
    partText "mode" preset.hotSetMode.text,
    partText "churn" (slugFloat d.hotSetChurnFraction),
    partText "overlap" d.crossNodeOverlap,
    partText "size" d.objectSizeMode,
    partText "largep" (slugFloat d.largeObjectProbability),
    partText "cachex" (slugFloat d.cacheCapacityHotsetMultiplier),
    partText "memch" (toString d.memoryChannelCount),
    partText "hotch" (toString d.hotObjectChannelCount),
    partText "bw" d.memoryBandwidthLevel,
    partText "base" d.memoryBaseLatencyLevel,
    partText "link" d.linkLatencyLevel]

def nameParts (preset : MatrixPreset) (profile : ContentionWeightProfile) (d : Dimensions) :
    List (List Char) :=
  partText "policy" (runNameToken d.policy) :: (weightParts profile ++ laterParts preset d)

theorem toList_weightPart (profile : ContentionWeightProfile) :
    (weightPart profile).toList = joined '_' (weightParts profile) := by
  unfold weightPart weightParts
  split
  next => rw [toList_namePart, joined_cons, joined_nil, List.append_nil]
  next => rfl

/-- A full name is the preset's token and its parts. -/
theorem toList_fullRunName (preset : MatrixPreset) (profile : ContentionWeightProfile)
    (d : Dimensions) : (fullRunName preset profile d).toList =
      (runNameToken preset.name).toList ++ joined '_' (nameParts preset profile d) := by
  unfold fullRunName nameParts laterParts
  simp only [String.toList_append, toList_namePart, toList_weightPart, joined_cons, joined_append,
    joined_nil, List.append_assoc, List.cons_append, List.append_nil]

theorem clean_of_mem {values : List String} {value : String} (hvalue : value ∈ values)
    (h : ∀ v ∈ values, Clean '_' v.toList) : Clean '_' value.toList :=
  h value hvalue

theorem clean_laterParts (preset : MatrixPreset) {d : Dimensions} (h : d.Valid) :
    ∀ part ∈ laterParts preset d, Clean '_' part := by
  have hlevels : ∀ v ∈ ["low", "medium", "high"], Clean '_' v.toList := by decide
  have hmode : Clean '_' preset.hotSetMode.text.toList := by
    cases preset.hotSetMode <;> decide
  unfold laterParts
  simp only [List.forall_mem_cons, List.not_mem_nil, false_implies, implies_true, and_true]
  exact ⟨clean_partText (by decide) (clean_toString_int _),
    clean_partText (by decide) (clean_toString_nat _),
    clean_partText (by decide) (clean_toString_nat _),
    clean_partText (by decide) (clean_toString_nat _),
    clean_partText (by decide) (clean_toString_nat _),
    clean_partText (by decide) (encodes_issueModes.clean _ h.workloadIssueMode),
    clean_partText (by decide) (clean_burstToken d),
    clean_partText (by decide) (clean_toString_nat _),
    clean_partText (by decide) (clean_slugFloat _),
    clean_partText (by decide) hmode,
    clean_partText (by decide) (clean_slugFloat _),
    clean_partText (by decide) (hlevels _ h.crossNodeOverlap),
    clean_partText (by decide) (clean_of_mem h.objectSizeMode (by decide)),
    clean_partText (by decide) (clean_slugFloat _),
    clean_partText (by decide) (clean_slugFloat _),
    clean_partText (by decide) (clean_toString_nat _),
    clean_partText (by decide) (clean_toString_nat _),
    clean_partText (by decide) (clean_of_mem h.memoryBandwidthLevel (by decide)),
    clean_partText (by decide) (hlevels _ h.memoryBaseLatencyLevel),
    clean_partText (by decide) (hlevels _ h.linkLatencyLevel)⟩

/-- A policy has the 24 profiles or the empty one. -/
theorem contentionWeightProfilesForPolicy_eq_or (preset : MatrixPreset) (policy : String) :
    contentionWeightProfilesForPolicy preset policy = CONTENTION_WEIGHT_PROFILES ∨
      contentionWeightProfilesForPolicy preset policy = [NO_CONTENTION_WEIGHT_PROFILE] := by
  unfold contentionWeightProfilesForPolicy
  split
  next =>
      split
      next => exact Or.inl rfl
      next => exact Or.inr rfl
  next => exact Or.inr rfl

theorem weightParts_eq {profile : ContentionWeightProfile}
    (h : profile ∈ CONTENTION_WEIGHT_PROFILES) :
    weightParts profile = [partText "weight" (runNameToken profile.profile)] := by
  unfold weightParts
  rw [if_pos (profile_ne_empty profile h)]

theorem clean_weightParts {preset : MatrixPreset} {policy : String}
    {profile : ContentionWeightProfile}
    (h : profile ∈ contentionWeightProfilesForPolicy preset policy) :
    ∀ part ∈ weightParts profile, Clean '_' part := by
  intro part hpart
  rcases contentionWeightProfilesForPolicy_eq_or preset policy with heq | heq
  · rw [heq] at h
    rw [weightParts_eq h, List.mem_singleton] at hpart
    rw [hpart]
    apply clean_partText (by decide)
    exact encodes_profiles.clean _ (List.mem_map_of_mem h)
  · rw [heq, List.mem_singleton] at h
    rw [h] at hpart
    exact absurd hpart List.not_mem_nil

/-- The profile of a known policy can be read off. -/
theorem weightParts_append_inj {preset : MatrixPreset} {policy : String}
    {p q : ContentionWeightProfile}
    (hp : p ∈ contentionWeightProfilesForPolicy preset policy)
    (hq : q ∈ contentionWeightProfilesForPolicy preset policy) {parts others : List (List Char)}
    (h : weightParts p ++ parts = weightParts q ++ others) : p = q ∧ parts = others := by
  rcases contentionWeightProfilesForPolicy_eq_or preset policy with heq | heq
  · rw [heq] at hp hq
    rw [weightParts_eq hp, weightParts_eq hq, List.singleton_append, List.singleton_append,
      List.cons.injEq, partText_inj] at h
    exact ⟨eq_of_profile_eq hp hq h.1, h.2⟩
  · rw [heq, List.mem_singleton] at hp hq
    rw [hp, hq] at h
    exact ⟨hp.trans hq.symm, h⟩

/-- Two choices that differ at most in floats that are rounded to one. -/
structure Dimensions.SameTokens (d e : Dimensions) : Prop where
  seed : d.seed = e.seed
  policy : d.policy = e.policy
  computeNodeCount : d.computeNodeCount = e.computeNodeCount
  objectCount : d.objectCount = e.objectCount
  epochCount : d.epochCount = e.epochCount
  requestsPerNodePerEpoch : d.requestsPerNodePerEpoch = e.requestsPerNodePerEpoch
  workloadIssueMode : d.workloadIssueMode = e.workloadIssueMode
  burstSize : d.burstSize = e.burstSize
  burstInterval : d.burstInterval = e.burstInterval
  intraBurstGap : d.intraBurstGap = e.intraBurstGap
  nodePhaseJitter : d.nodePhaseJitter = e.nodePhaseJitter
  hotSetSize : d.hotSetSize = e.hotSetSize
  hotAccessProbability :
    significant 5 d.hotAccessProbability = significant 5 e.hotAccessProbability
  hotSetChurnFraction :
    significant 5 d.hotSetChurnFraction = significant 5 e.hotSetChurnFraction
  crossNodeOverlap : d.crossNodeOverlap = e.crossNodeOverlap
  objectSizeMode : d.objectSizeMode = e.objectSizeMode
  largeObjectProbability :
    significant 5 d.largeObjectProbability = significant 5 e.largeObjectProbability
  cacheCapacityHotsetMultiplier :
    significant 5 d.cacheCapacityHotsetMultiplier = significant 5 e.cacheCapacityHotsetMultiplier
  memoryChannelCount : d.memoryChannelCount = e.memoryChannelCount
  hotObjectChannelCount : d.hotObjectChannelCount = e.hotObjectChannelCount
  memoryBandwidthLevel : d.memoryBandwidthLevel = e.memoryBandwidthLevel
  memoryBaseLatencyLevel : d.memoryBaseLatencyLevel = e.memoryBaseLatencyLevel
  linkLatencyLevel : d.linkLatencyLevel = e.linkLatencyLevel

/-- The later parts and the policy determine the tokens. -/
theorem sameTokens_of_laterParts {preset : MatrixPreset} {d e : Dimensions} (hd : d.Valid)
    (he : e.Valid) (hpolicy : d.policy = e.policy)
    (h : laterParts preset d = laterParts preset e) : d.SameTokens e := by
  have hfloat : ∀ {x y : Rat}, 0 ≤ x → 0 ≤ y → (slugFloat x).toList = (slugFloat y).toList →
      significant 5 x = significant 5 y :=
    fun hx hy heq => (slugFloat_eq_iff hx hy).mp (String.toList_injective heq)
  unfold laterParts at h
  simp only [List.cons.injEq, partText_inj, and_true, true_and] at h
  obtain ⟨hseed, hnodes, hobjects, hepochs, hlength, hissue, hburst, hsize, hhot, hchurn,
    hoverlap, hmode, hlarge, hmultiplier, hchannels, hhotChannels, hbandwidth, hbase, hlink⟩ := h
  obtain ⟨hburstSize, hinterval, hgap, hjitter⟩ := burstToken_injective hburst
  exact
    { seed := toString_int_injective hseed
      policy := hpolicy
      computeNodeCount := toString_nat_injective hnodes
      objectCount := toString_nat_injective hobjects
      epochCount := toString_nat_injective hepochs
      requestsPerNodePerEpoch := toString_nat_injective hlength
      workloadIssueMode := encodes_issueModes.eq hd.workloadIssueMode he.workloadIssueMode hissue
      burstSize := hburstSize
      burstInterval := hinterval
      intraBurstGap := hgap
      nodePhaseJitter := hjitter
      hotSetSize := toString_nat_injective hsize
      hotAccessProbability := hfloat hd.hotAccessProbability he.hotAccessProbability hhot
      hotSetChurnFraction := hfloat hd.hotSetChurnFraction he.hotSetChurnFraction hchurn
      crossNodeOverlap := String.toList_injective hoverlap
      objectSizeMode := String.toList_injective hmode
      largeObjectProbability :=
        hfloat hd.largeObjectProbability he.largeObjectProbability hlarge
      cacheCapacityHotsetMultiplier :=
        hfloat hd.cacheCapacityHotsetMultiplier he.cacheCapacityHotsetMultiplier hmultiplier
      memoryChannelCount := toString_nat_injective hchannels
      hotObjectChannelCount := toString_nat_injective hhotChannels
      memoryBandwidthLevel := String.toList_injective hbandwidth
      memoryBaseLatencyLevel := String.toList_injective hbase
      linkLatencyLevel := String.toList_injective hlink }

theorem clean_nameParts {preset : MatrixPreset} {profile : ContentionWeightProfile}
    {d : Dimensions} (h : d.Valid)
    (hprofile : profile ∈ contentionWeightProfilesForPolicy preset d.policy) :
    ∀ part ∈ nameParts preset profile d, Clean '_' part := by
  intro part hpart
  rcases List.mem_cons.mp hpart with rfl | hpart
  · exact clean_partText (by decide) (encodes_policies.clean _ h.policy)
  · rcases List.mem_append.mp hpart with hpart | hpart
    · exact clean_weightParts hprofile part hpart
    · exact clean_laterParts preset h part hpart

/-- Full names agree exactly on choices with the same profile and the same tokens. -/
theorem fullRunName_eq_iff {preset : MatrixPreset} {p q : ContentionWeightProfile}
    {d e : Dimensions} (hd : d.Valid) (he : e.Valid)
    (hp : p ∈ contentionWeightProfilesForPolicy preset d.policy)
    (hq : q ∈ contentionWeightProfilesForPolicy preset e.policy) :
    fullRunName preset p d = fullRunName preset q e ↔ p = q ∧ d.SameTokens e := by
  constructor
  · intro h
    have hlists := congrArg String.toList h
    rw [toList_fullRunName, toList_fullRunName, List.append_cancel_left_eq] at hlists
    have hparts := joined_inj (clean_nameParts hd hp) (clean_nameParts he hq) hlists
    unfold nameParts at hparts
    rw [List.cons.injEq, partText_inj] at hparts
    have hpolicy : d.policy = e.policy := encodes_policies.eq hd.policy he.policy hparts.1
    rw [← hpolicy] at hq
    obtain ⟨hprofile, hlater⟩ := weightParts_append_inj hp hq hparts.2
    exact ⟨hprofile, sameTokens_of_laterParts hd he hpolicy hlater⟩
  · rintro ⟨rfl, h⟩
    unfold fullRunName burstToken
    rw [h.seed, h.policy, h.computeNodeCount, h.objectCount, h.epochCount,
      h.requestsPerNodePerEpoch, h.workloadIssueMode, h.burstSize, h.burstInterval,
      h.intraBurstGap, h.nodePhaseJitter, h.hotSetSize, h.crossNodeOverlap, h.objectSizeMode,
      h.memoryChannelCount, h.hotObjectChannelCount, h.memoryBandwidthLevel,
      h.memoryBaseLatencyLevel, h.linkLatencyLevel,
      (slugFloat_eq_iff hd.hotAccessProbability he.hotAccessProbability).mpr
        h.hotAccessProbability,
      (slugFloat_eq_iff hd.hotSetChurnFraction he.hotSetChurnFraction).mpr h.hotSetChurnFraction,
      (slugFloat_eq_iff hd.largeObjectProbability he.largeObjectProbability).mpr
        h.largeObjectProbability,
      (slugFloat_eq_iff hd.cacheCapacityHotsetMultiplier he.cacheCapacityHotsetMultiplier).mpr
        h.cacheCapacityHotsetMultiplier]

theorem Dimensions.SameTokens.refl (d : Dimensions) : d.SameTokens d where
  seed := rfl
  policy := rfl
  computeNodeCount := rfl
  objectCount := rfl
  epochCount := rfl
  requestsPerNodePerEpoch := rfl
  workloadIssueMode := rfl
  burstSize := rfl
  burstInterval := rfl
  intraBurstGap := rfl
  nodePhaseJitter := rfl
  hotSetSize := rfl
  hotAccessProbability := rfl
  hotSetChurnFraction := rfl
  crossNodeOverlap := rfl
  objectSizeMode := rfl
  largeObjectProbability := rfl
  cacheCapacityHotsetMultiplier := rfl
  memoryChannelCount := rfl
  hotObjectChannelCount := rfl
  memoryBandwidthLevel := rfl
  memoryBaseLatencyLevel := rfl
  linkLatencyLevel := rfl

-- ============================================================================
-- Bounded names
-- ============================================================================

@[simp]
theorem length_nameDigest (name : String) : (nameDigest name).length = 10 := by
  simp [nameDigest]

theorem boundedRunName_of_le {name : String} {maxLength : Nat} (h : name.length ≤ maxLength) :
    boundedRunName name maxLength = name := if_pos h

theorem toList_boundedRunName {name : String} {maxLength : Nat} (h : maxLength < name.length) :
    (boundedRunName name maxLength).toList =
      name.toList.take (maxLength - (nameDigest name).length - 2) ++ ("__" : String).toList ++
        nameDigest name := by
  unfold boundedRunName
  rw [if_neg (not_le.mpr h)]
  simp only [String.toList_append, String.toList_ofList]

/-- A name that is cut ends in a hexadecimal digit. -/
theorem getLast?_boundedRunName {name : String} {maxLength : Nat} (h : maxLength < name.length) :
    ∃ c ∈ Sha1.hexAlphabet, (boundedRunName name maxLength).toList.getLast? = some c := by
  have hne : nameDigest name ≠ [] := by
    rw [← List.length_pos_iff, length_nameDigest]
    decide
  have hlast : (nameDigest name).getLast? = some ((nameDigest name).getLast hne) :=
    List.getLast?_eq_some_getLast hne
  have hmem : (nameDigest name).getLast hne ∈ nameDigest name := List.getLast_mem hne
  refine ⟨_, Sha1.mem_hexdigest (List.mem_of_mem_take hmem), ?_⟩
  rw [toList_boundedRunName h, List.getLast?_append, hlast]
  rfl

/-- A full name ends in the last letter of a level. -/
theorem getLast?_fullRunName (preset : MatrixPreset) (profile : ContentionWeightProfile)
    {d : Dimensions} (h : d.Valid) :
    ∃ c ∉ Sha1.hexAlphabet, (fullRunName preset profile d).toList.getLast? = some c := by
  have hlevels : ∀ v ∈ ["low", "medium", "high"], v.toList.getLast? = some 'w' ∨
      v.toList.getLast? = some 'm' ∨ v.toList.getLast? = some 'h' := by decide
  obtain ⟨c, hc, hlast⟩ : ∃ c ∉ Sha1.hexAlphabet, d.linkLatencyLevel.toList.getLast? = some c := by
    rcases hlevels _ h.linkLatencyLevel with hlast | hlast | hlast
    · exact ⟨'w', by decide, hlast⟩
    · exact ⟨'m', by decide, hlast⟩
    · exact ⟨'h', by decide, hlast⟩
  refine ⟨c, hc, ?_⟩
  unfold fullRunName
  rw [String.toList_append, toList_namePart, partText, List.getLast?_append]
  have hlink : ('_' :: '_' :: (("link" : String).toList ++ '-' :: d.linkLatencyLevel.toList)) =
      ('_' :: '_' :: (("link" : String).toList ++ ['-'])) ++ d.linkLatencyLevel.toList := by
    simp
  rw [hlink, List.getLast?_append, hlast]
  rfl

/-- The bound keeps names apart that end in no hexadecimal digit and whose digests differ. -/
theorem boundedRunName_inj {name other : String} {maxLength : Nat}
    (hname : ∃ c ∉ Sha1.hexAlphabet, name.toList.getLast? = some c)
    (hother : ∃ c ∉ Sha1.hexAlphabet, other.toList.getLast? = some c)
    (hdigest : nameDigest name = nameDigest other → name = other)
    (h : boundedRunName name maxLength = boundedRunName other maxLength) : name = other := by
  have hmixed : ∀ {text long : String}, (∃ c ∉ Sha1.hexAlphabet, text.toList.getLast? = some c) →
      maxLength < long.length → text ≠ boundedRunName long maxLength := by
    intro text long htext hlong heq
    obtain ⟨c, hc, hlast⟩ := htext
    obtain ⟨e, he, hlast'⟩ := getLast?_boundedRunName hlong
    rw [← heq, hlast] at hlast'
    exact hc (Option.some.inj hlast' ▸ he)
  rcases Nat.lt_or_ge maxLength name.length with hlong | hle <;>
    rcases Nat.lt_or_ge maxLength other.length with hlong' | hle'
  · apply hdigest
    have hlists := congrArg String.toList h
    rw [toList_boundedRunName hlong, toList_boundedRunName hlong'] at hlists
    have hlength : (nameDigest name).length = (nameDigest other).length := by
      rw [length_nameDigest, length_nameDigest]
    exact (List.append_inj' hlists hlength).2
  · rw [boundedRunName_of_le hle'] at h
    exact absurd h.symm (hmixed hother hlong)
  · rw [boundedRunName_of_le hle] at h
    exact absurd h (hmixed hname hlong')
  · rw [boundedRunName_of_le hle, boundedRunName_of_le hle'] at h
    exact h

end DmSimulator
