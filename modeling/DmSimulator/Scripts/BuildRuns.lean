/-
  DmSimulator.Scripts.BuildRuns

  When no run of a build overwrites the configuration or the results of another: the
  names, and the paths made of them, differ exactly when the float sweeps are told
  apart by six significant digits.
-/
import DmSimulator.Scripts.RunNames

namespace DmSimulator

open Decimal

def MatrixRun.fullName (run : MatrixRun) : String :=
  fullRunName run.preset run.contentionWeightProfile run.toDimensions

/-- The truncated digest tells the full names of the runs apart. -/
def CollisionFree (runs : List MatrixRun) : Prop :=
  ∀ a ∈ runs, ∀ b ∈ runs, nameDigest a.fullName = nameDigest b.fullName → a.fullName = b.fullName

/-- No run writes to the configuration or the results of another. -/
structure NamesDistinct (runs : List MatrixRun) : Prop where
  runNames : (runs.map (fun run => run.runName)).Nodup
  configPaths : (runs.map (fun run => run.configPath)).Nodup
  outputDirs : (runs.map (fun run => run.outputDir)).Nodup

/-- Different values of the list differ in six significant digits. -/
def Distinguished (values : List Rat) : Prop :=
  ∀ x ∈ values, ∀ y ∈ values, significant 5 x = significant 5 y → x = y

structure SweepLists.FloatsDistinguished (s : SweepLists) : Prop where
  hotAccessProbabilities : Distinguished s.hotAccessProbabilities
  churnFractions : Distinguished s.churnFractions
  largeObjectProbabilities : Distinguished s.largeObjectProbabilities
  cacheMultipliers : Distinguished s.cacheMultipliers

theorem Dimensions.SameTokens.eq {d e : Dimensions} {s : SweepLists} (h : d.SameTokens e)
    (hd : d.Within s) (he : e.Within s) (hs : s.FloatsDistinguished) : d = e :=
  Dimensions.ext h.seed h.policy h.computeNodeCount h.objectCount h.epochCount
    h.requestsPerNodePerEpoch h.workloadIssueMode h.burstSize h.burstInterval h.intraBurstGap
    h.nodePhaseJitter h.hotSetSize
    (hs.hotAccessProbabilities _ hd.hotAccessProbability _ he.hotAccessProbability
      h.hotAccessProbability)
    (hs.churnFractions _ hd.hotSetChurnFraction _ he.hotSetChurnFraction h.hotSetChurnFraction)
    h.crossNodeOverlap h.objectSizeMode
    (hs.largeObjectProbabilities _ hd.largeObjectProbability _ he.largeObjectProbability
      h.largeObjectProbability)
    (hs.cacheMultipliers _ hd.cacheCapacityHotsetMultiplier _ he.cacheCapacityHotsetMultiplier
      h.cacheCapacityHotsetMultiplier)
    h.memoryChannelCount h.hotObjectChannelCount h.memoryBandwidthLevel h.memoryBaseLatencyLevel
    h.linkLatencyLevel

/-- Choices with the same tokens are one: the floats of the sweeps are told apart. -/
theorem floatsDistinguished_of_sameTokens {s : SweepLists} {base : Dimensions}
    (hbase : base.Within s)
    (h : ∀ d e : Dimensions, d.Within s → e.Within s → d.policy = base.policy →
      d.memoryChannelCount = base.memoryChannelCount →
      d.hotObjectChannelCount = base.hotObjectChannelCount → d.SameTokens e → d = e) :
    s.FloatsDistinguished where
  hotAccessProbabilities := by
    intro x hx y hy hxy
    have heq := h { base with hotAccessProbability := x } { base with hotAccessProbability := y }
      { hbase with hotAccessProbability := hx } { hbase with hotAccessProbability := hy } rfl rfl
      rfl { Dimensions.SameTokens.refl base with hotAccessProbability := hxy }
    exact congrArg Dimensions.hotAccessProbability heq
  churnFractions := by
    intro x hx y hy hxy
    have heq := h { base with hotSetChurnFraction := x } { base with hotSetChurnFraction := y }
      { hbase with hotSetChurnFraction := hx } { hbase with hotSetChurnFraction := hy } rfl rfl
      rfl { Dimensions.SameTokens.refl base with hotSetChurnFraction := hxy }
    exact congrArg Dimensions.hotSetChurnFraction heq
  largeObjectProbabilities := by
    intro x hx y hy hxy
    have heq := h { base with largeObjectProbability := x }
      { base with largeObjectProbability := y }
      { hbase with largeObjectProbability := hx } { hbase with largeObjectProbability := hy } rfl
      rfl rfl { Dimensions.SameTokens.refl base with largeObjectProbability := hxy }
    exact congrArg Dimensions.largeObjectProbability heq
  cacheMultipliers := by
    intro x hx y hy hxy
    have heq := h { base with cacheCapacityHotsetMultiplier := x }
      { base with cacheCapacityHotsetMultiplier := y }
      { hbase with cacheCapacityHotsetMultiplier := hx }
      { hbase with cacheCapacityHotsetMultiplier := hy } rfl rfl
      rfl { Dimensions.SameTokens.refl base with cacheCapacityHotsetMultiplier := hxy }
    exact congrArg Dimensions.cacheCapacityHotsetMultiplier heq

variable {preset : MatrixPreset} {s : SweepLists} {resultsDir : Path} {runs : List MatrixRun}

@[simp]
theorem fullName_matrixRun (d : Dimensions) (profile : ContentionWeightProfile) :
    (matrixRun preset resultsDir d profile).fullName = fullRunName preset profile d := rfl

@[simp]
theorem runName_matrixRun (d : Dimensions) (profile : ContentionWeightProfile) :
    (matrixRun preset resultsDir d profile).runName =
      boundedRunName (fullRunName preset profile d) 180 := by
  simp only [matrixRun, runSlug]

theorem configPath_matrixRun (d : Dimensions) (profile : ContentionWeightProfile) :
    (matrixRun preset resultsDir d profile).configPath = resultsDir ++
      ["generated_configs", (matrixRun preset resultsDir d profile).runName ++ ".yaml"] := by
  simp only [matrixRun]

theorem outputDir_matrixRun (d : Dimensions) (profile : ContentionWeightProfile) :
    (matrixRun preset resultsDir d profile).outputDir = resultsDir ++
      ["runs", (matrixRun preset resultsDir d profile).runName] := by
  simp only [matrixRun]

/-- Every run of a build is that of a choice. -/
theorem exists_choice (hruns : buildRuns preset s resultsDir = .ok runs) {run : MatrixRun}
    (h : run ∈ runs) : ∃ d profile, (d, profile) ∈ choices preset s ∧
      run = matrixRun preset resultsDir d profile := by
  rw [buildRuns_eq_ok hruns] at h
  obtain ⟨c, hc, rfl⟩ := List.mem_map.mp h
  exact ⟨c.1, c.2, hc, rfl⟩

theorem runName_eq (hruns : buildRuns preset s resultsDir = .ok runs) :
    runs.map (fun run => run.runName) =
      (runs.map MatrixRun.fullName).map (fun name => boundedRunName name 180) := by
  rw [List.map_map]
  apply List.map_congr_left
  intro run hrun
  obtain ⟨d, profile, -, rfl⟩ := exists_choice hruns hrun
  rw [runName_matrixRun, Function.comp_apply, fullName_matrixRun]

theorem fullNames_nodup (hruns : buildRuns preset s resultsDir = .ok runs)
    (h : NamesDistinct runs) : (runs.map MatrixRun.fullName).Nodup := by
  have hnames := h.runNames
  rw [runName_eq hruns] at hnames
  exact List.Nodup.of_map _ hnames

/-- The bound and the digest keep full names apart, and names keep paths apart. -/
theorem namesDistinct_of_fullNames {py : Conversions} {texts : SweepTexts}
    (hparsed : s.ParsedFrom py texts) (hruns : buildRuns preset s resultsDir = .ok runs)
    (hcollision : CollisionFree runs) (h : (runs.map MatrixRun.fullName).Nodup) :
    NamesDistinct runs := by
  have hplain : ∀ run ∈ runs, ∃ c ∉ Sha1.hexAlphabet,
      run.fullName.toList.getLast? = some c := by
    intro run hrun
    obtain ⟨d, profile, hchoice, rfl⟩ := exists_choice hruns hrun
    exact getLast?_fullRunName preset profile (hparsed.valid (mem_choices.mp hchoice).1)
  have hnames : (runs.map (fun run => run.runName)).Nodup := by
    rw [runName_eq hruns]
    apply h.map_on
    intro name hname other hother heq
    obtain ⟨a, ha, rfl⟩ := List.mem_map.mp hname
    obtain ⟨b, hb, rfl⟩ := List.mem_map.mp hother
    exact boundedRunName_inj (hplain a ha) (hplain b hb) (hcollision a ha b hb) heq
  have hpaths : ∀ {path : MatrixRun → Path} {component : String → Path},
      (∀ run ∈ runs, path run = resultsDir ++ component run.runName) →
        Function.Injective component → (runs.map path).Nodup := by
    intro path component hpath hinjective
    have hmap : runs.map path =
        (runs.map (fun run => run.runName)).map (fun name => resultsDir ++ component name) := by
      rw [List.map_map]
      exact List.map_congr_left hpath
    rw [hmap]
    apply hnames.map
    intro name other heq
    exact hinjective (List.append_cancel_left heq)
  refine ⟨hnames, ?_, ?_⟩
  · apply @hpaths _ (fun name => ["generated_configs", name ++ ".yaml"])
    · intro run hrun
      obtain ⟨d, profile, -, rfl⟩ := exists_choice hruns hrun
      exact configPath_matrixRun d profile
    · intro name other heq
      simpa using heq
  · apply @hpaths _ (fun name => ["runs", name])
    · intro run hrun
      obtain ⟨d, profile, -, rfl⟩ := exists_choice hruns hrun
      exact outputDir_matrixRun d profile
    · intro name other heq
      simpa using heq

/-- Full names differ exactly when choices of one profile and the same tokens are one. -/
theorem fullNames_nodup_iff {py : Conversions} {texts : SweepTexts}
    (hparsed : s.ParsedFrom py texts) (hdistinct : s.DuplicateFree)
    (hruns : buildRuns preset s resultsDir = .ok runs) :
    (runs.map MatrixRun.fullName).Nodup ↔
      ∀ d e profile, (d, profile) ∈ choices preset s → (e, profile) ∈ choices preset s →
        d.SameTokens e → d = e := by
  have hnames : ∀ {d e p q}, (d, p) ∈ choices preset s → (e, q) ∈ choices preset s →
      (fullRunName preset p d = fullRunName preset q e ↔ p = q ∧ d.SameTokens e) := by
    intro d e p q hd he
    rw [mem_choices] at hd he
    exact fullRunName_eq_iff (hparsed.valid hd.1) (hparsed.valid he.1) hd.2.2 he.2.2
  rw [buildRuns_eq_ok hruns, List.map_map, List.nodup_map_iff_inj_on (hdistinct.choices preset)]
  constructor
  · intro h d e profile hd he hsame
    have heq := h (d, profile) hd (e, profile) he ((hnames hd he).mpr ⟨rfl, hsame⟩)
    exact (Prod.mk.inj heq).1
  · intro h c hc c' hc' heq
    obtain ⟨hprofile, hsame⟩ := (hnames hc hc').mp heq
    have hc'' : (c'.1, c.2) ∈ choices preset s := by
      rw [hprofile]
      exact hc'
    exact Prod.ext (h c.1 c'.1 c.2 hc hc'' hsame) hprofile

/-- The runs of parsed sweeps without duplicates keep their names and paths apart exactly
    when there are none or different floats of a sweep differ in six significant digits. -/
theorem buildRuns_namesDistinct_iff {py : Conversions} {texts : SweepTexts}
    (hparsed : s.ParsedFrom py texts) (hdistinct : s.DuplicateFree)
    (hruns : buildRuns preset s resultsDir = .ok runs) (hcollision : CollisionFree runs) :
    NamesDistinct runs ↔
      ((∃ channels ∈ s.memoryChannelCounts, ∃ hotChannels ∈ s.hotObjectChannelCounts,
        hotChannels ≤ channels) → s.FloatsDistinguished) := by
  have hfull : NamesDistinct runs ↔ (runs.map MatrixRun.fullName).Nodup :=
    ⟨fullNames_nodup hruns, namesDistinct_of_fullNames hparsed hruns hcollision⟩
  rw [hfull, fullNames_nodup_iff hparsed hdistinct hruns]
  constructor
  · rintro h ⟨channels, hchannels, hotChannels, hhot, hle⟩
    obtain ⟨base, hbase, rfl, rfl⟩ := hparsed.exists_within hchannels hhot
    obtain ⟨profile, hprofile⟩ : ∃ profile,
        profile ∈ contentionWeightProfilesForPolicy preset base.policy := by
      rcases contentionWeightProfilesForPolicy_eq_or preset base.policy with heq | heq
      · rw [heq]
        exact List.exists_mem_of_ne_nil _ (by decide)
      · rw [heq]
        exact ⟨_, List.mem_singleton_self _⟩
    apply floatsDistinguished_of_sameTokens hbase
    intro d e hd he hpolicy hmemory hhotObject hsame
    have hfits : d.hotObjectChannelCount ≤ d.memoryChannelCount := by
      rw [hmemory, hhotObject]
      exact hle
    have hprofile' : profile ∈ contentionWeightProfilesForPolicy preset d.policy := by
      rw [hpolicy]
      exact hprofile
    apply h d e profile (mem_choices.mpr ⟨hd, hfits, hprofile'⟩) _ hsame
    rw [hsame.policy] at hprofile'
    rw [hsame.memoryChannelCount, hsame.hotObjectChannelCount] at hfits
    exact mem_choices.mpr ⟨he, hfits, hprofile'⟩
  · intro h d e profile hd he hsame
    obtain ⟨hwithin, hle, -⟩ := mem_choices.mp hd
    have hfloats := h ⟨_, hwithin.memoryChannelCount, _, hwithin.hotObjectChannelCount, hle⟩
    exact hsame.eq hwithin (mem_choices.mp he).1 hfloats

-- ============================================================================
-- Two hot-access probabilities
-- ============================================================================

/-- `int` and `float` on the texts below. -/
def sampleConversions : Conversions where
  int := fun item => List.lookup item
    [("0", 0), ("1", 1), ("3", 3), ("4", 4), ("8", 8), ("16", 16), ("100", 100), ("128", 128)]
  float := fun item => List.lookup item
    [("0.1", some (1 / 10)), ("0.5", some (1 / 2)), ("0.8", some (4 / 5)), ("0.9", some (9 / 10)),
      ("1.0", some 1), ("0.1234567", some (1234567 / 10000000)),
      ("0.1234568", some (1234568 / 10000000))]

/-- The values of the preset `quick`, with other hot-access probabilities. -/
def sampleTexts (hotAccessProbabilities : String) : SweepTexts where
  policies := "lru"
  seeds := "1"
  nodeCounts := "4"
  objectCounts := "128"
  epochCounts := "3"
  epochLengths := "16"
  workloadIssueModes := "completion_driven"
  burstSizes := "4"
  burstIntervals := "100"
  intraBurstGaps := "1"
  nodePhaseJitters := "0"
  hotSetSizes := "8"
  hotAccessProbabilities := hotAccessProbabilities
  churnFractions := "1.0"
  overlaps := "medium"
  objectSizeModes := "fixed"
  largeObjectProbabilities := "0.1"
  cacheHotsetMultipliers := "0.5"
  memoryChannelCounts := "1"
  hotObjectChannelCounts := "0"
  memoryBandwidthLevels := "moderate"
  memoryBaseLatencyLevels := "medium"
  linkLatencyLevels := "medium"

def sampleSweeps (hotAccessProbabilities : List Rat) : SweepLists where
  policies := ["lru"]
  seeds := [1]
  nodeCounts := [4]
  objectCounts := [128]
  epochCounts := [3]
  epochLengths := [16]
  workloadIssueModes := ["completion_driven"]
  burstSizes := [4]
  burstIntervals := [100]
  intraBurstGaps := [1]
  nodePhaseJitters := [0]
  hotSetSizes := [8]
  hotAccessProbabilities := hotAccessProbabilities
  churnFractions := [1]
  overlaps := ["medium"]
  objectSizeModes := ["fixed"]
  largeObjectProbabilities := [1 / 10]
  cacheMultipliers := [1 / 2]
  memoryChannelCounts := [1]
  hotObjectChannelCounts := [0]
  memoryBandwidthLevels := ["moderate"]
  memoryBaseLatencyLevels := ["medium"]
  linkLatencyLevels := ["medium"]

def samplePreset : MatrixPreset := { name := "quick", hotSetMode := .epochShift }

theorem sampleSweeps_parsedFrom {text : String} {values : List Rat}
    (h : parseProbabilities sampleConversions text "hot-access probability" = .ok values) :
    (sampleSweeps values).ParsedFrom sampleConversions (sampleTexts text) := by
  constructor
  case hotAccessProbabilities => exact h
  all_goals
    dsimp only [sampleTexts, sampleSweeps]
    decide +kernel

theorem sampleSweeps_duplicateFree {values : List Rat} (h : values.Nodup) :
    (sampleSweeps values).DuplicateFree := by
  constructor
  case hotAccessProbabilities => exact h
  all_goals exact List.nodup_singleton _

/-- What a build returns is the runs of its choices. -/
theorem buildRuns_of_isOk (h : (buildRuns preset s resultsDir).isOk = true) :
    buildRuns preset s resultsDir =
      .ok ((choices preset s).map (fun c => matrixRun preset resultsDir c.1 c.2)) := by
  cases hbuild : buildRuns preset s resultsDir with
  | ok runs => rw [buildRuns_eq_ok hbuild]
  | error message =>
      rw [hbuild] at h
      exact absurd h Bool.false_ne_true

theorem sampleSweeps_namesDistinct_iff :
    ∃ runs, buildRuns samplePreset (sampleSweeps [4 / 5, 9 / 10]) ["results"] = .ok runs ∧
      (NamesDistinct runs ↔
        ((∃ channels ∈ [1], ∃ hotChannels ∈ [0], hotChannels ≤ channels) →
          (sampleSweeps [4 / 5, 9 / 10]).FloatsDistinguished)) := by
  have hruns := @buildRuns_of_isOk samplePreset (sampleSweeps [4 / 5, 9 / 10]) ["results"]
    (by decide +kernel)
  have hparsed := @sampleSweeps_parsedFrom "0.8,0.9" [4 / 5, 9 / 10] (by decide +kernel)
  have hdistinct := @sampleSweeps_duplicateFree [4 / 5, 9 / 10] (by decide +kernel)
  refine ⟨_, hruns, buildRuns_namesDistinct_iff hparsed hdistinct hruns ?_⟩
  unfold CollisionFree
  decide +kernel

/-- 0.1234567 and 0.1234568 are both written `0p123457`. -/
theorem closeProbabilities_not_namesDistinct :
    ∃ runs,
      (sampleSweeps [1234567 / 10000000, 1234568 / 10000000]).ParsedFrom sampleConversions
        (sampleTexts "0.1234567,0.1234568") ∧
      (sampleSweeps [1234567 / 10000000, 1234568 / 10000000]).DuplicateFree ∧
      buildRuns samplePreset (sampleSweeps [1234567 / 10000000, 1234568 / 10000000]) ["results"] =
        .ok runs ∧
      CollisionFree runs ∧ ¬ NamesDistinct runs := by
  have hruns := @buildRuns_of_isOk samplePreset
    (sampleSweeps [1234567 / 10000000, 1234568 / 10000000]) ["results"] (by decide +kernel)
  refine ⟨_, sampleSweeps_parsedFrom (by decide +kernel),
    sampleSweeps_duplicateFree (by decide +kernel), hruns, ?_, ?_⟩
  · intro a ha b hb _
    revert a b
    decide +kernel
  · intro hnames
    have hnodup := fullNames_nodup hruns hnames
    revert hnodup
    decide +kernel

end DmSimulator
