/-
  DmSimulator.Scripts.WrittenConfigs

  From the sweep lists to a simulation: the configuration of every run of a build is
  written, loads as what the run stands for, and is accepted by the simulator.
-/
import DmSimulator.Runs.Completion
import DmSimulator.Runs.LoadedConfigs
import DmSimulator.Runs.SplitChannels
import DmSimulator.Scripts.BuildRuns
import DmSimulator.Scripts.YamlRoundTrip

namespace DmSimulator

open Decimal Yaml

-- ============================================================================
-- What a build promises
-- ============================================================================

theorem parsePositiveInts_pos {py : Conversions} {value : String} {values : List Nat}
    (h : parsePositiveInts py value = .ok values) : ∀ n ∈ values, 0 < n := by
  unfold parsePositiveInts parseInts at h
  simp only [bind_eq_ok, throwIf_eq_ok, pure_eq_ok, exists_and_left, exists_const] at h
  obtain ⟨parsed, hparsed, -, rfl⟩ := h
  intro n hn
  obtain ⟨item, -, hitem⟩ := exists_of_mapM_eq_ok hparsed n hn
  split at hitem
  next => exact absurd hitem (by simp [throw, throwThe, MonadExceptOf.throw])
  next parsed _ =>
      split at hitem
      next => exact absurd hitem (by simp [throw, throwThe, MonadExceptOf.throw])
      next hpos =>
          rw [pure_eq_ok] at hitem
          have hlt : 0 < parsed := not_le.mp (fun hle => hpos (decide_eq_true hle))
          omega

theorem parseProbabilities_le_one {py : Conversions} {value label : String} {values : List Rat}
    (h : parseProbabilities py value label = .ok values) : ∀ x ∈ values, x ≤ 1 := by
  intro x hx
  have hrange := (parseFloats_spec h).2 x hx
  rw [Bool.or_eq_false_iff] at hrange
  exact not_lt.mp (of_decide_eq_false hrange.2)

variable {py : Conversions} {texts : SweepTexts} {preset : MatrixPreset} {system : PresetSystem}
  {s : SweepLists} {resultsDir : Path} {runs : List MatrixRun} {run : MatrixRun}

theorem listed_of_mem (hparsed : s.ParsedFrom py texts)
    (hruns : buildRuns preset s resultsDir = .ok runs) (h : run ∈ runs) : run.Listed := by
  obtain ⟨d, profile, hmem, rfl⟩ := exists_choice hruns h
  obtain ⟨hwithin, hle, hprofile⟩ := mem_choices.mp hmem
  exact
    { valid := hparsed.valid hwithin
      profile := hprofile
      hotAccessProbability :=
        parseProbabilities_le_one hparsed.hotAccessProbabilities _ hwithin.hotAccessProbability
      hotSetChurnFraction :=
        parseProbabilities_le_one hparsed.churnFractions _ hwithin.hotSetChurnFraction
      largeObjectProbability :=
        parseProbabilities_le_one hparsed.largeObjectProbabilities _
          hwithin.largeObjectProbability
      computeNodeCount := parsePositiveInts_pos hparsed.nodeCounts _ hwithin.computeNodeCount
      objectCount := parsePositiveInts_pos hparsed.objectCounts _ hwithin.objectCount
      epochCount := parsePositiveInts_pos hparsed.epochCounts _ hwithin.epochCount
      requestsPerNodePerEpoch :=
        parsePositiveInts_pos hparsed.epochLengths _ hwithin.requestsPerNodePerEpoch
      hotSetSize := parsePositiveInts_pos hparsed.hotSetSizes _ hwithin.hotSetSize
      burstSize := parsePositiveInts_pos hparsed.burstSizes _ hwithin.burstSize
      burstInterval := parsePositiveInts_pos hparsed.burstIntervals _ hwithin.burstInterval
      memoryChannelCount :=
        parsePositiveInts_pos hparsed.memoryChannelCounts _ hwithin.memoryChannelCount
      hotObjectChannelCount := hle }

theorem PRESETS_valid : ∀ entry ∈ PRESETS, entry.2.Valid := by
  have hvalid : ∀ (name : String) (nodeCount : Nat), nodeCount ≤ 16 →
      (presetOf name nodeCount).2.Valid := by
    intro name nodeCount hle
    have hids : ∀ nodeId ∈ (presetOf name nodeCount).2.computeNodeIds,
        0 < nodeId ∧ nodeId ≤ nodeCount := by
      intro nodeId hmem
      obtain ⟨i, hi, rfl⟩ := List.mem_map.mp hmem
      have hlt := List.mem_range.mp hi
      omega
    refine
      { computeNodeIds := fun nodeId hmem => ?_
        computeNodeIds_nodup := ?_
        memoryNode_fresh := fun hmem => ?_
        memoryNodeId := show 99 < 2 ^ 32 by decide
        cacheHitLatency := show 1 < 2 ^ 64 by decide
        objectSizeBytes := show 0 < 64 ∧ 64 < 2 ^ 64 by decide
        objectSizeSmallBytes := show 0 < 64 by decide
        objectSizes := show 64 ≤ 256 by decide
        objectSizeLargeBytes := show 256 < 2 ^ 64 by decide }
    · have hbound := (hids nodeId hmem).2
      omega
    · exact List.Nodup.map (fun a b h => Nat.succ_injective h) List.nodup_range
    · have hbound : 99 ≤ nodeCount := (hids 99 hmem).2
      omega
  intro entry hentry
  simp only [PRESETS, List.mem_cons, List.mem_append, List.mem_map] at hentry
  rcases hentry with (rfl | ⟨name, -, rfl⟩) | ⟨name, -, rfl⟩
  · exact hvalid _ 4 (by decide)
  · exact hvalid name 8 (by decide)
  · exact hvalid name 16 (by decide)

-- ============================================================================
-- Names that can be quoted
-- ============================================================================

theorem Printable.append {first second : String} (hfirst : Printable first)
    (hsecond : Printable second) : Printable (first ++ second) := by
  intro c hc
  rw [String.toList_append] at hc
  exact (List.mem_append.mp hc).elim (hfirst c) (hsecond c)

instance (text : String) : Decidable (Printable text) :=
  List.decidableBAll (fun c : Char => isPrintable c = true) text.toList

theorem printable_of_mem {value : String} {values : List String} (hvalue : value ∈ values)
    (h : ∀ v ∈ values, Printable v) : Printable value := h value hvalue

theorem isPrintable_of_isDigit {c : Char} (h : c.isDigit = true) : isPrintable c = true := by
  simp only [Char.isDigit, Bool.and_eq_true, decide_eq_true_eq, ge_iff_le, UInt32.le_iff_toNat_le]
    at h
  have hlow : 48 ≤ c.toNat := h.1
  have hhigh : c.toNat ≤ 57 := h.2
  have hgraphic : 0x20 ≤ c.toNat ∧ c.toNat ≤ 0x7E := by omega
  simp [isPrintable, hgraphic.1, hgraphic.2]

theorem printable_toDigits {c : Char} {n : Nat} (h : c ∈ Nat.toDigits 10 n) :
    isPrintable c = true := isPrintable_of_isDigit (isDigit_toDigits n c h)

theorem printable_nat (n : Nat) : Printable (toString n) := by
  intro c hc
  rw [toList_toString_nat] at hc
  exact printable_toDigits hc

theorem printable_int (n : Int) : Printable (toString n) := by
  intro c hc
  rw [toList_toString_int] at hc
  split at hc
  next =>
      rcases List.mem_cons.mp hc with rfl | hdigit
      · decide
      · exact printable_toDigits hdigit
  next => exact printable_toDigits hc

theorem printable_slugFloat (x : Rat) : Printable (slugFloat x) := by
  intro c hc
  rw [toList_slugFloat] at hc
  obtain ⟨d, hd, rfl⟩ := List.mem_map.mp hc
  split
  next => decide
  next =>
      rcases mem_formatGeneral hd with hdigit | hsign
      · exact isPrintable_of_isDigit hdigit
      · have hsigns : ['.', 'e', '-', '+'].all isPrintable = true := by decide
        exact List.all_eq_true.mp hsigns d hsign

/-- One more part of a name. -/
theorem Printable.part {name label token : String} (hname : Printable name)
    (hlabel : Printable label) (htoken : Printable token) :
    Printable (name ++ namePart label token) :=
  hname.append (((Printable.append (show Printable "__" by decide) hlabel).append
    (show Printable "-" by decide)).append htoken)

/-- What a table gives has graphic characters only if its texts and the default have. -/
theorem printable_lookup {table : List (String × String)} {default : String} (key : String)
    (htable : ∀ token ∈ table.map Prod.snd, Printable token) (hdefault : Printable default) :
    Printable ((table.lookup key).getD default) := by
  cases hlookup : table.lookup key with
  | none => exact hdefault
  | some token =>
      obtain ⟨before, after, rfl, -⟩ := List.lookup_eq_some_iff.mp hlookup
      refine htable token (List.mem_map_of_mem (f := Prod.snd) (a := (key, token)) ?_)
      exact List.mem_append_right before List.mem_cons_self

theorem printable_runNameToken {value : String} (h : Printable value) :
    Printable (runNameToken value) := by
  refine printable_lookup value ?_ h
  simp only [RUN_NAME_ALIASES, List.map_cons, List.map_nil, List.forall_mem_cons,
    List.not_mem_nil, false_implies, implies_true, and_true]
  and_intros
  all_goals exact printable_toList rfl (by decide)

theorem printable_policies : ∀ policy ∈ POLICIES, Printable policy := by
  simp only [POLICIES, BASE_POLICIES, CONTENTION_VARIANT_POLICIES, List.cons_append,
    List.nil_append, List.forall_mem_cons, List.not_mem_nil, false_implies, implies_true, and_true]
  and_intros
  all_goals exact printable_toList rfl (by decide)

theorem printable_profiles : ∀ profile ∈ NO_CONTENTION_WEIGHT_PROFILE :: CONTENTION_WEIGHT_PROFILES,
    Printable (weightPart profile) := by
  have hempty : Printable "" := fun c hc => absurd hc List.not_mem_nil
  intro profile hprofile
  unfold weightPart
  split
  next =>
      have hname : Printable profile.profile := by
        rcases List.mem_cons.mp hprofile with rfl | hswept
        · exact hempty
        · obtain ⟨sweep, -, hvalue⟩ := List.mem_flatMap.mp hswept
          obtain ⟨value, -, rfl⟩ := List.mem_map.mp hvalue
          have htoken : Printable
              ((CONTENTION_WEIGHT_NAME_TOKENS.lookup sweep.1).getD "") := by
            refine printable_lookup sweep.1 ?_ hempty
            simp only [CONTENTION_WEIGHT_NAME_TOKENS, List.map_cons, List.map_nil,
              List.forall_mem_cons, List.not_mem_nil, false_implies, implies_true, and_true]
            and_intros
            all_goals exact printable_toList rfl (by decide)
          exact (htoken.append (show Printable "-" by decide)).append (printable_slugFloat value)
      exact hempty.part (show Printable "weight" by decide) (printable_runNameToken hname)
  next => exact hempty

theorem printable_presets : ∀ entry ∈ PRESETS, Printable entry.1.name := by
  simp only [PRESETS, presetOf, List.map_cons, List.map_nil, List.cons_append, List.nil_append,
    List.forall_mem_cons, List.not_mem_nil, false_implies, implies_true, and_true]
  and_intros
  all_goals exact printable_toList rfl (by decide)

theorem printable_burstToken (d : Dimensions) : Printable (burstToken d) := by
  have hdash : Printable "-" := by decide
  exact ((((((printable_nat _).append hdash).append (printable_nat _)).append hdash).append
    (printable_nat _)).append hdash).append (printable_nat _)

/-- The name of a run has graphic characters only. -/
theorem printable_fullRunName {preset : MatrixPreset} {profile : ContentionWeightProfile}
    {d : Dimensions} (hpreset : Printable (runNameToken preset.name)) (hd : d.Valid)
    (hprofile : profile ∈ contentionWeightProfilesForPolicy preset d.policy) :
    Printable (fullRunName preset profile d) := by
  have hpolicy := printable_runNameToken (printable_policies _ hd.policy)
  have hweight := printable_profiles _ (mem_profiles hprofile)
  have hissue := printable_runNameToken (printable_of_mem hd.workloadIssueMode (by decide))
  have hmode : Printable preset.hotSetMode.text := by
    cases preset.hotSetMode <;> decide
  have hoverlap := printable_of_mem hd.crossNodeOverlap (by decide)
  have hsize := printable_of_mem hd.objectSizeMode (by decide)
  have hbandwidth := printable_of_mem hd.memoryBandwidthLevel (by decide)
  have hbase := printable_of_mem hd.memoryBaseLatencyLevel (by decide)
  have hlink := printable_of_mem hd.linkLatencyLevel (by decide)
  have hstart := ((hpreset.part (show Printable "policy" by decide) hpolicy).append hweight).part
    (show Printable "seed" by decide) (printable_int d.seed)
  have hcounts := (((hstart.part (show Printable "nodes" by decide)
    (printable_nat d.computeNodeCount)).part (show Printable "objects" by decide)
    (printable_nat d.objectCount)).part (show Printable "epochs" by decide)
    (printable_nat d.epochCount)).part (show Printable "rpe" by decide)
    (printable_nat d.requestsPerNodePerEpoch)
  have hissues := (hcounts.part (show Printable "issue" by decide) hissue).part
    (show Printable "burst" by decide) (printable_burstToken d)
  have hhot := (((hissues.part (show Printable "hotset" by decide)
    (printable_nat d.hotSetSize)).part (show Printable "hotp" by decide)
    (printable_slugFloat d.hotAccessProbability)).part (show Printable "mode" by decide)
    hmode).part (show Printable "churn" by decide) (printable_slugFloat d.hotSetChurnFraction)
  have hsizes := (((hhot.part (show Printable "overlap" by decide) hoverlap).part
    (show Printable "size" by decide) hsize).part (show Printable "largep" by decide)
    (printable_slugFloat d.largeObjectProbability)).part (show Printable "cachex" by decide)
    (printable_slugFloat d.cacheCapacityHotsetMultiplier)
  have hchannels := (hsizes.part (show Printable "memch" by decide)
    (printable_nat d.memoryChannelCount)).part (show Printable "hotch" by decide)
    (printable_nat d.hotObjectChannelCount)
  exact ((hchannels.part (show Printable "bw" by decide) hbandwidth).part
    (show Printable "base" by decide) hbase).part (show Printable "link" by decide) hlink

theorem printable_boundedRunName {name : String} {maxLength : Nat} (h : Printable name) :
    Printable (boundedRunName name maxLength) := by
  rcases Nat.lt_or_ge maxLength name.length with hlt | hle
  · intro c hc
    rw [toList_boundedRunName hlt] at hc
    rcases List.mem_append.mp hc with hc | hdigest
    · rcases List.mem_append.mp hc with hkept | hlow
      · exact h c (List.mem_of_mem_take hkept)
      · exact printable_toList rfl (by decide) c hlow
    · have hall : Sha1.hexAlphabet.all isPrintable = true := by decide
      exact List.all_eq_true.mp hall c (Sha1.mem_hexdigest (List.mem_of_mem_take hdigest))
  · rw [boundedRunName_of_le hle]
    exact h

theorem printable_intercalate {parts : List String} (h : ∀ part ∈ parts, Printable part) :
    Printable ("/".intercalate parts) := by
  have hslash : Printable "/" := by decide
  induction parts with
  | nil => exact fun c hc => absurd hc List.not_mem_nil
  | cons part rest ih =>
      cases rest with
      | nil => exact h part List.mem_cons_self
      | cons next rest =>
          rw [String.intercalate_cons_cons]
          exact ((h part List.mem_cons_self).append hslash).append
            (ih (fun other hother => h other (List.mem_cons_of_mem part hother)))

theorem printable_pathText {path : Path} (h : ∀ part ∈ path, Printable part) :
    Printable (pathText path) := by
  unfold pathText
  split
  next => decide
  next parts =>
      exact Printable.append (show Printable "/" by decide)
        (printable_intercalate (fun part hpart => h part (List.mem_cons_of_mem "/" hpart)))
  next => exact printable_intercalate h

-- ============================================================================
-- Every run that is written loads
-- ============================================================================

theorem nodeIds_ne_nil {n : Nat} (hpos : 0 < n) (hle : n ≤ system.computeNodeIds.length) :
    system.computeNodeIds.take n ≠ [] := by
  intro hnil
  have hlength := congrArg List.length hnil
  rw [List.length_take, List.length_nil] at hlength
  omega

theorem printable_run {d : Dimensions} {profile : ContentionWeightProfile}
    (hpreset : (preset, system) ∈ PRESETS) (hdir : ∀ part ∈ resultsDir, Printable part)
    (hd : d.Valid) (hprofile : profile ∈ contentionWeightProfilesForPolicy preset d.policy) :
    Printable (matrixRun preset resultsDir d profile).runName ∧
      Printable (pathText (matrixRun preset resultsDir d profile).outputDir) := by
  have hname : Printable (matrixRun preset resultsDir d profile).runName := by
    have htoken : Printable (runNameToken preset.name) :=
      printable_runNameToken (printable_presets (preset, system) hpreset)
    rw [runName_matrixRun]
    exact printable_boundedRunName (printable_fullRunName htoken hd hprofile)
  refine ⟨hname, ?_⟩
  rw [outputDir_matrixRun]
  refine printable_pathText (fun part hpart => ?_)
  rcases List.mem_append.mp hpart with hresults | hlast
  · exact hdir part hresults
  · rcases List.mem_cons.mp hlast with rfl | hlast
    · decide
    · rw [List.mem_singleton.mp hlast]
      exact hname

theorem loads_of_written {yaml : YamlCpp} (hyaml : yaml.Documented)
    (hparsed : s.ParsedFrom py texts) (hpreset : (preset, system) ∈ PRESETS)
    (hdir : ∀ part ∈ resultsDir, Printable part)
    (hruns : buildRuns preset s resultsDir = .ok runs) (hrun : run ∈ runs)
    (hfits : run.Fits system) {contents : String}
    (hwrite : writeYamlConfig system run = .ok contents) (path : String) :
    yaml.loadExperimentConfig path contents = .ok (run.experiment system) := by
  have hlisted := listed_of_mem hparsed hruns hrun
  have hsystem := PRESETS_valid _ hpreset
  obtain ⟨rfl, hle⟩ := writeYamlConfig_eq hlisted.profile hwrite
  obtain ⟨d, profile, hmem, rfl⟩ := exists_choice hruns hrun
  obtain ⟨hwithin, -, hprofile⟩ := mem_choices.mp hmem
  obtain ⟨hname, houtput⟩ := printable_run hpreset hdir (hparsed.valid hwithin) hprofile
  have hvalid := document_valid hlisted hfits.seed_nonneg
    (nodeIds_ne_nil hlisted.computeNodeCount hle) hname houtput
  rw [hyaml.loadExperimentConfig_eq hvalid, node_document hlisted hfits.seed_nonneg]
  exact parseExperiment_document hyaml hlisted hsystem hfits

theorem itemOf_levelOf {levels : List (String × Nat)} {level : String}
    (h : (levels.lookup level).isSome = true) :
    itemOf levels level = .ok (levelOf levels level) := by
  obtain ⟨value, hvalue⟩ := Option.isSome_iff_exists.mp h
  rw [levelOf, hvalue]
  exact itemOf_eq_ok.mpr hvalue

/-- Only a preset with too few nodes keeps a configuration from being written. -/
theorem exists_writeYamlConfig (hlisted : run.Listed)
    (hle : run.computeNodeCount ≤ system.computeNodeIds.length) :
    ∃ contents, writeYamlConfig system run = .ok contents := by
  have hbandwidth : ∀ level ∈ ["mild", "moderate", "severe"],
      (MEMORY_BANDWIDTH_BYTES_PER_TIME_BY_LEVEL.lookup level).isSome = true := by decide
  have hbase : ∀ level ∈ ["low", "medium", "high"],
      (MEMORY_BASE_LATENCY_BY_LEVEL.lookup level).isSome = true := by decide
  have hlink : ∀ level ∈ ["low", "medium", "high"],
      (LINK_LATENCY_BY_LEVEL.lookup level).isSome = true := by decide
  rw [writeYamlConfig, yamlLines, nodeIdsForRun, if_neg (not_lt.mpr hle), memoryBaseLatency,
    itemOf_levelOf (hbase _ hlisted.valid.memoryBaseLatencyLevel), memoryBandwidthBytesPerTime,
    itemOf_levelOf (hbandwidth _ hlisted.valid.memoryBandwidthLevel), oneWayLinkLatency,
    itemOf_levelOf (hlink _ hlisted.valid.linkLatencyLevel), policyLines_eq hlisted.profile]
  exact ⟨_, rfl⟩

/-- The one choice of the preset `quick`. -/
def quickDimensions : Dimensions where
  seed := 1
  policy := "lru"
  computeNodeCount := 4
  objectCount := 128
  epochCount := 3
  requestsPerNodePerEpoch := 16
  workloadIssueMode := "completion_driven"
  burstSize := 4
  burstInterval := 100
  intraBurstGap := 1
  nodePhaseJitter := 0
  hotSetSize := 8
  hotAccessProbability := 4 / 5
  hotSetChurnFraction := 1
  crossNodeOverlap := "medium"
  objectSizeMode := "fixed"
  largeObjectProbability := 1 / 10
  cacheCapacityHotsetMultiplier := 1 / 2
  memoryChannelCount := 1
  hotObjectChannelCount := 0
  memoryBandwidthLevel := "moderate"
  memoryBaseLatencyLevel := "medium"
  linkLatencyLevel := "medium"

def quickRun : MatrixRun :=
  matrixRun samplePreset ["results"] quickDimensions NO_CONTENTION_WEIGHT_PROFILE

-- ============================================================================
-- Every run that loads is simulated
-- ============================================================================

theorem exists_of_foldlM_append {α β : Type} {f : α → Except String (List β)} {l : List α}
    {runs out : List β}
    (h : l.foldlM (fun runs a => do
      let more ← f a
      return runs ++ more) runs = .ok out) : ∀ a ∈ l, ∃ more, f a = .ok more := by
  induction l generalizing runs with
  | nil => exact fun a ha => absurd ha List.not_mem_nil
  | cons a l ih =>
      rw [List.foldlM_cons, bind_eq_ok] at h
      obtain ⟨next, hnext, h⟩ := h
      rw [bind_eq_ok] at hnext
      obtain ⟨more, hmore, -⟩ := hnext
      exact List.forall_mem_cons.mpr ⟨⟨more, hmore⟩, ih h⟩

theorem overlapNamed_eq_ok {overlap : String} {level : CrossNodeOverlap}
    (h : overlapNamed overlap = .ok level) : overlapOf overlap = level := by
  unfold overlapNamed at h
  split at h
  next => exact pure_eq_ok.mp h
  next => exact pure_eq_ok.mp h
  next => exact pure_eq_ok.mp h
  next => exact absurd h (by simp [throw, throwThe, MonadExceptOf.throw])

/-- What `build_runs` has checked of a run. -/
structure MatrixRun.Checked (run : MatrixRun) : Prop where
  capacity : validateHotObjectCapacity run.objectCount run.computeNodeCount run.hotSetSize
    (overlapOf run.crossNodeOverlap) run.preset.hotSetMode run.hotSetChurnFraction
    run.memoryChannelCount run.hotObjectChannelCount = .ok ()
  burstTiming : run.workloadIssueMode = "scheduled_bursty" → 1 < run.burstSize →
    (run.burstSize - 1) * run.intraBurstGap ≤ run.burstInterval

theorem checked_of_mem (hruns : buildRuns preset s resultsDir = .ok runs) (h : run ∈ runs) :
    run.Checked := by
  obtain ⟨d, profile, hmem, rfl⟩ := exists_choice hruns h
  obtain ⟨hwithin, hle, -⟩ := mem_choices.mp hmem
  obtain ⟨more, hmore⟩ := exists_of_foldlM_append hruns d (SweepLists.mem_dimensions.mpr hwithin)
  unfold runsAt at hmore
  rw [if_neg (not_lt.mpr hle)] at hmore
  simp only [bind_eq_ok, throwIf_eq_ok, exists_and_left, exists_const,
    decide_eq_false_iff_not] at hmore
  obtain ⟨overlap, hoverlap, _, hcapacity, htiming, -⟩ := hmore
  refine ⟨?_, fun hmode hburst => ?_⟩
  · rw [← overlapNamed_eq_ok hoverlap] at hcapacity
    exact hcapacity
  · exact not_lt.mp (fun hlt => htiming ⟨hmode, hburst, hlt⟩)

/-- The simulator accepts the workload of a run that `build_runs` has checked. -/
theorem MatrixRun.Checked.runnable (hchecked : run.Checked) (hlisted : run.Listed)
    (hsystem : system.Valid) (hfits : run.Fits system)
    (hle : run.computeNodeCount ≤ system.computeNodeIds.length)
    (hchurn : written run.hotSetChurnFraction = run.hotSetChurnFraction)
    (hchannels : run.memoryChannelCount ≤ 2 ^ 32) (A : Arith) :
    (run.workload system).Runnable A := by
  have haccess := readNumber_written hlisted.valid.hotAccessProbability
  have hcheck : capacityCheck (run.workload system) = .ok () := by
    have hlength : (run.workload system).computeNodeIds.length = run.computeNodeCount := by
      rw [workload, List.length_take, Nat.min_eq_left hle]
    rw [capacityCheck, hlength]
    show validateHotObjectCapacity _ _ _ _ _ (written run.hotSetChurnFraction) _ _ = _
    rw [hchurn]
    exact hchecked.capacity
  refine
    { nodes := nodeIds_ne_nil hlisted.computeNodeCount hle
      nodeIds_nodup := hsystem.computeNodeIds_nodup.sublist (List.take_sublist _ _)
      objects := hlisted.objectCount
      requests := hlisted.requestsPerNodePerEpoch
      epochs := hlisted.epochCount
      hotSetSize := hlisted.hotSetSize
      hotAccess := ⟨haccess.2, rounded_le_one hlisted.valid.hotAccessProbability
        hlisted.hotAccessProbability⟩
      burstTiming := fun hmode hburst => ?_
      candidates := ?_ }
  · have htext : run.workloadIssueMode = "scheduled_bursty" := by
      by_contra hother
      have hcompletion : issueModeNamed run.workloadIssueMode = .completionDriven := if_neg hother
      exact absurd (hcompletion.symm.trans hmode) (by decide)
    have htiming := hchecked.burstTiming htext hburst
    have hword : (run.burstSize - 1) * run.intraBurstGap < 2 ^ 64 :=
      htiming.trans_lt hfits.burstInterval
    have hsize : 0 < run.burstSize - 1 := by
      have hlt : 1 < run.burstSize := hburst
      omega
    refine ⟨(Nat.le_div_iff_mul_le hsize).mpr ?_, (A.norm_le _).trans htiming⟩
    rw [Nat.mul_comm]
    exact Nat.le_pred_of_lt hword
  · have hpos : 0 < (run.workload system).memoryChannelCount := hlisted.memoryChannelCount
    rw [eligibleHotObjectCount_eq_exact hpos hchannels]
    refine not_lt.mp (fun hmore => ?_)
    obtain ⟨message, herror⟩ :=
      (capacityCheck_eq_error_iff hpos hlisted.hotObjectChannelCount).mpr hmore
    rw [hcheck] at herror
    cases herror

namespace Simulator

/-- The nodes of a simulator of a synthetic workload, with streams of one length. -/
theorem construct_streams {rng : RandomSource} {config : SimulationConfig}
    {workload : SyntheticWorkloadConfig} (hworkload : config.syntheticWorkload = some workload)
    {s : Simulator (makeCachePolicy .exact config.localCache)}
    (h : construct .exact rng config = .ok s) :
    s.config.computeNodes.map ComputeNodeConfig.nodeId = workload.computeNodeIds ∧
      ∀ nodeConfig ∈ s.config.computeNodes,
        nodeConfig.requests.length = workload.epochCount * workload.requestsPerNodePerEpoch := by
  obtain ⟨generated, hgenerate, prepared, rfl, -, rfl⟩ := construct_synthetic hworkload h
  refine ⟨?_, fun nodeConfig hmem => ?_⟩
  · show (generated.nodeWorkloads.map _).map _ = _
    rw [List.map_map]
    exact (generateSyntheticWorkload_nodeIds hgenerate).trans rfl
  · obtain ⟨w, hw, rfl⟩ := List.mem_map.mp hmem
    have hplan := congrArg List.length (generateSyntheticWorkload_plan hgenerate w hw)
    rw [List.length_map, length_streamPlan] at hplan
    exact hplan

end Simulator

end DmSimulator
