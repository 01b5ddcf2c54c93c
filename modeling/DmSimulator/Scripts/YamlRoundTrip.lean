/-
  DmSimulator.Scripts.YamlRoundTrip

  The configuration file that the script writes for a run loads as the configuration
  that the run stands for, whatever reader of YAML stands behind the loader.
-/
import DmSimulator.Scripts.YamlSections

namespace DmSimulator

open Decimal Yaml YamlCpp

variable {yaml : YamlCpp} {run : MatrixRun} {system : PresetSystem}

-- ============================================================================
-- The configuration that is loaded
-- ============================================================================

theorem parseLocalCache_entries (hyaml : yaml.Documented) (hrun : run.Listed)
    (hsystem : system.Valid) (hfits : run.Fits system) :
    yaml.parseLocalCacheConfig (.map (localCacheEntries system run)) =
      .ok (run.localCache system) := by
  have hfamily := policyFamily hrun.valid.policy
  set entries := localCacheEntries system run with hentries
  have hcapacity := hyaml.requiredU64 "local_cache" hfits.cacheCapacityBytes
    (show entries.lookup "capacity_bytes" = _ from rfl)
  have hlatency := hyaml.requiredU64 "local_cache" hsystem.cacheHitLatency
    (show entries.lookup "hit_latency" = _ from rfl)
  have hpolicy := hyaml.requiredName "local_cache"
    (show entries.lookup "policy" = _ from rfl) hfamily.name
  have hhotness : yaml.parseHotnessPolicyConfig (.map entries) =
      .ok (hotnessConfigOf run.policy) := by
    by_cases hmem : run.policy ∈ hotnessPolicies
    · refine parseHotness_entries hyaml hmem ?_
      rw [hentries, localCacheEntries, policyEntries, if_pos hmem]
      rfl
    · have habsent : entries.lookup "hotness" = none := by
        rw [hentries, localCacheEntries, policyEntries, if_neg hmem]
        split
        next => rfl
        next => rfl
      simp only [parseHotnessPolicyConfig, child, habsent, pure, Except.pure, ok_bind,
        hfamily.noHotness hmem]
  have hcontention : yaml.parseContentionPolicyConfig (.map entries) =
      .ok (contentionConfigOf run.policy run.contentionWeightProfile) := by
    by_cases hmem : run.policy ∈ contentionPolicies
    · refine parseContention_entries hyaml hrun hmem ?_
      rw [hentries, localCacheEntries, policyEntries,
        if_neg (fun hhot => hfamily.apart hhot hmem), if_pos hmem]
      rfl
    · have habsent : entries.lookup "contention" = none := by
        rw [hentries, localCacheEntries, policyEntries, if_neg hmem]
        split
        next => rfl
        next => rfl
      simp only [parseContentionPolicyConfig, child, habsent, pure, Except.pure, ok_bind,
        hfamily.noContention hmem]
  simp only [parseLocalCacheConfig, hcapacity, hlatency, hpolicy, hhotness, hcontention, ok_bind]
  rfl

def experimentEntries (run : MatrixRun) : List (String × Node) :=
  [("name", .scalar run.runName), ("output_dir", .scalar (pathText run.outputDir))]

def memoryEntries (system : PresetSystem) (run : MatrixRun) : List (String × Node) :=
  [("node_id", numberNode system.memoryNodeId),
    ("base_latency",
      numberNode (levelOf MEMORY_BASE_LATENCY_BY_LEVEL run.memoryBaseLatencyLevel)),
    ("bandwidth_bytes_per_time",
      numberNode (levelOf MEMORY_BANDWIDTH_BYTES_PER_TIME_BY_LEVEL run.memoryBandwidthLevel)),
    ("channel_count", numberNode run.memoryChannelCount)]

def linkEntries (run : MatrixRun) : List (String × Node) :=
  [("one_way_latency", numberNode (levelOf LINK_LATENCY_BY_LEVEL run.linkLatencyLevel))]

def documentEntries (system : PresetSystem) (run : MatrixRun) : List (String × Node) :=
  [("experiment", .map (experimentEntries run)), ("memory", .map (memoryEntries system run)),
    ("link", .map (linkEntries run)), ("local_cache", .map (localCacheEntries system run)),
    ("workload", .map (workloadEntries system run))]

theorem entries_policyBlock (hrun : run.Listed) :
    (policyBlock run (weightItems run.writtenWeights)).entries = policyEntries run := by
  have hfamily := policyFamily hrun.valid.policy
  unfold policyBlock policyEntries
  by_cases hhot : run.policy ∈ hotnessPolicies
  · rw [if_pos (hfamily.hotness.mpr hhot), if_pos hhot]
    simp only [Block.entries, entries_items, List.append_nil, String.ofList_toList]
    rw [hotnessItems, List.cons_append, itemEntries_field]
    rfl
  · rw [if_neg (fun h => hhot (hfamily.hotness.mp h)), if_neg hhot]
    by_cases hmem : run.policy ∈ contentionPolicies
    · rw [if_pos (hfamily.contention.mpr hmem), if_pos hmem]
      simp only [Block.entries, entries_items, List.append_nil, String.ofList_toList,
        itemEntries_contentionItems]
      rfl
    · rw [if_neg (fun h => hmem (hfamily.contention.mp h)), if_neg hmem]
      rfl

theorem node_document (hrun : run.Listed) (hseed : 0 ≤ run.seed) :
    (run.document system).node = .map (documentEntries system run) := by
  have hexperiment : itemEntries (experimentItems run) = experimentEntries run := by
    simp only [experimentItems, itemEntries, yamlString, Value.node, String.ofList_toList]
    rfl
  have hmemory : ∀ baseLatency bandwidth, itemEntries (memoryItems system run baseLatency
      bandwidth) = [("node_id", numberNode system.memoryNodeId),
        ("base_latency", numberNode baseLatency),
        ("bandwidth_bytes_per_time", numberNode bandwidth),
        ("channel_count", numberNode run.memoryChannelCount)] := by
    intro baseLatency bandwidth
    simp only [memoryItems, itemEntries_field, itemEntries_remark, itemEntries]
    rfl
  have hlink : ∀ latency, itemEntries (linkItems latency) =
      [("one_way_latency", numberNode latency)] := by
    intro latency
    simp only [linkItems, itemEntries_field, itemEntries]
    rfl
  have hcache : itemEntries (localCacheItems system run) ++ policyEntries run =
      localCacheEntries system run := by
    simp only [localCacheItems, itemEntries_field, itemEntries]
    rfl
  simp only [MatrixRun.document, configDocument, Block.node, Block.entries, entries_items,
    entries_policyBlock hrun, hexperiment, hmemory, hlink, hcache,
    itemEntries_workloadItems hseed, List.append_nil, String.ofList_toList]
  rfl

/-- The figures of the levels that the parsers accept. -/
structure LevelsFit (d : Dimensions) : Prop where
  bandwidth : levelOf MEMORY_BANDWIDTH_BYTES_PER_TIME_BY_LEVEL d.memoryBandwidthLevel < 2 ^ 64
  baseLatency : levelOf MEMORY_BASE_LATENCY_BY_LEVEL d.memoryBaseLatencyLevel < 2 ^ 64
  linkLatency : levelOf LINK_LATENCY_BY_LEVEL d.linkLatencyLevel < 2 ^ 64

theorem Dimensions.Valid.levelsFit {d : Dimensions} (h : d.Valid) : LevelsFit d where
  bandwidth := by
    have hall : ∀ level ∈ ["mild", "moderate", "severe"],
        levelOf MEMORY_BANDWIDTH_BYTES_PER_TIME_BY_LEVEL level < 2 ^ 64 := by decide
    exact hall _ h.memoryBandwidthLevel
  baseLatency := by
    have hall : ∀ level ∈ ["low", "medium", "high"],
        levelOf MEMORY_BASE_LATENCY_BY_LEVEL level < 2 ^ 64 := by decide
    exact hall _ h.memoryBaseLatencyLevel
  linkLatency := by
    have hall : ∀ level ∈ ["low", "medium", "high"],
        levelOf LINK_LATENCY_BY_LEVEL level < 2 ^ 64 := by decide
    exact hall _ h.linkLatencyLevel

theorem parseExperiment_document (hyaml : yaml.Documented) (hrun : run.Listed)
    (hsystem : system.Valid) (hfits : run.Fits system) :
    yaml.parseExperimentConfig (.map (documentEntries system run)) =
      .ok (run.experiment system) := by
  have hlevels := hrun.valid.levelsFit
  have hsection : ∀ {key : String} {node : Node},
      (documentEntries system run).lookup key = some node →
        yaml.requiredChild (.map (documentEntries system run)) key "root" = .ok node :=
    fun hlookup => requiredChild_eq "root" hlookup
  have hexperiment := hsection
    (show (documentEntries system run).lookup "experiment" = _ from rfl)
  have hmemory := hsection
    (show (documentEntries system run).lookup "memory" = _ from rfl)
  have hlink := hsection
    (show (documentEntries system run).lookup "link" = _ from rfl)
  have hcache := hsection
    (show (documentEntries system run).lookup "local_cache" = _ from rfl)
  have hworkload := hsection
    (show (documentEntries system run).lookup "workload" = _ from rfl)
  have hname := hyaml.requiredText "experiment"
    (show (experimentEntries run).lookup "name" = _ from rfl)
  have houtput := hyaml.requiredText "experiment"
    (show (experimentEntries run).lookup "output_dir" = _ from rfl)
  have hnode := hyaml.requiredU32 "memory" hsystem.memoryNodeId
    (show (memoryEntries system run).lookup "node_id" = _ from rfl)
  have hbase := hyaml.requiredU64 "memory" hlevels.baseLatency
    (show (memoryEntries system run).lookup "base_latency" = _ from rfl)
  have hbandwidth := hyaml.requiredU64 "memory" hlevels.bandwidth
    (show (memoryEntries system run).lookup "bandwidth_bytes_per_time" = _ from rfl)
  have hchannels := hyaml.positiveU64 "memory" 1 hfits.memoryChannelCount
    hrun.memoryChannelCount
    (show (memoryEntries system run).lookup "channel_count" = _ from rfl)
  have hlatency := hyaml.requiredU64 "link" hlevels.linkLatency
    (show (linkEntries run).lookup "one_way_latency" = _ from rfl)
  simp only [parseExperimentConfig, hexperiment, hmemory, hlink, hcache, hworkload, hname, houtput,
    hnode, hbase, hbandwidth, hchannels, hlatency,
    parseLocalCache_entries hyaml hrun hsystem hfits,
    parseWorkload_document hyaml hrun hsystem hfits, ok_bind]
  rfl

-- ============================================================================
-- The text that is read
-- ============================================================================

theorem forall_valid_nil : ∀ item ∈ ([] : List Item), item.Valid :=
  fun _ hitem => absurd hitem List.not_mem_nil

section Fields

variable {key value : String} {chars : List Char}

theorem field_valid (hkey : key = String.ofList chars) (hplain : IsPlain chars)
    (hvalue : IsPlain value.toList) : (field key value).Valid :=
  ⟨isPlain_toList hkey hplain, hvalue⟩

theorem literal_valid {text : List Char} (hkey : key = String.ofList chars)
    (hplain : IsPlain chars) (hvalue : value = String.ofList text) (htext : IsPlain text) :
    (field key value).Valid :=
  field_valid hkey hplain (isPlain_toList hvalue htext)

theorem number_valid (hkey : key = String.ofList chars) (hplain : IsPlain chars) (n : Nat) :
    (field key (toString n)).Valid :=
  field_valid hkey hplain (isPlain_toString n)

theorem general_valid (hkey : key = String.ofList chars) (hplain : IsPlain chars) {x : Rat}
    (hx : 0 ≤ x) : (field key (generalText x)).Valid :=
  field_valid hkey hplain (isPlain_generalText hx)

theorem named_valid {names : List String} (hkey : key = String.ofList chars)
    (hplain : IsPlain chars) (hvalue : value ∈ names)
    (hnames : ∀ name ∈ names, IsPlain name.toList) : (field key value).Valid :=
  field_valid hkey hplain (hnames value hvalue)

theorem remark_valid {text : String} (htext : text = String.ofList chars)
    (h : chars.all isPrintable = true) : (remark text).Valid :=
  printable_toList htext h

end Fields

theorem workloadItems_valid (hrun : run.Listed) (hseed : 0 ≤ run.seed)
    (hnodes : system.computeNodeIds.take run.computeNodeCount ≠ []) :
    ∀ item ∈ workloadItems system run (system.computeNodeIds.take run.computeNodeCount),
      item.Valid := by
  obtain ⟨n, hn⟩ := Int.eq_ofNat_of_zero_le hseed
  have hseedText : toString run.seed = toString run.seed.toNat := by
    rw [hn]
    rfl
  have hmode : run.preset.hotSetMode.text ∈ ["static", "epoch_shift"] := by
    cases run.preset.hotSetMode <;> decide
  have hids : Value.Valid (.flow ((system.computeNodeIds.take run.computeNodeCount).map
      (fun nodeId => (toString nodeId).toList))) := by
    refine ⟨fun hnil => hnodes (List.map_eq_nil_iff.mp hnil), fun item hitem => ?_⟩
    obtain ⟨nodeId, -, rfl⟩ := List.mem_map.mp hitem
    exact isPlain_toString nodeId
  simp only [workloadItems, hseedText, List.forall_mem_cons]
  exact ⟨number_valid rfl (by decide) _, ⟨isPlain_toList rfl (by decide), hids⟩,
    number_valid rfl (by decide) _, number_valid rfl (by decide) _,
    general_valid rfl (by decide) hrun.valid.hotSetChurnFraction, remark_valid rfl (by decide),
    remark_valid rfl (by decide), number_valid rfl (by decide) _,
    named_valid rfl (by decide) hrun.valid.objectSizeMode (by decide),
    number_valid rfl (by decide) _, number_valid rfl (by decide) _,
    general_valid rfl (by decide) hrun.valid.largeObjectProbability,
    number_valid rfl (by decide) _, remark_valid rfl (by decide), remark_valid rfl (by decide),
    named_valid rfl (by decide) hrun.valid.workloadIssueMode (by decide),
    number_valid rfl (by decide) _, number_valid rfl (by decide) _,
    number_valid rfl (by decide) _, number_valid rfl (by decide) _,
    number_valid rfl (by decide) _, number_valid rfl (by decide) _,
    general_valid rfl (by decide) hrun.valid.hotAccessProbability,
    named_valid rfl (by decide) hmode (by decide),
    named_valid rfl (by decide) hrun.valid.crossNodeOverlap (by decide), forall_valid_nil⟩

theorem variantItems_valid (policy variant : String) :
    ∀ item ∈ variantItems policy variant, item.Valid := by
  have hmargin : IsPlain (if policy = "contention_aware_smoothed_reuse_gated_hysteresis"
      then "0.1" else "0.0").toList := by
    split
    next => exact isPlain_toList rfl (by decide)
    next => exact isPlain_toList rfl (by decide)
  unfold variantItems
  generalize (if policy = "contention_aware_smoothed_reuse_gated_hysteresis"
    then "0.1" else "0.0") = margin at hmargin ⊢
  split_ifs
  · simp only [List.forall_mem_cons]
    exact ⟨remark_valid rfl (by decide), remark_valid rfl (by decide),
      literal_valid rfl (by decide) rfl (by decide),
      literal_valid rfl (by decide) rfl (by decide), forall_valid_nil⟩
  · simp only [List.forall_mem_cons]
    exact ⟨remark_valid rfl (by decide), remark_valid rfl (by decide),
      literal_valid rfl (by decide) rfl (by decide), forall_valid_nil⟩
  · simp only [List.forall_mem_cons]
    exact ⟨remark_valid rfl (by decide), remark_valid rfl (by decide),
      literal_valid rfl (by decide) rfl (by decide), forall_valid_nil⟩
  · simp only [List.forall_mem_cons]
    exact ⟨remark_valid rfl (by decide), remark_valid rfl (by decide),
      literal_valid rfl (by decide) rfl (by decide),
      literal_valid rfl (by decide) rfl (by decide),
      literal_valid rfl (by decide) rfl (by decide),
      literal_valid rfl (by decide) rfl (by decide), remark_valid rfl (by decide),
      remark_valid rfl (by decide), literal_valid rfl (by decide) rfl (by decide),
      field_valid rfl (by decide) hmargin, forall_valid_nil⟩
  · exact forall_valid_nil

theorem variantText_isPlain : ∀ policy ∈ contentionPolicies,
    IsPlain (variantText policy).toList := by
  decide +kernel

theorem weightItems_valid {weights : ContentionPolicyWeights}
    (h : ∀ weight ∈ weights.entries, 0 ≤ weight.2) : ∀ item ∈ weightItems weights, item.Valid := by
  intro item hitem
  obtain ⟨weight, hweight, rfl⟩ := List.mem_map.mp hitem
  refine ⟨?_, isPlain_generalText (h weight hweight)⟩
  have hkeys : ∀ key ∈ weights.entries.map Prod.fst, IsPlain key.toList := by
    simp only [ContentionPolicyWeights.entries, List.map_cons, List.map_nil, List.forall_mem_cons]
    exact ⟨isPlain_toList rfl (by decide), isPlain_toList rfl (by decide),
      isPlain_toList rfl (by decide), isPlain_toList rfl (by decide),
      isPlain_toList rfl (by decide), isPlain_toList rfl (by decide),
      isPlain_toList rfl (by decide), fun key hkey => absurd hkey List.not_mem_nil⟩
  exact hkeys _ (List.mem_map_of_mem hweight)

theorem contentionItems_valid (hrun : run.Listed) (hpolicy : run.policy ∈ contentionPolicies) :
    ∀ item ∈ contentionItems run (weightItems run.writtenWeights), item.Valid := by
  have hvariant := variantText_isPlain run.policy hpolicy
  have hitems := variantItems_valid run.policy (variantText run.policy)
  have hweights := weightItems_valid fun weight hweight =>
    (writtenWeights_kept hrun.profile weight hweight).2.1
  have hremarks : ∀ (p : Prop) [Decidable p] (remarks : List Item),
      (∀ item ∈ remarks, item.Valid) → ∀ item ∈ (if p then remarks else []), item.Valid := by
    intro p _ remarks hremarks item hitem
    split at hitem
    next => exact hremarks item hitem
    next => exact absurd hitem List.not_mem_nil
  unfold contentionItems
  refine List.forall_mem_append.mpr ⟨List.forall_mem_append.mpr ⟨List.forall_mem_append.mpr
    ⟨List.forall_mem_append.mpr ⟨List.forall_mem_append.mpr ⟨?_, ?_⟩, ?_⟩, hweights⟩, ?_⟩, hitems⟩
  · simp only [List.forall_mem_cons]
    exact ⟨field_valid rfl (by decide) hvariant, forall_valid_nil⟩
  · refine hremarks _ _ ?_
    simp only [List.forall_mem_cons]
    exact ⟨remark_valid rfl (by decide), remark_valid rfl (by decide), forall_valid_nil⟩
  · refine hremarks _ _ ?_
    simp only [List.forall_mem_cons]
    exact ⟨remark_valid rfl (by decide), remark_valid rfl (by decide), forall_valid_nil⟩
  · simp only [List.forall_mem_cons]
    exact ⟨literal_valid rfl (by decide) rfl (by decide),
      literal_valid rfl (by decide) rfl (by decide),
      literal_valid rfl (by decide) rfl (by decide), forall_valid_nil⟩

theorem hotnessItems_valid (policy : String) : ∀ item ∈ hotnessItems policy, item.Valid := by
  have hmode : IsPlain (hotnessHistoryModeForPolicy policy).toList := by
    unfold hotnessHistoryModeForPolicy
    split
    next => exact isPlain_toList rfl (by decide)
    next =>
        split
        next => exact isPlain_toList rfl (by decide)
        next => exact isPlain_toList rfl (by decide)
  unfold hotnessItems
  refine List.forall_mem_append.mpr ⟨?_, ?_⟩
  · simp only [List.forall_mem_cons]
    exact ⟨literal_valid rfl (by decide) rfl (by decide), remark_valid rfl (by decide),
      remark_valid rfl (by decide), field_valid rfl (by decide) hmode, forall_valid_nil⟩
  · split
    next =>
        simp only [List.forall_mem_cons]
        exact ⟨literal_valid rfl (by decide) rfl (by decide), forall_valid_nil⟩
    next => exact forall_valid_nil

theorem policyBlock_valid (hrun : run.Listed) :
    (policyBlock run (weightItems run.writtenWeights)).Valid := by
  have hfamily := policyFamily hrun.valid.policy
  unfold policyBlock
  split
  next hhot =>
      exact ⟨isPlain_toList rfl (by decide), valid_items (hotnessItems_valid run.policy) trivial,
        trivial⟩
  next =>
      split
      next hmem =>
          exact ⟨isPlain_toList rfl (by decide),
            valid_items (contentionItems_valid hrun (hfamily.contention.mp hmem)) trivial, trivial⟩
      next => trivial

theorem policies_isPlain : ∀ policy ∈ POLICIES, IsPlain policy.toList := by
  simp only [POLICIES, BASE_POLICIES, CONTENTION_VARIANT_POLICIES, List.cons_append,
    List.nil_append, List.forall_mem_cons, List.not_mem_nil, false_implies, implies_true, and_true]
  and_intros
  all_goals exact isPlain_toList rfl (by decide)

theorem yamlPolicyName_isPlain : ∀ policy ∈ POLICIES, IsPlain (yamlPolicyName policy).toList := by
  intro policy hpolicy
  unfold yamlPolicyName
  split
  next => exact isPlain_toList rfl (by decide)
  next =>
      split
      next => exact isPlain_toList rfl (by decide)
      next => exact policies_isPlain policy hpolicy

/-- The characters of a text stand for themselves between quotes. -/
def Printable (text : String) : Prop := ∀ c ∈ text.toList, isPrintable c = true

theorem document_valid (hrun : run.Listed) (hseed : 0 ≤ run.seed)
    (hnodes : system.computeNodeIds.take run.computeNodeCount ≠ [])
    (hname : Printable run.runName) (houtput : Printable (pathText run.outputDir)) :
    (run.document system).Valid := by
  refine ⟨isPlain_toList rfl (by decide), valid_items ?_ trivial, isPlain_toList rfl (by decide),
    valid_items ?_ trivial, isPlain_toList rfl (by decide), valid_items ?_ trivial,
    isPlain_toList rfl (by decide), valid_items ?_ (policyBlock_valid hrun),
    isPlain_toList rfl (by decide), valid_items (workloadItems_valid hrun hseed hnodes) trivial,
    trivial⟩
  · simp only [experimentItems, List.forall_mem_cons]
    exact ⟨⟨isPlain_toList rfl (by decide), hname⟩, ⟨isPlain_toList rfl (by decide), houtput⟩,
      forall_valid_nil⟩
  · simp only [memoryItems, List.forall_mem_cons]
    exact ⟨number_valid rfl (by decide) _, number_valid rfl (by decide) _,
      number_valid rfl (by decide) _, remark_valid rfl (by decide), remark_valid rfl (by decide),
      number_valid rfl (by decide) _, forall_valid_nil⟩
  · simp only [linkItems, List.forall_mem_cons]
    exact ⟨number_valid rfl (by decide) _, forall_valid_nil⟩
  · simp only [localCacheItems, List.forall_mem_cons]
    exact ⟨number_valid rfl (by decide) _, number_valid rfl (by decide) _,
      field_valid rfl (by decide) (yamlPolicyName_isPlain _ hrun.valid.policy), forall_valid_nil⟩

end DmSimulator
