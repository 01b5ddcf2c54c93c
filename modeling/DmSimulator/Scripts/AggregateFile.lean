/-
  DmSimulator.Scripts.AggregateFile

  The aggregate file between two scripts: `write_aggregate_csv` of
  `scripts/run_matrix.py` and `read_aggregate_rows` of `scripts/plot_results.py`.  What
  the second script compares is what the first one wrote, whatever the texts hold, as
  long as none is above the field limit of the reader.
-/
import DmSimulator.Scripts.ContentionTotals

namespace DmSimulator

open Csv LastWins

-- ============================================================================
-- The file
-- ============================================================================

def AGGREGATE_COLUMNS : List String :=
  ["status", "error", "preset", "experiment_name", "policy", "contention_weight_profile",
    "contention_weight_name", "contention_weight_value", "seed", "node_count", "compute_node_count",
    "epoch_count", "requests_per_node_per_epoch", "workload_issue_mode", "burst_size",
    "burst_interval", "intra_burst_gap", "node_phase_jitter", "hot_set_mode", "hot_set_churn_label",
    "hot_set_churn_fraction", "cross_node_overlap", "object_count", "hot_set_size",
    "hot_access_probability", "object_size_mode", "object_size_bytes", "object_size_small_bytes",
    "object_size_large_bytes", "large_object_probability", "cache_capacity_hotset_multiplier",
    "cache_capacity_bytes", "memory_channel_count", "hot_object_channel_count",
    "memory_bandwidth_level", "memory_bandwidth_bytes_per_time", "memory_base_latency_level",
    "memory_base_latency", "link_latency_level", "one_way_link_latency", "completed_requests",
    "mean_latency", "median_latency", "p95_latency", "p99_latency", "local_hit_rate", "local_hits",
    "local_misses", "average_memory_wait", "max_memory_wait", "peak_memory_queue_depth",
    "peak_memory_channel_queue_depth", "max_channel_total_queue_wait", "channel_queue_imbalance",
    "total_remote_accesses", "total_queue_wait", "total_remote_service_time",
    "max_observed_queue_depth", "per_node_mean_latency_min", "per_node_mean_latency_max",
    "per_node_mean_latency_spread", "per_node_p99_latency_max", "per_node_hit_rate_min",
    "per_node_hit_rate_max", "policy_admitted", "policy_rejected", "admission_yield",
    "reuse_after_admit_rate", "stale_telemetry_rate", "average_top_object_overlap",
    "estimated_avoided_remote_accesses", "estimated_avoided_queue_wait",
    "estimated_avoided_remote_service_time", "eviction_regret_count",
    "remote_eviction_regret_count", "jain_inverse_latency_fairness", "config_path", "output_dir"]

/-- A value as `csv.writer` writes it; `None` is empty. -/
def CsvCell.written (cell : CsvCell) : String := cell.getD ""

/-- `writer.writerow({column: row.get(column, "") for column in AGGREGATE_COLUMNS})`. -/
def AggregateRow.cells (row : AggregateRow) : List Cell :=
  AGGREGATE_COLUMNS.map (fun column => (row.getD column "").written.toList)

def writeAggregateCsv (rows : List AggregateRow) : List Char :=
  writeRows (AGGREGATE_COLUMNS.map String.toList :: rows.map AggregateRow.cells)

/-- A file as `read_aggregate_rows` finds it. -/
def readAggregateFile (path : String) (text : List Char) : Except String AggregateFile := do
  let rows ← dictReader text
  return { path := path, rows := some rows }

-- ============================================================================
-- What is read
-- ============================================================================

/-- The row as it reads back. -/
def AggregateRow.reread (row : AggregateRow) : AggregateRow :=
  dictRow (AGGREGATE_COLUMNS.map String.toList) row.cells

theorem map_reread (rows : List AggregateRow) :
    rows.map AggregateRow.reread =
      (rows.map AggregateRow.cells).map (dictRow (AGGREGATE_COLUMNS.map String.toList)) := by
  rw [List.map_map]
  refine List.map_congr_left fun row _ => ?_
  unfold AggregateRow.reread
  exact Function.comp_apply.symm

/-- No text of the row is above the field limit. -/
def AggregateRow.FitsFields (row : AggregateRow) : Prop :=
  ∀ cell ∈ row.cells, Fits (some fieldSizeLimit) cell

theorem fits_AGGREGATE_COLUMNS :
    ∀ cell ∈ AGGREGATE_COLUMNS.map String.toList, Fits (some fieldSizeLimit) cell := by
  have hfits : ∀ {text : String} {chars : List Char}, text = String.ofList chars →
      Fits (some fieldSizeLimit) chars → Fits (some fieldSizeLimit) text.toList := by
    rintro text chars rfl h
    rw [String.toList_ofList]
    exact h
  rw [List.forall_mem_map]
  simp only [AGGREGATE_COLUMNS, List.forall_mem_cons, List.not_mem_nil, false_implies,
    implies_true, and_true]
  and_intros
  all_goals exact hfits rfl (by decide)

theorem dictReader_writeAggregateCsv {rows : List AggregateRow}
    (hfits : ∀ row ∈ rows, row.FitsFields) :
    dictReader (writeAggregateCsv rows) = .ok (rows.map AggregateRow.reread) := by
  have hkept : (rows.map AggregateRow.cells).filter (fun row => row ≠ []) =
      rows.map AggregateRow.cells := by
    refine List.filter_eq_self.mpr (List.forall_mem_map.mpr fun row _ => decide_eq_true ?_)
    exact List.cons_ne_nil _ _
  unfold dictReader writeAggregateCsv
  rw [readRows_writeRows
    (List.forall_mem_cons.mpr ⟨fits_AGGREGATE_COLUMNS, List.forall_mem_map.mpr hfits⟩)]
  change Except.ok (((rows.map AggregateRow.cells).filter (fun row => row ≠ [])).map
    (dictRow (AGGREGATE_COLUMNS.map String.toList))) = _
  rw [hkept, map_reread]

theorem AGGREGATE_COLUMNS_nodup : AGGREGATE_COLUMNS.Nodup := by decide +kernel

theorem status_mem : "status" ∈ AGGREGATE_COLUMNS := List.mem_cons_self

theorem lookup_reread (row : AggregateRow) {column : String} (h : column ∈ AGGREGATE_COLUMNS) :
    row.reread.lookup column = some (some (row.getD column "").written) := by
  obtain ⟨i, hi⟩ := List.getElem?_of_mem h
  have hnodup : (AGGREGATE_COLUMNS.map String.toList).Nodup :=
    AGGREGATE_COLUMNS_nodup.map fun _ _ => String.toList_injective
  have hcolumn : (AGGREGATE_COLUMNS.map String.toList)[i]? = some column.toList := by
    rw [List.getElem?_map, hi]
    rfl
  have hcell : row.cells[i]? = some (row.getD column "").written.toList := by
    unfold AggregateRow.cells
    rw [List.getElem?_map, hi]
    rfl
  have hlookup := lookup_dictRow hnodup
    (by rw [AggregateRow.cells, List.length_map, List.length_map]) hcolumn hcell
  rw [String.ofList_toList, String.ofList_toList] at hlookup
  unfold AggregateRow.reread
  exact hlookup

-- ============================================================================
-- What is compared
-- ============================================================================

/-- The two rows come from one file and hold the same texts. -/
structure SameTexts (row row' : AggregateRow) : Prop where
  source : row'.lookup "_source_aggregate" = row.lookup "_source_aggregate"
  columns : ∀ column ∈ AGGREGATE_COLUMNS, row'.lookup column = row.lookup column

namespace SameTexts

variable {F : Type} {text : FloatText F} {row row' : AggregateRow} {column : String}

theorem getD_eq (h : SameTexts row row') (hcolumn : column ∈ AGGREGATE_COLUMNS)
    (default : String) : row'.getD column default = row.getD column default := by
  unfold AggregateRow.getD
  rw [h.columns column hcolumn]

theorem get_eq (h : SameTexts row row') (hcolumn : column ∈ AGGREGATE_COLUMNS) :
    row'.get column = row.get column := by
  unfold AggregateRow.get
  rw [h.columns column hcolumn]

theorem metric_eq (h : SameTexts row row') (hcolumn : column ∈ AGGREGATE_COLUMNS) :
    metric text row' column = metric text row column := by
  unfold metric
  rw [h.get_eq hcolumn]

/-- The columns that identify a group are written. -/
theorem groupKey_eq (h : SameTexts row row') : groupKey row' = groupKey row := by
  have hwritten : ∀ column ∈ GROUP_COLUMNS, column ∈ AGGREGATE_COLUMNS := by decide +kernel
  exact List.map_congr_left fun column hcolumn => h.getD_eq (hwritten column hcolumn) ""

theorem isBaseline_eq (h : SameTexts row row') (baselinePolicy : String) :
    isBaseline baselinePolicy row' = isBaseline baselinePolicy row := by
  unfold isBaseline
  have hpolicy : "policy" ∈ AGGREGATE_COLUMNS := by
    unfold AGGREGATE_COLUMNS
    repeat first | exact List.mem_cons_self | apply List.mem_cons_of_mem
  rw [h.get_eq hpolicy]

theorem baselineMetrics_eq (h : SameTexts row row') :
    baselineMetrics text row' = baselineMetrics text row := by
  unfold baselineMetrics
  simp (disch :=
      (unfold AGGREGATE_COLUMNS
       repeat first | exact List.mem_cons_self | apply List.mem_cons_of_mem)) only [h.metric_eq]

end SameTexts

section Comparison

variable {F : Type} {text : FloatText F} [Zero F] [Add F] [Sub F] [Div F] [Neg F] [LT F]
  [DecidableLT F] [DecidableEq F] {baselinePolicy : String} {tieThreshold : F}
  {row row' : AggregateRow} {rows rows' : List AggregateRow}

theorem SameTexts.comparisonRow_eq (h : SameTexts row row') (baseline : Option AggregateRow) :
    comparisonRow text baselinePolicy tieThreshold baseline row' =
      comparisonRow text baselinePolicy tieThreshold baseline row := by
  have hsource : row'.getD "_source_aggregate" "" = row.getD "_source_aggregate" "" := by
    unfold AggregateRow.getD
    rw [h.source]
  unfold comparisonRow
  simp (disch :=
      (unfold AGGREGATE_COLUMNS
       repeat first | exact List.mem_cons_self | apply List.mem_cons_of_mem)) only [h.metric_eq, h.groupKey_eq,
    h.getD_eq, hsource]

/-- The comparison is a function of the texts. -/
theorem buildPolicyComparison_congr (h : List.Forall₂ SameTexts rows rows') :
    buildPolicyComparison text rows' baselinePolicy tieThreshold =
      buildPolicyComparison text rows baselinePolicy tieThreshold := by
  have hbaselines : List.Forall₂ SameTexts (baselineRows baselinePolicy rows)
      (baselineRows baselinePolicy rows') := by
    refine List.rel_filter (fun row row' hsame => ?_) h
    show isBaseline baselinePolicy row = true ↔ isBaseline baselinePolicy row' = true
    rw [hsame.isBaseline_eq]
  unfold buildPolicyComparison
  simp only [baselineByGroup_eq]
  refine (List.forall₂_eq_eq_eq ▸ List.rel_map (fun row row' hsame => ?_) h).symm
  have hfound := rel_lookup_lastByKey groupKey
    (fun _ _ hbaseline => SameTexts.groupKey_eq hbaseline) hbaselines (groupKey row)
  rw [hsame.groupKey_eq, hsame.comparisonRow_eq]
  refine comparisonRow_congr row ?_
  generalize (lastByKey groupKey (baselineRows baselinePolicy rows)).lookup (groupKey row) =
    baseline at hfound ⊢
  generalize (lastByKey groupKey (baselineRows baselinePolicy rows')).lookup (groupKey row) =
    baseline' at hfound ⊢
  cases hfound with
  | none => rfl
  | some hbaseline => exact congrArg some hbaseline.baselineMetrics_eq.symm

end Comparison

-- ============================================================================
-- Written and read
-- ============================================================================

/-- What `summarize_run` fills in: every row has a status, and the row of a run that
    succeeded has a text in every column. -/
structure AggregateRow.Filled (row : AggregateRow) : Prop where
  status : ∃ text, row.lookup "status" = some (some text)
  columns : row.getD "status" "success" = some "success" →
    ∀ column ∈ AGGREGATE_COLUMNS, ∃ text, row.lookup column = some (some text)

theorem lookup_reread_of_some {row : AggregateRow} {column text : String}
    (hcolumn : column ∈ AGGREGATE_COLUMNS) (h : row.lookup column = some (some text)) :
    row.reread.lookup column = row.lookup column := by
  rw [lookup_reread row hcolumn, h]
  unfold AggregateRow.getD
  rw [h]
  rfl

theorem status_reread {row : AggregateRow} (h : row.Filled) :
    row.reread.getD "status" "success" = row.getD "status" "success" := by
  obtain ⟨text, hstatus⟩ := h.status
  unfold AggregateRow.getD
  rw [lookup_reread_of_some status_mem hstatus]

theorem sameTexts_reread {row : AggregateRow} (h : row.Filled)
    (hsuccess : row.getD "status" "success" = some "success") (path : String) :
    SameTexts (row.insert "_source_aggregate" (some path))
      (row.reread.insert "_source_aggregate" (some path)) := by
  constructor
  · rw [AList.lookup_insert, AList.lookup_insert]
  · intro column hcolumn
    have hne : column ≠ "_source_aggregate" := by
      rintro rfl
      revert hcolumn
      decide +kernel
    obtain ⟨text, hlookup⟩ := h.columns hsuccess column hcolumn
    rw [AList.lookup_insert_ne hne, AList.lookup_insert_ne hne]
    exact lookup_reread_of_some hcolumn hlookup

/-- The rows that are kept of a file are those that were written. -/
theorem successfulRows_reread {rows : List AggregateRow} (h : ∀ row ∈ rows, row.Filled)
    (path : String) :
    List.Forall₂ SameTexts (successfulRows path rows)
      (successfulRows path (rows.map AggregateRow.reread)) := by
  unfold successfulRows
  induction rows with
  | nil => exact .nil
  | cons row rest ih =>
      obtain ⟨hrow, hrest⟩ := List.forall_mem_cons.mp h
      have hstatus := status_reread hrow
      rw [List.map_cons, List.filter_cons, List.filter_cons, hstatus]
      by_cases hsuccess : row.getD "status" "success" = some "success"
      · rw [if_pos (decide_eq_true hsuccess), if_pos (decide_eq_true hsuccess)]
        exact .cons (sameTexts_reread hrow hsuccess path) (ih hrest)
      · rw [if_neg (by simpa using hsuccess), if_neg (by simpa using hsuccess)]
        exact ih hrest

/-- A file that holds the rows as they are. -/
def rowsOfFile (file : String × List AggregateRow) : AggregateFile where
  path := file.1
  rows := some file.2

/-- The file after its rows have been written and read. -/
def rereadFile (file : String × List AggregateRow) : AggregateFile :=
  rowsOfFile (file.1, file.2.map AggregateRow.reread)

theorem mapM_readAggregateFile {files : List (String × List AggregateRow)}
    (hfits : ∀ file ∈ files, ∀ row ∈ file.2, row.FitsFields) :
    files.mapM (fun file => readAggregateFile file.1 (writeAggregateCsv file.2)) =
      .ok (files.map rereadFile) := by
  induction files with
  | nil => rfl
  | cons file rest ih =>
      obtain ⟨hhere, hrest⟩ := List.forall_mem_cons.mp hfits
      have hfile : readAggregateFile file.1 (writeAggregateCsv file.2) =
          .ok (rereadFile file) := by
        unfold readAggregateFile
        rw [dictReader_writeAggregateCsv hhere]
        rfl
      rw [List.mapM_cons, hfile, ih hrest]
      rfl

theorem readFiles_rowsOfFile (files : List (String × List AggregateRow)) :
    readFiles (files.map rowsOfFile) =
      .ok (files.flatMap (fun file => successfulRows file.1 file.2)) := by
  refine readFiles_eq_ok.mpr ⟨List.forall_mem_map.mpr fun _ _ => Option.some_ne_none _, ?_⟩
  rw [List.flatMap_map]
  rfl

/-- The report script compares what the matrix script wrote: whatever texts the rows hold
    within the field limit, the files that are written are read, and give the comparison,
    or the error, of the rows themselves. -/
theorem writtenFiles_comparison {F : Type} (text : FloatText F) [Zero F] [Add F] [Sub F] [Div F]
    [Neg F] [LT F] [DecidableLT F] [DecidableEq F] (baselinePolicy : String) (tieThreshold : F)
    {files : List (String × List AggregateRow)}
    (h : ∀ file ∈ files, ∀ row ∈ file.2, row.Filled)
    (hfits : ∀ file ∈ files, ∀ row ∈ file.2, row.FitsFields) :
    ∃ read, files.mapM (fun file => readAggregateFile file.1 (writeAggregateCsv file.2)) =
        .ok read ∧
      (readAggregateRows read).map
          (fun rows => buildPolicyComparison text rows baselinePolicy tieThreshold) =
        (readAggregateRows (files.map rowsOfFile)).map
          (fun rows => buildPolicyComparison text rows baselinePolicy tieThreshold) := by
  refine ⟨_, mapM_readAggregateFile hfits, ?_⟩
  clear hfits
  have hreread : files.map rereadFile =
      (files.map (fun file => (file.1, file.2.map AggregateRow.reread))).map rowsOfFile := by
    rw [List.map_map]
    rfl
  have hsame : List.Forall₂ SameTexts
      (files.flatMap (fun file => successfulRows file.1 file.2))
      (files.flatMap (fun file => successfulRows file.1 (file.2.map AggregateRow.reread))) := by
    induction files with
    | nil => exact .nil
    | cons file rest ih =>
        obtain ⟨hfile, hrest⟩ := List.forall_mem_cons.mp h
        rw [List.flatMap_cons, List.flatMap_cons]
        exact List.rel_append (successfulRows_reread hfile file.1)
          (ih hrest (by rw [List.map_map]; rfl))
  unfold readAggregateRows
  rw [hreread, readFiles_rowsOfFile, readFiles_rowsOfFile, List.flatMap_map]
  generalize files.flatMap (fun file => successfulRows file.1 file.2) = rows at hsame ⊢
  generalize files.flatMap (fun file =>
    successfulRows file.1 (file.2.map AggregateRow.reread)) = rows' at hsame ⊢
  cases hsame with
  | nil => rfl
  | cons hrow hrest =>
      exact congrArg Except.ok (buildPolicyComparison_congr (.cons hrow hrest))

/-- A row with a text in every column. -/
def filledRow (texts : List (String × String)) : AggregateRow :=
  AGGREGATE_COLUMNS.foldr
    (fun column row => row.insert column (some ((texts.lookup column).getD ""))) ∅

theorem lookup_filledRow (texts : List (String × String)) {column : String}
    (h : column ∈ AGGREGATE_COLUMNS) :
    (filledRow texts).lookup column = some (some ((texts.lookup column).getD "")) := by
  unfold filledRow
  generalize AGGREGATE_COLUMNS = columns at h
  induction columns with
  | nil => exact absurd h List.not_mem_nil
  | cons first rest ih =>
      rw [List.foldr_cons]
      by_cases heq : column = first
      · rw [heq, AList.lookup_insert]
      · rw [AList.lookup_insert_ne heq]
        exact ih ((List.mem_cons.mp h).resolve_left heq)

theorem filledRow_filled (texts : List (String × String)) : (filledRow texts).Filled :=
  ⟨⟨_, lookup_filledRow texts status_mem⟩,
    fun _ _ hcolumn => ⟨_, lookup_filledRow texts hcolumn⟩⟩

theorem filledRow_fitsFields {texts : List (String × String)}
    (h : ∀ entry ∈ texts, entry.2.toList.length ≤ fieldSizeLimit) :
    (filledRow texts).FitsFields := by
  unfold AggregateRow.FitsFields AggregateRow.cells
  refine List.forall_mem_map.mpr fun column hcolumn bound hbound => ?_
  rw [AggregateRow.getD, lookup_filledRow texts hcolumn, ← Option.mem_some_iff.mp hbound]
  cases hlookup : texts.lookup column with
  | none => exact Nat.zero_le _
  | some text =>
      obtain ⟨before, after, rfl, -⟩ := List.lookup_eq_some_iff.mp hlookup
      exact h (column, text) (List.mem_append_right before List.mem_cons_self)

/-- The texts of two files: the baseline and a run that failed, and another policy. -/
def sampleColumns : List (String × List (List (String × String))) :=
  [("first.csv",
      [[("status", "success"), ("policy", "always_remote"), ("mean_latency", "100"),
          ("output_dir", "results, \"first\"")],
        [("status", "failed"), ("error", "exit status 1:\r\n\"killed\"")]]),
    ("second.csv", [[("status", "success"), ("policy", "lru"), ("mean_latency", "200")]])]

def sampleFiles : List (String × List AggregateRow) :=
  sampleColumns.map (fun file => (file.1, file.2.map filledRow))

/-- A baseline in one file and a policy in the other, with quotes, commas and line breaks
    among the texts. -/
theorem sampleFiles_comparison :
    ∃ read, sampleFiles.mapM
        (fun file => readAggregateFile file.1 (writeAggregateCsv file.2)) = .ok read ∧
      (readAggregateRows read).map
          (fun rows => buildPolicyComparison profiledText rows "always_remote" (1 / 100)) =
        (readAggregateRows (sampleFiles.map rowsOfFile)).map
          (fun rows => buildPolicyComparison profiledText rows "always_remote" (1 / 100)) := by
  have hfilled : ∀ file ∈ sampleFiles, ∀ row ∈ file.2, row.Filled :=
    List.forall_mem_map.mpr fun file _ =>
      List.forall_mem_map.mpr fun texts _ => filledRow_filled texts
  have hlengths : ∀ file ∈ sampleColumns, ∀ texts ∈ file.2, ∀ entry ∈ texts,
      entry.2.toList.length ≤ fieldSizeLimit := by decide +kernel
  have hfits : ∀ file ∈ sampleFiles, ∀ row ∈ file.2, row.FitsFields :=
    List.forall_mem_map.mpr fun file hfile =>
      List.forall_mem_map.mpr fun texts htexts =>
        filledRow_fitsFields (hlengths file hfile texts htexts)
  exact writtenFiles_comparison profiledText "always_remote" (1 / 100) hfilled hfits

end DmSimulator
