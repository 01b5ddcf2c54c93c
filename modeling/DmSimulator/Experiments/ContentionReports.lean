/-
  DmSimulator.Experiments.ContentionReports

  The totals that the matrix script takes from the contention reports of a run.  Over
  the objects they are the accesses, waits and service times of the whole run; over the
  channels they are the figures that the summary of the run already has.
-/
import Mathlib.Algebra.BigOperators.Ring.Finset
import DmSimulator.Experiments.ChannelSummary
import DmSimulator.Experiments.ReportFiles
import DmSimulator.Experiments.Summaries
import DmSimulator.Runs.Latency
import DmSimulator.Runs.QueueDepths
import DmSimulator.Scripts.ContentionTotals

namespace DmSimulator

open Csv

-- ============================================================================
-- Reading a report
-- ============================================================================

/-- A report is read as one dictionary for each of its records. -/
theorem dictReader_csvText {columns : List String} {rows : List (List Cell)}
    (hcolumns : 1 < columns.length ∧ ∀ column ∈ columns, IsPlainCell (textCell column))
    (hrows : ∀ row ∈ rows, 1 < row.length ∧ ∀ cell ∈ row, IsPlainCell cell)
    (hnames : ∀ column ∈ columns, Fits (some fieldSizeLimit) (textCell column))
    (hfits : ∀ row ∈ rows, ∀ cell ∈ row, Fits (some fieldSizeLimit) cell) :
    dictReader (csvText columns rows) =
      .ok (rows.map (dictRow (columns.map String.toList))) := by
  have hkept : rows.filter (fun row => row ≠ []) = rows := by
    refine List.filter_eq_self.mpr (fun row hrow => decide_eq_true ?_)
    rintro rfl
    exact absurd (hrows [] hrow).1 (by decide)
  unfold dictReader
  rw [readRows_csvText hcolumns hrows
    (List.forall_mem_cons.mpr ⟨List.forall_mem_map.mpr hnames, hfits⟩)]
  show Except.ok ((rows.filter (fun row => row ≠ [])).map _) = _
  rw [hkept]
  rfl

theorem ObjectContentionStats.plain_cells (stats : ObjectContentionStats) :
    1 < stats.cells.length ∧ ∀ cell ∈ stats.cells, IsPlainCell cell := by
  refine ⟨show 1 < 12 by decide, ?_⟩
  simp only [cells, List.forall_mem_cons]
  exact ⟨plain_natCell _, plain_natCell _, plain_natCell _, plain_natCell _, plain_natCell _,
    plain_natCell _, plain_natCell _, plain_natCell _, plain_natCell _, plain_natCell _,
    plain_natCell _, plain_realCell _, fun cell hcell => absurd hcell List.not_mem_nil⟩

theorem ChannelContentionStats.plain_cells (stats : ChannelContentionStats) :
    1 < stats.cells.length ∧ ∀ cell ∈ stats.cells, IsPlainCell cell := by
  refine ⟨show 1 < 10 by decide, ?_⟩
  simp only [cells, List.forall_mem_cons]
  exact ⟨plain_natCell _, plain_natCell _, plain_natCell _, plain_natCell _, plain_natCell _,
    plain_natCell _, plain_natCell _, plain_natCell _, plain_natCell _, plain_realCell _,
    fun cell hcell => absurd hcell List.not_mem_nil⟩

-- ============================================================================
-- Figures of a row
-- ============================================================================

/-- The figures of a row fit the 64 bits that the simulator has for them. -/
structure FitsWord (numbers : List Nat) (average : Rat) : Prop where
  numbers : ∀ n ∈ numbers, n < 2 ^ 64
  average : |average| ≤ 2 ^ 64

instance (numbers : List Nat) (average : Rat) : Decidable (FitsWord numbers average) :=
  decidable_of_iff ((∀ n ∈ numbers, n < 2 ^ 64) ∧ |average| ≤ 2 ^ 64)
    ⟨fun h => ⟨h.1, h.2⟩, fun h => ⟨h.numbers, h.average⟩⟩

theorem length_toDigits_le {n : Nat} (h : n ≤ 2 ^ 64) : (Nat.toDigits 10 n).length ≤ 20 :=
  (Nat.length_toDigits_le_iff (by decide) (by decide)).mpr (h.trans_lt (by norm_num))

theorem length_lastDigits (count n : Nat) : (lastDigits count n).length = count := by
  induction count generalizing n with
  | zero => rfl
  | succ count ih => rw [lastDigits, List.length_append, ih, List.length_singleton]

theorem fits_natCell {n : Nat} (h : n < 2 ^ 64) : Fits (some fieldSizeLimit) (natCell n) := by
  have hdigits : natCell n = Nat.toDigits 10 n := Nat.toList_repr
  rintro bound ⟨⟩
  rw [hdigits]
  exact (length_toDigits_le h.le).trans (by decide)

theorem fits_realCell {x : Rat} (h : |x| ≤ 2 ^ 64) : Fits (some fieldSizeLimit) (realCell x) := by
  rintro bound ⟨⟩
  have hscaled : (Decimal.roundHalfEven (|x| * 10 ^ 6)).toNat ≤ 2 ^ 64 * 10 ^ 6 := by
    rw [Int.toNat_le]
    refine Decimal.roundHalfEven_le ?_
    exact (mul_le_mul_of_nonneg_right h (by norm_num)).trans_eq (by norm_num)
  have hwhole := length_toDigits_le (Nat.div_le_of_le_mul (hscaled.trans_eq (Nat.mul_comm _ _)))
  have hsign : (if x < 0 then ['-'] else []).length ≤ 1 := by
    split <;> decide
  simp only [realCell, fixedText, List.length_append, List.length_cons, length_lastDigits]
  show _ ≤ 131072
  omega

/-- The cells of a row whose figures fit. -/
theorem fits_cells {numbers : List Nat} {average : Rat} (h : FitsWord numbers average) :
    ∀ cell ∈ numbers.map natCell ++ [realCell average], Fits (some fieldSizeLimit) cell :=
  List.forall_mem_append.mpr ⟨List.forall_mem_map.mpr fun n hn => fits_natCell (h.numbers n hn),
    List.forall_mem_singleton.mpr (fits_realCell h.average)⟩

/-- The figures of a row of the object report. -/
def ObjectContentionStats.FitsWord (row : ObjectContentionStats) : Prop :=
  DmSimulator.FitsWord
    [row.epochId, row.objectId, row.memoryChannelId, row.remoteAccesses, row.distinctRequesters,
      row.bytesServed, row.totalRemoteServiceTime, row.totalQueueWait, row.maxQueueWait,
      row.queueWaitSamples, row.maxObservedQueueDepth]
    row.averageQueueWait

instance (row : ObjectContentionStats) : Decidable row.FitsWord :=
  inferInstanceAs (Decidable (FitsWord _ _))

/-- The figures of a row of the channel report. -/
def ChannelContentionStats.FitsWord (row : ChannelContentionStats) : Prop :=
  DmSimulator.FitsWord
    [row.epochId, row.memoryChannelId, row.remoteAccesses, row.bytesServed,
      row.totalRemoteServiceTime, row.totalQueueWait, row.maxQueueWait, row.queueWaitSamples,
      row.maxQueueDepth]
    row.averageQueueWait

instance (row : ChannelContentionStats) : Decidable row.FitsWord :=
  inferInstanceAs (Decidable (FitsWord _ _))

theorem ObjectContentionStats.FitsWord.cells {row : ObjectContentionStats} (h : row.FitsWord) :
    ∀ cell ∈ row.cells, Fits (some fieldSizeLimit) cell := fits_cells h

theorem ChannelContentionStats.FitsWord.cells {row : ChannelContentionStats} (h : row.FitsWord) :
    ∀ cell ∈ row.cells, Fits (some fieldSizeLimit) cell := fits_cells h

-- ============================================================================
-- Sums over the rows
-- ============================================================================

section Sums

variable {py : Conversions}

/-- The totals of the object rows. -/
def objectTotals (rows : List ObjectContentionStats) : ContentionTotals where
  totalRemoteAccesses := (rows.map ObjectContentionStats.remoteAccesses).sum
  totalQueueWait := (rows.map ObjectContentionStats.totalQueueWait).sum
  totalRemoteServiceTime := (rows.map ObjectContentionStats.totalRemoteServiceTime).sum
  maxObservedQueueDepth := largest (rows.map ObjectContentionStats.maxObservedQueueDepth)

theorem objectTotals_nil : objectTotals [] = {} := rfl

theorem addRow_objectTotals (hpy : py.ReadsNumbers) (rows : List ObjectContentionStats)
    {row : ObjectContentionStats} (hfits : row.FitsWord) :
    (objectTotals rows).addRow py
        (dictRow (contentionByObjectColumns.map String.toList) row.cells) =
      .ok (objectTotals (rows ++ [row])) := by
  have hnodup : contentionByObjectColumns.Nodup := by decide
  have hlength : contentionByObjectColumns.length = row.cells.length := rfl
  have haccesses := intItem_dictRow hpy (hfits.numbers row.remoteAccesses (by simp)) hnodup hlength
    (show contentionByObjectColumns[3]? = some "remote_accesses" from rfl)
    (show row.cells[3]? = some (natCell row.remoteAccesses) from rfl)
  have hwait := intItem_dictRow hpy (hfits.numbers row.totalQueueWait (by simp)) hnodup hlength
    (show contentionByObjectColumns[7]? = some "total_queue_wait" from rfl)
    (show row.cells[7]? = some (natCell row.totalQueueWait) from rfl)
  have hservice := intItem_dictRow hpy (hfits.numbers row.totalRemoteServiceTime (by simp)) hnodup
    hlength (show contentionByObjectColumns[6]? = some "total_remote_service_time" from rfl)
    (show row.cells[6]? = some (natCell row.totalRemoteServiceTime) from rfl)
  have hdepth := intItem_dictRow hpy (hfits.numbers row.maxObservedQueueDepth (by simp)) hnodup
    hlength (show contentionByObjectColumns[10]? = some "max_observed_queue_depth" from rfl)
    (show row.cells[10]? = some (natCell row.maxObservedQueueDepth) from rfl)
  unfold ContentionTotals.addRow
  rw [haccesses, hwait, hservice, hdepth]
  simp only [objectTotals, List.map_append, List.map_singleton, List.sum_append, List.sum_singleton,
    largest_snoc]
  push_cast
  rfl

theorem foldlM_objectTotals (hpy : py.ReadsNumbers) (before : List ObjectContentionStats)
    {rows : List ObjectContentionStats} (hfits : ∀ row ∈ rows, row.FitsWord) :
    (rows.map (fun row => dictRow (contentionByObjectColumns.map String.toList) row.cells)).foldlM
        (ContentionTotals.addRow py) (objectTotals before) =
      .ok (objectTotals (before ++ rows)) := by
  induction rows generalizing before with
  | nil =>
      rw [List.append_nil]
      rfl
  | cons row rest ih =>
      obtain ⟨hrow, hrest⟩ := List.forall_mem_cons.mp hfits
      rw [List.map_cons, List.foldlM_cons, addRow_objectTotals hpy before hrow]
      show List.foldlM _ _ _ = _
      rw [ih _ hrest, List.append_assoc]
      rfl

theorem aggregateContention_report (hpy : py.ReadsNumbers) {P : CachePolicy} (s : Simulator P)
    (hfits : ∀ row ∈ s.shared.stats.allContentionStats, row.FitsWord) :
    aggregateContention py (some s.writeContentionByObjectCsv) =
      .ok (some (objectTotals s.shared.stats.allContentionStats)) := by
  have hread : dictReader s.writeContentionByObjectCsv =
      .ok ((s.shared.stats.allContentionStats.map ObjectContentionStats.cells).map
        (dictRow (contentionByObjectColumns.map String.toList))) := by
    refine dictReader_csvText (by decide) (List.forall_mem_map.mpr ?_) (by decide)
      (List.forall_mem_map.mpr fun row hrow => (hfits row hrow).cells)
    exact fun row _ => row.plain_cells
  have hsum := foldlM_objectTotals hpy [] hfits
  rw [objectTotals_nil, List.nil_append] at hsum
  simp only [List.map_map, Function.comp_def] at hread
  exact aggregateContention_eq hread hsum

/-- The totals of the channel rows, and the list of their waits. -/
def channelTotals (rows : List ChannelContentionStats) : ChannelTotals × List Rat :=
  ({ peakMemoryChannelQueueDepth := largest (rows.map ChannelContentionStats.maxQueueDepth)
     maxChannelTotalQueueWait := (maxChannelTotalQueueWait rows : Nat) },
    rows.map (fun row => (row.totalQueueWait : Rat)))

theorem channelTotals_nil : channelTotals [] = ({}, []) := rfl

theorem addRow_channelTotals (hpy : py.ReadsNumbers) (rows : List ChannelContentionStats)
    {row : ChannelContentionStats} (hfits : row.FitsWord) (hwait : row.totalQueueWait ≤ 2 ^ 53) :
    ChannelTotals.addRow py (channelTotals rows)
        (dictRow (contentionByChannelColumns.map String.toList) row.cells) =
      .ok (channelTotals (rows ++ [row])) := by
  have hnodup : contentionByChannelColumns.Nodup := by decide
  have hlength : contentionByChannelColumns.length = row.cells.length := rfl
  have htotal := floatItem_dictRow hpy hwait hnodup hlength
    (show contentionByChannelColumns[5]? = some "total_queue_wait" from rfl)
    (show row.cells[5]? = some (natCell row.totalQueueWait) from rfl)
  have hdepth := intItem_dictRow hpy (hfits.numbers row.maxQueueDepth (by simp)) hnodup hlength
    (show contentionByChannelColumns[8]? = some "max_queue_depth" from rfl)
    (show row.cells[8]? = some (natCell row.maxQueueDepth) from rfl)
  have hmax : maxChannelTotalQueueWait (rows ++ [row]) =
      max (maxChannelTotalQueueWait rows) row.totalQueueWait := List.foldl_append
  unfold ChannelTotals.addRow
  rw [htotal, hdepth]
  simp only [channelTotals, List.map_append, List.map_singleton, largest_snoc, hmax]
  push_cast
  rfl

theorem foldlM_channelTotals (hpy : py.ReadsNumbers) (before : List ChannelContentionStats)
    {rows : List ChannelContentionStats} (hfits : ∀ row ∈ rows, row.FitsWord)
    (hwaits : ∀ row ∈ rows, row.totalQueueWait ≤ 2 ^ 53) :
    (rows.map (fun row => dictRow (contentionByChannelColumns.map String.toList) row.cells)).foldlM
        (ChannelTotals.addRow py) (channelTotals before) =
      .ok (channelTotals (before ++ rows)) := by
  induction rows generalizing before with
  | nil =>
      rw [List.append_nil]
      rfl
  | cons row rest ih =>
      obtain ⟨hrow, hrest⟩ := List.forall_mem_cons.mp hwaits
      obtain ⟨hrowFits, hrestFits⟩ := List.forall_mem_cons.mp hfits
      rw [List.map_cons, List.foldlM_cons, addRow_channelTotals hpy before hrowFits hrow]
      show List.foldlM _ _ _ = _
      rw [ih _ hrestFits hrest, List.append_assoc]
      rfl

theorem foldl_max_cast (rows : List ChannelContentionStats) (start : Nat) :
    (rows.map (fun row => (row.totalQueueWait : Rat))).foldl max (start : Rat) =
      ((rows.foldl (fun maximum row => max maximum row.totalQueueWait) start : Nat) : Rat) := by
  induction rows generalizing start with
  | nil => rfl
  | cons row rest ih =>
      rw [List.map_cons, List.foldl_cons, List.foldl_cons, ← ih, Nat.cast_max]

/-- The script and the summary take the same imbalance. -/
theorem waitImbalance_rows (rows : List ChannelContentionStats) :
    waitImbalance (rows.map (fun row => (row.totalQueueWait : Rat))) =
      channelQueueImbalance .exact rows := by
  have hsum : (rows.map (fun row => (row.totalQueueWait : Rat))).sum = (rowsWait rows : Rat) := by
    unfold rowsWait
    rw [Nat.cast_list_sum, List.map_map]
    rfl
  cases rows with
  | nil => rfl
  | cons first rest =>
      have hmax := foldl_max_cast rest first.totalQueueWait
      have hfirst : rest.foldl (fun maximum row => max maximum row.totalQueueWait)
          first.totalQueueWait = maxChannelTotalQueueWait (first :: rest) := by
        unfold maxChannelTotalQueueWait
        rw [List.foldl_cons, Nat.zero_max]
      rw [hfirst] at hmax
      by_cases hwait : rowsWait (first :: rest) = 0
      · unfold channelQueueImbalance
        simp only [channelWaitTotal_exact, hwait, if_true, ite_self]
        rw [hwait] at hsum
        exact if_neg (by rw [hsum]; exact lt_irrefl _)
      · rw [channelQueueImbalance_of_wait hwait, ← hmax, ← hsum, ← List.length_map]
        refine if_pos ?_
        rw [hsum]
        exact Nat.cast_pos.mpr (Nat.pos_of_ne_zero hwait)

theorem aggregateChannelContention_report (hpy : py.ReadsNumbers) {P : CachePolicy}
    (s : Simulator P) (hfits : ∀ row ∈ s.shared.stats.allChannelContentionStats, row.FitsWord)
    (hwaits : ∀ row ∈ s.shared.stats.allChannelContentionStats, row.totalQueueWait ≤ 2 ^ 53) :
    aggregateChannelContention py (some s.writeContentionByChannelCsv) =
      .ok (some { (channelTotals s.shared.stats.allChannelContentionStats).1 with
        channelQueueImbalance :=
          channelQueueImbalance .exact s.shared.stats.allChannelContentionStats }) := by
  have hread : dictReader s.writeContentionByChannelCsv =
      .ok ((s.shared.stats.allChannelContentionStats.map ChannelContentionStats.cells).map
        (dictRow (contentionByChannelColumns.map String.toList))) := by
    refine dictReader_csvText (by decide) (List.forall_mem_map.mpr ?_) (by decide)
      (List.forall_mem_map.mpr fun row hrow => (hfits row hrow).cells)
    exact fun row _ => row.plain_cells
  have hsum := foldlM_channelTotals hpy [] hfits hwaits
  rw [channelTotals_nil, List.nil_append] at hsum
  simp only [List.map_map, Function.comp_def] at hread
  rw [← waitImbalance_rows]
  exact aggregateChannelContention_eq hread hsum

end Sums

-- ============================================================================
-- Objects and channels
-- ============================================================================

namespace Stats

variable {s : Stats} {epochId : EpochId} {channelCount : Nat} {nodeIds : List NodeId}

theorem rowsOnChannel_subset (s : Stats) (channelCount : Nat) (epochId : EpochId)
    (channelId : MemoryChannelId) :
    s.rowsOnChannel channelCount epochId channelId ⊆ s.allContentionStats := by
  intro row hrow
  rw [(isSortOf_allContentionStats s).perm.mem_iff, mem_contentionRows]
  have hepoch := (s.contentionByEpoch_perm epochId).subset (List.mem_filter.mp hrow).1
  obtain ⟨bucket, hbucket, rfl⟩ := List.mem_map.mp hepoch
  obtain ⟨objectId, hlookup⟩ := UnorderedMap.mem_values.mp hbucket
  exact ⟨epochId, objectId, bucket, hlookup, rfl⟩

/-- The row of an object is one of its epoch's on some channel. -/
theorem exists_rowsOnChannel (channelCount : Nat) {row : ObjectContentionStats}
    (hrow : row ∈ s.allContentionStats) :
    ∃ epochId channelId, row ∈ s.rowsOnChannel channelCount epochId channelId := by
  rw [(isSortOf_allContentionStats s).perm.mem_iff, mem_contentionRows] at hrow
  obtain ⟨epochId, objectId, bucket, hlookup, rfl⟩ := hrow
  refine ⟨epochId, _, List.mem_filter.mpr ⟨?_, decide_eq_true rfl⟩⟩
  apply (s.contentionByEpoch_perm epochId).mem_iff.mpr
  exact List.mem_map_of_mem (UnorderedMap.mem_values.mpr ⟨objectId, hlookup⟩)

/-- A channel row is that of its epoch and channel. -/
theorem exists_channelRow {row : ChannelContentionStats}
    (hrow : row ∈ s.allChannelContentionStats) :
    ∃ epochId channelId, row = s.channelRow epochId channelId := by
  rw [(isSortOf_allChannelContentionStats s).perm.mem_iff, mem_channelRows] at hrow
  obtain ⟨epochId, channelId, bucket, hlookup, rfl⟩ := hrow
  refine ⟨epochId, channelId, ?_⟩
  rw [channelRow_eq]
  unfold channelBucketOf
  rw [UnorderedMap.getD_of_lookup hlookup]

/-- A channel without traffic has no row, and all its figures are zero. -/
theorem channelRow_mem_or (s : Stats) (epochId : EpochId) (channelId : MemoryChannelId) :
    s.channelRow epochId channelId ∈ s.allChannelContentionStats ∨
      s.channelRow epochId channelId = {} := by
  rw [channelRow_eq]
  unfold channelBucketOf UnorderedMap.getD
  cases hlookup : (s.channelContentionByEpoch_.getD epochId ∅).lookup channelId with
  | none =>
      right
      unfold UnorderedMap.getD at hlookup
      rw [hlookup]
      rfl
  | some bucket =>
      left
      rw [(isSortOf_allChannelContentionStats s).perm.mem_iff, mem_channelRows]
      refine ⟨epochId, channelId, bucket, hlookup, ?_⟩
      unfold UnorderedMap.getD at hlookup
      rw [hlookup]
      rfl

/-- The deepest queue that an object met is the deepest that a channel had. -/
theorem Consistent.largest_depth (h : s.Consistent nodeIds channelCount) :
    largest (s.allContentionStats.map ObjectContentionStats.maxObservedQueueDepth) =
      largest (s.allChannelContentionStats.map ChannelContentionStats.maxQueueDepth) := by
  apply Nat.le_antisymm
  · rw [largest_le_iff, List.forall_mem_map]
    intro row hrow
    obtain ⟨epochId, channelId, hon⟩ := exists_rowsOnChannel channelCount hrow
    have hdepth : row.maxObservedQueueDepth ≤ (s.channelRow epochId channelId).maxQueueDepth := by
      rw [(h.channelConserved epochId channelId).maxQueueDepth]
      exact le_largest (List.mem_map_of_mem hon)
    apply hdepth.trans
    rcases s.channelRow_mem_or epochId channelId with hmem | hnone
    · exact le_largest (List.mem_map_of_mem hmem)
    · rw [hnone]
      exact Nat.zero_le _
  · rw [largest_le_iff, List.forall_mem_map]
    intro row hrow
    obtain ⟨epochId, channelId, rfl⟩ := exists_channelRow hrow
    rw [(h.channelConserved epochId channelId).maxQueueDepth]
    change largest _ ≤ _
    rw [largest_le_iff, List.forall_mem_map]
    intro object hobject
    exact le_largest (List.mem_map_of_mem (rowsOnChannel_subset _ _ _ _ hobject))

/-- The rows of an epoch are among the rows of the run. -/
theorem contentionByEpoch_subperm (s : Stats) (epochId : EpochId) :
    (s.contentionByEpoch epochId).Subperm s.allContentionStats := by
  refine (s.contentionByEpoch_perm epochId).subperm.trans ?_
  apply List.Subperm.trans _ (isSortOf_allContentionStats s).perm.symm.subperm
  unfold contentionRows UnorderedMap.getD
  cases hepoch : s.contentionByEpoch_.lookup epochId with
  | none => exact List.nil_subperm
  | some objects =>
      apply List.Sublist.subperm
      rw [List.flatMap]
      apply List.sublist_flatten_of_mem
      exact List.mem_map_of_mem (UnorderedMap.mem_values.mpr ⟨epochId, hepoch⟩)

/-- No channel row waited longer than the whole run. -/
theorem Consistent.totalQueueWait_le (h : s.Consistent nodeIds channelCount)
    {row : ChannelContentionStats} (hrow : row ∈ s.allChannelContentionStats) :
    row.totalQueueWait ≤ s.totalMemoryWait := by
  obtain ⟨epochId, channelId, rfl⟩ := exists_channelRow hrow
  have hsum : (s.allContentionStats.map ObjectContentionStats.totalQueueWait).sum =
      s.totalMemoryWait := by
    rw [← overAll_eq (fun _ => rfl)]
    exact h.queueWait
  rw [(h.channelConserved epochId channelId).totalQueueWait, ← hsum]
  have hrows : (s.rowsOnChannel channelCount epochId channelId).Subperm s.allContentionStats :=
    List.filter_sublist.subperm.trans (s.contentionByEpoch_subperm epochId)
  obtain ⟨rows, hperm, hsublist⟩ := hrows
  rw [← (hperm.map _).sum_eq]
  exact (hsublist.map _).sum_le_sum (fun _ _ => Nat.zero_le _)

end Stats

-- ============================================================================
-- Finished runs
-- ============================================================================

namespace Simulator

variable {P : CachePolicy}

def readDigits (text : String) : Option Nat :=
  if text.toList ≠ [] ∧ text.toList.all Char.isDigit then
    some (Nat.ofDigitChars 10 text.toList 0)
  else none

/-- The conversions, of digits only. -/
def digitConversions : Conversions where
  int := fun text => (readDigits text).map Nat.cast
  float := fun text => (readDigits text).map (fun n => some (n : Rat))

theorem readsNumbers_digits : digitConversions.ReadsNumbers := by
  have hread : ∀ n : Nat, readDigits (toString n) = some n := by
    intro n
    have hdigits : (toString n).toList = Nat.toDigits 10 n := Nat.toList_repr
    have hall := List.all_eq_true.mpr (Decimal.isDigit_toDigits n)
    unfold readDigits
    rw [hdigits, if_pos ⟨Decimal.toDigits_ne_nil n, hall⟩,
      Nat.ofDigitChars_toDigits (by decide) (by decide)]
  constructor
  · intro n _
    unfold digitConversions
    simp only [hread]
    rfl
  · intro n _
    unfold digitConversions
    simp only [hread]
    rfl

/-- What the totals of the object report say about the run. -/
structure TotalsOfRun (s : Simulator P) (totals : ContentionTotals) : Prop where
  accesses : totals.totalRemoteAccesses =
    (s.shared.responses.filter (fun p => p.servedFromTier = .memory)).length
  misses : totals.totalRemoteAccesses = s.shared.stats.localCacheMisses
  queueWait : totals.totalQueueWait = s.shared.stats.totalMemoryWait
  depth : totals.maxObservedQueueDepth = s.shared.stats.peakMemoryChannelQueueDepth
  latency : (s.shared.stats.totalLatency : Int) =
    s.shared.stats.localCacheHits * s.config.localCache.hitLatency +
      totals.totalRemoteAccesses * (2 * s.config.oneWayLinkLatency) + totals.totalQueueWait +
      totals.totalRemoteServiceTime

/-- The peak of the channels is the deepest row of the object report. -/
theorem peakDepth_of_reachable {config : SimulationConfig} (hprepared : Prepared config)
    {generatedWorkload : Option GeneratedWorkload} {t : Simulator P}
    (h : Reachable .exact (ofConfig P config generatedWorkload) t) :
    t.shared.stats.peakMemoryChannelQueueDepth =
      largest (t.shared.stats.allContentionStats.map
        ObjectContentionStats.maxObservedQueueDepth) := by
  obtain ⟨trace, htraced⟩ := Run.Reaches.exists_traced (enqueuesAt .exact) h
  have hpeaks := ((depthsInv_init config generatedWorkload).of_traced htraced).peaks
  unfold Stats.queuePeaks at hpeaks
  rw [Prod.mk.injEq, Prod.mk.injEq] at hpeaks
  obtain ⟨-, hchannel, hdeepest⟩ := hpeaks
  rw [(telemetry_of_reachable hprepared h).consistent.largest_depth,
    ← Stats.deepestBucket_eq_rows, hdeepest]
  exact hchannel

/-- The matrix script takes from the object report of a finished run, whose figures fit
    64 bits, the accesses, the waits and the service times that the latencies of the run
    are made of. -/
theorem run_objectTotals {rng : RandomSource} {config : SimulationConfig}
    {s : Simulator (makeCachePolicy .exact config.localCache)}
    (h : construct .exact rng config = .ok s) {py : Conversions} (hpy : py.ReadsNumbers) :
    ∀ final, RunsTo .exact s final →
      (∀ row ∈ final.shared.stats.allContentionStats, row.FitsWord) → ∃ totals,
        aggregateContention py (some final.writeContentionByObjectCsv) = .ok (some totals) ∧
          final.TotalsOfRun totals := by
  obtain ⟨prepared, generatedWorkload, rfl, hprepared⟩ := construct_spec h
  intro final hfinal hfits
  obtain ⟨⟨phase, base, hrun⟩, -⟩ := turnInv_of_reachable hprepared hfinal.reaches
  have ht := telemetry_of_reachable hprepared hfinal.reaches
  have hlog := logOrdered_of_reachable hprepared hfinal.reaches
  have hnil : final.view.pending = 0 := halted_iff.mp hfinal.halted
  have hconserved := hrun.telemetryConserved ht hnil
  have hcount := UnorderedMap.foldr_map_filter (· + ·)
    (fun p : Response => decide (p.servedFromTier = .memory)) (fun _ => 1) final.shared.responses
  simp only [decide_eq_true_eq] at hcount
  have hserved : (final.shared.responses.filter (fun p => p.servedFromTier = .memory)).length =
      final.shared.stats.localCacheMisses := by
    rw [hrun.misses_of_drained ht hnil, List.sum, ← hcount, List.map_const', ← List.sum,
      List.sum_replicate, smul_eq_mul, Nat.mul_one]
  have hlatency := hrun.totalLatency_eq hlog ht hnil
  refine ⟨_, aggregateContention_report hpy final hfits, ?_, ?_, ?_, ?_, ?_⟩
  · rw [hserved]
    exact congrArg Nat.cast hconserved.remoteAccesses
  · exact congrArg Nat.cast hconserved.remoteAccesses
  · exact congrArg Nat.cast hconserved.totalQueueWait
  · exact congrArg Nat.cast (peakDepth_of_reachable hprepared hfinal.reaches).symm
  · rw [hlatency]
    unfold objectTotals
    rw [hconserved.remoteAccesses, hconserved.totalQueueWait]
    push_cast
    ring

theorem contendedConfig_objectTotals :
    ∃ s final, construct .exact lowestSource contendedConfig = .ok s ∧ RunsTo .exact s final ∧
      (∀ row ∈ final.shared.stats.allContentionStats, row.FitsWord) ∧ ∃ totals,
        aggregateContention digitConversions (some final.writeContentionByObjectCsv) =
            .ok (some totals) ∧
          final.TotalsOfRun totals := by
  obtain ⟨s, final, hs, hfinal, hcheck⟩ := runsTo_of_endsWith
    (show endsWith .exact lowestSource contendedConfig 60 (fun final =>
      final.shared.stats.allContentionStats.all fun row => row.FitsWord) = true by decide +kernel)
  have hfits : ∀ row ∈ final.shared.stats.allContentionStats, row.FitsWord :=
    fun row hrow => of_decide_eq_true (List.all_eq_true.mp hcheck row hrow)
  exact ⟨s, final, hs, hfinal, hfits,
    run_objectTotals hs readsNumbers_digits final hfinal hfits⟩

/-- Over the channels the script takes the figures that the summary has, as long as the
    figures fit 64 bits and the waits of the run fit a float. -/
theorem run_channelTotals {rng : RandomSource} {config : SimulationConfig}
    {s : Simulator (makeCachePolicy .exact config.localCache)}
    (h : construct .exact rng config = .ok s) {py : Conversions} (hpy : py.ReadsNumbers) :
    ∀ final, RunsTo .exact s final →
      (∀ row ∈ final.shared.stats.allChannelContentionStats, row.FitsWord) →
      final.shared.stats.totalMemoryWait ≤ 2 ^ 53 →
      ∀ experimentName, ∃ summary, final.summarizeMetrics .exact experimentName = .ok summary ∧
        aggregateChannelContention py (some final.writeContentionByChannelCsv) =
          .ok (some {
            peakMemoryChannelQueueDepth := (summary.memoryPeakChannelQueueDepth : Nat)
            maxChannelTotalQueueWait := (summary.maxChannelTotalQueueWait : Nat)
            channelQueueImbalance := summary.channelQueueImbalance }) := by
  intro final hfinal hfits hwait experimentName
  obtain ⟨summary, hsummary, hsummarizes⟩ := exists_summary h hfinal experimentName
  obtain ⟨prepared, generatedWorkload, rfl, hprepared⟩ := construct_spec h
  have hconsistent := (telemetry_of_reachable hprepared hfinal.reaches).consistent
  have hpeak := peakDepth_of_reachable hprepared hfinal.reaches
  rw [hconsistent.largest_depth] at hpeak
  refine ⟨summary, hsummary, ?_⟩
  rw [aggregateChannelContention_report hpy final hfits
    (fun row hrow => (hconsistent.totalQueueWait_le hrow).trans hwait),
    hsummarizes.peakChannelQueueDepth, hsummarizes.maxChannelTotalQueueWait,
    hsummarizes.channelQueueImbalance, hpeak]
  rfl

theorem contendedConfig_channelTotals :
    ∃ s final, construct .exact lowestSource contendedConfig = .ok s ∧ RunsTo .exact s final ∧
      (∀ row ∈ final.shared.stats.allChannelContentionStats, row.FitsWord) ∧
      final.shared.stats.totalMemoryWait ≤ 2 ^ 53 ∧
      ∀ experimentName, ∃ summary, final.summarizeMetrics .exact experimentName = .ok summary ∧
        aggregateChannelContention digitConversions (some final.writeContentionByChannelCsv) =
          .ok (some {
            peakMemoryChannelQueueDepth := (summary.memoryPeakChannelQueueDepth : Nat)
            maxChannelTotalQueueWait := (summary.maxChannelTotalQueueWait : Nat)
            channelQueueImbalance := summary.channelQueueImbalance }) := by
  obtain ⟨s, final, hs, hfinal, hcheck⟩ := runsTo_of_endsWith
    (show endsWith .exact lowestSource contendedConfig 60 (fun final =>
      (final.shared.stats.allChannelContentionStats.all fun row => row.FitsWord) &&
        final.shared.stats.totalMemoryWait ≤ 2 ^ 53) = true by decide +kernel)
  rw [Bool.and_eq_true] at hcheck
  have hfits : ∀ row ∈ final.shared.stats.allChannelContentionStats, row.FitsWord :=
    fun row hrow => of_decide_eq_true (List.all_eq_true.mp hcheck.1 row hrow)
  have hwait := of_decide_eq_true hcheck.2
  exact ⟨s, final, hs, hfinal, hfits, hwait,
    run_channelTotals hs readsNumbers_digits final hfinal hfits hwait⟩

end Simulator

end DmSimulator
