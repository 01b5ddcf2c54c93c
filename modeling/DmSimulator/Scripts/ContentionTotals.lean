/-
  DmSimulator.Scripts.ContentionTotals

  The contention reports as the matrix script sums them up (`aggregate_contention` and
  `aggregate_channel_contention` of `scripts/run_matrix.py`): `csv.DictReader` over the
  text of the file, and a running total over its rows.

  A file that does not exist is `none`, and gives blanks.  A float that is not finite is
  refused; no report has one.
-/
import DmSimulator.Lib.Csv
import DmSimulator.Scripts.PolicyComparison
import DmSimulator.Scripts.SweepLists

namespace DmSimulator

open Csv

-- ============================================================================
-- Dictionaries of a file
-- ============================================================================

/-- The dictionary of a row: a column that the row does not reach has no value, and
    cells past the last column have no name. -/
def dictRow (columns row : List Cell) : AggregateRow :=
  let named := (columns.zip row).foldl
    (fun dict entry => dict.insert (String.ofList entry.1) (some (String.ofList entry.2))) ∅
  (columns.drop row.length).foldl (fun dict column => dict.insert (String.ofList column) none)
    named

/-- `csv.field_size_limit()`, which the scripts leave as it is. -/
def fieldSizeLimit : Nat := 131072

/-- `csv.DictReader`: the first row names the columns, and empty rows are skipped. -/
def dictReader (text : List Char) : Except String (List AggregateRow) := do
  match ← readRows (some fieldSizeLimit) text with
  | [] => return []
  | columns :: rows => return (rows.filter (fun row => row ≠ [])).map (dictRow columns)

/-- `row[column]`. -/
def AggregateRow.item (row : AggregateRow) (column : String) : Except String CsvCell :=
  match row.lookup column with
  | some cell => return cell
  | none => throw s!"KeyError: '{column}'"

/-- `int(row[column])`. -/
def intItem (py : Conversions) (row : AggregateRow) (column : String) : Except String Int := do
  match ← row.item column with
  | none => throw "TypeError: int() argument must not be 'NoneType'"
  | some text =>
      match py.int text with
      | some value => return value
      | none => throw s!"ValueError: invalid literal for int() with base 10: '{text}'"

/-- `float(row[column])`. -/
def floatItem (py : Conversions) (row : AggregateRow) (column : String) : Except String Rat := do
  match ← row.item column with
  | none => throw "TypeError: float() argument must not be 'NoneType'"
  | some text =>
      match py.float text with
      | some (some value) => return value
      | some none => throw s!"not finite: '{text}'"
      | none => throw s!"ValueError: could not convert string to float: '{text}'"

-- ============================================================================
-- Totals of the objects
-- ============================================================================

structure ContentionTotals where
  totalRemoteAccesses : Int := 0
  totalQueueWait : Int := 0
  totalRemoteServiceTime : Int := 0
  maxObservedQueueDepth : Int := 0
deriving DecidableEq

/-- The loop body of `aggregate_contention`. -/
def ContentionTotals.addRow (py : Conversions) (totals : ContentionTotals) (row : AggregateRow) :
    Except String ContentionTotals := do
  let accesses ← intItem py row "remote_accesses"
  let queueWait ← intItem py row "total_queue_wait"
  let serviceTime ← intItem py row "total_remote_service_time"
  let depth ← intItem py row "max_observed_queue_depth"
  return {
    totalRemoteAccesses := totals.totalRemoteAccesses + accesses
    totalQueueWait := totals.totalQueueWait + queueWait
    totalRemoteServiceTime := totals.totalRemoteServiceTime + serviceTime
    maxObservedQueueDepth := max totals.maxObservedQueueDepth depth }

def aggregateContention (py : Conversions) (file : Option (List Char)) :
    Except String (Option ContentionTotals) := do
  match file with
  | none => return none
  | some text =>
      let rows ← dictReader text
      let totals ← rows.foldlM (ContentionTotals.addRow py) {}
      return some totals

theorem aggregateContention_eq {py : Conversions} {text : List Char} {rows : List AggregateRow}
    {totals : ContentionTotals} (hread : dictReader text = .ok rows)
    (hsum : rows.foldlM (ContentionTotals.addRow py) {} = .ok totals) :
    aggregateContention py (some text) = .ok (some totals) := by
  unfold aggregateContention
  simp only [hread, bind, Except.bind, hsum]
  rfl

-- ============================================================================
-- Totals of the channels
-- ============================================================================

structure ChannelTotals where
  peakMemoryChannelQueueDepth : Int := 0
  maxChannelTotalQueueWait : Rat := 0
  channelQueueImbalance : Rat := 0
deriving DecidableEq

/-- The loop body of `aggregate_channel_contention`, with the list `channel_waits`. -/
def ChannelTotals.addRow (py : Conversions) (totals : ChannelTotals × List Rat)
    (row : AggregateRow) : Except String (ChannelTotals × List Rat) := do
  let totalWait ← floatItem py row "total_queue_wait"
  let depth ← intItem py row "max_queue_depth"
  return ({ totals.1 with
      peakMemoryChannelQueueDepth := max totals.1.peakMemoryChannelQueueDepth depth
      maxChannelTotalQueueWait := max totals.1.maxChannelTotalQueueWait totalWait },
    totals.2 ++ [totalWait])

/-- The largest wait over the average one. -/
def waitImbalance (waits : List Rat) : Rat :=
  match waits with
  | [] => 0
  | first :: rest =>
      if waits.sum > 0 then rest.foldl max first / (waits.sum / (waits.length : Rat)) else 0

def aggregateChannelContention (py : Conversions) (file : Option (List Char)) :
    Except String (Option ChannelTotals) := do
  match file with
  | none => return none
  | some text =>
      let rows ← dictReader text
      let (totals, waits) ← rows.foldlM (ChannelTotals.addRow py) ({}, [])
      return some { totals with channelQueueImbalance := waitImbalance waits }

theorem aggregateChannelContention_eq {py : Conversions} {text : List Char}
    {rows : List AggregateRow} {totals : ChannelTotals} {waits : List Rat}
    (hread : dictReader text = .ok rows)
    (hsum : rows.foldlM (ChannelTotals.addRow py) ({}, []) = .ok (totals, waits)) :
    aggregateChannelContention py (some text) =
      .ok (some { totals with channelQueueImbalance := waitImbalance waits }) := by
  unfold aggregateChannelContention
  simp only [hread, bind, Except.bind, hsum]
  rfl

-- ============================================================================
-- Cells of a row
-- ============================================================================

section Cells

variable {columns row : List Cell} {column cell : Cell}

/-- The dictionary of a row, filled further. -/
def fillDict (entries : List (Cell × Cell)) (dict : AggregateRow) : AggregateRow :=
  entries.foldl
    (fun dict entry => dict.insert (String.ofList entry.1) (some (String.ofList entry.2))) dict

theorem lookup_fillDict_of_notMem {entries : List (Cell × Cell)} {dict : AggregateRow}
    (h : column ∉ entries.map Prod.fst) :
    (fillDict entries dict).lookup (String.ofList column) =
      dict.lookup (String.ofList column) := by
  induction entries generalizing dict with
  | nil => rfl
  | cons entry rest ih =>
      obtain ⟨hne, hrest⟩ := not_or.mp (fun hor => h (List.mem_cons.mpr hor))
      have hkey : String.ofList column ≠ String.ofList entry.1 :=
        fun heq => hne (String.ofList_injective heq)
      exact (ih hrest).trans (AList.lookup_insert_ne hkey)

theorem lookup_fillDict {entries : List (Cell × Cell)} {dict : AggregateRow}
    (hnodup : (entries.map Prod.fst).Nodup) (h : (column, cell) ∈ entries) :
    (fillDict entries dict).lookup (String.ofList column) = some (some (String.ofList cell)) := by
  induction entries generalizing dict with
  | nil => cases h
  | cons entry rest ih =>
      rw [List.map_cons, List.nodup_cons] at hnodup
      rcases List.mem_cons.mp h with rfl | hrest
      · exact (lookup_fillDict_of_notMem hnodup.1).trans (AList.lookup_insert dict)
      · exact ih hnodup.2 hrest

/-- A complete row has the cell of every column. -/
theorem lookup_dictRow (hnodup : columns.Nodup) (hlength : columns.length = row.length) {i : Nat}
    (hcolumn : columns[i]? = some column) (hcell : row[i]? = some cell) :
    (dictRow columns row).lookup (String.ofList column) = some (some (String.ofList cell)) := by
  have hdrop : columns.drop row.length = [] := by rw [← hlength, List.drop_length]
  have hfst : (columns.zip row).map Prod.fst = columns :=
    List.map_fst_zip (by rw [hlength])
  have hmem : (column, cell) ∈ columns.zip row := by
    refine List.mem_of_getElem? (i := i) ?_
    rw [List.getElem?_zip_eq_some]
    exact ⟨hcolumn, hcell⟩
  have hkeys : ((columns.zip row).map Prod.fst).Nodup := by
    rw [hfst]
    exact hnodup
  unfold dictRow
  rw [hdrop, List.foldl_nil]
  exact lookup_fillDict hkeys hmem

end Cells

/-- `int` and `float` read the digits of a 64-bit number; a float holds the numbers up to
    `2 ^ 53`. -/
structure Conversions.ReadsNumbers (py : Conversions) : Prop where
  int : ∀ n : Nat, n < 2 ^ 64 → py.int (toString n) = some n
  float : ∀ n : Nat, n ≤ 2 ^ 53 → py.float (toString n) = some (some (n : Rat))

section Numbers

variable {py : Conversions} {columns : List String} {row : List Cell} {column : String} {n i : Nat}

theorem item_dictRow (hnodup : columns.Nodup) (hlength : columns.length = row.length)
    {text : String} (hcolumn : columns[i]? = some column) (hcell : row[i]? = some text.toList) :
    (dictRow (columns.map String.toList) row).item column = .ok (some text) := by
  have hkeys : (columns.map String.toList).Nodup :=
    hnodup.map (fun a b h => String.toList_injective h)
  have hlookup := lookup_dictRow hkeys (by rw [List.length_map, hlength])
    (by rw [List.getElem?_map, hcolumn]; rfl) hcell
  rw [String.ofList_toList, String.ofList_toList] at hlookup
  unfold AggregateRow.item
  rw [hlookup]
  rfl

theorem intItem_dictRow (hpy : py.ReadsNumbers) (hn : n < 2 ^ 64) (hnodup : columns.Nodup)
    (hlength : columns.length = row.length) (hcolumn : columns[i]? = some column)
    (hcell : row[i]? = some (toString n).toList) :
    intItem py (dictRow (columns.map String.toList) row) column = .ok (n : Int) := by
  unfold intItem
  rw [item_dictRow hnodup hlength hcolumn hcell]
  show (match py.int (toString n) with | some value => _ | none => _) = _
  rw [hpy.int n hn]
  rfl

theorem floatItem_dictRow (hpy : py.ReadsNumbers) (hn : n ≤ 2 ^ 53) (hnodup : columns.Nodup)
    (hlength : columns.length = row.length) (hcolumn : columns[i]? = some column)
    (hcell : row[i]? = some (toString n).toList) :
    floatItem py (dictRow (columns.map String.toList) row) column = .ok (n : Rat) := by
  unfold floatItem
  rw [item_dictRow hnodup hlength hcolumn hcell]
  show (match py.float (toString n) with | some (some value) => _ | some none => _ | none => _) = _
  rw [hpy.float n hn]
  rfl

end Numbers

end DmSimulator
