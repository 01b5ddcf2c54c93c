/-
  DmSimulator.Metrics.Histogram

  Latency percentiles (`metrics/histogram.cpp`), with exact rationals for the
  doubles, and their laws.

  A percentile is the value of the polygon through the sorted samples at the
  clamped position (`computePercentile_eq_lerp`); the laws are those of
  `Interpolation.lerp`.
-/
import DmSimulator.Lib.Interpolation
import DmSimulator.Metrics.Stats
import Mathlib.Data.Rat.Floor

namespace DmSimulator

open Interpolation

/-- The position of a percentile between the sorted samples. -/
def percentilePosition (size : Nat) (percentile : Rat) : Rat :=
  percentile / 100 * ((size - 1 : Nat) : Rat)

def computePercentile (values : List SimTime) (percentile : Rat) : Rat :=
  if values.isEmpty then 0
  else
    let values := values.insertionSort (· ≤ ·)
    if percentile ≤ 0 then (values.headD 0 : Nat)
    else if percentile ≥ 100 then (values.getLastD 0 : Nat)
    else
      let position := percentilePosition values.length percentile
      let lowerIndex := ⌊position⌋₊
      let upperIndex := ⌈position⌉₊
      if lowerIndex = upperIndex then (values.getD lowerIndex 0 : Nat)
      else
        let weight := position - lowerIndex
        (values.getD lowerIndex 0 : Nat) * (1 - weight) + (values.getD upperIndex 0 : Nat) * weight

def medianLatency (values : List SimTime) : Rat := computePercentile values 50

def p95Latency (values : List SimTime) : Rat := computePercentile values 95

def p99Latency (values : List SimTime) : Rat := computePercentile values 99

/-- `Stats::latencies(node_id)`. -/
def Stats.nodeLatencies (s : Stats) (nodeId : NodeId) : List SimTime :=
  match s.perNodeStats.lookup nodeId with
  | none => []
  | some nodeStats => nodeStats.latencies

-- ============================================================================
-- The polygon through the sorted samples
-- ============================================================================

/-- The sorted samples as a sequence of rationals. -/
def sortedSample (values : List SimTime) (n : Nat) : Rat :=
  (sample (values.insertionSort (· ≤ ·)) 0 n : Nat)

/-- The position of a percentile, clamped to the samples. -/
def clampedPosition (size : Nat) (percentile : Rat) : Rat :=
  percentilePosition size (max 0 (min percentile 100))

theorem sortedSample_monotone (values : List SimTime) : Monotone (sortedSample values) := by
  intro m n hmn
  exact Nat.cast_le.mpr (sample_monotone (List.pairwise_insertionSort (· ≤ ·) values) 0 hmn)

theorem percentilePosition_mono (size : Nat) : Monotone (percentilePosition size) := by
  intro p q hpq
  unfold percentilePosition
  gcongr

theorem clampedPosition_mono (size : Nat) : Monotone (clampedPosition size) := fun _ _ hpq =>
  percentilePosition_mono size (max_le_max le_rfl (min_le_min hpq le_rfl))

theorem clampedPosition_nonneg (size : Nat) (percentile : Rat) :
    0 ≤ clampedPosition size percentile := by
  unfold clampedPosition percentilePosition
  have hclamped : 0 ≤ max 0 (min percentile 100) := le_max_left _ _
  positivity

/-- Between the cut-offs a position lies between the indices of the samples. -/
theorem percentilePosition_bounds (size : Nat) {percentile : Rat} (hlow : 0 ≤ percentile)
    (hhigh : percentile ≤ 100) :
    0 ≤ percentilePosition size percentile ∧
      percentilePosition size percentile ≤ ((size - 1 : Nat) : Rat) := by
  unfold percentilePosition
  have hsize : (0 : Rat) ≤ ((size - 1 : Nat) : Rat) := Nat.cast_nonneg _
  have hone : percentile / 100 ≤ 1 := by linarith
  exact ⟨by positivity, mul_le_of_le_one_left hsize hone⟩

theorem index_bounds (size : Nat) {percentile : Rat} (hlow : 0 ≤ percentile)
    (hhigh : percentile ≤ 100) :
    ⌊percentilePosition size percentile⌋₊ ≤ size - 1 ∧
      ⌈percentilePosition size percentile⌉₊ ≤ size - 1 := by
  obtain ⟨-, hle⟩ := percentilePosition_bounds size hlow hhigh
  have hceil : ⌈percentilePosition size percentile⌉₊ ≤ size - 1 := Nat.ceil_le.mpr hle
  exact ⟨(Nat.floor_le_ceil _).trans hceil, hceil⟩

/-- Indexing the sorted samples at an index in range. -/
theorem getD_eq_sortedSample (values : List SimTime) {n : Nat} (hn : n ≤ values.length - 1) :
    (((values.insertionSort (· ≤ ·)).getD n 0 : Nat) : Rat) = sortedSample values n := by
  unfold sortedSample sample
  rw [List.length_insertionSort, min_eq_left hn]

theorem headD_eq_sortedSample (values : List SimTime) :
    (((values.insertionSort (· ≤ ·)).headD 0 : Nat) : Rat) = sortedSample values 0 := by
  rw [← getD_eq_sortedSample values (Nat.zero_le _)]
  cases values.insertionSort (· ≤ ·) <;> rfl

theorem getLastD_eq_sortedSample (values : List SimTime) :
    (((values.insertionSort (· ≤ ·)).getLastD 0 : Nat) : Rat) =
      sortedSample values (values.length - 1) := by
  rw [← getD_eq_sortedSample values le_rfl, ← List.length_insertionSort (· ≤ ·) values,
    List.getLastD_eq_getLast?, List.getLast?_eq_getElem?, List.getD_eq_getElem?_getD]

/-- A percentile is the value of the polygon at the clamped position. -/
theorem computePercentile_eq_lerp {values : List SimTime} (hvalues : values ≠ [])
    (percentile : Rat) :
    computePercentile values percentile =
      lerp (sortedSample values) (clampedPosition values.length percentile) := by
  unfold computePercentile
  rw [if_neg (by simpa using hvalues)]
  simp only [List.length_insertionSort]
  by_cases hlow : percentile ≤ 0
  · rw [if_pos hlow, headD_eq_sortedSample]
    have hzero : clampedPosition values.length percentile = ((0 : Nat) : Rat) := by
      unfold clampedPosition percentilePosition
      rw [max_eq_left (min_le_of_left_le hlow)]
      simp
    rw [hzero, lerp_natCast]
  · rw [if_neg hlow]
    have hpos : 0 ≤ percentile := (not_le.mp hlow).le
    by_cases hhigh : percentile ≥ 100
    · rw [if_pos hhigh, getLastD_eq_sortedSample]
      have hlast : clampedPosition values.length percentile =
          ((values.length - 1 : Nat) : Rat) := by
        unfold clampedPosition percentilePosition
        rw [min_eq_right hhigh, max_eq_right (by norm_num), div_self (by norm_num), one_mul]
      rw [hlast, lerp_natCast]
    · rw [if_neg hhigh]
      have hle : percentile ≤ 100 := (not_le.mp hhigh).le
      obtain ⟨hfloor, hceil⟩ := index_bounds values.length hpos hle
      have hclamped : clampedPosition values.length percentile =
          percentilePosition values.length percentile := by
        unfold clampedPosition
        rw [min_eq_left hle, max_eq_right hpos]
      rw [hclamped, ← floor_ceil_eq_lerp _ (percentilePosition_bounds values.length hpos hle).1,
        getD_eq_sortedSample values hfloor, getD_eq_sortedSample values hceil]

-- ============================================================================
-- The laws
-- ============================================================================

/-- The laws of the percentiles of a list of latencies. -/
structure PercentileLaws (values : List SimTime) : Prop where
  perm : ∀ other percentile, other.Perm values →
    computePercentile other percentile = computePercentile values percentile
  bounds : ∀ percentile, ∃ least ∈ values, ∃ greatest ∈ values,
    (∀ value ∈ values, least ≤ value ∧ value ≤ greatest) ∧
      (least : Rat) ≤ computePercentile values percentile ∧
      computePercentile values percentile ≤ (greatest : Rat)
  mono : ∀ p q, p ≤ q → computePercentile values p ≤ computePercentile values q
  mono_samples : ∀ other percentile, List.Forall₂ (· ≤ ·) values other →
    computePercentile values percentile ≤ computePercentile other percentile
  in_range : ∀ percentile, 0 < percentile → percentile < 100 →
    ⌊percentilePosition values.length percentile⌋₊ < values.length ∧
      ⌈percentilePosition values.length percentile⌉₊ < values.length

/-- The sorted list of a permutation is the same. -/
theorem computePercentile_perm {values other : List SimTime} (h : other.Perm values)
    (percentile : Rat) : computePercentile other percentile = computePercentile values percentile := by
  have hsorted : other.insertionSort (· ≤ ·) = values.insertionSort (· ≤ ·) := by
    apply List.Perm.eq_of_pairwise' (List.pairwise_insertionSort _ _)
      (List.pairwise_insertionSort _ _)
    exact (List.perm_insertionSort _ other).trans (h.trans (List.perm_insertionSort _ values).symm)
  have hempty : other.isEmpty = values.isEmpty := by
    rw [Bool.eq_iff_iff, List.isEmpty_iff, List.isEmpty_iff, ← List.length_eq_zero_iff,
      ← List.length_eq_zero_iff, h.length_eq]
  unfold computePercentile
  rw [hsorted, hempty]

theorem computePercentile_mono (values : List SimTime) {p q : Rat} (hpq : p ≤ q) :
    computePercentile values p ≤ computePercentile values q := by
  by_cases hvalues : values = []
  · subst hvalues
    exact le_rfl
  · rw [computePercentile_eq_lerp hvalues, computePercentile_eq_lerp hvalues]
    exact lerp_mono (sortedSample_monotone values) (clampedPosition_nonneg _ _)
      (clampedPosition_mono _ hpq)

/-- Median, 95th and 99th percentile in this order. -/
def PercentilesOrdered (values : List SimTime) : Prop :=
  medianLatency values ≤ p95Latency values ∧ p95Latency values ≤ p99Latency values

theorem percentilesOrdered (values : List SimTime) : PercentilesOrdered values :=
  ⟨computePercentile_mono values (by norm_num), computePercentile_mono values (by norm_num)⟩

theorem percentileLaws_of_ne_nil {values : List SimTime} (hvalues : values ≠ []) :
    PercentileLaws values := by
  have hsorted : values.insertionSort (· ≤ ·) ≠ [] := by
    intro hnil
    have hlength := List.length_insertionSort (· ≤ ·) values
    rw [hnil] at hlength
    exact hvalues (List.length_eq_zero_iff.mp hlength.symm)
  have hmem : ∀ n, sample (values.insertionSort (· ≤ ·)) 0 n ∈ values := fun n =>
    (List.perm_insertionSort (· ≤ ·) values).subset (sample_mem hsorted 0 n)
  have hpos : 0 < values.length := List.length_pos_of_ne_nil hvalues
  refine ⟨fun other p h => computePercentile_perm h p, fun p => ?_,
    fun p q hpq => computePercentile_mono values hpq, fun other p h => ?_, fun p hlow hhigh => ?_⟩
  · -- the least and the greatest sample are the ends of the polygon
    refine ⟨_, hmem 0, _, hmem (values.length - 1), ?_, ?_, ?_⟩
    · intro value hvalue
      have hin := (List.perm_insertionSort (· ≤ ·) values).symm.subset hvalue
      obtain ⟨i, hi, rfl⟩ := List.mem_iff_getElem.mp hin
      have hi' : i ≤ values.length - 1 := by
        rw [List.length_insertionSort] at hi
        omega
      have hget : sample (values.insertionSort (· ≤ ·)) 0 i =
          (values.insertionSort (· ≤ ·))[i] := by
        unfold sample
        rw [List.length_insertionSort, min_eq_left hi', List.getD_eq_getElem _ _ hi]
      have hmono := sample_monotone (List.pairwise_insertionSort (· ≤ ·) values) 0
      rw [← hget]
      exact ⟨hmono (Nat.zero_le i), hmono hi'⟩
    · rw [computePercentile_eq_lerp hvalues]
      have hle := lerp_mono (sortedSample_monotone values) (le_refl ((0 : Nat) : Rat))
        (clampedPosition_nonneg values.length p)
      rw [lerp_natCast] at hle
      exact hle
    · rw [computePercentile_eq_lerp hvalues]
      have hlast : clampedPosition values.length p ≤ ((values.length - 1 : Nat) : Rat) :=
        (percentilePosition_bounds values.length (le_max_left _ _)
          (max_le (by norm_num) (min_le_right _ _))).2
      have hle := lerp_mono (sortedSample_monotone values) (clampedPosition_nonneg _ _) hlast
      rw [lerp_natCast] at hle
      exact hle
  · have hother : other ≠ [] := by
      rintro rfl
      exact hvalues (List.forall₂_nil_right_iff.mp h)
    rw [computePercentile_eq_lerp hvalues, computePercentile_eq_lerp hother, h.length_eq]
    refine lerp_le_lerp (fun n => ?_) (clampedPosition_nonneg _ _)
    exact Nat.cast_le.mpr (sample_le_sample (forall₂_insertionSort h) 0 n)
  · obtain ⟨hfloor, hceil⟩ := index_bounds values.length hlow.le hhigh.le
    omega

/-- Percentile laws, for every list of latencies that is not empty, and the order of the
    reported percentiles of a run and of each of its nodes. -/
theorem computePercentile_laws :
    (∀ values : List SimTime, values ≠ [] → PercentileLaws values) ∧
      ∀ stats : Stats, PercentilesOrdered stats.latencies ∧
        ∀ nodeId, PercentilesOrdered (stats.nodeLatencies nodeId) :=
  ⟨fun _ hvalues => percentileLaws_of_ne_nil hvalues, fun stats =>
    ⟨percentilesOrdered stats.latencies, fun nodeId =>
      percentilesOrdered (stats.nodeLatencies nodeId)⟩⟩

end DmSimulator
