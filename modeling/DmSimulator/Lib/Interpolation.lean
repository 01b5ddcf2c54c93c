/-
  DmSimulator.Lib.Interpolation

  Linear interpolation between the values of a sequence, and sorted lists as
  monotone sequences.

  `lerp f x` is the value at `x` of the polygon through the points `(n, f n)`.
  It is monotone in `x` if `f` is, and monotone in `f`.
-/
import Mathlib.Algebra.Order.Floor.Ring
import Mathlib.Data.List.GetD
import Mathlib.Data.List.Sort
import Mathlib.Tactic.Linarith
import Mathlib.Tactic.Ring

namespace DmSimulator

namespace Interpolation

section Lerp

variable {K : Type} [Field K] [LinearOrder K] [IsStrictOrderedRing K] [FloorSemiring K]
  {f g : Nat → K} {x y : K}

/-- The polygon through the points of a sequence. -/
def lerp (f : Nat → K) (x : K) : K := f ⌊x⌋₊ + (x - ⌊x⌋₊) * (f (⌊x⌋₊ + 1) - f ⌊x⌋₊)

omit [IsStrictOrderedRing K] in
/-- Between two neighbours the polygon is their weighted mean. -/
theorem lerp_eq_mean (f : Nat → K) (x : K) :
    lerp f x = f ⌊x⌋₊ * (1 - (x - ⌊x⌋₊)) + f (⌊x⌋₊ + 1) * (x - ⌊x⌋₊) := by
  unfold lerp
  ring

theorem weight_bounds (hx : 0 ≤ x) : 0 ≤ x - ⌊x⌋₊ ∧ x - ⌊x⌋₊ < 1 := by
  have hfloor := Nat.floor_le hx
  have hlt := Nat.lt_floor_add_one x
  exact ⟨sub_nonneg.mpr hfloor, by linarith⟩

theorem lerp_natCast (f : Nat → K) (n : Nat) : lerp f (n : K) = f n := by
  unfold lerp
  rw [Nat.floor_natCast, sub_self, zero_mul, add_zero]

theorem le_lerp (hf : Monotone f) (hx : 0 ≤ x) : f ⌊x⌋₊ ≤ lerp f x := by
  have hstep : 0 ≤ f (⌊x⌋₊ + 1) - f ⌊x⌋₊ := sub_nonneg.mpr (hf (Nat.le_succ _))
  have hgain := mul_nonneg (weight_bounds hx).1 hstep
  unfold lerp
  linarith

theorem lerp_le (hf : Monotone f) (hx : 0 ≤ x) : lerp f x ≤ f (⌊x⌋₊ + 1) := by
  have hstep : 0 ≤ f (⌊x⌋₊ + 1) - f ⌊x⌋₊ := sub_nonneg.mpr (hf (Nat.le_succ _))
  have hgain := mul_le_mul_of_nonneg_right (weight_bounds hx).2.le hstep
  unfold lerp
  linarith

/-- The polygon of a monotone sequence is monotone. -/
theorem lerp_mono (hf : Monotone f) (hx : 0 ≤ x) (hxy : x ≤ y) : lerp f x ≤ lerp f y := by
  have hy := hx.trans hxy
  rcases Nat.lt_or_eq_of_le (Nat.floor_mono hxy) with hlt | heq
  · -- different cells: a point of the sequence lies between
    calc lerp f x ≤ f (⌊x⌋₊ + 1) := lerp_le hf hx
      _ ≤ f ⌊y⌋₊ := hf hlt
      _ ≤ lerp f y := le_lerp hf hy
  · -- the same cell: the slope is not negative
    have hstep : 0 ≤ f (⌊y⌋₊ + 1) - f ⌊y⌋₊ := sub_nonneg.mpr (hf (Nat.le_succ _))
    have hgain := mul_le_mul_of_nonneg_right (sub_le_sub_right hxy (⌊y⌋₊ : K)) hstep
    unfold lerp
    rw [heq]
    linarith

/-- A sequence that is nowhere below has a polygon that is nowhere below. -/
theorem lerp_le_lerp (hfg : ∀ n, f n ≤ g n) (hx : 0 ≤ x) : lerp f x ≤ lerp g x := by
  obtain ⟨hweight, hrest⟩ := weight_bounds hx
  have hlower := mul_le_mul_of_nonneg_right (hfg ⌊x⌋₊) (sub_nonneg.mpr hrest.le)
  have hupper := mul_le_mul_of_nonneg_right (hfg (⌊x⌋₊ + 1)) hweight
  rw [lerp_eq_mean, lerp_eq_mean]
  exact add_le_add hlower hupper

/-- The interpolation between the indices below and above a position, with the shortcut
    for a position that is an index. -/
theorem floor_ceil_eq_lerp (f : Nat → K) (hx : 0 ≤ x) :
    (if ⌊x⌋₊ = ⌈x⌉₊ then f ⌊x⌋₊
      else f ⌊x⌋₊ * (1 - (x - ⌊x⌋₊)) + f ⌈x⌉₊ * (x - ⌊x⌋₊)) = lerp f x := by
  by_cases h : ⌊x⌋₊ = ⌈x⌉₊
  · rw [if_pos h]
    have hexact : x = (⌊x⌋₊ : K) := by
      apply le_antisymm _ (Nat.floor_le hx)
      exact (Nat.le_ceil x).trans (by rw [h])
    unfold lerp
    rw [← hexact, sub_self, zero_mul, add_zero]
  · rw [if_neg h]
    have hle := Nat.floor_le_ceil x
    have hup := Nat.ceil_le_floor_add_one x
    rw [show ⌈x⌉₊ = ⌊x⌋₊ + 1 by omega, lerp_eq_mean]

end Lerp

-- ============================================================================
-- Sorted lists
-- ============================================================================

section Sorted

variable {α : Type} [LinearOrder α]

/-- The elements of a list, continued by its last one. -/
def sample (sorted : List α) (default : α) (n : Nat) : α :=
  sorted.getD (min n (sorted.length - 1)) default

theorem sample_monotone {sorted : List α} (h : sorted.Pairwise (· ≤ ·)) (default : α) :
    Monotone (sample sorted default) := by
  intro m n hmn
  unfold sample
  by_cases hempty : sorted = []
  · subst hempty
    exact le_rfl
  · have hpos : 0 < sorted.length := List.length_pos_of_ne_nil hempty
    have hm : min m (sorted.length - 1) < sorted.length := by omega
    have hn : min n (sorted.length - 1) < sorted.length := by omega
    rw [List.getD_eq_getElem _ _ hm, List.getD_eq_getElem _ _ hn]
    rcases Nat.lt_or_eq_of_le (min_le_min_right (sorted.length - 1) hmn) with hlt | heq
    · exact List.pairwise_iff_getElem.mp h _ _ hm hn hlt
    · simp only [heq]
      exact le_rfl

omit [LinearOrder α] in
theorem sample_mem {sorted : List α} (h : sorted ≠ []) (default : α) (n : Nat) :
    sample sorted default n ∈ sorted := by
  have hpos : 0 < sorted.length := List.length_pos_of_ne_nil h
  have hn : min n (sorted.length - 1) < sorted.length := by omega
  unfold sample
  rw [List.getD_eq_getElem _ _ hn]
  exact List.getElem_mem hn

theorem sample_le_sample {l l' : List α} (h : List.Forall₂ (· ≤ ·) l l') (default : α) (n : Nat) :
    sample l default n ≤ sample l' default n := by
  have hlength := h.length_eq
  by_cases hempty : l = []
  · subst hempty
    rw [List.forall₂_nil_left_iff.mp h]
  · have hpos : 0 < l.length := List.length_pos_of_ne_nil hempty
    have hn : min n (l.length - 1) < l.length := by omega
    have hn' : min n (l.length - 1) < l'.length := by omega
    unfold sample
    rw [← hlength, List.getD_eq_getElem _ _ hn, List.getD_eq_getElem _ _ hn']
    exact h.get hn hn'

/-- The head of a sorted list is where an ordered insertion puts it. -/
theorem orderedInsert_head {a : α} {l : List α} (h : (a :: l).Pairwise (· ≤ ·)) :
    l.orderedInsert (· ≤ ·) a = a :: l := by
  cases l with
  | nil => rfl
  | cons b l =>
      exact List.orderedInsert_cons_of_le _ _ ((List.pairwise_cons.mp h).1 b List.mem_cons_self)

/-- Inserting in order into lists that are in order keeps them side by side. -/
theorem forall₂_orderedInsert {l l' : List α} (h : List.Forall₂ (· ≤ ·) l l') :
    ∀ {a a' : α}, l.Pairwise (· ≤ ·) → l'.Pairwise (· ≤ ·) → a ≤ a' →
      List.Forall₂ (· ≤ ·) (l.orderedInsert (· ≤ ·) a) (l'.orderedInsert (· ≤ ·) a') := by
  induction h with
  | nil => exact fun _ _ hle => .cons hle .nil
  | @cons b b' l l' hb hl ih =>
      intro a a' hsorted hsorted' hle
      obtain ⟨hfirst, hrest⟩ := List.pairwise_cons.mp hsorted
      obtain ⟨hfirst', hrest'⟩ := List.pairwise_cons.mp hsorted'
      have hhead := orderedInsert_head hsorted
      have hhead' := orderedInsert_head hsorted'
      by_cases ha : a ≤ b <;> by_cases ha' : a' ≤ b'
      · rw [List.orderedInsert_cons_of_le _ _ ha, List.orderedInsert_cons_of_le _ _ ha']
        exact .cons hle (.cons hb hl)
      · rw [List.orderedInsert_cons_of_le _ _ ha, List.orderedInsert_of_not_le _ _ ha']
        have hlater := ih hrest hrest' (hb.trans (not_le.mp ha').le)
        rw [hhead] at hlater
        exact .cons (ha.trans hb) hlater
      · rw [List.orderedInsert_of_not_le _ _ ha, List.orderedInsert_cons_of_le _ _ ha']
        have hlater := ih hrest hrest' (hle.trans ha')
        rw [hhead'] at hlater
        exact .cons ((not_le.mp ha).le.trans hle) hlater
      · rw [List.orderedInsert_of_not_le _ _ ha, List.orderedInsert_of_not_le _ _ ha']
        exact .cons hb (ih hrest hrest' hle)

/-- Sorting keeps lists side by side. -/
theorem forall₂_insertionSort {l l' : List α} (h : List.Forall₂ (· ≤ ·) l l') :
    List.Forall₂ (· ≤ ·) (l.insertionSort (· ≤ ·)) (l'.insertionSort (· ≤ ·)) := by
  induction h with
  | nil => exact .nil
  | cons hle _ ih =>
      exact forall₂_orderedInsert ih (List.pairwise_insertionSort _ _)
        (List.pairwise_insertionSort _ _) hle

end Sorted

end Interpolation

end DmSimulator
