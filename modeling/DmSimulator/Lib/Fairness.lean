/-
  DmSimulator.Lib.Fairness

  Jain's fairness index of a list of shares, the square of the sum over the
  number of shares times the sum of the squares, in a linearly ordered field.

  The denominator exceeds the numerator by the squared deviations from the mean
  (`length_mul_sumSquares`), so the index is one just where nothing deviates.
-/
import Mathlib.Algebra.BigOperators.Ring.List
import Mathlib.Algebra.Order.BigOperators.Group.List
import Mathlib.Algebra.Order.Field.Basic
import Mathlib.Tactic.FieldSimp
import Mathlib.Tactic.Linarith
import Mathlib.Tactic.Positivity
import Mathlib.Tactic.Ring

namespace DmSimulator

namespace Fairness

variable {K : Type} [Field K]

def sumSquares (shares : List K) : K := (shares.map fun x => x * x).sum

/-- Jain's index. -/
def jainIndex (shares : List K) : K :=
  shares.sum * shares.sum / ((shares.length : K) * sumSquares shares)

def mean (shares : List K) : K := shares.sum / (shares.length : K)

@[simp] theorem sumSquares_nil : sumSquares ([] : List K) = 0 := rfl

@[simp] theorem sumSquares_cons (x : K) (shares : List K) :
    sumSquares (x :: shares) = x * x + sumSquares shares := by
  simp [sumSquares]

/-- The squared distances from a point. -/
theorem sum_sq_distance (c : K) (shares : List K) :
    (shares.map fun x => (x - c) * (x - c)).sum =
      sumSquares shares - 2 * c * shares.sum + (shares.length : K) * (c * c) := by
  induction shares with
  | nil => simp
  | cons x shares ih =>
      rw [List.map_cons, List.sum_cons, ih, sumSquares_cons, List.sum_cons, List.length_cons]
      push_cast
      ring

theorem jainIndex_perm {shares shares' : List K} (h : shares.Perm shares') :
    jainIndex shares = jainIndex shares' := by
  unfold jainIndex sumSquares
  rw [h.sum_eq, h.length_eq, (h.map _).sum_eq]

/-- Only the proportions of the shares count. -/
theorem jainIndex_map_mul {c : K} (hc : c ≠ 0) (shares : List K) :
    jainIndex (shares.map fun x => c * x) = jainIndex shares := by
  have hsquares : sumSquares (shares.map fun x => c * x) = c * c * sumSquares shares := by
    unfold sumSquares
    rw [List.map_map, ← List.sum_map_mul_left]
    congr 1
    apply List.map_congr_left
    intro x _
    simp only [Function.comp_apply]
    ring
  unfold jainIndex
  rw [hsquares, List.length_map, List.sum_map_mul_left, List.map_id']
  have hfactor : c * c ≠ 0 := mul_ne_zero hc hc
  rw [show c * shares.sum * (c * shares.sum) = c * c * (shares.sum * shares.sum) by ring,
    show (shares.length : K) * (c * c * sumSquares shares) =
      c * c * ((shares.length : K) * sumSquares shares) by ring,
    mul_div_mul_left _ _ hfactor]

section Order

variable [LinearOrder K] [IsStrictOrderedRing K]

theorem length_mul_sumSquares {shares : List K} (h : shares ≠ []) :
    (shares.length : K) * sumSquares shares = shares.sum * shares.sum +
      (shares.length : K) * (shares.map fun x => (x - mean shares) * (x - mean shares)).sum := by
  have hlength : (shares.length : K) ≠ 0 := by
    exact_mod_cast mt List.eq_nil_of_length_eq_zero h
  have hmean : (shares.length : K) * mean shares = shares.sum := mul_div_cancel₀ _ hlength
  rw [sum_sq_distance, ← hmean]
  ring

/-- Shares of one sign: the sum of the squares is at most the square of the sum. -/
theorem sumSquares_le {shares : List K} (h : ∀ x ∈ shares, 0 ≤ x) :
    sumSquares shares ≤ shares.sum * shares.sum := by
  induction shares with
  | nil => simp
  | cons x shares ih =>
      have hx : 0 ≤ x := h x List.mem_cons_self
      have hrest : ∀ y ∈ shares, 0 ≤ y := fun y hy => h y (List.mem_cons_of_mem x hy)
      have hsum : 0 ≤ shares.sum := List.sum_nonneg hrest
      have hcross : 0 ≤ x * shares.sum := mul_nonneg hx hsum
      have hle := ih hrest
      rw [sumSquares_cons, List.sum_cons]
      calc x * x + sumSquares shares
          ≤ x * x + shares.sum * shares.sum := by linarith
        _ ≤ x * x + shares.sum * shares.sum + 2 * (x * shares.sum) := by linarith
        _ = (x + shares.sum) * (x + shares.sum) := by ring

theorem sumSquares_pos {shares : List K} (h : shares ≠ []) (hpos : ∀ x ∈ shares, 0 < x) :
    0 < sumSquares shares := by
  cases shares with
  | nil => exact absurd rfl h
  | cons x shares =>
      rw [sumSquares_cons]
      have hx : 0 < x * x := mul_pos (hpos x List.mem_cons_self) (hpos x List.mem_cons_self)
      have hrest : 0 ≤ sumSquares shares := by
        apply List.sum_nonneg
        intro y hy
        obtain ⟨z, -, rfl⟩ := List.mem_map.mp hy
        exact mul_self_nonneg z
      linarith

theorem length_mul_sumSquares_pos {shares : List K} (h : shares ≠ [])
    (hpos : ∀ x ∈ shares, 0 < x) : 0 < (shares.length : K) * sumSquares shares := by
  have hlength : 0 < shares.length := List.length_pos_of_ne_nil h
  exact mul_pos (by exact_mod_cast hlength) (sumSquares_pos h hpos)

theorem sum_deviations_nonneg (c : K) (shares : List K) :
    0 ≤ (shares.map fun x => (x - c) * (x - c)).sum := by
  apply List.sum_nonneg
  intro y hy
  obtain ⟨z, -, rfl⟩ := List.mem_map.mp hy
  exact mul_self_nonneg _

/-- Nothing deviates just where all shares are equal. -/
theorem sum_deviations_eq_zero_iff (c : K) (shares : List K) :
    (shares.map fun x => (x - c) * (x - c)).sum = 0 ↔ ∀ x ∈ shares, x = c := by
  induction shares with
  | nil => simp
  | cons x shares ih =>
      rw [List.map_cons, List.sum_cons, List.forall_mem_cons, ← ih,
        add_eq_zero_iff_of_nonneg (mul_self_nonneg _) (sum_deviations_nonneg c shares),
        mul_self_eq_zero, sub_eq_zero]

theorem jainIndex_le_one {shares : List K} (h : shares ≠ []) (hpos : ∀ x ∈ shares, 0 < x) :
    jainIndex shares ≤ 1 := by
  unfold jainIndex
  rw [div_le_one (length_mul_sumSquares_pos h hpos), length_mul_sumSquares h]
  have hlength : (0 : K) ≤ (shares.length : K) := Nat.cast_nonneg _
  have hdeviations := mul_nonneg hlength (sum_deviations_nonneg (mean shares) shares)
  linarith

theorem one_div_length_le_jainIndex {shares : List K} (h : shares ≠ [])
    (hpos : ∀ x ∈ shares, 0 < x) : 1 / (shares.length : K) ≤ jainIndex shares := by
  have hlength : (0 : K) < (shares.length : K) := by
    exact_mod_cast List.length_pos_of_ne_nil h
  unfold jainIndex
  rw [div_le_div_iff₀ hlength (length_mul_sumSquares_pos h hpos), one_mul, mul_comm]
  apply mul_le_mul_of_nonneg_right _ hlength.le
  exact sumSquares_le fun x hx => (hpos x hx).le

theorem jainIndex_eq_one_iff {shares : List K} (h : shares ≠ []) (hpos : ∀ x ∈ shares, 0 < x) :
    jainIndex shares = 1 ↔ ∀ x ∈ shares, ∀ y ∈ shares, x = y := by
  have hlength : (shares.length : K) ≠ 0 := by
    exact_mod_cast mt List.eq_nil_of_length_eq_zero h
  have hdeviations : jainIndex shares = 1 ↔ ∀ x ∈ shares, x = mean shares := by
    unfold jainIndex
    rw [div_eq_one_iff_eq (length_mul_sumSquares_pos h hpos).ne', length_mul_sumSquares h,
      left_eq_add, mul_eq_zero_iff_left hlength, sum_deviations_eq_zero_iff]
  rw [hdeviations]
  constructor
  · intro hmean x hx y hy
    rw [hmean x hx, hmean y hy]
  · intro hequal x hx
    -- the mean of equal shares is that share
    have hreplicate : shares = List.replicate shares.length x :=
      List.eq_replicate_iff.mpr ⟨rfl, fun y hy => hequal y hy x hx⟩
    have hsum : shares.sum = (shares.length : K) * x := by
      rw [hreplicate, List.sum_replicate, List.length_replicate, nsmul_eq_mul]
    unfold mean
    rw [hsum, mul_div_cancel_left₀ _ hlength]

end Order

end Fairness

end DmSimulator
