/-
  DmSimulator.Lib.Residues

  How many numbers of an initial segment leave a small residue.
-/
import Mathlib.Data.List.Range
import Mathlib.Data.Nat.ModEq

namespace DmSimulator

namespace Residues

/-- The number of the first `n` numbers whose residue modulo `m` is below `k`. -/
def countBelow (m k n : Nat) : Nat := ((List.range n).filter (fun i => i % m < k)).length

theorem countBelow_succ (m k n : Nat) :
    countBelow m k (n + 1) = countBelow m k n + if n % m < k then 1 else 0 := by
  unfold countBelow
  rw [List.range_succ, List.filter_append, List.length_append]
  by_cases h : n % m < k <;> simp [h]

/-- Within a block of `m` numbers the residue is the offset. -/
theorem countBelow_block {m k : Nat} (q : Nat) {r : Nat} (hr : r ≤ m) :
    countBelow m k (m * q + r) = countBelow m k (m * q) + min r k := by
  induction r with
  | zero => simp
  | succ r ih =>
      have hmod : (m * q + r) % m = r := by
        rw [Nat.mul_add_mod, Nat.mod_eq_of_lt hr]
      rw [← Nat.add_assoc, countBelow_succ, ih (Nat.le_of_lt hr), hmod]
      split <;> omega

theorem countBelow_blocks {m k : Nat} (hk : k ≤ m) (q : Nat) :
    countBelow m k (m * q) = q * k := by
  induction q with
  | zero => simp [countBelow]
  | succ q ih =>
      rw [Nat.mul_succ, countBelow_block q (Nat.le_refl m), ih, Nat.min_eq_right hk,
        Nat.succ_mul]

/-- Every complete block has `k` of them, and the last one as many as fit. -/
theorem countBelow_eq {m k : Nat} (hm : 0 < m) (hk : k ≤ m) (n : Nat) :
    countBelow m k n = n / m * k + min (n % m) k := by
  have hblocks : n = m * (n / m) + n % m := (Nat.div_add_mod n m).symm
  calc countBelow m k n
      = countBelow m k (m * (n / m) + n % m) := by rw [← hblocks]
    _ = countBelow m k (m * (n / m)) + min (n % m) k :=
        countBelow_block (n / m) (Nat.mod_lt n hm).le
    _ = n / m * k + min (n % m) k := by rw [countBelow_blocks hk]

theorem countBelow_le (m k n : Nat) : countBelow m k n ≤ n := by
  have hle := List.length_filter_le (fun i => i % m < k) (List.range n)
  rw [List.length_range] at hle
  exact hle

end Residues

end DmSimulator
