/-
  DmSimulator.Lib.Imbalance

  Loads of finitely many servers: the largest load, the total, and the imbalance,
  which is the largest load over the mean load.

  The imbalance is one just where all servers carry the same load, and the number
  of servers just where one of them carries everything.
-/
import Mathlib.Algebra.Field.Rat
import Mathlib.Algebra.Order.BigOperators.Group.Finset
import Mathlib.Algebra.Order.Ring.Rat
import Mathlib.Data.Finset.Lattice.Fold
import Mathlib.Order.Lattice.Nat
import Mathlib.Tactic.FieldSimp

namespace DmSimulator

namespace Imbalance

variable {ι : Type} (servers : Finset ι) (load : ι → Nat)

/-- The largest load. -/
def peak : Nat := servers.sup load

def total : Nat := ∑ i ∈ servers, load i

/-- The largest load over the mean load. -/
def imbalance : Rat :=
  if total servers load = 0 then 0
  else (peak servers load : Rat) / ((total servers load : Rat) / (servers.card : Rat))

variable {servers load}

theorem load_le_peak {i : ι} (h : i ∈ servers) : load i ≤ peak servers load := Finset.le_sup h

theorem load_le_total {i : ι} (h : i ∈ servers) : load i ≤ total servers load :=
  Finset.single_le_sum (fun _ _ => Nat.zero_le _) h

theorem peak_le_total : peak servers load ≤ total servers load :=
  Finset.sup_le fun _ hi => load_le_total hi

theorem exists_peak (h : servers.Nonempty) : ∃ i ∈ servers, load i = peak servers load := by
  obtain ⟨i, hi, heq⟩ := Finset.exists_mem_eq_sup servers h load
  exact ⟨i, hi, heq.symm⟩

theorem nonempty_of_total (h : total servers load ≠ 0) : servers.Nonempty := by
  rw [Finset.nonempty_iff_ne_empty]
  rintro rfl
  exact h rfl

theorem peak_pos (h : total servers load ≠ 0) : 0 < peak servers load := by
  by_contra hnot
  apply h
  apply Finset.sum_eq_zero
  intro i hi
  have hle : load i ≤ peak servers load := load_le_peak hi
  omega

/-- All servers carry the largest load just where there is nothing more to carry. -/
theorem total_eq_iff :
    total servers load = servers.card * peak servers load ↔
      ∀ i ∈ servers, load i = peak servers load := by
  have hconst : ∑ _i ∈ servers, peak servers load = servers.card * peak servers load :=
    Finset.sum_const_nat fun _ _ => rfl
  rw [← hconst]
  exact Finset.sum_eq_sum_iff_of_le fun _ hi => load_le_peak hi

theorem equal_iff_peak :
    (∀ i ∈ servers, ∀ j ∈ servers, load i = load j) ↔
      ∀ i ∈ servers, load i = peak servers load := by
  constructor
  · intro h i hi
    obtain ⟨j, hj, hpeak⟩ := @exists_peak ι servers load ⟨i, hi⟩
    exact (h i hi j hj).trans hpeak
  · intro h i hi j hj
    exact (h i hi).trans (h j hj).symm

/-- One server carries everything just where the largest load is the total. -/
theorem peak_eq_total_iff (hne : servers.Nonempty) :
    peak servers load = total servers load ↔
      ∃ i ∈ servers, ∀ j ∈ servers, j ≠ i → load j = 0 := by
  classical
  -- what the other servers carry
  have hrest : ∀ {i : ι}, i ∈ servers →
      load i + ∑ j ∈ servers.erase i, load j = total servers load := by
    intro i hi
    exact Finset.add_sum_erase servers load hi
  constructor
  · intro h
    obtain ⟨i, hi, hpeak⟩ := @exists_peak ι servers load hne
    have hzero : ∑ j ∈ servers.erase i, load j = 0 := by
      have hsum := hrest hi
      omega
    refine ⟨i, hi, fun j hj hji => ?_⟩
    exact Finset.sum_eq_zero_iff.mp hzero j (Finset.mem_erase.mpr ⟨hji, hj⟩)
  · rintro ⟨i, hi, hothers⟩
    have hzero : ∑ j ∈ servers.erase i, load j = 0 := by
      apply Finset.sum_eq_zero
      intro j hj
      exact hothers j (Finset.mem_of_mem_erase hj) (Finset.ne_of_mem_erase hj)
    have hsum := hrest hi
    have hle : load i ≤ peak servers load := load_le_peak hi
    have htotal : peak servers load ≤ total servers load := peak_le_total
    omega

theorem imbalance_of_total_ne_zero (h : total servers load ≠ 0) :
    imbalance servers load =
      (servers.card * peak servers load : Nat) / (total servers load : Rat) := by
  unfold imbalance
  rw [if_neg h, div_div_eq_mul_div, Nat.cast_mul, mul_comm]

theorem imbalance_eq_one_iff (h : total servers load ≠ 0) :
    imbalance servers load = 1 ↔ ∀ i ∈ servers, ∀ j ∈ servers, load i = load j := by
  have hne : (total servers load : Rat) ≠ 0 := Nat.cast_ne_zero.mpr h
  rw [imbalance_of_total_ne_zero h, div_eq_one_iff_eq hne, Nat.cast_inj, eq_comm, total_eq_iff,
    equal_iff_peak]

theorem imbalance_eq_card_iff (h : total servers load ≠ 0) :
    imbalance servers load = (servers.card : Rat) ↔
      ∃ i ∈ servers, ∀ j ∈ servers, j ≠ i → load j = 0 := by
  have hne : (total servers load : Rat) ≠ 0 := Nat.cast_ne_zero.mpr h
  have hservers := nonempty_of_total h
  have hcard : 0 < servers.card := Finset.card_pos.mpr hservers
  rw [imbalance_of_total_ne_zero h, div_eq_iff hne, ← Nat.cast_mul, Nat.cast_inj,
    Nat.mul_right_inj hcard.ne', peak_eq_total_iff hservers]

end Imbalance

end DmSimulator
