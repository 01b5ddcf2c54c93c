/-
  DmSimulator.Lib.Arith

  The two arithmetics an unsigned 64-bit quantity is given.  A definition that
  adds or subtracts such quantities takes an `Arith` argument: under `exact`
  it computes in the naturals, under `word64` it wraps at `2 ^ 64` as the
  machine does.  Results about unbounded time are stated at `exact`, results
  about machine arithmetic at `word64`.
-/
import Mathlib.Algebra.Order.Ring.Nat
import Mathlib.Order.Monotone.Basic

namespace DmSimulator

/-- The reading of unsigned 64-bit arithmetic. -/
inductive Arith
  | exact
  | word64
deriving DecidableEq, Repr

namespace Arith

/-- The number of values of a 64-bit word. -/
def wordSize : Nat := 2 ^ 64

/-- Bring a natural number back into the range of the arithmetic. -/
def norm : Arith → Nat → Nat
  | exact, n => n
  | word64, n => n % wordSize

def add (A : Arith) (a b : Nat) : Nat := A.norm (a + b)

def mul (A : Arith) (a b : Nat) : Nat := A.norm (a * b)

/-- Subtraction; under `word64` a negative result wraps around. -/
def sub : Arith → Nat → Nat → Nat
  | exact, a, b => a - b
  | word64, a, b => (a + (wordSize - b % wordSize)) % wordSize

@[simp] theorem norm_exact (n : Nat) : exact.norm n = n := rfl

@[simp] theorem add_exact (a b : Nat) : exact.add a b = a + b := rfl

@[simp] theorem mul_exact (a b : Nat) : exact.mul a b = a * b := rfl

@[simp] theorem sub_exact (a b : Nat) : exact.sub a b = a - b := rfl

theorem norm_le (A : Arith) (n : Nat) : A.norm n ≤ n := by
  cases A with
  | exact => exact le_refl n
  | word64 => exact Nat.mod_le n wordSize

theorem add_word64 (a b : Nat) : word64.add a b = (a + b) % wordSize := rfl

/-- A sequence that grows by less than a word at a time keeps its order under
    reduction exactly as long as it does not reach the word size. -/
theorem reduced_monotone_iff {f : Nat → Nat} {n : Nat} (hmono : ∀ i, f i ≤ f (i + 1))
    (hstep : ∀ i, f (i + 1) < f i + wordSize) (hfirst : f 0 < wordSize) :
    (∀ i j, i ≤ j → j ≤ n → f i % wordSize ≤ f j % wordSize) ↔ f n < wordSize := by
  have hle : ∀ i j, i ≤ j → f i ≤ f j := fun i j hij => monotone_nat_of_le_succ hmono hij
  constructor
  · intro hall
    -- up to the first overflow nothing is reduced, and the overflow falls below it
    have hbelow : ∀ i, i ≤ n → f i < wordSize := by
      intro i
      induction i with
      | zero => exact fun _ => hfirst
      | succ i ih =>
          intro hi
          have hprevious := ih (by omega)
          have hordered := hall i (i + 1) (by omega) hi
          have hnext := hstep i
          by_contra hover
          have hreduced : f (i + 1) % wordSize = f (i + 1) - wordSize := by
            rw [Nat.mod_eq_sub_mod (by omega), Nat.mod_eq_of_lt (by omega)]
          rw [hreduced, Nat.mod_eq_of_lt hprevious] at hordered
          omega
    exact hbelow n (Nat.le_refl n)
  · intro hlast i j hij hj
    have hfj := lt_of_le_of_lt (hle j n hj) hlast
    have hfi := lt_of_le_of_lt (hle i j hij) hfj
    rw [Nat.mod_eq_of_lt hfi, Nat.mod_eq_of_lt hfj]
    exact hle i j hij

end Arith

end DmSimulator
