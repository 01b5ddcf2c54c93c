/-
  DmSimulator.Lib.Lockstep

  Two fallible computations side by side: `Lockstep R x y` if both fail with the
  same error, or both succeed with results that `R` relates.  Two programs built
  by the same sequencing keep in lockstep step by step (`Lockstep.bind`).
-/
import Mathlib.Init

namespace DmSimulator

variable {ε α β γ δ : Type}

/-- Fail alike, or succeed with related results. -/
def Lockstep (R : α → β → Prop) : Except ε α → Except ε β → Prop
  | .ok a, .ok b => R a b
  | .error e, .error e' => e = e'
  | .ok _, .error _ => False
  | .error _, .ok _ => False

namespace Lockstep

variable {R R' : α → β → Prop} {S : γ → δ → Prop}

theorem pure {a : α} {b : β} (h : R a b) :
    Lockstep R (Pure.pure a : Except ε α) (Pure.pure b : Except ε β) := h

theorem refl {R : α → α → Prop} (hR : ∀ a, R a a) (x : Except ε α) : Lockstep R x x := by
  cases x with
  | error e => rfl
  | ok a => exact hR a

theorem bind {x : Except ε α} {y : Except ε β} {f : α → Except ε γ} {g : β → Except ε δ}
    (h : Lockstep R x y) (hfg : ∀ a b, R a b → Lockstep S (f a) (g b)) :
    Lockstep S (x >>= f) (y >>= g) := by
  cases x with
  | error e =>
      cases y with
      | error e' => exact h
      | ok b => exact h.elim
  | ok a =>
      cases y with
      | error e' => exact h.elim
      | ok b => exact hfg a b h

theorem mono {x : Except ε α} {y : Except ε β} (h : Lockstep R x y)
    (hR : ∀ a b, R a b → R' a b) : Lockstep R' x y := by
  cases x with
  | error e =>
      cases y with
      | error e' => exact h
      | ok b => exact h.elim
  | ok a =>
      cases y with
      | error e' => exact h.elim
      | ok b => exact hR a b h

/-- What succeeds on the left succeeds on the right. -/
theorem ok_right {a : α} {y : Except ε β} (h : Lockstep R (.ok a) y) :
    ∃ b, y = .ok b ∧ R a b := by
  cases y with
  | error e => exact h.elim
  | ok b => exact ⟨b, rfl, h⟩

end Lockstep

end DmSimulator
