/-
  DmSimulator.Lib.Run

  Runs of a deterministic machine whose step can throw, halt, or move on:
  `step s` is `.error e`, `.ok none` or `.ok (some t)`.

  `Reaches` is the reflexive transitive closure of the moves, `iterate` is the
  loop with fuel, and `Traced` is a run together with what an observer writes
  down before each move.  The rules are the invariant rule, the frame rule for
  relations between the ends of a run, and that a run whose states all satisfy
  an invariant that bounds a counter halts.
-/
import Mathlib.Logic.Relation
import Mathlib.Algebra.Order.Ring.Nat

namespace DmSimulator

namespace Run

variable {σ ε β : Type} (step : σ → Except ε (Option σ))

/-- `step` moves from `s` to `t`. -/
def Moves (s t : σ) : Prop := step s = .ok (some t)

/-- `step` has nothing left to do. -/
def Halted (s : σ) : Prop := step s = .ok none

/-- Some number of moves leads from `s` to `t`. -/
def Reaches : σ → σ → Prop := Relation.ReflTransGen (Moves step)

/-- The loop: move until the machine halts.  `.ok none` means out of fuel. -/
def iterate : Nat → σ → Except ε (Option σ)
  | 0, _ => .ok none
  | fuel + 1, s =>
      match step s with
      | .error e => .error e
      | .ok none => .ok (some s)
      | .ok (some t) => iterate fuel t

/-- The loop ends in `t` for some amount of fuel. -/
def EndsIn (s t : σ) : Prop := ∃ fuel, iterate step fuel s = .ok (some t)

/-- Some number of moves, each out of an allowed state, leads from `s` to `t`. -/
def ReachesWhile (allowed : σ → Prop) : σ → σ → Prop :=
  Relation.ReflTransGen (fun s t => allowed s ∧ Moves step s t)

variable {step}

-- ============================================================================
-- Invariants
-- ============================================================================

/-- The invariant rule. -/
theorem invariant_of_reaches (Inv : σ → Prop) {s t : σ}
    (hstep : ∀ a b, Inv a → Moves step a b → Inv b) (hs : Inv s) (h : Reaches step s t) :
    Inv t := by
  induction h with
  | refl => exact hs
  | tail _ hmove ih => exact hstep _ _ ih hmove

/-- The invariant rule for runs out of allowed states. -/
theorem invariant_of_reachesWhile (Inv : σ → Prop) {allowed : σ → Prop} {s t : σ}
    (hstep : ∀ a b, Inv a → allowed a → Moves step a b → Inv b) (hs : Inv s)
    (h : ReachesWhile step allowed s t) : Inv t := by
  induction h with
  | refl => exact hs
  | tail _ hmove ih => exact hstep _ _ ih hmove.1 hmove.2

theorem ReachesWhile.reaches {allowed : σ → Prop} {s t : σ}
    (h : ReachesWhile step allowed s t) : Reaches step s t := by
  induction h with
  | refl => exact Relation.ReflTransGen.refl
  | tail _ hmove ih => exact ih.tail hmove.2

/-- The frame rule: a transitive relation kept by every move out of the
    invariant relates the ends of a run. -/
theorem relates_of_reaches {Inv : σ → Prop} {R : σ → σ → Prop} {s t : σ}
    (hstep : ∀ a b, Inv a → Moves step a b → Inv b)
    (hrefl : ∀ a, R a a) (htrans : ∀ a b c, R a b → R b c → R a c)
    (hmove : ∀ a b, Inv a → Moves step a b → R a b)
    (hs : Inv s) (h : Reaches step s t) : R s t := by
  have main : Inv t ∧ R s t := by
    induction h with
    | refl => exact ⟨hs, hrefl s⟩
    | tail _ hm ih => exact ⟨hstep _ _ ih.1 hm, htrans _ _ _ ih.2 (hmove _ _ ih.1 hm)⟩
  exact main.2

-- ============================================================================
-- The loop
-- ============================================================================

theorem iterate_succ_of_moves {s t : σ} {fuel : Nat} (h : Moves step s t) :
    iterate step (fuel + 1) s = iterate step fuel t := by
  unfold Moves at h
  simp [iterate, h]

theorem iterate_succ_of_halted {s : σ} {fuel : Nat} (h : Halted step s) :
    iterate step (fuel + 1) s = .ok (some s) := by
  unfold Halted at h
  simp [iterate, h]

/-- What the loop returns is reached, and halted. -/
theorem reaches_of_iterate {fuel : Nat} {s t : σ} (h : iterate step fuel s = .ok (some t)) :
    Reaches step s t ∧ Halted step t := by
  induction fuel generalizing s with
  | zero => simp [iterate] at h
  | succ fuel ih =>
      cases hs : step s with
      | error e => simp [iterate, hs] at h
      | ok next =>
          cases next with
          | none =>
              have hst : s = t := by simpa [iterate, hs] using h
              subst hst
              exact ⟨Relation.ReflTransGen.refl, hs⟩
          | some u =>
              have hu : iterate step fuel u = .ok (some t) := by simpa [iterate, hs] using h
              obtain ⟨hreach, hhalt⟩ := ih hu
              exact ⟨Relation.ReflTransGen.head hs hreach, hhalt⟩

theorem EndsIn.reaches {s t : σ} (h : EndsIn step s t) : Reaches step s t := by
  obtain ⟨fuel, hfuel⟩ := h
  exact (reaches_of_iterate hfuel).1

theorem EndsIn.halted {s t : σ} (h : EndsIn step s t) : Halted step t := by
  obtain ⟨fuel, hfuel⟩ := h
  exact (reaches_of_iterate hfuel).2

/-- A halted state that is reached is where the loop ends. -/
theorem endsIn_of_reaches {s t : σ} (h : Reaches step s t) (hhalt : Halted step t) :
    EndsIn step s t := by
  induction h using Relation.ReflTransGen.head_induction_on with
  | refl => exact ⟨1, iterate_succ_of_halted hhalt⟩
  | head hmove _ ih =>
      obtain ⟨fuel, hfuel⟩ := ih
      exact ⟨fuel + 1, by rw [iterate_succ_of_moves hmove]; exact hfuel⟩

/-- At most the given number of moves. -/
def advance (step : σ → Except ε (Option σ)) : Nat → σ → σ
  | 0, s => s
  | moves + 1, s =>
      match step s with
      | .ok (some t) => advance step moves t
      | _ => s

theorem reaches_advance (moves : Nat) (s : σ) : Reaches step s (advance step moves s) := by
  induction moves generalizing s with
  | zero => exact Relation.ReflTransGen.refl
  | succ moves ih =>
      rw [advance]
      split
      · next hmove => exact Relation.ReflTransGen.head hmove (ih _)
      · exact Relation.ReflTransGen.refl

/-- The loop, given up at a state that fails the test. -/
def iterateWhile (step : σ → Except ε (Option σ)) (test : σ → Bool) : Nat → σ → Option σ
  | 0, _ => none
  | fuel + 1, s =>
      match step s with
      | .error _ => none
      | .ok none => some s
      | .ok (some t) => if test s then iterateWhile step test fuel t else none

/-- A loop that is not given up has moved out of states that pass the test. -/
theorem reachesWhile_of_iterateWhile {test : σ → Bool} {fuel : Nat} {s t : σ}
    (h : iterateWhile step test fuel s = some t) :
    ReachesWhile step (fun u => test u = true) s t ∧ Halted step t := by
  induction fuel generalizing s with
  | zero => cases h
  | succ fuel ih =>
      cases hs : step s with
      | error e => simp [iterateWhile, hs] at h
      | ok next =>
          cases next with
          | none =>
              have hst : s = t := by simpa [iterateWhile, hs] using h
              subst hst
              exact ⟨Relation.ReflTransGen.refl, hs⟩
          | some u =>
              cases htest : test s with
              | false => simp [iterateWhile, hs, htest] at h
              | true =>
                  have hu : iterateWhile step test fuel u = some t := by
                    simpa [iterateWhile, hs, htest] using h
                  obtain ⟨hreach, hhalt⟩ := ih hu
                  exact ⟨Relation.ReflTransGen.head ⟨htest, hs⟩ hreach, hhalt⟩

theorem ReachesWhile.mono {allowed allowed' : σ → Prop} {s t : σ}
    (h : ReachesWhile step allowed s t) (himp : ∀ u, allowed u → allowed' u) :
    ReachesWhile step allowed' s t := by
  induction h with
  | refl => exact Relation.ReflTransGen.refl
  | tail _ hmove ih => exact ih.tail ⟨himp _ hmove.1, hmove.2⟩

/-- More fuel does not change the outcome, so the loop has one end. -/
theorem iterate_mono {fuel fuel' : Nat} {s t : σ} (h : iterate step fuel s = .ok (some t))
    (hle : fuel ≤ fuel') : iterate step fuel' s = .ok (some t) := by
  induction fuel generalizing s fuel' with
  | zero => simp [iterate] at h
  | succ fuel ih =>
      obtain ⟨k, rfl⟩ : ∃ k, fuel' = k + 1 := ⟨fuel' - 1, by omega⟩
      cases hs : step s with
      | error e => simp [iterate, hs] at h
      | ok next =>
          cases next with
          | none => simpa [iterate, hs] using h
          | some u =>
              have hu : iterate step fuel u = .ok (some t) := by simpa [iterate, hs] using h
              simpa [iterate, hs] using ih hu (by omega)

theorem EndsIn.unique {s t u : σ} (ht : EndsIn step s t) (hu : EndsIn step s u) : t = u := by
  obtain ⟨n, hn⟩ := ht
  obtain ⟨m, hm⟩ := hu
  have h1 := iterate_mono hn (Nat.le_max_left n m)
  have h2 := iterate_mono hm (Nat.le_max_right n m)
  rw [h1] at h2
  simpa using h2

/-- Reached states are connected: the machine is deterministic. -/
theorem reaches_total {s t u : σ} (ht : Reaches step s t) (hu : Reaches step s u) :
    Reaches step t u ∨ Reaches step u t := by
  apply Relation.ReflTransGen.total_of_right_unique _ ht hu
  intro a b c hab hac
  simpa [Moves, hab] using (hab.symm.trans hac)

/-- Every state of a run that ends lies on the way to its end. -/
theorem EndsIn.reaches_end {s t u : σ} (ht : EndsIn step s t) (hu : Reaches step s u) :
    Reaches step u t := by
  rcases reaches_total hu ht.reaches with h | h
  · exact h
  · cases Relation.ReflTransGen.cases_head h with
    | inl heq => subst heq; exact Relation.ReflTransGen.refl
    | inr hex =>
        obtain ⟨v, hv, -⟩ := hex
        have hhalt := ht.halted
        simp [Halted, Moves] at hhalt hv
        rw [hhalt] at hv
        simp at hv

/-- A machine that never throws inside an invariant, and whose invariant bounds
    a counter that grows with every move, comes to an end. -/
theorem exists_end (Inv : σ → Prop) (count : σ → Nat) (bound : Nat) {s : σ}
    (hstep : ∀ a b, Inv a → Moves step a b → Inv b)
    (hok : ∀ a, Inv a → ∃ next, step a = .ok next)
    (hcount : ∀ a b, Inv a → Moves step a b → count a < count b)
    (hbound : ∀ a, Inv a → count a ≤ bound)
    (hs : Inv s) : ∃ t, EndsIn step s t := by
  have main : ∀ n s, Inv s → bound - count s < n → ∃ t, EndsIn step s t := by
    intro n
    induction n with
    | zero => intro s _ hlt; omega
    | succ n ih =>
        intro s hs hlt
        obtain ⟨next, hnext⟩ := hok s hs
        cases next with
        | none => exact ⟨s, 1, iterate_succ_of_halted hnext⟩
        | some t =>
            have hmove : Moves step s t := hnext
            have hgrow := hcount s t hs hmove
            have ht := hstep s t hs hmove
            have hle := hbound t ht
            obtain ⟨u, fuel, hu⟩ := ih t ht (by omega)
            exact ⟨u, fuel + 1, by rw [iterate_succ_of_moves hmove]; exact hu⟩
  exact main (bound - count s + 1) s hs (by omega)

-- ============================================================================
-- Simulation
-- ============================================================================

section Simulation

variable {σ' ε' : Type} {step' : σ' → Except ε' (Option σ')}

/-- The simulation rule: if every move out of the invariant is matched by a move of
    another machine, so is every run. -/
theorem simulates_of_reaches (Inv : σ → Prop) (R : σ → σ' → Prop) {s t : σ} {s' : σ'}
    (hstep : ∀ a b, Inv a → Moves step a b → Inv b)
    (hmatch : ∀ a b a', Inv a → R a a' → Moves step a b → ∃ b', Moves step' a' b' ∧ R b b')
    (hs : Inv s) (hR : R s s') (h : Reaches step s t) : ∃ t', Reaches step' s' t' ∧ R t t' := by
  have main : Inv t ∧ ∃ t', Reaches step' s' t' ∧ R t t' := by
    induction h with
    | refl => exact ⟨hs, s', Relation.ReflTransGen.refl, hR⟩
    | tail _ hmove ih =>
        obtain ⟨hinv, t', hreach, hrel⟩ := ih
        obtain ⟨u', hmove', hrel'⟩ := hmatch _ _ _ hinv hrel hmove
        exact ⟨hstep _ _ hinv hmove, u', hreach.tail hmove', hrel'⟩
  exact main.2

/-- Related machines that halt together end in related states. -/
theorem EndsIn.simulates (Inv : σ → Prop) (R : σ → σ' → Prop) {s t : σ} {s' : σ'}
    (hstep : ∀ a b, Inv a → Moves step a b → Inv b)
    (hmatch : ∀ a b a', Inv a → R a a' → Moves step a b → ∃ b', Moves step' a' b' ∧ R b b')
    (hhalt : ∀ a a', R a a' → Halted step a → Halted step' a')
    (hs : Inv s) (hR : R s s') (h : EndsIn step s t) : ∃ t', EndsIn step' s' t' ∧ R t t' := by
  obtain ⟨t', hreach, hrel⟩ := simulates_of_reaches Inv R hstep hmatch hs hR h.reaches
  exact ⟨t', endsIn_of_reaches hreach (hhalt t t' hrel h.halted), hrel⟩

end Simulation

section Refinement

variable {α : Type} {r : α → α → Prop}

/-- The refinement rule: if every move is matched by some number of abstract steps,
    so is every run. -/
theorem refines_of_reaches (R : σ → α → Prop) {s t : σ} {a : α}
    (hmatch : ∀ u v b, R u b → Moves step u v → ∃ c, Relation.ReflTransGen r b c ∧ R v c)
    (hR : R s a) (h : Reaches step s t) : ∃ b, Relation.ReflTransGen r a b ∧ R t b := by
  induction h with
  | refl => exact ⟨a, Relation.ReflTransGen.refl, hR⟩
  | tail _ hmove ih =>
      obtain ⟨b, hb, hrel⟩ := ih
      obtain ⟨c, hc, hrel'⟩ := hmatch _ _ _ hrel hmove
      exact ⟨c, hb.trans hc, hrel'⟩

/-- Abstract steps that never branch lead to one end. -/
theorem end_unique (hunique : Relator.RightUnique r) {a b c : α}
    (hb : Relation.ReflTransGen r a b) (hc : Relation.ReflTransGen r a c)
    (hb' : ∀ d, ¬ r b d) (hc' : ∀ d, ¬ r c d) : b = c := by
  have hstuck : ∀ {x y : α}, (∀ d, ¬ r x d) → Relation.ReflTransGen r x y → x = y := by
    intro x y hx hxy
    rcases Relation.ReflTransGen.cases_head hxy with heq | ⟨d, hd, -⟩
    · exact heq
    · exact absurd hd (hx d)
  rcases Relation.ReflTransGen.total_of_right_unique hunique hb hc with hbc | hcb
  · exact hstuck hb' hbc
  · exact (hstuck hc' hcb).symm

end Refinement

-- ============================================================================
-- Observed runs
-- ============================================================================

/-- A run from `start`, with the observations `observe` made before each move. -/
inductive Traced (step : σ → Except ε (Option σ)) (observe : σ → List β) (start : σ) :
    List β → σ → Prop
  | start : Traced step observe start [] start
  | move {trace : List β} {s t : σ} :
      Traced step observe start trace s → Moves step s t →
        Traced step observe start (trace ++ observe s) t

theorem Traced.reaches {observe : σ → List β} {start s : σ} {trace : List β}
    (h : Traced step observe start trace s) : Reaches step start s := by
  induction h with
  | start => exact Relation.ReflTransGen.refl
  | move _ hmove ih => exact ih.tail hmove

/-- Every run can be observed. -/
theorem Reaches.exists_traced (observe : σ → List β) {start s : σ} (h : Reaches step start s) :
    ∃ trace, Traced step observe start trace s := by
  unfold Reaches at h
  induction h with
  | refl => exact ⟨[], .start⟩
  | tail _ hmove ih =>
      obtain ⟨trace, htraced⟩ := ih
      exact ⟨_, htraced.move hmove⟩

/-- At most the given number of moves, with the observations made on the way. -/
def traceFor (step : σ → Except ε (Option σ)) (observe : σ → List β) :
    Nat → List β → σ → List β × σ
  | 0, trace, s => (trace, s)
  | fuel + 1, trace, s =>
      match step s with
      | .ok (some t) => traceFor step observe fuel (trace ++ observe s) t
      | _ => (trace, s)

theorem traced_traceFor {observe : σ → List β} {start : σ} (fuel : Nat) {s : σ} {trace : List β}
    (h : Traced step observe start trace s) :
    Traced step observe start (traceFor step observe fuel trace s).1
      (traceFor step observe fuel trace s).2 := by
  induction fuel generalizing s trace with
  | zero => exact h
  | succ fuel ih =>
      cases hs : step s with
      | error e => simpa [traceFor, hs] using h
      | ok next =>
          cases next with
          | none => simpa [traceFor, hs] using h
          | some t => simpa [traceFor, hs] using ih (.move h hs)

end Run

end DmSimulator
