/-
  DmSimulator.Lib.Recency

  Logs of timed uses of keys, oldest use first.

  `lastUse` is the time that the last use of a key carries and `age` the number
  of uses made since.  In a chronological log the times of the last uses rank the
  keys by age, up to keys whose last uses carry the same time (`LessRecent`).

  Two chronological logs of the same uses compare their times alike if they agree
  on which consecutive uses carry the same time (`TiedAlike`).
-/
import Mathlib.Data.List.Basic
import Mathlib.Data.List.Induction
import Mathlib.Order.Lattice

namespace DmSimulator

namespace Recency

variable {κ τ : Type}

/-- The uses carry the times in the order in which they were made. -/
def Chronological [LE τ] (uses : List (κ × τ)) : Prop :=
  (uses.map Prod.snd).Pairwise (· ≤ ·)

theorem chronological_snoc [LE τ] {uses : List (κ × τ)} {k : κ} {time : τ} :
    Chronological (uses ++ [(k, time)]) ↔
      Chronological uses ∧ ∀ use ∈ uses, use.2 ≤ time := by
  unfold Chronological
  rw [List.map_append, List.pairwise_append]
  refine and_congr_right fun _ => ⟨fun h use huse => ?_, fun h => ?_⟩
  · exact h.2 use.2 (List.mem_map_of_mem huse) time (List.mem_singleton_self _)
  · refine ⟨List.pairwise_singleton _ _, fun t ht last hlast => ?_⟩
    obtain ⟨use, huse, rfl⟩ := List.mem_map.mp ht
    rw [List.mem_singleton.mp hlast]
    exact h use huse

variable [DecidableEq κ]

/-- The time of the last use of a key. -/
def lastUse (uses : List (κ × τ)) (key : κ) : Option τ :=
  (uses.reverse.find? fun use => use.1 = key).map Prod.snd

/-- The number of uses made since the last use of a key. -/
def age (uses : List (κ × τ)) (key : κ) : Nat := (uses.reverse.map Prod.fst).idxOf key

/-- The last use of `a` was made before the last use of `b`. -/
def UsedEarlier (uses : List (κ × τ)) (a b : κ) : Prop := age uses b < age uses a

/-- The last uses of `a` and `b` carry the same time. -/
def UsedTogether (uses : List (κ × τ)) (a b : κ) : Prop := lastUse uses a = lastUse uses b

/-- `a` was used less recently than `b`; keys whose last uses carry the same time
    rank by themselves. -/
def LessRecent [LT κ] (uses : List (κ × τ)) (a b : κ) : Prop :=
  ¬ UsedTogether uses a b ∧ UsedEarlier uses a b ∨ UsedTogether uses a b ∧ a < b

@[simp] theorem lastUse_nil (key : κ) : lastUse ([] : List (κ × τ)) key = none := rfl

theorem lastUse_snoc (uses : List (κ × τ)) (k : κ) (time : τ) (key : κ) :
    lastUse (uses ++ [(k, time)]) key = if k = key then some time else lastUse uses key := by
  unfold lastUse
  rw [List.reverse_append, List.reverse_singleton, List.singleton_append, List.find?_cons]
  by_cases h : k = key <;> simp [h]

theorem age_snoc (uses : List (κ × τ)) (k : κ) (time : τ) (key : κ) :
    age (uses ++ [(k, time)]) key = if k = key then 0 else age uses key + 1 := by
  unfold age
  rw [List.reverse_append, List.reverse_singleton, List.singleton_append, List.map_cons]
  by_cases h : k = key
  · rw [if_pos h, h, List.idxOf_cons_self]
  · rw [if_neg h, List.idxOf_cons_ne _ h]

/-- The last use of a key was made. -/
theorem mem_of_lastUse {uses : List (κ × τ)} {key : κ} {time : τ}
    (h : lastUse uses key = some time) : (key, time) ∈ uses := by
  obtain ⟨use, hfind, rfl⟩ := Option.map_eq_some_iff.mp h
  obtain rfl : use.1 = key := by simpa using List.find?_some hfind
  exact List.mem_reverse.mp (List.mem_of_find?_eq_some hfind)

section Order

variable [LinearOrder τ]

/-- An earlier time of the last use is an earlier last use. -/
theorem usedEarlier_of_lt {uses : List (κ × τ)} (h : Chronological uses) {a b : κ} {ta tb : τ}
    (ha : lastUse uses a = some ta) (hb : lastUse uses b = some tb) (hlt : ta < tb) :
    UsedEarlier uses a b := by
  unfold UsedEarlier
  induction uses using List.reverseRecOn with
  | nil => simp at ha
  | append_singleton uses use ih =>
      obtain ⟨k, time⟩ := use
      obtain ⟨hsorted, hlast⟩ := chronological_snoc.mp h
      rw [age_snoc, age_snoc]
      rw [lastUse_snoc] at ha hb
      by_cases hkb : k = b
      · by_cases hka : k = a
        · rw [if_pos hka] at ha
          rw [if_pos hkb] at hb
          obtain rfl := Option.some.inj (ha.symm.trans hb)
          exact absurd hlt (lt_irrefl _)
        · rw [if_pos hkb, if_neg hka]
          exact Nat.succ_pos _
      · rw [if_neg hkb] at hb
        by_cases hka : k = a
        · -- the newest use is that of `a`, but it carries the earlier time
          rw [if_pos hka] at ha
          obtain rfl := Option.some.inj ha
          exact absurd hlt (not_lt.mpr (hlast _ (mem_of_lastUse hb)))
        · rw [if_neg hka] at ha
          rw [if_neg hkb, if_neg hka]
          exact Nat.succ_lt_succ (ih hsorted ha hb)

/-- The times of the last uses, then the keys, rank by recency. -/
theorem lessRecent_of_lt [LT κ] {uses : List (κ × τ)} (h : Chronological uses) {a b : κ}
    {ta tb : τ} (ha : lastUse uses a = some ta) (hb : lastUse uses b = some tb)
    (hlt : ta < tb ∨ ta = tb ∧ a < b) : LessRecent uses a b := by
  rcases hlt with hlt | ⟨rfl, hkeys⟩
  · refine Or.inl ⟨?_, usedEarlier_of_lt h ha hb hlt⟩
    intro htogether
    obtain rfl := Option.some.inj (ha.symm.trans (htogether.trans hb))
    exact lt_irrefl _ hlt
  · exact Or.inr ⟨ha.trans hb.symm, hkeys⟩

end Order

-- ============================================================================
-- Two logs of the same uses
-- ============================================================================

section Pairs

variable {τ' : Type}

/-- Each use carries a time in either log: `q` is later than `p` in both, and carries the
    time of `p` in both or in neither. -/
structure FollowsAlike [LE τ] [LE τ'] (p q : τ × τ') : Prop where
  fst_le : p.1 ≤ q.1
  snd_le : p.2 ≤ q.2
  tie_iff : p.1 = q.1 ↔ p.2 = q.2

/-- The times of the uses in the two logs, oldest first. -/
def TiedAlike [LE τ] [LE τ'] (pairs : List (τ × τ')) : Prop := pairs.Pairwise FollowsAlike

theorem tiedAlike_nil [LE τ] [LE τ'] : TiedAlike ([] : List (τ × τ')) := List.Pairwise.nil

theorem FollowsAlike.trans [PartialOrder τ] [PartialOrder τ'] {p q r : τ × τ'}
    (hpq : FollowsAlike p q) (hqr : FollowsAlike q r) : FollowsAlike p r := by
  refine ⟨hpq.fst_le.trans hqr.fst_le, hpq.snd_le.trans hqr.snd_le, fun htie => ?_, fun htie => ?_⟩
  · -- the time between equal times is the same
    have hpq' : p.1 = q.1 := le_antisymm hpq.fst_le (htie ▸ hqr.fst_le)
    have hqr' : q.1 = r.1 := hpq'.symm.trans htie
    exact (hpq.tie_iff.mp hpq').trans (hqr.tie_iff.mp hqr')
  · have hpq' : p.2 = q.2 := le_antisymm hpq.snd_le (htie ▸ hqr.snd_le)
    have hqr' : q.2 = r.2 := hpq'.symm.trans htie
    exact (hpq.tie_iff.mpr hpq').trans (hqr.tie_iff.mpr hqr')

/-- One more use: it is enough to compare it with the one before. -/
theorem TiedAlike.snoc [PartialOrder τ] [PartialOrder τ'] {pairs : List (τ × τ')} {q : τ × τ'}
    (h : TiedAlike pairs) (hlast : ∀ p ∈ pairs.getLast?, FollowsAlike p q) :
    TiedAlike (pairs ++ [q]) := by
  unfold TiedAlike at h ⊢
  refine List.pairwise_append.mpr ⟨h, List.pairwise_singleton _ _, fun p hp r hr => ?_⟩
  rw [List.mem_singleton.mp hr]
  induction pairs using List.reverseRecOn with
  | nil => cases hp
  | append_singleton front last _ =>
      have hq : FollowsAlike last q := hlast last (by simp)
      rcases List.mem_append.mp hp with hin | hin
      · exact ((List.pairwise_append.mp h).2.2 p hin last (List.mem_singleton_self _)).trans hq
      · rw [List.mem_singleton.mp hin]
        exact hq

section Compare

variable [LinearOrder τ] [LinearOrder τ'] {pairs : List (τ × τ')} {p q : τ × τ'}

theorem FollowsAlike.compare (h : FollowsAlike p q) :
    (p.1 < q.1 ↔ p.2 < q.2) ∧ (q.1 < p.1 ↔ q.2 < p.2) ∧ (p.1 = q.1 ↔ p.2 = q.2) := by
  refine ⟨?_, iff_of_false (not_lt.mpr h.fst_le) (not_lt.mpr h.snd_le), h.tie_iff⟩
  rw [lt_iff_le_and_ne, lt_iff_le_and_ne, ne_eq, ne_eq, h.tie_iff]
  exact and_congr_left fun _ => iff_of_true h.fst_le h.snd_le

/-- The two logs compare the times of two uses alike. -/
theorem TiedAlike.compare (h : TiedAlike pairs) (hp : p ∈ pairs) (hq : q ∈ pairs) :
    (p.1 < q.1 ↔ p.2 < q.2) ∧ (p.1 = q.1 ↔ p.2 = q.2) := by
  induction h with
  | nil => cases hp
  | @cons first rest hfirst _ ih =>
      rcases List.mem_cons.mp hp with rfl | hp'
      · rcases List.mem_cons.mp hq with rfl | hq'
        · exact ⟨iff_of_false (lt_irrefl _) (lt_irrefl _), iff_of_true rfl rfl⟩
        · obtain ⟨hlt, -, heq⟩ := (hfirst q hq').compare
          exact ⟨hlt, heq⟩
      · rcases List.mem_cons.mp hq with rfl | hq'
        · obtain ⟨-, hlt, heq⟩ := (hfirst p hp').compare
          exact ⟨hlt, eq_comm.trans (heq.trans eq_comm)⟩
        · exact ih hp' hq'

end Compare

end Pairs

end Recency

end DmSimulator
