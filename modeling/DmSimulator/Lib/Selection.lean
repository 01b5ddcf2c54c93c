/-
  DmSimulator.Lib.Selection

  Selection by rank in a linear order: the linear scan for a least element,
  lists in increasing rank, and shortest prefixes that reach a goal.
-/
import Mathlib.Data.List.Sort
import Mathlib.Order.Basic

namespace DmSimulator

namespace Selection

variable {α ρ : Type} [LinearOrder ρ] (rank : α → ρ)

/-- `a` is an element of least rank. -/
structure IsLeast (items : List α) (a : α) : Prop where
  mem : a ∈ items
  le : ∀ b ∈ items, rank a ≤ rank b

/-- The scan that moves to every element of smaller rank ends at a least one. -/
theorem foldl_scan_spec (items : List α) (best : α) :
    let last := items.foldl (fun best a => if rank a < rank best then a else best) best
    (last = best ∨ last ∈ items) ∧ rank last ≤ rank best ∧
      ∀ b ∈ items, rank last ≤ rank b := by
  induction items generalizing best with
  | nil => simp
  | cons a items ih =>
      simp only [List.foldl_cons]
      by_cases h : rank a < rank best
      · rw [if_pos h]
        obtain ⟨hmem, hle, hall⟩ := ih a
        refine ⟨?_, hle.trans h.le, ?_⟩
        · rcases hmem with heq | hmem
          · exact Or.inr (by rw [heq]; exact List.mem_cons_self)
          · exact Or.inr (List.mem_cons_of_mem a hmem)
        · intro b hb
          rcases List.mem_cons.mp hb with rfl | hb
          · exact hle
          · exact hall b hb
      · rw [if_neg h]
        obtain ⟨hmem, hle, hall⟩ := ih best
        refine ⟨?_, hle, ?_⟩
        · rcases hmem with heq | hmem
          · exact Or.inl heq
          · exact Or.inr (List.mem_cons_of_mem a hmem)
        · intro b hb
          rcases List.mem_cons.mp hb with rfl | hb
          · exact hle.trans (not_lt.mp h)
          · exact hall b hb

theorem exists_isLeast {items : List α} (h : items ≠ []) : ∃ a, IsLeast rank items a := by
  cases items with
  | nil => exact absurd rfl h
  | cons first rest =>
      obtain ⟨hmem, hle, hall⟩ := foldl_scan_spec rank rest first
      refine ⟨_, List.mem_cons.mpr hmem, ?_⟩
      intro b hb
      rcases List.mem_cons.mp hb with rfl | hb
      · exact hle
      · exact hall b hb

theorem IsLeast.of_perm {rank : α → ρ} {items items' : List α} {a : α}
    (h : IsLeast rank items a) (hperm : items.Perm items') : IsLeast rank items' a :=
  ⟨hperm.subset h.mem, fun b hb => h.le b (hperm.symm.subset hb)⟩

-- ============================================================================
-- Lists in increasing rank
-- ============================================================================

/-- `sorted` lists `items` in increasing rank. -/
structure Ordered (items sorted : List α) : Prop where
  perm : sorted.Perm items
  increasing : sorted.Pairwise (fun a b => rank a < rank b)

variable {rank}

theorem Ordered.unique {items l l' : List α} (h : Ordered rank items l)
    (h' : Ordered rank items l') : l = l' := by
  apply List.Perm.eq_of_pairwise _ h.increasing h'.increasing (h.perm.trans h'.perm.symm)
  intro a b _ _ hab hba
  exact absurd hab (not_lt.mpr hba.le)

theorem exists_ordered {items : List α} (h : (items.map rank).Nodup) :
    ∃ sorted, Ordered rank items sorted := by
  let le := fun a b => rank a ≤ rank b
  have hperm : (items.insertionSort le).Perm items := List.perm_insertionSort le items
  have : Std.Total le := ⟨fun a b => le_total (rank a) (rank b)⟩
  have : IsTrans α le := ⟨fun _ _ _ => le_trans⟩
  have hsorted : (items.insertionSort le).Pairwise le := List.pairwise_insertionSort le items
  have hne : (items.insertionSort le).Pairwise (fun a b => rank a ≠ rank b) :=
    List.pairwise_map.mp (((hperm.map rank).nodup_iff).mpr h)
  refine ⟨items.insertionSort le, hperm, ?_⟩
  exact (hsorted.and hne).imp fun hab => lt_of_le_of_ne hab.1 hab.2

theorem Ordered.of_perm {items items' sorted : List α} (h : Ordered rank items sorted)
    (hperm : items.Perm items') : Ordered rank items' sorted :=
  ⟨h.perm.trans hperm, h.increasing⟩

/-- The head of an ordered list is a least element. -/
theorem Ordered.isLeast_head {items sorted : List α} {a : α}
    (h : Ordered rank items (a :: sorted)) : IsLeast rank items a := by
  refine ⟨h.perm.subset List.mem_cons_self, ?_⟩
  intro b hb
  rcases List.mem_cons.mp (h.perm.symm.subset hb) with rfl | hb
  · exact le_rfl
  · exact ((List.pairwise_cons.mp h.increasing).1 b hb).le

-- ============================================================================
-- Shortest prefixes
-- ============================================================================

/-- `shortest` is a part of the front of `l` that reaches the goal, and nothing
    shorter does. -/
structure IsShortestPrefix (goal : List α → Prop) (l shortest : List α) : Prop where
  front : shortest <+: l
  reaches : goal shortest
  minimal : ∀ shorter, shorter <+: shortest → shorter ≠ shortest → ¬ goal shorter

theorem IsShortestPrefix.unique {goal : List α → Prop} {l s s' : List α}
    (h : IsShortestPrefix goal l s) (h' : IsShortestPrefix goal l s') : s = s' := by
  rcases List.prefix_or_prefix_of_prefix h.front h'.front with hss' | hs's
  · by_contra hne
    exact h'.minimal s hss' hne h.reaches
  · by_contra hne
    exact h.minimal s' hs's (fun heq => hne heq.symm) h'.reaches

theorem exists_isShortestPrefix {goal : List α → Prop} {l : List α} (h : goal l) :
    ∃ s, IsShortestPrefix goal l s := by
  classical
  have hex : ∃ n, goal (l.take n) := ⟨l.length, by rw [List.take_length]; exact h⟩
  refine ⟨l.take (Nat.find hex), List.take_prefix _ _, Nat.find_spec hex, ?_⟩
  intro shorter hfront hne hgoal
  have htake : shorter = l.take shorter.length :=
    List.prefix_iff_eq_take.mp (hfront.trans (List.take_prefix _ _))
  have hlen : shorter.length < Nat.find hex := by
    have hle := hfront.length_le
    have hbound : (l.take (Nat.find hex)).length ≤ Nat.find hex := List.length_take_le _ _
    rcases Nat.lt_or_eq_of_le hle with hlt | heq
    · omega
    · exact absurd (List.IsPrefix.eq_of_length hfront heq) hne
  rw [htake] at hgoal
  exact Nat.find_min hex hlen hgoal

end Selection

end DmSimulator
