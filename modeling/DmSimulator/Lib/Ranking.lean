/-
  DmSimulator.Lib.Ranking

  Sorting with a hand-written comparator.

  `less a b` says that `a` comes before `b`, as the comparator of a C++ sort does.
  A correct sort, stable or not, may return any permutation in which no element
  comes before one that stands ahead of it (`IsSortOf`).  Where the comparator
  leaves no two different elements tied (`Total`) that is one list; where it
  ranks by a key of a linear order it is one list only there
  (`determined_iff_total`).
-/
import Mathlib.Data.List.Sort
import Mathlib.Data.Prod.Lex
import Mathlib.Order.Lattice

namespace DmSimulator

namespace Ranking

variable {α : Type}

/-- What a correct sort of `items` may return. -/
structure IsSortOf (less : α → α → Bool) (items sorted : List α) : Prop where
  perm : sorted.Perm items
  ordered : sorted.Pairwise fun a b => less b a = false

/-- The comparator leaves no two different items tied. -/
def Total (less : α → α → Bool) (items : List α) : Prop :=
  ∀ a ∈ items, ∀ b ∈ items, less a b = false → less b a = false → a = b

/-- Every sort of every permutation of the items is the same list. -/
def Determined (less : α → α → Bool) (items : List α) : Prop :=
  ∀ items' sorted sorted', items'.Perm items → IsSortOf less items sorted →
    IsSortOf less items' sorted' → sorted' = sorted

/-- A stable sort. -/
def sortBy (less : α → α → Bool) (items : List α) : List α :=
  items.insertionSort (fun a b => less b a = false)

theorem Total.determined {less : α → α → Bool} {items : List α} (h : Total less items) :
    Determined less items := by
  intro items' sorted sorted' hperm hsorted hsorted'
  have hsame : sorted'.Perm sorted := hsorted'.perm.trans (hperm.trans hsorted.perm.symm)
  apply List.Perm.eq_of_pairwise _ hsorted'.ordered hsorted.ordered hsame
  intro a b ha hb hab hba
  have hmem := (hsorted'.perm.trans hperm).subset ha
  exact h a hmem b (hsorted.perm.subset hb) hba hab

-- ============================================================================
-- Comparators that rank by a key
-- ============================================================================

section Rank

variable {ρ σ : Type} [LinearOrder ρ] [LinearOrder σ]

/-- The comparator compares ranks. -/
def RanksBy (rank : α → ρ) (less : α → α → Bool) : Prop :=
  ∀ a b, less a b = true ↔ rank a < rank b

variable {rank : α → ρ} {less : α → α → Bool}

theorem RanksBy.eq_false_iff (h : RanksBy rank less) (a b : α) :
    less a b = false ↔ rank b ≤ rank a := by
  rw [← Bool.not_eq_true, h a b, not_lt]

theorem RanksBy.total_iff (h : RanksBy rank less) (items : List α) :
    Total less items ↔ ∀ a ∈ items, ∀ b ∈ items, rank a = rank b → a = b := by
  unfold Total
  constructor
  · intro htotal a ha b hb heq
    apply htotal a ha b hb
    · exact (h.eq_false_iff a b).mpr heq.ge
    · exact (h.eq_false_iff b a).mpr heq.le
  · intro hinj a ha b hb hab hba
    have hle := (h.eq_false_iff a b).mp hab
    have hge := (h.eq_false_iff b a).mp hba
    exact hinj a ha b hb (le_antisymm hge hle)

/-- The stable sort is a sort. -/
theorem RanksBy.isSortOf_sortBy (h : RanksBy rank less) (items : List α) :
    IsSortOf less items (sortBy less items) := by
  have htotal : Std.Total fun a b => less b a = false := by
    constructor
    intro a b
    rw [h.eq_false_iff, h.eq_false_iff]
    exact le_total _ _
  have htrans : IsTrans α fun a b => less b a = false := by
    constructor
    intro a b c hab hbc
    rw [h.eq_false_iff] at hab hbc ⊢
    exact hab.trans hbc
  exact ⟨List.perm_insertionSort _ _, List.pairwise_insertionSort _ _⟩

/-- Tied items can stand in either order. -/
theorem RanksBy.exists_sorts (h : RanksBy rank less) {a b : α} (htie : rank a = rank b)
    (rest : List α) : ∃ before after,
      IsSortOf less (a :: b :: rest) (before ++ a :: b :: after) ∧
      IsSortOf less (a :: b :: rest) (before ++ b :: a :: after) := by
  obtain ⟨hperm, hordered⟩ := h.isSortOf_sortBy rest
  let before := (sortBy less rest).filter (fun x => rank x < rank a)
  let after := (sortBy less rest).filter (fun x => ! decide (rank x < rank a))
  have hparts : (before ++ after).Perm rest := by
    simp only [before, after]
    exact (List.filter_append_perm _ _).trans hperm
  have hbefore : ∀ x ∈ before, rank x < rank a := by
    intro x hx
    simpa using (List.mem_filter.mp hx).2
  have hafter : ∀ x ∈ after, rank a ≤ rank x := by
    intro x hx
    simpa using (List.mem_filter.mp hx).2
  -- the ties `c` and `d` go between the elements before them and those after
  have hsort : ∀ c d, rank c = rank a → rank d = rank a → (c :: d :: rest).Perm (a :: b :: rest) →
      IsSortOf less (a :: b :: rest) (before ++ c :: d :: after) := by
    intro c d hc hd hties
    constructor
    · refine (List.perm_middle.trans ?_).trans hties
      exact List.Perm.cons c (List.perm_middle.trans (List.Perm.cons d hparts))
    · apply List.pairwise_append.mpr
      refine ⟨hordered.sublist List.filter_sublist, ?_, ?_⟩
      · apply List.pairwise_cons.mpr
        constructor
        · intro x hx
          rw [h.eq_false_iff, hc]
          rcases List.mem_cons.mp hx with rfl | hx
          · exact hd.ge
          · exact hafter x hx
        · apply List.pairwise_cons.mpr
          constructor
          · intro x hx
            rw [h.eq_false_iff, hd]
            exact hafter x hx
          · exact hordered.sublist List.filter_sublist
      · intro x hx y hy
        rw [h.eq_false_iff]
        apply (hbefore x hx).le.trans
        rcases List.mem_cons.mp hy with rfl | hy
        · exact hc.ge
        · rcases List.mem_cons.mp hy with rfl | hy
          · exact hd.ge
          · exact hafter y hy
  exact ⟨before, after, hsort a b rfl htie.symm (List.Perm.refl _),
    hsort b a htie.symm rfl (List.Perm.swap a b rest)⟩

/-- A ranking is one list just where it leaves no two different items tied. -/
theorem RanksBy.determined_iff_total (h : RanksBy rank less) (items : List α) :
    Determined less items ↔ Total less items := by
  refine ⟨fun hdetermined => (h.total_iff items).mpr ?_, fun htotal => htotal.determined⟩
  intro a ha b hb htie
  by_contra hne
  classical
  have hb' : b ∈ items.erase a := (List.mem_erase_of_ne (Ne.symm hne)).mpr hb
  have hperm : (a :: b :: (items.erase a).erase b).Perm items :=
    (List.Perm.cons a (List.perm_cons_erase hb').symm).trans (List.perm_cons_erase ha).symm
  obtain ⟨before, after, hab, hba⟩ := h.exists_sorts htie ((items.erase a).erase b)
  have hsort : IsSortOf less items (before ++ a :: b :: after) :=
    ⟨hab.perm.trans hperm, hab.ordered⟩
  have heq := hdetermined _ _ _ hperm hsort hba
  have hhead := List.append_cancel_left heq
  exact hne (List.cons.inj hhead).1.symm

/-- One key, ascending. -/
theorem ranksBy_key (key : α → ρ) : RanksBy key fun a b => key a < key b := by
  intro a b
  exact decide_eq_true_iff

/-- One more key in front, ascending. -/
theorem RanksBy.lex (h : RanksBy rank less) (key : α → σ) :
    RanksBy (fun a => toLex (key a, rank a)) fun a b =>
      if key a ≠ key b then decide (key a < key b) else less a b := by
  intro a b
  rw [Prod.Lex.toLex_lt_toLex]
  by_cases heq : key a = key b
  · simp [heq, h a b]
  · simp [heq]

/-- One more key in front, descending. -/
theorem RanksBy.lexDesc (h : RanksBy rank less) (key : α → σ) :
    RanksBy (fun a => toLex (OrderDual.toDual (key a), rank a)) fun a b =>
      if key a ≠ key b then decide (key a > key b) else less a b := by
  intro a b
  rw [Prod.Lex.toLex_lt_toLex]
  by_cases heq : key a = key b
  · simp [heq, h a b]
  · simp [heq]

end Rank

-- ============================================================================
-- Reported lists
-- ============================================================================

/-- A list reported from a ranking of records: the comparator leaves no two different
    records tied, and whatever sort of whatever permutation of them the report is
    read off, it is this one. -/
structure Reports {β : Type} (less : α → α → Bool) (records : List α)
    (report : List α → List β) (reported : List β) : Prop where
  total : Total less records
  determined : ∀ items sorted, items.Perm records → IsSortOf less items sorted →
    report sorted = reported

/-- What is read off one sort is reported, where the comparator is total. -/
theorem Reports.of_isSortOf {β : Type} {less : α → α → Bool} {records sorted : List α}
    (report : List α → List β) (htotal : Total less records)
    (hsorted : IsSortOf less records sorted) :
    Reports less records report (report sorted) := by
  refine ⟨htotal, fun items sorted' hperm hsorted' => ?_⟩
  rw [htotal.determined items sorted sorted' hperm hsorted hsorted']

end Ranking

end DmSimulator
