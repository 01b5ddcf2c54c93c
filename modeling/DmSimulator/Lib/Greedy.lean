/-
  DmSimulator.Lib.Greedy

  Filling a bounded space from a ranked list.

  `FitsUpTo` is what a greedy fill keeps: the candidates that are small enough to
  fit at all, in order, up to the first that no longer fits.  With equal sizes
  and the ranking by weight nothing that fits outweighs it (`sum_le_of_heaviest`,
  an exchange argument).
-/
import Mathlib.Algebra.BigOperators.Group.Finset.Piecewise
import Mathlib.Algebra.Order.BigOperators.Group.Finset
import Mathlib.Algebra.Order.Ring.Nat

namespace DmSimulator

section Fill

variable {α : Type} (size : α → Nat) (capacity : Nat)

/-- `kept` is a front of the candidates that fit one by one; it fits as a whole,
    and with its next candidate it would not. -/
structure FitsUpTo (candidates kept : List α) : Prop where
  front : kept <+: candidates.filter (fun a => size a ≤ capacity)
  fits : (kept.map size).sum ≤ capacity
  stops : ∀ next, kept ++ [next] <+: candidates.filter (fun a => size a ≤ capacity) →
    capacity < (kept.map size).sum + size next

/-- The greedy fill of what is left of the space. -/
def fill : Nat → List α → List α
  | _, [] => []
  | used, a :: rest =>
      if size a > capacity then fill used rest
      else if used + size a > capacity then []
      else a :: fill (used + size a) rest

variable {size capacity}

theorem fill_spec (candidates : List α) (used : Nat) (hused : used ≤ capacity) :
    fill size capacity used candidates <+:
        candidates.filter (fun a => size a ≤ capacity) ∧
      used + ((fill size capacity used candidates).map size).sum ≤ capacity ∧
      ∀ next, fill size capacity used candidates ++ [next] <+:
          candidates.filter (fun a => size a ≤ capacity) →
        capacity < used + ((fill size capacity used candidates).map size).sum + size next := by
  induction candidates generalizing used with
  | nil =>
      refine ⟨List.nil_prefix, by simpa [fill] using hused, ?_⟩
      intro next hnext
      rw [fill, List.filter_nil, List.prefix_nil] at hnext
      cases hnext
  | cons a rest ih =>
      rw [fill]
      by_cases hlarge : size a > capacity
      · rw [if_pos hlarge, List.filter_cons_of_neg (by simpa using hlarge)]
        exact ih used hused
      rw [if_neg hlarge, List.filter_cons_of_pos (by simpa using Nat.le_of_not_gt hlarge)]
      by_cases hfull : used + size a > capacity
      · rw [if_pos hfull]
        refine ⟨List.nil_prefix, by simpa using hused, ?_⟩
        intro next hnext
        obtain ⟨rfl, -⟩ := List.cons_prefix_cons.mp hnext
        simpa using hfull
      · rw [if_neg hfull]
        obtain ⟨hfront, hfits, hstops⟩ := ih (used + size a) (Nat.le_of_not_gt hfull)
        refine ⟨List.cons_prefix_cons.mpr ⟨rfl, hfront⟩, ?_, ?_⟩
        · rw [List.map_cons, List.sum_cons]
          omega
        · intro next hnext
          rw [List.cons_append] at hnext
          have hlt := hstops next (List.cons_prefix_cons.mp hnext).2
          rw [List.map_cons, List.sum_cons]
          omega

theorem fitsUpTo_fill (candidates : List α) :
    FitsUpTo size capacity candidates (fill size capacity 0 candidates) := by
  obtain ⟨hfront, hfits, hstops⟩ := @fill_spec α size capacity candidates 0 (Nat.zero_le capacity)
  refine ⟨hfront, by omega, fun next hnext => ?_⟩
  have hlt := hstops next hnext
  omega

/-- With equal sizes nothing larger fits, unless everything fits. -/
theorem FitsUpTo.card_le {candidates kept : List α} (h : FitsUpTo size capacity candidates kept)
    {n : Nat} (hsize : ∀ a ∈ candidates, size a = n) (hfits : n ≤ capacity) {chosen : Finset α}
    (hchosen : chosen.card * n ≤ capacity) :
    kept <+: candidates ∧ (chosen.card ≤ kept.length ∨ kept = candidates) := by
  have hall : candidates.filter (fun a => size a ≤ capacity) = candidates :=
    List.filter_eq_self.mpr fun a ha => by simpa [hsize a ha] using hfits
  have hfront := h.front
  rw [hall] at hfront
  refine ⟨hfront, ?_⟩
  obtain ⟨rest, heq⟩ := id hfront
  cases rest with
  | nil => exact Or.inr (by rw [← heq, List.append_nil])
  | cons next rest =>
      left
      have hnext : kept ++ [next] <+: candidates := ⟨rest, by rw [← heq]; simp⟩
      have hmem : next ∈ candidates := hnext.subset (by simp)
      have hlt := h.stops next (by rwa [hall])
      have hsum : (kept.map size).sum = kept.length * n := by
        rw [List.map_congr_left fun a ha => hsize a (hfront.subset ha), List.map_const',
          List.sum_replicate, Nat.nsmul_eq_mul]
      rw [hsum, hsize next hmem, ← Nat.succ_mul] at hlt
      exact Nat.le_of_lt_succ (Nat.lt_of_mul_lt_mul_right (lt_of_le_of_lt hchosen hlt))

end Fill

section Exchange

variable {α : Type} [DecidableEq α] {weight : α → Nat} {candidates kept : List α}

/-- Nothing outside a front of a list ranked by weight outweighs what is in it. -/
theorem weight_le_of_front (hnodup : candidates.Nodup)
    (hranked : candidates.Pairwise (fun a b => weight b ≤ weight a))
    (hfront : kept <+: candidates) (hzero : ∀ a ∉ candidates, weight a = 0) {a b : α}
    (ha : a ∈ kept) (hb : b ∉ kept) : weight b ≤ weight a := by
  by_cases hmem : b ∈ candidates
  · obtain ⟨rest, rfl⟩ := hfront
    have hrest : b ∈ rest := (List.mem_append.mp hmem).resolve_left hb
    exact (List.pairwise_append.mp hranked).2.2 a ha b hrest
  · rw [hzero b hmem]
    exact Nat.zero_le _

/-- The front of a ranked list is the heaviest set of its size: what another set
    has that is not in the front is exchanged for what is. -/
theorem sum_le_of_heaviest (hnodup : candidates.Nodup)
    (hranked : candidates.Pairwise (fun a b => weight b ≤ weight a))
    (hfront : kept <+: candidates) (hzero : ∀ a ∉ candidates, weight a = 0) {chosen : Finset α}
    (hcard : chosen.card ≤ kept.length ∨ kept = candidates) :
    ∑ a ∈ chosen, weight a ≤ (kept.map weight).sum := by
  have hkept : kept.Nodup := hnodup.sublist hfront.sublist
  have hsum : ∑ a ∈ kept.toFinset, weight a = (kept.map weight).sum :=
    List.sum_toFinset weight hkept
  rw [← hsum]
  rcases hcard with hcard | rfl
  · rw [← List.toFinset_card_of_nodup hkept] at hcard
    have hexchange : ∑ a ∈ chosen \ kept.toFinset, weight a ≤
        ∑ a ∈ kept.toFinset \ chosen, weight a := by
      have hle : ∀ a ∈ kept.toFinset \ chosen,
          (chosen \ kept.toFinset).sup weight ≤ weight a := by
        intro a ha
        refine Finset.sup_le fun b hb => ?_
        rw [Finset.mem_sdiff, List.mem_toFinset] at ha hb
        exact weight_le_of_front hnodup hranked hfront hzero ha.1 hb.2
      calc ∑ a ∈ chosen \ kept.toFinset, weight a
          ≤ (chosen \ kept.toFinset).card • (chosen \ kept.toFinset).sup weight :=
            Finset.sum_le_card_nsmul _ _ _ fun b hb => Finset.le_sup hb
        _ ≤ (kept.toFinset \ chosen).card • (chosen \ kept.toFinset).sup weight := by
            refine Nat.mul_le_mul_right _ ?_
            have h1 := Finset.card_sdiff_add_card_inter chosen kept.toFinset
            have h2 := Finset.card_sdiff_add_card_inter kept.toFinset chosen
            rw [Finset.inter_comm] at h2
            omega
        _ ≤ ∑ a ∈ kept.toFinset \ chosen, weight a :=
            Finset.card_nsmul_le_sum _ _ _ hle
    have hleft := Finset.sum_inter_add_sum_sdiff chosen kept.toFinset weight
    have hright := Finset.sum_inter_add_sum_sdiff kept.toFinset chosen weight
    rw [Finset.inter_comm] at hright
    omega
  · -- everything of any weight is kept
    refine Finset.sum_le_sum_of_ne_zero fun a _ hne => ?_
    rw [List.mem_toFinset]
    exact by_contra fun hnot => hne (hzero a hnot)

end Exchange

end DmSimulator
