/-
  DmSimulator.Lib.Ledger

  Finite maps as ledgers: rows are booked one after the other under their keys,
  and what stands under a key is the sum of its rows.

  The rules say what a booking leaves under a key, that the entries of one key
  contribute once to a sum over the map, and that the loop over all values that
  keeps the larger one ends at the greatest.
-/
import DmSimulator.Lib.Tally
import Mathlib.Order.Bounds.Basic
import Mathlib.Data.Set.Insert

namespace DmSimulator

namespace UnorderedMap

variable {κ υ : Type} [DecidableEq κ]

section Booking

variable {ρ : Type} [AddCommMonoid υ]

/-- Add the value of a row to what stands under its key. -/
def book (key : ρ → κ) (value : ρ → υ) (m : UnorderedMap κ υ) (row : ρ) : UnorderedMap κ υ :=
  m.insert (key row) (m.getD (key row) 0 + value row)

/-- What stands under a key after the rows have been booked. -/
theorem getD_foldl_book (key : ρ → κ) (value : ρ → υ) (rows : List ρ) (m : UnorderedMap κ υ)
    (k : κ) :
    (rows.foldl (book key value) m).getD k 0 =
      m.getD k 0 + (rows.map fun row => if key row = k then value row else 0).sum := by
  induction rows generalizing m with
  | nil => exact (add_zero _).symm
  | cons row rest ih =>
      rw [List.foldl_cons, ih, List.map_cons, List.sum_cons, ← add_assoc, book, getD_insert]
      by_cases h : k = key row
      · rw [if_pos h, if_pos h.symm, h]
      · rw [if_neg h, if_neg fun heq => h heq.symm, add_zero]

/-- The keys of the booked rows are there. -/
theorem isSome_foldl_book (key : ρ → κ) (value : ρ → υ) (rows : List ρ) (m : UnorderedMap κ υ)
    (k : κ) :
    ((rows.foldl (book key value) m).lookup k).isSome ↔
      (m.lookup k).isSome ∨ ∃ row ∈ rows, key row = k := by
  induction rows generalizing m with
  | nil => simp
  | cons row rest ih =>
      rw [List.foldl_cons, ih, book]
      by_cases h : k = key row
      · subst h
        simp
      · have hne : ¬ key row = k := fun heq => h heq.symm
        rw [AList.lookup_insert_ne h]
        simp [hne]

end Booking

/-- Only the entry of the key contributes. -/
theorem sum_entries_of_key (m : UnorderedMap κ υ) {μ : Type} [AddCommMonoid μ] (k : κ)
    (value : υ → μ) :
    (m.entries.map fun entry => if entry.1 = k then value entry.2 else 0).sum =
      (m.lookup k).elim 0 value := by
  induction m using AList.insertRec with
  | H0 => rfl
  | IH key' v m hnot ih =>
      rw [AList.entries_insert_of_notMem hnot, List.map_cons, List.sum_cons, ih]
      by_cases h : k = key'
      · subst h
        rw [if_pos rfl, AList.lookup_eq_none.mpr hnot, AList.lookup_insert]
        exact add_zero _
      · rw [if_neg fun heq => h heq.symm, AList.lookup_insert_ne h, zero_add]

section Greatest

variable {ρ : Type} [LinearOrder ρ]

/-- Keeping the larger value ends at the greatest one. -/
theorem isGreatest_foldl_max {α : Type} (f : α → ρ) (items : List α) (best : ρ) :
    IsGreatest (insert best {x | ∃ a ∈ items, f a = x})
      (items.foldl (fun best a => max best (f a)) best) := by
  induction items generalizing best with
  | nil => simp
  | cons a rest ih =>
      obtain ⟨hmem, hupper⟩ := ih (max best (f a))
      rw [List.foldl_cons]
      refine ⟨?_, ?_⟩
      · rcases hmem with heq | ⟨b, hb, heq⟩
        · rw [heq]
          rcases max_choice best (f a) with hmax | hmax
          · rw [hmax]
            exact Or.inl rfl
          · rw [hmax]
            exact Or.inr ⟨a, List.mem_cons_self, rfl⟩
        · exact Or.inr ⟨b, List.mem_cons_of_mem a hb, heq⟩
      · have hbest : max best (f a) ≤ rest.foldl (fun best a => max best (f a)) (max best (f a)) :=
          hupper (Or.inl rfl)
        rintro x (rfl | ⟨b, hb, rfl⟩)
        · exact (le_max_left x (f a)).trans hbest
        · rcases List.mem_cons.mp hb with rfl | hin
          · exact (le_max_right best (f b)).trans hbest
          · exact hupper (Or.inr ⟨b, hin, rfl⟩)

/-- Over all keys, the absent ones included. -/
theorem isGreatest_values [Zero ρ] [Zero υ] {f : υ → ρ} (hzero : f 0 = 0)
    (m : UnorderedMap κ υ) :
    IsGreatest (insert 0 (Set.range fun k => f (m.getD k 0)))
      (m.values.foldl (fun best value => max best (f value)) 0) := by
  have hsame : (insert 0 (Set.range fun k => f (m.getD k 0)) : Set ρ) =
      insert 0 {x | ∃ value ∈ m.values, f value = x} := by
    ext x
    constructor
    · rintro (rfl | ⟨k, rfl⟩)
      · exact Or.inl rfl
      · show f ((m.lookup k).getD 0) ∈ _
        cases hlookup : m.lookup k with
        | none => exact Or.inl hzero
        | some value =>
            exact Or.inr ⟨value, List.mem_map.mpr ⟨⟨k, value⟩, mem_entries.mpr hlookup, rfl⟩, rfl⟩
    · rintro (rfl | ⟨value, hvalue, rfl⟩)
      · exact Or.inl rfl
      · obtain ⟨⟨k, v⟩, hentry, rfl⟩ := List.mem_map.mp hvalue
        exact Or.inr ⟨k, congrArg f (getD_of_lookup (mem_entries.mp hentry) 0)⟩
  rw [hsame]
  exact isGreatest_foldl_max f m.values 0

end Greatest

end UnorderedMap

end DmSimulator
