/-
  DmSimulator.Lib.Window

  Reading a list round and round: `window l cursor count` is what `count` reads
  from position `cursor` on return when the index wraps at the end of the list.
  Up to one round a window is a prefix of a rotation, so it repeats nothing and a
  full round misses nothing.
-/
import Mathlib.Data.List.Rotate

namespace DmSimulator

variable {α : Type}

/-- `count` reads from `cursor` on, wrapping at the end. -/
def window (l : List α) (cursor count : Nat) : List α :=
  (List.range count).filterMap (fun i => l[(cursor + i) % l.length]?)

theorem window_add (l : List α) (cursor m n : Nat) :
    window l cursor (m + n) = window l cursor m ++ window l (cursor + m) n := by
  unfold window
  rw [List.range_add, List.filterMap_append, List.filterMap_map]
  congr 2
  funext i
  rw [Function.comp_apply, Nat.add_assoc]

theorem window_succ (l : List α) (cursor n : Nat) :
    window l cursor (n + 1) = l[cursor % l.length]?.toList ++ window l (cursor + 1) n := by
  have hone : window l cursor 1 = l[cursor % l.length]?.toList := rfl
  rw [Nat.add_comm n 1, window_add, hone]

theorem mem_of_mem_window {l : List α} {cursor count : Nat} {a : α}
    (h : a ∈ window l cursor count) : a ∈ l := by
  obtain ⟨i, -, hi⟩ := List.mem_filterMap.mp h
  exact List.mem_of_getElem? hi

theorem length_window {l : List α} (hl : l ≠ []) (cursor count : Nat) :
    (window l cursor count).length = count := by
  unfold window
  have hsome : ∀ i, ∃ a, l[(cursor + i) % l.length]? = some a := fun i =>
    ⟨_, List.getElem?_eq_getElem (Nat.mod_lt _ (List.length_pos_iff.mpr hl))⟩
  induction count with
  | zero => rfl
  | succ count ih =>
      obtain ⟨a, ha⟩ := hsome count
      rw [List.range_succ, List.filterMap_append, List.length_append, ih, List.filterMap_cons, ha]
      rfl

/-- A window of at most one round is a prefix of a rotation. -/
theorem window_eq_take_rotate {l : List α} (cursor : Nat) {count : Nat} (h : count ≤ l.length) :
    window l cursor count = (l.rotate cursor).take count := by
  induction count with
  | zero => rfl
  | succ count ih =>
      rw [List.take_add_one, ← ih (by omega), List.getElem?_rotate (by omega)]
      unfold window
      rw [List.range_succ, List.filterMap_append, List.filterMap_cons, List.filterMap_nil,
        Nat.add_comm cursor count]
      congr 1

theorem nodup_window {l : List α} (hl : l.Nodup) (cursor : Nat) {count : Nat}
    (h : count ≤ l.length) : (window l cursor count).Nodup := by
  rw [window_eq_take_rotate cursor h]
  exact (List.nodup_rotate.mpr hl).sublist (List.take_sublist _ _)

/-- A window may start from the reduced position. -/
theorem window_mod (l : List α) (cursor count : Nat) :
    window l (cursor % l.length) count = window l cursor count := by
  unfold window
  simp only [Nat.mod_add_mod]

/-- Windows next to each other are disjoint if both are read in one round. -/
theorem disjoint_window {l : List α} (hl : l.Nodup) (cursor : Nat) {m n : Nat}
    (h : m + n ≤ l.length) : (window l cursor m).Disjoint (window l (cursor + m) n) := by
  have hnodup := nodup_window hl cursor h
  rw [window_add] at hnodup
  exact (List.nodup_append'.mp hnodup).2.2

/-- A full round reads everything. -/
theorem mem_window_length {l : List α} {a : α} (h : a ∈ l) (cursor : Nat) :
    a ∈ window l cursor l.length := by
  rw [window_eq_take_rotate cursor (Nat.le_refl _),
    List.take_of_length_le (by rw [List.length_rotate])]
  exact List.mem_rotate.mpr h

end DmSimulator
