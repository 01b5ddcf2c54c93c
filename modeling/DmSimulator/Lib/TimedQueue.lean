/-
  DmSimulator.Lib.TimedQueue

  A queue in time order, first in first out among entries of the same time.

  Part of such a queue is a queue of the same kind: entering it does not depend
  on the entries outside of the part, nor on where the clock starts.
-/
import Mathlib.Data.List.Sort

namespace DmSimulator

namespace TimedQueue

variable {α β : Type} (time : α → Nat)

/-- Put an entry behind those that are not later. -/
def enqueue (entry : α) (queue : List α) : List α :=
  queue.orderedInsert (fun a b => time a < time b) entry

/-- Put entries into the queue one after the other. -/
def enqueueAll (entries queue : List α) : List α :=
  entries.foldl (fun queue entry => enqueue time entry queue) queue

/-- The queue is in time order. -/
def InOrder (queue : List α) : Prop := queue.Pairwise (fun a b => time a ≤ time b)

variable {time}

@[simp] theorem enqueueAll_nil (queue : List α) : enqueueAll time [] queue = queue := rfl

@[simp] theorem enqueueAll_cons (entry : α) (entries queue : List α) :
    enqueueAll time (entry :: entries) queue =
      enqueueAll time entries (enqueue time entry queue) := rfl

theorem mem_enqueue {entry a : α} {queue : List α} :
    a ∈ enqueue time entry queue ↔ a = entry ∨ a ∈ queue :=
  List.mem_orderedInsert _

theorem InOrder.enqueue {queue : List α} (h : InOrder time queue) (entry : α) :
    InOrder time (enqueue time entry queue) := by
  induction queue with
  | nil => exact List.pairwise_singleton _ _
  | cons first rest ih =>
      obtain ⟨hfirst, hrest⟩ := List.pairwise_cons.mp h
      unfold TimedQueue.enqueue at ih ⊢
      rw [List.orderedInsert_cons]
      by_cases hlt : time entry < time first
      · rw [if_pos hlt]
        refine List.pairwise_cons.mpr ⟨fun a ha => ?_, h⟩
        rcases List.mem_cons.mp ha with rfl | hin
        · omega
        · have := hfirst a hin
          omega
      · rw [if_neg hlt]
        refine List.pairwise_cons.mpr ⟨fun a ha => ?_, ih hrest⟩
        rcases mem_enqueue.mp ha with rfl | hin
        · omega
        · exact hfirst a hin

/-- Entering a queue, seen from a part of it. -/
theorem filter_enqueue (p : α → Bool) (entry : α) {queue : List α} (h : InOrder time queue) :
    (enqueue time entry queue).filter p =
      if p entry = true then enqueue time entry (queue.filter p) else queue.filter p := by
  induction queue with
  | nil => cases hp : p entry <;> simp [enqueue, hp]
  | cons first rest ih =>
      obtain ⟨hfirst, hrest⟩ := List.pairwise_cons.mp h
      have ih' := ih hrest
      unfold enqueue at ih' ⊢
      rw [List.orderedInsert_cons]
      by_cases hlt : time entry < time first
      · -- everything behind the first entry is later too
        have hfront : (queue : List α) → (∀ a ∈ queue, time entry < time a) →
            queue.orderedInsert (fun a b => time a < time b) entry = entry :: queue := by
          intro queue hlater
          cases queue with
          | nil => rfl
          | cons a rest => exact if_pos (hlater a List.mem_cons_self)
        have hlater : ∀ a ∈ (first :: rest).filter p, time entry < time a := by
          intro a ha
          rcases List.mem_cons.mp (List.mem_filter.mp ha).1 with rfl | hin
          · exact hlt
          · have := hfirst a hin
            omega
        rw [if_pos hlt, hfront _ hlater]
        cases hp : p entry with
        | true => rw [List.filter_cons_of_pos hp, if_pos rfl]
        | false =>
            rw [List.filter_cons_of_neg (by simp [hp]), if_neg Bool.false_ne_true]
      · rw [if_neg hlt]
        cases hp : p first with
        | true =>
            rw [List.filter_cons_of_pos hp, List.filter_cons_of_pos hp, ih',
              List.orderedInsert_cons, if_neg hlt]
            split <;> rfl
        | false =>
            rw [List.filter_cons_of_neg (by simp [hp]), List.filter_cons_of_neg (by simp [hp]),
              ih']

/-- Entering several entries, seen from a part of the queue. -/
theorem filter_enqueueAll (p : α → Bool) (entries : List α) {queue : List α}
    (h : InOrder time queue) :
    (enqueueAll time entries queue).filter p =
      enqueueAll time (entries.filter p) (queue.filter p) := by
  induction entries generalizing queue with
  | nil => rfl
  | cons entry rest ih =>
      rw [enqueueAll_cons, ih (h.enqueue entry), filter_enqueue p entry h]
      cases hp : p entry with
      | true => rw [if_pos rfl, List.filter_cons_of_pos hp, enqueueAll_cons]
      | false => rw [if_neg Bool.false_ne_true, List.filter_cons_of_neg (by simp [hp])]

/-- Entering a queue does not depend on where the clock starts. -/
theorem map_enqueueAll {time' : β → Nat} {f : α → β}
    (hf : ∀ a b, time a < time b ↔ time' (f a) < time' (f b)) (entries queue : List α) :
    (enqueueAll time entries queue).map f =
      enqueueAll time' (entries.map f) (queue.map f) := by
  induction entries generalizing queue with
  | nil => rfl
  | cons entry rest ih =>
      have hentry : (enqueue time entry queue).map f = enqueue time' (f entry) (queue.map f) :=
        List.map_orderedInsert _ _ f queue entry (fun a _ => hf a entry) fun a _ => hf entry a
      rw [enqueueAll_cons, ih, hentry]
      rfl

/-- A queue up to some time is its entries of earlier times and then those of that
    time. -/
theorem InOrder.filter_lt_append_filter_eq {queue : List α} {last : Nat}
    (h : InOrder time queue) (hle : ∀ a ∈ queue, time a ≤ last) :
    queue.filter (fun a => time a < last) ++ queue.filter (fun a => time a = last) = queue := by
  induction queue with
  | nil => rfl
  | cons first rest ih =>
      obtain ⟨hfirst, hrest⟩ := List.pairwise_cons.mp h
      have ih' := ih hrest fun a ha => hle a (List.mem_cons_of_mem first ha)
      by_cases hlt : time first < last
      · rw [List.filter_cons_of_pos (by simpa using hlt), List.filter_cons_of_neg
          (by simpa using Nat.ne_of_lt hlt), List.cons_append, ih']
      · -- everything behind has the last time too
        have heq : time first = last :=
          le_antisymm (hle first List.mem_cons_self) (Nat.le_of_not_lt hlt)
        have hnil : rest.filter (fun a => time a < last) = [] := by
          rw [List.filter_eq_nil_iff]
          intro a ha
          have := hfirst a ha
          simpa using heq ▸ this
        rw [hnil, List.nil_append] at ih'
        rw [List.filter_cons_of_neg (by simpa using hlt), hnil, List.filter_cons_of_pos
          (by simpa using heq), List.nil_append, ih']

end TimedQueue

end DmSimulator
