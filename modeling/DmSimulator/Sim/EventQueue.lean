/-
  DmSimulator.Sim.EventQueue

  The scheduler as a bag of pending event records.

  `pending` forgets the sequence numbers and the queue order; `WellOrdered` says
  that the queue is in pop order, that its sequence numbers are behind the
  counter, and that no event lies in the past.  In a well-ordered scheduler a
  pop yields an event that is not earlier than `now`, and scheduling an event
  that is not in the past adds its record to the bag.
-/
import DmSimulator.Lib.TimedQueue
import DmSimulator.Sim.Scheduler
import Mathlib.Data.Multiset.MapFold

namespace DmSimulator

namespace Scheduler

/-- The records of the events that wait in the queue. -/
def pending (s : Scheduler) : Multiset EventRecord := (s.events.map Event.record : List EventRecord)

/-- `a` is popped before `b`. -/
def Before (a b : Event) : Prop :=
  a.time < b.time ∨ (a.time = b.time ∧ a.sequence < b.sequence)

structure WellOrdered (s : Scheduler) : Prop where
  sorted : s.events.Pairwise Before
  stamped : ∀ event ∈ s.events, event.sequence < s.nextSequence
  future : ∀ event ∈ s.events, s.currentTime ≤ event.time

theorem wellOrdered_init : WellOrdered {} := by
  refine ⟨List.Pairwise.nil, ?_, ?_⟩ <;> intro event h <;> simp at h

@[simp] theorem pending_init : pending {} = 0 := rfl

theorem empty_iff_pending {s : Scheduler} : s.empty = true ↔ s.pending = 0 := by
  simp [empty, pending]

theorem mem_pending {s : Scheduler} {record : EventRecord} :
    record ∈ s.pending ↔ ∃ event ∈ s.events, event.record = record := by
  simp [pending]

-- ============================================================================
-- Pushing
-- ============================================================================

theorem push_perm (event : Event) (events : List Event) :
    (push event events).Perm (event :: events) :=
  List.perm_orderedInsert _ event events

theorem mem_push {event : Event} {events : List Event} {e : Event} :
    e ∈ push event events ↔ e = event ∨ e ∈ events := by
  rw [(push_perm event events).mem_iff, List.mem_cons]

/-- An event with the newest sequence number goes behind its equals in time. -/
theorem push_sorted {event : Event} {events : List Event} (h : events.Pairwise Before)
    (hnew : ∀ e ∈ events, e.sequence < event.sequence) :
    (push event events).Pairwise Before := by
  induction events with
  | nil => exact List.pairwise_singleton _ _
  | cons first rest ih =>
      obtain ⟨hfirst, hrest⟩ := List.pairwise_cons.mp h
      have hnewest := hnew first List.mem_cons_self
      have hih := ih hrest fun e he => hnew e (List.mem_cons_of_mem first he)
      unfold push at hih ⊢
      rw [List.orderedInsert_cons]
      by_cases hle : ¬ eventCompare event first = true
      · rw [if_pos hle]
        have hbefore : Before event first := by
          simp only [eventCompare] at hle
          split at hle
          · rename_i hne
            simp only [gt_iff_lt, decide_eq_true_eq] at hle
            exact Or.inl (by lia)
          · simp only [gt_iff_lt, decide_eq_true_eq] at hle
            lia
        refine List.pairwise_cons.mpr ⟨?_, h⟩
        intro e he
        rcases List.mem_cons.mp he with rfl | he
        · exact hbefore
        · have hafter := hfirst e he
          simp only [Before] at hbefore hafter ⊢
          lia
      · rw [if_neg hle]
        refine List.pairwise_cons.mpr ⟨?_, hih⟩
        intro e he
        rcases mem_push.mp he with rfl | he
        · simp only [not_not, eventCompare] at hle
          split at hle
          · simp only [gt_iff_lt, decide_eq_true_eq] at hle
            exact Or.inl hle
          · simp only [ne_eq, not_not] at *
            exact Or.inr ⟨by lia, hnewest⟩
        · exact hfirst e he

-- ============================================================================
-- Scheduling
-- ============================================================================

@[simp] theorem schedule_currentTime (s : Scheduler) (event : Event) :
    (s.schedule event).1.currentTime = s.currentTime := by
  unfold schedule
  split <;> rfl

/-- An event that is not in the past is accepted. -/
theorem schedule_accepted {s : Scheduler} {event : Event} (h : s.currentTime ≤ event.time) :
    s.schedule event =
      ({ s with
          nextSequence := s.nextSequence + 1
          events := push { event with sequence := s.nextSequence } s.events }, true) := by
  unfold schedule
  rw [if_neg (by lia)]

theorem schedule_pending {s : Scheduler} {record : EventRecord}
    (h : s.currentTime ≤ record.time) :
    (s.schedule record.event).1.pending = record ::ₘ s.pending := by
  rw [schedule_accepted (show s.currentTime ≤ record.event.time from h)]
  have hperm := (push_perm { record.event with sequence := s.nextSequence } s.events).map
    Event.record
  exact Multiset.coe_eq_coe.mpr hperm

theorem schedule_refused {s : Scheduler} {event : Event} (h : s.currentTime ≤ event.time) :
    (s.schedule event).1.refused = s.refused := by
  rw [schedule_accepted h]

theorem WellOrdered.schedule {s : Scheduler} (hs : s.WellOrdered) (event : Event) :
    (s.schedule event).1.WellOrdered := by
  unfold Scheduler.schedule
  by_cases h : event.time < s.currentTime
  · rw [if_pos h]
    exact ⟨hs.sorted, hs.stamped, hs.future⟩
  · rw [if_neg h]
    refine ⟨push_sorted hs.sorted hs.stamped, ?_, ?_⟩
    · intro e he
      rcases mem_push.mp he with rfl | he
      · exact Nat.lt_succ_self _
      · exact Nat.lt_succ_of_lt (hs.stamped e he)
    · intro e he
      rcases mem_push.mp he with rfl | he
      · exact Nat.not_lt.mp h
      · exact hs.future e he

-- ============================================================================
-- Popping
-- ============================================================================

theorem popNext_eq_none {s : Scheduler} : s.popNext = none ↔ s.pending = 0 := by
  unfold popNext pending
  cases s.events with
  | nil => simp
  | cons event rest => simp

/-- A pop moves the clock to the event and takes its record out of the bag. -/
theorem popNext_eq_some {s s' : Scheduler} {event : Event}
    (h : s.popNext = some (event, s')) :
    s.pending = event.record ::ₘ s'.pending ∧ s'.currentTime = event.time ∧
      s'.nextSequence = s.nextSequence ∧ s'.refused = s.refused ∧
      s.events = event :: s'.events := by
  unfold popNext at h
  cases hevents : s.events with
  | nil => simp [hevents] at h
  | cons first rest =>
      simp only [hevents, Option.some.injEq, Prod.mk.injEq] at h
      obtain ⟨rfl, rfl⟩ := h
      refine ⟨?_, rfl, rfl, rfl, rfl⟩
      unfold pending
      rw [hevents]
      rfl

theorem WellOrdered.popNext {s s' : Scheduler} {event : Event} (hs : s.WellOrdered)
    (h : s.popNext = some (event, s')) : s'.WellOrdered ∧ s.currentTime ≤ event.time := by
  obtain ⟨-, htime, hsequence, -, hevents⟩ := popNext_eq_some h
  obtain ⟨hsorted, hstamped, hfuture⟩ := hs
  rw [hevents] at hsorted hstamped hfuture
  obtain ⟨hfirst, hrest⟩ := List.pairwise_cons.mp hsorted
  refine ⟨⟨hrest, ?_, ?_⟩, hfuture event List.mem_cons_self⟩
  · intro e he
    rw [hsequence]
    exact hstamped e (List.mem_cons_of_mem event he)
  · intro e he
    rw [htime]
    have hbefore := hfirst e he
    simp only [Before] at hbefore
    lia

-- ============================================================================
-- The agenda
-- ============================================================================

/-- The records of the events that wait in the queue, in the order of their pops. -/
def agenda (s : Scheduler) : List EventRecord := s.events.map Event.record

theorem agenda_eq_nil {s : Scheduler} : s.agenda = [] ↔ s.pending = 0 := by
  simp [agenda, pending]

theorem popNext_agenda {s s' : Scheduler} {event : Event} (h : s.popNext = some (event, s')) :
    s.agenda = event.record :: s'.agenda := by
  obtain ⟨-, -, -, -, hevents⟩ := popNext_eq_some h
  unfold agenda
  rw [hevents, List.map_cons]

theorem WellOrdered.agenda_inOrder {s : Scheduler} (hs : s.WellOrdered) :
    TimedQueue.InOrder EventRecord.time s.agenda := by
  refine List.pairwise_map.mpr (hs.sorted.imp fun {a b} hbefore => ?_)
  show a.time ≤ b.time
  simp only [Before] at hbefore
  lia

/-- An event with the newest sequence number enters the agenda by its time alone. -/
theorem push_eq_enqueue {event : Event} {events : List Event}
    (hnew : ∀ e ∈ events, e.sequence < event.sequence) :
    push event events = TimedQueue.enqueue Event.time event events := by
  unfold push TimedQueue.enqueue
  induction events with
  | nil => rfl
  | cons first rest ih =>
      have hfirst := hnew first List.mem_cons_self
      have hiff : ¬ eventCompare event first = true ↔ event.time < first.time := by
        unfold eventCompare
        split
        · simp only [gt_iff_lt, decide_eq_true_eq]
          lia
        · simp only [gt_iff_lt, decide_eq_true_eq]
          lia
      rw [List.orderedInsert_cons, List.orderedInsert_cons,
        ih fun e he => hnew e (List.mem_cons_of_mem first he)]
      exact if_congr hiff rfl rfl

theorem WellOrdered.agenda_schedule {s : Scheduler} (hs : s.WellOrdered) {record : EventRecord}
    (h : s.currentTime ≤ record.time) :
    (s.schedule record.event).1.agenda =
      TimedQueue.enqueue EventRecord.time record s.agenda := by
  rw [schedule_accepted (show s.currentTime ≤ record.event.time from h)]
  show (push _ s.events).map Event.record = _
  rw [push_eq_enqueue fun e he => hs.stamped e he]
  exact @TimedQueue.map_enqueueAll _ _ Event.time EventRecord.time Event.record
    (fun _ _ => Iff.rfl) [_] s.events

end Scheduler

end DmSimulator
