/-
  DmSimulator.Sim.PopOrder

  The order of pops over arbitrary interleavings of `schedule` and `pop_next`.

  A history is a scheduler with the events it has accepted and popped so far.  The
  popped events followed by the waiting ones are always in pop order: an event
  that is scheduled while the queue drains is not earlier than the clock, and its
  sequence number is behind all others (`History.Inv`).
-/
import DmSimulator.Sim.EventQueue
import Mathlib.Data.List.Range

namespace DmSimulator

namespace Scheduler

/-- A call on a scheduler. -/
inductive Call
  | schedule (event : Event)
  | popNext
deriving DecidableEq, Repr

/-- A scheduler, and the events it has accepted and popped, in the order of the calls. -/
structure History where
  scheduler : Scheduler := {}
  accepted : List Event := []
  popped : List Event := []

namespace History

/-- The history after one more call.  An accepted event is kept as it was stamped. -/
def call (h : History) : Call → History
  | .schedule event =>
      { h with
        scheduler := (h.scheduler.schedule event).1
        accepted :=
          if (h.scheduler.schedule event).2 then
            h.accepted ++ [{ event with sequence := h.scheduler.nextSequence }]
          else h.accepted }
  | .popNext =>
      match h.scheduler.popNext with
      | none => h
      | some (event, scheduler) =>
          { h with scheduler := scheduler, popped := h.popped ++ [event] }

/-- The history of a fresh scheduler. -/
def ofCalls (calls : List Call) : History := calls.foldl call {}

/-- The history without the memory of the refused events. -/
def forgetRefused (h : History) : History :=
  { h with scheduler := { h.scheduler with refused := [] } }

-- ============================================================================
-- The invariant
-- ============================================================================

structure Inv (h : History) : Prop where
  sorted : (h.popped ++ h.scheduler.events).Pairwise Before
  stamped : h.accepted.map Event.sequence = List.range h.scheduler.nextSequence
  accounted : h.accepted.Perm (h.popped ++ h.scheduler.events)
  now_eq : h.scheduler.now = (h.popped.map Event.time).getLastD 0
  past : ∀ event ∈ h.popped, event.time ≤ h.scheduler.now
  future : ∀ event ∈ h.scheduler.events, h.scheduler.now ≤ event.time

variable {h : History}

theorem inv_init : Inv {} :=
  ⟨List.Pairwise.nil, rfl, List.Perm.refl _, rfl, fun _ hmem => absurd hmem List.not_mem_nil,
    fun _ hmem => absurd hmem List.not_mem_nil⟩

/-- The sequence numbers given out so far are behind the counter. -/
theorem Inv.sequence_lt (hinv : h.Inv) {event : Event} (hmem : event ∈ h.accepted) :
    event.sequence < h.scheduler.nextSequence := by
  have hrange : event.sequence ∈ h.accepted.map Event.sequence := List.mem_map_of_mem hmem
  rw [hinv.stamped] at hrange
  exact List.mem_range.mp hrange

theorem Inv.schedule (hinv : h.Inv) (event : Event) : (h.call (.schedule event)).Inv := by
  by_cases hpast : event.time < h.scheduler.currentTime
  · have hrefused : h.call (.schedule event) =
        { h with
          scheduler := { h.scheduler with refused := h.scheduler.refused ++ [event] } } := by
      simp [call, Scheduler.schedule, hpast]
    rw [hrefused]
    exact ⟨hinv.sorted, hinv.stamped, hinv.accounted, hinv.now_eq, hinv.past, hinv.future⟩
  · have haccepted := schedule_accepted (Nat.le_of_not_lt hpast)
    have hcall : h.call (.schedule event) =
        { h with
          scheduler :=
            { h.scheduler with
              nextSequence := h.scheduler.nextSequence + 1
              events := push { event with sequence := h.scheduler.nextSequence }
                h.scheduler.events }
          accepted := h.accepted ++ [{ event with sequence := h.scheduler.nextSequence }] } := by
      simp [call, haccepted]
    rw [hcall]
    generalize hnew : ({ event with sequence := h.scheduler.nextSequence } : Event) = stamped
    have htime : h.scheduler.currentTime ≤ stamped.time := by
      rw [← hnew]
      exact Nat.le_of_not_lt hpast
    have hsequence : stamped.sequence = h.scheduler.nextSequence := by rw [← hnew]
    have hbehind : ∀ e ∈ h.popped ++ h.scheduler.events, e.sequence < stamped.sequence := by
      intro e he
      rw [hsequence]
      exact hinv.sequence_lt (hinv.accounted.symm.subset he)
    obtain ⟨hpopped, hwaiting, hcross⟩ := List.pairwise_append.mp hinv.sorted
    refine ⟨?_, ?_, ?_, hinv.now_eq, hinv.past, ?_⟩
    · refine List.pairwise_append.mpr ⟨hpopped, push_sorted hwaiting fun e he =>
        hbehind e (List.mem_append_right _ he), fun e he f hf => ?_⟩
      rcases mem_push.mp hf with rfl | hf
      · -- a popped event is not later than the clock, and was stamped earlier
        have hle : e.time ≤ h.scheduler.currentTime := hinv.past e he
        have hlt := hbehind e (List.mem_append_left _ he)
        simp only [Before]
        lia
      · exact hcross e he f hf
    · rw [List.map_append, hinv.stamped, List.map_singleton, hsequence, List.range_succ]
    · have hperm := (push_perm stamped h.scheduler.events).append_left h.popped
      refine (hinv.accounted.append_right [stamped]).trans ?_
      rw [List.append_assoc]
      refine List.Perm.trans (List.Perm.append_left _ ?_) hperm.symm
      exact List.perm_append_singleton stamped h.scheduler.events
    · intro e he
      rcases mem_push.mp he with rfl | he
      · exact htime
      · exact hinv.future e he

theorem Inv.popNext (hinv : h.Inv) : (h.call .popNext).Inv := by
  cases hpop : h.scheduler.popNext with
  | none =>
      simp only [call, hpop]
      exact hinv
  | some popped =>
      obtain ⟨event, scheduler⟩ := popped
      obtain ⟨-, htime, hsequence, -, hevents⟩ := popNext_eq_some hpop
      have hmoved : h.popped ++ h.scheduler.events = h.popped ++ [event] ++ scheduler.events := by
        rw [hevents, List.append_assoc]
        rfl
      have hsorted := hinv.sorted
      have haccounted := hinv.accounted
      rw [hmoved] at hsorted haccounted
      have hle : h.scheduler.now ≤ event.time :=
        hinv.future event (by rw [hevents]; exact List.mem_cons_self)
      simp only [call, hpop]
      refine ⟨hsorted, hinv.stamped.trans (by rw [hsequence]), haccounted, ?_, ?_, ?_⟩
      · show scheduler.currentTime = _
        rw [htime, List.map_append, List.map_singleton, List.getLastD_concat]
      · intro e he
        show e.time ≤ scheduler.currentTime
        rw [htime]
        rcases List.mem_append.mp he with he | he
        · exact le_trans (hinv.past e he) hle
        · rw [List.mem_singleton.mp he]
      · intro e he
        show scheduler.currentTime ≤ e.time
        rw [htime]
        have hbefore := (List.pairwise_append.mp hsorted).2.2 event
          (List.mem_append_right _ (List.mem_singleton_self _)) e he
        simp only [Before] at hbefore
        lia

theorem inv_ofCalls (calls : List Call) : (ofCalls calls).Inv := by
  have main : ∀ (calls : List Call) (h : History), h.Inv → (calls.foldl call h).Inv := by
    intro calls
    induction calls with
    | nil => exact fun h hinv => hinv
    | cons c calls ih =>
        intro h hinv
        cases c with
        | schedule event => exact ih _ (hinv.schedule event)
        | popNext => exact ih _ hinv.popNext
  exact main calls {} inv_init

-- ============================================================================
-- The order of the pops
-- ============================================================================

theorem Before.asymm {a b : Event} (hab : Before a b) : ¬ Before b a := by
  simp only [Before] at hab ⊢
  lia

/-- In a list in pop order, what is popped first stands first. -/
theorem sublist_of_before {events : List Event} (hsorted : events.Pairwise Before) {e f : Event}
    (he : e ∈ events) (hf : f ∈ events) (hbefore : Before e f) : [e, f].Sublist events := by
  obtain ⟨earlier, later, rfl⟩ := List.append_of_mem he
  obtain ⟨-, -, hcross⟩ := List.pairwise_append.mp hsorted
  rcases List.mem_append.mp hf with hin | hin
  · exact absurd hbefore (Before.asymm (hcross f hin e List.mem_cons_self))
  · rcases List.mem_cons.mp hin with rfl | hin
    · exact absurd hbefore (Before.asymm hbefore)
    · have hrest : [f].Sublist later := List.singleton_sublist.mpr hin
      exact (hrest.cons_cons e).trans (List.sublist_append_right earlier (e :: later))

/-- What holds of the pops of a history. -/
structure PopOrder (h : History) : Prop where
  times_sorted : (h.popped.map Event.time).Pairwise (· ≤ ·)
  now_eq : h.scheduler.now = (h.popped.map Event.time).getLastD 0
  accepted_once : h.accepted.Nodup
  popped_once : h.popped.Nodup
  popped_accepted : h.popped ⊆ h.accepted
  all_popped : h.scheduler.empty = true → h.popped.Perm h.accepted
  fifo : ∀ e f, [e, f].Sublist h.accepted → e.time ≤ f.time → f ∈ h.popped →
    [e, f].Sublist h.popped

theorem Inv.popOrder (hinv : h.Inv) : h.PopOrder := by
  obtain ⟨hpopped, -, hcross⟩ := List.pairwise_append.mp hinv.sorted
  have hnodup : h.accepted.Nodup := by
    apply List.Nodup.of_map Event.sequence
    rw [hinv.stamped]
    exact List.nodup_range
  have hall := (hinv.accounted.nodup_iff).mp hnodup
  refine ⟨?_, hinv.now_eq, hnodup, (List.nodup_append.mp hall).1, ?_, ?_, ?_⟩
  · refine List.pairwise_map.mpr (hpopped.imp fun {a b} hbefore => ?_)
    simp only [Before] at hbefore
    lia
  · exact fun e he => hinv.accounted.symm.subset (List.mem_append_left _ he)
  · intro hempty
    have hnil : h.scheduler.events = [] := List.isEmpty_iff.mp hempty
    have haccounted := hinv.accounted
    rw [hnil, List.append_nil] at haccounted
    exact haccounted.symm
  · intro e f hsub hle hf
    -- the earlier event has the smaller sequence number
    have hstamps : [e.sequence, f.sequence].Sublist (List.range h.scheduler.nextSequence) := by
      rw [← hinv.stamped]
      exact hsub.map Event.sequence
    have hlt : e.sequence < f.sequence := by
      have hpair := List.pairwise_lt_range.sublist hstamps
      exact (List.pairwise_cons.mp hpair).1 _ (List.mem_singleton_self _)
    have hbefore : Before e f := by
      simp only [Before]
      lia
    have he : e ∈ h.popped ++ h.scheduler.events :=
      hinv.accounted.subset (hsub.subset List.mem_cons_self)
    rcases List.mem_append.mp he with hin | hin
    · exact sublist_of_before hpopped hin hf hbefore
    · exact absurd hbefore (Before.asymm (hcross f hf e hin))

-- ============================================================================
-- Refusals
-- ============================================================================

theorem call_forgetRefused (h : History) (c : Call) :
    (h.forgetRefused.call c).forgetRefused = (h.call c).forgetRefused := by
  cases c with
  | schedule event =>
      by_cases hpast : event.time < h.scheduler.currentTime
      · simp [call, forgetRefused, Scheduler.schedule, hpast]
      · simp [call, forgetRefused, Scheduler.schedule, hpast]
  | popNext =>
      obtain ⟨⟨now, nextSequence, events, refused⟩, accepted, popped⟩ := h
      cases events <;> rfl

/-- No call notices what was refused before. -/
theorem foldl_forgetRefused (calls : List Call) {h h' : History}
    (hsame : h.forgetRefused = h'.forgetRefused) :
    (calls.foldl call h).forgetRefused = (calls.foldl call h').forgetRefused := by
  induction calls generalizing h h' with
  | nil => exact hsame
  | cons c calls ih =>
      refine ih ?_
      rw [← call_forgetRefused h, hsame, call_forgetRefused]

theorem schedule_eq_false_iff (s : Scheduler) (event : Event) :
    (s.schedule event).2 = false ↔ event.time < s.now := by
  unfold Scheduler.schedule now
  by_cases hpast : event.time < s.currentTime
  · rw [if_pos hpast]
    exact iff_of_true rfl hpast
  · rw [if_neg hpast]
    exact iff_of_false (fun heq => absurd heq.symm Bool.false_ne_true) hpast

/-- A refused call leaves the queue and the clock alone, and so do the later calls that
    follow it. -/
structure RefusalIgnored (calls : List Call) (event : Event) : Prop where
  refused_iff : ((ofCalls calls).scheduler.schedule event).2 = false ↔
    event.time < (ofCalls calls).scheduler.now
  unchanged : event.time < (ofCalls calls).scheduler.now →
    (ofCalls (calls ++ [.schedule event])).scheduler.events = (ofCalls calls).scheduler.events ∧
      (ofCalls (calls ++ [.schedule event])).scheduler.now = (ofCalls calls).scheduler.now
  unnoticed : event.time < (ofCalls calls).scheduler.now → ∀ later,
    (ofCalls (calls ++ .schedule event :: later)).forgetRefused =
      (ofCalls (calls ++ later)).forgetRefused

/-- Scheduler order, for every interleaving of calls on a fresh scheduler. -/
theorem ofCalls_popOrder (calls : List Call) :
    (ofCalls calls).PopOrder ∧ ∀ event, RefusalIgnored calls event := by
  refine ⟨(inv_ofCalls calls).popOrder, fun event => ?_⟩
  have hcall : event.time < (ofCalls calls).scheduler.now →
      ((ofCalls calls).call (.schedule event)).forgetRefused =
        (ofCalls calls).forgetRefused := by
    intro hpast
    have hpast' : event.time < (ofCalls calls).scheduler.currentTime := hpast
    simp [call, forgetRefused, Scheduler.schedule, hpast']
  have hsnoc : ∀ later, ofCalls (calls ++ .schedule event :: later) =
      later.foldl call ((ofCalls calls).call (.schedule event)) := fun later => by
    unfold ofCalls
    rw [List.foldl_append, List.foldl_cons]
  refine ⟨schedule_eq_false_iff _ event, fun hpast => ?_, fun hpast later => ?_⟩
  · have hsame := hcall hpast
    rw [hsnoc []]
    exact ⟨congrArg (fun h => h.scheduler.events) hsame,
      congrArg (fun h => h.scheduler.currentTime) hsame⟩
  · rw [hsnoc later]
    refine (foldl_forgetRefused later (hcall hpast)).trans ?_
    unfold ofCalls
    rw [List.foldl_append]

end History

end Scheduler

end DmSimulator
