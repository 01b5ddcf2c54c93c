/-
  DmSimulator.Runs.Drops

  Events that the scheduler refuses, in either reading of the arithmetic.

  `Scheduler::schedule` turns down an event in the past and nobody looks at the
  flag it returns.  Past its lookup, the life of a request hangs on events that
  are scheduled after a delay; one of them is lost in a step exactly if adding
  the delay to the clock gives a time before the clock.
-/
import DmSimulator.Cache.Replicas
import DmSimulator.Runs.Turns

namespace DmSimulator

namespace Scheduler

-- ============================================================================
-- Raised events
-- ============================================================================

/-- The records of the events that were scheduled and have not been processed, whether the
    scheduler took them or not. -/
def raised (s : Scheduler) : Multiset EventRecord :=
  s.pending + (s.refused.map Event.record : List EventRecord)

theorem schedule_raised (s : Scheduler) (record : EventRecord) :
    (s.schedule record.event).1.raised = record ::ₘ s.raised := by
  by_cases h : s.currentTime ≤ record.time
  · rw [raised, schedule_pending h, schedule_refused h, Multiset.cons_add]
    rfl
  · have hrefused : s.schedule record.event =
        ({ s with refused := s.refused ++ [record.event] }, false) :=
      if_pos (Nat.lt_of_not_le h)
    rw [hrefused, raised]
    show s.pending + ((s.refused ++ [record.event]).map Event.record : List EventRecord) = _
    rw [List.map_append, ← Multiset.coe_add, ← add_assoc, Multiset.add_comm]
    rfl

theorem scheduleAll_raised (s : Scheduler) (records : List EventRecord) :
    (s.scheduleAll records).raised = (records : Multiset EventRecord) + s.raised := by
  induction records generalizing s with
  | nil => exact (Multiset.zero_add _).symm
  | cons record rest ih =>
      rw [scheduleAll_cons, ih, schedule_raised, Multiset.add_cons, ← Multiset.cons_add,
        Multiset.cons_coe]

theorem popNext_raised {s s' : Scheduler} {event : Event} (h : s.popNext = some (event, s')) :
    s.raised = event.record ::ₘ s'.raised := by
  obtain ⟨hpending, -, -, hrefused, -⟩ := popNext_eq_some h
  rw [raised, hpending, ← hrefused, Multiset.cons_add]
  rfl

/-- The events in the past are refused, in order. -/
theorem scheduleAll_refused (s : Scheduler) (records : List EventRecord) :
    (s.scheduleAll records).refused = s.refused ++
      (records.filter fun record => record.time < s.currentTime).map EventRecord.event := by
  induction records generalizing s with
  | nil => exact (List.append_nil _).symm
  | cons record rest ih =>
      rw [scheduleAll_cons, ih, schedule_currentTime]
      by_cases h : record.time < s.currentTime
      · have hrefused : (s.schedule record.event).1.refused = s.refused ++ [record.event] :=
          congrArg (fun result : Scheduler × Bool => result.1.refused) (if_pos h)
        rw [hrefused, List.filter_cons_of_pos (by rw [decide_eq_true_iff]; exact h), List.map_cons,
          List.append_assoc, List.singleton_append]
      · rw [schedule_refused (Nat.le_of_not_lt h),
          List.filter_cons_of_neg (by rw [decide_eq_true_iff]; exact h)]

end Scheduler

-- ============================================================================
-- Delays
-- ============================================================================

/-- The events that are scheduled after a delay and carry a request that has been looked up. -/
def EventType.delayed : EventType → Bool
  | .localCacheHitComplete | .forwardToMemory | .memoryServiceComplete | .returnResponse => true
  | _ => false

namespace Simulator

variable {P : CachePolicy} {A : Arith}

/-- The delay after which the next event of the request of `event` is scheduled, if there is
    one: the hit latency or the link latency after a lookup, the service time, and the link
    latency on the way back. -/
def delayOf (A : Arith) (s : Simulator P) (event : Event) : Option SimTime :=
  match event.type with
  | .localCacheLookup =>
      (s.computeNodes.find event.targetId).bind fun node =>
        (s.shared.requestTable.find event.requestId).map fun request =>
          if node.localCache.contains request.objectId then node.localCacheHitLatency
          else node.oneWayLinkLatency
  | .memoryServiceStart =>
      (s.shared.requestTable.find event.requestId).map (s.memoryNode.serviceTimeFor A)
  | .memoryServiceComplete => some s.memoryNode.config.oneWayLinkLatency
  | _ => none

/-- Adding the delay of the next event to its time does not lead into the past. -/
def DelayFits (A : Arith) (s : Simulator P) : Prop :=
  ∀ event scheduler, s.shared.scheduler.popNext = some (event, scheduler) →
    ∀ delay ∈ s.delayOf A event, event.time ≤ A.add event.time delay

/-- The number of delayed events that the scheduler has refused. -/
def lost (s : Simulator P) : Nat :=
  s.shared.scheduler.refused.countP fun event => event.type.delayed

/-- The events of an effect that are refused are counted once each. -/
theorem lost_apply {s s' : Simulator P} {event : Event} {scheduler : Scheduler} {effect : Effect}
    (hpop : s.shared.scheduler.popNext = some (event, scheduler))
    (hshared : s'.shared = (s.popped scheduler).shared.apply effect) :
    s'.lost = s.lost + effect.events.countP fun e => e.time < event.time ∧ e.type.delayed := by
  obtain ⟨-, htime, -, hrefused, -⟩ := Scheduler.popNext_eq_some hpop
  rw [lost, hshared]
  show (scheduler.scheduleAll effect.events).refused.countP _ = _
  rw [Scheduler.scheduleAll_refused, List.countP_append, hrefused, htime, List.countP_map,
    List.countP_filter, lost]
  refine congrArg (_ + ·) (List.countP_congr fun e _ => ?_)
  simp [EventRecord.event, and_comm]

/-- `GenerateRequest` events do not count where they are not asked for. -/
theorem countP_generates {q : EventType → Bool} (hq : q .generateRequest = false)
    {records : List EventRecord} (h : ∀ e ∈ records, e.type = .generateRequest) :
    records.countP (fun e => q e.type) = 0 := by
  rw [List.countP_eq_zero]
  intro e he
  rw [h e he, hq]
  exact Bool.false_ne_true

theorem filter_generates {records : List EventRecord}
    (h : ∀ e ∈ records, e.type = .generateRequest) :
    records.filter (fun e => e.type.delayed) = [] := by
  rw [List.filter_eq_nil_iff]
  intro e he
  rw [h e he]
  exact Bool.false_ne_true

/-- A dispatch schedules a delayed event exactly if there is a delay, and then at the time the
    delay gives. -/
theorem Dispatched.delayed_times {s s' : Simulator P} {event : Event}
    (h : Dispatched A s event s') :
    ∃ effect : Effect, s'.shared = s.shared.apply effect ∧
      (effect.events.filter fun e => e.type.delayed).map EventRecord.time =
        (s.delayOf A event).toList.map (A.add event.time) := by
  cases h with
  | @compute node node' effect hfind hstep =>
      refine ⟨effect, rfl, ?_⟩
      unfold delayOf
      cases hstep with
      | drained htype =>
          rw [htype]
          rfl
      | issue htype =>
          rw [htype, List.filter_cons_of_neg Bool.false_ne_true,
            filter_generates fun e he => (ComputeNode.mem_nextBurst he).1]
          rfl
      | @hit request htype hrequest hhit =>
          have hholds := (LocalCache.lookup_hit_iff _ _ _ _).mp hhit
          have hcontains : node.localCache.contains request.objectId = true := hholds
          rw [htype, hfind, hrequest]
          simp [hcontains, EventType.delayed]
      | @miss request htype hrequest hmiss =>
          have hcontains : node.localCache.contains request.objectId = false := by
            rw [← Bool.not_eq_true]
            intro hholds
            have hhit := (LocalCache.lookup_hit_iff s.shared.stats node.localCache
              (ComputeNode.lookedUp request) event.time).mpr hholds
            exact Bool.false_ne_true (hmiss.symm.trans hhit)
          rw [htype, hfind, hrequest]
          simp [hcontains, EventType.delayed]
      | hitComplete htype =>
          rw [htype]
          rfl
      | returned htype =>
          rw [htype]
          rfl
      | complete htype =>
          rw [htype, filter_generates fun e he => (ComputeNode.mem_nextOnCompletion he).1]
          rfl
  | @memory memoryNode effect hfind htarget hstep =>
      refine ⟨effect, rfl, ?_⟩
      unfold delayOf
      cases hstep with
      | forwardIdle htype =>
          rw [htype]
          rfl
      | forwardBusy htype =>
          rw [htype]
          rfl
      | start htype hrequest =>
          rw [htype, hrequest]
          rfl
      | completeIdle htype =>
          rw [htype]
          rfl
      | completeNext htype =>
          rw [htype]
          rfl

/-- What a dispatch schedules without a delay, it schedules for the present, except for the
    next request of a burst. -/
theorem Dispatched.event_times {s s' : Simulator P} {event : Event}
    (h : Dispatched A s event s') :
    ∃ effect : Effect, s'.shared = s.shared.apply effect ∧
      ∀ e ∈ effect.events, e.type.delayed = true ∨ e.time = event.time ∨
        (e.type = .generateRequest ∧ (e.time = s.shared.scheduler.now ∨
          ∃ node spec, event.type = .generateRequest ∧
            s.computeNodes.find event.targetId = some node ∧
            node.workload.upcoming = some spec ∧
            e ∈ ((node.afterIssue A s.shared.stats spec event.time).nextBurst A).toList)) := by
  cases h with
  | @compute node node' effect hfind hstep =>
      refine ⟨effect, rfl, fun e he => ?_⟩
      cases hstep with
      | drained => cases he
      | issue htype hup =>
          rcases List.mem_cons.mp he with rfl | hburst
          · exact Or.inr (Or.inl rfl)
          · exact Or.inr (Or.inr ⟨(ComputeNode.mem_nextBurst hburst).1,
              Or.inr ⟨node, _, htype, hfind, hup, hburst⟩⟩)
      | hit | miss =>
          rw [List.mem_singleton.mp he]
          exact Or.inl rfl
      | hitComplete | returned =>
          rw [List.mem_singleton.mp he]
          exact Or.inr (Or.inl rfl)
      | complete =>
          obtain ⟨htype, -, -, htime, -⟩ := ComputeNode.mem_nextOnCompletion he
          exact Or.inr (Or.inr ⟨htype, Or.inl htime⟩)
  | @memory memoryNode effect hfind htarget hstep =>
      refine ⟨effect, rfl, fun e he => ?_⟩
      cases hstep with
      | forwardIdle =>
          rw [List.mem_singleton.mp he]
          exact Or.inr (Or.inl rfl)
      | forwardBusy => cases he
      | start | completeIdle =>
          rw [List.mem_singleton.mp he]
          exact Or.inl rfl
      | completeNext =>
          rcases List.mem_cons.mp he with rfl | hstart
          · exact Or.inl rfl
          · rw [List.mem_singleton.mp hstart]
            exact Or.inr (Or.inl rfl)

/-- A release leaves the shared state alone but for the `GenerateRequest` events it
    schedules. -/
theorem release_shared (A : Arith) (s : Simulator P) :
    ∃ records : List EventRecord, (∀ e ∈ records, e.type = .generateRequest) ∧
      (releaseNextEpochIfReady A s).shared =
        { s.shared with scheduler := s.shared.scheduler.scheduleAll records } := by
  rcases release_cases A s with ⟨-, heq⟩ | ⟨-, -, heq⟩ | ⟨epoch, -, -, heq⟩
  · exact ⟨[], fun e he => absurd he List.not_mem_nil, by rw [heq]; rfl⟩
  · exact ⟨[], fun e he => absurd he List.not_mem_nil, by rw [heq]; rfl⟩
  · refine ⟨_, fun e he => ?_, by rw [heq]; rfl⟩
    obtain ⟨nodeConfig, -, hevent⟩ := List.mem_filterMap.mp he
    exact (releaseEvent_generates hevent).1

theorem release_lost (A : Arith) (s : Simulator P) :
    (releaseNextEpochIfReady A s).lost = s.lost := by
  obtain ⟨records, htypes, hshared⟩ := release_shared A s
  rw [lost, hshared]
  show (s.shared.scheduler.scheduleAll records).refused.countP _ = _
  rw [Scheduler.scheduleAll_refused, List.countP_append, List.countP_map, List.countP_filter, lost,
    Nat.add_eq_left, List.countP_eq_zero]
  intro e he hboth
  simp [EventRecord.event, htypes e he, EventType.delayed] at hboth

/-- A turn loses an event exactly if the delay leads into the past. -/
theorem move_lost {s t : Simulator P} (h : Run.Moves (step A) s t) :
    (s.DelayFits A → t.lost = s.lost) ∧ (¬ s.DelayFits A → t.lost = s.lost + 1) := by
  obtain ⟨event, scheduler, s', hpop, hdispatched, rfl⟩ := moves_iff.mp h
  obtain ⟨effect, hshared, htimes⟩ := hdispatched.delayed_times
  have hcount : (effect.events.countP fun e => e.time < event.time ∧ e.type.delayed) =
      ((s.delayOf A event).toList.map (A.add event.time)).countP
        fun time => time < event.time := by
    rw [show s.delayOf A event = (s.popped scheduler).delayOf A event from rfl, ← htimes,
      List.countP_map, List.countP_filter]
    exact List.countP_congr fun e _ => by simp
  have hfits : s.DelayFits A ↔ ∀ delay ∈ s.delayOf A event, event.time ≤ A.add event.time delay := by
    refine ⟨fun hall => hall event scheduler hpop, fun hone event' scheduler' hpop' => ?_⟩
    obtain ⟨rfl, rfl⟩ := Prod.mk.inj (Option.some.inj (hpop.symm.trans hpop'))
    exact hone
  rw [release_lost, lost_apply hpop hshared, hcount, hfits]
  cases s.delayOf A event with
  | none => exact ⟨fun _ => rfl, fun hnot => absurd (fun delay hmem => by cases hmem) hnot⟩
  | some delay =>
      simp only [Option.mem_some_iff, forall_eq', Option.toList_some, List.map_singleton,
        List.countP_singleton, decide_eq_true_eq, not_le]
      refine ⟨fun hle => ?_, fun hlt => ?_⟩
      · rw [if_neg (Nat.not_lt.mpr hle)]
        rfl
      · rw [if_pos hlt]

theorem move_lost_le {s t : Simulator P} (h : Run.Moves (step A) s t) : s.lost ≤ t.lost := by
  obtain ⟨hfits, hnot⟩ := move_lost h
  by_cases hdelay : s.DelayFits A
  · exact (hfits hdelay).ge
  · rw [hnot hdelay]
    exact Nat.le_succ _

/-- Nothing is lost in a run exactly if all its delays fit. -/
theorem lost_eq_zero_iff {s final : Simulator P} (hs : s.lost = 0) (h : RunsTo A s final) :
    final.lost = 0 ↔ ∀ t, Reachable A s t → t.DelayFits A := by
  have hmono : ∀ {u v : Simulator P}, Run.Reaches (step A) u v → u.lost ≤ v.lost := by
    intro u v huv
    induction huv with
    | refl => exact le_refl _
    | tail _ hmove ih => exact ih.trans (move_lost_le hmove)
  constructor
  · intro hzero t ht
    by_contra hdelay
    rcases Relation.ReflTransGen.cases_head (h.reaches_end ht) with rfl | ⟨u, hmove, hend⟩
    · -- nothing is pending at the end
      refine hdelay fun event scheduler hpop => ?_
      rw [Scheduler.popNext_eq_none.mpr (halted_iff.mp h.halted)] at hpop
      cases hpop
    · have hle := hmono hend
      rw [(move_lost hmove).2 hdelay, hzero] at hle
      exact absurd hle (Nat.not_succ_le_zero _)
  · intro hall
    have hlost : ∀ t, Reachable A s t → t.lost = 0 := by
      intro t ht
      induction ht with
      | refl => rw [release_lost, hs]
      | tail hreach hmove ih => rw [(move_lost hmove).1 (hall _ hreach), ih]
    exact hlost final h.reaches

end Simulator

end DmSimulator
