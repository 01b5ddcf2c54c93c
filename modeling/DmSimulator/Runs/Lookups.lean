/-
  DmSimulator.Runs.Lookups

  Lookups and answers over a run, in either reading of the arithmetic.

  A request is looked up at the time when it is issued: the event is scheduled for the
  current time, and such an event is never refused.  It is looked up once, since every
  request is under way once at most, and answered once, since its answer ends its way.
-/
import DmSimulator.Runs.CacheRuns
import DmSimulator.Runs.RecordLabels

namespace DmSimulator

/-- Scheduling adds the events that are not in the past. -/
theorem Scheduler.mem_pending_scheduleAll {s : Scheduler} {records : List EventRecord}
    {e : EventRecord} : e ∈ (s.scheduleAll records).pending ↔
      (e ∈ records ∧ s.currentTime ≤ e.time) ∨ e ∈ s.pending := by
  induction records generalizing s with
  | nil => simp
  | cons record rest ih =>
      have hnow : (s.schedule record.event).1.currentTime = s.currentTime :=
        schedule_currentTime s record.event
      rw [scheduleAll_cons, ih, hnow]
      by_cases hle : s.currentTime ≤ record.time
      · rw [schedule_pending hle, Multiset.mem_cons, List.mem_cons]
        constructor
        · rintro (⟨hin, htime⟩ | rfl | hin)
          · exact Or.inl ⟨Or.inr hin, htime⟩
          · exact Or.inl ⟨Or.inl rfl, hle⟩
          · exact Or.inr hin
        · rintro (⟨rfl | hin, htime⟩ | hin)
          · exact Or.inr (Or.inl rfl)
          · exact Or.inl ⟨hin, htime⟩
          · exact Or.inr (Or.inr hin)
      · have hrefused : (s.schedule record.event).1.pending = s.pending := by
          rw [show s.schedule record.event = ({ s with refused := s.refused ++ [record.event] },
            false) from if_pos (Nat.lt_of_not_le hle)]
          rfl
        rw [hrefused, List.mem_cons]
        constructor
        · rintro (⟨hin, htime⟩ | hin)
          · exact Or.inl ⟨Or.inr hin, htime⟩
          · exact Or.inr hin
        · rintro (⟨rfl | hin, htime⟩ | hin)
          · exact absurd htime hle
          · exact Or.inl ⟨hin, htime⟩
          · exact Or.inr hin

-- ============================================================================
-- One event
-- ============================================================================

/-- An effect looks up the request that it issues, at the time of the event, and no other. -/
structure Effect.LooksUp (effect : Effect) (nextRequestId : RequestId) (time : SimTime) :
    Prop where
  fresh : ∀ e ∈ effect.events, e.type = .localCacheLookup → e.requestId = nextRequestId
  issued : effect.issued = 1 → ∀ written, effect.request = some written →
    written.issueTime = time ∧ ∃ e ∈ effect.events, e.type = .localCacheLookup ∧
      e.requestId = written.requestId ∧ e.time = time

/-- An effect answers the request of its event, or none. -/
def Effect.AnswersAtMost (effect : Effect) (event : Event) : Prop :=
  effect.responses = [] ∨
    event.type.answers = true ∧ ∃ p, effect.responses = [p] ∧ p.requestId = event.requestId

theorem Effect.looksUp_none {effect : Effect} {nextRequestId : RequestId} {time : SimTime}
    (hissued : effect.issued = 0) (hevents : ∀ e ∈ effect.events, e.type ≠ .localCacheLookup) :
    effect.LooksUp nextRequestId time := by
  refine ⟨fun e he htype => absurd htype (hevents e he), fun hone => ?_⟩
  rw [hissued] at hone
  cases hone

section Step

variable {P : CachePolicy} {A : Arith} {event : Event} {sh : Shared} {effect : Effect}

theorem ComputeNode.ComputeStep.looksUp {node node' : ComputeNode P}
    (h : ComputeStep A node event sh node' effect) : effect.LooksUp sh.nextRequestId event.time := by
  cases h with
  | drained => exact Effect.looksUp_none rfl fun e he => absurd he List.not_mem_nil
  | issue =>
      refine ⟨fun e he htype => ?_, fun _ written hwritten => ?_⟩
      · rcases List.mem_cons.mp he with rfl | hburst
        · rfl
        · exact absurd ((mem_nextBurst hburst).1.symm.trans htype) (by decide)
      · cases hwritten
        exact ⟨rfl, _, List.mem_cons_self, rfl, rfl, rfl⟩
  | hit | miss | hitComplete | returned =>
      refine Effect.looksUp_none rfl fun e he => ?_
      rw [List.mem_singleton.mp he]
      exact EventType.noConfusion
  | complete =>
      refine Effect.looksUp_none rfl fun e he => ?_
      rw [(mem_nextOnCompletion he).1]
      decide

theorem MemoryNode.MemoryStep.looksUp {m m' : MemoryNode} (h : MemoryStep A m event sh m' effect) :
    effect.LooksUp sh.nextRequestId event.time := by
  cases h with
  | forwardBusy => exact Effect.looksUp_none rfl fun e he => absurd he List.not_mem_nil
  | forwardIdle | start | completeIdle =>
      refine Effect.looksUp_none rfl fun e he => ?_
      rw [List.mem_singleton.mp he]
      exact EventType.noConfusion
  | completeNext =>
      refine Effect.looksUp_none rfl fun e he => ?_
      rcases List.mem_pair.mp he with rfl | rfl <;> exact EventType.noConfusion

theorem ComputeNode.ComputeStep.answersAtMost {node node' : ComputeNode P}
    (h : ComputeStep A node event sh node' effect) : effect.AnswersAtMost event := by
  cases h with
  | drained | issue | hit | miss | complete => exact Or.inl rfl
  | hitComplete htype hrequest | returned htype hrequest =>
      have hkey := KeyedStore.key_of_find hrequest
      exact Or.inr ⟨by rw [htype]; rfl, _, rfl, hkey⟩

theorem MemoryNode.MemoryStep.answersAtMost {m m' : MemoryNode}
    (h : MemoryStep A m event sh m' effect) : effect.AnswersAtMost event := by
  cases h <;> exact Or.inl rfl

end Step

namespace Simulator

variable {P : CachePolicy} {A : Arith} {s s' t : Simulator P} {event : Event}
  {scheduler : Scheduler} {effect : Effect}

-- ============================================================================
-- Handlers
-- ============================================================================

/-- What the handler of an event did, whichever node it was for. -/
structure Handled (s : Simulator P) (event : Event) (scheduler : Scheduler) (effect : Effect)
    (s' : Simulator P) : Prop where
  pop : s.shared.scheduler.popNext = some (event, scheduler)
  shared : s'.shared = (s.popped scheduler).shared.apply effect
  log : s'.eventLog = s.eventLog ++ [event.record]
  writes : effect.Writes s.shared
  looksUp : effect.LooksUp s.shared.nextRequestId event.time
  answers : effect.AnswersAtMost event
  underWay : s'.underWay + event.answered = s.underWay + effect.issuedIds s.shared

theorem exists_handled (hpop : s.shared.scheduler.popNext = some (event, scheduler))
    (hdispatched : Dispatched A (s.popped scheduler) event s') :
    ∃ effect, Handled s event scheduler effect s' := by
  cases hdispatched with
  | @compute node node' effect hfind hstep =>
      exact ⟨effect, hpop, rfl, rfl, hstep.writes, hstep.looksUp, hstep.answersAtMost,
        underWay_afterCompute hpop hstep⟩
  | @memory memoryNode effect hfind htarget hstep =>
      have hnone : event.answered = 0 ∧ effect.issuedIds s.shared = 0 := by
        unfold Event.answered
        cases hstep with
        | forwardIdle htype | forwardBusy htype | start htype | completeIdle htype
        | completeNext htype =>
            rw [htype]
            exact ⟨rfl, rfl⟩
      refine ⟨effect, hpop, rfl, rfl, hstep.writes, hstep.looksUp, hstep.answersAtMost, ?_⟩
      rw [hnone.1, hnone.2, underWay_afterMemory hpop hstep]

namespace Handled

theorem raised (h : Handled s event scheduler effect s') :
    event.record ∈ s.shared.scheduler.raised := by
  rw [Scheduler.popNext_raised h.pop]
  exact Multiset.mem_cons_self _ _

theorem pending_eq (h : Handled s event scheduler effect s') :
    s.view.pending = event.record ::ₘ scheduler.pending := (Scheduler.popNext_eq_some h.pop).1

/-- The events that are pending afterwards. -/
theorem mem_pending (h : Handled s event scheduler effect s') {e : EventRecord} :
    e ∈ s'.view.pending ↔
      (e ∈ effect.events ∧ event.time ≤ e.time) ∨ e ∈ scheduler.pending := by
  show e ∈ s'.shared.scheduler.pending ↔ _
  rw [h.shared, ← (Scheduler.popNext_eq_some h.pop).2.1]
  exact Scheduler.mem_pending_scheduleAll

/-- No other pending event carries the request of the event. -/
theorem carried_once (h : Handled s event scheduler effect s') (honce : s.underWay.Nodup)
    (hcarries : event.type.carries = true) {e : EventRecord} (he : e ∈ scheduler.pending)
    (hcarries' : e.type.carries = true) : e.requestId ≠ event.requestId := by
  intro hid
  have hsum : s.underWay = carried s.shared.scheduler.raised + s.memoryNode.waiting := rfl
  rw [hsum, Scheduler.popNext_raised h.pop, carried_cons_of_carries hcarries, Multiset.cons_add,
    Multiset.nodup_cons] at honce
  apply honce.1
  rw [show event.record.requestId = e.requestId from hid.symm]
  exact Multiset.mem_add.mpr (Or.inl (Multiset.mem_map_of_mem EventRecord.requestId
    (Multiset.mem_filter.mpr ⟨Multiset.mem_add.mpr (Or.inl he), hcarries'⟩)))

theorem ticket (h : Handled s event scheduler effect s') (hdrains : s.Drains) {id : RequestId}
    {ticket : Ticket} (hticket : s.view.tickets id = some ticket) :
    s'.view.tickets id = some ticket := hdrains.ticket h.writes h.shared hticket

/-- An answer ends the way of its request. -/
theorem answered (h : Handled s event scheduler effect s') (hl : s.AllLabelled)
    (htype : event.type.answers = true) :
    event.requestId ∈ s.underWay ∧ s'.Answered event.requestId := by
  have hunder : event.requestId ∈ s.underWay := by
    refine mem_underWay h.raised ?_
    show event.type.carries = true
    cases hevent : event.type <;> rw [hevent] at htype <;>
      first | rfl | exact absurd htype Bool.false_ne_true
  obtain ⟨ticket, hticket⟩ := hl.paced.known _ hunder
  have hnodup := hl.paced.nodup_issued hl.once effect
  have hanswered : event.answered = {event.requestId} := if_pos htype
  rw [← h.underWay, hanswered, ← Multiset.cons_zero, Multiset.add_cons, Multiset.add_zero,
    Multiset.nodup_cons] at hnodup
  exact ⟨hunder, ⟨ticket, h.ticket hl.paced.drains hticket⟩, hnodup.1⟩

end Handled

-- ============================================================================
-- The invariant
-- ============================================================================

/-- Every request is looked up at the time of its issue, once, and answered once at most. -/
structure LookupsInv (s : Simulator P) : Prop where
  ordered : s.shared.scheduler.WellOrdered
  noted : ∀ request ∈ s.shared.requestTable.items, ∃ e, (e ∈ s.eventLog ∨ e ∈ s.view.pending) ∧
    e.type = .localCacheLookup ∧ e.requestId = request.requestId ∧ e.time = request.issueTime
  known : ∀ e ∈ s.eventLog, e.type = .localCacheLookup →
    ∃ ticket, s.view.tickets e.requestId = some ticket
  once : ∀ e ∈ s.eventLog, e.type = .localCacheLookup → ∀ e' ∈ s.view.pending,
    e'.type = .localCacheLookup → e'.requestId ≠ e.requestId
  answered : ∀ p ∈ s.shared.responses, s.Answered p.requestId
  nodup : (s.shared.responses.map Response.requestId).Nodup

/-- The requests of the table stay noted, and a new one is noted. -/
theorem LookupsInv.noted_handled (h : s.LookupsInv) (hhandled : Handled s event scheduler effect s') :
    ∀ request ∈ s'.shared.requestTable.items, ∃ e, (e ∈ s'.eventLog ∨ e ∈ s'.view.pending) ∧
      e.type = .localCacheLookup ∧ e.requestId = request.requestId ∧
        e.time = request.issueTime := by
  have hkept : ∀ e, e ∈ s.eventLog ∨ e ∈ s.view.pending → e ∈ s'.eventLog ∨ e ∈ s'.view.pending := by
    rintro e (hin | hin)
    · rw [hhandled.log]
      exact Or.inl (List.mem_append_left _ hin)
    · rw [hhandled.pending_eq] at hin
      rcases Multiset.mem_cons.mp hin with rfl | hin
      · rw [hhandled.log]
        exact Or.inl (List.mem_append_right _ (List.mem_singleton_self _))
      · exact Or.inr (hhandled.mem_pending.mpr (Or.inr hin))
  have hold : ∀ request ∈ s.shared.requestTable.items, ∃ e,
      (e ∈ s'.eventLog ∨ e ∈ s'.view.pending) ∧ e.type = .localCacheLookup ∧
        e.requestId = request.requestId ∧ e.time = request.issueTime := by
    intro request hrequest
    obtain ⟨e, hin, hnoted⟩ := h.noted request hrequest
    exact ⟨e, hkept e hin, hnoted⟩
  intro request hrequest
  rw [hhandled.shared] at hrequest
  cases hwritten : effect.request with
  | none =>
      rw [Shared.table_of_none _ hwritten] at hrequest
      exact hold request hrequest
  | some written =>
      rw [Shared.table_of_some _ hwritten] at hrequest
      rcases KeyedStore.mem_insert.mp hrequest with rfl | ⟨hin, -⟩
      · rcases hhandled.writes request hwritten with ⟨old, hfind, hticket⟩ | ⟨-, hissued⟩
        · obtain ⟨hmem, -⟩ := KeyedStore.find_eq_some.mp hfind
          obtain ⟨e, hnoted, htype, hid, htime⟩ := hold old hmem
          exact ⟨e, hnoted, htype, hid.trans (congrArg Ticket.requestId hticket).symm,
            htime.trans (congrArg Ticket.issueTime hticket).symm⟩
        · obtain ⟨hissue, e, he, htype, hid, htime⟩ := hhandled.looksUp.issued hissued _ hwritten
          exact ⟨e, Or.inr (hhandled.mem_pending.mpr (Or.inl ⟨he, le_of_eq htime.symm⟩)), htype,
            hid, htime.trans hissue.symm⟩
      · exact hold request hin

/-- A request that has been looked up is not looked up again. -/
theorem LookupsInv.once_handled (h : s.LookupsInv) (hl : s.AllLabelled)
    (hhandled : Handled s event scheduler effect s') :
    ∀ e ∈ s'.eventLog, e.type = .localCacheLookup →
      (∃ ticket, s.view.tickets e.requestId = some ticket) ∧ ∀ e' ∈ s'.view.pending,
        e'.type = .localCacheLookup → e'.requestId ≠ e.requestId := by
  have hknown : ∀ e ∈ s'.eventLog, e.type = .localCacheLookup →
      ∃ ticket, s.view.tickets e.requestId = some ticket := by
    intro e he htype
    rw [hhandled.log] at he
    rcases List.mem_append.mp he with hold | hnew
    · exact h.known e hold htype
    · rw [List.mem_singleton.mp hnew] at htype ⊢
      refine hl.paced.known _ (mem_underWay hhandled.raised ?_)
      rw [htype]
      rfl
  intro e he htype
  obtain ⟨ticket, hticket⟩ := hknown e he htype
  refine ⟨⟨ticket, hticket⟩, fun e' he' htype' hid => ?_⟩
  rcases hhandled.mem_pending.mp he' with ⟨hnew, -⟩ | hrest
  · -- a new lookup is that of a new request
    exact hl.paced.drains.ne_next hticket
      (hid.symm.trans (hhandled.looksUp.fresh e' hnew htype'))
  · rw [hhandled.log] at he
    rcases List.mem_append.mp he with hold | hself
    · refine h.once e hold htype e' ?_ htype' hid
      rw [hhandled.pending_eq]
      exact Multiset.mem_cons_of_mem hrest
    · rw [List.mem_singleton.mp hself] at htype hid
      have hcarries : event.type.carries = true := by
        rw [show event.type = .localCacheLookup from htype]
        rfl
      exact hhandled.carried_once hl.once hcarries hrest (by rw [htype']; rfl) hid

/-- A request that has been answered is not answered again. -/
theorem LookupsInv.answered_handled (h : s.LookupsInv) (hl : s.AllLabelled)
    (hhandled : Handled s event scheduler effect s') :
    (∀ p ∈ s'.shared.responses, s'.Answered p.requestId) ∧
      (s'.shared.responses.map Response.requestId).Nodup := by
  have hold : ∀ p ∈ s.shared.responses, s'.Answered p.requestId := by
    intro p hp
    apply (h.answered p hp).keep hl.paced fun ticket ht => hhandled.ticket hl.paced.drains ht
    rw [← hhandled.underWay]
    exact Multiset.le_add_right _ event.answered
  rw [show s'.shared.responses = s.shared.responses ++ effect.responses by
    rw [hhandled.shared]
    rfl]
  rcases hhandled.answers with hnone | ⟨htype, p, hone, hid⟩
  · rw [hnone, List.append_nil]
    exact ⟨hold, h.nodup⟩
  · obtain ⟨hunder, hanswered⟩ := hhandled.answered hl htype
    rw [hone]
    refine ⟨fun q hq => ?_, ?_⟩
    · rcases List.mem_append.mp hq with hin | hin
      · exact hold q hin
      · rw [List.mem_singleton.mp hin, hid]
        exact hanswered
    · rw [List.map_append, List.map_singleton, hid]
      refine List.nodup_append.mpr ⟨h.nodup, List.nodup_singleton _, ?_⟩
      rintro id hin other hother rfl
      rw [List.mem_singleton.mp hother] at hin
      obtain ⟨q, hq, hsame⟩ := List.mem_map.mp hin
      exact (hsame ▸ h.answered q hq).2 hunder

theorem LookupsInv.handled (h : s.LookupsInv) (hl : s.AllLabelled)
    (hhandled : Handled s event scheduler effect s') : s'.LookupsInv := by
  obtain ⟨hanswered, hnodup⟩ := h.answered_handled hl hhandled
  have honce := h.once_handled hl hhandled
  refine ⟨?_, h.noted_handled hhandled, fun e he htype => ?_, fun e he htype => (honce e he htype).2,
    hanswered, hnodup⟩
  · rw [hhandled.shared]
    exact (h.ordered.popNext hhandled.pop).1.scheduleRecords effect.events
  · obtain ⟨⟨ticket, hticket⟩, -⟩ := honce e he htype
    exact ⟨ticket, hhandled.ticket hl.paced.drains hticket⟩

theorem LookupsInv.release (h : s.LookupsInv) : (releaseNextEpochIfReady A s).LookupsInv := by
  obtain ⟨records, htypes, hshared⟩ := release_shared A s
  have hlog := (release_log A s).1
  have hpending : ∀ e, e ∈ (releaseNextEpochIfReady A s).view.pending ↔
      (e ∈ records ∧ s.shared.scheduler.currentTime ≤ e.time) ∨ e ∈ s.view.pending := by
    intro e
    show e ∈ (releaseNextEpochIfReady A s).shared.scheduler.pending ↔ _
    rw [hshared]
    exact Scheduler.mem_pending_scheduleAll
  refine ⟨?_, fun request hrequest => ?_, fun e he htype => ?_, fun e he htype e' he' htype' => ?_,
    fun p hp => ?_, ?_⟩
  · rw [hshared]
    exact h.ordered.scheduleRecords records
  · rw [hshared] at hrequest
    obtain ⟨e, hin, hnoted⟩ := h.noted request hrequest
    refine ⟨e, ?_, hnoted⟩
    rw [hlog, hpending]
    exact hin.imp_right Or.inr
  · rw [hlog] at he
    obtain ⟨ticket, hticket⟩ := h.known e he htype
    refine ⟨ticket, ?_⟩
    show ((releaseNextEpochIfReady A s).shared.requestTable.find _).map Request.ticket = _
    rw [hshared]
    exact hticket
  · rw [hlog] at he
    rcases (hpending e').mp he' with ⟨hin, -⟩ | hin
    · exact absurd ((htypes e' hin).symm.trans htype') (by decide)
    · exact h.once e he htype e' hin htype'
  · rw [hshared] at hp
    exact (h.answered p hp).release
  · rw [hshared]
    exact h.nodup

theorem LookupsInv.move (h : s.LookupsInv) (hl : s.AllLabelled) (hmove : Run.Moves (step A) s t) :
    t.LookupsInv := by
  obtain ⟨event, scheduler, s', hpop, hdispatched, rfl⟩ := moves_iff.mp hmove
  obtain ⟨effect, hhandled⟩ := exists_handled hpop hdispatched
  exact (h.handled hl hhandled).release

theorem lookupsInv_init (P : CachePolicy) (config : SimulationConfig)
    (generatedWorkload : Option GeneratedWorkload) :
    (ofConfig P config generatedWorkload).LookupsInv :=
  ⟨Scheduler.wellOrdered_init, fun _ hrequest => absurd hrequest List.not_mem_nil,
    fun _ he => absurd he List.not_mem_nil, fun _ he => absurd he List.not_mem_nil,
    fun _ hp => absurd hp List.not_mem_nil, List.nodup_nil⟩

theorem lookupsInv_of_construct {rng : RandomSource} {config : SimulationConfig}
    {s t : Simulator (makeCachePolicy A config.localCache)} (h : construct A rng config = .ok s)
    (ht : Reachable A s t) : t.LookupsInv := by
  have hboth : Reachable A s t ∧ t.LookupsInv := by
    apply Run.invariant_of_reaches (fun t => Reachable A s t ∧ t.LookupsInv) _ _ ht
    · rintro a b ⟨ha, hinv⟩ hmove
      exact ⟨ha.tail hmove, hinv.move (allLabelled_of_construct h ha) hmove⟩
    · refine ⟨Relation.ReflTransGen.refl, ?_⟩
      obtain ⟨prepared, generatedWorkload, rfl⟩ := construct_eq_ofConfig h
      exact (lookupsInv_init _ _ _).release
  exact hboth.2

end Simulator

end DmSimulator
