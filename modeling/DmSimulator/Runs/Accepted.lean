/-
  DmSimulator.Runs.Accepted

  When no event is refused in a run on 64-bit machine time.

  An event is refused exactly if its time wraps around to a time before the
  clock.  The times are sums of a clock and a delay at a lookup, at the memory
  and on the way back, of an epoch base and an offset behind an issue of a
  burst, and of the clock and an offset at a release.
-/
import DmSimulator.Runs.Barrier
import DmSimulator.Runs.CacheRuns
import DmSimulator.Runs.Channels
import DmSimulator.Runs.Drain

namespace DmSimulator

/-- A sum that fits a word is not reduced. -/
theorem Arith.add_of_lt {a b : Nat} (h : a + b < wordSize) : word64.add a b = a + b :=
  Nat.mod_eq_of_lt h

/-- Neither is the difference of a word and a smaller one. -/
theorem Arith.sub_of_le {a b : Nat} (h : a < wordSize) (hle : b ≤ a) : word64.sub a b = a - b := by
  have hb : b < wordSize := Nat.lt_of_le_of_lt hle h
  show (a + (wordSize - b % wordSize)) % wordSize = a - b
  rw [Nat.mod_eq_of_lt hb, show a + (wordSize - b) = a - b + wordSize by omega,
    Nat.add_mod_right, Nat.mod_eq_of_lt (by omega)]

namespace Simulator

variable {P : CachePolicy} {A : Arith}

-- ============================================================================
-- Sums that fit
-- ============================================================================

/-- No time that the turn of `event` adds up reaches the word size, `rest` being what is
    left in the queue: not the end of a delay, not the issue time of the next request of a
    burst, whose offset is not before the offset of this one, and not the issue time of a
    request of the epoch that is released next. -/
structure TurnFits (s : Simulator P) (event : Event) (rest : Scheduler) : Prop where
  delay : ∀ delay ∈ s.delayOf .word64 event, event.time + delay < Arith.wordSize
  burst : ∀ node spec next, event.type = .generateRequest →
    s.computeNodes.find event.targetId = some node → node.issueMode = .scheduledBursty →
    node.workload.upcoming = some spec → node.workload.advance.upcoming = some next →
    next.epochId = spec.epochId →
      spec.scheduledIssueOffset ≤ next.scheduledIssueOffset ∧
        event.time - spec.scheduledIssueOffset + next.scheduledIssueOffset < Arith.wordSize
  release : rest.pending = 0 → (∀ node ∈ s.computeNodes.items, node.outstandingRequests = 0) →
    ∀ epoch, s.nextUnreleasedEpoch = some epoch →
      ∀ node ∈ s.computeNodes.items, node.nextRequestEpoch = some epoch →
        event.time + node.nextRequestIssueOffset < Arith.wordSize

/-- The next turn fits. -/
def TimesFit (s : Simulator P) : Prop :=
  ∀ event rest, s.shared.scheduler.popNext = some (event, rest) → s.TurnFits event rest

variable {s s' : Simulator P} {event : Event} {rest : Scheduler}

theorem TimesFit.delayFits (h : s.TimesFit) : s.DelayFits .word64 := by
  intro event rest hpop delay hdelay
  rw [Arith.add_of_lt ((h event rest hpop).delay delay hdelay)]
  exact Nat.le_add_right event.time delay

/-- The next request of a burst is scheduled for the epoch base plus its offset, which is not
    in the past. -/
theorem TurnFits.nextBurst_le (h : s.TurnFits event rest) (stats : Stats)
    (htype : event.type = .generateRequest) {node : ComputeNode P} {spec : RequestSpec}
    (hfind : s.computeNodes.find event.targetId = some node)
    (hup : node.workload.upcoming = some spec) {e : EventRecord}
    (he : e ∈ ((node.afterIssue .word64 stats spec event.time).nextBurst .word64).toList) :
    event.time ≤ e.time := by
  obtain ⟨-, -, -, hbursty, next, hnext, hepoch⟩ := ComputeNode.mem_nextBurst he
  have hmode : node.issueMode = .scheduledBursty := hbursty
  obtain ⟨hordered, hfits⟩ := h.burst node spec next htype hfind hmode hup hnext
    (Option.some.inj hepoch).symm
  have htime : e.time =
      Arith.add .word64 (node.epochBase .word64 spec event.time) next.scheduledIssueOffset := by
    have hsome : (node.afterIssue .word64 stats spec event.time).nextBurst .word64 =
        some
          { time := Arith.add .word64 (node.epochBase .word64 spec event.time)
              next.scheduledIssueOffset
            type := .generateRequest
            targetId := node.nodeId } := by
      unfold ComputeNode.nextBurst
      rw [hnext]
      exact if_pos ⟨hmode, hepoch⟩
    rw [hsome] at he
    rw [List.mem_singleton.mp he]
  have hbase : node.epochBase .word64 spec event.time =
      event.time - spec.scheduledIssueOffset := by
    unfold ComputeNode.epochBase
    rw [if_pos hmode]
    by_cases hle : spec.scheduledIssueOffset ≤ event.time
    · rw [if_pos hle, Arith.sub_of_le (by lia) hle]
    · rw [if_neg hle]
      lia
  rw [htime, hbase, Arith.add_of_lt hfits]
  lia

-- ============================================================================
-- One turn
-- ============================================================================

/-- What a turn that fits dispatches is refused at most for a delay. -/
theorem TurnFits.refused_delayed (h : s.TurnFits event rest)
    (hpop : s.shared.scheduler.popNext = some (event, rest))
    (hdispatched : Dispatched .word64 (s.popped rest) event s')
    (hs : s.shared.scheduler.refused = []) :
    ∀ e ∈ s'.shared.scheduler.refused, e.type.delayed = true := by
  obtain ⟨-, htime, -, hrefused, -⟩ := Scheduler.popNext_eq_some hpop
  obtain ⟨effect, hshared, htimes⟩ := hdispatched.event_times
  rw [hshared]
  show ∀ e ∈ (rest.scheduleAll effect.events).refused, _
  rw [Scheduler.scheduleAll_refused, hrefused, hs, htime, List.nil_append]
  intro e he
  obtain ⟨record, hin, rfl⟩ := List.mem_map.mp he
  obtain ⟨hrecord, hpast⟩ := List.mem_filter.mp hin
  have hlt : record.time < event.time := of_decide_eq_true hpast
  rcases htimes record hrecord with hdelayed | heq | ⟨-, heq | ⟨node, spec, htype, hfind, hup, hburst⟩⟩
  · exact hdelayed
  · lia
  · have hnow : (s.popped rest).shared.scheduler.now = event.time := htime
    lia
  · have hle : event.time ≤ record.time := h.nextBurst_le _ htype hfind hup hburst
    lia

/-- A dispatch after which the gate is open has scheduled nothing and has left the compute
    nodes as they were. -/
theorem Dispatched.of_drained (h : Dispatched A s event s')
    (hraised : s'.shared.scheduler.raised = 0)
    (hidle : ∀ node ∈ s'.computeNodes.items, node.outstandingRequests = 0) :
    s.shared.scheduler.raised = 0 ∧ s'.releasedEpoch = s.releasedEpoch ∧
      ∀ node, node ∈ s'.computeNodes.items ↔ node ∈ s.computeNodes.items := by
  have hsplit : ∀ {effect : Effect}, s'.shared = s.shared.apply effect →
      effect.events = [] ∧ s.shared.scheduler.raised = 0 := by
    intro effect hshared
    have hsum : (s.shared.scheduler.scheduleAll effect.events).raised = 0 := by
      rw [← hraised, hshared]
      rfl
    rw [Scheduler.scheduleAll_raised, add_eq_zero] at hsum
    exact ⟨(Multiset.coe_eq_zero _).mp hsum.1, hsum.2⟩
  refine ⟨?_, h.releasedEpoch_eq, ?_⟩
  · cases h with
    | compute => exact (hsplit rfl).2
    | memory => exact (hsplit rfl).2
  cases h with
  | @compute node node' effect hfind hstep =>
      have hnone : effect.events = [] := (hsplit rfl).1
      have hsame : node' = node := by
        cases hstep with
        | drained => rfl
        | complete => rfl
        | issue | hit | miss | hitComplete | returned => cases hnone
      intro other
      obtain ⟨hmem, hkey⟩ := KeyedStore.find_eq_some.mp hfind
      show other ∈ (s.computeNodes.insert node').items ↔ _
      rw [hsame, KeyedStore.mem_insert]
      constructor
      · rintro (rfl | ⟨hin, -⟩)
        · exact hmem
        · exact hin
      · intro hin
        by_cases heq : other.nodeId = node.nodeId
        · exact Or.inl (s.computeNodes.eq_of_key_eq hin hmem heq)
        · exact Or.inr ⟨hin, heq⟩
  | memory => exact fun _ => Iff.rfl

/-- The next epoch depends on the nodes alone, not on their order. -/
theorem nextUnreleasedEpoch_congr (hreleased : s'.releasedEpoch = s.releasedEpoch)
    (hnodes : ∀ node, node ∈ s'.computeNodes.items ↔ node ∈ s.computeNodes.items) :
    s'.nextUnreleasedEpoch = s.nextUnreleasedEpoch := by
  have hawaited : s'.Awaited s'.computeNodes.items = s.Awaited s.computeNodes.items := by
    funext epoch
    unfold Awaited Unreleased
    simp only [hnodes, hreleased]
  have hleast := s'.nextUnreleasedEpoch_spec
  rw [hawaited] at hleast
  exact hleast.unique s.nextUnreleasedEpoch_spec

/-- A turn that fits refuses nothing. -/
theorem TimesFit.refused_move {t : Simulator P} (h : s.TimesFit)
    (hs : s.shared.scheduler.refused = []) (hmove : Run.Moves (step .word64) s t) :
    t.shared.scheduler.refused = [] := by
  have hlost : t.lost = 0 := by
    rw [(move_lost hmove).1 h.delayFits, lost, hs]
    rfl
  obtain ⟨event, rest, s', hpop, hdispatched, rfl⟩ := moves_iff.mp hmove
  obtain ⟨-, htime, -, -, -⟩ := Scheduler.popNext_eq_some hpop
  rw [release_lost] at hlost
  -- nothing is lost and everything else is in time
  have hrefused : s'.shared.scheduler.refused = [] := by
    have hdelayed := (h event rest hpop).refused_delayed hpop hdispatched hs
    rw [List.eq_nil_iff_forall_not_mem]
    intro e he
    exact List.countP_eq_zero.mp hlost e he (hdelayed e he)
  refine release_preserves (p := fun t => t.shared.scheduler.refused = []) hrefused
    fun epoch hdrained hnext => ?_
  have hraised : s'.shared.scheduler.raised = 0 := by
    rw [Scheduler.raised, hdrained.1, hrefused]
    rfl
  obtain ⟨hrest, hreleased, hnodes⟩ := hdispatched.of_drained hraised hdrained.2
  have hclock : s'.shared.scheduler.currentTime = event.time := by
    obtain ⟨effect, hshared, -⟩ := hdispatched.event_times
    rw [hshared]
    exact (scheduleAll_currentTime rest effect.events).trans htime
  show (s'.shared.scheduler.scheduleAll _).refused = []
  rw [Scheduler.scheduleAll_refused, hrefused, List.nil_append, List.map_eq_nil_iff,
    List.filter_eq_nil_iff, hclock]
  intro e he hpast
  obtain ⟨nodeConfig, -, hevent⟩ := List.mem_filterMap.mp he
  obtain ⟨node, hfind, hepoch, hsum⟩ := releaseEvent_time hevent
  have hmem := (KeyedStore.find_eq_some.mp hfind).1
  have hfits := (h event rest hpop).release (add_eq_zero.mp hrest).1
    (fun node hmem => hdrained.2 node ((hnodes node).mpr hmem)) epoch
    ((nextUnreleasedEpoch_congr hreleased hnodes).symm.trans hnext) node
    ((hnodes node).mp hmem) hepoch
  rw [hsum, Arith.add_of_lt hfits] at hpast
  have hlt := of_decide_eq_true hpast
  exact absurd hlt (Nat.not_lt.mpr (Nat.le_add_right _ _))

-- ============================================================================
-- Whole runs
-- ============================================================================

/-- The first release starts at time zero and refuses nothing. -/
theorem release_init_refused (P : CachePolicy) (config : SimulationConfig)
    (generatedWorkload : Option GeneratedWorkload) :
    (releaseNextEpochIfReady A (ofConfig P config generatedWorkload)).shared.scheduler.refused =
      [] := by
  obtain ⟨records, -, hshared⟩ := release_shared A (ofConfig P config generatedWorkload)
  rw [hshared]
  show (Scheduler.scheduleAll {} records).refused = []
  rw [Scheduler.scheduleAll_refused, List.nil_append, List.map_eq_nil_iff, List.filter_eq_nil_iff]
  intro e _ hpast
  exact absurd (of_decide_eq_true hpast) (Nat.not_lt_zero _)

/-- On 64-bit machine time every call to `schedule` is accepted in a run whose turns fit. -/
theorem run_acceptsAllEvents {rng : RandomSource} {config : SimulationConfig}
    {s : Simulator (makeCachePolicy .word64 config.localCache)}
    (h : construct .word64 rng config = .ok s) :
    ∀ t, Run.ReachesWhile (step .word64) TimesFit (releaseNextEpochIfReady .word64 s) t →
      t.shared.scheduler.refused = [] := by
  obtain ⟨prepared, generatedWorkload, rfl⟩ := construct_eq_ofConfig h
  intro t ht
  exact Run.invariant_of_reachesWhile (fun u => u.shared.scheduler.refused = [])
    (fun _ _ hrefused hfits hmove => hfits.refused_move hrefused hmove)
    (release_init_refused _ prepared generatedWorkload) ht

/-- One request of one node, over the slowest link that a request can cross once. -/
def slowestLink : SimulationConfig :=
  { oneWayLinkLatency := 2 ^ 63
    localCache := { capacityBytes := 64, policyType := .lru }
    syntheticWorkload := some
      { computeNodeIds := [1]
        objectCount := 1
        requestsPerNodePerEpoch := 1
        hotSetSize := 1 } }

/-- The answer of the memory is scheduled for a time before now and refused. -/
theorem slowestLink_refused :
    ∃ s final, construct .word64 lowestSource slowestLink = .ok s ∧
      RunsTo .word64 s final ∧ ¬ final.shared.scheduler.refused = [] := by
  obtain ⟨s, final, hs, hfinal, hcheck⟩ := runsTo_of_endsWith
    (show endsWith .word64 lowestSource slowestLink 20 (fun final =>
      final.shared.scheduler.refused != []) = true by decide +kernel)
  exact ⟨s, final, hs, hfinal, bne_iff_ne.mp hcheck⟩

/-- Without bursts, the next turn fits if its delay and the offset of the next request of each
    node do. -/
def turnFitsPlainly (s : Simulator P) : Bool :=
  match s.shared.scheduler.popNext with
  | none => true
  | some (event, _) =>
      (s.delayOf .word64 event).all (fun delay => event.time + delay < Arith.wordSize) &&
        s.computeNodes.items.all fun node => node.issueMode = .completionDriven ∧
          event.time + node.nextRequestIssueOffset < Arith.wordSize

theorem timesFit_of_plainly (h : s.turnFitsPlainly = true) : s.TimesFit := by
  intro event rest hpop
  unfold turnFitsPlainly at h
  rw [hpop, Bool.and_eq_true_iff, List.all_eq_true] at h
  obtain ⟨hdelay, hnodes⟩ := h
  refine ⟨fun delay hin => ?_, fun node spec next _ hfind hbursty => ?_,
    fun _ _ epoch _ node hnode _ => (of_decide_eq_true (hnodes node hnode)).2⟩
  · rw [Option.mem_def.mp hin] at hdelay
    exact of_decide_eq_true hdelay
  · have hmode := (of_decide_eq_true (hnodes node (KeyedStore.find_eq_some.mp hfind).1)).1
    rw [hmode] at hbursty
    cases hbursty

/-- Every turn of this run fits, up to its end. -/
theorem rereadConfig_acceptsAllEvents :
    ∃ s final, construct .word64 lowestSource rereadConfig = .ok s ∧ RunsTo .word64 s final ∧
      Run.ReachesWhile (step .word64) TimesFit (releaseNextEpochIfReady .word64 s) final ∧
        final.shared.responses.length = 2 ∧ final.shared.scheduler.refused = [] := by
  obtain ⟨s, final, hs, hfinal, hreach, hcheck⟩ := reachesWhile_of_endsWhile
    (show endsWhile .word64 lowestSource rereadConfig 20 turnFitsPlainly
      (fun final => final.shared.responses.length = 2) = true by decide +kernel)
  have hfits := hreach.mono fun _ => timesFit_of_plainly
  exact ⟨s, final, hs, hfinal, hfits, of_decide_eq_true hcheck,
    run_acceptsAllEvents hs final hfits⟩

end Simulator

end DmSimulator
