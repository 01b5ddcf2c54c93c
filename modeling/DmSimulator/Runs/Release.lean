/-
  DmSimulator.Runs.Release

  The epoch release and the invariant of a run, and the invariant at the start
  of a run.

  When nothing is pending every request has ended, so the gate of the release
  is open; the release then starts the least epoch that any node waits for.
-/
import DmSimulator.Runs.MemoryDispatch

namespace DmSimulator

/-- When nothing is pending, no node has a request left to issue. -/
def Simulator.Settled {P : CachePolicy} (s : Simulator P) : Prop :=
  s.view.pending = 0 → ∀ node ∈ s.computeNodes.items, node.workload.upcoming = none

namespace RunInv

variable {P : CachePolicy} {s : Simulator P} {phase : RequestId → Phase} {base : SimTime}

-- ============================================================================
-- Nothing is pending
-- ============================================================================

/-- A waiting request has another one of its channel starting or in service. -/
theorem exists_pending_of_queued (h : RunInv s phase base) {id : RequestId} {t : Ticket}
    (ht : s.view.tickets id = some t) (hphase : phase id = .queued) : s.view.pending ≠ 0 := by
  obtain ⟨channel, hchannel⟩ := h.exists_channel t
  obtain ⟨served, hserver⟩ := h.channels _ channel hchannel
  have hmem : id ∈ channel.queuedRequests := by
    rw [hserver.waiting_iff id (channelOf_eq ht)]
    unfold places
    rw [hphase]
    trivial
  -- the request that holds the server up has an event pending
  have hbusy : ∀ {other : RequestId}, channelOf s.config s.view.tickets other =
      some (t.channel s.config) → (∀ request : Ticket,
        (phase other).pending s.config request ≠ none) → s.view.pending ≠ 0 := by
    intro other hother hpending hnil
    obtain ⟨request, hfind, -, -⟩ := exists_of_channelOf hother
    have htracks := (h.lifecycle.tracks other request hfind).pending
    rw [hnil, Multiset.filter_zero] at htracks
    cases hp : (phase other).pending s.config request.ticket with
    | none => exact hpending request.ticket hp
    | some e =>
        rw [hp, Option.elim_some] at htracks
        exact Multiset.singleton_ne_zero e htracks.symm
  cases hserver.mode with
  | idle _ _ hqueue =>
      rw [hqueue] at hmem
      simp at hmem
  | @starting head rest start _ _ hqueue hhead =>
      have hmem' : head ∈ channel.queuedRequests := by
        rw [hqueue]
        exact List.mem_cons_self
      refine hbusy (hserver.channelOf_queue hmem') fun request hnone => ?_
      rw [eq_starting_of_place hhead] at hnone
      cases hnone
  | @serving current start _ _ hcurrent hplace =>
      refine hbusy hcurrent fun request hnone => ?_
      rw [eq_serving_of_place hplace] at hnone
      cases hnone

/-- When nothing is pending, every request has ended. -/
theorem ended_of_drained (h : RunInv s phase base) (hnil : s.view.pending = 0) {id : RequestId}
    {t : Ticket} (ht : s.view.tickets id = some t) : (phase id).Ended := by
  have ht' := ht
  unfold View.tickets at ht
  rw [Option.map_eq_some_iff] at ht
  obtain ⟨request, hfind, -⟩ := ht
  have htracks := (h.lifecycle.tracks id request hfind).pending
  rw [hnil, Multiset.filter_zero] at htracks
  have hnone : (phase id).pending s.config request.ticket = none := by
    cases hp : (phase id).pending s.config request.ticket with
    | none => rfl
    | some e =>
        rw [hp, Option.elim_some] at htracks
        exact absurd htracks.symm (Multiset.singleton_ne_zero e)
  have hqueued : phase id ≠ .queued := fun hq => h.exists_pending_of_queued ht' hq hnil
  cases hp : phase id <;> rw [hp] at hnone hqueued <;> trivial

/-- When nothing is pending, every request is completed. -/
theorem completed_of_drained (h : RunInv s phase base) (hnil : s.view.pending = 0)
    {id : RequestId} {request : Request} (hfind : s.view.requestTable.find id = some request) :
    request.currentStage = .completed := by
  have hended := h.ended_of_drained hnil (show s.view.tickets id = some request.ticket by
    unfold View.tickets
    rw [hfind]
    rfl)
  rw [(h.lifecycle.tracks id request hfind).stage]
  cases hp : phase id <;> rw [hp] at hended <;> first | rfl | exact hended.elim

/-- When nothing is pending, no request is outstanding. -/
theorem outstanding_of_drained (h : RunInv s phase base) (hnil : s.view.pending = 0)
    (nodeId : NodeId) : outstandingIn s.view.requestTable nodeId = 0 := by
  unfold outstandingIn KeyedStore.total
  rw [List.sum_eq_zero_iff_forall_eq_nat]
  intro weight hweight
  obtain ⟨request, hmem, rfl⟩ := List.mem_map.mp hweight
  have hfind : s.view.requestTable.find request.requestId = some request :=
    KeyedStore.find_eq_some.mpr ⟨hmem, rfl⟩
  have hcompleted := h.completed_of_drained hnil hfind
  unfold outstandingWeight
  rw [if_neg fun hboth => hboth.2 hcompleted]

theorem drained_iff (h : RunInv s phase base) : s.Drained ↔ s.view.pending = 0 := by
  refine ⟨fun hdrained => hdrained.1, fun hnil => ⟨hnil, fun node hmem => ?_⟩⟩
  rw [(h.nodes node hmem).outstanding]
  exact h.outstanding_of_drained hnil node.nodeId

/-- A node with nothing going on has no request left in the released epoch. -/
theorem not_due_of_drained (h : RunInv s phase base) (hnil : s.view.pending = 0)
    {node : ComputeNode P} (hmem : node ∈ s.computeNodes.items) : ¬ node.Due s.releasedEpoch := by
  intro hdue
  have hpacing := (h.nodes node hmem).pacing
  by_cases hmode : node.issueMode = .scheduledBursty
  · have hburst := hpacing.burst hmode
    rw [if_pos hdue, hnil] at hburst
    exact Multiset.singleton_ne_zero _ hburst.symm
  · have hload := hpacing.due_load hmode hdue
    unfold load at hload
    rw [h.outstanding_of_drained hnil, hnil] at hload
    simp [generatesFor, completionsFor] at hload

-- ============================================================================
-- Releasing an epoch
-- ============================================================================

theorem releaseEvent_spec {epoch : EpochId} {now : SimTime} {nodeConfig : ComputeNodeConfig}
    {r : EventRecord} (h : s.releaseEvent .exact epoch now nodeConfig = some r) :
    r.targetId = nodeConfig.nodeId ∧ r.type = .generateRequest ∧ r.requestId = 0 ∧ now ≤ r.time := by
  obtain ⟨htype, htarget, hid⟩ := Simulator.releaseEvent_generates h
  obtain ⟨node, -, -, htime⟩ := Simulator.releaseEvent_time h
  refine ⟨htarget, htype, hid, ?_⟩
  rw [htime]
  exact Nat.le_add_right now node.nextRequestIssueOffset

/-- Among events that name the node they are for, those of one node. -/
theorem filter_filterMap {f : ComputeNodeConfig → Option EventRecord}
    {nodeConfigs : List ComputeNodeConfig}
    (hnodup : (nodeConfigs.map ComputeNodeConfig.nodeId).Nodup)
    (htarget : ∀ c r, f c = some r → r.targetId = c.nodeId) {nodeConfig : ComputeNodeConfig}
    (hmem : nodeConfig ∈ nodeConfigs) :
    (nodeConfigs.filterMap f).filter (fun r => r.targetId = nodeConfig.nodeId) =
      (f nodeConfig).toList := by
  induction nodeConfigs with
  | nil => simp at hmem
  | cons first rest ih =>
      rw [List.map_cons, List.nodup_cons] at hnodup
      have hother : ∀ c ∈ rest, c.nodeId ≠ first.nodeId := by
        intro c hc heq
        exact hnodup.1 (heq ▸ List.mem_map_of_mem hc)
      rcases List.mem_cons.mp hmem with rfl | hin
      · have hrest : (rest.filterMap f).filter (fun r => r.targetId = nodeConfig.nodeId) = [] := by
          rw [List.filter_eq_nil_iff]
          intro r hr
          obtain ⟨c, hc, hf⟩ := List.mem_filterMap.mp hr
          simp only [decide_eq_true_eq]
          rw [htarget c r hf]
          exact hother c hc
        rw [List.filterMap_cons]
        cases hf : f nodeConfig with
        | none => exact hrest
        | some r => simp [htarget nodeConfig r hf, hrest]
      · have hne : first.nodeId ≠ nodeConfig.nodeId := fun heq => hother nodeConfig hin heq.symm
        rw [List.filterMap_cons, ← ih hnodup.2 hin]
        cases hf : f first with
        | none => rfl
        | some r => simp [htarget first r hf, hne]

/-- The events the release of an epoch schedules for one node. -/
theorem generatesFor_release (h : RunInv s phase base) (epoch : EpochId) (now : SimTime)
    {node : ComputeNode P} (hmem : node ∈ s.computeNodes.items) :
    generatesFor (s.config.computeNodes.filterMap (s.releaseEvent .exact epoch now) :
        List EventRecord) node.nodeId =
      if node.Due (some epoch) then
        {generateEvent node.nodeId (now + node.nextRequestIssueOffset)}
      else 0 := by
  obtain ⟨nodeConfig, hconfig, hid, -⟩ := (h.nodes node hmem).configured
  have hfind : s.computeNodes.find nodeConfig.nodeId = some node :=
    KeyedStore.find_eq_some.mpr ⟨hmem, hid⟩
  have hsame : (s.config.computeNodes.filterMap (s.releaseEvent .exact epoch now)).filter
      (fun e => decide (e.type = .generateRequest ∧ e.targetId = node.nodeId)) =
        (s.releaseEvent .exact epoch now nodeConfig).toList := by
    rw [← filter_filterMap h.prepared.nodeIds_nodup
      (fun c r hr => (releaseEvent_spec hr).1) hconfig, hid]
    apply List.filter_congr
    intro r hr
    obtain ⟨c, -, hc⟩ := List.mem_filterMap.mp hr
    simp [(releaseEvent_spec hc).2.1]
  unfold generatesFor
  rw [Multiset.filter_coe, hsame]
  unfold Simulator.releaseEvent ComputeNode.Due
  simp only [hfind]
  by_cases hepoch : node.nextRequestEpoch = some epoch
  · simp [hepoch, hid, generateEvent]
  · simp [hepoch]

/-- A node with nothing going on waits for an epoch that has not been released. -/
theorem unreleased_of_drained (h : RunInv s phase base) (hnil : s.view.pending = 0)
    {node : ComputeNode P} (hmem : node ∈ s.computeNodes.items) {spec : RequestSpec}
    (hup : node.workload.upcoming = some spec) : s.Unreleased spec.epochId := by
  intro released hreleased
  have hle := (h.nodes node hmem).upcoming_epoch spec released hup hreleased
  have hne : released ≠ spec.epochId := by
    rintro rfl
    exact h.not_due_of_drained hnil hmem (ComputeNode.due_iff.mpr ⟨spec, hup, hreleased⟩)
  lia

theorem nextRequestEpoch_of_upcoming {node : ComputeNode P} {spec : RequestSpec}
    (h : node.workload.upcoming = some spec) : node.nextRequestEpoch = some spec.epochId := by
  unfold ComputeNode.nextRequestEpoch
  rw [h]
  rfl

/-- The release of the next epoch keeps the invariant; the epoch begins now. -/
theorem afterRelease (h : RunInv s phase base) (hnil : s.view.pending = 0) {epoch : EpochId}
    (hnext : s.nextUnreleasedEpoch = some epoch) :
    RunInv (s.afterRelease .exact epoch) phase s.shared.scheduler.currentTime ∧
      (s.afterRelease .exact epoch).view.pending ≠ 0 := by
  have hspec := s.nextUnreleasedEpoch_spec
  rw [hnext] at hspec
  obtain ⟨waiting, hwaiting, hawaits, hunreleased⟩ := hspec.mem epoch rfl
  have hevents : ∀ r ∈ s.config.computeNodes.filterMap
      (s.releaseEvent .exact epoch s.shared.scheduler.currentTime),
      (∃ nodeConfig ∈ s.config.computeNodes, r.targetId = nodeConfig.nodeId) ∧
        r.type = .generateRequest ∧ r.requestId = 0 ∧
          s.shared.scheduler.currentTime ≤ r.time := by
    intro r hr
    obtain ⟨nodeConfig, hmem, hevent⟩ := List.mem_filterMap.mp hr
    obtain ⟨htarget, hrest⟩ := releaseEvent_spec hevent
    exact ⟨⟨nodeConfig, hmem, htarget⟩, hrest⟩
  obtain ⟨hordered, hpending, htime, hrefused⟩ := h.ordered.scheduleAll
    (s.config.computeNodes.filterMap
      (s.releaseEvent .exact epoch s.shared.scheduler.currentTime))
    fun r hr => (hevents r hr).2.2.2
  rw [show s.shared.scheduler.pending = 0 from hnil, Multiset.add_zero] at hpending
  have hpending' : (s.afterRelease .exact epoch).view.pending =
      (s.config.computeNodes.filterMap
        (s.releaseEvent .exact epoch s.shared.scheduler.currentTime) : List EventRecord) :=
    hpending
  have hcompletions : ∀ nodeId,
      completionsFor (s.afterRelease .exact epoch).view.pending nodeId = 0 := by
    intro nodeId
    rw [hpending']
    refine Multiset.filter_eq_nil.mpr fun r hr hboth => ?_
    cases (hevents r hr).2.1.symm.trans hboth.1
  have hpast : ∀ id t, s.view.tickets id = some t → t.epochId < epoch := by
    intro id t ht
    obtain ⟨released, hreleased, hle, -⟩ := h.barrier id t ht
    exact Nat.lt_of_le_of_lt hle (hunreleased released hreleased)
  refine ⟨⟨h.prepared, hordered, hrefused.trans h.accepted, ?_, ?_, h.present,
    h.memoryNodeId_eq, h.memoryConfig_eq, h.channels_length, ?_, h.sources, ?_, ?_, h.issued⟩, ?_⟩
  · have hschedule := h.lifecycle.schedule
      (s.config.computeNodes.filterMap
        (s.releaseEvent .exact epoch s.shared.scheduler.currentTime) : List EventRecord)
      fun r hr => (hevents r hr).2.2.1
    rw [hnil, Multiset.add_zero] at hschedule
    exact hschedule.of_pending hpending'.symm
  · intro node hmem
    refine (h.nodes node hmem).release ?_ ?_ hpast _ rfl ?_ (hcompletions node.nodeId)
    · exact (h.drained_iff.mpr hnil).2 node hmem
    · intro spec hup
      obtain ⟨first, hfirst, hle⟩ := hspec.le spec.epochId
        ⟨node, hmem, nextRequestEpoch_of_upcoming hup, h.unreleased_of_drained hnil hmem hup⟩
      rw [Option.some.inj hfirst]
      exact hle
    · rw [hpending']
      exact h.generatesFor_release epoch _ hmem
  · intro c channel hchannel
    obtain ⟨served, hserver⟩ := h.channels c channel hchannel
    exact ⟨served, hserver.frame (le_of_eq htime.symm) rfl (fun id _ => ⟨rfl, rfl⟩)
      fun id hid => Or.inl hid⟩
  · intro id t ht
    exact ⟨epoch, rfl, Nat.le_of_lt (hpast id t ht),
      fun hnot => absurd (h.ended_of_drained hnil ht) hnot⟩
  · intro e he _
    rw [hpending'] at he
    obtain ⟨⟨nodeConfig, hmem, htarget⟩, htype, -⟩ := hevents e he
    exact ⟨htype, by rw [htarget]; exact h.present nodeConfig hmem⟩
  · intro hzero
    have hgenerates := h.generatesFor_release epoch s.shared.scheduler.currentTime hwaiting
    rw [← hpending', hzero, if_pos ⟨by rw [hawaits]; rfl, hawaits⟩] at hgenerates
    exact Multiset.singleton_ne_zero _ hgenerates.symm

/-- `release_next_epoch_if_ready` keeps the invariant, and afterwards the event
    queue is empty only if the whole workload has been issued. -/
theorem release (h : RunInv s phase base) :
    ∃ base', RunInv (Simulator.releaseNextEpochIfReady .exact s) phase base' ∧
      (Simulator.releaseNextEpochIfReady .exact s).Settled := by
  rcases Simulator.release_cases .exact s with ⟨hnot, heq⟩ | ⟨hdrained, hnone, heq⟩ |
    ⟨epoch, hdrained, hnext, heq⟩
  · rw [heq]
    exact ⟨base, h, fun hnil => absurd (h.drained_iff.mpr hnil) hnot⟩
  · rw [heq]
    refine ⟨base, h, fun hnil node hmem => ?_⟩
    cases hup : node.workload.upcoming with
    | none => rfl
    | some spec =>
        have hspec := s.nextUnreleasedEpoch_spec
        rw [hnone] at hspec
        obtain ⟨first, hfirst, -⟩ := hspec.le spec.epochId
          ⟨node, hmem, nextRequestEpoch_of_upcoming hup, h.unreleased_of_drained hnil hmem hup⟩
        cases hfirst
  · rw [heq]
    obtain ⟨hrelease, hne⟩ := h.afterRelease hdrained.1 hnext
    exact ⟨_, hrelease, fun hnil => absurd hnil hne⟩

end RunInv

end DmSimulator
