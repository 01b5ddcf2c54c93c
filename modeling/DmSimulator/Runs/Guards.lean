/-
  DmSimulator.Runs.Guards

  The error branches of the handlers are dead, with unbounded time.

  A turn out of a reachable state never throws (`step_ok`), and the two flags of
  a memory channel mirror the pending events of the channel.
-/
import DmSimulator.Runs.Channels

namespace DmSimulator

namespace Phase

variable (config : SimulationConfig) (t : Ticket)

theorem serving_of_pending {phase : Phase} {e : EventRecord}
    (h : phase.pending config t = some e) (htype : e.type = .memoryServiceComplete) :
    ∃ start, phase = .serving start := by
  cases phase with
  | serving start => exact ⟨start, rfl⟩
  | hitEnd => cases h
  | queued => cases h
  | missEnd start => cases h
  | _ =>
      rw [← Option.some.inj h] at htype
      cases htype

theorem starting_of_pending {phase : Phase} {e : EventRecord}
    (h : phase.pending config t = some e) (htype : e.type = .memoryServiceStart) :
    ∃ start, phase = .starting start := by
  cases phase with
  | starting start => exact ⟨start, rfl⟩
  | hitEnd => cases h
  | queued => cases h
  | missEnd start => cases h
  | _ =>
      rw [← Option.some.inj h] at htype
      cases htype

end Phase

namespace Simulator

variable {P : CachePolicy}

/-- The pending events of one type for the requests of a channel. -/
def pendingOn (s : Simulator P) (type : EventType) (c : MemoryChannelId) :
    Multiset EventRecord :=
  s.shared.scheduler.pending.filter (fun e => e.type = type ∧ s.channelOfEvent e = some c)

/-- The flags of the channel exclude each other, and each says whether the one
    matching event is pending. -/
structure FlagsMatch (s : Simulator P) (c : MemoryChannelId) (channel : ChannelState) : Prop where
  exclusive : ¬ (channel.serviceInProgress = true ∧ channel.serviceStartScheduled = true)
  inProgress : (s.pendingOn .memoryServiceComplete c).card =
    if channel.serviceInProgress = true then 1 else 0
  startScheduled : (s.pendingOn .memoryServiceStart c).card =
    if channel.serviceStartScheduled = true then 1 else 0

end Simulator

section Flags

variable {P : CachePolicy} {s : Simulator P} {phase : RequestId → Phase} {base : SimTime}

/-- A pending event of a request on a channel, and the phase behind it. -/
theorem RunInv.of_pendingOn (h : RunInv s phase base) {type : EventType} {c : MemoryChannelId}
    {e : EventRecord} (he : e ∈ s.pendingOn type c) :
    ∃ request, s.shared.requestTable.find e.requestId = some request ∧
      channelOf s.config s.view.tickets e.requestId = some c ∧
      (phase e.requestId).pending s.config request.ticket = some e ∧ e.type = type := by
  obtain ⟨hpending, htype, hc⟩ := Multiset.mem_filter.mp he
  unfold Simulator.channelOfEvent at hc
  obtain ⟨request, hfind, hchannel⟩ := Option.map_eq_some_iff.mp hc
  have hview : s.view.requestTable.find e.requestId = some request := hfind
  refine ⟨request, hfind, ?_, h.lifecycle.pending_eq hpending hview, htype⟩
  unfold channelOf View.tickets
  rw [hview]
  exact congrArg some hchannel

/-- If all matching events are those of one request, and it has one, there is one. -/
theorem RunInv.card_pendingOn_one (h : RunInv s phase base) {type : EventType}
    {c : MemoryChannelId} {id : RequestId} {t : Ticket} {e : EventRecord}
    (ht : s.view.tickets id = some t) (hc : t.channel s.config = c)
    (hpending : (phase id).pending s.config t = some e) (htype : e.type = type)
    (honly : ∀ other ∈ s.pendingOn type c, other.requestId = id) :
    (s.pendingOn type c).card = 1 := by
  unfold View.tickets at ht
  obtain ⟨request, hfind, rfl⟩ := Option.map_eq_some_iff.mp ht
  have hid : request.requestId = id := KeyedStore.key_of_find hfind
  have heid : e.requestId = id := (Phase.pending_spec hpending).1.trans hid
  have htracks := (h.lifecycle.tracks id request hfind).pending
  rw [hpending, hid] at htracks
  have hsingle : s.pendingOn type c = {e} := by
    have hsame : s.pendingOn type c =
        (s.view.pending.filter (fun e => e.requestId = id)).filter
          (fun e => e.type = type ∧ s.channelOfEvent e = some c) := by
      rw [Multiset.filter_filter]
      apply Multiset.filter_congr
      intro other hother
      exact ⟨fun hboth => ⟨hboth, honly other (Multiset.mem_filter.mpr ⟨hother, hboth⟩)⟩,
        And.left⟩
    rw [hsame, htracks, Option.elim_some, Multiset.filter_singleton, if_pos]
    refine ⟨htype, ?_⟩
    unfold Simulator.channelOfEvent
    rw [heid, show s.shared.requestTable.find id = some request from hfind]
    exact congrArg some hc
  rw [hsingle, Multiset.card_singleton]

theorem RunInv.card_pendingOn_zero {type : EventType} {c : MemoryChannelId}
    (hnone : ∀ e, e ∉ s.pendingOn type c) : (s.pendingOn type c).card = 0 := by
  rw [Multiset.eq_zero_of_forall_notMem hnone, Multiset.card_zero]

theorem RunInv.ticket_of_channelOf {id : RequestId} {c : MemoryChannelId}
    (hc : channelOf s.config s.view.tickets id = some c) :
    ∃ t, s.view.tickets id = some t ∧ t.channel s.config = c :=
  Option.map_eq_some_iff.mp hc

/-- The flags of a channel mirror its pending events. -/
theorem RunInv.flagsMatch (h : RunInv s phase base) {c : MemoryChannelId} {channel : ChannelState}
    (hchannel : s.memoryNode.channels[c]? = some channel) : s.FlagsMatch c channel := by
  obtain ⟨served, hserver⟩ := h.channels c channel hchannel
  -- a pending service event means that its request is starting or in service
  have hcomplete : ∀ e ∈ s.pendingOn .memoryServiceComplete c, ∃ start,
      places phase e.requestId = .serving start ∧
        channelOf s.config s.view.tickets e.requestId = some c := by
    intro e he
    obtain ⟨request, -, hc, hpending, htype⟩ := h.of_pendingOn he
    obtain ⟨start, hphase⟩ := Phase.serving_of_pending _ _ hpending htype
    exact ⟨start, by unfold places; rw [hphase]; rfl, hc⟩
  have hstart : ∀ e ∈ s.pendingOn .memoryServiceStart c, ∃ start,
      places phase e.requestId = .starting start ∧
        channelOf s.config s.view.tickets e.requestId = some c := by
    intro e he
    obtain ⟨request, -, hc, hpending, htype⟩ := h.of_pendingOn he
    obtain ⟨start, hphase⟩ := Phase.starting_of_pending _ _ hpending htype
    exact ⟨start, by unfold places; rw [hphase]; rfl, hc⟩
  cases hserver.mode with
  | idle hprogress hscheduled hqueue _ hserving =>
      refine ⟨by simp [hprogress], ?_, ?_⟩
      · rw [hprogress]
        refine RunInv.card_pendingOn_zero fun e he => ?_
        obtain ⟨start, hplace, hc⟩ := hcomplete e he
        exact hserving _ start hc hplace
      · rw [hscheduled]
        refine RunInv.card_pendingOn_zero fun e he => ?_
        obtain ⟨start, hplace, hc⟩ := hstart e he
        obtain ⟨rest, -, htrue, -⟩ := hserver.of_starting hc hplace
        rw [hscheduled] at htrue
        cases htrue
  | @starting id rest start hprogress hscheduled hqueue hplace _ hrest hserving =>
      refine ⟨by simp [hprogress], ?_, ?_⟩
      · rw [hprogress]
        refine RunInv.card_pendingOn_zero fun e he => ?_
        obtain ⟨start', hplace', hc⟩ := hcomplete e he
        exact hserving _ start' hc hplace'
      · rw [hscheduled]
        have hmem : id ∈ channel.queuedRequests := by
          rw [hqueue]
          exact List.mem_cons_self
        obtain ⟨t, ht, hc⟩ := RunInv.ticket_of_channelOf (hserver.channelOf_queue hmem)
        have hphase := RunInv.eq_starting_of_place hplace
        refine h.card_pendingOn_one ht hc (by rw [hphase]; rfl) rfl fun other hother => ?_
        obtain ⟨start', hplace', hc'⟩ := hstart other hother
        obtain ⟨rest', -, -, hqueue', -⟩ := hserver.of_starting hc' hplace'
        exact (List.cons.inj (hqueue'.symm.trans hqueue)).1
  | @serving id start hprogress hscheduled hc hplace _ hqueued honly =>
      refine ⟨by simp [hscheduled], ?_, ?_⟩
      · rw [hprogress]
        obtain ⟨t, ht, htc⟩ := RunInv.ticket_of_channelOf hc
        have hphase := RunInv.eq_serving_of_place hplace
        refine h.card_pendingOn_one ht htc (by rw [hphase]; rfl) rfl fun other hother => ?_
        obtain ⟨start', hplace', hc'⟩ := hcomplete other hother
        exact honly _ start' hc' hplace'
      · rw [hscheduled]
        refine RunInv.card_pendingOn_zero fun e he => ?_
        obtain ⟨start', hplace', hc'⟩ := hstart e he
        obtain ⟨rest, hfalse, -⟩ := hserver.of_starting hc' hplace'
        rw [hprogress] at hfalse
        cases hfalse

end Flags

namespace Simulator

/-- In no reachable state does a turn throw, and the flags of every memory channel
    exclude each other and mirror the channel's pending events. -/
theorem run_guards_dead {rng : RandomSource} {config : SimulationConfig}
    {s : Simulator (makeCachePolicy .exact config.localCache)}
    (h : construct .exact rng config = .ok s) {t : Simulator _} (ht : Reachable .exact s t) :
    (∃ next, step .exact t = .ok next) ∧
      ∀ c channel, t.memoryNode.channels[c]? = some channel → t.FlagsMatch c channel := by
  obtain ⟨prepared, generatedWorkload, rfl, hprepared⟩ := construct_spec h
  have hturn := turnInv_of_reachable hprepared ht
  refine ⟨step_ok hturn, fun c channel hchannel => ?_⟩
  obtain ⟨⟨phase, base, hrun⟩, -⟩ := hturn
  exact hrun.flagsMatch hchannel

/-- One channel is in service in this state, and a start of service is pending on another. -/
theorem contendedConfig_guards_dead :
    ∃ s t, construct .exact lowestSource contendedConfig = .ok s ∧ Reachable .exact s t ∧
      (t.memoryNode.channels.any ChannelState.serviceInProgress = true ∧
        t.memoryNode.channels.any ChannelState.serviceStartScheduled = true) ∧
      (∃ next, step .exact t = .ok next) ∧
        ∀ c channel, t.memoryNode.channels[c]? = some channel → t.FlagsMatch c channel := by
  obtain ⟨s, t, hs, ht, hcheck⟩ := reachable_of_comesTo
    (show comesTo .exact lowestSource contendedConfig 10 (fun t =>
      t.memoryNode.channels.any ChannelState.serviceInProgress &&
        t.memoryNode.channels.any ChannelState.serviceStartScheduled) = true by decide +kernel)
  exact ⟨s, t, hs, ht, Bool.and_eq_true_iff.mp hcheck, run_guards_dead hs ht⟩

end Simulator

end DmSimulator
