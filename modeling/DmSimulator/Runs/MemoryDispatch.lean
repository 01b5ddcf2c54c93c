/-
  DmSimulator.Runs.MemoryDispatch

  What the memory node does to the invariant of a run: requests arrive, begin
  their service and leave.  Together with the compute nodes: the next event can
  always be dispatched.
-/
import DmSimulator.Runs.ComputeDispatch

namespace DmSimulator

namespace RunInv

variable {P : CachePolicy} {s : Simulator P} {phase phase' : RequestId → Phase} {base : SimTime}
  {event : Event} {scheduler : Scheduler}

/-- The memory node processes an event of a request on its channel. -/
theorem memory (h : RunInv s phase base)
    (hpop : s.shared.scheduler.popNext = some (event, scheduler))
    {request : Request} {node : ComputeNode P} (hawaits : Awaits s phase base event request node)
    {effect : Effect} (hissued : effect.issued = 0)
    (hticket : (effect.request.getD request).ticket = request.ticket)
    (hstage : request.currentStage ≠ .completed)
    (hstage' : (effect.request.getD request).currentStage ≠ .completed)
    (htype : event.type ≠ .generateRequest ∧ event.type ≠ .requestComplete)
    (hevents : ∀ r ∈ effect.events, event.time ≤ r.time ∧ r.requestId ≠ 0 ∧
      r.type ≠ .generateRequest ∧ r.type ≠ .requestComplete)
    (hlife : Lifecycle s.config (s.view.after event.record scheduler.pending effect) phase')
    (hended : ∀ id, id ≠ event.requestId → (phase id).Ended → (phase' id).Ended)
    {channel : ChannelState}
    (hserver : ∃ served, ServerInv s.config s.view.tickets (s.eventLog ++ [event.record])
      event.time (places phase') (request.ticket.channel s.config) channel served)
    (hplaces : ∀ id, channelOf s.config s.view.tickets id ≠
      some (request.ticket.channel s.config) → places phase' id = places phase id) :
    RunInv ((s.popped scheduler).afterMemory event
      (s.memoryNode.setChannel (s.memoryNode.channelFor request) channel) effect) phase' base := by
  obtain ⟨hordered, htime, hrefused, hpending⟩ := h.scheduled hpop fun r hr => (hevents r hr).1
  obtain ⟨-, hle, -, -, hold⟩ := h.popped_ordered hpop
  have hview : ((s.popped scheduler).afterMemory event
      (s.memoryNode.setChannel (s.memoryNode.channelFor request) channel) effect).view =
        s.view.after event.record scheduler.pending effect := view_afterMemory _ hpending
  have hkeeps : Keeps s (s.view.after event.record scheduler.pending effect) phase phase' none :=
    keeps_process (e := event.record) hawaits.find hawaits.waits hticket hended
  have htickets : (s.view.after event.record scheduler.pending effect).tickets = s.view.tickets :=
    View.tickets_after scheduler.pending (show s.view.requestTable.find event.record.requestId =
      some request from hawaits.find) effect hticket
  have hchannelFor : s.memoryNode.channelFor request = request.ticket.channel s.config := by
    unfold MemoryNode.channelFor
    rw [h.memoryConfig_eq]
    rfl
  refine ⟨h.prepared, hordered, hrefused, ?_, ?_, h.present, h.memoryNodeId_eq,
    h.memoryConfig_eq, ?_, ?_, ?_, ?_, ?_, ?_⟩
  · rw [hview]
    exact hlife
  · rw [hview]
    intro other hother
    refine hkeeps.node (h.nodes other hother) (by simp) hold rfl ?_ ?_
    · rintro r (rfl | hr) hr'
      · exact absurd hr' (by rw [not_or]; exact htype)
      · exact absurd hr' (by rw [not_or]; exact (hevents r hr).2.2)
    · exact outstanding_waiting (e := event.record) _ hawaits.find effect hticket hstage hstage'
        other.nodeId
  · show (s.memoryNode.channels.set _ channel).length = _
    rw [List.length_set]
    exact h.channels_length
  · intro c channel' hchannel'
    rw [hview]
    have hset : (s.memoryNode.channels.set (request.ticket.channel s.config) channel)[c]? =
        some channel' := by
      rw [← hchannelFor]
      exact hchannel'
    by_cases hc : request.ticket.channel s.config = c
    · -- the channel of the request
      subst hc
      obtain rfl : channel = channel' := by
        rw [List.getElem?_set_self (by rw [h.channels_length]; exact h.channel_lt _)] at hset
        exact Option.some.inj hset
      obtain ⟨served, hserver⟩ := hserver
      refine ⟨served, ?_⟩
      rw [htickets]
      rw [← htime] at hserver
      exact hserver
    · rw [List.getElem?_set_ne hc] at hset
      obtain ⟨served', hserver'⟩ := h.channels c channel' hset
      refine ⟨served', hkeeps.server hserver' (hle.trans (le_of_eq htime.symm)) ?_ ?_⟩
      · by_cases hforward : event.type = .forwardToMemory
        · have hticket' : (s.view.after event.record scheduler.pending effect).tickets
              event.record.requestId = some request.ticket := by
            rw [htickets]
            exact hawaits.ticket
          refine (hkeeps.arrivals_of_forward h.lifecycle hlife hforward hticket' c).trans ?_
          rw [if_neg hc, List.append_nil]
        · exact hkeeps.arrivals_of_type h.lifecycle hlife hforward c
      · intro id hidc
        refine hplaces id fun heq => hc ?_
        exact Option.some.inj (heq.symm.trans hidc)
  · rw [hview, htickets]
    exact h.sources
  · rw [hview]
    exact hkeeps.barrier h
  · rw [hview]
    intro e he hezero
    rcases Multiset.mem_add.mp he with hnew | hrest
    · exact absurd hezero (hevents e hnew).2.1
    · exact h.generates e (by rw [hold]; exact Multiset.mem_cons_of_mem hrest) hezero
  · show _ = s.shared.nextRequestId + effect.issued
    rw [hissued]
    exact h.issued

theorem ended_update (new : Phase) {moving : RequestId} :
    ∀ id, id ≠ moving → (phase id).Ended → (Function.update phase moving new id).Ended := by
  intro id hne hended
  rw [Function.update_of_ne hne]
  exact hended

theorem channelOf_eq {tickets : Tickets} {id : RequestId} {t : Ticket}
    (ht : tickets id = some t) : channelOf s.config tickets id = some (t.channel s.config) := by
  unfold channelOf
  rw [ht]
  rfl

theorem jobOf_eq {tickets : Tickets} {id : RequestId} {t : Ticket} (ht : tickets id = some t) :
    jobOf s.config tickets id =
      { arrival := t.arrival s.config, service := t.serviceTime s.config } := by
  unfold jobOf
  rw [ht]

theorem channelFor_eq (h : RunInv s phase base) (request : Request) :
    s.memoryNode.channelFor request = request.ticket.channel s.config := by
  unfold MemoryNode.channelFor
  rw [h.memoryConfig_eq]
  rfl

theorem serviceTimeFor_eq (h : RunInv s phase base) (request : Request) :
    s.memoryNode.serviceTimeFor .exact request = request.ticket.serviceTime s.config := by
  unfold MemoryNode.serviceTimeFor
  rw [h.memoryConfig_eq]
  rfl

/-- A request of a channel is in the table. -/
theorem exists_of_channelOf {id : RequestId} {c : MemoryChannelId}
    (hid : channelOf s.config s.view.tickets id = some c) :
    ∃ request, s.shared.requestTable.find id = some request ∧
      s.view.tickets id = some request.ticket ∧ request.ticket.channel s.config = c := by
  unfold channelOf at hid
  rw [Option.map_eq_some_iff] at hid
  obtain ⟨t, ht, hchannel⟩ := hid
  have ht' := ht
  unfold View.tickets at ht
  rw [Option.map_eq_some_iff] at ht
  obtain ⟨request, hrequest, rfl⟩ := ht
  exact ⟨request, hrequest, ht', hchannel⟩

theorem eq_queued_of_place {id : RequestId} (h : places phase id = .queued) :
    phase id = .queued := by
  unfold places at h
  cases hphase : phase id <;> rw [hphase] at h <;> first | rfl | cases h

theorem eq_starting_of_place {id : RequestId} {start : SimTime}
    (h : places phase id = .starting start) : phase id = .starting start := by
  unfold places at h
  cases hphase : phase id <;> rw [hphase] at h <;> cases h
  rfl

theorem eq_serving_of_place {id : RequestId} {start : SimTime}
    (h : places phase id = .serving start) : phase id = .serving start := by
  unfold places at h
  cases hphase : phase id <;> rw [hphase] at h <;> cases h
  rfl

/-- The places of the other channels do not depend on a request of this one. -/
theorem places_of_channel {t : Ticket} {id : RequestId} (ht : s.view.tickets id = some t)
    (new : Phase) {other : RequestId}
    (hother : channelOf s.config s.view.tickets other ≠ some (t.channel s.config)) :
    places (Function.update phase id new) other = places phase other := by
  have hne : other ≠ id := by
    rintro rfl
    exact hother (channelOf_eq ht)
  rw [places_update, Function.update_of_ne hne]

theorem arrivals_same (s : Simulator P) (event : Event) (htype : event.type ≠ .forwardToMemory)
    (c : MemoryChannelId) :
    arrivals s.config s.view.tickets (s.eventLog ++ [event.record]) c =
      arrivals s.config s.view.tickets s.eventLog c := by
  rw [arrivals_snoc, if_neg fun hboth => htype hboth.1, List.append_nil]

/-- What the memory node schedules for a request neither issues nor completes one. -/
theorem raises_of_awaits {request : Request} {node : ComputeNode P}
    (hawaits : Awaits s phase base event request node) (hid : event.requestId ≠ 0)
    {r : EventRecord} (hrequest : r.requestId = request.requestId) (htime : event.time ≤ r.time)
    (htype : r.type ∈ [EventType.memoryServiceStart, .memoryServiceComplete, .returnResponse]) :
    event.time ≤ r.time ∧ r.requestId ≠ 0 ∧ r.type ≠ .generateRequest ∧
      r.type ≠ .requestComplete := by
  refine ⟨htime, ?_, ?_, ?_⟩
  · rw [hrequest, hawaits.key]
    exact hid
  · rintro heq
    rw [heq] at htype
    exact absurd htype (by decide)
  · rintro heq
    rw [heq] at htype
    exact absurd htype (by decide)

/-- A request in the queue of a channel, and the event that starts its service. -/
theorem exists_start (h : RunInv s phase base) {channel : ChannelState}
    {c : MemoryChannelId} {now : SimTime} {served : List RequestId}
    (hserver : ServerInv s.config s.view.tickets s.eventLog now (places phase) c channel served)
    {id : RequestId} (hmem : id ∈ channel.queuedRequests) (time : SimTime) :
    channelOf s.config s.view.tickets id = some c ∧ id ≠ 0 ∧
      ∃ request, s.shared.requestTable.find id = some request ∧
        s.memoryNode.startEvent id time =
          request.ticket.memoryEvent s.config time .memoryServiceStart := by
  have hchannel := hserver.channelOf_queue hmem
  obtain ⟨request, hfind, -, -⟩ := exists_of_channelOf hchannel
  have hkey : request.requestId = id := KeyedStore.key_of_find hfind
  refine ⟨hchannel, ?_, request, hfind, ?_⟩
  · have hrange := (h.lifecycle.ids id).mp (by
      rw [show s.view.requestTable.find id = some request from hfind]
      rfl)
    lia
  · simp only [MemoryNode.startEvent, Ticket.memoryEvent, h.memoryNodeId_eq, Request.ticket, hkey]

/-- An event of the memory node awaits its dispatch, and its request a channel. -/
structure AtMemory (s : Simulator P) (phase : RequestId → Phase) (base : SimTime) (event : Event)
    (request : Request) (node : ComputeNode P) (channel : ChannelState)
    (served : List RequestId) : Prop where
  awaits : Awaits s phase base event request node
  id_ne : event.requestId ≠ 0
  target : event.targetId = s.config.memoryNodeId
  noNode : s.computeNodes.find event.targetId = none
  channel_eq : s.memoryNode.channels[s.memoryNode.channelFor request]? = some channel
  server : ServerInv s.config s.view.tickets s.eventLog s.shared.scheduler.currentTime
    (places phase) (request.ticket.channel s.config) channel served

theorem exists_atMemory (h : RunInv s phase base) {request : Request} {node : ComputeNode P}
    (hawaits : Awaits s phase base event request node) (hid : event.requestId ≠ 0)
    (htarget : event.targetId = s.config.memoryNodeId) :
    ∃ channel served, AtMemory s phase base event request node channel served := by
  obtain ⟨channel, hchannel⟩ := h.exists_channel request.ticket
  obtain ⟨served, hserver⟩ := h.channels _ channel hchannel
  refine ⟨channel, served, hawaits, hid, htarget, htarget ▸ h.find_memoryNodeId, ?_, hserver⟩
  rw [h.channelFor_eq]
  exact hchannel

section AtMemory

variable {request : Request} {node : ComputeNode P} {channel : ChannelState}
  {served : List RequestId}

theorem AtMemory.channelOf (hat : AtMemory s phase base event request node channel served) :
    channelOf s.config s.view.tickets event.requestId =
      some (request.ticket.channel s.config) := channelOf_eq hat.awaits.ticket

-- ============================================================================
-- Arrival
-- ============================================================================

/-- What the event of a request on its way to the memory node says. -/
theorem AtMemory.of_forward (hat : AtMemory s phase base event request node channel served)
    (hphase : phase event.requestId = .forward) :
    request.currentStage = .forwardedToMemory ∧
      event.time = request.ticket.arrival s.config ∧ event.type = .forwardToMemory ∧
        places phase event.requestId = .away := by
  have hwait := hat.awaits.waits
  rw [hphase] at hwait
  obtain ⟨htime, htype, -⟩ := event_of_phase hwait
  refine ⟨?_, htime, htype, ?_⟩
  · rw [hat.awaits.tracks.stage, hphase]
    rfl
  · unfold places
    rw [hphase]
    rfl

/-- The request joins the arrivals of its channel, at the time of the event. -/
theorem AtMemory.arrivals_of_forward
    (hat : AtMemory s phase base event request node channel served)
    (hphase : phase event.requestId = .forward) :
    arrivals s.config s.view.tickets (s.eventLog ++ [event.record])
        (request.ticket.channel s.config) =
      arrivals s.config s.view.tickets s.eventLog (request.ticket.channel s.config) ++
        [event.requestId] ∧
      (jobOf s.config s.view.tickets event.requestId).arrival = event.time := by
  obtain ⟨-, htime, htype, -⟩ := hat.of_forward hphase
  constructor
  · rw [arrivals_snoc, if_pos ⟨htype, hat.channelOf⟩]
    rfl
  · rw [jobOf_eq hat.awaits.ticket, htime]

/-- The request is put into the queue of its channel. -/
theorem lifecycle_queued (h : RunInv s phase base)
    (hpop : s.shared.scheduler.popNext = some (event, scheduler))
    (hat : AtMemory s phase base event request node channel served)
    (hphase : phase event.requestId = .forward) (effect : Effect) (hissued : effect.issued = 0)
    (hresponses : effect.responses = [])
    (hwrite : effect.request = some (MemoryNode.enqueued request event.time)) :
    Lifecycle s.config
      { s.view.after event.record scheduler.pending effect with pending := 0 + scheduler.pending }
      (Function.update phase event.requestId .queued) := by
  obtain ⟨-, -, -, -, hold⟩ := h.popped_ordered hpop
  obtain ⟨hstage, htime, -, -⟩ := hat.of_forward hphase
  have hwait := hat.awaits.waits
  rw [hphase] at hwait
  refine h.lifecycle.process hold hat.awaits.find hissued .queued (by rw [hwrite]; rfl) ?_ ?_
    (by rw [hresponses]; simp) (by rw [hwrite]; exact hstage) (fun _ => by rw [hwrite]; exact htime)
  · rw [show phase event.record.requestId = .forward from hphase, ← Option.some.inj hwait]
    rfl
  · rw [show phase event.record.requestId = .forward from hphase, hresponses]
    rfl

/-- A request arrives at a channel that is at work. -/
theorem dispatch_busy (h : RunInv s phase base)
    (hpop : s.shared.scheduler.popNext = some (event, scheduler))
    (hat : AtMemory s phase base event request node channel served)
    (hphase : phase event.requestId = .forward)
    (hbusy : channel.serviceInProgress = true ∨ channel.serviceStartScheduled = true) :
    ∃ s' phase', Simulator.Dispatched .exact (s.popped scheduler) event s' ∧
      RunInv s' phase' base := by
  obtain ⟨-, hle, -, -, -⟩ := h.popped_ordered hpop
  obtain ⟨hstage, -, htype, haway⟩ := hat.of_forward hphase
  obtain ⟨harrivals, harrived⟩ := hat.arrivals_of_forward hphase
  have hincomplete : request.currentStage ≠ .completed := by rw [hstage]; decide
  refine ⟨_, Function.update phase event.requestId .queued,
    .memory hat.noNode hat.target (.forwardBusy htype hat.awaits.find hat.channel_eq hbusy), ?_⟩
  refine h.memory hpop hat.awaits rfl rfl hincomplete ?_ (by rw [htype]; decide)
    (by simp) (h.lifecycle_queued hpop hat hphase _ rfl rfl rfl) (ended_update .queued) ?_
    (fun id hother => places_of_channel hat.awaits.ticket .queued hother)
  · exact hincomplete
  · rw [places_update]
    exact ⟨served,
      hat.server.join_busy hat.channelOf haway harrivals hle (le_of_eq harrived) hbusy⟩

/-- A request arrives at a channel that is not at work, and its start is scheduled. -/
theorem dispatch_idle (h : RunInv s phase base)
    (hpop : s.shared.scheduler.popNext = some (event, scheduler))
    (hat : AtMemory s phase base event request node channel served)
    (hphase : phase event.requestId = .forward) (hprogress : channel.serviceInProgress = false)
    (hscheduled : channel.serviceStartScheduled = false) :
    ∃ s' phase', Simulator.Dispatched .exact (s.popped scheduler) event s' ∧
      RunInv s' phase' base := by
  obtain ⟨-, hle, -, -, -⟩ := h.popped_ordered hpop
  obtain ⟨hstage, -, htype, haway⟩ := hat.of_forward hphase
  obtain ⟨harrivals, harrived⟩ := hat.arrivals_of_forward hphase
  have hincomplete : request.currentStage ≠ .completed := by rw [hstage]; decide
  obtain ⟨hqueue, hjoin⟩ := hat.server.join_idle hat.channelOf haway harrivals hle harrived
    hprogress hscheduled
  have hstartEvent : s.memoryNode.startEvent
      ((channel.queuedRequests ++ [event.requestId]).headD kInvalidRequestId) event.time =
        request.ticket.memoryEvent s.config event.time .memoryServiceStart := by
    rw [hqueue]
    simp only [MemoryNode.startEvent, Ticket.memoryEvent, h.memoryNodeId_eq, Request.ticket,
      hat.awaits.key, List.nil_append, List.headD_cons]
  refine ⟨_, Function.update phase event.requestId (.starting event.time),
    .memory hat.noNode hat.target
      (.forwardIdle htype hat.awaits.find hat.channel_eq hprogress hscheduled), ?_⟩
  refine h.memory hpop hat.awaits rfl rfl hincomplete ?_ (by rw [htype]; decide) ?_ ?_
    (ended_update (.starting event.time)) ?_
    (fun id hother => places_of_channel hat.awaits.ticket (.starting event.time) hother)
  · exact hincomplete
  · intro r hr
    have hr' := (List.mem_singleton.mp hr).trans hstartEvent
    rw [hr']
    exact raises_of_awaits hat.awaits hat.id_ne rfl (le_refl event.time)
      (by simp [Ticket.memoryEvent])
  · have hqueued := h.lifecycle_queued hpop hat hphase
      { request := some (MemoryNode.enqueued request event.time)
        stats := MemoryNode.arrivalStats s.shared.stats (MemoryNode.enqueued request event.time)
          (s.memoryNode.channelFor request) (channel.queuedRequests.length + 1)
        events := [s.memoryNode.startEvent
          ((channel.queuedRequests ++ [event.requestId]).headD kInvalidRequestId) event.time] }
      rfl rfl rfl
    have hfind : (s.view.requestTable.insert (MemoryNode.enqueued request event.time)).find
        event.requestId = some (MemoryNode.enqueued request event.time) := by
      rw [← hat.awaits.key]
      exact KeyedStore.find_insert_self s.view.requestTable _
    have hstart := hqueued.start hfind (Function.update_self _ _ _) event.time
    rw [Function.update_idem] at hstart
    refine hstart.of_pending ?_
    show request.ticket.memoryEvent s.config event.time .memoryServiceStart ::ₘ
        (0 + scheduler.pending) =
      {s.memoryNode.startEvent
        ((channel.queuedRequests ++ [event.requestId]).headD kInvalidRequestId) event.time} +
          scheduler.pending
    rw [hstartEvent, Multiset.zero_add, Multiset.singleton_add]
  · rw [places_update]
    exact ⟨served, hjoin⟩

/-- A request arrives at its memory channel. -/
theorem dispatch_forward (h : RunInv s phase base)
    (hpop : s.shared.scheduler.popNext = some (event, scheduler)) (hid : event.requestId ≠ 0)
    (hphase : phase event.requestId = .forward) :
    ∃ s' phase', Simulator.Dispatched .exact (s.popped scheduler) event s' ∧
      RunInv s' phase' base := by
  obtain ⟨request, node, hawaits⟩ := h.awaits_of_event hpop hid
  have hwait := hawaits.waits
  rw [hphase] at hwait
  obtain ⟨channel, served, hat⟩ := h.exists_atMemory hawaits hid (event_of_phase hwait).2.2
  by_cases hbusy : channel.serviceInProgress = true ∨ channel.serviceStartScheduled = true
  · exact h.dispatch_busy hpop hat hphase hbusy
  · obtain ⟨hprogress, hscheduled⟩ : channel.serviceInProgress = false ∧
        channel.serviceStartScheduled = false := by
      simpa using hbusy
    exact h.dispatch_idle hpop hat hphase hprogress hscheduled

-- ============================================================================
-- Service
-- ============================================================================

/-- The request at the head of its queue begins its service. -/
theorem dispatch_starting (h : RunInv s phase base)
    (hpop : s.shared.scheduler.popNext = some (event, scheduler)) (hid : event.requestId ≠ 0)
    {start : SimTime} (hphase : phase event.requestId = .starting start) :
    ∃ s' phase', Simulator.Dispatched .exact (s.popped scheduler) event s' ∧
      RunInv s' phase' base := by
  obtain ⟨request, node, hawaits⟩ := h.awaits_of_event hpop hid
  obtain ⟨-, hle, -, -, hold⟩ := h.popped_ordered hpop
  have hwait := hawaits.waits
  rw [hphase] at hwait
  have hstage : request.currentStage = .forwardedToMemory := by
    rw [hawaits.tracks.stage, hphase]
    rfl
  obtain ⟨htime, htype, htarget⟩ : event.time = start ∧ event.type = .memoryServiceStart ∧
      event.targetId = s.config.memoryNodeId := event_of_phase hwait
  obtain ⟨channel, served, hat⟩ := h.exists_atMemory hawaits hid htarget
  have hincomplete : request.currentStage ≠ .completed := by rw [hstage]; decide
  have hplace : places phase event.requestId = .starting start := by
    unfold places
    rw [hphase]
    rfl
  have harrivals := arrivals_same s event (by rw [htype]; decide)
    (request.ticket.channel s.config)
  obtain ⟨rest, hqueue, -, hbegin⟩ := hat.server.begin hat.channelOf hplace
    harrivals hle
  have henqueued := hawaits.tracks.enqueued (by rw [hphase]; trivial)
  have hnext : ({ time := event.time + s.memoryNode.serviceTimeFor .exact request
                  type := .memoryServiceComplete
                  targetId := s.memoryNode.nodeId
                  requestId := request.requestId } : EventRecord) =
      request.ticket.memoryEvent s.config (request.ticket.serviceEnd s.config start)
        .memoryServiceComplete := by
    rw [h.serviceTimeFor_eq, h.memoryNodeId_eq, htime]
    rfl
  refine ⟨_, Function.update phase event.requestId (.serving start),
    .memory hat.noNode htarget (.start htype hawaits.find hat.channel_eq hqueue), ?_⟩
  refine h.memory hpop hawaits rfl rfl hincomplete ?_ (by rw [htype]; decide) ?_ ?_
    (ended_update (.serving start)) ?_
    (fun id hother => places_of_channel hawaits.ticket (.serving start) hother)
  · simp
  · intro r hr
    have hr' := (List.mem_singleton.mp hr).trans hnext
    rw [hr']
    refine raises_of_awaits hawaits hid rfl ?_ (by simp [Ticket.memoryEvent])
    rw [htime]
    exact Nat.le_add_right _ _
  · refine h.lifecycle.process_events hold hawaits.find rfl (.serving start) rfl ?_ ?_ (by simp)
      rfl (fun _ => henqueued) 0 (by simp) ?_
    · rw [show phase event.record.requestId = _ from hphase, ← Option.some.inj hwait]
      rfl
    · rw [show phase event.record.requestId = _ from hphase]
      rfl
    · rw [Multiset.zero_add]
      exact congrArg (fun r => ({r} : Multiset EventRecord)) hnext
  · rw [places_update]
    exact ⟨_, hbegin⟩

theorem cons_singleton_add (first second : EventRecord) (rest : Multiset EventRecord) :
    second ::ₘ ({first} + rest) = ((first :: [second] : List EventRecord) :
      Multiset EventRecord) + rest := by
  rw [coe_cons_add, Multiset.coe_singleton, Multiset.singleton_add, Multiset.singleton_add]

/-- What the event of a request in service says. -/
theorem AtMemory.of_serving (hat : AtMemory s phase base event request node channel served)
    {start : SimTime} (hphase : phase event.requestId = .serving start) :
    request.currentStage = .waitingForResponse ∧
      event.time = request.ticket.serviceEnd s.config start ∧
        event.type = .memoryServiceComplete ∧ places phase event.requestId = .serving start := by
  have hwait := hat.awaits.waits
  rw [hphase] at hwait
  obtain ⟨htime, htype, -⟩ := event_of_phase hwait
  refine ⟨?_, htime, htype, ?_⟩
  · rw [hat.awaits.tracks.stage, hphase]
    rfl
  · unfold places
    rw [hphase]
    rfl

/-- The arrivals of the channel stay, and the service takes until the event. -/
theorem AtMemory.arrivals_of_serving
    (hat : AtMemory s phase base event request node channel served) {start : SimTime}
    (hphase : phase event.requestId = .serving start) :
    arrivals s.config s.view.tickets (s.eventLog ++ [event.record])
        (request.ticket.channel s.config) =
      arrivals s.config s.view.tickets s.eventLog (request.ticket.channel s.config) ∧
      event.time = start + (jobOf s.config s.view.tickets event.requestId).service := by
  obtain ⟨-, htime, htype, -⟩ := hat.of_serving hphase
  constructor
  · exact arrivals_same s event (by rw [htype]; decide) _
  · rw [jobOf_eq hat.awaits.ticket, htime]
    rfl

/-- The response leaves the memory node. -/
theorem return_eq (h : RunInv s phase base)
    (hat : AtMemory s phase base event request node channel served) {start : SimTime}
    (hphase : phase event.requestId = .serving start) :
    ({ time := event.time + s.memoryNode.config.oneWayLinkLatency
       type := .returnResponse
       targetId := request.sourceNodeId
       requestId := request.requestId } : EventRecord) =
      request.ticket.computeEvent (request.ticket.returnTime s.config start)
        .returnResponse := by
  obtain ⟨-, htime, -, -⟩ := hat.of_serving hphase
  rw [h.memoryConfig_eq, htime]
  rfl

/-- The request is answered by the memory node. -/
theorem lifecycle_returning (h : RunInv s phase base)
    (hpop : s.shared.scheduler.popNext = some (event, scheduler))
    (hat : AtMemory s phase base event request node channel served) {start : SimTime}
    (hphase : phase event.requestId = .serving start) (effect : Effect)
    (hissued : effect.issued = 0) (hresponses : effect.responses = [])
    (hwrite : effect.request = none) :
    Lifecycle s.config
      { s.view.after event.record scheduler.pending effect with
        pending := {request.ticket.computeEvent (request.ticket.returnTime s.config start)
          .returnResponse} + scheduler.pending }
      (Function.update phase event.requestId (.returning start)) := by
  obtain ⟨-, -, -, -, hold⟩ := h.popped_ordered hpop
  obtain ⟨hstage, -, -, -⟩ := hat.of_serving hphase
  have henqueued := hat.awaits.tracks.enqueued (by rw [hphase]; trivial)
  have hwait := hat.awaits.waits
  rw [hphase] at hwait
  refine h.lifecycle.process hold hat.awaits.find hissued (.returning start)
    (by rw [hwrite]; rfl) ?_ ?_ (by rw [hresponses]; simp) (by rw [hwrite]; exact hstage)
    (fun _ => by rw [hwrite]; exact henqueued)
  · rw [show phase event.record.requestId = _ from hphase, ← Option.some.inj hwait]
    rfl
  · rw [show phase event.record.requestId = _ from hphase, hresponses]
    rfl

/-- The request in service leaves a channel with no queue. -/
theorem dispatch_last (h : RunInv s phase base)
    (hpop : s.shared.scheduler.popNext = some (event, scheduler))
    (hat : AtMemory s phase base event request node channel served) {start : SimTime}
    (hphase : phase event.requestId = .serving start) (hqueue : channel.queuedRequests = []) :
    ∃ s' phase', Simulator.Dispatched .exact (s.popped scheduler) event s' ∧
      RunInv s' phase' base := by
  obtain ⟨hstage, -, htype, hplace⟩ := hat.of_serving hphase
  obtain ⟨harrivals, hfinish⟩ := hat.arrivals_of_serving hphase
  obtain ⟨hprogress, -, -, -, -⟩ := hat.server.of_serving hat.channelOf hplace
  have hincomplete : request.currentStage ≠ .completed := by rw [hstage]; decide
  refine ⟨_, Function.update phase event.requestId (.returning start),
    .memory hat.noNode hat.target
      (.completeIdle htype hat.awaits.find hat.channel_eq hprogress hqueue), ?_⟩
  refine h.memory hpop hat.awaits rfl rfl hincomplete ?_ (by rw [htype]; decide) ?_ ?_
    (ended_update (.returning start)) ?_
    (fun id hother => places_of_channel hat.awaits.ticket (.returning start) hother)
  · exact hincomplete
  · intro r hr
    rw [List.mem_singleton.mp hr]
    exact raises_of_awaits hat.awaits hat.id_ne rfl (Nat.le_add_right _ _) (by simp)
  · refine (h.lifecycle_returning hpop hat hphase _ rfl rfl rfl).of_pending ?_
    rw [← h.return_eq hat hphase]
    rfl
  · rw [places_update]
    exact ⟨served, hat.server.finish_idle hat.channelOf hplace harrivals hfinish hqueue⟩

/-- The request in service leaves its channel, and the next one has its start scheduled. -/
theorem dispatch_next (h : RunInv s phase base)
    (hpop : s.shared.scheduler.popNext = some (event, scheduler))
    (hat : AtMemory s phase base event request node channel served) {start : SimTime}
    (hphase : phase event.requestId = .serving start) {next : RequestId} {rest : List RequestId}
    (hqueue : channel.queuedRequests = next :: rest) :
    ∃ s' phase', Simulator.Dispatched .exact (s.popped scheduler) event s' ∧
      RunInv s' phase' base := by
  obtain ⟨-, hle, -, -, -⟩ := h.popped_ordered hpop
  obtain ⟨hstage, -, htype, hplace⟩ := hat.of_serving hphase
  obtain ⟨harrivals, hfinish⟩ := hat.arrivals_of_serving hphase
  obtain ⟨hprogress, -, -, -, -⟩ := hat.server.of_serving hat.channelOf hplace
  have hincomplete : request.currentStage ≠ .completed := by rw [hstage]; decide
  obtain ⟨hnextPlace, hne, hserver⟩ := hat.server.finish_next hat.channelOf hplace harrivals hle
    hfinish hqueue
  have hmem : next ∈ channel.queuedRequests := by
    rw [hqueue]
    exact List.mem_cons_self
  obtain ⟨hnextChannel, hnextId, request', hfind', hstart⟩ :=
    h.exists_start hat.server hmem event.time
  have hnextPhase := eq_queued_of_place hnextPlace
  refine ⟨_, Function.update (Function.update phase event.requestId (.returning start)) next
    (.starting event.time),
    .memory hat.noNode hat.target
      (.completeNext htype hat.awaits.find hat.channel_eq hprogress hqueue), ?_⟩
  refine h.memory hpop hat.awaits rfl rfl hincomplete ?_ (by rw [htype]; decide)
    ?_ ?_ ?_ ?_ ?_
  · exact hincomplete
  · intro r hr
    rcases List.mem_cons.mp hr with heq | hr
    · rw [heq]
      exact raises_of_awaits hat.awaits hat.id_ne rfl (Nat.le_add_right _ _) (by simp)
    · rw [List.mem_singleton.mp hr]
      exact ⟨le_refl _, hnextId, by simp [MemoryNode.startEvent], by simp [MemoryNode.startEvent]⟩
  · have hreturning := h.lifecycle_returning hpop hat hphase
      { stats := s.shared.stats.recordObjectService .exact request
          (s.memoryNode.channelFor request) (s.memoryNode.serviceTimeFor .exact request)
        events :=
          [{ time := event.time + s.memoryNode.config.oneWayLinkLatency
             type := .returnResponse
             targetId := request.sourceNodeId
             requestId := request.requestId },
           s.memoryNode.startEvent next event.time] } rfl rfl rfl
    refine (hreturning.start hfind' ?_ event.time).of_pending ?_
    · rw [Function.update_of_ne hne]
      exact hnextPhase
    · rw [← h.return_eq hat hphase, ← hstart]
      exact cons_singleton_add
        { time := event.time + s.memoryNode.config.oneWayLinkLatency
          type := .returnResponse
          targetId := request.sourceNodeId
          requestId := request.requestId }
        (s.memoryNode.startEvent next event.time) scheduler.pending
  · intro id hne' hended
    by_cases heq : id = next
    · rw [heq, hnextPhase] at hended
      exact hended.elim
    · rw [Function.update_of_ne heq, Function.update_of_ne hne']
      exact hended
  · rw [places_update, places_update]
    exact ⟨served, hserver⟩
  · intro other hother
    have hne' : other ≠ next := by
      rintro rfl
      exact hother hnextChannel
    rw [places_update, Function.update_of_ne hne']
    exact places_of_channel hat.awaits.ticket (.returning start) hother

/-- The request in service leaves its channel. -/
theorem dispatch_serving (h : RunInv s phase base)
    (hpop : s.shared.scheduler.popNext = some (event, scheduler)) (hid : event.requestId ≠ 0)
    {start : SimTime} (hphase : phase event.requestId = .serving start) :
    ∃ s' phase', Simulator.Dispatched .exact (s.popped scheduler) event s' ∧
      RunInv s' phase' base := by
  obtain ⟨request, node, hawaits⟩ := h.awaits_of_event hpop hid
  have hwait := hawaits.waits
  rw [hphase] at hwait
  obtain ⟨channel, served, hat⟩ := h.exists_atMemory hawaits hid (event_of_phase hwait).2.2
  cases hqueue : channel.queuedRequests with
  | nil => exact h.dispatch_last hpop hat hphase hqueue
  | cons next rest => exact h.dispatch_next hpop hat hphase hqueue

end AtMemory

-- ============================================================================
-- Every dispatch
-- ============================================================================

/-- The next event can be dispatched, and its handler keeps the invariant. -/
theorem dispatch (h : RunInv s phase base)
    (hpop : s.shared.scheduler.popNext = some (event, scheduler)) :
    ∃ s' phase', Simulator.Dispatched .exact (s.popped scheduler) event s' ∧
      RunInv s' phase' base := by
  by_cases hid : event.requestId = 0
  · exact h.dispatch_generate hpop hid
  · obtain ⟨request, node, hawaits⟩ := h.awaits_of_event hpop hid
    have hwait := hawaits.waits
    cases hphase : phase event.requestId with
    | lookup => exact h.dispatch_lookup hpop hid hphase
    | hit => exact h.dispatch_hit hpop hid hphase
    | hitDone =>
        rw [hphase] at hwait
        refine h.dispatch_complete hpop hid (event_of_phase hwait).2.1 .hitEnd (by rw [hphase]; rfl)
          (fun _ => rfl) ?_ (fun _ => by rw [hphase]; rfl) (by rw [hphase]; rfl)
          (fun ha => ha.elim)
        intro t ht
        rw [hphase] at ht ⊢
        rw [← Option.some.inj ht]
        rfl
    | forward => exact h.dispatch_forward hpop hid hphase
    | starting start => exact h.dispatch_starting hpop hid hphase
    | serving start => exact h.dispatch_serving hpop hid hphase
    | returning start => exact h.dispatch_returning hpop hid hphase
    | missDone start =>
        rw [hphase] at hwait
        refine h.dispatch_complete hpop hid (event_of_phase hwait).2.1 (.missEnd start)
          (by rw [hphase]; rfl) (fun _ => rfl) ?_ (fun _ => by rw [hphase]; rfl)
          (by rw [hphase]; rfl) (fun _ => by rw [hphase]; trivial)
        intro t ht
        rw [hphase] at ht ⊢
        rw [← Option.some.inj ht]
        rfl
    | hitEnd | queued | missEnd start =>
        rw [hphase] at hwait
        cases hwait

end RunInv

end DmSimulator
