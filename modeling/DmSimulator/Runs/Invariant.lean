/-
  DmSimulator.Runs.Invariant

  The invariant of a run, with unbounded time.

  `RunInv` joins the life of the requests, the pacing of the nodes, the memory
  channels and the epoch barrier.  In a state that satisfies it the next event
  can be dispatched, and both the dispatch and the release of an epoch keep it.
-/
import DmSimulator.Runs.Pacing

namespace DmSimulator

/-- Every turn keeps the queue in order, whatever is scheduled. -/
theorem Scheduler.WellOrdered.scheduleRecords {s : Scheduler} (hs : s.WellOrdered)
    (records : List EventRecord) : (s.scheduleAll records).WellOrdered := by
  induction records generalizing s with
  | nil => exact hs
  | cons record rest ih => exact ih (hs.schedule record.event)

/-- Events that are not in the past are all accepted. -/
theorem Scheduler.WellOrdered.scheduleAll {s : Scheduler} (hs : s.WellOrdered)
    (records : List EventRecord) (h : ∀ record ∈ records, s.currentTime ≤ record.time) :
    (s.scheduleAll records).WellOrdered ∧
      (s.scheduleAll records).pending = (records : Multiset EventRecord) + s.pending ∧
      (s.scheduleAll records).currentTime = s.currentTime ∧
      (s.scheduleAll records).refused = s.refused := by
  induction records generalizing s with
  | nil => exact ⟨hs, (Multiset.zero_add _).symm, rfl, rfl⟩
  | cons record rest ih =>
      have hrecord := h record List.mem_cons_self
      have htime := Scheduler.schedule_currentTime s record.event
      obtain ⟨hordered, hpending, hcurrent, hrefused⟩ := ih (hs.schedule record.event)
        fun r hr => by
          rw [htime]
          exact h r (List.mem_cons_of_mem record hr)
      refine ⟨hordered, ?_, hcurrent.trans htime, hrefused.trans ?_⟩
      · rw [Scheduler.scheduleAll_cons, hpending, Scheduler.schedule_pending hrecord,
          Multiset.add_cons, ← Multiset.cons_add, Multiset.cons_coe]
      · exact Scheduler.schedule_refused hrecord

/-- The traces after an event has been processed with an effect. -/
def View.after (v : View) (e : EventRecord) (rest : Multiset EventRecord) (effect : Effect) :
    View :=
  { nextRequestId := v.nextRequestId + effect.issued
    requestTable :=
      match effect.request with
      | none => v.requestTable
      | some request => v.requestTable.insert request
    pending := (effect.events : Multiset EventRecord) + rest
    log := v.log ++ [e]
    responses := v.responses ++ effect.responses }

/-- Where the requests stand as seen from the memory channels. -/
def places (phase : RequestId → Phase) : RequestId → Place := fun id => (phase id).place

theorem places_update (phase : RequestId → Phase) (id : RequestId) (new : Phase) :
    places (Function.update phase id new) = Function.update (places phase) id new.place :=
  Function.comp_update Phase.place phase id new

theorem Lifecycle.of_pending {config : SimulationConfig} {v : View} {phase : RequestId → Phase}
    (h : Lifecycle config v phase) {pending : Multiset EventRecord} (heq : v.pending = pending) :
    Lifecycle config { v with pending := pending } phase := by
  rw [← heq]
  exact h

/-- A request moves on with an effect that writes at most its own table entry. -/
theorem Lifecycle.process {config : SimulationConfig} {v : View} {phase : RequestId → Phase}
    (h : Lifecycle config v phase) {e : EventRecord} {rest : Multiset EventRecord}
    (hpending : v.pending = e ::ₘ rest) {request : Request}
    (hfind : v.requestTable.find e.requestId = some request) {effect : Effect}
    (hissued : effect.issued = 0) (phase' : Phase)
    (hticket : (effect.request.getD request).ticket = request.ticket)
    (hlogged : phase'.logged config request.ticket =
      (phase e.requestId).logged config request.ticket ++ [e])
    (hanswers : phase'.answers config request.ticket =
      (phase e.requestId).answers config request.ticket ++ effect.responses)
    (hresponses : ∀ p ∈ effect.responses, p.requestId = e.requestId)
    (hstage : (effect.request.getD request).currentStage = phase'.stage)
    (henqueued : phase'.Arrived →
      (effect.request.getD request).memoryEnqueueTime = request.ticket.arrival config) :
    Lifecycle config
      { v.after e rest effect with
        pending := (phase'.pending config request.ticket).elim 0 (fun e => {e}) + rest }
      (Function.update phase e.requestId phase') := by
  have htable : Updates v.requestTable (v.after e rest effect).requestTable
      (effect.request.getD request) := by
    cases hrequest : effect.request with
    | none =>
        unfold View.after
        rw [hrequest]
        exact updates_self hfind
    | some request' =>
        unfold View.after
        rw [hrequest]
        exact updates_insert v.requestTable request'
  have hadvance := h.advance hpending hfind hticket htable hlogged hanswers hresponses hstage
    henqueued
  have hnext : v.nextRequestId = (v.after e rest effect).nextRequestId := by
    show _ = v.nextRequestId + effect.issued
    rw [hissued, Nat.add_zero]
  rw [hnext] at hadvance
  exact hadvance

/-- A request moves on, and the effect schedules its next event besides some
    `GenerateRequest` events. -/
theorem Lifecycle.process_events {config : SimulationConfig} {v : View}
    {phase : RequestId → Phase} (h : Lifecycle config v phase) {e : EventRecord}
    {rest : Multiset EventRecord} (hpending : v.pending = e ::ₘ rest) {request : Request}
    (hfind : v.requestTable.find e.requestId = some request) {effect : Effect}
    (hissued : effect.issued = 0) (phase' : Phase)
    (hticket : (effect.request.getD request).ticket = request.ticket)
    (hlogged : phase'.logged config request.ticket =
      (phase e.requestId).logged config request.ticket ++ [e])
    (hanswers : phase'.answers config request.ticket =
      (phase e.requestId).answers config request.ticket ++ effect.responses)
    (hresponses : ∀ p ∈ effect.responses, p.requestId = e.requestId)
    (hstage : (effect.request.getD request).currentStage = phase'.stage)
    (henqueued : phase'.Arrived →
      (effect.request.getD request).memoryEnqueueTime = request.ticket.arrival config)
    (extra : Multiset EventRecord) (hextra : ∀ r ∈ extra, r.requestId = 0)
    (hevents : (effect.events : Multiset EventRecord) =
      extra + (phase'.pending config request.ticket).elim 0 (fun e => {e})) :
    Lifecycle config (v.after e rest effect) (Function.update phase e.requestId phase') := by
  have hprocess := h.process hpending hfind hissued phase' hticket hlogged hanswers hresponses
    hstage henqueued
  have hschedule := hprocess.schedule extra hextra
  rw [← Multiset.add_assoc, ← hevents] at hschedule
  exact hschedule

/-- Writing a request with the same ticket changes no ticket. -/
theorem View.tickets_after {v : View} {e : EventRecord} (rest : Multiset EventRecord)
    {request : Request} (hfind : v.requestTable.find e.requestId = some request)
    (effect : Effect) (hticket : (effect.request.getD request).ticket = request.ticket) :
    (v.after e rest effect).tickets = v.tickets := by
  funext id
  unfold View.tickets View.after
  cases hrequest : effect.request with
  | none => rfl
  | some request' =>
      rw [hrequest] at hticket
      have hid : request.requestId = e.requestId := KeyedStore.key_of_find hfind
      have hkey : request'.requestId = e.requestId := (congrArg Ticket.requestId hticket).trans hid
      simp only
      rw [updates_insert v.requestTable request' id, hkey]
      by_cases heq : id = e.requestId
      · rw [if_pos heq, heq, hfind]
        exact congrArg some hticket
      · rw [if_neg heq]

theorem Phase.not_ended_of_pending {config : SimulationConfig} {t : Ticket} {phase : Phase}
    {e : EventRecord} (h : phase.pending config t = some e) : ¬ phase.Ended := by
  intro hended
  cases phase <;> first | exact hended | cases h

/-- The events of a request carry its id, and none of them is a generate event. -/
theorem Phase.pending_spec {config : SimulationConfig} {t : Ticket} {phase : Phase}
    {e : EventRecord} (h : phase.pending config t = some e) :
    e.requestId = t.requestId ∧ e.type ≠ .generateRequest ∧
      (e.type = .requestComplete → e.targetId = t.sourceNodeId) := by
  cases phase <;> simp only [Phase.pending, Option.some.injEq, reduceCtorEq] at h <;>
    · subst h
      refine ⟨rfl, by simp [Ticket.computeEvent, Ticket.memoryEvent], ?_⟩
      simp [Ticket.computeEvent, Ticket.memoryEvent]

/-- The invariant of a run. -/
structure RunInv {P : CachePolicy} (s : Simulator P) (phase : RequestId → Phase)
    (base : SimTime) : Prop where
  prepared : Prepared s.config
  ordered : s.shared.scheduler.WellOrdered
  accepted : s.shared.scheduler.refused = []
  lifecycle : Lifecycle s.config s.view phase
  nodes : ∀ node ∈ s.computeNodes.items, NodeInv s.config s.view s.releasedEpoch base node
  present : ∀ nodeConfig ∈ s.config.computeNodes,
    ∃ node, s.computeNodes.find nodeConfig.nodeId = some node
  memoryNodeId_eq : s.memoryNode.nodeId = s.config.memoryNodeId
  memoryConfig_eq : s.memoryNode.config = s.config
  channels_length : s.memoryNode.channels.length = s.config.memoryChannelCount
  channels : ∀ c channel, s.memoryNode.channels[c]? = some channel →
    ∃ served, ServerInv s.config s.view.tickets s.eventLog s.shared.scheduler.currentTime
      (places phase) c channel served
  sources : ∀ id t, s.view.tickets id = some t →
    ∃ node, s.computeNodes.find t.sourceNodeId = some node
  barrier : ∀ id t, s.view.tickets id = some t → ∃ epoch, s.releasedEpoch = some epoch ∧
    t.epochId ≤ epoch ∧ (¬ (phase id).Ended → t.epochId = epoch)
  generates : ∀ e ∈ s.view.pending, e.requestId = 0 → e.type = .generateRequest ∧
    ∃ node, s.computeNodes.find e.targetId = some node
  issued : s.computeNodes.total (fun node => node.workload.nextIndex) + 1 =
    s.shared.nextRequestId

namespace RunInv

variable {P : CachePolicy} {s : Simulator P} {phase phase' : RequestId → Phase} {base : SimTime}
  {event : Event} {scheduler : Scheduler}

theorem node_of_find (h : RunInv s phase base) {nodeId : NodeId} {node : ComputeNode P}
    (hfind : s.computeNodes.find nodeId = some node) :
    NodeInv s.config s.view s.releasedEpoch base node ∧ node.nodeId = nodeId := by
  obtain ⟨hmem, hkey⟩ := KeyedStore.find_eq_some.mp hfind
  exact ⟨h.nodes node hmem, hkey⟩

/-- The memory node's id is not that of a compute node. -/
theorem find_memoryNodeId (h : RunInv s phase base) :
    s.computeNodes.find s.config.memoryNodeId = none := by
  rw [KeyedStore.find_eq_none]
  intro node hmem
  obtain ⟨nodeConfig, hconfig, hid, -⟩ := (h.nodes node hmem).configured
  rw [hid]
  exact h.prepared.memoryNode_fresh nodeConfig hconfig

theorem channel_lt (h : RunInv s phase base) (t : Ticket) :
    t.channel s.config < s.config.memoryChannelCount :=
  memoryChannelForObject_lt t.objectId h.prepared.channels_pos

/-- Every ticket's channel exists. -/
theorem exists_channel (h : RunInv s phase base) (t : Ticket) :
    ∃ channel, s.memoryNode.channels[t.channel s.config]? = some channel := by
  have hlt := h.channel_lt t
  rw [← h.channels_length] at hlt
  exact ⟨_, List.getElem?_eq_getElem hlt⟩

-- ============================================================================
-- The traces after a dispatch
-- ============================================================================

theorem popped_ordered (h : RunInv s phase base)
    (hpop : s.shared.scheduler.popNext = some (event, scheduler)) :
    scheduler.WellOrdered ∧ s.shared.scheduler.currentTime ≤ event.time ∧
      scheduler.currentTime = event.time ∧ scheduler.refused = [] ∧
      s.view.pending = event.record ::ₘ scheduler.pending := by
  obtain ⟨hordered, hle⟩ := h.ordered.popNext hpop
  obtain ⟨hpending, htime, -, hrefused, -⟩ := Scheduler.popNext_eq_some hpop
  exact ⟨hordered, hle, htime, hrefused.trans h.accepted, hpending⟩

/-- What a dispatch leaves of the scheduler, and the traces it leaves. -/
theorem scheduled (h : RunInv s phase base)
    (hpop : s.shared.scheduler.popNext = some (event, scheduler)) {effect : Effect}
    (hfuture : ∀ record ∈ effect.events, event.time ≤ record.time) :
    (scheduler.scheduleAll effect.events).WellOrdered ∧
      (scheduler.scheduleAll effect.events).currentTime = event.time ∧
      (scheduler.scheduleAll effect.events).refused = [] ∧
      (scheduler.scheduleAll effect.events).pending =
        (effect.events : Multiset EventRecord) + scheduler.pending := by
  obtain ⟨hordered, -, htime, hrefused, -⟩ := h.popped_ordered hpop
  obtain ⟨hordered', hpending', htime', hrefused'⟩ := hordered.scheduleAll effect.events
    (by rw [htime]; exact hfuture)
  exact ⟨hordered', htime'.trans htime, hrefused'.trans hrefused, hpending'⟩

theorem view_afterCompute {effect : Effect} (node : ComputeNode P)
    (hpending : (scheduler.scheduleAll effect.events).pending =
      (effect.events : Multiset EventRecord) + scheduler.pending) :
    ((s.popped scheduler).afterCompute event node effect).view =
      s.view.after event.record scheduler.pending effect := by
  exact congrArg (fun pending : Multiset EventRecord =>
    ({ s.view.after event.record scheduler.pending effect with pending := pending } : View)) hpending

theorem view_afterMemory {effect : Effect} (memoryNode : MemoryNode)
    (hpending : (scheduler.scheduleAll effect.events).pending =
      (effect.events : Multiset EventRecord) + scheduler.pending) :
    ((s.popped scheduler).afterMemory event memoryNode effect).view =
      s.view.after event.record scheduler.pending effect := by
  exact congrArg (fun pending : Multiset EventRecord =>
    ({ s.view.after event.record scheduler.pending effect with pending := pending } : View)) hpending

/-- Events for another target, or of another type, leave a node's counts alone. -/
theorem generatesFor_add {added rest : Multiset EventRecord} {nodeId : NodeId}
    (h : ∀ e ∈ added, e.type = .generateRequest → e.targetId ≠ nodeId) :
    generatesFor (added + rest) nodeId = generatesFor rest nodeId := by
  unfold generatesFor
  rw [Multiset.filter_add, Multiset.filter_eq_nil.mpr, Multiset.zero_add]
  intro e he hboth
  exact h e he hboth.1 hboth.2

theorem completionsFor_add {added rest : Multiset EventRecord} {nodeId : NodeId}
    (h : ∀ e ∈ added, e.type = .requestComplete → e.targetId ≠ nodeId) :
    completionsFor (added + rest) nodeId = completionsFor rest nodeId := by
  unfold completionsFor
  rw [Multiset.filter_add, Multiset.filter_eq_nil.mpr, Multiset.zero_add]
  intro e he hboth
  exact h e he hboth.1 hboth.2

/-- A dispatch keeps the tickets; a new one is that of a request that is not yet
    at its channel and belongs to the released epoch. -/
structure Keeps (s : Simulator P) (v' : View) (phase phase' : RequestId → Phase)
    (issuer : Option NodeId) : Prop where
  old : ∀ id t, s.view.tickets id = some t → v'.tickets id = some t
  new : ∀ id t, v'.tickets id = some t → s.view.tickets id = some t ∨
    issuer = some t.sourceNodeId ∧ places phase' id = .away ∧ s.releasedEpoch = some t.epochId
  ended : ∀ id t, s.view.tickets id = some t → (phase id).Ended → (phase' id).Ended

namespace Keeps

variable {v' : View} {issuer : Option NodeId}

theorem sources (hk : Keeps s v' phase phase' issuer) (h : RunInv s phase base)
    (hissuer : ∀ nodeId, issuer = some nodeId →
      ∃ node, s.computeNodes.find nodeId = some node) :
    ∀ id t, v'.tickets id = some t → ∃ node, s.computeNodes.find t.sourceNodeId = some node := by
  intro id t ht
  rcases hk.new id t ht with hold | ⟨hsome, -, -⟩
  · exact h.sources id t hold
  · exact hissuer _ hsome

theorem barrier (hk : Keeps s v' phase phase' issuer) (h : RunInv s phase base) :
    ∀ id t, v'.tickets id = some t → ∃ epoch, s.releasedEpoch = some epoch ∧
      t.epochId ≤ epoch ∧ (¬ (phase' id).Ended → t.epochId = epoch) := by
  intro id t ht
  rcases hk.new id t ht with hold | ⟨-, -, hepoch⟩
  · obtain ⟨epoch, hreleased, hle, hend⟩ := h.barrier id t hold
    exact ⟨epoch, hreleased, hle, fun hnot => hend fun hended =>
      hnot (hk.ended id t hold hended)⟩
  · exact ⟨t.epochId, hepoch, le_refl _, fun _ => rfl⟩

/-- A channel none of whose requests change their places. -/
theorem server (hk : Keeps s v' phase phase' issuer) {c : MemoryChannelId}
    {channel : ChannelState} {served : List RequestId} {log' : List EventRecord}
    {now now' : SimTime} (hserver : ServerInv s.config s.view.tickets s.eventLog now
      (places phase) c channel served)
    (hnow : now ≤ now')
    (hlog : arrivals s.config v'.tickets log' c = arrivals s.config s.view.tickets s.eventLog c)
    (hplaces : ∀ id, channelOf s.config s.view.tickets id = some c →
      places phase' id = places phase id) :
    ServerInv s.config v'.tickets log' now' (places phase') c channel served := by
  refine hserver.frame hnow hlog ?_ ?_
  · intro id hid
    refine ⟨?_, hplaces id hid⟩
    unfold channelOf at hid
    cases ht : s.view.tickets id with
    | none => simp [ht] at hid
    | some t => exact hk.old id t ht
  · intro id hid
    unfold channelOf at hid
    cases ht : v'.tickets id with
    | none => simp [ht] at hid
    | some t =>
        rcases hk.new id t ht with hold | ⟨-, haway, -⟩
        · left
          unfold channelOf
          rw [hold, ← ht]
          exact hid
        · exact Or.inr haway

/-- A node that nothing happens to. -/
theorem node (hk : Keeps s v' phase phase' issuer) {node : ComputeNode P}
    (hnode : NodeInv s.config s.view s.releasedEpoch base node)
    (hissuer : issuer ≠ some node.nodeId) {e : EventRecord}
    {added rest : Multiset EventRecord} (hpending : s.view.pending = e ::ₘ rest)
    (hpending' : v'.pending = added + rest)
    (helse : ∀ r, r = e ∨ r ∈ added → r.type = .generateRequest ∨ r.type = .requestComplete →
      r.targetId ≠ node.nodeId)
    (houtstanding : outstandingIn v'.requestTable node.nodeId =
      outstandingIn s.view.requestTable node.nodeId) :
    NodeInv s.config v' s.releasedEpoch base node := by
  refine hnode.frame_other hk.old ?_ ?_ houtstanding ?_
  · intro id t ht hsource
    rcases hk.new id t ht with hold | ⟨hsome, -, -⟩
    · exact hold
    · exact absurd (hsome.trans (congrArg some hsource)) hissuer
  · rw [hpending, hpending', generatesFor_add fun r hr htype => helse r (Or.inr hr) (Or.inl htype),
      ← Multiset.singleton_add, generatesFor_add]
    intro r hr htype
    exact helse r (Or.inl (Multiset.mem_singleton.mp hr)) (Or.inl htype)
  · rw [hpending, hpending',
      completionsFor_add fun r hr htype => helse r (Or.inr hr) (Or.inr htype),
      ← Multiset.singleton_add, completionsFor_add]
    intro r hr htype
    exact helse r (Or.inl (Multiset.mem_singleton.mp hr)) (Or.inr htype)

/-- The events processed so far keep their channels. -/
theorem tickets_log (hk : Keeps s v' phase phase' issuer) {config : SimulationConfig}
    (h : Lifecycle config s.view phase) (h' : Lifecycle config v' phase') :
    ∀ e ∈ s.eventLog, v'.tickets e.requestId = s.view.tickets e.requestId := by
  intro e he
  have hlt := h.log_ids e he
  by_cases hzero : e.requestId = 0
  · have hnone : ∀ {v : View} {phase}, Lifecycle config v phase → v.tickets 0 = none := by
      intro v phase hl
      have hnot : ¬ (v.requestTable.find 0).isSome := by
        rw [hl.ids 0]
        lia
      unfold View.tickets
      rw [Option.not_isSome_iff_eq_none.mp hnot]
      rfl
    rw [hzero, hnone h, hnone h']
  · have hsome := (h.ids e.requestId).mpr ⟨by lia, hlt⟩
    obtain ⟨request, hfind⟩ := Option.isSome_iff_exists.mp hsome
    have ht : s.view.tickets e.requestId = some request.ticket := by
      unfold View.tickets
      rw [hfind]
      rfl
    rw [hk.old _ _ ht, ht]

/-- An event that is no arrival leaves the arrivals of every channel alone. -/
theorem arrivals_of_type (hk : Keeps s v' phase phase' issuer) {config : SimulationConfig}
    (h : Lifecycle config s.view phase) (h' : Lifecycle config v' phase') {e : EventRecord}
    (htype : e.type ≠ .forwardToMemory) (c : MemoryChannelId) :
    arrivals config v'.tickets (s.eventLog ++ [e]) c =
      arrivals config s.view.tickets s.eventLog c := by
  rw [arrivals_snoc, if_neg fun hboth => htype hboth.1, List.append_nil]
  exact arrivals_congr (hk.tickets_log h h') c

/-- An arrival joins the arrivals of its channel. -/
theorem arrivals_of_forward (hk : Keeps s v' phase phase' issuer) {config : SimulationConfig}
    (h : Lifecycle config s.view phase) (h' : Lifecycle config v' phase') {e : EventRecord}
    (htype : e.type = .forwardToMemory) {t : Ticket}
    (ht : v'.tickets e.requestId = some t) (c : MemoryChannelId) :
    arrivals config v'.tickets (s.eventLog ++ [e]) c =
      arrivals config s.view.tickets s.eventLog c ++
        if t.channel config = c then [e.requestId] else [] := by
  rw [arrivals_snoc, arrivals_congr (hk.tickets_log h h') c]
  congr 1
  by_cases hc : t.channel config = c
  · rw [if_pos hc, if_pos ⟨htype, by unfold channelOf; rw [ht]; exact congrArg some hc⟩]
  · rw [if_neg hc, if_neg]
    rintro ⟨-, hsome⟩
    unfold channelOf at hsome
    rw [ht] at hsome
    exact hc (Option.some.inj hsome)

end Keeps

-- ============================================================================
-- A dispatch to a compute node
-- ============================================================================

/-- A compute node processes an event, and no request changes its place. -/
theorem compute (h : RunInv s phase base)
    (hpop : s.shared.scheduler.popNext = some (event, scheduler))
    {node node' : ComputeNode P} {effect : Effect} (issuer : Option NodeId)
    (hfind : s.computeNodes.find event.targetId = some node)
    (htype : event.type ≠ .forwardToMemory)
    (hfuture : ∀ r ∈ effect.events, event.time ≤ r.time)
    (htargets : ∀ r ∈ effect.events, r.type = .generateRequest ∨ r.type = .requestComplete →
      r.targetId = node.nodeId)
    (hzero : ∀ r ∈ effect.events, r.requestId = 0 → r.type = .generateRequest ∧
      r.targetId = node.nodeId)
    (hlife : Lifecycle s.config (s.view.after event.record scheduler.pending effect) phase')
    (hk : Keeps s (s.view.after event.record scheduler.pending effect) phase phase' issuer)
    (hissuer : ∀ nodeId, issuer = some nodeId → nodeId = node.nodeId)
    (hplaces : ∀ id t, s.view.tickets id = some t → places phase' id = places phase id)
    (hothers : ∀ nodeId, nodeId ≠ node.nodeId →
      outstandingIn (s.view.after event.record scheduler.pending effect).requestTable nodeId =
        outstandingIn s.view.requestTable nodeId)
    (hnode : NodeInv s.config (s.view.after event.record scheduler.pending effect)
      s.releasedEpoch base node')
    (hid : node'.nodeId = node.nodeId)
    (hindex : node'.workload.nextIndex = node.workload.nextIndex + effect.issued) :
    RunInv ((s.popped scheduler).afterCompute event node' effect) phase' base := by
  obtain ⟨hordered, htime, hrefused, hpending⟩ := h.scheduled hpop hfuture
  obtain ⟨-, hle, -, -, hold⟩ := h.popped_ordered hpop
  have htarget : node.nodeId = event.targetId := KeyedStore.key_of_find hfind
  have hview : ((s.popped scheduler).afterCompute event node' effect).view =
      s.view.after event.record scheduler.pending effect := view_afterCompute node' hpending
  have hexists : ∃ n, s.computeNodes.find node.nodeId = some n := ⟨node, htarget ▸ hfind⟩
  have hstays : ∀ {nodeId}, (∃ n, s.computeNodes.find nodeId = some n) →
      ∃ n, ((s.popped scheduler).afterCompute event node' effect).computeNodes.find nodeId =
        some n := fun hn => KeyedStore.exists_find_insert hn node'
  refine ⟨h.prepared, hordered, hrefused, ?_, ?_, ?_, h.memoryNodeId_eq, h.memoryConfig_eq,
    h.channels_length, ?_, ?_, ?_, ?_, ?_⟩
  · rw [hview]
    exact hlife
  · rw [hview]
    intro other hother
    rcases KeyedStore.mem_insert.mp hother with rfl | ⟨hmem, hne⟩
    · exact hnode
    · rw [hid] at hne
      refine hk.node (h.nodes other hmem) ?_ hold rfl ?_ (hothers other.nodeId hne)
      · intro hsome
        exact hne (hissuer _ hsome)
      · rintro r (rfl | hr) hr'
        · exact fun heq => hne (heq.symm.trans htarget.symm)
        · rw [htargets r hr hr']
          exact fun heq => hne heq.symm
  · intro nodeConfig hmem
    exact hstays (h.present nodeConfig hmem)
  · intro c channel hchannel
    obtain ⟨served, hserver⟩ := h.channels c channel hchannel
    refine ⟨served, ?_⟩
    rw [hview]
    refine hk.server hserver (hle.trans (le_of_eq htime.symm))
      (hk.arrivals_of_type h.lifecycle hlife htype c) ?_
    intro id hidc
    unfold channelOf at hidc
    cases ht : s.view.tickets id with
    | none => simp [ht] at hidc
    | some t => exact hplaces id t ht
  · rw [hview]
    intro id t ht
    refine hstays (hk.sources h ?_ id t ht)
    intro nodeId hsome
    rw [hissuer nodeId hsome]
    exact hexists
  · rw [hview]
    exact hk.barrier h
  · rw [hview]
    intro e he hezero
    rcases Multiset.mem_add.mp he with hnew | hrest
    · obtain ⟨hgenerate, htargetId⟩ := hzero e hnew hezero
      exact ⟨hgenerate, hstays (by rw [htargetId]; exact hexists)⟩
    · obtain ⟨hgenerate, hn⟩ := h.generates e
        (by rw [hold]; exact Multiset.mem_cons_of_mem hrest) hezero
      exact ⟨hgenerate, hstays hn⟩
  · have htotal := KeyedStore.total_replace (fun node => node.workload.nextIndex) hfind
      (hid.trans htarget)
    have hissued := h.issued
    show (s.computeNodes.insert node').total _ + 1 = s.shared.nextRequestId + effect.issued
    lia

-- ============================================================================
-- The request of an event
-- ============================================================================

/-- What is known when an event of a request comes up. -/
structure Awaits (s : Simulator P) (phase : RequestId → Phase) (base : SimTime)
    (event : Event) (request : Request) (node : ComputeNode P) : Prop where
  find : s.shared.requestTable.find event.requestId = some request
  key : request.requestId = event.requestId
  waits : (phase event.requestId).pending s.config request.ticket = some event.record
  tracks : Tracks s.config s.view request (phase event.requestId)
  source : s.computeNodes.find request.sourceNodeId = some node
  sourceId : request.sourceNodeId = node.nodeId
  node : NodeInv s.config s.view s.releasedEpoch base node

theorem Awaits.ticket {request : Request} {node : ComputeNode P}
    (h : Awaits s phase base event request node) :
    s.view.tickets event.requestId = some request.ticket := by
  unfold View.tickets
  rw [show s.view.requestTable.find event.requestId = some request from h.find]
  rfl

/-- An event of a request is pending because the request's phase waits for it. -/
theorem awaits_of_event (h : RunInv s phase base)
    (hpop : s.shared.scheduler.popNext = some (event, scheduler)) (hid : event.requestId ≠ 0) :
    ∃ request node, Awaits s phase base event request node := by
  obtain ⟨-, -, -, -, hold⟩ := h.popped_ordered hpop
  have hmem : event.record ∈ s.view.pending := by
    rw [hold]
    exact Multiset.mem_cons_self _ _
  obtain ⟨request, hfind⟩ := h.lifecycle.find_of_event hmem hid
  have ht : s.view.tickets event.requestId = some request.ticket := by
    unfold View.tickets
    rw [show s.view.requestTable.find event.requestId = some request from hfind]
    rfl
  obtain ⟨node, hsource⟩ := h.sources event.requestId request.ticket ht
  obtain ⟨hnode, hkey⟩ := h.node_of_find hsource
  exact ⟨request, node, hfind, KeyedStore.key_of_find hfind, h.lifecycle.pending_eq hmem hfind,
    h.lifecycle.tracks event.requestId request hfind, hsource, hkey.symm, hnode⟩

/-- Processing an event of a request keeps the tickets. -/
theorem keeps_process {e : EventRecord} {rest : Multiset EventRecord} {request : Request}
    (hfind : s.view.requestTable.find e.requestId = some request)
    (hphase : (phase e.requestId).pending s.config request.ticket = some e) {effect : Effect}
    (hticket : (effect.request.getD request).ticket = request.ticket)
    (hother : ∀ id, id ≠ e.requestId → (phase id).Ended → (phase' id).Ended) :
    Keeps s (s.view.after e rest effect) phase phase' none := by
  have htickets := View.tickets_after rest hfind effect hticket
  refine ⟨fun id t ht => by rw [htickets]; exact ht, fun id t ht => Or.inl ?_, ?_⟩
  · rw [← htickets]
    exact ht
  · intro id t _ hended
    by_cases heq : id = e.requestId
    · rw [heq] at hended
      exact absurd hended (Phase.not_ended_of_pending hphase)
    · exact hother id heq hended

end RunInv

end DmSimulator
