/-
  DmSimulator.Runs.VisitTurns

  Every turn of a completion-driven run keeps what holds of the visits of a node
  (`Visiting`).  At the end of a run the node has made one visit for each request
  of its stream, in order, and its cache has been through them.
-/
import DmSimulator.Runs.Recency
import DmSimulator.Runs.UnderWay
import DmSimulator.Runs.Visits

namespace DmSimulator

open Simulator

-- ============================================================================
-- One turn
-- ============================================================================

section Turn

variable {P : CachePolicy} {s s' : Simulator P} {phase : RequestId → Phase} {base : SimTime}
  {event : Event} {scheduler : Scheduler} {effect : Effect} {nodeId : NodeId}
  {node node' : ComputeNode P} {request : Request}

/-- What holds of the visits of a node along a run. -/
structure Simulator.Visiting (nodeId : NodeId) (s : Simulator P) : Prop where
  inTime : InTime s.config (s.visits nodeId)
  past : ∀ v ∈ s.visits nodeId, v.completionTime ≤ s.shared.scheduler.currentTime
  noPlan : ∀ node, s.computeNodes.find nodeId = some node → node.globalReplicaPlan = none
  standing : ∀ node, s.computeNodes.find nodeId = some node →
    Standing s.view s.config.localCache.capacityBytes (s.visits nodeId) node

/-- Ids from the next one on are not in use. -/
theorem RunInv.fresh (h : RunInv s phase base) :
    ∀ id, s.shared.nextRequestId ≤ id → s.shared.requestTable.find id = none := by
  intro id hle
  rw [← Option.not_isSome_iff_eq_none]
  exact fun hsome => absurd ((h.lifecycle.ids id).mp hsome).2 (Nat.not_lt_of_le hle)

/-- A response is for a request that was issued. -/
theorem RunInv.ticket_of_response (h : RunInv s phase base) {p : Response}
    (hp : p ∈ s.shared.responses) : ∃ t, s.view.tickets p.requestId = some t := by
  have hsome := (h.lifecycle.ids p.requestId).mpr (h.lifecycle.response_ids p hp)
  obtain ⟨request, hfind⟩ := Option.isSome_iff_exists.mp hsome
  exact ⟨request.ticket, Option.map_eq_some_iff.mpr ⟨request, hfind, rfl⟩⟩

/-- Tickets are kept. -/
theorem RunInv.ticket_kept (h : RunInv s phase base) (hwrites : effect.Writes s.shared)
    (hshared : s'.shared = (s.popped scheduler).shared.apply effect) {id : RequestId} {t : Ticket}
    (ht : s.view.tickets id = some t) : s'.view.tickets id = some t := by
  obtain ⟨request, hfind, hticket⟩ := Option.map_eq_some_iff.mp ht
  obtain ⟨request', hfind', hsame⟩ := hwrites.ticket h.fresh hfind
  show (s'.shared.requestTable.find id).map Request.ticket = some t
  rw [hshared]
  exact Option.map_eq_some_iff.mpr ⟨request', hfind', hsame.trans hticket⟩

/-- The visits go on with those that the new responses end. -/
theorem RunInv.visits_append (h : RunInv s phase base) (hwrites : effect.Writes s.shared)
    (hshared : s'.shared = (s.popped scheduler).shared.apply effect) (nodeId : NodeId) :
    s'.visits nodeId =
      s.visits nodeId ++ effect.responses.filterMap (visitIn s'.view.tickets nodeId) := by
  have hresponses : s'.shared.responses = s.shared.responses ++ effect.responses := by
    rw [hshared]
    rfl
  unfold visits
  rw [hresponses, List.filterMap_append]
  congr 1
  refine List.filterMap_congr fun p hp => ?_
  obtain ⟨t, ht⟩ := h.ticket_of_response hp
  simp only [visitIn, ht, h.ticket_kept hwrites hshared ht]

/-- What is pending after a turn was pending before or is scheduled by it. -/
theorem Simulator.mem_pending_of_dispatched
    (hpop : s.shared.scheduler.popNext = some (event, scheduler))
    (hshared : s'.shared = (s.popped scheduler).shared.apply effect) {e : EventRecord}
    (he : e ∈ s'.view.pending) : e ∈ effect.events ∨ e ∈ s.view.pending := by
  obtain ⟨hpending, -⟩ := Scheduler.popNext_eq_some hpop
  have hin : e ∈ (scheduler.scheduleAll effect.events).pending := by
    have : s'.view.pending = (scheduler.scheduleAll effect.events).pending := by
      show s'.shared.scheduler.pending = _
      rw [hshared]
      rfl
    rwa [this] at he
  rcases Multiset.mem_add.mp (Multiset.mem_of_le (scheduler.scheduleAll_pending_le _) hin) with
    hnew | hold
  · exact Or.inl (Multiset.mem_coe.mp hnew)
  · refine Or.inr ?_
    show e ∈ s.shared.scheduler.pending
    rw [hpending]
    exact Multiset.mem_cons_of_mem hold

/-- A turn that has nothing to do with the node. -/
theorem Simulator.Visiting.frame (hv : s.Visiting nodeId) (h : RunInv s phase base)
    (hpop : s.shared.scheduler.popNext = some (event, scheduler))
    (hshared : s'.shared = (s.popped scheduler).shared.apply effect) (hconfig : s'.config = s.config)
    (hnodes : s'.computeNodes.find nodeId = s.computeNodes.find nodeId)
    (hwrites : effect.Writes s.shared)
    (htable : Stands nodeId s.shared.requestTable s'.shared.requestTable)
    (hresponses : ∀ p ∈ effect.responses, visitIn s'.view.tickets nodeId p = none)
    (hevents : ∀ e ∈ effect.events, e.type = .requestComplete ∨ e.type = .generateRequest →
      e.targetId ≠ nodeId) : s'.Visiting nodeId := by
  have hvisits : s'.visits nodeId = s.visits nodeId := by
    rw [h.visits_append hwrites hshared, List.filterMap_eq_nil_iff.mpr hresponses, List.append_nil]
  have hnow : s.shared.scheduler.currentTime ≤ s'.shared.scheduler.currentTime := by
    obtain ⟨-, hle, htime, -⟩ := h.popped_ordered hpop
    rw [hshared]
    show _ ≤ (scheduler.scheduleAll effect.events).currentTime
    rw [scheduleAll_currentTime, htime]
    exact hle
  refine ⟨?_, ?_, ?_, ?_⟩
  · rw [hvisits, hconfig]
    exact hv.inTime
  · rw [hvisits]
    exact fun v hmem => (hv.past v hmem).trans hnow
  · rw [hnodes]
    exact hv.noPlan
  · intro node hfind
    rw [hnodes] at hfind
    have hid : node.nodeId = nodeId := KeyedStore.key_of_find hfind
    rw [hvisits, hconfig]
    refine (hv.standing node hfind).frame (by rw [hid]; exact htable) fun e he htype htarget => ?_
    rcases mem_pending_of_dispatched hpop hshared he with hnew | hold
    · exact absurd (htarget.trans hid) (hevents e hnew htype)
    · exact hold

/-- What a compute node writes and answers are its own requests. -/
theorem RunInv.own_written (h : RunInv s phase base)
    (hpop : s.shared.scheduler.popNext = some (event, scheduler))
    (hfind : s.computeNodes.find event.targetId = some node)
    (hstep : ComputeNode.ComputeStep .exact node event (s.popped scheduler).shared node' effect) :
    (∀ written, effect.request = some written → written.sourceNodeId = event.targetId ∧
      ∀ old, s.shared.requestTable.find written.requestId = some old →
        old.sourceNodeId = event.targetId) ∧
    ∀ p ∈ effect.responses, ∃ t, s.view.tickets p.requestId = some t ∧
      t.sourceNodeId = event.targetId := by
  have hkey : node.nodeId = event.targetId := KeyedStore.key_of_find hfind
  -- the request of the event is one of the node
  have hown : event.type ≠ .generateRequest → event.type ≠ .requestComplete →
      ∀ request, s.shared.requestTable.find event.requestId = some request →
        request.sourceNodeId = event.targetId ∧
          (∀ old, s.shared.requestTable.find request.requestId = some old →
            old.sourceNodeId = event.targetId) ∧
          s.view.tickets request.requestId = some request.ticket := by
    intro hgenerate hcomplete request hrequest
    have hone := h.own_request hpop hfind hgenerate hcomplete hrequest
    have hsource := (of_outstandingWeight_eq_one hone).1
    have hmem := (KeyedStore.find_eq_some.mp hrequest).1
    refine ⟨hsource, fun old hold => ?_, (RunInv.ticket_of_mem hmem).2⟩
    rw [KeyedStore.key_of_find hrequest, hrequest] at hold
    cases hold
    exact hsource
  cases hstep with
  | drained | complete =>
      exact ⟨fun written hwritten => absurd hwritten (by simp), fun p hp => absurd hp List.not_mem_nil⟩
  | issue =>
      refine ⟨fun written hwritten => ?_, fun p hp => absurd hp List.not_mem_nil⟩
      cases hwritten
      refine ⟨hkey, fun old hold => ?_⟩
      cases (h.fresh _ (le_refl _)).symm.trans hold
  | hit htype hrequest | miss htype hrequest =>
      obtain ⟨hsource, hold, -⟩ := hown (by rw [htype]; decide) (by rw [htype]; decide) _ hrequest
      refine ⟨fun written hwritten => ?_, fun p hp => absurd hp List.not_mem_nil⟩
      cases hwritten
      exact ⟨hsource, hold⟩
  | hitComplete htype hrequest | returned htype hrequest =>
      obtain ⟨hsource, hold, hticket⟩ :=
        hown (by rw [htype]; decide) (by rw [htype]; decide) _ hrequest
      refine ⟨fun written hwritten => ?_, fun p hp => ?_⟩
      · cases hwritten
        exact ⟨hsource, hold⟩
      · rw [List.mem_singleton.mp hp]
        exact ⟨_, hticket, hsource⟩

/-- The turn of another node. -/
theorem Simulator.Visiting.other_node (hv : s.Visiting nodeId) (h : RunInv s phase base)
    (hpop : s.shared.scheduler.popNext = some (event, scheduler))
    (hfind : s.computeNodes.find event.targetId = some node) (hne : event.targetId ≠ nodeId)
    (hstep : ComputeNode.ComputeStep .exact node event (s.popped scheduler).shared node' effect) :
    ((s.popped scheduler).afterCompute event node' effect).Visiting nodeId := by
  have hkey : node.nodeId = event.targetId := KeyedStore.key_of_find hfind
  obtain ⟨hwritten, hanswered⟩ := h.own_written hpop hfind hstep
  have hwrites : effect.Writes s.shared := hstep.writes
  refine hv.frame h hpop rfl rfl ?_ hwrites ?_ (fun p hp => ?_) fun e he htype => ?_
  · show (s.computeNodes.insert node').find nodeId = _
    rw [KeyedStore.find_insert, if_neg]
    rw [(computeStep_stream hstep).1, hkey]
    exact fun heq => hne heq.symm
  · show Stands nodeId s.shared.requestTable ((s.popped scheduler).shared.apply effect).requestTable
    cases hrequest : effect.request with
    | none =>
        rw [Shared.table_of_none _ hrequest]
        exact stands_refl nodeId _
    | some written =>
        obtain ⟨hsource, hold⟩ := hwritten written hrequest
        rw [Shared.table_of_some _ hrequest]
        exact stands_insert_other (by rw [hsource]; exact hne) fun old hfind' => by
          rw [hold old hfind']
          exact hne
  · obtain ⟨t, ht, hsource⟩ := hanswered p hp
    exact visitIn_of_ne (h.ticket_kept hwrites rfl ht) (by rw [hsource]; exact hne)
  · rw [scheduled_target hstep he htype.symm, hkey]
    exact hne

/-- The turn of the memory node. -/
theorem Simulator.Visiting.memory (hv : s.Visiting nodeId) (h : RunInv s phase base)
    (hpop : s.shared.scheduler.popNext = some (event, scheduler)) {memoryNode : MemoryNode}
    (hstep : MemoryNode.MemoryStep .exact s.memoryNode event (s.popped scheduler).shared memoryNode
      effect) : ((s.popped scheduler).afterMemory event memoryNode effect).Visiting nodeId := by
  have hwrites : effect.Writes s.shared := hstep.writes
  have hmoved : ∀ {old written : Request}, s.shared.requestTable.find event.requestId = some old →
      old.Moved written → Stands nodeId s.shared.requestTable
        (s.shared.requestTable.insert written) := by
    intro old written hold hmove
    refine stands_insert_moved ?_ hmove
    rw [show written.requestId = old.requestId from congrArg Ticket.requestId hmove.1,
      KeyedStore.key_of_find hold]
    exact hold
  cases hstep with
  | forwardIdle htype hrequest =>
      refine hv.frame h hpop rfl rfl rfl hwrites (hmoved hrequest ⟨rfl, Or.inl rfl⟩)
        (fun p hp => absurd hp List.not_mem_nil) fun e he hboth => ?_
      rw [List.mem_singleton.mp he] at hboth
      rcases hboth with heq | heq <;> cases heq
  | forwardBusy htype hrequest =>
      exact hv.frame h hpop rfl rfl rfl hwrites (hmoved hrequest ⟨rfl, Or.inl rfl⟩)
        (fun p hp => absurd hp List.not_mem_nil) fun e he => absurd he List.not_mem_nil
  | start htype hrequest =>
      have hfetching := h.fetching hpop (Or.inr (Or.inl htype)) hrequest
      refine hv.frame h hpop rfl rfl rfl hwrites
        (hmoved hrequest ⟨rfl, Or.inr ⟨hfetching, Or.inr rfl⟩⟩)
        (fun p hp => absurd hp List.not_mem_nil) fun e he hboth => ?_
      rw [List.mem_singleton.mp he] at hboth
      rcases hboth with heq | heq <;> cases heq
  | completeIdle =>
      refine hv.frame h hpop rfl rfl rfl hwrites (stands_refl nodeId _)
        (fun p hp => absurd hp List.not_mem_nil) fun e he hboth => ?_
      rw [List.mem_singleton.mp he] at hboth
      rcases hboth with heq | heq <;> cases heq
  | completeNext =>
      refine hv.frame h hpop rfl rfl rfl hwrites (stands_refl nodeId _)
        (fun p hp => absurd hp List.not_mem_nil) fun e he hboth => ?_
      rcases List.mem_cons.mp he with rfl | hstart
      · rcases hboth with heq | heq <;> cases heq
      · rw [List.mem_singleton.mp hstart] at hboth
        rcases hboth with heq | heq <;> cases heq

/-- Where a request stands whose event a node handles before the answer or with it. -/
theorem Phase.of_pending {config : SimulationConfig} {t : Ticket} {phase : Phase} {e : EventRecord}
    (h : phase.pending config t = some e) :
    (e.type = .localCacheLookup → phase = .lookup) ∧
      (e.type = .localCacheHitComplete → phase = .hit) ∧
        (e.type = .returnResponse → ∃ start, phase = .returning start) := by
  cases phase <;> cases h <;>
    exact ⟨by simp [Ticket.computeEvent, Ticket.memoryEvent],
      by simp [Ticket.computeEvent, Ticket.memoryEvent],
      by simp [Ticket.computeEvent, Ticket.memoryEvent]⟩

/-- The phase of the request that an event is about waits for the event. -/
theorem RunInv.waits (h : RunInv s phase base)
    (hpop : s.shared.scheduler.popNext = some (event, scheduler))
    (hrequest : s.shared.requestTable.find event.requestId = some request) :
    (phase event.requestId).pending s.config request.ticket = some event.record ∧
      request.currentStage = (phase event.requestId).stage := by
  obtain ⟨-, -, -, -, hold⟩ := h.popped_ordered hpop
  exact ⟨h.lifecycle.pending_eq (e := event.record) (hold ▸ Multiset.mem_cons_self _ _)
    (show s.view.requestTable.find event.record.requestId = some request from hrequest),
    (h.lifecycle.tracks event.requestId request hrequest).stage⟩

/-- A lookup happens when its request is issued. -/
theorem RunInv.lookup_spec (h : RunInv s phase base)
    (hpop : s.shared.scheduler.popNext = some (event, scheduler))
    (htype : event.type = .localCacheLookup)
    (hrequest : s.shared.requestTable.find event.requestId = some request) :
    event.time = request.issueTime ∧ request.currentStage = .generated := by
  obtain ⟨hwaits, hstage⟩ := h.waits hpop hrequest
  have hphase := (Phase.of_pending hwaits).1 htype
  rw [hphase] at hwaits hstage
  exact ⟨(congrArg EventRecord.time (Option.some.inj hwaits)).symm, hstage⟩

/-- A hit is answered after the hit latency. -/
theorem RunInv.hit_spec (h : RunInv s phase base)
    (hpop : s.shared.scheduler.popNext = some (event, scheduler))
    (htype : event.type = .localCacheHitComplete)
    (hrequest : s.shared.requestTable.find event.requestId = some request) :
    event.time = request.issueTime + s.config.localCache.hitLatency ∧
      request.currentStage = .localLookup := by
  obtain ⟨hwaits, hstage⟩ := h.waits hpop hrequest
  have hphase := (Phase.of_pending hwaits).2.1 htype
  rw [hphase] at hwaits hstage
  exact ⟨(congrArg EventRecord.time (Option.some.inj hwaits)).symm, hstage⟩

/-- A response is back no earlier than the fetch takes. -/
theorem RunInv.fetch_spec (h : RunInv s phase base) (hlog : s.LogOrdered)
    (hpop : s.shared.scheduler.popNext = some (event, scheduler))
    (htype : event.type = .returnResponse)
    (hrequest : s.shared.requestTable.find event.requestId = some request) :
    request.issueTime + fetchTime s.config request.demand ≤ event.time := by
  obtain ⟨hwaits, -⟩ := h.waits hpop hrequest
  have hsorted := h.logged_sorted hlog (KeyedStore.find_eq_some.mp hrequest).1
  obtain ⟨start, hphase⟩ := (Phase.of_pending hwaits).2.2 htype
  rw [KeyedStore.key_of_find hrequest, hphase] at hsorted
  rw [hphase] at hwaits
  -- the request was served after it had arrived
  have htimes : [request.ticket.issueTime, request.ticket.arrival s.config, start,
      request.ticket.serviceEnd s.config start].Pairwise (· ≤ ·) := hsorted
  have harrival : request.issueTime + s.config.oneWayLinkLatency ≤ start := by
    have htail := (List.pairwise_cons.mp htimes).2
    exact (List.pairwise_cons.mp htail).1 start List.mem_cons_self
  have htime : event.time = start + (s.config.memoryBaseLatency +
      (request.sizeBytes + s.config.memoryBandwidthBytesPerTime - 1) /
        s.config.memoryBandwidthBytesPerTime) + s.config.oneWayLinkLatency :=
    (congrArg EventRecord.time (Option.some.inj hwaits)).symm
  rw [htime]
  show request.issueTime + (2 * s.config.oneWayLinkLatency + s.config.memoryBaseLatency +
    (request.sizeBytes + s.config.memoryBandwidthBytesPerTime - 1) /
      s.config.memoryBandwidthBytesPerTime) ≤ _
  lia

/-- Next to an unanswered request a node has neither a generate event nor a completion. -/
theorem RunInv.no_event_of_unanswered (h : RunInv s phase base)
    (hmode : issueModeOf s.config ≠ .scheduledBursty)
    (hfind : s.computeNodes.find nodeId = some node)
    (hmem : request ∈ s.shared.requestTable.items) (hone : outstandingWeight nodeId request = 1)
    {e : EventRecord} (he : e ∈ s.view.pending)
    (htype : e.type = .requestComplete ∨ e.type = .generateRequest) : e.targetId ≠ nodeId := by
  intro htarget
  have hload := h.load_le hmode hfind
  have hweight : 1 ≤ outstandingIn s.view.requestTable nodeId := by
    rw [← hone]
    exact KeyedStore.weight_le_total (outstandingWeight nodeId)
      (KeyedStore.find_eq_some.mpr ⟨hmem, rfl⟩)
  unfold load at hload
  rcases htype with heq | heq
  · have hcompletion : 0 < (completionsFor s.view.pending nodeId).card :=
      Multiset.card_pos_iff_exists_mem.mpr ⟨e, Multiset.mem_filter.mpr ⟨he, heq, htarget⟩⟩
    omega
  · have hgenerate : 0 < (generatesFor s.view.pending nodeId).card :=
      Multiset.card_pos_iff_exists_mem.mpr ⟨e, Multiset.mem_filter.mpr ⟨he, heq, htarget⟩⟩
    omega

theorem Occupied.outstanding {v : View} {capacityBytes : Nat} {visits : List Visit}
    (h : Occupied v capacityBytes visits node request) :
    outstandingWeight node.nodeId request = 1 :=
  outstandingWeight_eq_one h.source h.attending.ne_completed

/-- A node is occupied with the request that its event is about. -/
theorem Simulator.Visiting.occupied (hv : s.Visiting event.targetId) (h : RunInv s phase base)
    (hmode : issueModeOf s.config ≠ .scheduledBursty)
    (hpop : s.shared.scheduler.popNext = some (event, scheduler))
    (hfind : s.computeNodes.find event.targetId = some node)
    (hgenerate : event.type ≠ .generateRequest) (hcomplete : event.type ≠ .requestComplete)
    (hrequest : s.shared.requestTable.find event.requestId = some request) :
    Occupied s.view s.config.localCache.capacityBytes (s.visits event.targetId) node request := by
  have hkey : node.nodeId = event.targetId := KeyedStore.key_of_find hfind
  have hone := h.own_request hpop hfind hgenerate hcomplete hrequest
  obtain ⟨hsource, hstage⟩ := of_outstandingWeight_eq_one hone
  rcases hv.standing node hfind with hrest | ⟨other, hoccupied⟩
  · exact absurd (hrest.answered _ request hrequest (hsource.trans hkey.symm)) hstage
  · have hsame := h.eq_of_unanswered hmode hfind (KeyedStore.find_eq_some.mp hrequest).1 hone
      (KeyedStore.find_eq_some.mp hoccupied.find).1 (hoccupied.source.trans hkey)
      hoccupied.attending.ne_completed
    rw [← hsame]
    exact hoccupied

/-- A node with a generate event or a completion event is at rest. -/
theorem Simulator.Visiting.atRest (hv : s.Visiting nodeId) (h : RunInv s phase base)
    (hmode : issueModeOf s.config ≠ .scheduledBursty)
    (hfind : s.computeNodes.find nodeId = some node) {e : EventRecord} (he : e ∈ s.view.pending)
    (htype : e.type = .requestComplete ∨ e.type = .generateRequest) (htarget : e.targetId = nodeId) :
    AtRest s.view s.config.localCache.capacityBytes (s.visits nodeId) node := by
  rcases hv.standing node hfind with hrest | ⟨other, hoccupied⟩
  · exact hrest
  · have hone := hoccupied.outstanding
    rw [KeyedStore.key_of_find hfind] at hone
    exact absurd htarget (h.no_event_of_unanswered hmode hfind
      (KeyedStore.find_eq_some.mp hoccupied.find).1 hone he htype)

/-- What is left to show after a turn of the node. -/
theorem Simulator.Visiting.own (hv : s.Visiting event.targetId) (h : RunInv s phase base)
    (hpop : s.shared.scheduler.popNext = some (event, scheduler))
    (hfind : s.computeNodes.find event.targetId = some node)
    (hstep : ComputeNode.ComputeStep .exact node event (s.popped scheduler).shared node' effect)
    (visits : List Visit)
    (hvisits : ((s.popped scheduler).afterCompute event node' effect).visits event.targetId = visits)
    (hin : InTime s.config visits) (hpast : ∀ v ∈ visits, v.completionTime ≤ event.time)
    (hstanding : Standing ((s.popped scheduler).afterCompute event node' effect).view
      s.config.localCache.capacityBytes visits node') :
    ((s.popped scheduler).afterCompute event node' effect).Visiting event.targetId := by
  have hkey : node'.nodeId = event.targetId :=
    (computeStep_stream hstep).1.trans (KeyedStore.key_of_find hfind)
  have hnow : ((s.popped scheduler).afterCompute event node'
      effect).shared.scheduler.currentTime = event.time := by
    obtain ⟨-, -, htime, -⟩ := h.popped_ordered hpop
    exact (scheduleAll_currentTime _ _).trans htime
  have hnodes : ∀ other, ((s.popped scheduler).afterCompute event node' effect).computeNodes.find
      event.targetId = some other → other = node' := by
    intro other hother
    have hother' : (s.computeNodes.insert node').find event.targetId = some other := hother
    rw [KeyedStore.find_insert, if_pos hkey.symm] at hother'
    exact (Option.some.inj hother').symm
  refine ⟨hvisits ▸ hin, ?_, fun other hother => ?_, fun other hother => ?_⟩
  · rw [hvisits, hnow]
    exact hpast
  · rw [hnodes other hother, hstep.globalReplicaPlan_eq]
    exact hv.noPlan node hfind
  · rw [hnodes other hother, hvisits]
    exact hstanding

/-- An answered request of the node ends a visit, and the node is at rest. -/
theorem Simulator.Visiting.answer (hv : s.Visiting event.targetId) (h : RunInv s phase base)
    (hmode : issueModeOf s.config ≠ .scheduledBursty)
    (hpop : s.shared.scheduler.popNext = some (event, scheduler))
    (hfind : s.computeNodes.find event.targetId = some node)
    (hgenerate : event.type ≠ .generateRequest) (hcomplete : event.type ≠ .requestComplete)
    (hrequest : s.shared.requestTable.find event.requestId = some request)
    {localCache : LocalCache P} {outstanding : Nat}
    (hstep : ComputeNode.ComputeStep .exact node event (s.popped scheduler).shared
      { node with localCache := localCache, outstandingRequests := outstanding } effect)
    {written : Request} (hwritten : effect.request = some written)
    (hticket : written.ticket = request.ticket) (hstage : written.currentStage = .completed)
    {response : Response} (hresponses : effect.responses = [response])
    (hid : response.requestId = event.requestId) (htime : response.completionTime = event.time)
    (hevents : ∀ e ∈ effect.events, e.type = .requestComplete ∧ e.time = event.time)
    (htimed : (request.ticket.visit response).Timed s.config)
    (hvisited : LocalCache.Visited P .exact s.config.localCache.capacityBytes
      (s.visits event.targetId ++ [request.ticket.visit response]) localCache) :
    ((s.popped scheduler).afterCompute event
      { node with localCache := localCache, outstandingRequests := outstanding }
      effect).Visiting event.targetId := by
  have hkey : node.nodeId = event.targetId := KeyedStore.key_of_find hfind
  have hoccupied := hv.occupied h hmode hpop hfind hgenerate hcomplete hrequest
  have hone := hoccupied.outstanding
  rw [hkey] at hone
  have hmem := (KeyedStore.find_eq_some.mp hrequest).1
  have hrequestId : request.requestId = event.requestId := KeyedStore.key_of_find hrequest
  obtain ⟨-, hle, -⟩ := h.popped_ordered hpop
  have hend : (request.ticket.visit response).completionTime = event.time := htime
  -- the response is for a request of the node
  have hvisits : ((s.popped scheduler).afterCompute event
      { node with localCache := localCache, outstandingRequests := outstanding }
      effect).visits event.targetId =
      s.visits event.targetId ++ [request.ticket.visit response] := by
    have hkept : ((s.popped scheduler).afterCompute event
        { node with localCache := localCache, outstandingRequests := outstanding }
        effect).view.tickets response.requestId = some request.ticket := by
      refine h.ticket_kept (hstep.writes) rfl ?_
      rw [hid, ← hrequestId]
      exact (RunInv.ticket_of_mem hmem).2
    rw [h.visits_append hstep.writes rfl, hresponses, List.filterMap_cons,
      visitIn_of_source hkept (hoccupied.source.trans hkey), List.filterMap_nil]
  refine hv.own h hpop hfind hstep _ hvisits (hv.inTime.snoc htimed hoccupied.next) ?_ (Or.inl ?_)
  · intro v hv'
    rcases List.mem_append.mp hv' with hold | hnew
    · exact (hv.past v hold).trans hle
    · rw [List.mem_singleton.mp hnew, hend]
  · refine hoccupied.answer outstanding rfl hvisited (fun id other hother hsource => ?_)
      (fun e he htype htarget => ?_) fun e he htype htarget => ?_
    · -- the other requests of the node had been answered before
      have htable : ((s.popped scheduler).shared.apply effect).requestTable.find id = some other :=
        hother
      rw [Shared.table_of_some _ hwritten, KeyedStore.find_insert] at htable
      split at htable
      · cases htable
        exact hstage
      · next hne =>
          by_contra hnot
          have hsame := h.eq_of_unanswered hmode hfind hmem hone
            (KeyedStore.find_eq_some.mp htable).1 (hsource.trans hkey) hnot
          refine hne ?_
          rw [show written.requestId = request.requestId from congrArg Ticket.requestId hticket,
            ← hsame]
          exact (KeyedStore.key_of_find htable).symm
    · rcases mem_pending_of_dispatched hpop rfl he with hnew | hold
      · exact (hevents e hnew).2.trans hend.symm
      · exact absurd (htarget.trans hkey)
          (h.no_event_of_unanswered hmode hfind hmem hone hold (Or.inl htype))
    · rcases mem_pending_of_dispatched hpop rfl he with hnew | hold
      · cases htype.symm.trans (hevents e hnew).1
      · exact absurd (htarget.trans hkey)
          (h.no_event_of_unanswered hmode hfind hmem hone hold (Or.inr htype))

/-- The turn of the node. -/
theorem Simulator.Visiting.own_node (hv : s.Visiting event.targetId) (h : RunInv s phase base)
    (hlog : s.LogOrdered) (hmode : issueModeOf s.config ≠ .scheduledBursty)
    (hpop : s.shared.scheduler.popNext = some (event, scheduler))
    (hfind : s.computeNodes.find event.targetId = some node)
    (hstep : ComputeNode.ComputeStep .exact node event (s.popped scheduler).shared node' effect) :
    ((s.popped scheduler).afterCompute event node' effect).Visiting event.targetId := by
  have hkey : node.nodeId = event.targetId := KeyedStore.key_of_find hfind
  obtain ⟨-, hle, hnow, -, hold⟩ := h.popped_ordered hpop
  have hpending : event.record ∈ s.view.pending := hold ▸ Multiset.mem_cons_self _ _
  have hpast : ∀ v ∈ s.visits event.targetId, v.completionTime ≤ event.time := fun v hmem =>
    (hv.past v hmem).trans hle
  have hkeeps : ∀ {node₁ : ComputeNode P} {effect : Effect}, effect.responses = [] →
      effect.Writes s.shared →
      ((s.popped scheduler).afterCompute event node₁ effect).visits event.targetId =
        s.visits event.targetId := by
    intro node₁ effect hnone hwrites
    rw [h.visits_append hwrites rfl, hnone, List.filterMap_nil, List.append_nil]
  have hfinish := hv.own h hpop hfind hstep (s.visits event.targetId)
  cases hstep with
  | drained htype =>
      refine hfinish (hkeeps rfl (Effect.writes_none rfl)) hv.inTime hpast ?_
      refine (hv.standing node hfind).frame (stands_refl _ _) fun e he _ _ => ?_
      exact (mem_pending_of_dispatched hpop rfl he).resolve_left List.not_mem_nil
  | @issue spec htype hup =>
      have hrest := hv.atRest h hmode hfind hpending (Or.inr htype) rfl
      refine hfinish (hkeeps rfl (ComputeNode.ComputeStep.issue htype hup).writes) hv.inTime
        hpast (Or.inr ⟨node.requestFor s.shared.nextRequestId spec event.time, ?_⟩)
      exact hrest.issue (hv.noPlan node hfind) hup hpending htype hkey.symm s.shared.stats
        (KeyedStore.find_insert_self s.shared.requestTable
          (node.requestFor s.shared.nextRequestId spec event.time))
  | @hit request htype hrequest hhit =>
      have hoccupied := hv.occupied h hmode hpop hfind (by rw [htype]; decide)
        (by rw [htype]; decide) hrequest
      obtain ⟨htime, hstage⟩ := h.lookup_spec hpop htype hrequest
      refine hfinish (hkeeps rfl (ComputeNode.ComputeStep.hit htype hrequest hhit).writes)
        hv.inTime hpast (Or.inr ⟨ComputeNode.lookedUp request, ?_⟩)
      exact hoccupied.lookup hstage htime s.shared.stats rfl
        (KeyedStore.find_insert_self s.shared.requestTable (ComputeNode.lookedUp request))
        (Or.inl ⟨hhit, rfl⟩)
  | @miss request htype hrequest hmiss =>
      have hoccupied := hv.occupied h hmode hpop hfind (by rw [htype]; decide)
        (by rw [htype]; decide) hrequest
      obtain ⟨htime, hstage⟩ := h.lookup_spec hpop htype hrequest
      refine hfinish (hkeeps rfl (ComputeNode.ComputeStep.miss htype hrequest hmiss).writes)
        hv.inTime hpast (Or.inr ⟨{ request with currentStage := .forwardedToMemory }, ?_⟩)
      exact hoccupied.lookup hstage htime s.shared.stats rfl
        (KeyedStore.find_insert_self s.shared.requestTable
          { request with currentStage := .forwardedToMemory })
        (Or.inr ⟨hmiss, Or.inl rfl⟩)
  | @hitComplete request htype hrequest hout =>
      obtain ⟨htime, hstage⟩ := h.hit_spec hpop htype hrequest
      have hoccupied := hv.occupied h hmode hpop hfind (by rw [htype]; decide)
        (by rw [htype]; decide) hrequest
      refine hv.answer h hmode hpop hfind (by rw [htype]; decide) (by rw [htype]; decide) hrequest
        (.hitComplete htype hrequest hout) rfl rfl rfl rfl
        (show request.requestId = event.requestId from KeyedStore.key_of_find hrequest) rfl
        (fun e he => ?_) ⟨fun _ => htime, fun htier => ?_⟩ ?_
      · rw [List.mem_singleton.mp he]
        exact ⟨rfl, rfl⟩
      · cases htier
      · exact hoccupied.attending.visited_hit hstage rfl rfl rfl
  | @returned request htype hrequest hout =>
      have hoccupied := hv.occupied h hmode hpop hfind (by rw [htype]; decide)
        (by rw [htype]; decide) hrequest
      have hfetched := h.fetch_spec hlog hpop htype hrequest
      refine hv.answer h hmode hpop hfind (by rw [htype]; decide) (by rw [htype]; decide) hrequest
        (.returned htype hrequest hout) rfl rfl rfl rfl
        (show request.requestId = event.requestId from KeyedStore.key_of_find hrequest) rfl
        (fun e he => ?_) ⟨fun htier => ?_, fun _ => hfetched⟩ ?_
      · rw [List.mem_singleton.mp he]
        exact ⟨rfl, rfl⟩
      · cases htier
      · exact hoccupied.attending.visited_miss (h.fetching hpop (Or.inr (Or.inr htype)) hrequest)
          (w := request.ticket.visit (ComputeNode.memoryResponse .exact request event.time)) rfl
          rfl rfl _
  | complete htype =>
      have hrest := hv.atRest h hmode hfind hpending (Or.inl htype) rfl
      refine hfinish (hkeeps rfl (Effect.writes_none rfl)) hv.inTime hpast (Or.inl ?_)
      refine hrest.complete rfl hpending htype hkey.symm fun r hr => ?_
      have hcases := mem_pending_of_dispatched hpop rfl hr
      rw [show (s.popped scheduler).shared.scheduler.now = event.time from hnow] at hcases
      exact hcases

/-- No dispatch breaks what holds of the visits of a node. -/
theorem RunInv.visiting_dispatched (h : RunInv s phase base) (hlog : s.LogOrdered)
    (hmode : issueModeOf s.config ≠ .scheduledBursty) (hv : s.Visiting nodeId)
    (hpop : s.shared.scheduler.popNext = some (event, scheduler))
    (hdispatched : Dispatched .exact (s.popped scheduler) event s') : s'.Visiting nodeId := by
  cases hdispatched with
  | compute hfind hstep =>
      by_cases htarget : event.targetId = nodeId
      · subst htarget
        exact hv.own_node h hlog hmode hpop hfind hstep
      · exact hv.other_node h hpop hfind htarget hstep
  | memory hfind htarget hstep => exact hv.memory h hpop hstep

-- ============================================================================
-- The release of an epoch
-- ============================================================================

theorem Simulator.exists_ticket_of_visit {v : Visit} (hv : v ∈ s.visits nodeId) :
    ∃ id t, s.view.tickets id = some t ∧ v.demand = t.demand := by
  obtain ⟨p, -, hvisit⟩ := List.mem_filterMap.mp hv
  unfold visitIn at hvisit
  cases ht : s.view.tickets p.requestId with
  | none =>
      rw [ht] at hvisit
      cases hvisit
  | some t =>
      simp only [ht] at hvisit
      split at hvisit
      · cases hvisit
        exact ⟨p.requestId, t, ht, rfl⟩
      · cases hvisit

/-- The visits so far were in earlier epochs than the next. -/
theorem RunInv.visit_epoch_lt (h : RunInv s phase base) {epoch : EpochId}
    (hnext : s.nextUnreleasedEpoch = some epoch) {v : Visit} (hmem : v ∈ s.visits nodeId) :
    v.demand.epochId < epoch := by
  obtain ⟨id, t, ht, hdemand⟩ := exists_ticket_of_visit hmem
  obtain ⟨released, hreleased, hle, -⟩ := h.barrier id t ht
  obtain ⟨-, -, -, hunreleased⟩ := s.nextUnreleasedEpoch_spec.mem epoch hnext
  have hlt := hunreleased released hreleased
  have hvisit : v.demand.epochId = t.epochId := congrArg Demand.epochId hdemand
  lia

/-- Once nothing is pending the node has answered its last request. -/
theorem Simulator.Visiting.atRest_of_drained (hv : s.Visiting nodeId) (h : RunInv s phase base)
    (hnil : s.view.pending = 0) (hfind : s.computeNodes.find nodeId = some node) :
    AtRest s.view s.config.localCache.capacityBytes (s.visits nodeId) node := by
  rcases hv.standing node hfind with hrest | ⟨request, hoccupied⟩
  · exact hrest
  · exact absurd (h.completed_of_drained hnil hoccupied.find) hoccupied.attending.ne_completed

/-- The release of an epoch starts a node after its last visit, which was in an earlier
    epoch. -/
theorem Simulator.Visiting.release (hv : s.Visiting nodeId) (h : RunInv s phase base) :
    (releaseNextEpochIfReady .exact s).Visiting nodeId := by
  refine release_preserves hv fun epoch hdrained hnext => ?_
  have hnil : s.view.pending = 0 := hdrained.1
  have hnow : (s.afterRelease .exact epoch).shared.scheduler.currentTime =
      s.shared.scheduler.currentTime := scheduleAll_currentTime _ _
  refine ⟨hv.inTime, ?_, hv.noPlan, fun node hfind => ?_⟩
  · rw [hnow]
    exact hv.past
  have hfind' : s.computeNodes.find nodeId = some node := hfind
  have hkey : node.nodeId = nodeId := KeyedStore.key_of_find hfind'
  have hrest := hv.atRest_of_drained h hnil hfind'
  -- what is pending now starts nodes on the epoch
  have hstarts : ∀ e ∈ (s.afterRelease .exact epoch).view.pending, ∃ nodeConfig,
      s.releaseEvent .exact epoch s.shared.scheduler.currentTime nodeConfig = some e := by
    intro e he
    rcases Multiset.mem_add.mp (Multiset.mem_of_le (Scheduler.scheduleAll_pending_le _ _) he) with
      hnew | hold
    · obtain ⟨nodeConfig, -, hevent⟩ := List.mem_filterMap.mp (Multiset.mem_coe.mp hnew)
      exact ⟨nodeConfig, hevent⟩
    · rw [show s.shared.scheduler.pending = 0 from hnil] at hold
      exact absurd hold (Multiset.notMem_zero e)
  refine Or.inl ⟨hrest.answered, hrest.visited, hrest.epoch, hrest.issued, ?_, ?_⟩
  · intro e he htype _
    obtain ⟨nodeConfig, hevent⟩ := hstarts e he
    cases (releaseEvent_generates hevent).1.symm.trans htype
  · intro e he _ htarget spec hup v hlast
    obtain ⟨nodeConfig, hevent⟩ := hstarts e he
    have hid : nodeConfig.nodeId = nodeId :=
      (releaseEvent_generates hevent).2.1.symm.trans (htarget.trans hkey)
    obtain ⟨node', hnode', hawaits, htime⟩ := releaseEvent_time hevent
    obtain rfl : node' = node := Option.some.inj (hnode'.symm.trans (hid ▸ hfind'))
    have hmem : v ∈ s.visits nodeId := List.mem_of_getLast? hlast
    have hepoch : spec.epochId = epoch :=
      Option.some.inj ((RunInv.nextRequestEpoch_of_upcoming hup).symm.trans hawaits)
    refine ⟨?_, fun hsame => ?_⟩
    · rw [htime]
      exact (hv.past v hmem).trans (Nat.le_add_right _ _)
    · -- the last visit was in an epoch released before
      have hlt := h.visit_epoch_lt hnext hmem
      lia

end Turn

-- ============================================================================
-- Runs
-- ============================================================================

section Runs

variable {P : CachePolicy} {config : SimulationConfig}
  {generatedWorkload : Option GeneratedWorkload}

theorem Simulator.visiting_init (hpolicy : config.localCache.policyType ≠ .globalHottestReplication)
    (nodeId : NodeId) : (ofConfig P config generatedWorkload).Visiting nodeId := by
  have hnode : ∀ node, (ofConfig P config generatedWorkload).computeNodes.find nodeId = some node →
      ∃ nodeConfig, node = makeComputeNode P config none nodeConfig := by
    intro node hfind
    have hnodes : (ofConfig P config generatedWorkload).computeNodes =
        emplaceNodes P config none := by
      unfold ofConfig
      simp only [hpolicy, decide_false, Bool.false_eq_true, if_false]
    rw [hnodes] at hfind
    obtain ⟨nodeConfig, -, heq⟩ :=
      (emplaceNodes_spec P config none).1 node (KeyedStore.find_eq_some.mp hfind).1
    exact ⟨nodeConfig, heq⟩
  refine ⟨inTime_nil config, fun v hv => absurd hv List.not_mem_nil, fun node hfind => ?_,
    fun node hfind => Or.inl ?_⟩
  · obtain ⟨nodeConfig, rfl⟩ := hnode node hfind
    rfl
  · obtain ⟨nodeConfig, rfl⟩ := hnode node hfind
    refine ⟨fun id request hrequest => ?_, .start, rfl, rfl, fun e he => ?_, fun e he => ?_⟩
    · cases hrequest
    · exact absurd he (Multiset.notMem_zero e)
    · exact absurd he (Multiset.notMem_zero e)

/-- What holds of the visits of a node in every reachable state. -/
theorem Simulator.visiting_of_reachable (hprepared : Prepared config)
    (hmode : issueModeOf config ≠ .scheduledBursty)
    (hpolicy : config.localCache.policyType ≠ .globalHottestReplication) {t : Simulator P}
    (ht : Reachable .exact (ofConfig P config generatedWorkload) t) (nodeId : NodeId) :
    t.Visiting nodeId := by
  have hall : TurnInv t ∧ t.LogOrdered ∧ t.config = config ∧ t.Visiting nodeId := by
    refine Run.invariant_of_reaches
      (fun t => TurnInv t ∧ t.LogOrdered ∧ t.config = config ∧ t.Visiting nodeId) ?_ ?_ ht
    · rintro a b ⟨hturn, hlog, hconfig, hv⟩ hmove
      refine ⟨turnInv_move hturn hmove, logOrdered_move hturn hlog hmove,
        (move_spec hmove).1.trans hconfig, ?_⟩
      obtain ⟨⟨phase, base, hrun⟩, -⟩ := hturn
      obtain ⟨event, scheduler, s', hpop, hdispatched, rfl⟩ := moves_iff.mp hmove
      obtain ⟨phase', hrun'⟩ := hrun.of_dispatched hpop hdispatched
      exact (hrun.visiting_dispatched hlog (hconfig ▸ hmode) hv hpop hdispatched).release hrun'
    · have hstart : Reachable .exact (ofConfig P config generatedWorkload)
          (releaseNextEpochIfReady .exact (ofConfig P config generatedWorkload)) :=
        Relation.ReflTransGen.refl
      exact ⟨turnInv_init hprepared, logOrdered_of_reachable hprepared hstart,
        config_of_reaches hstart, (visiting_init hpolicy nodeId).release
          (runInv_init P hprepared generatedWorkload fun _ => .lookup)⟩
  exact hall.2.2.2

/-- At the end of a run a node has made one visit for each request of its stream. -/
theorem Simulator.RunsTo.visits_spec (hprepared : Prepared config)
    (hmode : issueModeOf config ≠ .scheduledBursty)
    (hpolicy : config.localCache.policyType ≠ .globalHottestReplication) {final : Simulator P}
    (h : RunsTo .exact (ofConfig P config generatedWorkload) final)
    {nodeConfig : ComputeNodeConfig} (hnode : nodeConfig ∈ config.computeNodes) :
    InTime config (final.visits nodeConfig.nodeId) ∧
      (final.visits nodeConfig.nodeId).map Visit.demand =
        nodeConfig.requests.map RequestSpec.demand ∧
      ∃ cache, LocalCache.Visited P .exact config.localCache.capacityBytes
        (final.visits nodeConfig.nodeId) cache := by
  have hv := visiting_of_reachable hprepared hmode hpolicy h.reaches nodeConfig.nodeId
  obtain ⟨⟨phase, base, hrun⟩, hsettled⟩ := turnInv_of_reachable hprepared h.reaches
  have hconfig := config_of_reaches h.reaches
  have hconfig' : final.config = config := hconfig
  have hnil : final.view.pending = 0 := halted_iff.mp h.halted
  obtain ⟨node, hfind⟩ := hrun.present nodeConfig (hconfig'.symm ▸ hnode)
  obtain ⟨hinv, hkey⟩ := hrun.node_of_find hfind
  have hin := hv.inTime
  have hrest := hv.atRest_of_drained hrun hnil hfind
  rw [hconfig'] at hin hrest
  -- the node has issued its whole stream
  have hend : node.workload.requests.take node.workload.nextIndex = node.workload.requests :=
    List.take_of_length_le (List.getElem?_eq_none_iff.mp
      (hsettled hnil node (KeyedStore.find_eq_some.mp hfind).1))
  obtain ⟨nodeConfig', hnode', hid', hrequests⟩ := hinv.configured
  rw [hconfig'] at hnode'
  obtain rfl : nodeConfig' = nodeConfig :=
    List.inj_on_of_nodup_map hprepared.nodeIds_nodup hnode' hnode (hid'.symm.trans hkey)
  refine ⟨hin, ?_, node.localCache, hrest.visited⟩
  rw [hrest.issued, hend, hrequests]

end Runs

end DmSimulator
