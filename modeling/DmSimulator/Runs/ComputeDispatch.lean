/-
  DmSimulator.Runs.ComputeDispatch

  What the compute nodes do to the invariant of a run: they issue requests, look
  them up, answer hits and responses, and process completions.
-/
import DmSimulator.Runs.Invariant

namespace DmSimulator

namespace RunInv

variable {P : CachePolicy} {s : Simulator P} {phase phase' : RequestId → Phase} {base : SimTime}
  {event : Event} {scheduler : Scheduler}

theorem coe_toList (o : Option EventRecord) :
    (o.toList : Multiset EventRecord) = o.elim 0 (fun e => {e}) := by
  cases o <;> rfl

theorem coe_cons_add (first : EventRecord) (records : List EventRecord)
    (rest : Multiset EventRecord) :
    ((first :: records : List EventRecord) : Multiset EventRecord) + rest =
      records + first ::ₘ rest := by
  rw [← Multiset.cons_coe, Multiset.cons_add, Multiset.add_cons]

/-- Requests keep their tickets when a new one is stored under a fresh id. -/
theorem tickets_insert_new (h : Lifecycle s.config s.view phase) {request : Request}
    (hid : request.requestId = s.shared.nextRequestId) {v' : View}
    (htable : v'.requestTable = s.shared.requestTable.insert request) {id : RequestId}
    {t : Ticket} :
    (s.view.tickets id = some t → v'.tickets id = some t ∧ id ≠ s.shared.nextRequestId) ∧
      (v'.tickets id = some t → s.view.tickets id = some t ∨
        t = request.ticket ∧ id = s.shared.nextRequestId) := by
  have hupdates := updates_insert s.shared.requestTable request id
  unfold View.tickets
  rw [htable, hupdates, hid]
  by_cases heq : id = s.shared.nextRequestId
  · rw [if_pos heq]
    refine ⟨fun ht => ?_, fun ht => Or.inr ⟨(Option.some.inj ht).symm, heq⟩⟩
    cases hfind : s.view.requestTable.find id with
    | none => simp [hfind] at ht
    | some old =>
        have hrange := (h.ids id).mp (by rw [hfind]; rfl)
        rw [heq] at hrange
        exact absurd hrange.2 (Nat.lt_irrefl _)
  · rw [if_neg heq]
    exact ⟨fun ht => ⟨ht, heq⟩, fun ht => Or.inl ht⟩

/-- A `GenerateRequest` event issues the next request of its node. -/
theorem dispatch_generate (h : RunInv s phase base)
    (hpop : s.shared.scheduler.popNext = some (event, scheduler))
    (hzero : event.requestId = 0) :
    ∃ s' phase', Simulator.Dispatched .exact (s.popped scheduler) event s' ∧
      RunInv s' phase' base := by
  obtain ⟨-, -, -, -, hold⟩ := h.popped_ordered hpop
  have hmem : event.record ∈ s.view.pending := by
    rw [hold]
    exact Multiset.mem_cons_self _ _
  obtain ⟨htype, node, hfind⟩ := h.generates event.record hmem hzero
  obtain ⟨hnode, hkey⟩ := h.node_of_find hfind
  have hdue := hnode.due_of_generate hmem htype hkey.symm
  obtain ⟨spec, hup, hreleased⟩ := ComputeNode.due_iff.mp hdue
  have hids : ∀ id t, s.view.tickets id = some t → id < s.shared.nextRequestId := by
    intro id t ht
    have hsome : (s.view.requestTable.find id).isSome := by
      unfold View.tickets at ht
      rw [Option.map_eq_some_iff] at ht
      obtain ⟨request, hrequest, -⟩ := ht
      rw [hrequest]
      rfl
    exact ((h.lifecycle.ids id).mp hsome).2
  have hnone : s.shared.requestTable.find s.shared.nextRequestId = none := by
    rw [← Option.not_isSome_iff_eq_none]
    exact fun hsome => Nat.lt_irrefl _ ((h.lifecycle.ids s.shared.nextRequestId).mp hsome).2
  have hissue := h.lifecycle.issue hold hzero
    (node.requestFor s.shared.nextRequestId spec event.time) rfl rfl
  have hburst : ∀ r ∈ ((node.afterIssue .exact s.shared.stats spec event.time).nextBurst
      .exact).toList, event.time ≤ r.time ∧ r.type = .generateRequest ∧
        r.targetId = node.nodeId ∧ r.requestId = 0 := by
    intro r hr
    obtain ⟨hgenerate, htarget, hinvalid, -⟩ := ComputeNode.mem_nextBurst hr
    rw [Option.mem_toList] at hr
    exact ⟨hnode.nextBurst_future h.prepared hmem htype hkey.symm hup s.shared.stats hr, hgenerate,
      htarget, hinvalid⟩
  refine ⟨_, Function.update phase s.shared.nextRequestId .lookup,
    .compute hfind (.issue htype hup), ?_⟩
  refine h.compute hpop (some node.nodeId) hfind
    (by rw [show event.type = _ from htype]; simp) ?_ ?_ ?_ ?_ ⟨?_, ?_, ?_⟩ ?_ ?_ ?_ ?_ rfl rfl
  · intro r hr
    rcases List.mem_cons.mp hr with rfl | hr
    · exact le_refl _
    · exact (hburst r hr).1
  · intro r hr _
    rcases List.mem_cons.mp hr with rfl | hr
    · rfl
    · exact (hburst r hr).2.2.1
  · intro r hr hzero'
    rcases List.mem_cons.mp hr with rfl | hr
    · have hpos := h.issued
      have hzero'' : s.shared.nextRequestId = 0 := hzero'
      lia
    · exact ⟨(hburst r hr).2.1, (hburst r hr).2.2.1⟩
  · have hschedule := hissue.schedule
      (((node.afterIssue .exact s.shared.stats spec event.time).nextBurst
        .exact).toList : Multiset EventRecord) fun r hr => (hburst r hr).2.2.2
    unfold View.after
    rw [coe_cons_add, List.append_nil]
    exact hschedule
  · intro id t ht
    exact ((tickets_insert_new h.lifecycle rfl rfl).1 ht).1
  · intro id t ht
    rcases (tickets_insert_new h.lifecycle rfl rfl).2 ht with hsame | ⟨rfl, rfl⟩
    · exact Or.inl hsame
    · refine Or.inr ⟨rfl, ?_, hreleased⟩
      unfold places
      rw [Function.update_self]
      rfl
  · intro id t ht hended
    rw [Function.update_of_ne (Nat.ne_of_lt (hids id t ht))]
    exact hended
  · intro nodeId hsome
    exact (Option.some.inj hsome).symm
  · intro id t ht
    unfold places
    rw [Function.update_of_ne (Nat.ne_of_lt (hids id t ht))]
  · intro nodeId hne
    have hnew := outstandingIn_insert_new
      (node.requestFor s.shared.nextRequestId spec event.time) hnone nodeId
    refine hnew.trans ?_
    unfold outstandingWeight
    rw [if_neg fun hboth => hne hboth.1.symm]
    rfl
  · refine hnode.issue h.prepared hids hold htype hkey.symm hup s.shared.stats rfl
      (show EventRecord.type
        { time := event.time, type := .localCacheLookup, targetId := node.nodeId,
          requestId := s.shared.nextRequestId } = _ from rfl) ?_
    rw [← coe_toList]
    exact coe_cons_add _ _ _

/-- A request moves on at its compute node. -/
theorem advance (h : RunInv s phase base)
    (hpop : s.shared.scheduler.popNext = some (event, scheduler)) (hid : event.requestId ≠ 0)
    {request : Request} (hrequest : s.shared.requestTable.find event.requestId = some request)
    {node node' : ComputeNode P} (hfind : s.computeNodes.find event.targetId = some node)
    (hsource : request.sourceNodeId = node.nodeId) (htype : event.type ≠ .forwardToMemory)
    {effect : Effect} (hissued : effect.issued = 0) (phase' : Phase)
    (hphase : (phase event.requestId).pending s.config request.ticket = some event.record)
    (hplace : phase'.place = (phase event.requestId).place)
    (hticket : (effect.request.getD request).ticket = request.ticket)
    (hlogged : phase'.logged s.config request.ticket =
      (phase event.requestId).logged s.config request.ticket ++ [event.record])
    (hanswers : phase'.answers s.config request.ticket =
      (phase event.requestId).answers s.config request.ticket ++ effect.responses)
    (hresponses : ∀ p ∈ effect.responses, p.requestId = event.requestId)
    (hstage : (effect.request.getD request).currentStage = phase'.stage)
    (henqueued : phase'.Arrived →
      (effect.request.getD request).memoryEnqueueTime = request.ticket.arrival s.config)
    (extra : Multiset EventRecord)
    (hevents : (effect.events : Multiset EventRecord) =
      extra + (phase'.pending s.config request.ticket).elim 0 (fun e => {e}))
    (hextra : ∀ r ∈ extra, r.requestId = 0 ∧ r.type = .generateRequest ∧
      r.targetId = node.nodeId)
    (hfuture : ∀ r ∈ effect.events, event.time ≤ r.time)
    (hnode : NodeInv s.config (s.view.after event.record scheduler.pending effect)
      s.releasedEpoch base node')
    (hid' : node'.nodeId = node.nodeId)
    (hindex : node'.workload.nextIndex = node.workload.nextIndex) :
    RunInv ((s.popped scheduler).afterCompute event node' effect)
      (Function.update phase event.requestId phase') base := by
  obtain ⟨-, -, -, -, hold⟩ := h.popped_ordered hpop
  have hkey : request.requestId = event.requestId := KeyedStore.key_of_find hrequest
  -- each new event is an extra one or the one the request waits for next
  have hmem : ∀ r ∈ effect.events, r ∈ extra ∨
      phase'.pending s.config request.ticket = some r := by
    intro r hr
    have hr' : r ∈ (effect.events : Multiset EventRecord) := hr
    rw [hevents] at hr'
    rcases Multiset.mem_add.mp hr' with hin | hin
    · exact Or.inl hin
    · right
      cases hp : phase'.pending s.config request.ticket with
      | none => simp [hp] at hin
      | some e =>
          rw [hp, Option.elim_some, Multiset.mem_singleton] at hin
          rw [hin]
  have hkeeps : Keeps s (s.view.after event.record scheduler.pending effect) phase
      (Function.update phase event.requestId phase') none := by
    refine keeps_process (e := event.record) hrequest hphase hticket ?_
    intro id hne hended
    rw [Function.update_of_ne (show id ≠ event.requestId from hne)]
    exact hended
  refine h.compute hpop none hfind htype hfuture ?_ ?_ ?_ hkeeps ?_ ?_ ?_ hnode hid' ?_
  · intro r hr htype'
    rcases hmem r hr with hin | hp
    · exact (hextra r hin).2.2
    · obtain ⟨-, hgenerate, hcomplete⟩ := Phase.pending_spec hp
      rcases htype' with heq | heq
      · exact absurd heq hgenerate
      · exact (hcomplete heq).trans hsource
  · intro r hr hzero
    rcases hmem r hr with hin | hp
    · exact (hextra r hin).2
    · have heq := (Phase.pending_spec hp).1
      rw [hzero] at heq
      exact absurd (hkey.symm.trans heq.symm) hid
  · exact h.lifecycle.process_events hold hrequest hissued phase' hticket hlogged hanswers
      hresponses hstage henqueued extra (fun r hr => (hextra r hr).1) hevents
  · intro nodeId hnone
    cases hnone
  · intro id t _
    rw [places_update]
    by_cases heq : id = event.requestId
    · rw [heq, Function.update_self, hplace]
      rfl
    · rw [Function.update_of_ne heq]
  · intro nodeId hne
    have hzero : ∀ r : Request, r.ticket = request.ticket → outstandingWeight nodeId r = 0 := by
      intro r hr
      unfold outstandingWeight
      have hsource' : r.sourceNodeId = node.nodeId :=
        (congrArg Ticket.sourceNodeId hr).trans hsource
      rw [if_neg fun hboth => hne (hboth.1.symm.trans hsource')]
    unfold View.after
    cases hwrite : effect.request with
    | none => rfl
    | some request' =>
        rw [hwrite] at hticket
        have hkey' : request'.requestId = event.requestId :=
          (congrArg Ticket.requestId hticket).trans hkey
        have hinsert := outstandingIn_insert hrequest hkey' nodeId
        rw [hzero request rfl, hzero request' hticket] at hinsert
        exact hinsert
  · rw [hissued]
    exact hindex

section Own

variable {node : ComputeNode P} {e r : EventRecord} {rest : Multiset EventRecord}
  {request request' : Request} {effect : Effect}

/-- The node of a request that moves on, as long as its load stays the same. -/
theorem own_frame (hnode : NodeInv s.config s.view s.releasedEpoch base node)
    (hpending : s.view.pending = e ::ₘ rest) (hgenerate : e.type ≠ .generateRequest)
    (hcomplete : e.type ≠ .requestComplete)
    (hrequest : s.view.requestTable.find e.requestId = some request)
    (hwrite : effect.request = some request') (hticket : request'.ticket = request.ticket)
    (hevents : effect.events = [r]) (hgenerate' : r.type ≠ .generateRequest)
    (hload : outstandingIn (s.view.after e rest effect).requestTable node.nodeId +
        (completionsFor {r} node.nodeId).card =
      outstandingIn s.view.requestTable node.nodeId)
    (localCache : LocalCache P) :
    NodeInv s.config (s.view.after e rest effect) s.releasedEpoch base
      { node with
        localCache := localCache
        outstandingRequests :=
          outstandingIn (s.view.after e rest effect).requestTable node.nodeId } := by
  have htickets := View.tickets_after rest hrequest effect
    (by rw [hwrite]; exact hticket)
  have hpending' : (s.view.after e rest effect).pending = r ::ₘ rest := by
    unfold View.after
    rw [hevents, Multiset.coe_singleton, Multiset.singleton_add]
  refine hnode.frame ?_ ?_ ?_ ?_ localCache
  · intro id t ht
    rw [htickets]
    exact ht
  · intro id t ht _
    rw [← htickets]
    exact ht
  · rw [hpending', hpending, generatesFor_cons_of_type hgenerate',
      generatesFor_cons_of_type hgenerate]
  · rw [hpending', hpending, completionsFor_cons_of_type hcomplete, ← hload,
      ← Multiset.singleton_add]
    unfold completionsFor
    rw [Multiset.filter_add, Multiset.card_add]
    lia

theorem outstanding_after (rest : Multiset EventRecord)
    (hrequest : s.view.requestTable.find e.requestId = some request)
    (hwrite : effect.request = some request') (hticket : request'.ticket = request.ticket)
    (nodeId : NodeId) :
    outstandingIn (s.view.after e rest effect).requestTable nodeId +
        outstandingWeight nodeId request =
      outstandingIn s.view.requestTable nodeId + outstandingWeight nodeId request' := by
  have hid : request.requestId = e.requestId := KeyedStore.key_of_find hrequest
  have hkey : request'.requestId = e.requestId := (congrArg Ticket.requestId hticket).trans hid
  have htable : (s.view.after e rest effect).requestTable = s.view.requestTable.insert request' := by
    unfold View.after
    rw [hwrite]
  rw [htable]
  exact outstandingIn_insert hrequest hkey nodeId

/-- A request that stays outstanding changes no count. -/
theorem outstanding_waiting (rest : Multiset EventRecord)
    (hrequest : s.view.requestTable.find e.requestId = some request) (effect : Effect)
    (hticket : (effect.request.getD request).ticket = request.ticket)
    (hstage : request.currentStage ≠ .completed)
    (hstage' : (effect.request.getD request).currentStage ≠ .completed) (nodeId : NodeId) :
    outstandingIn (s.view.after e rest effect).requestTable nodeId =
      outstandingIn s.view.requestTable nodeId := by
  cases hwrite : effect.request with
  | none =>
      unfold View.after
      rw [hwrite]
  | some request' =>
      rw [hwrite, Option.getD_some] at hticket hstage'
      have houtstanding := outstanding_after rest hrequest hwrite hticket nodeId
      have hsource : request'.sourceNodeId = request.sourceNodeId :=
        congrArg Ticket.sourceNodeId hticket
      have hweight : outstandingWeight nodeId request' = outstandingWeight nodeId request := by
        simp [outstandingWeight, hsource, hstage, hstage']
      lia

/-- The node of a request that stays outstanding. -/
theorem own_waiting (hnode : NodeInv s.config s.view s.releasedEpoch base node)
    (hpending : s.view.pending = e ::ₘ rest) (hgenerate : e.type ≠ .generateRequest)
    (hcomplete : e.type ≠ .requestComplete)
    (hrequest : s.view.requestTable.find e.requestId = some request) (request' : Request)
    (hwrite : effect.request = some request') (hticket : request'.ticket = request.ticket)
    (hevents : effect.events = [r]) (hgenerate' : r.type ≠ .generateRequest)
    (hstage : request.currentStage ≠ .completed) (hstage' : request'.currentStage ≠ .completed)
    (hcomplete' : r.type ≠ .requestComplete) (localCache : LocalCache P) :
    NodeInv s.config (s.view.after e rest effect) s.releasedEpoch base
      { node with localCache := localCache } := by
  have hnone : completionsFor {r} node.nodeId = 0 :=
    Multiset.filter_eq_nil.mpr fun r' hr' hboth =>
      hcomplete' (Multiset.mem_singleton.mp hr' ▸ hboth.1)
  have hsame : outstandingIn (s.view.after e rest effect).requestTable node.nodeId =
      outstandingIn s.view.requestTable node.nodeId :=
    outstanding_waiting rest hrequest effect (by rw [hwrite]; exact hticket) hstage
      (by rw [hwrite]; exact hstage') node.nodeId
  have hframe := own_frame hnode hpending hgenerate hcomplete hrequest hwrite hticket hevents
    hgenerate' (by rw [hnone, hsame, Multiset.card_zero, Nat.add_zero]) localCache
  rw [hsame, ← hnode.outstanding] at hframe
  exact hframe

/-- A request that has not been answered is counted as outstanding. -/
theorem outstanding_ne_zero (hnode : NodeInv s.config s.view s.releasedEpoch base node)
    (hrequest : s.view.requestTable.find e.requestId = some request)
    (hsource : request.sourceNodeId = node.nodeId) (hstage : request.currentStage ≠ .completed) :
    node.outstandingRequests ≠ 0 := by
  have hle := KeyedStore.weight_le_total (outstandingWeight node.nodeId) hrequest
  have hweight : outstandingWeight node.nodeId request = 1 := by
    simp [outstandingWeight, hsource, hstage]
  have hcount := hnode.outstanding
  unfold outstandingIn at hcount
  lia

/-- The node of a request that is answered: it is no longer outstanding, and its
    completion event is pending. -/
theorem own_answered (hnode : NodeInv s.config s.view s.releasedEpoch base node)
    (hpending : s.view.pending = e ::ₘ rest) (hgenerate : e.type ≠ .generateRequest)
    (hcomplete : e.type ≠ .requestComplete)
    (hrequest : s.view.requestTable.find e.requestId = some request) (request' : Request)
    (hwrite : effect.request = some request') (hticket : request'.ticket = request.ticket)
    (hevents : effect.events = [r]) (hsource : request.sourceNodeId = node.nodeId)
    (hstage : request.currentStage ≠ .completed) (hstage' : request'.currentStage = .completed)
    (hcomplete' : r.type = .requestComplete) (htarget : r.targetId = node.nodeId)
    (localCache : LocalCache P) :
    NodeInv s.config (s.view.after e rest effect) s.releasedEpoch base
      { node with
        localCache := localCache
        outstandingRequests := node.outstandingRequests - 1 } := by
  have houtstanding := outstanding_after rest hrequest hwrite hticket node.nodeId
  have hold : outstandingWeight node.nodeId request = 1 := by
    simp [outstandingWeight, hsource, hstage]
  have hnew : outstandingWeight node.nodeId request' = 0 := by
    simp [outstandingWeight, hstage']
  rw [hold, hnew] at houtstanding
  have hone : completionsFor {r} node.nodeId = {r} :=
    Multiset.filter_eq_self.mpr fun r' hr' =>
      Multiset.mem_singleton.mp hr' ▸ ⟨hcomplete', htarget⟩
  have hframe := own_frame hnode hpending hgenerate hcomplete hrequest hwrite hticket hevents
    (by rw [hcomplete']; simp) (by rw [hone, Multiset.card_singleton]; exact houtstanding)
    localCache
  have hcount : outstandingIn (s.view.after e rest effect).requestTable node.nodeId =
      node.outstandingRequests - 1 := by
    have := hnode.outstanding
    lia
  rw [hcount] at hframe
  exact hframe

end Own

/-- What a phase says about the event it waits for. -/
theorem event_of_phase {r : EventRecord} (h : some r = some event.record) :
    event.time = r.time ∧ event.type = r.type ∧ event.targetId = r.targetId := by
  have heq := Option.some.inj h
  exact ⟨(congrArg EventRecord.time heq).symm, (congrArg EventRecord.type heq).symm,
    (congrArg EventRecord.targetId heq).symm⟩

/-- A local lookup hits or misses. -/
theorem dispatch_lookup (h : RunInv s phase base)
    (hpop : s.shared.scheduler.popNext = some (event, scheduler)) (hid : event.requestId ≠ 0)
    (hphase : phase event.requestId = .lookup) :
    ∃ s' phase', Simulator.Dispatched .exact (s.popped scheduler) event s' ∧
      RunInv s' phase' base := by
  obtain ⟨request, node, hawaits⟩ := h.awaits_of_event hpop hid
  obtain ⟨-, -, -, -, hold⟩ := h.popped_ordered hpop
  have hwait := hawaits.waits
  rw [hphase] at hwait
  have hstage : request.currentStage = .generated := by rw [hawaits.tracks.stage, hphase]; rfl
  obtain ⟨htime, htype, htarget⟩ : event.time = request.issueTime ∧
      event.type = .localCacheLookup ∧ event.targetId = request.sourceNodeId :=
    event_of_phase hwait
  have hfind : s.computeNodes.find event.targetId = some node := htarget ▸ hawaits.source
  have hgenerate : event.record.type ≠ .generateRequest := fun heq => by
    cases htype.symm.trans heq
  have hcomplete : event.record.type ≠ .requestComplete := fun heq => by
    cases htype.symm.trans heq
  cases hlookup : (node.localCache.lookup s.shared.stats (ComputeNode.lookedUp request)
      event.time).2 with
  | true =>
      refine ⟨_, Function.update phase event.requestId .hit,
        .compute hfind (.hit htype hawaits.find hlookup), ?_⟩
      refine h.advance hpop hid hawaits.find hfind hawaits.sourceId (by rw [htype]; decide) rfl
        .hit hawaits.waits (by rw [hphase]; rfl) rfl
        (by rw [hphase, ← Option.some.inj hwait]; rfl) (by rw [hphase]; rfl) (by simp) rfl
        (fun ha => ha.elim) 0 ?_ (by simp) ?_ ?_ rfl rfl
      · rw [Multiset.zero_add]
        refine congrArg (fun r => ({r} : Multiset EventRecord)) ?_
        simp only [Ticket.computeEvent, Request.ticket, Ticket.hitTime, Arith.add_exact, htime,
          hawaits.node.hitLatency_eq, hawaits.sourceId, hawaits.key]
      · simp
      · exact own_waiting hawaits.node hold hgenerate hcomplete hawaits.find
          (ComputeNode.lookedUp request) rfl rfl rfl (by simp) (by rw [hstage]; decide)
          (by simp [ComputeNode.lookedUp]) (by simp) _
  | false =>
      refine ⟨_, Function.update phase event.requestId .forward,
        .compute hfind (.miss htype hawaits.find hlookup), ?_⟩
      refine h.advance hpop hid hawaits.find hfind hawaits.sourceId (by rw [htype]; decide) rfl
        .forward hawaits.waits (by rw [hphase]; rfl) rfl
        (by rw [hphase, ← Option.some.inj hwait]; rfl) (by rw [hphase]; rfl) (by simp) rfl
        (fun ha => ha.elim) 0 ?_ (by simp) ?_ ?_ rfl rfl
      · rw [Multiset.zero_add]
        refine congrArg (fun r => ({r} : Multiset EventRecord)) ?_
        simp only [Ticket.memoryEvent, Request.ticket, Ticket.arrival, Arith.add_exact, htime,
          hawaits.node.linkLatency_eq, hawaits.node.memoryNodeId_eq, hawaits.key]
      · simp
      · exact own_waiting hawaits.node hold hgenerate hcomplete hawaits.find
          { request with currentStage := .forwardedToMemory } rfl rfl rfl (by simp)
          (by rw [hstage]; decide) (by simp) (by simp) _

/-- A local hit is answered. -/
theorem dispatch_hit (h : RunInv s phase base)
    (hpop : s.shared.scheduler.popNext = some (event, scheduler)) (hid : event.requestId ≠ 0)
    (hphase : phase event.requestId = .hit) :
    ∃ s' phase', Simulator.Dispatched .exact (s.popped scheduler) event s' ∧
      RunInv s' phase' base := by
  obtain ⟨request, node, hawaits⟩ := h.awaits_of_event hpop hid
  obtain ⟨-, -, -, -, hold⟩ := h.popped_ordered hpop
  have hwait := hawaits.waits
  rw [hphase] at hwait
  have hstage : request.currentStage = .localLookup := by rw [hawaits.tracks.stage, hphase]; rfl
  obtain ⟨htime, htype, htarget⟩ : event.time = request.ticket.hitTime s.config ∧
      event.type = .localCacheHitComplete ∧ event.targetId = request.sourceNodeId :=
    event_of_phase hwait
  have hfind : s.computeNodes.find event.targetId = some node := htarget ▸ hawaits.source
  have hincomplete : request.currentStage ≠ .completed := by rw [hstage]; decide
  have hout := outstanding_ne_zero (e := event.record) hawaits.node hawaits.find
    hawaits.sourceId hincomplete
  refine ⟨_, Function.update phase event.requestId .hitDone,
    .compute hfind (.hitComplete htype hawaits.find hout), ?_⟩
  refine h.advance hpop hid hawaits.find hfind hawaits.sourceId (by rw [htype]; decide) rfl
    .hitDone hawaits.waits (by rw [hphase]; rfl) rfl
    (by rw [hphase, ← Option.some.inj hwait]; rfl) ?_ ?_ rfl (fun ha => ha.elim) 0 ?_ (by simp)
    (by simp) ?_ rfl rfl
  · rw [hphase]
    simp only [Phase.answers, Ticket.response, ComputeNode.hitResponse, Request.ticket, htime,
      List.nil_append]
    rfl
  · intro p hp
    rw [List.mem_singleton.mp hp]
    exact hawaits.key
  · rw [Multiset.zero_add]
    refine congrArg (fun r => ({r} : Multiset EventRecord)) ?_
    simp only [Ticket.computeEvent, htime, Request.ticket, hawaits.sourceId, hawaits.key]
  · exact own_answered hawaits.node hold (fun heq => by cases htype.symm.trans heq)
      (fun heq => by cases htype.symm.trans heq) hawaits.find
      { request with currentStage := .completed } rfl rfl rfl hawaits.sourceId hincomplete rfl
      rfl rfl node.localCache

/-- A response from memory is answered. -/
theorem dispatch_returning (h : RunInv s phase base)
    (hpop : s.shared.scheduler.popNext = some (event, scheduler)) (hid : event.requestId ≠ 0)
    {start : SimTime} (hphase : phase event.requestId = .returning start) :
    ∃ s' phase', Simulator.Dispatched .exact (s.popped scheduler) event s' ∧
      RunInv s' phase' base := by
  obtain ⟨request, node, hawaits⟩ := h.awaits_of_event hpop hid
  obtain ⟨-, -, -, -, hold⟩ := h.popped_ordered hpop
  have hwait := hawaits.waits
  rw [hphase] at hwait
  have hstage : request.currentStage = .waitingForResponse := by
    rw [hawaits.tracks.stage, hphase]
    rfl
  obtain ⟨htime, htype, htarget⟩ : event.time = request.ticket.returnTime s.config start ∧
      event.type = .returnResponse ∧ event.targetId = request.sourceNodeId :=
    event_of_phase hwait
  have hfind : s.computeNodes.find event.targetId = some node := htarget ▸ hawaits.source
  have hincomplete : request.currentStage ≠ .completed := by rw [hstage]; decide
  have hout := outstanding_ne_zero (e := event.record) hawaits.node hawaits.find
    hawaits.sourceId hincomplete
  have henqueued := hawaits.tracks.enqueued (by rw [hphase]; trivial)
  refine ⟨_, Function.update phase event.requestId (.missDone start),
    .compute hfind (.returned htype hawaits.find hout), ?_⟩
  refine h.advance hpop hid hawaits.find hfind hawaits.sourceId (by rw [htype]; decide) rfl
    (.missDone start) hawaits.waits (by rw [hphase]; rfl) rfl
    (by rw [hphase, ← Option.some.inj hwait]; rfl) ?_ ?_ rfl (fun _ => henqueued) 0 ?_ (by simp)
    (by simp) ?_ rfl rfl
  · rw [hphase]
    simp only [Phase.answers, Ticket.response, ComputeNode.memoryResponse, Request.ticket, htime,
      List.nil_append]
    rfl
  · intro p hp
    rw [List.mem_singleton.mp hp]
    exact hawaits.key
  · rw [Multiset.zero_add]
    refine congrArg (fun r => ({r} : Multiset EventRecord)) ?_
    simp only [Ticket.computeEvent, htime, Request.ticket, hawaits.sourceId, hawaits.key]
  · exact own_answered hawaits.node hold (fun heq => by cases htype.symm.trans heq)
      (fun heq => by cases htype.symm.trans heq) hawaits.find
      { request with currentStage := .completed } rfl rfl rfl hawaits.sourceId hincomplete rfl
      rfl rfl _

/-- The completion event of an answered request ends it. -/
theorem dispatch_complete (h : RunInv s phase base)
    (hpop : s.shared.scheduler.popNext = some (event, scheduler)) (hid : event.requestId ≠ 0)
    (htype : event.type = .requestComplete) (phase' : Phase)
    (hplace : phase'.place = (phase event.requestId).place)
    (hdone : ∀ t : Ticket, phase'.pending s.config t = none)
    (hlogged : ∀ t : Ticket, (phase event.requestId).pending s.config t = some event.record →
      phase'.logged s.config t = (phase event.requestId).logged s.config t ++ [event.record])
    (hanswers : ∀ t : Ticket, phase'.answers s.config t =
      (phase event.requestId).answers s.config t)
    (hstage : phase'.stage = (phase event.requestId).stage)
    (harrived : phase'.Arrived → (phase event.requestId).Arrived) :
    ∃ s' phase', Simulator.Dispatched .exact (s.popped scheduler) event s' ∧
      RunInv s' phase' base := by
  obtain ⟨request, node, hawaits⟩ := h.awaits_of_event hpop hid
  obtain ⟨-, -, hcurrentTime, -, hold⟩ := h.popped_ordered hpop
  have htarget : event.targetId = request.sourceNodeId :=
    (Phase.pending_spec hawaits.waits).2.2 htype
  have hfind : s.computeNodes.find event.targetId = some node := htarget ▸ hawaits.source
  have hticket := hawaits.ticket
  -- the request belongs to the released epoch, and so does the node
  obtain ⟨epoch, hreleased, -, hepoch⟩ := h.barrier event.requestId request.ticket hticket
  have hsame := hepoch (Phase.not_ended_of_pending hawaits.waits)
  have hcurrent : node.currentEpoch = s.releasedEpoch := by
    rw [hreleased, ← hsame]
    exact hawaits.node.entered event.requestId request.ticket hticket hawaits.sourceId
      (by rw [hreleased, hsame])
  have hnext : ∀ r ∈ (node.nextOnCompletion scheduler.now).toList,
      r.time = event.time ∧ r.requestId = 0 ∧ r.type = .generateRequest ∧
        r.targetId = node.nodeId := by
    intro r hr
    obtain ⟨hgenerate, htarget, hinvalid, htime, -⟩ := ComputeNode.mem_nextOnCompletion hr
    exact ⟨htime.trans hcurrentTime, hinvalid, hgenerate, htarget⟩
  refine ⟨_, Function.update phase event.requestId phase', .compute hfind (.complete htype), ?_⟩
  refine h.advance hpop hid hawaits.find hfind hawaits.sourceId (by rw [htype]; decide) rfl
    phase' hawaits.waits hplace rfl (hlogged _ hawaits.waits) ?_ (by simp)
    (hawaits.tracks.stage.trans hstage.symm) (fun ha => hawaits.tracks.enqueued (harrived ha))
    (node.nextOnCompletion scheduler.now).toList ?_ ?_ ?_ ?_ rfl rfl
  · rw [hanswers, List.append_nil]
  · rw [hdone]
    exact (Multiset.add_zero _).symm
  · intro r hr
    exact (hnext r hr).2
  · intro r hr
    exact le_of_eq (hnext r hr).1.symm
  · refine hawaits.node.complete hold htype (htarget.trans hawaits.sourceId) hcurrent
      scheduler.now rfl ?_
    rw [← coe_toList]
    rfl

end RunInv

end DmSimulator
