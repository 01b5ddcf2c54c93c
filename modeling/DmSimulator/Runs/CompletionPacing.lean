/-
  DmSimulator.Runs.CompletionPacing

  What completion-driven issue means for one node, with unbounded time.

  A node has one thing going on at a time (`Pacing.load_le`): a `GenerateRequest`
  event, a request that has not been answered, or a completion event.  So no
  other request of the node touches its cache between the miss of a request and
  its response, and what is admitted then is still absent.
-/
import DmSimulator.Runs.Replication

namespace DmSimulator

open Simulator

-- ============================================================================
-- One request at a time
-- ============================================================================

/-- The request has missed and its response is not back yet. -/
def RequestStage.Fetching (stage : RequestStage) : Prop :=
  stage = .forwardedToMemory ∨ stage = .waitingForResponse

/-- If a node has at most one outstanding request, two of them are the same. -/
theorem eq_of_outstandingIn_le {table : RequestTable} {nodeId : NodeId}
    (hle : outstandingIn table nodeId ≤ 1) {first second : Request}
    (hfirst : first ∈ table.items) (hsecond : second ∈ table.items)
    (hone : outstandingWeight nodeId first = 1) (hone' : outstandingWeight nodeId second = 1) :
    first = second := by
  by_contra hne
  have hfind : table.find first.requestId = some first := KeyedStore.find_eq_some.mpr ⟨hfirst, rfl⟩
  have hkey : second.requestId ≠ first.requestId := fun heq =>
    hne (table.eq_of_key_eq hfirst hsecond heq.symm)
  have hrest : (table.erase first.requestId).find second.requestId = some second := by
    rw [KeyedStore.find_erase_ne _ hkey]
    exact KeyedStore.find_eq_some.mpr ⟨hsecond, rfl⟩
  have htotal := KeyedStore.total_erase (outstandingWeight nodeId) hfind
  have hweight := KeyedStore.weight_le_total (outstandingWeight nodeId) hrest
  unfold outstandingIn at hle
  omega

theorem outstandingWeight_eq_one {nodeId : NodeId} {request : Request}
    (hsource : request.sourceNodeId = nodeId) (hstage : request.currentStage ≠ .completed) :
    outstandingWeight nodeId request = 1 :=
  if_pos ⟨hsource, hstage⟩

theorem of_outstandingWeight_eq_one {nodeId : NodeId} {request : Request}
    (h : outstandingWeight nodeId request = 1) :
    request.sourceNodeId = nodeId ∧ request.currentStage ≠ .completed := by
  unfold outstandingWeight at h
  by_contra hnot
  rw [if_neg hnot] at h
  cases h

theorem RequestStage.Fetching.ne_completed {stage : RequestStage} (h : stage.Fetching) :
    stage ≠ .completed := by
  rintro rfl
  rcases h with h | h <;> cases h

-- ============================================================================
-- The events of a node
-- ============================================================================

section Events

variable {P : CachePolicy} {s : Simulator P} {phase : RequestId → Phase} {base : SimTime}

/-- The event is for the node, or it carries a request of the node. -/
def Simulator.concerns (s : Simulator P) (nodeId : NodeId) (e : EventRecord) : Bool :=
  e.targetId = nodeId ||
    (s.shared.requestTable.find e.requestId).any
      (fun request => request.sourceNodeId = nodeId)

/-- The events of a request go to its node or to the memory node, and only the completion
    event comes after the answer. -/
theorem Phase.pending_target {config : SimulationConfig} {t : Ticket} {phase : Phase}
    {e : EventRecord} (h : phase.pending config t = some e) :
    (e.targetId = t.sourceNodeId ∨ e.targetId = config.memoryNodeId) ∧
      (e.type ≠ .requestComplete → phase.stage ≠ .completed) := by
  cases phase <;> simp only [Phase.pending, Option.some.injEq, reduceCtorEq] at h <;>
    · subst h
      simp [Ticket.computeEvent, Ticket.memoryEvent, Phase.stage]

/-- An event of a node is a generate event, a completion event, or the event of a request
    that has not been answered. -/
theorem RunInv.concerns_cases (h : RunInv s phase base) {nodeId : NodeId}
    (hnode : ∃ node, s.computeNodes.find nodeId = some node) {e : EventRecord}
    (he : e ∈ s.view.pending) (hconcerns : s.concerns nodeId e = true) :
    (e.type = .generateRequest ∧ e.targetId = nodeId) ∨
      (e.type = .requestComplete ∧ e.targetId = nodeId) ∨
        (e.type ≠ .generateRequest ∧ e.type ≠ .requestComplete ∧
          ∃ request, s.shared.requestTable.find e.requestId = some request ∧
            outstandingWeight nodeId request = 1) := by
  unfold Simulator.concerns at hconcerns
  rw [Bool.or_eq_true, decide_eq_true_iff] at hconcerns
  by_cases hid : e.requestId = 0
  · obtain ⟨htype, -⟩ := h.generates e he hid
    refine Or.inl ⟨htype, hconcerns.resolve_right fun hany => ?_⟩
    -- no request has the id of a generate event
    have hnone : s.shared.requestTable.find e.requestId = none := by
      rw [← Option.not_isSome_iff_eq_none, hid]
      exact fun hsome => absurd ((h.lifecycle.ids 0).mp hsome).1 (by decide)
    rw [hnone] at hany
    cases hany
  · obtain ⟨request, hfind⟩ := h.lifecycle.find_of_event he hid
    have hfind' : s.shared.requestTable.find e.requestId = some request := hfind
    have hwaits := h.lifecycle.pending_eq he hfind
    obtain ⟨-, hgenerate, hcompletion⟩ := Phase.pending_spec hwaits
    obtain ⟨htarget, hstage⟩ := Phase.pending_target hwaits
    have hsource : request.sourceNodeId = nodeId := by
      rw [hfind'] at hconcerns
      rcases hconcerns with hto | hany
      · rcases htarget with hown | hmemory
        · exact hown.symm.trans hto
        · obtain ⟨node, hnode⟩ := hnode
          rw [← hto, hmemory, h.find_memoryNodeId] at hnode
          cases hnode
      · exact of_decide_eq_true hany
    by_cases hcomplete : e.type = .requestComplete
    · exact Or.inr (Or.inl ⟨hcomplete, (hcompletion hcomplete).trans hsource⟩)
    · refine Or.inr (Or.inr ⟨hgenerate, hcomplete, request, hfind,
        outstandingWeight_eq_one hsource ?_⟩)
      rw [(h.lifecycle.tracks e.requestId request hfind).stage]
      exact hstage hcomplete

/-- The number of requests a node waits for, as the length of a list. -/
theorem outstandingIn_eq_length (table : RequestTable) (nodeId : NodeId) :
    outstandingIn table nodeId =
      (table.items.filter fun request => outstandingWeight nodeId request = 1).length := by
  unfold outstandingIn KeyedStore.total
  induction table.items with
  | nil => rfl
  | cons request rest ih =>
      rw [List.map_cons, List.sum_cons, ih, List.filter_cons]
      by_cases hone : outstandingWeight nodeId request = 1
      · rw [if_pos (decide_eq_true hone), List.length_cons, hone, Nat.add_comm]
      · have hzero : outstandingWeight nodeId request = 0 := by
          unfold outstandingWeight at hone ⊢
          split
          · next hboth => exact absurd (if_pos hboth) hone
          · rfl
        rw [if_neg (by simpa using hone), hzero, Nat.zero_add]

/-- The events of a node's unanswered requests are not more than the requests. -/
theorem RunInv.card_requestEvents_le (h : RunInv s phase base) (nodeId : NodeId)
    {events : Multiset EventRecord} (hle : events ≤ s.view.pending)
    (hof : ∀ e ∈ events, ∃ request, s.shared.requestTable.find e.requestId = some request ∧
      outstandingWeight nodeId request = 1) :
    events.card ≤ outstandingIn s.view.requestTable nodeId := by
  have hnodup : (events.map EventRecord.requestId).Nodup := by
    rw [Multiset.nodup_iff_count_le_one]
    intro id
    rw [Multiset.count_map]
    by_cases hmem : ∃ e ∈ events, e.requestId = id
    · -- a request has at most one event pending
      obtain ⟨e, he, rfl⟩ := hmem
      obtain ⟨request, hfind, -⟩ := hof e he
      have hkey : request.requestId = e.requestId := KeyedStore.key_of_find hfind
      have hpending := (h.lifecycle.tracks e.requestId request hfind).pending
      rw [hkey] at hpending
      refine (Multiset.card_le_card (Multiset.filter_le_filter _ hle)).trans ?_
      rw [Multiset.filter_congr fun e' _ => eq_comm, hpending]
      cases (phase e.requestId).pending s.config request.ticket with
      | none => exact Nat.zero_le 1
      | some waiting => exact le_refl 1
    · have hnil : events.filter (fun e => id = e.requestId) = 0 :=
        Multiset.filter_eq_nil.mpr fun e he heq => hmem ⟨e, he, heq.symm⟩
      rw [hnil]
      exact Nat.zero_le 1
  have hsubset : events.map EventRecord.requestId ≤
      (((s.view.requestTable.items.filter fun request => outstandingWeight nodeId request = 1).map
        Request.requestId : List RequestId) : Multiset RequestId) := by
    rw [Multiset.le_iff_subset hnodup]
    intro id hid
    obtain ⟨e, he, rfl⟩ := Multiset.mem_map.mp hid
    obtain ⟨request, hfind, hone⟩ := hof e he
    obtain ⟨hmem, hkey⟩ := KeyedStore.find_eq_some.mp hfind
    refine Multiset.mem_coe.mpr (List.mem_map.mpr ⟨request, ?_, hkey⟩)
    exact List.mem_filter.mpr ⟨hmem, decide_eq_true hone⟩
  have hcard := Multiset.card_le_card hsubset
  rw [Multiset.card_map, Multiset.coe_card, List.length_map, ← outstandingIn_eq_length] at hcard
  exact hcard

/-- The events of a node are not more than the things it has going on. -/
theorem RunInv.card_concerns_le (h : RunInv s phase base) {nodeId : NodeId}
    (hnode : ∃ node, s.computeNodes.find nodeId = some node) :
    (s.view.pending.filter fun e => s.concerns nodeId e = true).card ≤ load s.view nodeId := by
  have hcases := fun e (he : e ∈ s.view.pending.filter fun e => s.concerns nodeId e = true) =>
    h.concerns_cases hnode (Multiset.mem_filter.mp he).1 (Multiset.mem_filter.mp he).2
  set events := s.view.pending.filter fun e => s.concerns nodeId e = true with hevents
  have hle : events ≤ s.view.pending := Multiset.filter_le _ _
  have hsplit := Multiset.filter_add_not (fun e : EventRecord => e.type = .generateRequest) events
  have hsplit' := Multiset.filter_add_not (fun e : EventRecord => e.type = .requestComplete)
    (events.filter fun e => ¬ e.type = .generateRequest)
  have hgenerates : (events.filter fun e => e.type = .generateRequest).card ≤
      (generatesFor s.view.pending nodeId).card := by
    rw [Multiset.filter_congr (q := fun e => e.type = .generateRequest ∧ e.targetId = nodeId)]
    · exact Multiset.card_le_card (Multiset.filter_le_filter _ hle)
    · intro e he
      refine ⟨fun htype => ⟨htype, ?_⟩, And.left⟩
      rcases hcases e he with ⟨-, htarget⟩ | ⟨hcomplete, -⟩ | ⟨hnot, -⟩
      · exact htarget
      · cases htype.symm.trans hcomplete
      · exact absurd htype hnot
  have hcompletions : ((events.filter fun e => ¬ e.type = .generateRequest).filter
      fun e => e.type = .requestComplete).card ≤ (completionsFor s.view.pending nodeId).card := by
    rw [Multiset.filter_congr (q := fun e => e.type = .requestComplete ∧ e.targetId = nodeId)]
    · exact Multiset.card_le_card (Multiset.filter_le_filter _
        ((Multiset.filter_le _ _).trans hle))
    · intro e he
      refine ⟨fun htype => ⟨htype, ?_⟩, And.left⟩
      rcases hcases e (Multiset.mem_of_le (Multiset.filter_le _ _) he) with
        ⟨hgenerate, -⟩ | ⟨-, htarget⟩ | ⟨-, hnot, -⟩
      · cases htype.symm.trans hgenerate
      · exact htarget
      · exact absurd htype hnot
  have hrequests := h.card_requestEvents_le nodeId
    (((Multiset.filter_le (fun e => ¬ e.type = .requestComplete) _).trans
      (Multiset.filter_le (fun e => ¬ e.type = .generateRequest) events)).trans hle) (by
    intro e he
    obtain ⟨hin, hcomplete⟩ := Multiset.mem_filter.mp he
    obtain ⟨hin, hgenerate⟩ := Multiset.mem_filter.mp hin
    rcases hcases e hin with ⟨htype, -⟩ | ⟨htype, -⟩ | ⟨-, -, hrequest⟩
    · exact absurd htype hgenerate
    · exact absurd htype hcomplete
    · exact hrequest)
  have hcard := congrArg Multiset.card hsplit
  have hcard' := congrArg Multiset.card hsplit'
  rw [Multiset.card_add] at hcard hcard'
  unfold load
  omega

end Events

-- ============================================================================
-- What is fetched is absent
-- ============================================================================

/-- No cache holds an object its node is fetching. -/
def Simulator.FetchesAbsent {P : CachePolicy} (s : Simulator P) : Prop :=
  ∀ request ∈ s.shared.requestTable.items, request.currentStage.Fetching →
    ∀ node, s.computeNodes.find request.sourceNodeId = some node →
      ¬ node.localCache.Holds request.objectId

section Fetching

variable {P : CachePolicy} {s s' : Simulator P} {phase : RequestId → Phase} {base : SimTime}
  {event : Event} {scheduler : Scheduler} {node node' : ComputeNode P}

/-- Under completion-driven issue the load of a node is at most one. -/
theorem RunInv.load_le (h : RunInv s phase base) (hmode : issueModeOf s.config ≠ .scheduledBursty)
    {nodeId : NodeId} (hfind : s.computeNodes.find nodeId = some node) :
    load s.view nodeId ≤ 1 := by
  obtain ⟨hnode, rfl⟩ := h.node_of_find hfind
  exact hnode.pacing.load_le (by rw [hnode.issueMode_eq]; exact hmode)

/-- Next to an unanswered request a node has no other. -/
theorem RunInv.eq_of_unanswered (h : RunInv s phase base)
    (hmode : issueModeOf s.config ≠ .scheduledBursty) {nodeId : NodeId}
    (hfind : s.computeNodes.find nodeId = some node) {request other : Request}
    (hmem : request ∈ s.shared.requestTable.items) (hone : outstandingWeight nodeId request = 1)
    (hother : other ∈ s.shared.requestTable.items) (hsource : other.sourceNodeId = nodeId)
    (hstage : other.currentStage ≠ .completed) : other = request := by
  have hload := h.load_le hmode hfind
  unfold load at hload
  have hle : outstandingIn s.view.requestTable nodeId ≤ 1 := by omega
  exact eq_of_outstandingIn_le hle hother hmem (outstandingWeight_eq_one hsource hstage) hone

/-- Next to a generate event a node has no unanswered request. -/
theorem RunInv.completed_of_generate (h : RunInv s phase base)
    (hmode : issueModeOf s.config ≠ .scheduledBursty) {nodeId : NodeId}
    (hfind : s.computeNodes.find nodeId = some node) {e : EventRecord} (he : e ∈ s.view.pending)
    (htype : e.type = .generateRequest) (htarget : e.targetId = nodeId) {other : Request}
    (hother : other ∈ s.shared.requestTable.items) (hsource : other.sourceNodeId = nodeId) :
    other.currentStage = .completed := by
  by_contra hstage
  have hload := h.load_le hmode hfind
  have hgenerate : 0 < (generatesFor s.view.pending nodeId).card :=
    Multiset.card_pos_iff_exists_mem.mpr ⟨e, Multiset.mem_filter.mpr ⟨he, htype, htarget⟩⟩
  have hweight : 1 ≤ outstandingIn s.view.requestTable nodeId := by
    rw [← outstandingWeight_eq_one hsource hstage]
    exact KeyedStore.weight_le_total (outstandingWeight nodeId)
      (KeyedStore.find_eq_some.mpr ⟨hother, rfl⟩)
  unfold load at hload
  omega

/-- An event of a request at its node: the request is there and unanswered, or the event
    is its completion. -/
theorem RunInv.own_request (h : RunInv s phase base)
    (hpop : s.shared.scheduler.popNext = some (event, scheduler))
    (hfind : s.computeNodes.find event.targetId = some node)
    (hgenerate : event.type ≠ .generateRequest) (hcomplete : event.type ≠ .requestComplete)
    {request : Request} (hrequest : s.shared.requestTable.find event.requestId = some request) :
    outstandingWeight event.targetId request = 1 := by
  obtain ⟨-, -, -, -, hold⟩ := h.popped_ordered hpop
  have hconcerns : s.concerns event.targetId event.record = true := by
    unfold concerns
    rw [Bool.or_eq_true]
    exact Or.inl (decide_eq_true rfl)
  rcases h.concerns_cases ⟨node, hfind⟩ (hold ▸ Multiset.mem_cons_self _ _) hconcerns with
    ⟨htype, -⟩ | ⟨htype, -⟩ | ⟨-, -, request', hfind', hone⟩
  · exact absurd htype hgenerate
  · exact absurd htype hcomplete
  · cases hrequest.symm.trans hfind'
    exact hone

/-- A node writes a request, and its cache does not hold it if it is still to be fetched. -/
theorem Simulator.FetchesAbsent.write (h : s.FetchesAbsent) {written : Request}
    (htable : s'.shared.requestTable = s.shared.requestTable.insert written)
    (hnodes : s'.computeNodes = s.computeNodes.insert node')
    (hfind : s.computeNodes.find event.targetId = some node) (hid : node'.nodeId = node.nodeId)
    (hnew : written.currentStage.Fetching →
      written.sourceNodeId = node.nodeId ∧ ¬ node'.localCache.Holds written.objectId)
    (hothers : ∀ request ∈ s.shared.requestTable.items, request.requestId ≠ written.requestId →
      request.sourceNodeId = node.nodeId → request.currentStage = .completed) :
    s'.FetchesAbsent := by
  intro request hmem hfetching other hother
  rw [htable] at hmem
  rw [hnodes] at hother
  have hkey : node.nodeId = event.targetId := KeyedStore.key_of_find hfind
  rcases KeyedStore.mem_insert.mp hmem with rfl | ⟨hold, hne⟩
  · obtain ⟨hsource, habsent⟩ := hnew hfetching
    rw [KeyedStore.find_insert, if_pos (hsource.trans hid.symm)] at hother
    cases hother
    exact habsent
  · by_cases hsource : request.sourceNodeId = node.nodeId
    · exact absurd (hothers request hold hne hsource) hfetching.ne_completed
    · rw [KeyedStore.find_insert, if_neg (by rw [hid]; exact hsource)] at hother
      exact h request hold hfetching other hother

/-- The memory side moves a request on that is being fetched. -/
theorem Simulator.FetchesAbsent.rewrite (h : s.FetchesAbsent) {old written : Request}
    (htable : s'.shared.requestTable = s.shared.requestTable.insert written)
    (hnodes : s'.computeNodes = s.computeNodes)
    (hold : s.shared.requestTable.find event.requestId = some old)
    (hfetching : old.currentStage.Fetching) (hsource : written.sourceNodeId = old.sourceNodeId)
    (hobject : written.objectId = old.objectId) : s'.FetchesAbsent := by
  intro request hmem hrequest other hother
  rw [htable] at hmem
  rw [hnodes] at hother
  rcases KeyedStore.mem_insert.mp hmem with rfl | ⟨hin, -⟩
  · rw [hobject]
    exact h old (KeyedStore.find_eq_some.mp hold).1 hfetching other (hsource ▸ hother)
  · exact h request hin hrequest other hother

/-- The requests whose events the memory node processes are being fetched, and so is the
    request of a response. -/
theorem Phase.fetching_of_pending {config : SimulationConfig} {t : Ticket} {phase : Phase}
    {e : EventRecord} (h : phase.pending config t = some e)
    (htype : e.type = .forwardToMemory ∨ e.type = .memoryServiceStart ∨
      e.type = .returnResponse) : phase.stage.Fetching := by
  cases phase <;> cases h <;>
    first
      | exact Or.inl rfl
      | exact Or.inr rfl
      | (rcases htype with htype | htype | htype <;> cases htype)

theorem RunInv.fetching (h : RunInv s phase base)
    (hpop : s.shared.scheduler.popNext = some (event, scheduler))
    (htype : event.type = .forwardToMemory ∨ event.type = .memoryServiceStart ∨
      event.type = .returnResponse)
    {request : Request} (hrequest : s.shared.requestTable.find event.requestId = some request) :
    request.currentStage.Fetching := by
  obtain ⟨-, -, -, -, hold⟩ := h.popped_ordered hpop
  have hwaits := h.lifecycle.pending_eq (e := event.record) (hold ▸ Multiset.mem_cons_self _ _)
    (show s.view.requestTable.find event.record.requestId = some request from hrequest)
  rw [(h.lifecycle.tracks event.requestId request hrequest).stage]
  exact Phase.fetching_of_pending hwaits htype

/-- An event that writes no request and changes no node. -/
theorem Simulator.FetchesAbsent.insert_self (h : s.FetchesAbsent) {nodeId : NodeId}
    (htable : s'.shared.requestTable = s.shared.requestTable)
    (hnodes : s'.computeNodes = s.computeNodes.insert node)
    (hfind : s.computeNodes.find nodeId = some node) : s'.FetchesAbsent := by
  intro request hmem hfetching other hother
  rw [htable] at hmem
  rw [hnodes] at hother
  refine h request hmem hfetching other ?_
  rw [KeyedStore.find_insert] at hother
  by_cases hsource : request.sourceNodeId = node.nodeId
  · rw [if_pos hsource] at hother
    rw [hsource, KeyedStore.key_of_find hfind, hfind]
    exact hother
  · rw [if_neg hsource] at hother
    exact hother

/-- No dispatch leaves a cache with an object that its node is fetching. -/
theorem RunInv.fetchesAbsent_dispatched (h : RunInv s phase base)
    (hmode : issueModeOf s.config ≠ .scheduledBursty) (habsent : s.FetchesAbsent)
    (hpop : s.shared.scheduler.popNext = some (event, scheduler))
    (hdispatched : Dispatched .exact (s.popped scheduler) event s') : s'.FetchesAbsent := by
  obtain ⟨-, -, -, -, hold⟩ := h.popped_ordered hpop
  have hpending : event.record ∈ s.view.pending := hold ▸ Multiset.mem_cons_self _ _
  cases hdispatched with
  | @compute node node' effect hfind hstep =>
      have hfind' : s.computeNodes.find event.targetId = some node := hfind
      have hkey : node.nodeId = event.targetId := KeyedStore.key_of_find hfind'
      -- the other requests of the node have been answered
      have hothers : event.type ≠ .generateRequest → event.type ≠ .requestComplete →
          ∀ request, s.shared.requestTable.find event.requestId = some request →
            request.sourceNodeId = node.nodeId ∧
              ∀ other ∈ s.shared.requestTable.items, other.requestId ≠ request.requestId →
                other.sourceNodeId = node.nodeId → other.currentStage = .completed := by
        intro hgenerate hcomplete request hrequest
        have hone := h.own_request hpop hfind' hgenerate hcomplete hrequest
        refine ⟨hkey ▸ (of_outstandingWeight_eq_one hone).1, fun other hother hne hsource => ?_⟩
        by_contra hstage
        have hsame := h.eq_of_unanswered hmode hfind' (KeyedStore.find_eq_some.mp hrequest).1 hone
          hother (hsource.trans hkey) hstage
        exact hne (congrArg Request.requestId hsame)
      cases hstep with
      | drained => exact habsent.insert_self rfl rfl hfind'
      | issue hgenerate =>
          refine habsent.write rfl rfl hfind' rfl (fun hfetching => ?_) fun other hother _ hsource => ?_
          · rcases hfetching with hstage | hstage <;> cases hstage
          · exact h.completed_of_generate hmode hfind' hpending hgenerate rfl hother
              (hsource.trans hkey)
      | hit htype hrequest =>
          obtain ⟨-, hanswered⟩ := hothers (by rw [htype]; decide) (by rw [htype]; decide) _ hrequest
          refine habsent.write rfl rfl hfind' rfl (fun hfetching => ?_) hanswered
          rcases hfetching with hstage | hstage <;> cases hstage
      | @miss request htype hrequest hmiss =>
          obtain ⟨hsource, hanswered⟩ :=
            hothers (by rw [htype]; decide) (by rw [htype]; decide) _ hrequest
          refine habsent.write rfl rfl hfind' rfl (fun _ => ⟨hsource, fun hholds => ?_⟩) hanswered
          have hheld := (LocalCache.holds_lookup _ _ _ _ _).mp hholds
          have hhit := (LocalCache.lookup_hit_iff s.shared.stats node.localCache
            (ComputeNode.lookedUp request) event.time).mpr hheld
          exact Bool.false_ne_true (hmiss.symm.trans hhit)
      | hitComplete htype hrequest | returned htype hrequest =>
          obtain ⟨-, hanswered⟩ := hothers (by rw [htype]; decide) (by rw [htype]; decide) _ hrequest
          refine habsent.write rfl rfl hfind' rfl (fun hfetching => ?_) hanswered
          rcases hfetching with hstage | hstage <;> cases hstage
      | complete => exact habsent.insert_self rfl rfl hfind'
  | @memory memoryNode effect hfind htarget hstep =>
      cases hstep with
      | forwardIdle htype hrequest | forwardBusy htype hrequest =>
          exact habsent.rewrite rfl rfl hrequest (h.fetching hpop (Or.inl htype) hrequest) rfl rfl
      | start htype hrequest =>
          exact habsent.rewrite rfl rfl hrequest (h.fetching hpop (Or.inr (Or.inl htype)) hrequest) rfl rfl
      | completeIdle | completeNext => exact habsent

/-- The release of an epoch changes no request and no cache. -/
theorem Simulator.FetchesAbsent.release {A : Arith} (h : s.FetchesAbsent) :
    (releaseNextEpochIfReady A s).FetchesAbsent :=
  release_preserves h fun _ _ _ => h

end Fetching

-- ============================================================================
-- Runs
-- ============================================================================

namespace Simulator

/-- Every compute node has one request at a time: at most one is outstanding, at most one
    event is pending for the node or for a request of it, and a response that comes back is
    for an object that is not in the cache.  Only a response admits. -/
structure CompletionPaced {P : CachePolicy} (s : Simulator P) : Prop where
  outstanding : ∀ node ∈ s.computeNodes.items,
    node.outstandingRequests ≤ 1 ∧
      node.outstandingRequests = outstandingIn s.shared.requestTable node.nodeId
  pending : ∀ node ∈ s.computeNodes.items,
    (s.shared.scheduler.events.filter fun e => s.concerns node.nodeId e.record).length ≤ 1
  admitted : ∀ event scheduler, s.shared.scheduler.popNext = some (event, scheduler) →
    event.type = .returnResponse → ∀ node, s.computeNodes.find event.targetId = some node →
      ∀ request, s.shared.requestTable.find event.requestId = some request →
        ¬ node.localCache.Holds request.objectId

end Simulator

section Runs

variable {P : CachePolicy} {s : Simulator P}

/-- One request at a time, from the invariants of a run. -/
theorem RunInv.completionPaced {phase : RequestId → Phase} {base : SimTime}
    (h : RunInv s phase base) (hmode : issueModeOf s.config ≠ .scheduledBursty)
    (habsent : s.FetchesAbsent) : s.CompletionPaced := by
  refine ⟨fun node hmem => ?_, fun node hmem => ?_, fun event scheduler hpop htype node hfind
    request hrequest => ?_⟩
  · have hload := h.load_le hmode (KeyedStore.find_eq_some.mpr ⟨hmem, rfl⟩)
    have heq : node.outstandingRequests = outstandingIn s.view.requestTable node.nodeId :=
      (h.nodes node hmem).outstanding
    unfold load at hload
    exact ⟨by omega, heq⟩
  · have hfind : s.computeNodes.find node.nodeId = some node :=
      KeyedStore.find_eq_some.mpr ⟨hmem, rfl⟩
    have hcard := (h.card_concerns_le ⟨node, hfind⟩).trans (h.load_le hmode hfind)
    have hlength : (s.view.pending.filter fun e => s.concerns node.nodeId e = true).card =
        (s.shared.scheduler.events.filter fun e => s.concerns node.nodeId e.record).length := by
      show (Multiset.filter _ ((s.shared.scheduler.events.map Event.record : List EventRecord) :
        Multiset EventRecord)).card = _
      rw [Multiset.filter_coe, Multiset.coe_card, List.filter_map, List.length_map]
      simp [Function.comp_def]
    rw [← hlength]
    exact hcard
  · have hone := h.own_request hpop hfind (by rw [htype]; decide) (by rw [htype]; decide) hrequest
    refine habsent request (KeyedStore.find_eq_some.mp hrequest).1
      (h.fetching hpop (Or.inr (Or.inr htype)) hrequest) node ?_
    rw [(of_outstandingWeight_eq_one hone).1]
    exact hfind

/-- What a node fetches is absent in every reachable state. -/
theorem fetchesAbsent_of_reachable {config : SimulationConfig}
    {generatedWorkload : Option GeneratedWorkload} (hprepared : Prepared config)
    (hmode : issueModeOf config ≠ .scheduledBursty) {t : Simulator P}
    (ht : Reachable .exact (ofConfig P config generatedWorkload) t) :
    TurnInv t ∧ t.FetchesAbsent ∧ t.config = config := by
  refine Run.invariant_of_reaches
    (fun t => TurnInv t ∧ t.FetchesAbsent ∧ t.config = config) (fun a b hinv hmove => ?_)
    ⟨turnInv_init hprepared, ?_, ?_⟩ ht
  · obtain ⟨hturn, habsent, hconfig⟩ := hinv
    obtain ⟨⟨phase, base, hrun⟩, -⟩ := id hturn
    refine ⟨turnInv_move hturn hmove, ?_, (move_spec hmove).1.trans hconfig⟩
    obtain ⟨event, scheduler, s', hpop, hdispatched, rfl⟩ := moves_iff.mp hmove
    exact (hrun.fetchesAbsent_dispatched (hconfig ▸ hmode) habsent hpop hdispatched).release
  · -- nothing has been issued yet
    refine FetchesAbsent.release fun request hmem => ?_
    cases hmem
  · have hstart : Reachable .exact (ofConfig P config generatedWorkload)
        (releaseNextEpochIfReady .exact (ofConfig P config generatedWorkload)) :=
      Relation.ReflTransGen.refl
    exact config_of_reaches hstart

namespace Simulator

/-- Completion-driven runs have one request at a time. -/
theorem run_completionPaced {rng : RandomSource} {config : SimulationConfig}
    {s : Simulator (makeCachePolicy .exact config.localCache)}
    (h : construct .exact rng config = .ok s) (hmode : issueModeOf s.config = .completionDriven) :
    ∀ t, Reachable .exact s t → t.CompletionPaced := by
  intro t ht
  obtain ⟨prepared, generatedWorkload, rfl, hprepared⟩ := construct_spec h
  have hmode' : issueModeOf prepared ≠ .scheduledBursty := by
    intro hbursty
    cases hbursty.symm.trans hmode
  obtain ⟨⟨⟨phase, base, hrun⟩, -⟩, habsent, hconfig⟩ :=
    fetchesAbsent_of_reachable hprepared hmode' ht
  exact hrun.completionPaced (hconfig ▸ hmode') habsent

theorem rereadConfig_completionPaced :
    ∃ s, construct .exact lowestSource rereadConfig = .ok s ∧
      ∀ t, Reachable .exact s t → t.CompletionPaced :=
  ⟨_, rfl, run_completionPaced (show construct .exact lowestSource rereadConfig = .ok _ from rfl)
    rfl⟩

end Simulator

end Runs

end DmSimulator
