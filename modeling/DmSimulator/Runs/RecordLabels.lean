/-
  DmSimulator.Runs.RecordLabels

  The records of the nodes over a run, in either reading of the arithmetic.

  A node decides on every request at most once, when it comes back: from then on the
  request is under way no longer.  It enters its epochs in increasing order.  So no
  two of its records carry the same label.
-/
import DmSimulator.Cache.RecordLabels
import DmSimulator.Runs.PolicyRuns
import DmSimulator.Runs.UnderWay

namespace DmSimulator

namespace ComputeNode

variable {P : CachePolicy} {A : Arith} {node node' : ComputeNode P} {event : Event} {sh : Shared}
  {effect : Effect}

/-- The decision records of a node. -/
def decisions (node : ComputeNode P) : List PolicyDecisionRecord :=
  P.diagnostics node.localCache.policy

/-- The records of a node carry its id, and no two of them carry the same label: they are
    about requests that have come back, or about epochs that the node has entered. -/
structure Labelled (returned : RequestId → Prop) (node : ComputeNode P) : Prop where
  decided : (node.decisions.map PolicyDecisionRecord.requestId).Nodup
  decision_of : ∀ record ∈ node.decisions,
    record.nodeId = node.nodeId ∧ returned record.requestId
  distinct : node.localCache.labels.Nodup
  label_of : ∀ label ∈ node.localCache.labels, label.nodeId = node.nodeId ∧
    (label.requestId ≠ kInvalidRequestId → returned label.requestId)
  entered : ∀ label ∈ node.localCache.labels, label.requestId = kInvalidRequestId →
    ∃ current, node.currentEpoch = some current ∧ label.epochId ≤ current

variable {returned returned' : RequestId → Prop}

/-- A node with the same records, in the same epoch or a later one. -/
theorem Labelled.frame (h : node.Labelled returned) (hid : node'.nodeId = node.nodeId)
    (hdecisions : node'.decisions = node.decisions)
    (hlabels : node'.localCache.labels = node.localCache.labels)
    (hcurrent : ∀ current, node.currentEpoch = some current →
      ∃ next, node'.currentEpoch = some next ∧ current ≤ next)
    (hmono : ∀ id, returned id → returned' id) : node'.Labelled returned' := by
  refine ⟨?_, ?_, ?_, ?_, ?_⟩
  · rw [hdecisions]
    exact h.decided
  · rw [hdecisions, hid]
    intro record hrecord
    obtain ⟨hnode, hreturned⟩ := h.decision_of record hrecord
    exact ⟨hnode, hmono _ hreturned⟩
  · rw [hlabels]
    exact h.distinct
  · rw [hlabels, hid]
    intro label hlabel
    obtain ⟨hnode, hreturned⟩ := h.label_of label hlabel
    exact ⟨hnode, fun hrequest => hmono _ (hreturned hrequest)⟩
  · rw [hlabels]
    intro label hlabel hzero
    obtain ⟨current, heq, hle⟩ := h.entered label hlabel hzero
    obtain ⟨next, hnext, hlater⟩ := hcurrent current heq
    exact ⟨next, hnext, le_trans hle hlater⟩

theorem enterEpoch_decisions (hP : DecidesOnce P) (stats : Stats) (epochId : EpochId)
    (time : SimTime) :
    P.diagnostics (node.enterEpoch A stats epochId time).policy = node.decisions := by
  unfold enterEpoch
  split
  · rfl
  · cases node.globalReplicaPlan with
    | none => exact hP.onEpochStart _ _ _
    | some plan =>
        simp only
        rw [LocalCache.installReplicas_policy]
        exact hP.onEpochStart _ _ _

/-- A node that enters an epoch may install replicas of it. -/
theorem enterEpoch_labels (stats : Stats) (epochId : EpochId) (time : SimTime) :
    ∃ installed : List ObjectId, installed.Nodup ∧
      (node.enterEpoch A stats epochId time).labels = node.localCache.labels ++
        installed.map (LocalCache.replicaLabel node.nodeId epochId) ∧
      (node.currentEpoch = some epochId → installed = []) := by
  unfold enterEpoch
  by_cases hsame : node.currentEpoch = some epochId
  · rw [if_pos hsame]
    exact ⟨[], List.nodup_nil, (List.append_nil _).symm, fun _ => rfl⟩
  · rw [if_neg hsame]
    cases node.globalReplicaPlan with
    | none => exact ⟨[], List.nodup_nil, (List.append_nil _).symm, fun _ => rfl⟩
    | some plan =>
        obtain ⟨installed, hnodup, hlabels⟩ := LocalCache.labels_installReplicas (A := A)
          (node.localCache.onEpochStart stats epochId) ((plan.lookup epochId).getD []) time
            node.nodeId epochId
        exact ⟨installed, hnodup, hlabels, fun heq => absurd heq hsame⟩

/-- The node issues a request, and may enter an epoch for it. -/
theorem Labelled.afterIssue (hP : DecidesOnce P) (h : node.Labelled returned)
    (hmono : ∀ id, returned id → returned' id) {spec : RequestSpec}
    (hahead : ∀ current, node.currentEpoch = some current → current ≤ spec.epochId)
    (stats : Stats) (time : SimTime) :
    (node.afterIssue A stats spec time).Labelled returned' := by
  obtain ⟨installed, hnodup, hlabels, hnone⟩ :=
    @enterEpoch_labels P A node stats spec.epochId time
  have hdecisions : (node.afterIssue A stats spec time).decisions = node.decisions :=
    enterEpoch_decisions hP stats spec.epochId time
  have hcache : (node.afterIssue A stats spec time).localCache.labels =
      node.localCache.labels ++ installed.map (LocalCache.replicaLabel node.nodeId spec.epochId) :=
    hlabels
  have hnew : ∀ label ∈ installed.map (LocalCache.replicaLabel node.nodeId spec.epochId),
      label.nodeId = node.nodeId ∧ label.requestId = kInvalidRequestId ∧
        label.epochId = spec.epochId ∧ installed ≠ [] := by
    intro label hlabel
    obtain ⟨objectId, hobject, rfl⟩ := List.mem_map.mp hlabel
    exact ⟨rfl, rfl, rfl, List.ne_nil_of_mem hobject⟩
  refine ⟨?_, ?_, ?_, ?_, ?_⟩
  · rw [hdecisions]
    exact h.decided
  · rw [hdecisions]
    intro record hrecord
    obtain ⟨hnode, hreturned⟩ := h.decision_of record hrecord
    exact ⟨hnode, hmono _ hreturned⟩
  · rw [hcache]
    apply List.Nodup.append h.distinct
    · apply hnodup.map
      intro a b hab
      exact congrArg RecordLabel.objectId hab
    · -- the replicas belong to an epoch that the node had not entered
      intro label hold hin
      obtain ⟨-, hzero, hepoch, hsome⟩ := hnew label hin
      obtain ⟨current, hcurrent, hle⟩ := h.entered label hold hzero
      have hlt := hahead current hcurrent
      apply hsome
      apply hnone
      rw [hcurrent, le_antisymm hlt (hepoch ▸ hle)]
  · rw [hcache]
    intro label hlabel
    rcases List.mem_append.mp hlabel with hold | hin
    · obtain ⟨hnode, hreturned⟩ := h.label_of label hold
      exact ⟨hnode, fun hrequest => hmono _ (hreturned hrequest)⟩
    · obtain ⟨hnode, hzero, -⟩ := hnew label hin
      exact ⟨hnode, fun hrequest => absurd hzero hrequest⟩
  · rw [hcache]
    intro label hlabel hzero
    refine ⟨spec.epochId, rfl, ?_⟩
    rcases List.mem_append.mp hlabel with hold | hin
    · obtain ⟨current, hcurrent, hle⟩ := h.entered label hold hzero
      exact le_trans hle (hahead current hcurrent)
    · obtain ⟨-, -, hepoch, -⟩ := hnew label hin
      exact le_of_eq hepoch

/-- The node takes in the response for a request that had not come back before. -/
theorem Labelled.admitObject (hP : DecidesOnce P) (h : node.Labelled returned)
    (hmono : ∀ id, returned id → returned' id) {request : Request}
    (hsource : request.sourceNodeId = node.nodeId) (hid : request.requestId ≠ kInvalidRequestId)
    (hbefore : ¬ returned request.requestId) (hafter : returned' request.requestId)
    (hnode' : node'.nodeId = node.nodeId) (hcurrent : node'.currentEpoch = node.currentEpoch)
    {response : Response} {time : SimTime}
    (hcache : node'.localCache = (node.localCache.admitObject A request response time).1) :
    node'.Labelled returned' := by
  obtain ⟨admitted, reason, victims, -, hpolicy, -⟩ :=
    LocalCache.admitObject_row (A := A) node.localCache request response time
  obtain ⟨added, hdiagnostics, hfor⟩ := hP.onAdmissionResult node.localCache.policy request
    response time admitted reason victims
  have hdecisions : node'.decisions = node.decisions ++ added.toList := by
    unfold decisions
    rw [hcache, hpolicy, hdiagnostics]
  have hlabels : node'.localCache.labels = node.localCache.labels ++ [request.label] := by
    rw [hcache, LocalCache.labels_admitObject]
  refine ⟨?_, ?_, ?_, ?_, ?_⟩
  · rw [hdecisions, List.map_append]
    apply List.Nodup.append h.decided
    · cases added with
      | none => exact List.nodup_nil
      | some record => exact List.nodup_singleton _
    · intro id hold hin
      obtain ⟨record, hrecord, rfl⟩ := List.mem_map.mp hold
      obtain ⟨fresh, hfresh, hsame⟩ := List.mem_map.mp hin
      apply hbefore
      rw [← (hfor fresh (Option.mem_toList.mp hfresh)).2, hsame]
      exact (h.decision_of record hrecord).2
  · rw [hdecisions, hnode']
    intro record hrecord
    rcases List.mem_append.mp hrecord with hold | hin
    · obtain ⟨hnode, hreturned⟩ := h.decision_of record hold
      exact ⟨hnode, hmono _ hreturned⟩
    · obtain ⟨hnode, hrequest⟩ := hfor record (Option.mem_toList.mp hin)
      exact ⟨hnode.trans hsource, hrequest ▸ hafter⟩
  · rw [hlabels]
    apply List.Nodup.append h.distinct (List.nodup_singleton _)
    intro label hold hin
    rw [List.mem_singleton.mp hin] at hold
    exact hbefore ((h.label_of _ hold).2 hid)
  · rw [hlabels, hnode']
    intro label hlabel
    rcases List.mem_append.mp hlabel with hold | hin
    · obtain ⟨hnode, hreturned⟩ := h.label_of label hold
      exact ⟨hnode, fun hrequest => hmono _ (hreturned hrequest)⟩
    · rw [List.mem_singleton.mp hin]
      exact ⟨hsource, fun _ => hafter⟩
  · rw [hlabels, hcurrent]
    intro label hlabel hzero
    rcases List.mem_append.mp hlabel with hold | hin
    · exact h.entered label hold hzero
    · rw [List.mem_singleton.mp hin] at hzero
      exact absurd hzero hid

/-- Handling an event keeps the labels apart. -/
theorem Labelled.step (hP : DecidesOnce P) (h : node.Labelled returned)
    (hmono : ∀ id, returned id → returned' id)
    (hahead : ∀ spec, node.workload.upcoming = some spec →
      ∀ current, node.currentEpoch = some current → current ≤ spec.epochId)
    (hreturn : event.type = .returnResponse → ∀ request,
      sh.requestTable.find event.requestId = some request →
        request.sourceNodeId = node.nodeId ∧ request.requestId ≠ kInvalidRequestId ∧
          ¬ returned request.requestId ∧ returned' request.requestId)
    (hstep : ComputeStep A node event sh node' effect) : node'.Labelled returned' := by
  have hsame : ∀ current, node.currentEpoch = some current →
      ∃ next, node.currentEpoch = some next ∧ current ≤ next :=
    fun current hcurrent => ⟨current, hcurrent, le_refl _⟩
  cases hstep with
  | drained | hitComplete | complete => exact h.frame rfl rfl rfl hsame hmono
  | @issue spec htype hup => exact h.afterIssue hP hmono (hahead spec hup) sh.stats event.time
  | hit | miss =>
      refine h.frame rfl ?_ (LocalCache.labels_lookup _ _ _ _) hsame hmono
      unfold decisions
      simp only
      rw [LocalCache.lookup_policy]
      exact hP.onLookup _ _ _ _ _
  | @returned request htype hrequest =>
      obtain ⟨hsource, hid, hbefore, hafter⟩ := hreturn htype request hrequest
      exact h.admitObject hP hmono hsource hid hbefore hafter rfl rfl rfl

end ComputeNode

-- ============================================================================
-- Whole runs
-- ============================================================================

namespace Simulator

variable {P : CachePolicy} {A : Arith} {s s' t : Simulator P} {event : Event}
  {scheduler : Scheduler} {effect : Effect}

/-- The request has been issued, and is under way no longer. -/
def Answered (s : Simulator P) (id : RequestId) : Prop :=
  (∃ t, s.view.tickets id = some t) ∧ id ∉ s.underWay

/-- Every request is under way once at most, and the records of every node are labelled. -/
structure AllLabelled (s : Simulator P) : Prop where
  paced : s.Paced
  once : s.underWay.Nodup
  valid : s.shared.requestTable.find kInvalidRequestId = none ∧
    kInvalidRequestId < s.shared.nextRequestId
  nodes : ∀ node ∈ s.computeNodes.items, node.Labelled s.Answered

/-- The next request id is not in use. -/
theorem Paced.next_not_underWay (h : s.Paced) : s.shared.nextRequestId ∉ s.underWay := by
  intro hmem
  obtain ⟨t, ht⟩ := h.known _ hmem
  exact h.drains.ne_next ht rfl

/-- A request that is issued is not under way yet. -/
theorem Paced.nodup_issued (h : s.Paced) (honce : s.underWay.Nodup) (effect : Effect) :
    (s.underWay + effect.issuedIds s.shared).Nodup := by
  unfold Effect.issuedIds
  split
  · rw [Multiset.add_zero]
    exact honce
  · rw [← Multiset.cons_zero, Multiset.add_cons, Multiset.add_zero, Multiset.nodup_cons]
    exact ⟨h.next_not_underWay, honce⟩

/-- A request that has been answered stays answered. -/
theorem Answered.keep {id : RequestId} (h : s.Answered id) (hpaced : s.Paced)
    (hticket : ∀ t, s.view.tickets id = some t → s'.view.tickets id = some t)
    (hunder : s'.underWay ≤ s.underWay + effect.issuedIds s.shared) : s'.Answered id := by
  obtain ⟨⟨t, ht⟩, hnot⟩ := h
  refine ⟨⟨t, hticket t ht⟩, fun hmem => ?_⟩
  rcases Multiset.mem_add.mp (Multiset.mem_of_le hunder hmem) with hold | hissued
  · exact hnot hold
  · unfold Effect.issuedIds at hissued
    split at hissued
    · exact Multiset.notMem_zero id hissued
    · exact hpaced.drains.ne_next ht (Multiset.mem_singleton.mp hissued)

/-- No request is written under the invalid id. -/
theorem valid_apply (hwrites : effect.Writes s.shared)
    (hshared : s'.shared = (s.popped scheduler).shared.apply effect)
    (h : s.shared.requestTable.find kInvalidRequestId = none ∧
      kInvalidRequestId < s.shared.nextRequestId) :
    s'.shared.requestTable.find kInvalidRequestId = none ∧
      kInvalidRequestId < s'.shared.nextRequestId := by
  obtain ⟨hnone, hlt⟩ := h
  rw [hshared]
  refine ⟨?_, Nat.lt_of_lt_of_le hlt (Nat.le_add_right _ _)⟩
  cases hrequest : effect.request with
  | none =>
      rw [Shared.table_of_none _ hrequest]
      exact hnone
  | some written =>
      rw [Shared.table_of_some _ hrequest, KeyedStore.find_insert, if_neg]
      · exact hnone
      · intro hinvalid
        rcases hwrites written hrequest with ⟨old, hold, -⟩ | ⟨hnext, -⟩
        · rw [← hinvalid, hnone] at hold
          cases hold
        · rw [← hnext, ← hinvalid] at hlt
          exact absurd hlt (Nat.lt_irrefl _)

/-- A response brings back a request that was under way, and is no longer. -/
theorem AllLabelled.returned {node node' : ComputeNode P} (h : s.AllLabelled)
    (hpop : s.shared.scheduler.popNext = some (event, scheduler))
    (hstep : ComputeNode.ComputeStep A node event (s.popped scheduler).shared node' effect)
    (htype : event.type = .returnResponse) {request : Request}
    (hrequest : s.shared.requestTable.find event.requestId = some request) :
    request.sourceNodeId = event.targetId ∧ request.requestId ≠ kInvalidRequestId ∧
      ¬ s.Answered request.requestId ∧
        ((s.popped scheduler).afterCompute event node' effect).Answered request.requestId := by
  have hkey : request.requestId = event.requestId := KeyedStore.key_of_find hrequest
  have hraised : event.record ∈ s.shared.scheduler.raised := by
    rw [Scheduler.popNext_raised hpop]
    exact Multiset.mem_cons_self _ _
  obtain ⟨ticket, hticket, hsource⟩ := h.paced.targets event.record hraised (by
    show event.type.atSource = true
    rw [htype]
    rfl)
  have hfound : s.view.tickets event.requestId = some request.ticket :=
    congrArg (Option.map Request.ticket) hrequest
  obtain rfl : request.ticket = ticket := Option.some.inj (hfound.symm.trans hticket)
  have hunder : event.requestId ∈ s.underWay := by
    apply mem_underWay hraised
    show event.type.carries = true
    rw [htype]
    rfl
  refine ⟨hsource, ?_, fun hanswered => hanswered.2 (hkey ▸ hunder), ?_⟩
  · intro hinvalid
    rw [← hkey, hinvalid, h.valid.1] at hrequest
    cases hrequest
  · have hsum := underWay_afterCompute hpop hstep
    have hnodup := h.paced.nodup_issued h.once effect
    rw [← hsum] at hnodup
    have hanswered : event.answered = {event.requestId} := by
      unfold Event.answered
      rw [htype]
      rfl
    rw [hanswered, ← Multiset.cons_zero, Multiset.add_cons, Multiset.add_zero,
      Multiset.nodup_cons] at hnodup
    rw [hkey]
    exact ⟨⟨_, h.paced.drains.ticket hstep.writes rfl hfound⟩, hnodup.1⟩

/-- An event of a compute node keeps the labels apart. -/
theorem AllLabelled.afterCompute {node node' : ComputeNode P} (hP : DecidesOnce P)
    (h : s.AllLabelled) (hpop : s.shared.scheduler.popNext = some (event, scheduler))
    (hfind : s.computeNodes.find event.targetId = some node)
    (hstep : ComputeNode.ComputeStep A node event (s.popped scheduler).shared node' effect) :
    ((s.popped scheduler).afterCompute event node' effect).AllLabelled := by
  have hunder : ((s.popped scheduler).afterCompute event node' effect).underWay ≤
      s.underWay + effect.issuedIds s.shared := by
    rw [← underWay_afterCompute hpop hstep]
    exact Multiset.le_add_right _ _
  have hmono : ∀ id, s.Answered id →
      ((s.popped scheduler).afterCompute event node' effect).Answered id := fun id hanswered =>
    hanswered.keep h.paced (fun t ht => h.paced.drains.ticket hstep.writes rfl ht) hunder
  refine ⟨h.paced.dispatch hpop (.compute hfind hstep),
    Multiset.nodup_of_le hunder (h.paced.nodup_issued h.once effect),
    valid_apply hstep.writes rfl h.valid, fun other hmem => ?_⟩
  rcases KeyedStore.mem_insert.mp hmem with rfl | ⟨hold, -⟩
  · obtain ⟨hin, hkey⟩ := KeyedStore.find_eq_some.mp hfind
    apply (h.nodes node hin).step hP hmono _ _ hstep
    · intro spec hup
      apply (h.paced.nodes node hin).ahead spec
      rw [List.drop_eq_getElem?_toList_append,
        show node.workload.requests[node.workload.nextIndex]? = some spec from hup]
      exact List.mem_append_left _ (List.mem_singleton_self spec)
    · intro htype request hrequest
      obtain ⟨hsource, hid, hbefore, hafter⟩ := h.returned hpop hstep htype hrequest
      exact ⟨hsource.trans hkey.symm, hid, hbefore, hafter⟩
  · exact (h.nodes other hold).frame rfl rfl rfl
      (fun current hcurrent => ⟨current, hcurrent, le_refl _⟩) hmono

/-- An event of the memory node leaves the records alone. -/
theorem AllLabelled.afterMemory {memoryNode : MemoryNode} (h : s.AllLabelled)
    (hpop : s.shared.scheduler.popNext = some (event, scheduler))
    (hfind : s.computeNodes.find event.targetId = none)
    (htarget : event.targetId = s.config.memoryNodeId)
    (hstep : MemoryNode.MemoryStep A s.memoryNode event (s.popped scheduler).shared memoryNode
      effect) :
    ((s.popped scheduler).afterMemory event memoryNode effect).AllLabelled := by
  have hunder := underWay_afterMemory hpop hstep
  have hmono : ∀ id, s.Answered id →
      ((s.popped scheduler).afterMemory event memoryNode effect).Answered id := by
    intro id hanswered
    apply hanswered.keep h.paced fun t ht => h.paced.drains.ticket hstep.writes rfl ht
    rw [hunder]
    exact Multiset.le_add_right _ (effect.issuedIds s.shared)
  refine ⟨h.paced.dispatch hpop (.memory hfind htarget hstep), ?_,
    valid_apply hstep.writes rfl h.valid, fun node hmem => ?_⟩
  · rw [hunder]
    exact h.once
  · exact (h.nodes node hmem).frame rfl rfl rfl
      (fun current hcurrent => ⟨current, hcurrent, le_refl _⟩) hmono

/-- A release puts no request under way. -/
theorem release_underWay (A : Arith) (s : Simulator P) :
    (releaseNextEpochIfReady A s).underWay = s.underWay := by
  obtain ⟨records, htypes, hshared⟩ := release_shared A s
  unfold underWay
  rw [(release_nodes A s).2, hshared]
  show carried (s.shared.scheduler.scheduleAll records).raised + _ = _
  rw [Scheduler.scheduleAll_raised, carried_add, carried_generates htypes, Multiset.zero_add]

theorem Answered.release {id : RequestId} (h : s.Answered id) :
    (releaseNextEpochIfReady A s).Answered id := by
  obtain ⟨⟨t, ht⟩, hnot⟩ := h
  obtain ⟨records, -, hshared⟩ := release_shared A s
  refine ⟨⟨t, ?_⟩, by rw [release_underWay]; exact hnot⟩
  show ((releaseNextEpochIfReady A s).shared.requestTable.find id).map Request.ticket = _
  rw [hshared]
  exact ht

theorem AllLabelled.release (h : s.AllLabelled) :
    (releaseNextEpochIfReady A s).AllLabelled := by
  refine ⟨h.paced.release, by rw [release_underWay]; exact h.once, ?_, fun node hmem => ?_⟩
  · obtain ⟨records, -, hshared⟩ := release_shared A s
    rw [hshared]
    exact h.valid
  · rw [(release_nodes A s).1] at hmem
    exact (h.nodes node hmem).frame rfl rfl rfl
      (fun current hcurrent => ⟨current, hcurrent, le_refl _⟩) fun _ hanswered => hanswered.release

theorem AllLabelled.move (hP : DecidesOnce P) (h : s.AllLabelled)
    (hmove : Run.Moves (step A) s t) : t.AllLabelled := by
  obtain ⟨event, scheduler, s', hpop, hdispatched, rfl⟩ := moves_iff.mp hmove
  apply AllLabelled.release
  cases hdispatched with
  | compute hfind hstep => exact h.afterCompute hP hpop hfind hstep
  | memory hfind htarget hstep => exact h.afterMemory hpop hfind htarget hstep

theorem allLabelled_init (hP : DecidesOnce P) {config : SimulationConfig}
    (generatedWorkload : Option GeneratedWorkload)
    (hnodup : (config.computeNodes.map ComputeNodeConfig.nodeId).Nodup)
    (hsorted : ∀ c ∈ config.computeNodes, (c.requests.map RequestSpec.epochId).Pairwise (· ≤ ·)) :
    (ofConfig P config generatedWorkload).AllLabelled := by
  have hpaced := paced_init (P := P) generatedWorkload hnodup hsorted
  have hunder : (ofConfig P config generatedWorkload).underWay = 0 := by
    rw [Multiset.eq_zero_iff_forall_notMem]
    intro id hid
    obtain ⟨t, ht⟩ := hpaced.known id hid
    cases ht
  refine ⟨hpaced, by rw [hunder]; exact Multiset.nodup_zero, ⟨rfl, Nat.zero_lt_one⟩, ?_⟩
  obtain ⟨plan, hplan⟩ : ∃ plan, (ofConfig P config generatedWorkload).computeNodes =
      emplaceNodes P config plan := ⟨_, rfl⟩
  intro node hmem
  rw [hplan] at hmem
  obtain ⟨nodeConfig, -, rfl⟩ := (emplaceNodes_spec P config plan).1 node hmem
  have hnone : (makeComputeNode P config plan nodeConfig).decisions = [] := hP.init
  refine ⟨?_, ?_, List.nodup_nil, ?_, ?_⟩
  · rw [hnone]
    exact List.nodup_nil
  · rw [hnone]
    exact fun record hrecord => absurd hrecord List.not_mem_nil
  · exact fun label hlabel => absurd hlabel List.not_mem_nil
  · exact fun label hlabel => absurd hlabel List.not_mem_nil

theorem allLabelled_of_construct {rng : RandomSource} {config : SimulationConfig}
    {s t : Simulator (makeCachePolicy A config.localCache)} (h : construct A rng config = .ok s)
    (ht : Reachable A s t) : t.AllLabelled := by
  have hP := makeCachePolicy_decidesOnce A config.localCache
  unfold construct at h
  simp only [bind_eq_ok, pure_eq_ok, Prod.exists] at h
  obtain ⟨prepared, generatedWorkload, hprepared, rfl⟩ := h
  obtain ⟨hnodup, hsorted⟩ := streams_of_prepareConfig hprepared
  exact Run.invariant_of_reaches AllLabelled (fun _ _ ha hmove => ha.move hP hmove)
    (allLabelled_init hP generatedWorkload hnodup hsorted).release ht

end Simulator

end DmSimulator
