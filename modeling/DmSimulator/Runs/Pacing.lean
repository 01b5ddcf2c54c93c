/-
  DmSimulator.Runs.Pacing

  How a compute node paces its request stream, with unbounded time.

  `NodeInv` says what a node has issued, that its outstanding counter is right,
  and which `GenerateRequest` event it has pending: under completion-driven
  issue a node with work in the released epoch has exactly one thing going on (a
  generate event, an outstanding request, or a completion event); under a bursty
  schedule it has exactly the generate event of its next request.
-/
import DmSimulator.Runs.Servers
import DmSimulator.Workloads.Schedule

namespace DmSimulator

/-- What the constructor guarantees about the configuration it keeps. -/
structure Prepared (config : SimulationConfig) : Prop where
  channels_pos : 0 < config.memoryChannelCount
  bandwidth_pos : 0 < config.memoryBandwidthBytesPerTime
  nodeIds_nodup : (config.computeNodes.map ComputeNodeConfig.nodeId).Nodup
  memoryNode_fresh : ∀ nodeConfig ∈ config.computeNodes,
    nodeConfig.nodeId ≠ config.memoryNodeId
  epochs_sorted : ∀ nodeConfig ∈ config.computeNodes,
    (nodeConfig.requests.map RequestSpec.epochId).Pairwise (· ≤ ·)
  offsets_sorted : Simulator.issueModeOf config = .scheduledBursty →
    ∀ nodeConfig ∈ config.computeNodes, OffsetsSorted nodeConfig.requests

/-- The ticket was issued by the node for the spec. -/
def Ticket.For (t : Ticket) (nodeId : NodeId) (spec : RequestSpec) : Prop :=
  t.sourceNodeId = nodeId ∧ t.objectId = spec.objectId ∧ t.sizeBytes = spec.sizeBytes ∧
    t.epochId = spec.epochId

/-- `ids` are the requests the node has issued: one for each spec, in order. -/
structure Issued (tickets : Tickets) (nodeId : NodeId) (specs : List RequestSpec)
    (ids : List RequestId) : Prop where
  increasing : ids.Pairwise (· < ·)
  forSpecs : List.Forall₂ (fun id spec => ∃ t, tickets id = some t ∧ t.For nodeId spec) ids specs
  complete : ∀ id t, tickets id = some t → t.sourceNodeId = nodeId → id ∈ ids

namespace Issued

variable {tickets tickets' : Tickets} {nodeId : NodeId} {specs : List RequestSpec}
  {ids : List RequestId}

/-- Every id of the list is a request of the node. -/
theorem find (h : Issued tickets nodeId specs ids) {id : RequestId} (hid : id ∈ ids) :
    ∃ t, tickets id = some t ∧ t.sourceNodeId = nodeId := by
  obtain ⟨hlength, hget⟩ := List.forall₂_iff_get.mp h.forSpecs
  obtain ⟨i, hi, rfl⟩ := List.getElem_of_mem hid
  obtain ⟨t, ht, hfor⟩ := hget i hi (by rw [← hlength]; exact hi)
  exact ⟨t, ht, hfor.1⟩

/-- What a node has issued does not depend on the tickets of other nodes. -/
theorem congr (h : Issued tickets nodeId specs ids)
    (hold : ∀ id t, tickets id = some t → tickets' id = some t)
    (hnew : ∀ id t, tickets' id = some t → t.sourceNodeId = nodeId → tickets id = some t) :
    Issued tickets' nodeId specs ids := by
  refine ⟨h.increasing, h.forSpecs.imp ?_, ?_⟩
  · rintro id spec ⟨t, ht, hfor⟩
    exact ⟨t, hold id t ht, hfor⟩
  · intro id t ht hsource
    exact h.complete id t (hnew id t ht hsource) hsource

/-- The node issues one more request under a larger id. -/
theorem snoc (h : Issued tickets nodeId specs ids) {new : RequestId} {ticket : Ticket}
    {spec : RequestSpec} (hfor : ticket.For nodeId spec)
    (hlt : ∀ id t, tickets id = some t → id < new)
    (htickets : ∀ id, tickets' id = if id = new then some ticket else tickets id) :
    Issued tickets' nodeId (specs ++ [spec]) (ids ++ [new]) := by
  have hold : ∀ id t, tickets id = some t → tickets' id = some t := by
    intro id t ht
    rw [htickets id, if_neg (Nat.ne_of_lt (hlt id t ht)), ht]
  refine ⟨List.pairwise_append.mpr ⟨h.increasing, List.pairwise_singleton _ _, ?_⟩, ?_, ?_⟩
  · intro id hid last hlast
    obtain ⟨t, ht, -⟩ := h.find hid
    rw [List.mem_singleton.mp hlast]
    exact hlt id t ht
  · refine List.rel_append (h.forSpecs.imp ?_) (.cons ⟨ticket, ?_, hfor⟩ .nil)
    · rintro id spec' ⟨t, ht, hfor'⟩
      exact ⟨t, hold id t ht, hfor'⟩
    · rw [htickets, if_pos rfl]
  · intro id t ht hsource
    rw [htickets id] at ht
    by_cases heq : id = new
    · rw [heq]
      exact List.mem_append_right ids (List.mem_singleton_self new)
    · rw [if_neg heq] at ht
      exact List.mem_append_left _ (h.complete id t ht hsource)

end Issued

def outstandingWeight (nodeId : NodeId) (request : Request) : Nat :=
  if request.sourceNodeId = nodeId ∧ request.currentStage ≠ .completed then 1 else 0

/-- The number of requests of a node that have not been answered. -/
def outstandingIn (table : RequestTable) (nodeId : NodeId) : Nat :=
  table.total (outstandingWeight nodeId)

def generatesFor (pending : Multiset EventRecord) (nodeId : NodeId) : Multiset EventRecord :=
  pending.filter (fun e => e.type = .generateRequest ∧ e.targetId = nodeId)

def completionsFor (pending : Multiset EventRecord) (nodeId : NodeId) : Multiset EventRecord :=
  pending.filter (fun e => e.type = .requestComplete ∧ e.targetId = nodeId)

/-- The things a node has going on. -/
def load (v : View) (nodeId : NodeId) : Nat :=
  (generatesFor v.pending nodeId).card + outstandingIn v.requestTable nodeId +
    (completionsFor v.pending nodeId).card

def generateEvent (nodeId : NodeId) (time : SimTime) : EventRecord :=
  { time := time, type := .generateRequest, targetId := nodeId }

namespace ComputeNode

variable {P : CachePolicy}

/-- The next request of the node belongs to the released epoch. -/
def Due (node : ComputeNode P) (released : Option EpochId) : Prop :=
  node.nextRequestEpoch.isSome ∧ node.nextRequestEpoch = released

instance (node : ComputeNode P) (released : Option EpochId) : Decidable (node.Due released) :=
  inferInstanceAs (Decidable (_ ∧ _))

theorem due_iff {node : ComputeNode P} {released : Option EpochId} :
    node.Due released ↔
      ∃ spec, node.workload.upcoming = some spec ∧ released = some spec.epochId := by
  unfold Due nextRequestEpoch
  cases node.workload.upcoming with
  | none => simp
  | some spec =>
      simp only [Option.map_some, Option.isSome_some, true_and, Option.some.injEq,
        exists_eq_left']
      exact eq_comm

/-- What a completion schedules while the node is in the released epoch. -/
theorem nextOnCompletion_eq {node : ComputeNode P} {released : Option EpochId}
    (hcurrent : node.currentEpoch = released) (now : SimTime) :
    node.nextOnCompletion now =
      if node.issueMode ≠ .scheduledBursty ∧ node.Due released then
        some (generateEvent node.nodeId now)
      else none := by
  unfold nextOnCompletion
  rw [hcurrent]
  cases hup : node.workload.upcoming with
  | none =>
      have hnot : ¬ node.Due released := by
        rw [due_iff, hup]
        simp
      simp [hnot]
  | some spec =>
      have hiff : node.Due released ↔ released = some spec.epochId := by
        rw [due_iff, hup]
        simp
      simp only [hiff]
      rfl

/-- What a bursty node schedules behind an issue in the released epoch. -/
theorem nextBurst_eq {node : ComputeNode P} {released : Option EpochId}
    (hcurrent : node.currentEpoch = released) :
    node.nextBurst .exact =
      if node.issueMode = .scheduledBursty ∧ node.Due released then
        some (generateEvent node.nodeId
          (node.currentEpochStartTime + node.nextRequestIssueOffset))
      else none := by
  unfold nextBurst
  rw [hcurrent]
  cases hup : node.workload.upcoming with
  | none =>
      have hnot : ¬ node.Due released := by
        rw [due_iff, hup]
        simp
      simp [hnot]
  | some spec =>
      have hiff : node.Due released ↔ released = some spec.epochId := by
        rw [due_iff, hup]
        simp
      have hoffset : node.nextRequestIssueOffset = spec.scheduledIssueOffset := by
        simp [nextRequestIssueOffset, hup]
      simp only [hiff, hoffset]
      rfl

theorem nextRequestIssueOffset_eq {node : ComputeNode P} {spec : RequestSpec}
    (h : node.workload.upcoming = some spec) :
    node.nextRequestIssueOffset = spec.scheduledIssueOffset := by
  simp [nextRequestIssueOffset, h]

end ComputeNode

/-- The pacing of a node's generate events. -/
structure Pacing {P : CachePolicy} (v : View) (released : Option EpochId) (base : SimTime)
    (node : ComputeNode P) : Prop where
  load_le : node.issueMode ≠ .scheduledBursty → load v node.nodeId ≤ 1
  generates_due : node.issueMode ≠ .scheduledBursty →
    generatesFor v.pending node.nodeId ≠ 0 → node.Due released
  due_load : node.issueMode ≠ .scheduledBursty → node.Due released →
    load v node.nodeId = 1
  burst : node.issueMode = .scheduledBursty →
    generatesFor v.pending node.nodeId =
      if node.Due released then
        {generateEvent node.nodeId (base + node.nextRequestIssueOffset)}
      else 0

structure NodeInv {P : CachePolicy} (config : SimulationConfig) (v : View)
    (released : Option EpochId) (base : SimTime) (node : ComputeNode P) : Prop where
  configured : ∃ nodeConfig ∈ config.computeNodes,
    node.nodeId = nodeConfig.nodeId ∧ node.workload.requests = nodeConfig.requests
  memoryNodeId_eq : node.memoryNodeId = config.memoryNodeId
  issueMode_eq : node.issueMode = Simulator.issueModeOf config
  linkLatency_eq : node.oneWayLinkLatency = config.oneWayLinkLatency
  hitLatency_eq : node.localCacheHitLatency = config.localCache.hitLatency
  issued : ∃ ids, Issued v.tickets node.nodeId
    (node.workload.requests.take node.workload.nextIndex) ids
  cursor_le : node.workload.nextIndex ≤ node.workload.requests.length
  outstanding : node.outstandingRequests = outstandingIn v.requestTable node.nodeId
  upcoming_epoch : ∀ spec epoch, node.workload.upcoming = some spec →
    released = some epoch → epoch ≤ spec.epochId
  entered : ∀ id t, v.tickets id = some t → t.sourceNodeId = node.nodeId →
    released = some t.epochId → node.currentEpoch = some t.epochId
  pacing : Pacing v released base node

-- ============================================================================
-- Counting pending events
-- ============================================================================

theorem generatesFor_cons_of_type {pending : Multiset EventRecord} {e : EventRecord}
    (h : e.type ≠ .generateRequest) (nodeId : NodeId) :
    generatesFor (e ::ₘ pending) nodeId = generatesFor pending nodeId :=
  Multiset.filter_cons_of_neg pending fun hboth => h hboth.1

theorem generatesFor_cons {pending : Multiset EventRecord} {e : EventRecord} {nodeId : NodeId}
    (htype : e.type = .generateRequest) (htarget : e.targetId = nodeId) :
    generatesFor (e ::ₘ pending) nodeId = e ::ₘ generatesFor pending nodeId :=
  Multiset.filter_cons_of_pos pending ⟨htype, htarget⟩

theorem generatesFor_generate (pending : Multiset EventRecord) (nodeId : NodeId)
    (time : SimTime) :
    generatesFor (generateEvent nodeId time ::ₘ pending) nodeId =
      generateEvent nodeId time ::ₘ generatesFor pending nodeId :=
  generatesFor_cons (e := generateEvent nodeId time) rfl rfl

theorem completionsFor_cons_of_type {pending : Multiset EventRecord} {e : EventRecord}
    (h : e.type ≠ .requestComplete) (nodeId : NodeId) :
    completionsFor (e ::ₘ pending) nodeId = completionsFor pending nodeId :=
  Multiset.filter_cons_of_neg pending fun hboth => h hboth.1

theorem completionsFor_cons {pending : Multiset EventRecord} {e : EventRecord}
    {nodeId : NodeId} (htype : e.type = .requestComplete) (htarget : e.targetId = nodeId) :
    completionsFor (e ::ₘ pending) nodeId = e ::ₘ completionsFor pending nodeId :=
  Multiset.filter_cons_of_pos pending ⟨htype, htarget⟩

/-- Rewriting a request changes the outstanding count by its own weight. -/
theorem outstandingIn_insert {table : RequestTable} {id : RequestId} {request request' : Request}
    (hfind : table.find id = some request) (hid : request'.requestId = id) (nodeId : NodeId) :
    outstandingIn (table.insert request') nodeId + outstandingWeight nodeId request =
      outstandingIn table nodeId + outstandingWeight nodeId request' :=
  KeyedStore.total_replace (outstandingWeight nodeId) hfind hid

/-- A new request adds its own weight. -/
theorem outstandingIn_insert_new {table : RequestTable} (request : Request)
    (hfind : table.find request.requestId = none) (nodeId : NodeId) :
    outstandingIn (table.insert request) nodeId =
      outstandingIn table nodeId + outstandingWeight nodeId request := by
  unfold outstandingIn
  rw [KeyedStore.total_insert, KeyedStore.erase_eq_self hfind]
  omega

-- ============================================================================
-- Moves
-- ============================================================================

namespace NodeInv

variable {P : CachePolicy} {config : SimulationConfig} {v v' : View}
  {released : Option EpochId} {base : SimTime} {node : ComputeNode P}

/-- The node keeps what it has issued, its generate events, and the number of
    things it has going on; its cache may change. -/
theorem frame (h : NodeInv config v released base node)
    (hold : ∀ id t, v.tickets id = some t → v'.tickets id = some t)
    (hnew : ∀ id t, v'.tickets id = some t → t.sourceNodeId = node.nodeId →
      v.tickets id = some t)
    (hgenerates : generatesFor v'.pending node.nodeId = generatesFor v.pending node.nodeId)
    (hload : outstandingIn v'.requestTable node.nodeId +
        (completionsFor v'.pending node.nodeId).card =
      outstandingIn v.requestTable node.nodeId + (completionsFor v.pending node.nodeId).card)
    (localCache : LocalCache P) :
    NodeInv config v' released base
      { node with
        localCache := localCache
        outstandingRequests := outstandingIn v'.requestTable node.nodeId } := by
  have hsame : load v' node.nodeId = load v node.nodeId := by
    unfold load
    rw [hgenerates]
    lia
  obtain ⟨ids, hids⟩ := h.issued
  refine ⟨h.configured, h.memoryNodeId_eq, h.issueMode_eq, h.linkLatency_eq, h.hitLatency_eq,
    ⟨ids, hids.congr hold hnew⟩, h.cursor_le, rfl, h.upcoming_epoch, ?_, ?_⟩
  · intro id t ht hsource hreleased
    exact h.entered id t (hnew id t ht hsource) hsource hreleased
  · refine ⟨?_, ?_, ?_, ?_⟩
    · intro hmode
      rw [hsame]
      exact h.pacing.load_le hmode
    · intro hmode hne
      rw [hgenerates] at hne
      exact h.pacing.generates_due hmode hne
    · intro hmode hdue
      rw [hsame]
      exact h.pacing.due_load hmode hdue
    · intro hmode
      rw [hgenerates]
      exact h.pacing.burst hmode

/-- The frame rule for a node nothing happens to. -/
theorem frame_other (h : NodeInv config v released base node)
    (hold : ∀ id t, v.tickets id = some t → v'.tickets id = some t)
    (hnew : ∀ id t, v'.tickets id = some t → t.sourceNodeId = node.nodeId →
      v.tickets id = some t)
    (hgenerates : generatesFor v'.pending node.nodeId = generatesFor v.pending node.nodeId)
    (houtstanding : outstandingIn v'.requestTable node.nodeId =
      outstandingIn v.requestTable node.nodeId)
    (hcompletions : completionsFor v'.pending node.nodeId =
      completionsFor v.pending node.nodeId) :
    NodeInv config v' released base node := by
  have hframe := h.frame hold hnew hgenerates (by rw [houtstanding, hcompletions])
    node.localCache
  rw [houtstanding, ← h.outstanding] at hframe
  exact hframe

/-- A completion event of the node is processed. -/
theorem complete (h : NodeInv config v released base node) {e : EventRecord}
    {rest : Multiset EventRecord} (hpending : v.pending = e ::ₘ rest)
    (htype : e.type = .requestComplete) (htarget : e.targetId = node.nodeId)
    (hcurrent : node.currentEpoch = released) (now : SimTime)
    (htable : v'.requestTable = v.requestTable)
    (hpending' : v'.pending = (node.nextOnCompletion now).elim 0 (fun e => {e}) + rest) :
    NodeInv config v' released base node := by
  have htickets : v'.tickets = v.tickets := by
    unfold View.tickets
    rw [htable]
  have hgenerates : generatesFor v.pending node.nodeId = generatesFor rest node.nodeId := by
    rw [hpending, generatesFor_cons_of_type (by rw [htype]; simp)]
  have hcompletions : completionsFor v.pending node.nodeId =
      e ::ₘ completionsFor rest node.nodeId := by
    rw [hpending, completionsFor_cons htype htarget]
  rw [ComputeNode.nextOnCompletion_eq hcurrent] at hpending'
  refine ⟨h.configured, h.memoryNodeId_eq, h.issueMode_eq, h.linkLatency_eq, h.hitLatency_eq,
    htickets ▸ h.issued, h.cursor_le, htable ▸ h.outstanding, h.upcoming_epoch,
    htickets ▸ h.entered, ?_⟩
  by_cases hmode : node.issueMode = .scheduledBursty
  · have hrest : v'.pending = rest := by
      simpa [hmode] using hpending'
    refine ⟨fun hnot => absurd hmode hnot, fun hnot => absurd hmode hnot,
      fun hnot => absurd hmode hnot, ?_⟩
    intro _
    rw [hrest, ← hgenerates]
    exact h.pacing.burst hmode
  · -- the completion was all the node had going on
    have hload := h.pacing.load_le hmode
    unfold load at hload
    rw [hgenerates, hcompletions, Multiset.card_cons] at hload
    have hnone : generatesFor rest node.nodeId = 0 := by
      rw [← Multiset.card_eq_zero]
      lia
    by_cases hdue : node.Due released
    · have hcons : v'.pending = generateEvent node.nodeId now ::ₘ rest := by
        rw [hpending', if_pos ⟨hmode, hdue⟩]
        rfl
      have hload' : load v' node.nodeId = 1 := by
        unfold load
        rw [hcons, generatesFor_generate, hnone,
          completionsFor_cons_of_type (by simp [generateEvent]), htable]
        simp only [Multiset.card_cons, Multiset.card_zero]
        lia
      exact ⟨fun _ => by rw [hload'], fun _ _ => hdue, fun _ _ => hload',
        fun heq => absurd heq hmode⟩
    · have hrest : v'.pending = rest := by
        simpa [hdue] using hpending'
      refine ⟨?_, ?_, fun _ hdue' => absurd hdue' hdue, fun heq => absurd heq hmode⟩
      · intro _
        unfold load
        rw [hrest, htable]
        lia
      · intro _ hne
        rw [hrest] at hne
        exact absurd hnone hne

/-- A node with a generate event pending has a request to issue. -/
theorem due_of_generate (h : NodeInv config v released base node) {e : EventRecord}
    (he : e ∈ v.pending) (htype : e.type = .generateRequest)
    (htarget : e.targetId = node.nodeId) : node.Due released := by
  have hmem : e ∈ generatesFor v.pending node.nodeId :=
    Multiset.mem_filter.mpr ⟨he, htype, htarget⟩
  have hne : generatesFor v.pending node.nodeId ≠ 0 := by
    intro heq
    rw [heq] at hmem
    simp at hmem
  by_cases hmode : node.issueMode = .scheduledBursty
  · by_contra hnot
    rw [h.pacing.burst hmode, if_neg hnot] at hne
    exact hne rfl
  · exact h.pacing.generates_due hmode hne

/-- A bursty node recovers the base of the epoch from the time of its event. -/
theorem epochBase_eq (h : NodeInv config v released base node) {e : EventRecord}
    (he : e ∈ v.pending) (htype : e.type = .generateRequest)
    (htarget : e.targetId = node.nodeId) {spec : RequestSpec}
    (hup : node.workload.upcoming = some spec) (hmode : node.issueMode = .scheduledBursty) :
    e.time = base + spec.scheduledIssueOffset ∧ node.epochBase .exact spec e.time = base := by
  have hmem : e ∈ generatesFor v.pending node.nodeId :=
    Multiset.mem_filter.mpr ⟨he, htype, htarget⟩
  rw [h.pacing.burst hmode, if_pos (h.due_of_generate he htype htarget),
    Multiset.mem_singleton, ComputeNode.nextRequestIssueOffset_eq hup] at hmem
  have htime : e.time = base + spec.scheduledIssueOffset := congrArg EventRecord.time hmem
  refine ⟨htime, ?_⟩
  unfold ComputeNode.epochBase
  rw [if_pos hmode, htime, if_pos (Nat.le_add_left _ _)]
  exact Nat.add_sub_cancel _ _

/-- The request specs behind the cursor are of no earlier epoch. -/
theorem epoch_le_of_next (h : NodeInv config v released base node) (hprepared : Prepared config)
    {spec next : RequestSpec} (hup : node.workload.upcoming = some spec)
    (hnext : node.workload.advance.upcoming = some next) : spec.epochId ≤ next.epochId := by
  obtain ⟨nodeConfig, hmem, -, hrequests⟩ := h.configured
  have hsorted := hprepared.epochs_sorted nodeConfig hmem
  rw [← hrequests] at hsorted
  obtain ⟨hlt, hspec⟩ := List.getElem?_eq_some_iff.mp hup
  obtain ⟨hlt', hnext'⟩ := List.getElem?_eq_some_iff.mp hnext
  have hpair := List.pairwise_iff_getElem.mp hsorted node.workload.nextIndex
    (node.workload.nextIndex + 1) (by simpa using hlt) (by rw [List.length_map]; exact hlt')
    (Nat.lt_succ_self _)
  simp only [List.getElem_map] at hpair
  rw [hspec] at hpair
  exact le_of_le_of_eq hpair (congrArg RequestSpec.epochId hnext')

/-- Within an epoch a bursty node issues at no earlier offsets. -/
theorem offset_le_of_next (h : NodeInv config v released base node) (hprepared : Prepared config)
    (hmode : node.issueMode = .scheduledBursty) {spec next : RequestSpec}
    (hup : node.workload.upcoming = some spec)
    (hnext : node.workload.advance.upcoming = some next) (hepoch : spec.epochId = next.epochId) :
    spec.scheduledIssueOffset ≤ next.scheduledIssueOffset := by
  obtain ⟨nodeConfig, hmem, -, hrequests⟩ := h.configured
  have hchain := hprepared.offsets_sorted (h.issueMode_eq ▸ hmode) nodeConfig hmem
  rw [← hrequests] at hchain
  obtain ⟨hlt, hspec⟩ := List.getElem?_eq_some_iff.mp hup
  obtain ⟨hlt', hnext'⟩ := List.getElem?_eq_some_iff.mp hnext
  have hpair := List.isChain_iff_getElem.mp hchain node.workload.nextIndex hlt'
  rw [hspec] at hpair
  have hnext'' : node.workload.requests[node.workload.nextIndex + 1] = next := hnext'
  rw [hnext''] at hpair
  exact hpair hepoch

/-- The next event of a bursty node does not lie in the past. -/
theorem nextBurst_future (h : NodeInv config v released base node) (hprepared : Prepared config)
    {e : EventRecord} (he : e ∈ v.pending) (htype : e.type = .generateRequest)
    (htarget : e.targetId = node.nodeId) {spec : RequestSpec}
    (hup : node.workload.upcoming = some spec) (stats : Stats) {r : EventRecord}
    (hr : (node.afterIssue .exact stats spec e.time).nextBurst .exact = some r) :
    e.time ≤ r.time := by
  obtain ⟨spec', hup', hreleased⟩ :=
    ComputeNode.due_iff.mp (h.due_of_generate he htype htarget)
  obtain rfl : spec = spec' := Option.some.inj (hup.symm.trans hup')
  rw [ComputeNode.nextBurst_eq hreleased.symm] at hr
  split at hr
  · rename_i hcond
    obtain ⟨hmode, hdue⟩ := hcond
    obtain ⟨next, hnext, hepoch⟩ := ComputeNode.due_iff.mp hdue
    obtain ⟨htime, hbase⟩ := h.epochBase_eq he htype htarget hup hmode
    have hle := h.offset_le_of_next hprepared hmode hup hnext
      (Option.some.inj (hreleased.symm.trans hepoch))
    rw [← Option.some.inj hr, ComputeNode.nextRequestIssueOffset_eq hnext]
    show e.time ≤ node.epochBase .exact spec e.time + next.scheduledIssueOffset
    rw [hbase, htime]
    exact Nat.add_le_add_left hle base
  · cases hr

/-- In a burst the next request is due, at the same base, as soon as one is issued. -/
theorem burst_issue (h : NodeInv config v released base node) {e : EventRecord}
    {rest : Multiset EventRecord} (hpending : v.pending = e ::ₘ rest)
    (htype : e.type = .generateRequest) (htarget : e.targetId = node.nodeId)
    {spec : RequestSpec} (hup : node.workload.upcoming = some spec) (stats : Stats)
    (hmode : node.issueMode = .scheduledBursty) {lookup : EventRecord}
    (hlookup : lookup.type = .localCacheLookup)
    (hpending' : v'.pending =
      ((node.afterIssue .exact stats spec e.time).nextBurst .exact).elim 0 (fun e => {e}) +
        lookup ::ₘ rest) :
    generatesFor v'.pending node.nodeId =
      if (node.afterIssue .exact stats spec e.time).Due released then
        {generateEvent node.nodeId
          (base + (node.afterIssue .exact stats spec e.time).nextRequestIssueOffset)}
      else 0 := by
  have hmem : e ∈ v.pending := by
    rw [hpending]
    exact Multiset.mem_cons_self e rest
  have hdue := h.due_of_generate hmem htype htarget
  obtain ⟨spec', hup', hreleased⟩ := ComputeNode.due_iff.mp hdue
  obtain rfl : spec = spec' := Option.some.inj (hup.symm.trans hup')
  have hcurrent : (node.afterIssue .exact stats spec e.time).currentEpoch = released :=
    hreleased.symm
  -- the event was the only one
  have hsingle := h.pacing.burst hmode
  rw [hpending, generatesFor_cons htype htarget, if_pos hdue] at hsingle
  obtain ⟨-, hrest⟩ := (Multiset.singleton_eq_cons_iff _).mp hsingle.symm
  have hbase : (node.afterIssue .exact stats spec e.time).currentEpochStartTime = base :=
    (h.epochBase_eq hmem htype htarget hup hmode).2
  have hnil : generatesFor (lookup ::ₘ rest) node.nodeId = 0 := by
    rw [generatesFor_cons_of_type (by rw [hlookup]; simp), hrest]
  rw [ComputeNode.nextBurst_eq hcurrent] at hpending'
  by_cases hnext : (node.afterIssue .exact stats spec e.time).Due released
  · rw [hpending', if_pos ⟨hmode, hnext⟩, if_pos hnext, hbase, Option.elim_some,
      Multiset.singleton_add]
    exact (generatesFor_generate _ node.nodeId _).trans (by rw [hnil]; rfl)
  · rw [hpending', if_neg (fun hboth => hnext hboth.2), if_neg hnext, Option.elim_none,
      Multiset.zero_add, hnil]

/-- Outside bursts the event was all the node had going on; now it is the request. -/
theorem load_issue (h : NodeInv config v released base node) {e : EventRecord}
    {rest : Multiset EventRecord} (hpending : v.pending = e ::ₘ rest)
    (htype : e.type = .generateRequest) (htarget : e.targetId = node.nodeId)
    {spec : RequestSpec} {stats : Stats}
    (hcurrent : (node.afterIssue .exact stats spec e.time).currentEpoch = released)
    (hmode : node.issueMode ≠ .scheduledBursty) {lookup : EventRecord}
    (hlookup : lookup.type = .localCacheLookup)
    (hpending' : v'.pending =
      ((node.afterIssue .exact stats spec e.time).nextBurst .exact).elim 0 (fun e => {e}) +
        lookup ::ₘ rest)
    (houtstanding : outstandingIn v'.requestTable node.nodeId =
      outstandingIn v.requestTable node.nodeId + 1) :
    generatesFor v'.pending node.nodeId = 0 ∧ load v' node.nodeId = 1 := by
  have hload := h.pacing.load_le hmode
  unfold load at hload
  rw [hpending, generatesFor_cons htype htarget,
    completionsFor_cons_of_type (by rw [htype]; simp), Multiset.card_cons] at hload
  rw [ComputeNode.nextBurst_eq hcurrent, if_neg (fun hboth => hmode hboth.1), Option.elim_none,
    Multiset.zero_add] at hpending'
  have hnil : generatesFor v'.pending node.nodeId = 0 := by
    rw [hpending', generatesFor_cons_of_type (by rw [hlookup]; simp), ← Multiset.card_eq_zero]
    lia
  have hcompletions : completionsFor v'.pending node.nodeId = completionsFor rest node.nodeId := by
    rw [hpending', completionsFor_cons_of_type (by rw [hlookup]; simp)]
  refine ⟨hnil, ?_⟩
  unfold load
  rw [hnil, hcompletions, houtstanding, Multiset.card_zero]
  lia

/-- The tickets after a request has been issued under the next id. -/
theorem tickets_issue {request : Request} (htable : v'.requestTable = v.requestTable.insert request)
    (hid : request.requestId = v.nextRequestId) (id : RequestId) :
    v'.tickets id = if id = v.nextRequestId then some request.ticket else v.tickets id := by
  unfold View.tickets
  rw [htable, updates_insert v.requestTable _ id, hid]
  by_cases heq : id = v.nextRequestId
  · rw [if_pos heq, if_pos heq]
    rfl
  · rw [if_neg heq, if_neg heq]

/-- The node issues its next request. -/
theorem issue (h : NodeInv config v released base node) (hprepared : Prepared config)
    (hids : ∀ id t, v.tickets id = some t → id < v.nextRequestId) {e : EventRecord}
    {rest : Multiset EventRecord} (hpending : v.pending = e ::ₘ rest)
    (htype : e.type = .generateRequest) (htarget : e.targetId = node.nodeId)
    {spec : RequestSpec} (hup : node.workload.upcoming = some spec) (stats : Stats)
    (htable : v'.requestTable =
      v.requestTable.insert (node.requestFor v.nextRequestId spec e.time))
    {lookup : EventRecord} (hlookup : lookup.type = .localCacheLookup)
    (hpending' : v'.pending =
      ((node.afterIssue .exact stats spec e.time).nextBurst .exact).elim 0 (fun e => {e}) +
        lookup ::ₘ rest) :
    NodeInv config v' released base (node.afterIssue .exact stats spec e.time) := by
  have hdue := h.due_of_generate (by rw [hpending]; exact Multiset.mem_cons_self e rest)
    htype htarget
  obtain ⟨spec', hup', hreleased⟩ := ComputeNode.due_iff.mp hdue
  obtain rfl : spec = spec' := Option.some.inj (hup.symm.trans hup')
  have hcurrent : (node.afterIssue .exact stats spec e.time).currentEpoch = released :=
    hreleased.symm
  have hnone : v.requestTable.find v.nextRequestId = none := by
    cases hfind : v.requestTable.find v.nextRequestId with
    | none => rfl
    | some request =>
        have hlt := hids v.nextRequestId request.ticket (by unfold View.tickets; rw [hfind]; rfl)
        exact absurd hlt (Nat.lt_irrefl _)
  have houtstanding : outstandingIn v'.requestTable node.nodeId =
      outstandingIn v.requestTable node.nodeId + 1 := by
    rw [htable, outstandingIn_insert_new _ hnone]
    simp [outstandingWeight, ComputeNode.requestFor]
  obtain ⟨ids, hissued⟩ := h.issued
  have htake : node.workload.requests.take (node.workload.nextIndex + 1) =
      node.workload.requests.take node.workload.nextIndex ++ [spec] := by
    rw [List.take_add_one]
    exact congrArg (_ ++ Option.toList ·) hup
  refine ⟨h.configured, h.memoryNodeId_eq, h.issueMode_eq, h.linkLatency_eq, h.hitLatency_eq,
    ⟨ids ++ [v.nextRequestId], ?_⟩, (List.getElem?_eq_some_iff.mp hup).1, ?_, ?_, ?_, ?_⟩
  · show Issued _ node.nodeId (node.workload.requests.take (node.workload.nextIndex + 1)) _
    rw [htake]
    exact hissued.snoc ⟨rfl, rfl, rfl, rfl⟩ hids (tickets_issue htable rfl)
  · show node.outstandingRequests + 1 = _
    rw [h.outstanding]
    exact houtstanding.symm
  · intro next epoch hnext hepoch
    rw [hreleased] at hepoch
    rw [← Option.some.inj hepoch]
    exact h.epoch_le_of_next hprepared hup hnext
  · intro id t _ _ hepoch
    rw [hcurrent]
    exact hepoch
  · by_cases hmode : node.issueMode = .scheduledBursty
    · exact ⟨fun hnot => absurd hmode hnot, fun hnot => absurd hmode hnot,
        fun hnot => absurd hmode hnot,
        fun _ => h.burst_issue hpending htype htarget hup stats hmode hlookup hpending'⟩
    · obtain ⟨hnil, hload⟩ := h.load_issue hpending htype htarget hcurrent hmode hlookup hpending'
        houtstanding
      exact ⟨fun _ => le_of_eq hload, fun _ hne => absurd hnil hne, fun _ _ => hload,
        fun heq => absurd heq hmode⟩

/-- The released epoch begins for a node that is idle. -/
theorem release (h : NodeInv config v released base node)
    (hidle : node.outstandingRequests = 0) {epoch : EpochId}
    (hleast : ∀ spec, node.workload.upcoming = some spec → epoch ≤ spec.epochId)
    (hpast : ∀ id t, v.tickets id = some t → t.epochId < epoch) (now : SimTime)
    (htable : v'.requestTable = v.requestTable)
    (hgenerates : generatesFor v'.pending node.nodeId =
      if node.Due (some epoch) then
        {generateEvent node.nodeId (now + node.nextRequestIssueOffset)}
      else 0)
    (hcompletions : completionsFor v'.pending node.nodeId = 0) :
    NodeInv config v' (some epoch) now node := by
  have htickets : v'.tickets = v.tickets := by
    unfold View.tickets
    rw [htable]
  have hout : outstandingIn v'.requestTable node.nodeId = 0 := by
    rw [htable, ← h.outstanding, hidle]
  have hload : load v' node.nodeId = if node.Due (some epoch) then 1 else 0 := by
    unfold load
    rw [hgenerates, hcompletions, hout]
    split <;> simp
  refine ⟨h.configured, h.memoryNodeId_eq, h.issueMode_eq, h.linkLatency_eq, h.hitLatency_eq,
    htickets ▸ h.issued, h.cursor_le, htable ▸ h.outstanding, ?_, ?_, ?_, ?_, ?_, ?_⟩
  · intro spec epoch' hup heq
    rw [← Option.some.inj heq]
    exact hleast spec hup
  · intro id t ht _ heq
    have hlt := hpast id t (by rw [← htickets]; exact ht)
    have := Option.some.inj heq
    lia
  · intro _
    rw [hload]
    split <;> lia
  · intro _ hne
    by_contra hnot
    rw [hgenerates, if_neg hnot] at hne
    exact hne rfl
  · intro _ hdue
    rw [hload, if_pos hdue]
  · intro _
    exact hgenerates

end NodeInv

end DmSimulator
