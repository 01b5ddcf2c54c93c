/-
  DmSimulator.Runs.Visits

  The visits of a node to its cache along a run, with unbounded time.

  Under completion-driven issue a node has one request at a time.  Between two
  requests it is `AtRest`: its cache has been through the visits of the requests
  that were answered.  From the issue of a request to its answer it is `Occupied`
  with it.  The frame rules say what the turns of others leave alone, the rules
  for the node what each of its own turns makes of it.
-/
import DmSimulator.Cache.Visits
import DmSimulator.Runs.CompletionPacing

namespace DmSimulator

open Simulator

-- ============================================================================
-- The visits of a node
-- ============================================================================

def Ticket.demand (t : Ticket) : Demand :=
  { objectId := t.objectId, sizeBytes := t.sizeBytes, epochId := t.epochId }

/-- The visit of a request with its response. -/
def Ticket.visit (t : Ticket) (response : Response) : Visit :=
  { demand := t.demand
    issueTime := t.issueTime
    completionTime := response.completionTime
    tier := response.servedFromTier }

/-- The visit that a response ends, if it is for a request of the node. -/
def visitIn (tickets : Tickets) (nodeId : NodeId) (response : Response) : Option Visit :=
  match tickets response.requestId with
  | none => none
  | some t => if t.sourceNodeId = nodeId then some (t.visit response) else none

theorem visitIn_of_source {tickets : Tickets} {nodeId : NodeId} {response : Response} {t : Ticket}
    (ht : tickets response.requestId = some t) (hsource : t.sourceNodeId = nodeId) :
    visitIn tickets nodeId response = some (t.visit response) := by
  simp only [visitIn, ht, hsource, if_true]

theorem visitIn_of_ne {tickets : Tickets} {nodeId : NodeId} {response : Response} {t : Ticket}
    (ht : tickets response.requestId = some t) (hsource : t.sourceNodeId ≠ nodeId) :
    visitIn tickets nodeId response = none := by
  simp only [visitIn, ht, hsource, if_false]

namespace Simulator

variable {P : CachePolicy}

/-- The visits of the node, in the order of its responses. -/
def visits (s : Simulator P) (nodeId : NodeId) : List Visit :=
  s.shared.responses.filterMap (visitIn s.view.tickets nodeId)

/-- Whether the requests of the node hit or missed, in the order of its responses. -/
def outcomes (s : Simulator P) (nodeId : NodeId) : List ServedFromTier :=
  (s.visits nodeId).map Visit.tier

end Simulator

-- ============================================================================
-- The times of the visits
-- ============================================================================

/-- What a fetch takes at least. -/
def fetchTime (config : SimulationConfig) (demand : Demand) : SimTime :=
  2 * config.oneWayLinkLatency + config.memoryBaseLatency +
    (demand.sizeBytes + config.memoryBandwidthBytesPerTime - 1) / config.memoryBandwidthBytesPerTime

/-- A hit takes the hit latency, a miss at least the fetch. -/
structure Visit.Timed (config : SimulationConfig) (v : Visit) : Prop where
  hit : v.tier = .localCache → v.completionTime = v.issueTime + config.localCache.hitLatency
  miss : v.tier = .memory → v.issueTime + fetchTime config v.demand ≤ v.completionTime

theorem Visit.Timed.issue_le {config : SimulationConfig} {v : Visit} (h : v.Timed config) :
    v.issueTime ≤ v.completionTime := by
  cases htier : v.tier with
  | localCache =>
      rw [h.hit htier]
      exact Nat.le_add_right _ _
  | memory => exact (Nat.le_add_right _ _).trans (h.miss htier)

/-- A request of an epoch may be issued: after the last visit, and in the same epoch right
    after it. -/
def NextAt (visits : List Visit) (epochId : EpochId) (time : SimTime) : Prop :=
  ∀ v ∈ visits.getLast?, v.completionTime ≤ time ∧
    (v.demand.epochId = epochId → time = v.completionTime)

/-- The next visit of the node. -/
def Visit.Follows (v w : Visit) : Prop :=
  v.completionTime ≤ w.issueTime ∧
    (v.demand.epochId = w.demand.epochId → w.issueTime = v.completionTime)

/-- Every visit takes its time, and the node makes one after the other. -/
structure InTime (config : SimulationConfig) (visits : List Visit) : Prop where
  timed : ∀ v ∈ visits, v.Timed config
  paced : visits.IsChain Visit.Follows

theorem inTime_nil (config : SimulationConfig) : InTime config [] :=
  ⟨fun _ hv => absurd hv List.not_mem_nil, List.isChain_nil⟩

theorem InTime.snoc {config : SimulationConfig} {visits : List Visit} {w : Visit}
    (h : InTime config visits) (hw : w.Timed config)
    (hnext : NextAt visits w.demand.epochId w.issueTime) : InTime config (visits ++ [w]) := by
  refine ⟨?_, ?_⟩
  · intro v hv
    rcases List.mem_append.mp hv with hold | hnew
    · exact h.timed v hold
    · rw [List.mem_singleton.mp hnew]
      exact hw
  · refine List.isChain_append.mpr ⟨h.paced, List.isChain_singleton w, fun v hv w' hw' => ?_⟩
    obtain rfl : w = w' := by simpa using hw'
    exact hnext v hv

-- ============================================================================
-- Where a node stands
-- ============================================================================

section Standing

variable {P : CachePolicy} {v v' : View} {capacityBytes : Nat} {visits : List Visit}
  {node : ComputeNode P} {request request' : Request}

/-- What the cache of a node has done for the request the node is occupied with. -/
inductive Attending (capacityBytes : Nat) (visits : List Visit) (request : Request) :
    LocalCache P → Prop
  | looking {c : LocalCache P} (stats : Stats) :
      LocalCache.Visited P .exact capacityBytes visits c → request.currentStage = .generated →
      Attending capacityBytes visits request (c.enter stats (epochAfter visits) request.epochId)
  | hit {c : LocalCache P} (stats stats' : Stats) (request' : Request) :
      LocalCache.Visited P .exact capacityBytes visits c → request.currentStage = .localLookup →
      request'.demand = request.demand →
      (c.enterAndLookup stats stats' (epochAfter visits) request' request.issueTime).2 = true →
      Attending capacityBytes visits request
        (c.enterAndLookup stats stats' (epochAfter visits) request' request.issueTime).1
  | fetching {c : LocalCache P} (stats stats' : Stats) (request' : Request) :
      LocalCache.Visited P .exact capacityBytes visits c → request.currentStage.Fetching →
      request'.demand = request.demand →
      (c.enterAndLookup stats stats' (epochAfter visits) request' request.issueTime).2 = false →
      Attending capacityBytes visits request
        (c.enterAndLookup stats stats' (epochAfter visits) request' request.issueTime).1

/-- The node has nothing but a generate event or a completion event going on. -/
structure AtRest (v : View) (capacityBytes : Nat) (visits : List Visit) (node : ComputeNode P) :
    Prop where
  answered : ∀ id request, v.requestTable.find id = some request →
    request.sourceNodeId = node.nodeId → request.currentStage = .completed
  visited : LocalCache.Visited P .exact capacityBytes visits node.localCache
  epoch : node.currentEpoch = epochAfter visits
  issued : visits.map Visit.demand =
    (node.workload.requests.take node.workload.nextIndex).map RequestSpec.demand
  completes : ∀ e ∈ v.pending, e.type = .requestComplete → e.targetId = node.nodeId →
    ∃ w, visits.getLast? = some w ∧ e.time = w.completionTime
  generates : ∀ e ∈ v.pending, e.type = .generateRequest → e.targetId = node.nodeId →
    ∀ spec, node.workload.upcoming = some spec → NextAt visits spec.epochId e.time

/-- The node has issued the request and waits for its answer. -/
structure Occupied (v : View) (capacityBytes : Nat) (visits : List Visit) (node : ComputeNode P)
    (request : Request) : Prop where
  find : v.requestTable.find request.requestId = some request
  source : request.sourceNodeId = node.nodeId
  epoch : node.currentEpoch = some request.epochId
  issued : visits.map Visit.demand ++ [request.demand] =
    (node.workload.requests.take node.workload.nextIndex).map RequestSpec.demand
  next : NextAt visits request.epochId request.issueTime
  attending : Attending capacityBytes visits request node.localCache

theorem Attending.ne_completed {c : LocalCache P} (h : Attending capacityBytes visits request c) :
    request.currentStage ≠ .completed := by
  cases h with
  | looking _ _ hstage | hit _ _ _ _ hstage =>
      rw [hstage]
      decide
  | fetching _ _ _ _ hstage => exact hstage.ne_completed

-- ============================================================================
-- The turns of others
-- ============================================================================

/-- The request under the same ticket; the memory node moves it on while it is fetched. -/
def Request.Moved (request request' : Request) : Prop :=
  request'.ticket = request.ticket ∧
    (request'.currentStage = request.currentStage ∨
      request.currentStage.Fetching ∧ request'.currentStage.Fetching)

theorem Request.moved_refl (request : Request) : request.Moved request := ⟨rfl, Or.inl rfl⟩

/-- The requests of a node are those of the table before, up to moves of the memory node. -/
structure Stands (nodeId : NodeId) (table table' : RequestTable) : Prop where
  kept : ∀ id request, table.find id = some request → request.sourceNodeId = nodeId →
    ∃ request', table'.find id = some request' ∧ request.Moved request'
  from_old : ∀ id request', table'.find id = some request' → request'.sourceNodeId = nodeId →
    ∃ request, table.find id = some request ∧ request.Moved request'

theorem stands_refl (nodeId : NodeId) (table : RequestTable) : Stands nodeId table table :=
  ⟨fun _ request hfind _ => ⟨request, hfind, request.moved_refl⟩,
    fun _ request hfind _ => ⟨request, hfind, request.moved_refl⟩⟩

/-- A request of another node is written. -/
theorem stands_insert_other {nodeId : NodeId} {table : RequestTable} {written : Request}
    (hwritten : written.sourceNodeId ≠ nodeId)
    (hold : ∀ old, table.find written.requestId = some old → old.sourceNodeId ≠ nodeId) :
    Stands nodeId table (table.insert written) := by
  refine ⟨fun id request hfind hsource => ⟨request, ?_, request.moved_refl⟩,
    fun id request hfind hsource => ⟨request, ?_, request.moved_refl⟩⟩
  · rw [KeyedStore.find_insert, if_neg]
    · exact hfind
    · rintro rfl
      exact hold request hfind hsource
  · rw [KeyedStore.find_insert] at hfind
    split at hfind
    · cases hfind
      exact absurd hsource hwritten
    · exact hfind

/-- A request is moved on. -/
theorem stands_insert_moved {nodeId : NodeId} {table : RequestTable} {old written : Request}
    (hfind : table.find written.requestId = some old) (hmoved : old.Moved written) :
    Stands nodeId table (table.insert written) := by
  refine ⟨fun id request hrequest _ => ?_, fun id request' hrequest _ => ?_⟩
  · rw [KeyedStore.find_insert]
    split
    · next heq =>
        rw [heq, hfind] at hrequest
        cases hrequest
        exact ⟨written, rfl, hmoved⟩
    · exact ⟨request, hrequest, request.moved_refl⟩
  · rw [KeyedStore.find_insert] at hrequest
    split at hrequest
    · next heq =>
        cases hrequest
        exact ⟨old, heq ▸ hfind, hmoved⟩
    · exact ⟨request', hrequest, request'.moved_refl⟩

theorem Attending.moved {c : LocalCache P} (h : Attending capacityBytes visits request c)
    (hmoved : request.Moved request') : Attending capacityBytes visits request' c := by
  obtain ⟨hticket, hstage⟩ := hmoved
  have hepoch : request'.epochId = request.epochId := congrArg Ticket.epochId hticket
  have hissue : request'.issueTime = request.issueTime := congrArg Ticket.issueTime hticket
  have hdemand : request'.demand = request.demand := congrArg Ticket.demand hticket
  have hsame : ¬ request.currentStage.Fetching → request'.currentStage = request.currentStage :=
    fun hnot => hstage.resolve_right fun hboth => hnot hboth.1
  cases h with
  | looking stats hvisited hgenerated =>
      rw [← hepoch]
      refine .looking stats hvisited ((hsame ?_).trans hgenerated)
      rw [hgenerated]
      rintro (heq | heq) <;> cases heq
  | hit stats stats' looked hvisited hlookup hasks hhit =>
      rw [← hissue] at hhit ⊢
      refine .hit stats stats' looked hvisited ((hsame ?_).trans hlookup)
        (hasks.trans hdemand.symm) hhit
      rw [hlookup]
      rintro (heq | heq) <;> cases heq
  | fetching stats stats' looked hvisited hfetching hasks hmiss =>
      rw [← hissue] at hmiss ⊢
      refine .fetching stats stats' looked hvisited ?_ (hasks.trans hdemand.symm) hmiss
      rcases hstage with heq | hboth
      · rw [heq]
        exact hfetching
      · exact hboth.2

theorem AtRest.frame (h : AtRest v capacityBytes visits node)
    (htable : Stands node.nodeId v.requestTable v'.requestTable)
    (hpending : ∀ e ∈ v'.pending, (e.type = .requestComplete ∨ e.type = .generateRequest) →
      e.targetId = node.nodeId → e ∈ v.pending) :
    AtRest v' capacityBytes visits node := by
  refine ⟨fun id request' hfind hsource => ?_, h.visited, h.epoch, h.issued, ?_, ?_⟩
  · obtain ⟨request, hold, hticket, hstage⟩ := htable.from_old id request' hfind hsource
    have hcompleted := h.answered id request hold
      ((congrArg Ticket.sourceNodeId hticket).symm.trans hsource)
    rcases hstage with heq | ⟨hfetching, -⟩
    · exact heq.trans hcompleted
    · exact absurd hcompleted hfetching.ne_completed
  · exact fun e he htype htarget => h.completes e (hpending e he (Or.inl htype) htarget) htype htarget
  · exact fun e he htype htarget => h.generates e (hpending e he (Or.inr htype) htarget) htype htarget

theorem Occupied.frame (h : Occupied v capacityBytes visits node request)
    (htable : Stands node.nodeId v.requestTable v'.requestTable) :
    ∃ request', Occupied v' capacityBytes visits node request' := by
  obtain ⟨request', hfind, hmoved⟩ := htable.kept request.requestId request h.find h.source
  have hticket := hmoved.1
  have hepoch : request'.epochId = request.epochId := congrArg Ticket.epochId hticket
  have hissue : request'.issueTime = request.issueTime := congrArg Ticket.issueTime hticket
  have hdemand : request'.demand = request.demand := congrArg Ticket.demand hticket
  refine ⟨request', ?_, ?_, ?_, ?_, ?_, h.attending.moved hmoved⟩
  · rw [show request'.requestId = request.requestId from congrArg Ticket.requestId hticket]
    exact hfind
  · exact (congrArg Ticket.sourceNodeId hticket).trans h.source
  · rw [hepoch]
    exact h.epoch
  · rw [hdemand]
    exact h.issued
  · rw [hepoch, hissue]
    exact h.next

/-- The node is at rest, or occupied with a request. -/
def Standing (v : View) (capacityBytes : Nat) (visits : List Visit) (node : ComputeNode P) : Prop :=
  AtRest v capacityBytes visits node ∨ ∃ request, Occupied v capacityBytes visits node request

theorem Standing.frame (h : Standing v capacityBytes visits node)
    (htable : Stands node.nodeId v.requestTable v'.requestTable)
    (hpending : ∀ e ∈ v'.pending, (e.type = .requestComplete ∨ e.type = .generateRequest) →
      e.targetId = node.nodeId → e ∈ v.pending) :
    Standing v' capacityBytes visits node := by
  rcases h with hrest | ⟨request, hoccupied⟩
  · exact Or.inl (hrest.frame htable hpending)
  · exact Or.inr (hoccupied.frame htable)

-- ============================================================================
-- The turns of the node
-- ============================================================================

/-- The node issues its next request. -/
theorem AtRest.issue (h : AtRest v capacityBytes visits node)
    (hplan : node.globalReplicaPlan = none) {spec : RequestSpec}
    (hup : node.workload.upcoming = some spec) {e : EventRecord} (he : e ∈ v.pending)
    (htype : e.type = .generateRequest) (htarget : e.targetId = node.nodeId) (stats : Stats)
    {requestId : RequestId}
    (hfind : v'.requestTable.find requestId = some (node.requestFor requestId spec e.time)) :
    Occupied v' capacityBytes visits (node.afterIssue .exact stats spec e.time)
      (node.requestFor requestId spec e.time) := by
  refine ⟨hfind, rfl, rfl, ?_, h.generates e he htype htarget spec hup, ?_⟩
  · have htake : node.workload.requests.take (node.workload.nextIndex + 1) =
        node.workload.requests.take node.workload.nextIndex ++ [spec] := by
      rw [List.take_add_one, show node.workload.requests[node.workload.nextIndex]? = some spec from
        hup]
      rfl
    show visits.map Visit.demand ++ _ =
      (node.workload.requests.take (node.workload.nextIndex + 1)).map RequestSpec.demand
    rw [htake, List.map_append, h.issued]
    rfl
  · have hcache : node.enterEpoch .exact stats spec.epochId e.time =
        node.localCache.enter stats (epochAfter visits) spec.epochId := by
      unfold ComputeNode.enterEpoch LocalCache.enter
      rw [hplan, h.epoch]
    show Attending capacityBytes visits _ (node.enterEpoch .exact stats spec.epochId e.time)
    rw [hcache]
    exact .looking stats h.visited rfl

/-- The node looks the request up. -/
theorem Occupied.lookup (h : Occupied v capacityBytes visits node request)
    (hstage : request.currentStage = .generated) {time : SimTime}
    (htime : time = request.issueTime) (stats : Stats) (hticket : request'.ticket = request.ticket)
    (hfind : v'.requestTable.find request.requestId = some request')
    (hanswer : (node.localCache.lookup stats (ComputeNode.lookedUp request) time).2 = true ∧
        request'.currentStage = .localLookup ∨
      (node.localCache.lookup stats (ComputeNode.lookedUp request) time).2 = false ∧
        request'.currentStage.Fetching) :
    Occupied v' capacityBytes visits
      { node with
        localCache := (node.localCache.lookup stats (ComputeNode.lookedUp request) time).1 }
      request' := by
  have hepoch : request'.epochId = request.epochId := congrArg Ticket.epochId hticket
  have hissue : request'.issueTime = request.issueTime := congrArg Ticket.issueTime hticket
  have hdemand : request'.demand = request.demand := congrArg Ticket.demand hticket
  refine ⟨?_, (congrArg Ticket.sourceNodeId hticket).trans h.source, hepoch ▸ h.epoch, ?_, ?_, ?_⟩
  · rw [show request'.requestId = request.requestId from congrArg Ticket.requestId hticket]
    exact hfind
  · rw [hdemand]
    exact h.issued
  · rw [hepoch, hissue]
    exact h.next
  · have hattending := h.attending
    show Attending capacityBytes visits request' (node.localCache.lookup stats
      (ComputeNode.lookedUp request) time).1
    generalize node.localCache = entered at hattending hanswer
    rw [htime, ← hissue] at hanswer ⊢
    cases hattending with
    | @looking c stats₀ hvisited _ =>
        rcases hanswer with ⟨hhit, hstage'⟩ | ⟨hmiss, hstage'⟩
        · exact .hit stats₀ stats (ComputeNode.lookedUp request) hvisited hstage' hdemand.symm hhit
        · exact .fetching stats₀ stats (ComputeNode.lookedUp request) hvisited hstage'
            hdemand.symm hmiss
    | hit _ _ _ _ hother => cases hstage.symm.trans hother
    | fetching _ _ _ _ hother =>
        rw [hstage] at hother
        rcases hother with heq | heq <;> cases heq

/-- A hit is answered: the visit is over. -/
theorem Attending.visited_hit {c : LocalCache P} (h : Attending capacityBytes visits request c)
    (hstage : request.currentStage = .localLookup) {w : Visit} (hdemand : w.demand = request.demand)
    (hissue : w.issueTime = request.issueTime) (htier : w.tier = .localCache) :
    LocalCache.Visited P .exact capacityBytes (visits ++ [w]) c := by
  cases h with
  | looking _ _ hother => cases hstage.symm.trans hother
  | hit stats stats' looked hvisited _ hasks hhit =>
      rw [← hissue] at hhit ⊢
      exact hvisited.visit (.hit stats stats' looked (hasks.trans hdemand.symm) htier hhit)
  | fetching _ _ _ _ hother =>
      rw [hstage] at hother
      rcases hother with heq | heq <;> cases heq

/-- A response is offered for admission: the visit is over. -/
theorem Attending.visited_miss {c : LocalCache P} (h : Attending capacityBytes visits request c)
    (hstage : request.currentStage.Fetching) {w : Visit} (hdemand : w.demand = request.demand)
    (hissue : w.issueTime = request.issueTime) (htier : w.tier = .memory) (response : Response) :
    LocalCache.Visited P .exact capacityBytes (visits ++ [w])
      (c.admitObject .exact request response w.completionTime).1 := by
  cases h with
  | looking _ _ hother =>
      rw [hother] at hstage
      rcases hstage with heq | heq <;> cases heq
  | hit _ _ _ _ hother =>
      rw [hother] at hstage
      rcases hstage with heq | heq <;> cases heq
  | fetching stats stats' looked hvisited _ hasks hmiss =>
      rw [← hissue] at hmiss ⊢
      exact hvisited.visit
        (.miss stats stats' looked request response (hasks.trans hdemand.symm) hdemand.symm htier
          hmiss)

/-- The node has got its answer. -/
theorem Occupied.answer (h : Occupied v capacityBytes visits node request) {w : Visit}
    {localCache : LocalCache P} (outstanding : Nat) (hdemand : w.demand = request.demand)
    (hvisited : LocalCache.Visited P .exact capacityBytes (visits ++ [w]) localCache)
    (hanswered : ∀ id request, v'.requestTable.find id = some request →
      request.sourceNodeId = node.nodeId → request.currentStage = .completed)
    (hcompletes : ∀ e ∈ v'.pending, e.type = .requestComplete → e.targetId = node.nodeId →
      e.time = w.completionTime)
    (hgenerates : ∀ e ∈ v'.pending, e.type = .generateRequest → e.targetId ≠ node.nodeId) :
    AtRest v' capacityBytes (visits ++ [w])
      { node with localCache := localCache, outstandingRequests := outstanding } := by
  refine ⟨hanswered, hvisited, ?_, ?_, ?_, ?_⟩
  · rw [epochAfter_snoc, hdemand]
    exact h.epoch
  · rw [List.map_append, List.map_singleton, hdemand]
    exact h.issued
  · exact fun e he htype htarget => ⟨w, by simp, hcompletes e he htype htarget⟩
  · exact fun e he htype htarget => absurd htarget (hgenerates e he htype)

/-- The completion of a request starts the next one of the epoch. -/
theorem AtRest.complete (h : AtRest v capacityBytes visits node)
    (htable : v'.requestTable = v.requestTable) {e : EventRecord} (he : e ∈ v.pending)
    (htype : e.type = .requestComplete) (htarget : e.targetId = node.nodeId)
    (hpending : ∀ r ∈ v'.pending, r ∈ (node.nextOnCompletion e.time).toList ∨ r ∈ v.pending) :
    AtRest v' capacityBytes visits node := by
  refine ⟨by rw [htable]; exact h.answered, h.visited, h.epoch, h.issued, ?_, ?_⟩
  · intro r hr hcomplete hto
    rcases hpending r hr with hnew | hold
    · cases (ComputeNode.mem_nextOnCompletion hnew).1.symm.trans hcomplete
    · exact h.completes r hold hcomplete hto
  · intro r hr hgenerate hto spec hup
    rcases hpending r hr with hnew | hold
    · obtain ⟨-, -, -, htime, -⟩ := ComputeNode.mem_nextOnCompletion hnew
      obtain ⟨w, hw, hend⟩ := h.completes e he htype htarget
      intro w' hw'
      obtain rfl : w = w' := Option.some.inj (hw.symm.trans hw')
      rw [htime, hend]
      exact ⟨le_refl _, fun _ => rfl⟩
    · exact h.generates r hold hgenerate hto spec hup

end Standing

end DmSimulator
