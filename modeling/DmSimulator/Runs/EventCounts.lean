/-
  DmSimulator.Runs.EventCounts

  The event log of a run, with unbounded time: a run halts, and its log holds four
  events for every request served by the local cache and seven for every other.

  `GenerateRequest` events carry no request id; `assignIds` gives each of them the
  id of the request it issues, the next free one.
-/
import DmSimulator.Runs.Completion
import Mathlib.Algebra.BigOperators.Group.Finset.Piecewise

namespace DmSimulator

/-- A sum over a list, taken key by key. -/
theorem sum_eq_sum_filter {α κ : Type} [DecidableEq κ] (key : α → κ) (g : α → Nat) {l : List α}
    {keys : List κ} (hnodup : keys.Nodup) (hkeys : ∀ a ∈ l, g a ≠ 0 → key a ∈ keys) :
    (l.map g).sum = (keys.map (fun k => ((l.filter (fun a => key a = k)).map g).sum)).sum := by
  rw [← List.sum_toFinset _ hnodup]
  induction l with
  | nil => exact Finset.sum_const_zero.symm
  | cons a l ih =>
      have hone : ∀ k, (((a :: l).filter (fun a => key a = k)).map g).sum =
          (if key a = k then g a else 0) + ((l.filter (fun a => key a = k)).map g).sum := by
        intro k
        by_cases hk : key a = k
        · rw [List.filter_cons_of_pos (by simpa using hk), if_pos hk, List.map_cons, List.sum_cons]
        · rw [List.filter_cons_of_neg (by simpa using hk), if_neg hk, Nat.zero_add]
      have hself : ∑ k ∈ keys.toFinset, (if key a = k then g a else 0) = g a := by
        rw [Finset.sum_ite_eq]
        by_cases hzero : g a = 0
        · rw [hzero, ite_self]
        · rw [if_pos (List.mem_toFinset.mpr (hkeys a List.mem_cons_self hzero))]
      rw [Finset.sum_congr rfl fun k _ => hone k, Finset.sum_add_distrib, hself, List.map_cons,
        List.sum_cons, ih fun b hb => hkeys b (List.mem_cons_of_mem a hb)]

/-- A list whose keys all occur among some distinct keys is as long as its parts. -/
theorem length_eq_sum_filter {α κ : Type} [DecidableEq κ] (key : α → κ) {l : List α}
    {keys : List κ} (hnodup : keys.Nodup) (hkeys : ∀ a ∈ l, key a ∈ keys) :
    l.length = (keys.map (fun k => (l.filter (fun a => key a = k)).length)).sum := by
  have hsum := sum_eq_sum_filter key (fun _ => 1) hnodup fun a ha _ => hkeys a ha
  simpa only [List.map_const', List.sum_replicate, Nat.nsmul_eq_mul, Nat.mul_one] using hsum

namespace Simulator

variable {P : CachePolicy}

-- ============================================================================
-- Events and the requests they belong to
-- ============================================================================

/-- Attach its request id to every event of a log.  `next` is the id of the next
    request to be issued. -/
def assignIds : RequestId → List EventRecord → List (RequestId × EventRecord)
  | _, [] => []
  | next, e :: rest =>
      if e.type = .generateRequest then (next, e) :: assignIds (next + 1) rest
      else (e.requestId, e) :: assignIds next rest

/-- The types of the events of a request, in the order they were processed. -/
def historyOf (s : Simulator P) (id : RequestId) : List EventType :=
  ((assignIds 1 s.eventLog).filter (fun entry => entry.1 = id)).map (fun entry => entry.2.type)

def hitPath : List EventType :=
  [.generateRequest, .localCacheLookup, .localCacheHitComplete, .requestComplete]

def missPath : List EventType :=
  [.generateRequest, .localCacheLookup, .forwardToMemory, .memoryServiceStart,
    .memoryServiceComplete, .returnResponse, .requestComplete]

/-- The events a response stands for. -/
def pathOf (response : Response) : List EventType :=
  match response.servedFromTier with
  | .localCache => hitPath
  | .memory => missPath

theorem length_assignIds (next : RequestId) (log : List EventRecord) :
    (assignIds next log).length = log.length := by
  induction log generalizing next with
  | nil => rfl
  | cons e rest ih =>
      rw [assignIds]
      split <;> rw [List.length_cons, ih, List.length_cons]

/-- An event at the end of the log is attributed by what came before it. -/
theorem assignIds_snoc (next : RequestId) (log : List EventRecord) (e : EventRecord) :
    assignIds next (log ++ [e]) = assignIds next log ++
      [(if e.type = .generateRequest then
          next + log.countP (fun e => e.type = .generateRequest)
        else e.requestId, e)] := by
  induction log generalizing next with
  | nil =>
      rw [List.nil_append, assignIds, assignIds]
      split <;> rfl
  | cons first rest ih =>
      rw [List.cons_append, assignIds, assignIds, ih, ih, List.countP_cons]
      by_cases hfirst : first.type = .generateRequest
      · simp only [hfirst, if_true, List.cons_append, decide_true]
        by_cases he : e.type = .generateRequest
        · simp [he, Nat.add_assoc, Nat.add_comm 1]
        · simp [he]
      · simp [hfirst]

-- ============================================================================
-- One turn
-- ============================================================================

/-- The turn processed the event `e` of a request that has been issued before. -/
structure Advances (s t : Simulator P) (e : EventRecord) : Prop where
  type_ne : e.type ≠ .generateRequest
  issued : ∃ request, s.shared.requestTable.find e.requestId = some request
  tickets : ∀ id, t.view.tickets id = s.view.tickets id
  nextRequestId : t.shared.nextRequestId = s.shared.nextRequestId

/-- The turn processed the event `e` and issued the next request. -/
structure Issues (s t : Simulator P) (e : EventRecord) : Prop where
  type_eq : e.type = .generateRequest
  id_eq : e.requestId = 0
  issued : ∃ ticket, ticket.requestId = s.shared.nextRequestId ∧
    ticket.sourceNodeId = e.targetId ∧ ticket.issueTime = e.time ∧
    ∀ id, t.view.tickets id =
      if id = s.shared.nextRequestId then some ticket else s.view.tickets id
  nextRequestId : t.shared.nextRequestId = s.shared.nextRequestId + 1

end Simulator

section Turn

variable {P : CachePolicy} {s : Simulator P} {phase : RequestId → Phase} {base : SimTime}

/-- Writing a request with the same ticket changes no ticket. -/
theorem tickets_insert_same {table : RequestTable} {id : RequestId} {old new : Request}
    (hfind : table.find id = some old) (hticket : new.ticket = old.ticket) (id' : RequestId) :
    ((table.insert new).find id').map Request.ticket = (table.find id').map Request.ticket := by
  have hkey : old.requestId = id := KeyedStore.key_of_find hfind
  have hid : new.requestId = id := (congrArg Ticket.requestId hticket).trans hkey
  rw [updates_insert table new id', hid]
  by_cases heq : id' = id
  · rw [if_pos heq, heq, hfind]
    exact congrArg some hticket
  · rw [if_neg heq]

/-- The request of the event has its entry written anew, under the same ticket. -/
theorem advances_of_write {t : Simulator P} {e : EventRecord} (htype : e.type ≠ .generateRequest)
    {old new : Request} (htable : t.shared.requestTable = s.shared.requestTable.insert new)
    (hfind : s.shared.requestTable.find e.requestId = some old)
    (hticket : new.ticket = old.ticket)
    (hnext : t.shared.nextRequestId = s.shared.nextRequestId) : s.Advances t e := by
  refine ⟨htype, ⟨old, hfind⟩, fun id => ?_, hnext⟩
  show (t.shared.requestTable.find id).map _ = _
  rw [htable]
  exact tickets_insert_same hfind hticket id

/-- Nothing is written. -/
theorem RunInv.advances_of_same (h : RunInv s phase base) {t : Simulator P} {e : EventRecord}
    (hpending : e ∈ s.view.pending) (htype : e.type ≠ .generateRequest)
    (htable : t.shared.requestTable = s.shared.requestTable)
    (hnext : t.shared.nextRequestId = s.shared.nextRequestId) : s.Advances t e := by
  have hzero : e.requestId ≠ 0 := fun hzero => htype (h.generates e hpending hzero).1
  refine ⟨htype, h.lifecycle.find_of_event hpending hzero, fun id => ?_, hnext⟩
  show (t.shared.requestTable.find id).map _ = _
  rw [htable]
  rfl

/-- The next request is issued. -/
theorem RunInv.issues_of_write (h : RunInv s phase base) {t : Simulator P} {e : EventRecord}
    (hpending : e ∈ s.view.pending) (htype : e.type = .generateRequest) {node : ComputeNode P}
    (hkey : node.nodeId = e.targetId) (spec : RequestSpec)
    (htable : t.shared.requestTable = s.shared.requestTable.insert
      (node.requestFor s.shared.nextRequestId spec e.time))
    (hnext : t.shared.nextRequestId = s.shared.nextRequestId + 1) : s.Issues t e := by
  have hzero : e.requestId = 0 := by
    by_contra hne
    obtain ⟨request, hrequest⟩ := h.lifecycle.find_of_event hpending hne
    exact (Phase.pending_spec (h.lifecycle.pending_eq hpending hrequest)).2.1 htype
  have htickets : ∀ id, t.view.tickets id = if id = s.shared.nextRequestId then
      some (node.requestFor s.shared.nextRequestId spec e.time).ticket else s.view.tickets id :=
    NodeInv.tickets_issue (show t.view.requestTable = s.view.requestTable.insert _ from htable) rfl
  exact ⟨htype, hzero, ⟨_, rfl, hkey, rfl, htickets⟩, hnext⟩

/-- An event of a compute node advances its request, or issues the next one. -/
theorem RunInv.turn_compute (h : RunInv s phase base) {event : Event} {scheduler : Scheduler}
    (hpending : event.record ∈ s.view.pending) {node node' : ComputeNode P}
    (hfind : s.computeNodes.find event.targetId = some node) {effect : Effect}
    (hstep : ComputeNode.ComputeStep .exact node event (s.popped scheduler).shared node' effect)
    {t : Simulator P}
    (htable : t.shared.requestTable = ((s.popped scheduler).shared.apply effect).requestTable)
    (hnext : t.shared.nextRequestId = s.shared.nextRequestId + effect.issued) :
    s.Advances t event.record ∨ s.Issues t event.record := by
  have hne : ∀ {type : EventType}, event.type = type → type ≠ .generateRequest →
      event.record.type ≠ .generateRequest :=
    fun heq hne hgenerate => hne (heq.symm.trans hgenerate)
  cases hstep with
  | drained htype hup =>
      -- a GenerateRequest event is pending only for a node that has a request to issue
      obtain ⟨hnode, hkey⟩ := h.node_of_find hfind
      obtain ⟨spec, hspec, -⟩ :=
        ComputeNode.due_iff.mp (hnode.due_of_generate hpending htype hkey.symm)
      rw [hup] at hspec
      cases hspec
  | @issue spec htype hup =>
      exact Or.inr (h.issues_of_write hpending htype (KeyedStore.key_of_find hfind) spec htable
        hnext)
  | hit htype hrequest | miss htype hrequest | hitComplete htype hrequest
  | returned htype hrequest =>
      exact Or.inl (advances_of_write (hne htype (by decide)) htable hrequest rfl hnext)
  | complete htype =>
      exact Or.inl (h.advances_of_same hpending (hne htype (by decide)) htable hnext)

/-- An event of the memory node advances its request. -/
theorem RunInv.turn_memory (h : RunInv s phase base) {event : Event} {scheduler : Scheduler}
    (hpending : event.record ∈ s.view.pending) {memoryNode : MemoryNode} {effect : Effect}
    (hstep : MemoryNode.MemoryStep .exact s.memoryNode event (s.popped scheduler).shared
      memoryNode effect) {t : Simulator P}
    (htable : t.shared.requestTable = ((s.popped scheduler).shared.apply effect).requestTable)
    (hnext : t.shared.nextRequestId = s.shared.nextRequestId + effect.issued) :
    s.Advances t event.record := by
  have hne : ∀ {type : EventType}, event.type = type → type ≠ .generateRequest →
      event.record.type ≠ .generateRequest :=
    fun heq hne hgenerate => hne (heq.symm.trans hgenerate)
  cases hstep with
  | forwardIdle htype hrequest | forwardBusy htype hrequest | start htype hrequest =>
      exact advances_of_write (hne htype (by decide)) htable hrequest rfl hnext
  | completeIdle htype | completeNext htype =>
      exact h.advances_of_same hpending (hne htype (by decide)) htable hnext

/-- A turn advances an issued request, or issues the next one. -/
theorem RunInv.turn_spec (h : RunInv s phase base) {t : Simulator P}
    (hmove : Run.Moves (Simulator.step .exact) s t) :
    ∃ e ∈ s.view.pending, t.eventLog = s.eventLog ++ [e] ∧ (s.Advances t e ∨ s.Issues t e) := by
  obtain ⟨event, scheduler, s', hpop, hdispatched, rfl⟩ := Simulator.moves_iff.mp hmove
  obtain ⟨-, -, -, -, hold⟩ := h.popped_ordered hpop
  have hpending : event.record ∈ s.view.pending := by
    rw [hold]
    exact Multiset.mem_cons_self _ _
  have hrelease : (Simulator.releaseNextEpochIfReady .exact s').eventLog = s'.eventLog ∧
      (Simulator.releaseNextEpochIfReady .exact s').shared.requestTable =
        s'.shared.requestTable ∧
      (Simulator.releaseNextEpochIfReady .exact s').shared.nextRequestId =
        s'.shared.nextRequestId := by
    rcases Simulator.release_cases .exact s' with ⟨-, heq⟩ | ⟨-, -, heq⟩ | ⟨epoch, -, -, heq⟩ <;>
      rw [heq] <;> exact ⟨rfl, rfl, rfl⟩
  obtain ⟨hlog, htable, hnext⟩ := hrelease
  refine ⟨event.record, hpending, ?_, ?_⟩
  · rw [hlog]
    cases hdispatched <;> rfl
  · cases hdispatched with
    | compute hfind hstep => exact h.turn_compute hpending hfind hstep htable hnext
    | memory _ _ hstep => exact Or.inl (h.turn_memory hpending hstep htable hnext)

-- ============================================================================
-- The history of every request
-- ============================================================================

/-- Every `GenerateRequest` event has issued a request, and the other events of a
    request follow it. -/
structure Attributed (s : Simulator P) : Prop where
  count : s.eventLog.countP (fun e => e.type = .generateRequest) + 1 = s.shared.nextRequestId
  history : ∀ id t, s.view.tickets id = some t → ∃ g : EventRecord, g.type = .generateRequest ∧
    g.targetId = t.sourceNodeId ∧ g.time = t.issueTime ∧
    ((Simulator.assignIds 1 s.eventLog).filter (fun entry => entry.1 = id)).map Prod.snd =
      g :: s.eventLog.filter (fun e => e.requestId = id)
  ids : ∀ entry ∈ Simulator.assignIds 1 s.eventLog, (s.view.tickets entry.1).isSome

theorem isSome_tickets {id : RequestId} :
    (s.view.tickets id).isSome ↔ (s.view.requestTable.find id).isSome := by
  unfold View.tickets
  rw [Option.isSome_map]

theorem Attributed.move (ha : Attributed s) (h : RunInv s phase base) {t : Simulator P}
    (hmove : Run.Moves (Simulator.step .exact) s t) : Attributed t := by
  obtain ⟨e, he, hlog, hadvances | hissues⟩ := h.turn_spec hmove
  · have hassign : Simulator.assignIds 1 t.eventLog =
        Simulator.assignIds 1 s.eventLog ++ [(e.requestId, e)] := by
      rw [hlog, Simulator.assignIds_snoc, if_neg hadvances.type_ne]
    refine ⟨?_, fun id ticket ht => ?_, fun entry hentry => ?_⟩
    · have hnone : [e].countP (fun e => e.type = .generateRequest) = 0 := by
        simp [hadvances.type_ne]
      rw [hlog, hadvances.nextRequestId, List.countP_append, hnone]
      exact ha.count
    · rw [hadvances.tickets id] at ht
      obtain ⟨g, htype, htarget, htime, hhistory⟩ := ha.history id ticket ht
      refine ⟨g, htype, htarget, htime, ?_⟩
      rw [hassign, hlog, List.filter_append, List.map_append, hhistory, List.filter_append]
      by_cases heq : e.requestId = id <;> simp [heq]
    · rw [hadvances.tickets]
      rw [hassign, List.mem_append, List.mem_singleton] at hentry
      rcases hentry with hold | rfl
      · exact ha.ids entry hold
      · obtain ⟨request, hfind⟩ := hadvances.issued
        exact isSome_tickets.mpr (by rw [show s.view.requestTable.find e.requestId = _ from hfind]; rfl)
  · obtain ⟨ticket, hid, hsource, htime, htickets⟩ := hissues.issued
    have hassign : Simulator.assignIds 1 t.eventLog =
        Simulator.assignIds 1 s.eventLog ++ [(s.shared.nextRequestId, e)] := by
      rw [hlog, Simulator.assignIds_snoc, if_pos hissues.type_eq, Nat.add_comm 1, ha.count]
    have hrange : ∀ {id}, (s.view.tickets id).isSome → 1 ≤ id ∧ id < s.shared.nextRequestId :=
      fun hsome => (h.lifecycle.ids _).mp (isSome_tickets.mp hsome)
    refine ⟨?_, fun id ticket' ht => ?_, fun entry hentry => ?_⟩
    · have hone : [e].countP (fun e => e.type = .generateRequest) = 1 := by
        simp [hissues.type_eq]
      rw [hlog, hissues.nextRequestId, List.countP_append, hone, ha.count]
    · rw [htickets id] at ht
      by_cases heq : id = s.shared.nextRequestId
      · -- the issued request has no other events yet
        rw [if_pos heq] at ht
        obtain rfl := Option.some.inj ht
        have hnone : (Simulator.assignIds 1 s.eventLog).filter (fun entry => entry.1 = id) = [] := by
          rw [List.filter_eq_nil_iff]
          intro entry hentry
          have hlt := (hrange (ha.ids entry hentry)).2
          simp only [decide_eq_true_eq]
          intro hsame
          rw [hsame, heq] at hlt
          exact Nat.lt_irrefl _ hlt
        have hold : s.eventLog.filter (fun e => e.requestId = id) = [] := by
          rw [List.filter_eq_nil_iff]
          intro other hother
          have hlt : other.requestId < s.shared.nextRequestId := h.lifecycle.log_ids other hother
          simp only [decide_eq_true_eq]
          intro hsame
          rw [hsame, heq] at hlt
          exact Nat.lt_irrefl _ hlt
        have hpos : e.requestId ≠ id := by
          rw [hissues.id_eq, heq]
          have hcount := ha.count
          lia
        refine ⟨e, hissues.type_eq, hsource.symm, htime.symm, ?_⟩
        rw [hassign, hlog, List.filter_append, List.filter_append, hnone, hold]
        simp [heq.symm, hpos]
      · rw [if_neg heq] at ht
        obtain ⟨g, htype, htarget, hgtime, hhistory⟩ := ha.history id ticket' ht
        have hpos : e.requestId ≠ id := by
          rw [hissues.id_eq]
          exact Nat.ne_of_lt (hrange (by rw [ht]; rfl)).1
        refine ⟨g, htype, htarget, hgtime, ?_⟩
        rw [hassign, hlog, List.filter_append, List.map_append, hhistory, List.filter_append]
        simp [hpos, Ne.symm heq]
    · rw [htickets]
      rw [hassign, List.mem_append, List.mem_singleton] at hentry
      split
      · rfl
      · rename_i hne
        rcases hentry with hold | rfl
        · exact ha.ids entry hold
        · exact absurd rfl hne

theorem attributed_init (P : CachePolicy) (config : SimulationConfig)
    (generatedWorkload : Option GeneratedWorkload) :
    Attributed (Simulator.releaseNextEpochIfReady .exact
      (Simulator.ofConfig P config generatedWorkload)) := by
  rcases Simulator.release_cases .exact (Simulator.ofConfig P config generatedWorkload) with
    ⟨-, heq⟩ | ⟨-, -, heq⟩ | ⟨epoch, -, -, heq⟩ <;>
  · rw [heq]
    refine ⟨rfl, fun id t ht => ?_, fun entry hentry => ?_⟩
    · cases ht
    · cases hentry

/-- The event types of a request that has ended, by its response. -/
theorem Phase.path_of_answer {config : SimulationConfig} {t : Ticket} {phase : Phase}
    (hended : phase.Ended) {p : Response} (hp : p ∈ phase.answers config t) :
    EventType.generateRequest :: (phase.logged config t).map EventRecord.type =
      Simulator.pathOf p := by
  cases phase with
  | hitEnd =>
      rw [List.mem_singleton.mp hp]
      rfl
  | missEnd start =>
      rw [List.mem_singleton.mp hp]
      rfl
  | _ => exact hended.elim

/-- With nothing pending, the history of a request is the one its response stands
    for. -/
theorem RunInv.historyOf_eq (h : RunInv s phase base) (ha : Attributed s)
    (hnil : s.view.pending = 0) {p : Response} (hp : p ∈ s.shared.responses) :
    s.historyOf p.requestId = Simulator.pathOf p := by
  have hsome := (h.lifecycle.ids p.requestId).mpr (h.lifecycle.response_ids p hp)
  obtain ⟨request, hfind⟩ := Option.isSome_iff_exists.mp hsome
  have hid : request.requestId = p.requestId := KeyedStore.key_of_find hfind
  have ht : s.view.tickets p.requestId = some request.ticket := by
    unfold View.tickets
    rw [hfind]
    rfl
  have htracks := h.lifecycle.tracks p.requestId request hfind
  have hmem : p ∈ (phase p.requestId).answers s.config request.ticket := by
    rw [← htracks.answered, List.mem_filter]
    exact ⟨hp, by simp [hid]⟩
  obtain ⟨g, htype, -, -, hhistory⟩ := ha.history p.requestId request.ticket ht
  have hlogged : s.eventLog.filter (fun e => e.requestId = p.requestId) =
      (phase p.requestId).logged s.config request.ticket := by
    have hkeyed := htracks.logged
    rw [hid] at hkeyed
    exact hkeyed
  rw [hlogged] at hhistory
  have hpath := Phase.path_of_answer (h.ended_of_drained hnil ht) hmem
  calc s.historyOf p.requestId
      = ((((Simulator.assignIds 1 s.eventLog).filter
          (fun entry => entry.1 = p.requestId)).map Prod.snd).map EventRecord.type) := by
        rw [List.map_map]
        rfl
    _ = EventType.generateRequest ::
          ((phase p.requestId).logged s.config request.ticket).map EventRecord.type := by
        rw [hhistory, List.map_cons, htype]
    _ = Simulator.pathOf p := hpath

/-- Four events for every request served by the local cache, seven for every other. -/
theorem RunInv.length_eventLog (h : RunInv s phase base) (ha : Attributed s)
    (hnil : s.view.pending = 0) :
    s.eventLog.length =
      4 * s.shared.responses.countP (fun p => p.servedFromTier = .localCache) +
        7 * s.shared.responses.countP (fun p => p.servedFromTier = .memory) := by
  have hperm := h.responses_perm hnil
  have hnodup : (s.shared.responses.map Response.requestId).Nodup :=
    hperm.nodup_iff.mpr s.shared.requestTable.nodup
  have hkeys : ∀ entry ∈ Simulator.assignIds 1 s.eventLog,
      entry.1 ∈ s.shared.responses.map Response.requestId := by
    intro entry hentry
    rw [hperm.mem_iff]
    obtain ⟨request, hfind⟩ :=
      Option.isSome_iff_exists.mp (isSome_tickets.mp (ha.ids entry hentry))
    obtain ⟨hmem, hid⟩ := KeyedStore.find_eq_some.mp hfind
    exact List.mem_map.mpr ⟨request, hmem, hid⟩
  rw [← Simulator.length_assignIds 1 s.eventLog, length_eq_sum_filter Prod.fst hnodup hkeys,
    List.map_map]
  have hlengths : s.shared.responses.map ((fun id => ((Simulator.assignIds 1 s.eventLog).filter
      (fun entry => entry.1 = id)).length) ∘ Response.requestId) =
      s.shared.responses.map (fun p => (Simulator.pathOf p).length) := by
    apply List.map_congr_left
    intro p hp
    have hhistory := congrArg List.length (h.historyOf_eq ha hnil hp)
    unfold Simulator.historyOf at hhistory
    rw [List.length_map] at hhistory
    exact hhistory
  rw [hlengths]
  -- count the responses by the tier that served them
  generalize s.shared.responses = responses
  induction responses with
  | nil => rfl
  | cons p rest ih =>
      rw [List.map_cons, List.sum_cons, ih, List.countP_cons, List.countP_cons]
      cases htier : p.servedFromTier with
      | localCache =>
          have hlength : (Simulator.pathOf p).length = 4 := by
            unfold Simulator.pathOf
            rw [htier]
            rfl
          simp only [hlength, decide_true, reduceCtorEq, decide_false, if_true,
            Bool.false_eq_true, if_false]
          omega
      | memory =>
          have hlength : (Simulator.pathOf p).length = 7 := by
            unfold Simulator.pathOf
            rw [htier]
            rfl
          simp only [hlength, decide_true, reduceCtorEq, decide_false, if_true,
            Bool.false_eq_true, if_false]
          omega

end Turn

namespace Simulator

-- ============================================================================
-- The event log of a run
-- ============================================================================

theorem attributed_of_reachable {P : CachePolicy} {config : SimulationConfig}
    (hprepared : Prepared config) {generatedWorkload : Option GeneratedWorkload}
    {t : Simulator P} (h : Reachable .exact (ofConfig P config generatedWorkload) t) :
    Attributed t := by
  have hboth : TurnInv t ∧ Attributed t := by
    refine Run.invariant_of_reaches (fun t => TurnInv t ∧ Attributed t) ?_
      ⟨turnInv_init hprepared, attributed_init P config generatedWorkload⟩ h
    rintro a b ⟨hturn, ha⟩ hmove
    have hnext := turnInv_move hturn hmove
    obtain ⟨⟨phase, base, hrun⟩, -⟩ := hturn
    exact ⟨hnext, ha.move hrun hmove⟩
  exact hboth.2

/-- What the event log of a finished run looks like. -/
structure EventLogComplete {P : CachePolicy} (s : Simulator P) : Prop where
  length_eq : s.eventLog.length =
    4 * s.shared.responses.countP (fun p => p.servedFromTier = .localCache) +
      7 * s.shared.responses.countP (fun p => p.servedFromTier = .memory)
  answered : (s.shared.responses.map Response.requestId).Perm
    (s.shared.requestTable.items.map Request.requestId)
  history : ∀ p ∈ s.shared.responses, s.historyOf p.requestId = pathOf p

/-- Every run of an accepted configuration halts.  Its event log has the four events of
    a hit or the seven events of a miss for every request, in that order, and nothing
    else; and no `GenerateRequest` event that is processed issues nothing. -/
theorem run_eventLog {rng : RandomSource} {config : SimulationConfig}
    {s : Simulator (makeCachePolicy .exact config.localCache)}
    (h : construct .exact rng config = .ok s) :
    (∃ final, RunsTo .exact s final) ∧
    (∀ final, RunsTo .exact s final → final.EventLogComplete) ∧
    ∀ t u e, Reachable .exact s t → Run.Moves (step .exact) t u →
      u.eventLog = t.eventLog ++ [e] → e.type = .generateRequest → t.Issues u e := by
  obtain ⟨prepared, generatedWorkload, rfl, hprepared⟩ := construct_spec h
  refine ⟨exists_runsTo _ hprepared generatedWorkload, fun final hfinal => ?_,
    fun t u e ht hmove hlog htype => ?_⟩
  · obtain ⟨⟨phase, base, hrun⟩, -⟩ := turnInv_of_reachable hprepared hfinal.reaches
    have ha := attributed_of_reachable hprepared hfinal.reaches
    have hnil : final.view.pending = 0 := halted_iff.mp hfinal.halted
    exact ⟨hrun.length_eventLog ha hnil, hrun.responses_perm hnil,
      fun p hp => hrun.historyOf_eq ha hnil hp⟩
  · obtain ⟨⟨phase, base, hrun⟩, -⟩ := turnInv_of_reachable hprepared ht
    obtain ⟨e', -, hlog', hadvances | hissues⟩ := hrun.turn_spec hmove
    · obtain rfl := List.singleton_inj.mp (List.append_cancel_left (hlog'.symm.trans hlog))
      exact absurd htype hadvances.type_ne
    · obtain rfl := List.singleton_inj.mp (List.append_cancel_left (hlog'.symm.trans hlog))
      exact hissues

theorem rereadConfig_eventLog :
    ∃ s, construct .exact lowestSource rereadConfig = .ok s ∧
      (∃ final, RunsTo .exact s final) ∧
      (∀ final, RunsTo .exact s final → final.EventLogComplete) ∧
      ∀ t u e, Reachable .exact s t → Run.Moves (step .exact) t u →
        u.eventLog = t.eventLog ++ [e] → e.type = .generateRequest → t.Issues u e :=
  ⟨_, rfl, run_eventLog (show construct .exact lowestSource rereadConfig = .ok _ from rfl)⟩

end Simulator

end DmSimulator
