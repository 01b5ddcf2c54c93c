/-
  DmSimulator.Runs.Completion

  A run with unbounded time comes to an end, and then every request of every
  stream has been issued and answered exactly once.

  The event log grows by one entry a turn.  It holds one `GenerateRequest` entry
  for each issued request and at most six entries for each request, and no more
  requests are issued than there are in the streams.
-/
import DmSimulator.Runs.Start
import Mathlib.Algebra.Order.BigOperators.Group.List

namespace DmSimulator

/-- A list whose entries have keys up to `n` is no longer than its entries of key
    zero and at most `k` entries for each other key. -/
theorem length_le_of_filter {α : Type} (key : α → Nat) {l : List α} {n k : Nat}
    (hkeys : ∀ a ∈ l, key a ≤ n)
    (hbound : ∀ i, 1 ≤ i → i ≤ n → (l.filter (fun a => key a = i)).length ≤ k) :
    l.length ≤ (l.filter (fun a => key a = 0)).length + n * k := by
  induction n generalizing l with
  | zero =>
      have hall : l.filter (fun a => key a = 0) = l :=
        List.filter_eq_self.mpr fun a ha => by
          have := hkeys a ha
          simp only [decide_eq_true_eq]
          omega
      rw [hall]
      omega
  | succ n ih =>
      have hsplit := List.length_eq_length_filter_add (l := l) fun a => decide (key a = n + 1)
      have hrest := ih (l := l.filter fun a => ! decide (key a = n + 1))
        (fun a ha => by
          obtain ⟨hmem, hne⟩ := List.mem_filter.mp ha
          have := hkeys a hmem
          simp only [Bool.not_eq_true', decide_eq_false_iff_not] at hne
          omega)
        (fun i hi hle => by
          have hsame : (l.filter fun a => ! decide (key a = n + 1)).filter (fun a => key a = i) =
              l.filter (fun a => key a = i) := by
            rw [List.filter_filter]
            apply List.filter_congr
            intro a _
            by_cases heq : key a = i
            · simp [heq]
              omega
            · simp [heq]
          rw [hsame]
          exact hbound i hi (by omega))
      have hzero : (l.filter fun a => ! decide (key a = n + 1)).filter (fun a => key a = 0) =
          l.filter (fun a => key a = 0) := by
        rw [List.filter_filter]
        apply List.filter_congr
        intro a _
        by_cases heq : key a = 0
        · simp [heq]
        · simp [heq]
      have hlast := hbound (n + 1) (by omega) (le_refl _)
      rw [hzero] at hrest
      rw [Nat.add_mul, Nat.one_mul]
      omega

theorem Phase.length_logged_le (config : SimulationConfig) (t : Ticket) (phase : Phase) :
    (phase.logged config t).length ≤ 6 := by
  cases phase <;> simp [Phase.logged]

namespace Simulator

variable {P : CachePolicy}

/-- The number of requests in the streams. -/
def streamLength (s : Simulator P) : Nat :=
  s.computeNodes.total (fun node => node.workload.requests.length)

/-- A handler keeps the node's id and its stream. -/
theorem computeStep_stream {A : Arith} {node node' : ComputeNode P} {event : Event} {sh : Shared}
    {effect : Effect} (h : ComputeNode.ComputeStep A node event sh node' effect) :
    node'.nodeId = node.nodeId ∧ node'.workload.requests = node.workload.requests := by
  cases h <;> exact ⟨rfl, rfl⟩

/-- A turn processes one event and keeps the configuration and the streams. -/
theorem move_spec {A : Arith} {s t : Simulator P} (h : Run.Moves (step A) s t) :
    t.config = s.config ∧ t.streamLength = s.streamLength ∧
      ∃ event, t.eventLog = s.eventLog ++ [event] := by
  obtain ⟨event, scheduler, s', -, hdispatched, rfl⟩ := moves_iff.mp h
  have hrelease : (releaseNextEpochIfReady A s').config = s'.config ∧
      (releaseNextEpochIfReady A s').streamLength = s'.streamLength ∧
        (releaseNextEpochIfReady A s').eventLog = s'.eventLog :=
    ⟨release_keeps Simulator.config A s' fun _ => rfl,
      release_keeps Simulator.streamLength A s' fun _ => rfl,
      release_keeps Simulator.eventLog A s' fun _ => rfl⟩
  obtain ⟨hconfig, hstream, hlog⟩ := hrelease
  rw [hconfig, hstream, hlog]
  cases hdispatched with
  | @compute node node' effect hfind hstep =>
      obtain ⟨hid, hrequests⟩ := computeStep_stream hstep
      have hkey : node.nodeId = event.targetId := KeyedStore.key_of_find hfind
      have htotal := KeyedStore.total_replace
        (fun node : ComputeNode P => node.workload.requests.length) hfind (hid.trans hkey)
      refine ⟨rfl, ?_, event.record, rfl⟩
      show (s.computeNodes.insert node').total _ = s.computeNodes.total _
      rw [hrequests] at htotal
      exact Nat.add_right_cancel htotal
  | memory => exact ⟨rfl, rfl, event.record, rfl⟩

end Simulator

/-- The event log is bounded by the number of issued requests. -/
theorem RunInv.log_le {P : CachePolicy} {s : Simulator P} {phase : RequestId → Phase}
    {base : SimTime} (h : RunInv s phase base) :
    s.eventLog.length ≤ (s.shared.nextRequestId - 1) * 7 := by
  have hissued := h.issued
  have hgenerated : (s.eventLog.filter (fun e => e.requestId = 0)).length + 1 =
    s.shared.nextRequestId := h.lifecycle.generated
  have hle : s.eventLog.length ≤ (s.eventLog.filter (fun e => e.requestId = 0)).length +
      (s.shared.nextRequestId - 1) * 6 := by
    refine length_le_of_filter EventRecord.requestId ?_ ?_
    · exact fun e he => Nat.le_sub_one_of_lt (h.lifecycle.log_ids e he)
    · intro i hi hle
      have hrange : i < s.shared.nextRequestId := by lia
      have hsome := (h.lifecycle.ids i).mpr ⟨hi, hrange⟩
      obtain ⟨request, hfind⟩ := Option.isSome_iff_exists.mp hsome
      have htracks := (h.lifecycle.tracks i request hfind).logged
      have hid : request.requestId = i := KeyedStore.key_of_find hfind
      rw [hid] at htracks
      have hlength := congrArg List.length htracks
      exact hlength.trans_le (Phase.length_logged_le _ _ _)
  lia

/-- No more requests are issued than there are in the streams. -/
theorem RunInv.issued_le {P : CachePolicy} {s : Simulator P} {phase : RequestId → Phase}
    {base : SimTime} (h : RunInv s phase base) :
    s.shared.nextRequestId - 1 ≤ s.streamLength := by
  have hle : s.computeNodes.total (fun node => node.workload.nextIndex) ≤ s.streamLength :=
    List.sum_le_sum fun node hmem => (h.nodes node hmem).cursor_le
  have hissued := h.issued
  lia

-- ============================================================================
-- The end of a run
-- ============================================================================

/-- The request was issued by the node for the spec. -/
def Request.IssuedFor (request : Request) (nodeId : NodeId) (spec : RequestSpec) : Prop :=
  request.sourceNodeId = nodeId ∧ request.objectId = spec.objectId ∧
    request.sizeBytes = spec.sizeBytes ∧ request.epochId = spec.epochId

/-- Every request of every stream has been issued and answered exactly once.
    Request ids count up, so `ids` lists the requests of a node in the order in
    which they were issued. -/
structure ExactlyOnce {P : CachePolicy} (config : SimulationConfig) (s : Simulator P) : Prop where
  issued : ∀ nodeConfig ∈ config.computeNodes, ∃ ids : List RequestId,
    ids.Pairwise (· < ·) ∧
      List.Forall₂ (fun id spec => ∃ request, s.shared.requestTable.find id = some request ∧
        request.IssuedFor nodeConfig.nodeId spec) ids nodeConfig.requests ∧
      ∀ request ∈ s.shared.requestTable.items, request.sourceNodeId = nodeConfig.nodeId →
        request.requestId ∈ ids
  sources : ∀ request ∈ s.shared.requestTable.items,
    ∃ nodeConfig ∈ config.computeNodes, request.sourceNodeId = nodeConfig.nodeId
  answered : (s.shared.responses.map Response.requestId).Perm
    (s.shared.requestTable.items.map Request.requestId)
  completed : ∀ request ∈ s.shared.requestTable.items, request.currentStage = .completed
  idle : ∀ node ∈ s.computeNodes.items, node.outstandingRequests = 0

section End

variable {P : CachePolicy} {s : Simulator P} {phase : RequestId → Phase} {base : SimTime}

theorem RunInv.ticket_of_mem {request : Request}
    (hmem : request ∈ s.shared.requestTable.items) :
    s.view.requestTable.find request.requestId = some request ∧
      s.view.tickets request.requestId = some request.ticket := by
  have hfind : s.view.requestTable.find request.requestId = some request :=
    KeyedStore.find_eq_some.mpr ⟨hmem, rfl⟩
  refine ⟨hfind, ?_⟩
  unfold View.tickets
  rw [hfind]
  rfl

/-- A request that has ended has one response. -/
theorem Phase.length_answers {config : SimulationConfig} {t : Ticket} {phase : Phase}
    (h : phase.Ended) : (phase.answers config t).length = 1 := by
  cases phase <;> first | rfl | exact h.elim

/-- With nothing pending, the responses are those of the issued requests. -/
theorem RunInv.responses_perm (h : RunInv s phase base) (hnil : s.view.pending = 0) :
    (s.shared.responses.map Response.requestId).Perm
      (s.shared.requestTable.items.map Request.requestId) := by
  rw [List.perm_iff_count]
  intro id
  have hcount : (s.shared.responses.map Response.requestId).count id =
      (s.shared.responses.filter (fun p => p.requestId = id)).length := by
    rw [List.count_eq_countP, List.countP_map, List.countP_eq_length_filter]
    rfl
  cases hfind : s.shared.requestTable.find id with
  | none =>
      have hnot : id ∉ s.shared.requestTable.items.map Request.requestId := by
        rintro hmem
        obtain ⟨request, hin, rfl⟩ := List.mem_map.mp hmem
        exact KeyedStore.find_eq_none.mp hfind request hin rfl
      have hnone : id ∉ s.shared.responses.map Response.requestId := by
        rintro hmem
        obtain ⟨p, hin, rfl⟩ := List.mem_map.mp hmem
        have hsome := (h.lifecycle.ids p.requestId).mpr (h.lifecycle.response_ids p hin)
        rw [show s.view.requestTable.find p.requestId = none from hfind] at hsome
        cases hsome
      rw [List.count_eq_zero_of_not_mem hnot, List.count_eq_zero_of_not_mem hnone]
  | some request =>
      have hmem := (KeyedStore.find_eq_some.mp hfind).1
      have hid : request.requestId = id := (KeyedStore.find_eq_some.mp hfind).2
      have htracks := (h.lifecycle.tracks id request hfind).answered
      have hended := h.ended_of_drained hnil (RunInv.ticket_of_mem hmem).2
      have hlength := congrArg List.length htracks
      rw [← hid, Phase.length_answers hended] at hlength
      rw [hcount, ← hid, List.count_eq_one_of_mem s.shared.requestTable.nodup
        (List.mem_map_of_mem hmem)]
      exact hlength

/-- With nothing pending and nothing left to issue, the run is complete. -/
theorem RunInv.exactlyOnce (h : RunInv s phase base) (hnil : s.view.pending = 0)
    (hsettled : s.Settled) : ExactlyOnce s.config s := by
  refine ⟨?_, ?_, h.responses_perm hnil, ?_, (h.drained_iff.mpr hnil).2⟩
  · intro nodeConfig hconfig
    obtain ⟨node, hfind⟩ := h.present nodeConfig hconfig
    obtain ⟨hnode, hkey⟩ := h.node_of_find hfind
    have hmem := (KeyedStore.find_eq_some.mp hfind).1
    -- the cursor is at the end of the stream
    have hend : node.workload.requests.take node.workload.nextIndex = node.workload.requests :=
      List.take_of_length_le (List.getElem?_eq_none_iff.mp (hsettled hnil node hmem))
    obtain ⟨nodeConfig', hconfig', hid', hrequests⟩ := hnode.configured
    obtain rfl : nodeConfig' = nodeConfig :=
      List.inj_on_of_nodup_map h.prepared.nodeIds_nodup hconfig' hconfig (hid'.symm.trans hkey)
    obtain ⟨ids, hissued⟩ := hnode.issued
    rw [hend, hrequests, hkey] at hissued
    refine ⟨ids, hissued.increasing, hissued.forSpecs.imp ?_, ?_⟩
    · rintro id spec ⟨t, ht, hfor⟩
      unfold View.tickets at ht
      rw [Option.map_eq_some_iff] at ht
      obtain ⟨request, hrequest, rfl⟩ := ht
      exact ⟨request, hrequest, hfor⟩
    · intro request hin hsource
      exact hissued.complete request.requestId request.ticket (RunInv.ticket_of_mem hin).2 hsource
  · intro request hin
    obtain ⟨node, hfind⟩ := h.sources request.requestId request.ticket
      (RunInv.ticket_of_mem hin).2
    obtain ⟨hnode, hkey⟩ := h.node_of_find hfind
    obtain ⟨nodeConfig, hconfig, hid, -⟩ := hnode.configured
    exact ⟨nodeConfig, hconfig, hkey.symm.trans hid⟩
  · intro request hin
    exact h.completed_of_drained hnil (RunInv.ticket_of_mem hin).1

end End

-- ============================================================================
-- Exactly-once completion
-- ============================================================================

namespace Simulator

/-- The run of a well-formed configuration comes to an end. -/
theorem exists_runsTo (P : CachePolicy) {config : SimulationConfig} (hprepared : Prepared config)
    (generatedWorkload : Option GeneratedWorkload) :
    ∃ final, RunsTo .exact (ofConfig P config generatedWorkload) final := by
  let start := releaseNextEpochIfReady .exact (ofConfig P config generatedWorkload)
  refine Run.exists_end (fun t => TurnInv t ∧ t.streamLength = start.streamLength)
    (fun t => t.eventLog.length) (start.streamLength * 7) ?_ ?_ ?_ ?_
    ⟨turnInv_init hprepared, rfl⟩
  · rintro a b ⟨hturn, hstream⟩ hmove
    exact ⟨turnInv_move hturn hmove, (move_spec hmove).2.1.trans hstream⟩
  · rintro a ⟨hturn, -⟩
    exact step_ok hturn
  · rintro a b - hmove
    obtain ⟨-, -, event, hlog⟩ := move_spec hmove
    rw [hlog, List.length_append]
    exact Nat.lt_succ_self _
  · rintro a ⟨⟨⟨phase, base, hrun⟩, -⟩, hstream⟩
    have hlog := hrun.log_le
    have hissued := hrun.issued_le
    rw [hstream] at hissued
    exact hlog.trans (Nat.mul_le_mul_right 7 hissued)

theorem config_of_reaches {A : Arith} {P : CachePolicy} {s t : Simulator P}
    (h : Reachable A s t) : t.config = s.config := by
  have hstart : (releaseNextEpochIfReady A s).config = s.config :=
    release_keeps Simulator.config A s fun _ => rfl
  exact Run.invariant_of_reaches (fun t => t.config = s.config)
    (fun a b ha hmove => (move_spec hmove).1.trans ha) hstart h

theorem RunsTo.exactlyOnce {P : CachePolicy} {config : SimulationConfig}
    (hprepared : Prepared config) {generatedWorkload : Option GeneratedWorkload}
    {final : Simulator P} (h : RunsTo .exact (ofConfig P config generatedWorkload) final) :
    ExactlyOnce config final := by
  obtain ⟨⟨phase, base, hrun⟩, hsettled⟩ := turnInv_of_reachable hprepared h.reaches
  have hnil : final.view.pending = 0 := halted_iff.mp h.halted
  have honce := hrun.exactlyOnce hnil hsettled
  rw [config_of_reaches h.reaches] at honce
  exact honce

/-- Every accepted configuration has a run that ends, and at its end every request
    of every stream has been issued and answered exactly once. -/
theorem run_exactlyOnce {rng : RandomSource} {config : SimulationConfig}
    {s : Simulator (makeCachePolicy .exact config.localCache)}
    (h : construct .exact rng config = .ok s) :
    (∃ final, RunsTo .exact s final) ∧
      ∀ final, RunsTo .exact s final → ExactlyOnce s.config final := by
  obtain ⟨prepared, generatedWorkload, rfl, hprepared⟩ := construct_spec h
  exact ⟨exists_runsTo _ hprepared generatedWorkload, fun final hfinal =>
    hfinal.exactlyOnce hprepared⟩

/-- One node that reads one object twice. -/
def rereadConfig : SimulationConfig :=
  { computeNodes :=
      [{ nodeId := 1
         requests := [{ objectId := 1, sizeBytes := 64 }, { objectId := 1, sizeBytes := 64 }] }]
    localCache := { capacityBytes := 64, policyType := .lru } }

theorem rereadConfig_exactlyOnce :
    ∃ s, construct .exact lowestSource rereadConfig = .ok s ∧
      (∃ final, RunsTo .exact s final) ∧
        ∀ final, RunsTo .exact s final → ExactlyOnce s.config final :=
  ⟨_, rfl, run_exactlyOnce (show construct .exact lowestSource rereadConfig = .ok _ from rfl)⟩

end Simulator

end DmSimulator
