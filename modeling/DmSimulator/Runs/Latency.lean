/-
  DmSimulator.Runs.Latency

  What a request's latency is made of, with unbounded time.

  A hit takes the hit latency.  A miss crosses the link twice, waits for its
  channel, and is served: its phases fix the times of its events, so the parts
  that the compute node and the memory node record separately add up to what is
  measured from end to end.
-/
import DmSimulator.Runs.Telemetry
import Mathlib.Algebra.BigOperators.Ring.List

namespace DmSimulator

namespace Simulator

variable {P : CachePolicy}

-- ============================================================================
-- Turns of a run
-- ============================================================================

/-- The log only grows. -/
theorem eventLog_grows {A : Arith} {s t : Simulator P} (h : Run.Reaches (step A) s t) :
    s.eventLog <+: t.eventLog := by
  induction h with
  | refl => exact List.prefix_refl _
  | tail _ hmove ih =>
      obtain ⟨-, -, e, hlog⟩ := move_spec hmove
      rw [hlog]
      exact ih.trans (List.prefix_append _ _)

/-- Every event on the log of a run was processed in one of its turns. -/
theorem exists_turn {A : Arith} {s t : Simulator P} (h : Reachable A s t) {e : EventRecord}
    (hfresh : s.eventLog = []) (he : e ∈ t.eventLog) :
    ∃ a b, Reachable A s a ∧ Run.Moves (step A) a b ∧ b.eventLog = a.eventLog ++ [e] := by
  unfold Reachable at h
  induction h with
  | refl =>
      rw [(release_log A s).1, hfresh] at he
      exact absurd he List.not_mem_nil
  | @tail a b hreach hmove ih =>
      obtain ⟨-, -, e', hlog⟩ := move_spec hmove
      rw [hlog] at he
      rcases List.mem_append.mp he with hold | hnew
      · exact ih hold
      · rw [List.mem_singleton.mp hnew]
        exact ⟨a, b, hreach, hmove, hlog⟩

/-- The turn from `s` to `t` starts the service of the request and records `waitTime`
    as its queue wait. -/
def RecordsQueueWait (s t : Simulator P) (id : RequestId) (waitTime : SimTime) : Prop :=
  ∃ start request, t.eventLog = s.eventLog ++ [start] ∧ start.type = .memoryServiceStart ∧
    start.requestId = id ∧ s.shared.requestTable.find id = some request ∧
    t.shared.stats = (s.shared.stats.recordMemoryWait .exact waitTime).recordObjectQueueWait
      .exact { request with currentStage := .waitingForResponse }
      (memoryChannelForObject request.objectId s.config.memoryChannelCount) waitTime

/-- The latency of a request that waited `waitTime` for its channel. -/
def missLatency (config : SimulationConfig) (request : Request) (waitTime : SimTime) : SimTime :=
  2 * config.oneWayLinkLatency + waitTime + config.memoryBaseLatency +
    (request.sizeBytes : Nat) ⌈/⌉ (config.memoryBandwidthBytesPerTime : Nat)

end Simulator

section Decomposition

variable {P : CachePolicy} {s : Simulator P} {phase : RequestId → Phase} {base : SimTime}

open Simulator

/-- The events of a request were processed in time order. -/
theorem RunInv.logged_sorted (h : RunInv s phase base) (hlog : s.LogOrdered) {request : Request}
    (hmem : request ∈ s.shared.requestTable.items) :
    (((phase request.requestId).logged s.config request.ticket).map
      EventRecord.time).Pairwise (· ≤ ·) := by
  rw [← (h.lifecycle.tracks _ request (RunInv.ticket_of_mem hmem).1).logged]
  exact hlog.sorted.sublist (List.filter_sublist.map _)

/-- A request starts its service after it has arrived. -/
theorem Phase.arrival_le_start {config : SimulationConfig} {t : Ticket} {start : SimTime}
    (h : (((Phase.missEnd start).logged config t).map EventRecord.time).Pairwise (· ≤ ·)) :
    t.arrival config ≤ start := by
  have htimes : [t.issueTime, t.arrival config, start, t.serviceEnd config start,
      t.returnTime config start, t.returnTime config start].Pairwise (· ≤ ·) := h
  have htail := (List.pairwise_cons.mp htimes).2
  exact (List.pairwise_cons.mp htail).1 start List.mem_cons_self

/-- A miss starts its service once. -/
theorem Phase.logged_start (config : SimulationConfig) (t : Ticket) {start : SimTime}
    {e : EventRecord} (h : e ∈ (Phase.missEnd start).logged config t)
    (htype : e.type = .memoryServiceStart) :
    e = t.memoryEvent config start .memoryServiceStart := by
  simp only [Phase.logged, List.mem_cons, List.not_mem_nil, or_false] at h
  rcases h with rfl | rfl | rfl | rfl | rfl | rfl <;> first | rfl | cases htype

/-- The response of a request, with nothing pending. -/
theorem RunInv.answer_of_drained (h : RunInv s phase base) (hnil : s.view.pending = 0)
    {p : Response} (hp : p ∈ s.shared.responses) :
    ∃ request ∈ s.shared.requestTable.items, request.requestId = p.requestId ∧
      (phase p.requestId).Ended ∧ p ∈ (phase p.requestId).answers s.config request.ticket := by
  have hsome := (h.lifecycle.ids p.requestId).mpr (h.lifecycle.response_ids p hp)
  obtain ⟨request, hfind⟩ := Option.isSome_iff_exists.mp hsome
  obtain ⟨hmem, hid⟩ := KeyedStore.find_eq_some.mp hfind
  have hended := h.ended_of_drained hnil (RunInv.ticket_of_mem hmem).2
  rw [hid] at hended
  refine ⟨request, hmem, hid, hended, ?_⟩
  rw [← (h.lifecycle.tracks _ request hfind).answered, List.mem_filter]
  exact ⟨hp, by simp [hid]⟩

/-- A hit takes the hit latency and transfers nothing. -/
theorem RunInv.hit_latency (h : RunInv s phase base) (hnil : s.view.pending = 0) {p : Response}
    (hp : p ∈ s.shared.responses) (htier : p.servedFromTier = .localCache) :
    p.totalLatency = s.config.localCache.hitLatency ∧ p.bytesTransferred = 0 := by
  obtain ⟨request, -, -, hended, hanswer⟩ := h.answer_of_drained hnil hp
  cases hphase : phase p.requestId with
  | hitEnd =>
      rw [hphase] at hanswer
      obtain rfl := List.mem_singleton.mp hanswer
      exact ⟨Nat.add_sub_cancel_left _ _, rfl⟩
  | missEnd start =>
      rw [hphase] at hanswer
      rw [List.mem_singleton.mp hanswer] at htier
      cases htier
  | _ =>
      rw [hphase] at hended
      exact hended.elim

/-- A miss takes two link crossings, the wait and the service. -/
theorem RunInv.miss_latency (h : RunInv s phase base) (hlog : s.LogOrdered)
    (hnil : s.view.pending = 0) {p : Response} (hp : p ∈ s.shared.responses)
    (htier : p.servedFromTier = .memory) :
    ∃ request start, s.shared.requestTable.find p.requestId = some request ∧
      phase p.requestId = .missEnd start ∧ p.bytesTransferred = request.sizeBytes ∧
      p.totalLatency = missLatency s.config request (start - request.ticket.arrival s.config) := by
  obtain ⟨request, hmem, hid, hended, hanswer⟩ := h.answer_of_drained hnil hp
  have hfind : s.shared.requestTable.find p.requestId = some request :=
    KeyedStore.find_eq_some.mpr ⟨hmem, hid⟩
  cases hphase : phase p.requestId with
  | hitEnd =>
      rw [hphase] at hanswer
      rw [List.mem_singleton.mp hanswer] at htier
      cases htier
  | missEnd start =>
      rw [hphase] at hanswer
      obtain rfl := List.mem_singleton.mp hanswer
      have hsorted := h.logged_sorted hlog hmem
      rw [hid, hphase] at hsorted
      have hle : request.issueTime + s.config.oneWayLinkLatency ≤ start :=
        Phase.arrival_le_start hsorted
      refine ⟨request, start, hfind, rfl, rfl, ?_⟩
      unfold missLatency
      show start + (s.config.memoryBaseLatency +
          (request.sizeBytes : Nat) ⌈/⌉ (s.config.memoryBandwidthBytesPerTime : Nat)) +
        s.config.oneWayLinkLatency - request.issueTime = 2 * s.config.oneWayLinkLatency +
          (start - (request.issueTime + s.config.oneWayLinkLatency)) +
            s.config.memoryBaseLatency + _
      lia
  | _ =>
      rw [hphase] at hended
      exact hended.elim

/-- What a request's latency is worth on the log. -/
theorem Phase.latency_of_ended {config : SimulationConfig} {t : Ticket} {phase : Phase}
    (hended : phase.Ended)
    (hsorted : ((phase.logged config t).map EventRecord.time).Pairwise (· ≤ ·)) :
    ((phase.answers config t).map Response.totalLatency).sum =
      ((phase.logged config t).map
          (worth .localCacheHitComplete (fun _ _ => 1) (some t))).sum * config.localCache.hitLatency +
        ((phase.logged config t).map
          (worth .forwardToMemory (fun _ _ => 1) (some t))).sum * (2 * config.oneWayLinkLatency) +
        ((phase.logged config t).map (worth .memoryServiceStart
          (fun t time => time - t.arrival config) (some t))).sum +
        ((phase.logged config t).map (worth .memoryServiceComplete
          (fun t _ => t.serviceTime config) (some t))).sum := by
  cases phase with
  | hitEnd =>
      show t.hitTime config - t.issueTime + 0 = 1 * config.localCache.hitLatency +
        0 * (2 * config.oneWayLinkLatency) + 0 + 0
      unfold Ticket.hitTime
      lia
  | missEnd start =>
      have hle : t.issueTime + config.oneWayLinkLatency ≤ start := Phase.arrival_le_start hsorted
      rw [Phase.worth_missEnd_start, Phase.worth_missEnd_complete]
      show start + t.serviceTime config + config.oneWayLinkLatency - t.issueTime + 0 =
        0 * config.localCache.hitLatency + 1 * (2 * config.oneWayLinkLatency) +
          (start - (t.issueTime + config.oneWayLinkLatency)) + t.serviceTime config
      lia
  | _ => exact hended.elim

/-- The waits that were recorded add up to those on the log. -/
theorem Simulator.Telemetry.totalMemoryWait_eq (h : s.Telemetry) :
    s.shared.stats.totalMemoryWait = s.ledger.totalQueueWait :=
  h.consistent.queueWait.symm.trans (congrArg Stats.Totals.totalQueueWait h.totals)

/-- The sum of the latencies, with nothing pending. -/
theorem RunInv.totalLatency_eq (h : RunInv s phase base) (hlog : s.LogOrdered)
    (ht : s.Telemetry) (hnil : s.view.pending = 0) :
    s.shared.stats.totalLatency =
      s.shared.stats.localCacheHits * s.config.localCache.hitLatency +
        s.shared.stats.localCacheMisses * (2 * s.config.oneWayLinkLatency) +
        s.shared.stats.totalMemoryWait +
        (s.shared.stats.allContentionStats.map
          ObjectContentionStats.totalRemoteServiceTime).sum := by
  have hscheduled : ∀ type, s.scheduledOf type = s.weigh type (fun _ _ => 1) := by
    intro type
    unfold scheduledOf
    rw [hnil, Multiset.countP_zero, Nat.add_zero]
  have hservice : (s.shared.stats.allContentionStats.map
      ObjectContentionStats.totalRemoteServiceTime).sum = s.ledger.totalRemoteServiceTime := by
    rw [← Stats.overAll_eq fun _ => rfl]
    exact congrArg Stats.Totals.totalRemoteServiceTime ht.totals
  rw [hservice, ht.totalMemoryWait_eq, ht.hits, ht.misses, hscheduled, hscheduled, ht.latency, h.sum_responses]
  unfold ledger
  simp only [h.weigh_eq]
  rw [← List.sum_map_mul_right, ← List.sum_map_mul_right, ← List.sum_map_add, ← List.sum_map_add,
    ← List.sum_map_add]
  refine congrArg List.sum (List.map_congr_left fun request hmem => ?_)
  exact Phase.latency_of_ended (h.ended_of_drained hnil (RunInv.ticket_of_mem hmem).2)
    (h.logged_sorted hlog hmem)

end Decomposition

namespace Simulator

-- ============================================================================
-- Latency decomposition
-- ============================================================================

/-- What the latencies of a finished run are made of.  The queue wait of a miss is
    the one that was recorded in the turn that started its service. -/
structure LatencyDecomposed {P : CachePolicy} (s final : Simulator P) : Prop where
  hits : ∀ p ∈ final.shared.responses, p.servedFromTier = .localCache →
    p.totalLatency = final.config.localCache.hitLatency ∧ p.bytesTransferred = 0
  misses : ∀ p ∈ final.shared.responses, p.servedFromTier = .memory →
    ∃ request, final.shared.requestTable.find p.requestId = some request ∧
      (∃ t u waitTime, Reachable .exact s t ∧ Run.Moves (step .exact) t u ∧
        t.RecordsQueueWait u p.requestId waitTime) ∧
      ∀ t u waitTime, Reachable .exact s t → Run.Moves (step .exact) t u →
        t.RecordsQueueWait u p.requestId waitTime →
          p.totalLatency = missLatency final.config request waitTime
  total : final.shared.stats.totalLatency =
    final.shared.stats.localCacheHits * final.config.localCache.hitLatency +
      final.shared.stats.localCacheMisses * (2 * final.config.oneWayLinkLatency) +
      final.shared.stats.totalMemoryWait +
      (final.shared.stats.allContentionStats.map
        ObjectContentionStats.totalRemoteServiceTime).sum

/-- A turn records one wait. -/
theorem RecordsWait.waitTime_eq {P : CachePolicy} {s t : Simulator P} {start : EventRecord}
    (h : s.RecordsWait t start) {id : RequestId} {waitTime : SimTime}
    (hrecords : s.RecordsQueueWait t id waitTime) :
    ∃ arrival ∈ s.eventLog, arrival.type = .forwardToMemory ∧
      arrival.requestId = start.requestId ∧ waitTime = start.time - arrival.time := by
  obtain ⟨request, arrival, -, harrival, hid, -, hstats⟩ := h
  obtain ⟨-, request', -, -, -, -, hstats'⟩ := hrecords
  obtain ⟨hin, htype, -⟩ := mem_forwards.mp harrival
  have htotal := congrArg Stats.totalMemoryWait (hstats'.symm.trans hstats)
  exact ⟨arrival, hin, htype, hid, Nat.add_left_cancel htotal⟩

/-- The wait of a served request was recorded in the turn that started its service. -/
theorem recorded_of_missEnd {P : CachePolicy} {config : SimulationConfig}
    (hprepared : Prepared config) {generatedWorkload : Option GeneratedWorkload}
    {final : Simulator P} (hfinal : RunsTo .exact (ofConfig P config generatedWorkload) final)
    {phase : RequestId → Phase} {base : SimTime} (hrun : RunInv final phase base)
    {id : RequestId} {request : Request} {start : SimTime}
    (hfind : final.shared.requestTable.find id = some request)
    (hphase : phase id = .missEnd start) :
    (∃ t u waitTime, Reachable .exact (ofConfig P config generatedWorkload) t ∧
      Run.Moves (step .exact) t u ∧ t.RecordsQueueWait u id waitTime) ∧
    ∀ t u waitTime, Reachable .exact (ofConfig P config generatedWorkload) t →
      Run.Moves (step .exact) t u → t.RecordsQueueWait u id waitTime →
        waitTime = start - request.ticket.arrival final.config := by
  have hid : request.requestId = id := KeyedStore.key_of_find hfind
  -- the service events of the request on the final log
  have hlogged : final.eventLog.filter (fun e => e.requestId = id) =
      (Phase.missEnd start).logged final.config request.ticket := by
    rw [← hphase]
    exact hid ▸ (hrun.lifecycle.tracks id request hfind).logged
  have hevents : ∀ e ∈ final.eventLog, e.requestId = id →
      e ∈ (Phase.missEnd start).logged final.config request.ticket := by
    intro e he heid
    rw [← hlogged, List.mem_filter]
    exact ⟨he, by simpa using heid⟩
  refine ⟨?_, ?_⟩
  · have hstart : request.ticket.memoryEvent final.config start .memoryServiceStart ∈
        final.eventLog := by
      have hin : request.ticket.memoryEvent final.config start .memoryServiceStart ∈
          (Phase.missEnd start).logged final.config request.ticket :=
        List.mem_cons_of_mem _ (List.mem_cons_of_mem _ List.mem_cons_self)
      rw [← hlogged] at hin
      exact (List.mem_filter.mp hin).1
    obtain ⟨t, u, ht, hmove, hturn⟩ := exists_turn hfinal.reaches rfl hstart
    obtain ⟨⟨phase', base', hrun'⟩, -⟩ := turnInv_of_reachable hprepared ht
    obtain ⟨request', arrival, hfind', -, -, -, hstats⟩ :=
      hrun'.recordsWait (logOrdered_of_reachable hprepared ht) hmove hturn rfl
    exact ⟨t, u, _, ht, hmove, _, request', hturn, rfl, hid, hid ▸ hfind', hstats⟩
  · intro t u waitTime ht hmove hrecords
    obtain ⟨⟨phase', base', hrun'⟩, -⟩ := turnInv_of_reachable hprepared ht
    have hu : Reachable .exact (ofConfig P config generatedWorkload) u := ht.tail hmove
    have hgrows := eventLog_grows (hfinal.reaches_end hu)
    have hrecorded := hrecords
    obtain ⟨startEvent, -, hturn, htype, hstartId, -⟩ := hrecorded
    obtain ⟨arrival, harrival, harrivalType, harrivalId, hwait⟩ :=
      (hrun'.recordsWait (logOrdered_of_reachable hprepared ht) hmove hturn htype).waitTime_eq
        hrecords
    -- both events are those of the request's last phase
    rw [hturn] at hgrows
    have harrivalIn := hevents arrival (hgrows.subset (List.mem_append_left _ harrival))
      (harrivalId.trans hstartId)
    have hstartIn := hevents startEvent
      (hgrows.subset (List.mem_append_right _ (List.mem_singleton_self _))) hstartId
    rw [hwait, Phase.logged_forward _ _ harrivalIn harrivalType,
      Phase.logged_start _ _ hstartIn htype]
    rfl

end Simulator

end DmSimulator
