/-
  DmSimulator.Runs.HitCredit

  Hit credit over a run, in either reading of the arithmetic.

  Every hit and every miss is found again as a pending event, as a queued request,
  or as the response or the record it leads to.  Nothing here depends on when the
  events happen: an event that the scheduler refuses stays in the balance as one
  that will never be processed.
-/
import DmSimulator.Cache.HitCredit
import DmSimulator.Runs.CacheRuns
import DmSimulator.Runs.Drain

namespace DmSimulator

/-- The events of a request that has missed and is not queued at its channel. -/
def EventType.carriesMiss : EventType → Bool
  | .forwardToMemory | .memoryServiceComplete | .returnResponse => true
  | _ => false

/-- The number of requests queued at the channels. -/
def MemoryNode.queued (m : MemoryNode) : Nat :=
  (m.channels.map fun channel => channel.queuedRequests.length).sum

-- ============================================================================
-- One event
-- ============================================================================

theorem MemoryNode.queued_setChannel {m : MemoryNode} {c : MemoryChannelId}
    {channel : ChannelState} (h : m.channels[c]? = some channel) (channel' : ChannelState) :
    (m.setChannel c channel').queued + channel.queuedRequests.length =
      m.queued + channel'.queuedRequests.length :=
  sum_map_set (fun channel : ChannelState => channel.queuedRequests.length) h channel'

namespace ComputeNode

variable {P : CachePolicy} {A : Arith} {node node' : ComputeNode P} {event : Event} {sh : Shared}
  {effect : Effect}

/-- Entering an epoch is no hit and no remote response. -/
theorem enterEpoch_counts (node : ComputeNode P) (stats : Stats) (epochId : EpochId)
    (time : SimTime) :
    (node.enterEpoch A stats epochId time).hitCount = node.localCache.hitCount ∧
      (node.enterEpoch A stats epochId time).remoteRecords = node.localCache.remoteRecords := by
  unfold enterEpoch
  split
  · exact ⟨rfl, rfl⟩
  · cases node.globalReplicaPlan with
    | none => exact ⟨rfl, rfl⟩
    | some plan =>
        exact LocalCache.installReplicas_counts (node.localCache.onEpochStart stats epochId) _ time
          node.nodeId epochId

/-- What a handler of a compute node does to hits, misses and what they lead to. -/
structure Balanced (node : ComputeNode P) (event : Event) (sh : Shared) (node' : ComputeNode P)
    (effect : Effect) : Prop where
  hits : effect.stats.localCacheHits + node.localCache.hitCount =
    sh.stats.localCacheHits + node'.localCache.hitCount
  answered : effect.stats.localCacheHits +
      (if event.type = .localCacheHitComplete then 1 else 0) =
    sh.stats.localCacheHits + effect.events.countP (fun e => e.type = .localCacheHitComplete) +
      effect.responses.countP fun p => p.servedFromTier = .localCache
  carried : effect.stats.localCacheMisses + (if event.type.carriesMiss then 1 else 0) +
      node.localCache.remoteRecords =
    sh.stats.localCacheMisses + effect.events.countP (fun e => e.type.carriesMiss) +
      node'.localCache.remoteRecords

theorem ComputeStep.balanced (h : ComputeStep A node event sh node' effect) :
    node.Balanced event sh node' effect := by
  cases h with
  | drained htype => exact ⟨rfl, by rw [htype]; rfl, by rw [htype]; rfl⟩
  | @issue spec htype =>
      obtain ⟨hhits, hremote⟩ := node.enterEpoch_counts (A := A) sh.stats spec.epochId event.time
      have hburst : ∀ {q : EventType → Bool}, q .generateRequest = false →
          ((node.afterIssue A sh.stats spec event.time).nextBurst A).toList.countP
            (fun e => q e.type) = 0 := fun hq =>
        Simulator.countP_generates hq fun e he => (mem_nextBurst he).1
      refine ⟨congrArg (sh.stats.localCacheHits + ·) hhits.symm, ?_, ?_⟩
      · rw [htype, List.countP_cons, hburst (q := fun t => t = .localCacheHitComplete) rfl]
        rfl
      · rw [htype, List.countP_cons, hburst (q := EventType.carriesMiss) rfl]
        exact congrArg (sh.stats.localCacheMisses + ·) hremote.symm
  | @hit request htype hrequest hhit =>
      obtain ⟨hhits, hremote⟩ :=
        LocalCache.lookup_counts sh.stats node.localCache (lookedUp request) event.time
      rw [hhit, if_pos rfl] at hhits
      refine ⟨?_, by rw [htype]; rfl, ?_⟩
      · show sh.stats.localCacheHits + 1 + node.localCache.hitCount = _
        rw [show _ = node.localCache.hitCount + 1 from hhits]
        omega
      · rw [htype]
        exact congrArg (sh.stats.localCacheMisses + ·) hremote.symm
  | @miss request htype hrequest hmiss =>
      obtain ⟨hhits, hremote⟩ :=
        LocalCache.lookup_counts sh.stats node.localCache (lookedUp request) event.time
      rw [hmiss, if_neg Bool.false_ne_true] at hhits
      refine ⟨congrArg (sh.stats.localCacheHits + ·) hhits.symm, by rw [htype]; rfl, ?_⟩
      rw [htype]
      exact congrArg (sh.stats.localCacheMisses + 1 + ·) hremote.symm
  | hitComplete htype => exact ⟨rfl, by rw [htype]; rfl, by rw [htype]; rfl⟩
  | @returned request htype =>
      obtain ⟨hhits, hremote⟩ := LocalCache.admitObject_counts (A := A) node.localCache request
        (memoryResponse A request event.time) event.time
      refine ⟨congrArg (sh.stats.localCacheHits + ·) hhits.symm, by rw [htype]; rfl, ?_⟩
      rw [htype]
      show sh.stats.localCacheMisses + 1 + node.localCache.remoteRecords = _
      rw [show _ = node.localCache.remoteRecords + 1 from hremote]
      exact Nat.add_right_comm _ 1 _
  | complete htype =>
      have hnext : ∀ {q : EventType → Bool}, q .generateRequest = false →
          (node.nextOnCompletion sh.scheduler.now).toList.countP (fun e => q e.type) = 0 :=
        fun hq => Simulator.countP_generates hq fun e he => (mem_nextOnCompletion he).1
      refine ⟨rfl, ?_, ?_⟩
      · rw [htype, hnext (q := fun t => t = .localCacheHitComplete) rfl]
        rfl
      · rw [htype, hnext (q := EventType.carriesMiss) rfl]
        rfl

end ComputeNode

namespace MemoryNode

variable {A : Arith} {m m' : MemoryNode} {event : Event} {sh : Shared} {effect : Effect}

/-- What a handler of the memory node does to hits, misses and what they lead to. -/
structure Balanced (m : MemoryNode) (event : Event) (sh : Shared) (m' : MemoryNode)
    (effect : Effect) : Prop where
  hits : effect.stats.localCacheHits = sh.stats.localCacheHits
  answered : event.type ≠ .localCacheHitComplete ∧
    effect.events.countP (fun e => e.type = .localCacheHitComplete) = 0 ∧ effect.responses = []
  carried : effect.stats.localCacheMisses + (if event.type.carriesMiss then 1 else 0) + m.queued =
    sh.stats.localCacheMisses + effect.events.countP (fun e => e.type.carriesMiss) + m'.queued

theorem MemoryStep.balanced (h : MemoryStep A m event sh m' effect) :
    m.Balanced event sh m' effect := by
  cases h with
  | @forwardIdle request channel htype hrequest hchannel =>
      have hqueued := queued_setChannel hchannel
        { queuedRequests := channel.queuedRequests ++ [event.requestId]
          serviceInProgress := false
          serviceStartScheduled := true }
      rw [List.length_append, List.length_singleton] at hqueued
      refine ⟨rfl, ⟨by rw [htype]; decide, rfl, rfl⟩, ?_⟩
      rw [htype]
      show sh.stats.localCacheMisses + 1 + m.queued = sh.stats.localCacheMisses + 0 + _
      omega
  | @forwardBusy request channel htype hrequest hchannel =>
      have hqueued := queued_setChannel hchannel
        { channel with queuedRequests := channel.queuedRequests ++ [event.requestId] }
      rw [List.length_append, List.length_singleton] at hqueued
      refine ⟨rfl, ⟨by rw [htype]; decide, rfl, rfl⟩, ?_⟩
      rw [htype]
      show sh.stats.localCacheMisses + 1 + m.queued = sh.stats.localCacheMisses + 0 + _
      omega
  | @start request channel rest htype hrequest hchannel hqueue =>
      have hqueued := queued_setChannel hchannel
        { queuedRequests := rest
          serviceStartScheduled := false
          serviceInProgress := true }
      simp only [hqueue, List.length_cons] at hqueued
      refine ⟨rfl, ⟨by rw [htype]; decide, rfl, rfl⟩, ?_⟩
      rw [htype]
      show sh.stats.localCacheMisses + 0 + m.queued = sh.stats.localCacheMisses + 1 + _
      omega
  | @completeIdle request channel htype hrequest hchannel hprogress hqueue =>
      have hqueued := queued_setChannel hchannel
        { queuedRequests := []
          serviceInProgress := false
          serviceStartScheduled := channel.serviceStartScheduled }
      rw [hqueue] at hqueued
      refine ⟨rfl, ⟨by rw [htype]; decide, rfl, rfl⟩, ?_⟩
      rw [htype]
      exact congrArg (sh.stats.localCacheMisses + 1 + ·) hqueued.symm
  | @completeNext request channel next rest htype hrequest hchannel hprogress hqueue =>
      have hqueued := queued_setChannel hchannel
        { queuedRequests := next :: rest
          serviceInProgress := false
          serviceStartScheduled := true }
      rw [hqueue] at hqueued
      refine ⟨rfl, ⟨by rw [htype]; decide, rfl, rfl⟩, ?_⟩
      rw [htype]
      exact congrArg (sh.stats.localCacheMisses + 1 + ·) (Nat.add_right_cancel hqueued).symm

end MemoryNode

-- ============================================================================
-- The balance of a run
-- ============================================================================

namespace Simulator

variable {P : CachePolicy} {A : Arith}

/-- The caches are credited with all hits, and the hits and misses counted so far are found
    again in what they have led to. -/
structure Balanced (s : Simulator P) : Prop where
  credited : ∀ node ∈ s.computeNodes.items, node.localCache.Credited
  hits : s.shared.stats.localCacheHits =
    s.computeNodes.total fun node => node.localCache.hitCount
  answered : s.shared.stats.localCacheHits =
    s.shared.scheduler.raised.countP (fun e => e.type = .localCacheHitComplete) +
      s.shared.responses.countP fun p => p.servedFromTier = .localCache
  carried : s.shared.stats.localCacheMisses =
    s.shared.scheduler.raised.countP (fun e => e.type.carriesMiss) + s.memoryNode.queued +
      s.computeNodes.total fun node => node.localCache.remoteRecords

/-- The raised events after a dispatch. -/
theorem raised_apply {s : Simulator P} {scheduler : Scheduler} (effect : Effect)
    (q : EventRecord → Prop) [DecidablePred q] :
    ((s.popped scheduler).shared.apply effect).scheduler.raised.countP q =
      effect.events.countP (fun e => q e) + scheduler.raised.countP q := by
  show (scheduler.scheduleAll effect.events).raised.countP q = _
  rw [Scheduler.scheduleAll_raised, Multiset.countP_add, Multiset.coe_countP]

theorem Balanced.dispatch {s s' : Simulator P} {event : Event} {scheduler : Scheduler}
    (h : s.Balanced) (hpop : s.shared.scheduler.popNext = some (event, scheduler))
    (hdispatched : Dispatched A (s.popped scheduler) event s') : s'.Balanced := by
  have hraised := Scheduler.popNext_raised hpop
  have hanswered := h.answered
  have hcarried := h.carried
  have hhits := h.hits
  rw [hraised, Multiset.countP_cons] at hanswered hcarried
  cases hdispatched with
  | @compute node node' effect hfind hstep =>
      have hbalanced := hstep.balanced
      have hid : node'.nodeId = node.nodeId := (computeStep_stream hstep).1
      have hkey : node'.nodeId = event.targetId := hid.trans (KeyedStore.key_of_find hfind)
      have hfind' : s.computeNodes.find event.targetId = some node := hfind
      have hcount := KeyedStore.total_replace (fun node => node.localCache.hitCount) hfind' hkey
      have hremote := KeyedStore.total_replace (fun node => node.localCache.remoteRecords) hfind'
        hkey
      refine ⟨?_, ?_, ?_, ?_⟩
      · intro other hother
        rcases KeyedStore.mem_insert.mp hother with rfl | ⟨hold, -⟩
        · rw [hstep.localCache_eq]
          exact (h.credited node (KeyedStore.find_eq_some.mp hfind').1).foldl_applyOp _
        · exact h.credited other hold
      · have hstats : effect.stats.localCacheHits + node.localCache.hitCount =
            s.shared.stats.localCacheHits + node'.localCache.hitCount := hbalanced.hits
        show effect.stats.localCacheHits = (s.computeNodes.insert node').total _
        omega
      · have hstats : effect.stats.localCacheHits +
              (if event.record.type = .localCacheHitComplete then 1 else 0) =
            s.shared.stats.localCacheHits +
              effect.events.countP (fun e => e.type = .localCacheHitComplete) +
                effect.responses.countP fun p => p.servedFromTier = .localCache :=
          hbalanced.answered
        show effect.stats.localCacheHits = _ + (s.shared.responses ++ effect.responses).countP _
        rw [List.countP_append, ← Nat.add_assoc]
        refine Eq.trans ?_ (congrArg (· + _ + _)
          (raised_apply effect fun e => e.type = .localCacheHitComplete).symm)
        omega
      · have hstats : effect.stats.localCacheMisses +
              (if event.record.type.carriesMiss then 1 else 0) + node.localCache.remoteRecords =
            s.shared.stats.localCacheMisses + effect.events.countP (fun e => e.type.carriesMiss) +
              node'.localCache.remoteRecords := hbalanced.carried
        show effect.stats.localCacheMisses = _ + s.memoryNode.queued +
          (s.computeNodes.insert node').total _
        refine Eq.trans ?_ (congrArg (· + _ + _)
          (raised_apply effect fun e => e.type.carriesMiss).symm)
        simp only [Bool.decide_eq_true]
        omega
  | @memory memoryNode effect hfind htarget hstep =>
      have hbalanced := hstep.balanced
      obtain ⟨htype, hnone, hresponses⟩ := hbalanced.answered
      refine ⟨h.credited, hbalanced.hits.trans hhits, ?_, ?_⟩
      · have hstats : effect.stats.localCacheHits = s.shared.stats.localCacheHits := hbalanced.hits
        rw [if_neg (show ¬ event.record.type = .localCacheHitComplete from htype)] at hanswered
        show effect.stats.localCacheHits = _ + (s.shared.responses ++ effect.responses).countP _
        rw [hresponses, List.append_nil]
        refine Eq.trans ?_ (congrArg (· + _)
          (raised_apply effect fun e => e.type = .localCacheHitComplete).symm)
        rw [hnone]
        omega
      · have hstats : effect.stats.localCacheMisses +
              (if event.record.type.carriesMiss then 1 else 0) + s.memoryNode.queued =
            s.shared.stats.localCacheMisses + effect.events.countP (fun e => e.type.carriesMiss) +
              memoryNode.queued := hbalanced.carried
        show effect.stats.localCacheMisses = _ + memoryNode.queued + s.computeNodes.total _
        refine Eq.trans ?_ (congrArg (· + _ + _)
          (raised_apply effect fun e => e.type.carriesMiss).symm)
        simp only [Bool.decide_eq_true]
        omega

theorem Balanced.release {s : Simulator P} (h : s.Balanced) :
    (releaseNextEpochIfReady A s).Balanced := by
  obtain ⟨records, htypes, hshared⟩ := release_shared A s
  have hraised : ∀ {q : EventType → Bool}, q .generateRequest = false →
      (releaseNextEpochIfReady A s).shared.scheduler.raised.countP (fun e => q e.type) =
        s.shared.scheduler.raised.countP fun e => q e.type := by
    intro q hq
    rw [hshared]
    show (s.shared.scheduler.scheduleAll records).raised.countP _ = _
    rw [Scheduler.scheduleAll_raised, Multiset.countP_add, Multiset.coe_countP]
    simp only [Bool.decide_eq_true]
    rw [countP_generates hq htypes, Nat.zero_add]
  have hnodes := release_nodes A s
  have hstats : (releaseNextEpochIfReady A s).shared.stats = s.shared.stats := by rw [hshared]
  have hresponses : (releaseNextEpochIfReady A s).shared.responses = s.shared.responses := by
    rw [hshared]
  refine ⟨?_, ?_, ?_, ?_⟩
  · rw [hnodes.1]
    exact h.credited
  · rw [hstats, hnodes.1]
    exact h.hits
  · have hcount := hraised (q := fun t => t = .localCacheHitComplete) rfl
    simp only [decide_eq_true_eq] at hcount
    rw [hstats, hresponses, hcount]
    exact h.answered
  · rw [hstats, hnodes.1, hnodes.2, hraised rfl]
    exact h.carried

theorem balanced_move {s t : Simulator P} (h : s.Balanced) (hmove : Run.Moves (step A) s t) :
    t.Balanced := by
  obtain ⟨event, scheduler, s', hpop, hdispatched, rfl⟩ := moves_iff.mp hmove
  exact (h.dispatch hpop hdispatched).release

theorem balanced_init (P : CachePolicy) (config : SimulationConfig)
    (generatedWorkload : Option GeneratedWorkload) :
    (ofConfig P config generatedWorkload).Balanced := by
  obtain ⟨plan, hplan⟩ : ∃ plan, (ofConfig P config generatedWorkload).computeNodes =
      emplaceNodes P config plan := ⟨_, rfl⟩
  have hfresh : ∀ node ∈ (ofConfig P config generatedWorkload).computeNodes.items,
      node.localCache.Credited ∧ node.localCache.hitCount = 0 ∧
        node.localCache.remoteRecords = 0 := by
    intro node hmem
    rw [hplan] at hmem
    obtain ⟨nodeConfig, -, rfl⟩ := (emplaceNodes_spec P config plan).1 node hmem
    exact ⟨LocalCache.Credited.init P _, rfl, rfl⟩
  have htotal : ∀ weight : ComputeNode P → Nat,
      (∀ node ∈ (ofConfig P config generatedWorkload).computeNodes.items, weight node = 0) →
        (ofConfig P config generatedWorkload).computeNodes.total weight = 0 := by
    intro weight hzero
    refine List.sum_eq_zero fun n hn => ?_
    obtain ⟨node, hmem, rfl⟩ := List.mem_map.mp hn
    exact hzero node hmem
  refine ⟨fun node hmem => (hfresh node hmem).1, ?_, rfl, ?_⟩
  · rw [htotal _ fun node hmem => (hfresh node hmem).2.1]
    rfl
  · rw [htotal _ fun node hmem => (hfresh node hmem).2.2]
    show 0 = 0 + ((List.replicate config.memoryChannelCount ({} : ChannelState)).map
      fun channel => channel.queuedRequests.length).sum + 0
    rw [List.map_replicate, List.sum_replicate]
    simp

-- ============================================================================
-- The end of a run
-- ============================================================================

/-- The hits credited to all admission records are the local hits and the responses from a
    local cache, and the records of remote responses are the local misses. -/
structure HitsConserved (s : Simulator P) : Prop where
  credit : (s.computeNodes.total fun node => node.localCache.hitCredit) =
    s.shared.stats.localCacheHits
  responses : s.shared.stats.localCacheHits =
    s.shared.responses.countP fun p => p.servedFromTier = .localCache
  remote : (s.computeNodes.total fun node => node.localCache.remoteRecords) =
    s.shared.stats.localCacheMisses

/-- A delayed event ends a hit or carries a miss. -/
theorem countP_delayed (events : List Event) :
    events.countP (fun event => event.type.delayed) =
      events.countP (fun event => event.type = .localCacheHitComplete) +
        events.countP fun event => event.type.carriesMiss := by
  induction events with
  | nil => rfl
  | cons event rest ih =>
      rw [List.countP_cons, List.countP_cons, List.countP_cons, ih]
      cases event.type <;> simp [EventType.delayed, EventType.carriesMiss] <;> omega

/-- At the end of a run hits and misses are conserved exactly if nothing was lost. -/
theorem Balanced.hitsConserved_iff {s : Simulator P} (h : s.Balanced) (hdrains : s.Drains)
    (hpending : s.shared.scheduler.pending = 0) : s.HitsConserved ↔ s.lost = 0 := by
  have hrefused : ∀ q : EventRecord → Bool,
      s.shared.scheduler.raised.countP (fun e => q e) =
        s.shared.scheduler.refused.countP fun event => q event.record := by
    intro q
    rw [Scheduler.raised, hpending, Multiset.zero_add, Multiset.coe_countP, List.countP_map]
    exact List.countP_congr fun event _ => by simp
  have hanswered := h.answered
  have hcarried := h.carried
  have hcount := hrefused fun e => e.type = .localCacheHitComplete
  simp only [decide_eq_true_eq] at hcount
  rw [hcount] at hanswered
  rw [hrefused fun e => e.type.carriesMiss] at hcarried
  have hlost : s.lost =
      s.shared.scheduler.refused.countP
          (fun event => event.record.type = .localCacheHitComplete) +
        s.shared.scheduler.refused.countP fun event => event.record.type.carriesMiss :=
    countP_delayed _
  have hcredit : (s.computeNodes.total fun node => node.localCache.hitCredit) =
      s.shared.stats.localCacheHits := by
    rw [h.hits]
    exact congrArg List.sum (List.map_congr_left fun node hmem => (h.credited node hmem).credit_eq)
  constructor
  · rintro ⟨-, hresponses, hremote⟩
    omega
  · intro hzero
    have hqueued : s.memoryNode.queued = 0 := by
      refine List.sum_eq_zero fun n hn => ?_
      obtain ⟨channel, hmem, rfl⟩ := List.mem_map.mp hn
      obtain ⟨c, hchannel⟩ := List.getElem?_of_mem hmem
      rw [hdrains.queues_empty hpending hzero hchannel]
      rfl
    refine ⟨hcredit, ?_, ?_⟩
    · omega
    · omega

/-- In either reading of the arithmetic, a run that ends conserves hits and misses exactly if
    no delay led into the past. -/
theorem hitsConserved_iff_delaysFit (P : CachePolicy) (config : SimulationConfig)
    (generatedWorkload : Option GeneratedWorkload) {final : Simulator P}
    (h : RunsTo A (ofConfig P config generatedWorkload) final) :
    final.HitsConserved ↔
      ∀ t, Reachable A (ofConfig P config generatedWorkload) t → t.DelayFits A := by
  have hbalanced : final.Balanced :=
    Run.invariant_of_reaches Balanced (fun _ _ ha hmove => balanced_move ha hmove)
      (balanced_init P config generatedWorkload).release h.reaches
  have hdrains : final.Drains :=
    Run.invariant_of_reaches Drains (fun _ _ ha hmove => drains_move ha hmove)
      (drains_init P config generatedWorkload).release h.reaches
  have hlost : (ofConfig P config generatedWorkload).lost = 0 := rfl
  rw [hbalanced.hitsConserved_iff hdrains (halted_iff.mp h.halted), lost_eq_zero_iff hlost h]

/-- With unbounded time every run that ends conserves hits and misses. -/
theorem run_hitsConserved {rng : RandomSource} {config : SimulationConfig}
    {s final : Simulator (makeCachePolicy .exact config.localCache)}
    (h : construct .exact rng config = .ok s) (hfinal : RunsTo .exact s final) :
    final.HitsConserved := by
  obtain ⟨prepared, generatedWorkload, rfl⟩ := construct_eq_ofConfig h
  refine (hitsConserved_iff_delaysFit _ prepared generatedWorkload hfinal).mpr fun t _ => ?_
  intro event scheduler _ delay _
  exact Nat.le_add_right event.time delay

/-- Hit credit is conserved by every sequence of cache operations under every policy, and by a
    run exactly if no delay leads into the past. -/
theorem run_hitsConserved_iff {rng : RandomSource} {config : SimulationConfig}
    {s : Simulator (makeCachePolicy A config.localCache)} (h : construct A rng config = .ok s) :
    (∀ (Q : CachePolicy) (capacityBytes : Nat) (ops : List LocalCache.CacheOp),
      (LocalCache.runOps A Q capacityBytes ops).Credited) ∧
    ∀ final, RunsTo A s final →
      (final.HitsConserved ↔ ∀ t, Reachable A s t → t.DelayFits A) := by
  obtain ⟨prepared, generatedWorkload, rfl⟩ := construct_eq_ofConfig h
  exact ⟨LocalCache.credited_runOps A, fun final hfinal =>
    hitsConserved_iff_delaysFit _ prepared generatedWorkload hfinal⟩

/-- A hit takes the longest time there is. -/
def slowestHits : SimulationConfig :=
  { rereadConfig with
    localCache := { capacityBytes := 64, hitLatency := 2 ^ 64 - 1, policyType := .lru } }

/-- The one hit of this run is never answered. -/
theorem slowestHits_not_conserved :
    ∃ s final, construct .word64 lowestSource slowestHits = .ok s ∧
      RunsTo .word64 s final ∧ ¬ final.HitsConserved := by
  obtain ⟨s, final, hs, hfinal, hcheck⟩ := runsTo_of_endsWith
    (show endsWith .word64 lowestSource slowestHits 20 (fun final =>
      final.shared.stats.localCacheHits != final.shared.responses.countP
        fun p => p.servedFromTier = .localCache) = true by decide +kernel)
  exact ⟨s, final, hs, hfinal, fun hall => bne_iff_ne.mp hcheck hall.responses⟩

/-- Hits and misses are conserved in this run, so every delay of it fits. -/
theorem rereadConfig_hitsConserved_iff :
    ∃ s final, construct .word64 lowestSource rereadConfig = .ok s ∧
      RunsTo .word64 s final ∧ final.HitsConserved ∧ final.shared.stats.localCacheHits = 1 ∧
      (∀ (Q : CachePolicy) (capacityBytes : Nat) (ops : List LocalCache.CacheOp),
        (LocalCache.runOps .word64 Q capacityBytes ops).Credited) ∧
      (final.HitsConserved ↔ ∀ t, Reachable .word64 s t → t.DelayFits .word64) := by
  obtain ⟨s, final, hs, hfinal, hcheck⟩ := runsTo_of_endsWith
    (show endsWith .word64 lowestSource rereadConfig 20 (fun final =>
      (final.computeNodes.total fun node => node.localCache.hitCredit) =
          final.shared.stats.localCacheHits ∧
        (final.shared.stats.localCacheHits =
          final.shared.responses.countP fun p => p.servedFromTier = .localCache) ∧
        (final.computeNodes.total fun node => node.localCache.remoteRecords) =
          final.shared.stats.localCacheMisses ∧
        final.shared.stats.localCacheHits = 1) = true by decide +kernel)
  obtain ⟨hcredit, hresponses, hremote, hone⟩ := of_decide_eq_true hcheck
  obtain ⟨hcredited, hiff⟩ := run_hitsConserved_iff hs
  exact ⟨s, final, hs, hfinal, ⟨hcredit, hresponses, hremote⟩, hone, hcredited,
    hiff final hfinal⟩

end Simulator

end DmSimulator
