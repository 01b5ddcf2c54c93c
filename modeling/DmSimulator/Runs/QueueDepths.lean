/-
  DmSimulator.Runs.QueueDepths

  The two peaks of the memory queues (`metrics/stats.cpp`).

  `handle_forward_to_memory` reports the depth of the channel a request joins,
  and both peaks keep the largest depth reported.  So the peak of a channel is
  what its name says, and the peak of the memory node is so just where some
  channel was once as deep as all channels ever were together.
-/
import DmSimulator.Metrics.Rows
import DmSimulator.Runs.Recency
import Mathlib.Data.List.MinMax

namespace DmSimulator

-- ============================================================================
-- The largest of a list
-- ============================================================================

/-- The largest value; zero if there is none. -/
def largest (values : List Nat) : Nat := values.foldr max 0

theorem largest_le_iff {values : List Nat} {bound : Nat} :
    largest values ≤ bound ↔ ∀ value ∈ values, value ≤ bound := by
  constructor
  · intro h value hvalue
    exact le_trans (List.le_max_of_le hvalue (le_refl value)) h
  · intro h
    exact List.max_le_of_forall_le values bound h

theorem le_largest {values : List Nat} {value : Nat} (h : value ∈ values) :
    value ≤ largest values := largest_le_iff.mp (le_refl _) value h

theorem largest_append (values values' : List Nat) :
    largest (values ++ values') = max (largest values) (largest values') := by
  apply Nat.le_antisymm
  · rw [largest_le_iff]
    intro value hvalue
    rcases List.mem_append.mp hvalue with h | h
    · exact le_trans (le_largest h) (Nat.le_max_left _ _)
    · exact le_trans (le_largest h) (Nat.le_max_right _ _)
  · apply Nat.max_le.mpr
    constructor
    · exact largest_le_iff.mpr fun value h => le_largest (List.mem_append_left _ h)
    · exact largest_le_iff.mpr fun value h => le_largest (List.mem_append_right _ h)

theorem largest_snoc (values : List Nat) (value : Nat) :
    largest (values ++ [value]) = max (largest values) value := by
  rw [largest_append]
  exact congrArg (max (largest values)) (Nat.max_zero value)

theorem largest_flatMap {α : Type} (f : α → List Nat) (items : List α) :
    largest (items.flatMap f) = largest (items.map fun item => largest (f item)) := by
  induction items with
  | nil => rfl
  | cons item items ih =>
      rw [List.flatMap_cons, largest_append, ih]
      rfl

/-- A value of the list is as large as the largest. -/
theorem exists_largest_le {values : List Nat} {value : Nat} (h : value ≤ largest values)
    (hpos : 0 < value) : ∃ found ∈ values, value ≤ found := by
  by_contra hnone
  have hlt : ∀ found ∈ values, found ≤ value - 1 := by
    intro found hfound
    have hnot : ¬ value ≤ found := fun hle => hnone ⟨found, hfound, hle⟩
    omega
  have hle := largest_le_iff.mpr hlt
  omega

-- ============================================================================
-- The peaks of the statistics
-- ============================================================================

namespace Stats

variable {s : Stats} {request : Request} {memoryChannelId : MemoryChannelId}
  {object : InternalObjectContentionStats} {channel : InternalChannelContentionStats}

/-- The largest depth in the channel buckets. -/
def deepestBucket (s : Stats) : Nat :=
  UnorderedMap.tally max
    (fun _ channels => UnorderedMap.tally max (fun _ bucket => bucket.stats.maxQueueDepth) channels)
    s.channelContentionByEpoch_

theorem deepestBucket_written {depth : Nat}
    (hchannel : channel.stats.maxQueueDepth =
      max (s.channelBucketOf request.epochId memoryChannelId).stats.maxQueueDepth depth) :
    (s.written request memoryChannelId object channel).deepestBucket =
      max s.deepestBucket depth := by
  have hinner : UnorderedMap.tally max (fun _ bucket => bucket.stats.maxQueueDepth)
      ((s.channelContentionByEpoch_.getD request.epochId ∅).insert memoryChannelId channel) =
        max (UnorderedMap.tally max (fun _ bucket => bucket.stats.maxQueueDepth)
          (s.channelContentionByEpoch_.getD request.epochId ∅)) depth :=
    UnorderedMap.tally_insert max ({} : InternalChannelContentionStats) rfl hchannel
  exact UnorderedMap.tally_insert max ∅ rfl hinner

/-- It is the largest depth in the rows. -/
theorem deepestBucket_eq_rows (s : Stats) :
    s.deepestBucket =
      largest (s.allChannelContentionStats.map ChannelContentionStats.maxQueueDepth) := by
  have hsort := (isSortOf_allChannelContentionStats s).1.map ChannelContentionStats.maxQueueDepth
  have hperm : largest (s.allChannelContentionStats.map ChannelContentionStats.maxQueueDepth) =
      largest (s.channelRows.map ChannelContentionStats.maxQueueDepth) :=
    UnorderedMap.foldr_perm max hsort
  rw [hperm]
  unfold channelRows
  rw [List.map_flatMap, largest_flatMap]
  unfold deepestBucket UnorderedMap.tally largest UnorderedMap.values
  simp only [List.map_map]
  rfl

/-- The two peaks and the largest depth in the rows. -/
def queuePeaks (s : Stats) : Nat × Nat × Nat :=
  (s.peakMemoryQueueDepth, s.peakMemoryChannelQueueDepth, s.deepestBucket)

/-- The arrival of a request raises all three to the depth of its channel. -/
theorem queuePeaks_arrivalStats (s : Stats) (request : Request)
    (memoryChannelId : MemoryChannelId) (depth : Nat) :
    (MemoryNode.arrivalStats s request memoryChannelId depth).queuePeaks =
      (max s.peakMemoryQueueDepth depth, max s.peakMemoryChannelQueueDepth depth,
        max s.deepestBucket depth) := by
  have hdeepest : (MemoryNode.arrivalStats s request memoryChannelId depth).deepestBucket =
      max (s.observeMemoryQueueDepth depth).deepestBucket depth :=
    deepestBucket_written (ite_gt_eq_max _ _)
  have hglobal : (s.observeMemoryQueueDepth depth).peakMemoryQueueDepth =
      max s.peakMemoryQueueDepth depth := ite_gt_eq_max _ _
  have hchannel : (s.observeMemoryQueueDepth depth).peakMemoryChannelQueueDepth =
      max s.peakMemoryChannelQueueDepth depth := ite_gt_eq_max _ _
  unfold queuePeaks
  rw [hdeepest]
  exact congrArg₂ Prod.mk hglobal (congrArg₂ Prod.mk hchannel rfl)

/-- Waiting and service leave them alone. -/
theorem queuePeaks_written (hchannel : channel.stats.maxQueueDepth =
      (s.channelBucketOf request.epochId memoryChannelId).stats.maxQueueDepth) :
    (s.written request memoryChannelId object channel).queuePeaks = s.queuePeaks := by
  have hdeepest : (s.written request memoryChannelId object channel).deepestBucket =
      max s.deepestBucket 0 :=
    deepestBucket_written (hchannel.trans (max_zero_right _))
  unfold queuePeaks
  rw [hdeepest, Nat.max_zero]
  rfl

end Stats

-- ============================================================================
-- Depths along a run
-- ============================================================================

/-- How many requests are queued in the channel a request joins, and in all channels. -/
structure QueueDepths where
  joined : Nat
  total : Nat
deriving DecidableEq, Repr

namespace MemoryNode

/-- The number of requests queued in the memory node. -/
def queuedTotal (m : MemoryNode) : Nat :=
  (m.channels.map fun channel => channel.queuedRequests.length).sum

def depthsOf (m : MemoryNode) (channelId : MemoryChannelId) : QueueDepths :=
  { joined := (m.channels.getD channelId {}).queuedRequests.length
    total := m.queuedTotal }

theorem joined_le_total (m : MemoryNode) (channelId : MemoryChannelId) :
    (m.depthsOf channelId).joined ≤ (m.depthsOf channelId).total := by
  unfold depthsOf queuedTotal
  rw [List.getD_eq_getElem?_getD]
  cases hchannel : m.channels[channelId]? with
  | none => exact Nat.zero_le _
  | some channel =>
      apply List.single_le_sum (fun _ _ => Nat.zero_le _)
      exact List.mem_map.mpr ⟨channel, List.mem_of_getElem? hchannel, rfl⟩

variable {A : Arith} {m m' : MemoryNode} {event : Event} {sh : Shared} {effect : Effect}

theorem joined_setChannel {channelId : MemoryChannelId} {channel found : ChannelState}
    (h : m.channels[channelId]? = some found) :
    ((m.setChannel channelId channel).depthsOf channelId).joined =
      channel.queuedRequests.length := by
  obtain ⟨hlt, -⟩ := List.getElem?_eq_some_iff.mp h
  unfold depthsOf setChannel
  rw [List.getD_eq_getElem?_getD, List.getElem?_set_self hlt]
  rfl

/-- A request that arrives is recorded with the depth of the channel it has joined. -/
theorem MemoryStep.arrival (h : MemoryStep A m event sh m' effect)
    (htype : event.type = .forwardToMemory) :
    ∃ request, sh.requestTable.find event.requestId = some request ∧
      effect.stats = arrivalStats sh.stats (enqueued request event.time) (m.channelFor request)
        (m'.depthsOf (m'.channelFor request)).joined := by
  cases h with
  | @forwardIdle request channel _ hfind hchannel =>
      refine ⟨request, hfind, ?_⟩
      apply congrArg (arrivalStats sh.stats (enqueued request event.time) (m.channelFor request))
      exact ((joined_setChannel hchannel).trans List.length_append).symm
  | @forwardBusy request channel _ hfind hchannel =>
      refine ⟨request, hfind, ?_⟩
      apply congrArg (arrivalStats sh.stats (enqueued request event.time) (m.channelFor request))
      exact ((joined_setChannel hchannel).trans List.length_append).symm
  | start hother => exact EventType.noConfusion (htype.symm.trans hother)
  | completeIdle hother => exact EventType.noConfusion (htype.symm.trans hother)
  | completeNext hother => exact EventType.noConfusion (htype.symm.trans hother)

/-- Service does not touch the peaks. -/
theorem MemoryStep.queuePeaks (h : MemoryStep A m event sh m' effect)
    (htype : event.type ≠ .forwardToMemory) :
    effect.stats.queuePeaks = sh.stats.queuePeaks := by
  cases h with
  | forwardIdle hforward => exact absurd hforward htype
  | forwardBusy hforward => exact absurd hforward htype
  | start => exact Stats.queuePeaks_written rfl
  | completeIdle => exact Stats.queuePeaks_written rfl
  | completeNext => exact Stats.queuePeaks_written rfl

end MemoryNode

/-- Nor do the compute nodes, for which no request arrives. -/
theorem ComputeNode.ComputeStep.queuePeaks {P : CachePolicy} {A : Arith}
    {node node' : ComputeNode P} {event : Event} {sh : Shared} {effect : Effect}
    (h : ComputeStep A node event sh node' effect) :
    event.type ≠ .forwardToMemory ∧ effect.stats.queuePeaks = sh.stats.queuePeaks := by
  have hother : ∀ {type : EventType}, event.type = type → type ≠ .forwardToMemory →
      event.type ≠ .forwardToMemory := by
    rintro type rfl hne
    exact hne
  cases h with
  | drained htype | issue htype | hit htype | miss htype | hitComplete htype | returned htype
  | complete htype => exact ⟨hother htype (by decide), rfl⟩

namespace Simulator

variable {P : CachePolicy} {A : Arith}

/-- The depths the next turn reports, if it enqueues a request at the memory node. -/
def enqueuesAt (A : Arith) (s : Simulator P) : List QueueDepths :=
  match s.shared.scheduler.popNext with
  | none => []
  | some (event, _) =>
      if event.type = .forwardToMemory then
        match s.shared.requestTable.find event.requestId, step A s with
        | some request, .ok (some t) => [t.memoryNode.depthsOf (t.memoryNode.channelFor request)]
        | _, _ => []
      else []

variable {s t : Simulator P}

theorem release_stats (A : Arith) (s : Simulator P) :
    (releaseNextEpochIfReady A s).shared.stats = s.shared.stats :=
  release_keeps (fun t => t.shared.stats) A s fun _ => rfl

/-- What a turn reports, and what becomes of the peaks. -/
theorem queuePeaks_move (hmove : Run.Moves (step A) s t) :
    (enqueuesAt A s = [] ∧ t.shared.stats.queuePeaks = s.shared.stats.queuePeaks) ∨
      ∃ depths, enqueuesAt A s = [depths] ∧ depths.joined ≤ depths.total ∧
        t.shared.stats.queuePeaks =
          (max s.shared.stats.peakMemoryQueueDepth depths.joined,
            max s.shared.stats.peakMemoryChannelQueueDepth depths.joined,
            max s.shared.stats.deepestBucket depths.joined) := by
  obtain ⟨event, scheduler, s', hpop, hdispatched, rfl⟩ := moves_iff.mp hmove
  have hstep : step A s = .ok (some (releaseNextEpochIfReady A s')) := hmove
  have hother : event.type ≠ .forwardToMemory → enqueuesAt A s = [] := by
    intro htype
    unfold enqueuesAt
    simp only [hpop, htype, if_false]
  rw [release_stats]
  cases hdispatched with
  | compute _ hcompute =>
      obtain ⟨htype, hpeaks⟩ := hcompute.queuePeaks
      exact Or.inl ⟨hother htype, hpeaks⟩
  | @memory memoryNode effect _ _ hmemory =>
      by_cases htype : event.type = .forwardToMemory
      · obtain ⟨request, hfind, hstats⟩ := hmemory.arrival htype
        have hnode := (release_nodes A
          ((s.popped scheduler).afterMemory event memoryNode effect)).2
        have hfind' : s.shared.requestTable.find event.requestId = some request := hfind
        refine Or.inr ⟨memoryNode.depthsOf (memoryNode.channelFor request), ?_,
          memoryNode.joined_le_total _, ?_⟩
        · unfold enqueuesAt
          simp only [hpop, htype, if_true, hfind', hstep]
          rw [hnode]
          rfl
        · have hpeaks := Stats.queuePeaks_arrivalStats s.shared.stats
            (MemoryNode.enqueued request event.time) (s.memoryNode.channelFor request)
            (memoryNode.depthsOf (memoryNode.channelFor request)).joined
          exact (congrArg Stats.queuePeaks hstats).trans hpeaks
      · exact Or.inl ⟨hother htype, hmemory.queuePeaks htype⟩

/-- All three peaks are the largest depth of a channel that a request has joined. -/
structure DepthsInv (s : Simulator P) (trace : List QueueDepths) : Prop where
  peaks : s.shared.stats.queuePeaks =
    (largest (trace.map QueueDepths.joined), largest (trace.map QueueDepths.joined),
      largest (trace.map QueueDepths.joined))
  joined_le : ∀ depths ∈ trace, depths.joined ≤ depths.total

variable {trace : List QueueDepths}

theorem DepthsInv.move (h : DepthsInv s trace) (hmove : Run.Moves (step A) s t) :
    DepthsInv t (trace ++ enqueuesAt A s) := by
  rcases queuePeaks_move hmove with ⟨hnone, hpeaks⟩ | ⟨depths, henqueues, hle, hpeaks⟩
  · rw [hnone, List.append_nil]
    exact ⟨hpeaks.trans h.peaks, h.joined_le⟩
  · rw [henqueues]
    have hbefore := h.peaks
    unfold Stats.queuePeaks at hbefore
    rw [Prod.mk.injEq, Prod.mk.injEq] at hbefore
    obtain ⟨hglobal, hchannel, hdeepest⟩ := hbefore
    constructor
    · rw [hpeaks, hglobal, hchannel, hdeepest, List.map_append, List.map_singleton,
        largest_snoc]
    · intro other hother
      rcases List.mem_append.mp hother with hold | hnew
      · exact h.joined_le other hold
      · rw [List.mem_singleton.mp hnew]
        exact hle

theorem DepthsInv.of_traced {start : Simulator P} (h : DepthsInv start [])
    (ht : Run.Traced (step A) (enqueuesAt A) start trace t) : DepthsInv t trace := by
  induction ht with
  | start => exact h
  | move _ hmove ih => exact ih.move hmove

theorem depthsInv_init (config : SimulationConfig) (generatedWorkload : Option GeneratedWorkload) :
    DepthsInv (releaseNextEpochIfReady A (ofConfig P config generatedWorkload)) [] := by
  refine ⟨?_, fun depths hdepths => absurd hdepths List.not_mem_nil⟩
  rw [release_stats]
  rfl

-- ============================================================================
-- Global and channel peaks
-- ============================================================================

/-- The two peaks are what their names say, given the depths at each enqueue so far. -/
structure PeaksObserved (stats : Stats) (trace : List QueueDepths) : Prop where
  global : stats.peakMemoryQueueDepth = largest (trace.map QueueDepths.total)
  channel : stats.peakMemoryChannelQueueDepth = largest (trace.map QueueDepths.joined)
  rows : stats.peakMemoryChannelQueueDepth =
    largest (stats.allChannelContentionStats.map ChannelContentionStats.maxQueueDepth)

/-- At no enqueue more requests are queued than the deepest channel that was joined holds. -/
def OneChannelDeepest (trace : List QueueDepths) : Prop :=
  ∀ depths ∈ trace, ∃ deepest ∈ trace, depths.total ≤ deepest.joined

theorem DepthsInv.peaksObserved_iff (h : DepthsInv s trace) :
    PeaksObserved s.shared.stats trace ↔ OneChannelDeepest trace := by
  have hpeaks := h.peaks
  unfold Stats.queuePeaks at hpeaks
  rw [Prod.mk.injEq, Prod.mk.injEq] at hpeaks
  obtain ⟨hglobal, hchannel, hdeepest⟩ := hpeaks
  have hle : largest (trace.map QueueDepths.joined) ≤ largest (trace.map QueueDepths.total) := by
    rw [largest_le_iff, List.forall_mem_map]
    intro depths hdepths
    exact le_trans (h.joined_le depths hdepths) (le_largest (List.mem_map_of_mem hdepths))
  constructor
  · intro hobserved depths hdepths
    have htotal : depths.total ≤ largest (trace.map QueueDepths.joined) := by
      rw [← hglobal, hobserved.global]
      exact le_largest (List.mem_map_of_mem hdepths)
    by_cases hpos : 0 < depths.total
    · obtain ⟨found, hfound, hdeep⟩ := exists_largest_le htotal hpos
      obtain ⟨deepest, hmem, rfl⟩ := List.mem_map.mp hfound
      exact ⟨deepest, hmem, hdeep⟩
    · exact ⟨depths, hdepths, by omega⟩
  · intro hdeep
    have hge : largest (trace.map QueueDepths.total) ≤ largest (trace.map QueueDepths.joined) := by
      rw [largest_le_iff, List.forall_mem_map]
      intro depths hdepths
      obtain ⟨deepest, hmem, hdepth⟩ := hdeep depths hdepths
      exact le_trans hdepth (le_largest (List.mem_map_of_mem hmem))
    refine ⟨hglobal.trans (Nat.le_antisymm hle hge), hchannel, ?_⟩
    rw [hchannel, ← hdeepest]
    exact Stats.deepestBucket_eq_rows s.shared.stats

theorem depthsInv_of_construct {rng : RandomSource} {config : SimulationConfig}
    {s t : Simulator (makeCachePolicy A config.localCache)} (h : construct A rng config = .ok s)
    (ht : Run.Traced (step A) (enqueuesAt A) (releaseNextEpochIfReady A s) trace t) :
    DepthsInv t trace := by
  unfold construct at h
  simp only [bind_eq_ok, pure_eq_ok, Prod.exists] at h
  obtain ⟨prepared, generatedWorkload, -, rfl⟩ := h
  exact (depthsInv_init prepared generatedWorkload).of_traced ht

/-- In every run, after any number of turns, the peak of the memory node and the peak of a
    channel are what their names say just where some joined channel was as deep as all
    channels were together. -/
theorem run_peaksObserved_iff {rng : RandomSource} {config : SimulationConfig}
    {s : Simulator (makeCachePolicy A config.localCache)} (h : construct A rng config = .ok s)
    (trace : List QueueDepths) (t : Simulator (makeCachePolicy A config.localCache))
    (ht : Run.Traced (step A) (enqueuesAt A) (releaseNextEpochIfReady A s) trace t) :
    PeaksObserved t.shared.stats trace ↔ OneChannelDeepest trace :=
  (depthsInv_of_construct h ht).peaksObserved_iff

theorem contendedConfig_peaksObserved_iff :
    ∃ s, construct .word64 lowestSource contendedConfig = .ok s ∧
      ∀ trace t, Run.Traced (step .word64) (enqueuesAt .word64) (releaseNextEpochIfReady .word64 s)
        trace t → (PeaksObserved t.shared.stats trace ↔ OneChannelDeepest trace) :=
  ⟨_, rfl, run_peaksObserved_iff
    (show construct .word64 lowestSource contendedConfig = .ok _ from rfl)⟩

/-- Two nodes that join two channels at the same time. -/
def spreadRequests : SimulationConfig :=
  { memoryChannelCount := 2
    computeNodes :=
      [{ nodeId := 1, requests := [{ objectId := 1, sizeBytes := 64 }] },
       { nodeId := 3, requests := [{ objectId := 2, sizeBytes := 64 }] }] }

/-- Construct, make a number of moves, and test what was observed. -/
def observesTo {β : Type} (A : Arith) (rng : RandomSource) (config : SimulationConfig)
    (observe : Simulator (makeCachePolicy A config.localCache) → List β) (fuel : Nat)
    (check : List β → Bool) : Bool :=
  match construct A rng config with
  | .error _ => false
  | .ok s => check (Run.traceFor (step A) observe fuel [] (releaseNextEpochIfReady A s)).1

theorem traced_of_observesTo {β : Type} {rng : RandomSource} {config : SimulationConfig}
    {observe : Simulator (makeCachePolicy A config.localCache) → List β} {fuel : Nat}
    {check : List β → Bool} (h : observesTo A rng config observe fuel check = true) :
    ∃ s trace t, construct A rng config = .ok s ∧
      Run.Traced (step A) observe (releaseNextEpochIfReady A s) trace t ∧ check trace = true := by
  unfold observesTo at h
  cases hs : construct A rng config with
  | error e => simp [hs] at h
  | ok s =>
      rw [hs] at h
      exact ⟨s, _, _, rfl, Run.traced_traceFor fuel .start, h⟩

/-- Two requests are queued at once, and both peaks are one. -/
theorem spreadRequests_not_peaksObserved :
    ∃ s trace t, construct .word64 lowestSource spreadRequests = .ok s ∧
      Run.Traced (step .word64) (enqueuesAt .word64) (releaseNextEpochIfReady .word64 s) trace t ∧
        ¬ PeaksObserved t.shared.stats trace := by
  obtain ⟨s, trace, t, hs, htraced, hcheck⟩ := traced_of_observesTo
    (show observesTo .word64 lowestSource spreadRequests (enqueuesAt .word64) 20 (fun trace =>
      trace.any fun depths => trace.all fun deepest => deepest.joined < depths.total) = true by
      decide +kernel)
  refine ⟨s, trace, t, hs, htraced, fun hobserved => ?_⟩
  have hdeep := (depthsInv_of_construct hs htraced).peaksObserved_iff.mp hobserved
  obtain ⟨depths, hdepths, hall⟩ := List.any_eq_true.mp hcheck
  obtain ⟨deepest, hmem, hle⟩ := hdeep depths hdepths
  have hlt := of_decide_eq_true (List.all_eq_true.mp hall deepest hmem)
  omega

end Simulator

end DmSimulator
