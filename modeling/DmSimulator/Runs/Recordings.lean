/-
  DmSimulator.Runs.Recordings

  The statistics of a run change only by recordings that name a node or the
  channel of their object, so what such recordings keep holds in every state, in
  either reading of the arithmetic.
-/
import DmSimulator.Metrics.Rows
import DmSimulator.Runs.Completion

namespace DmSimulator

/-- The recording of a handler, if it makes one. -/
def Stats.RecordsAtMost (A : Arith) (channelCount : Nat) (stats stats' : Stats) : Prop :=
  stats' = stats ∨ ∃ nodeIds recording, Stats.Recording.Valid nodeIds channelCount recording ∧
    stats' = stats.record A recording

theorem ComputeNode.ComputeStep.recorded {P : CachePolicy} {A : Arith}
    {node node' : ComputeNode P} {event : Event} {sh : Shared} {effect : Effect}
    (h : ComputeStep A node event sh node' effect) (channelCount : Nat) :
    Stats.RecordsAtMost A channelCount sh.stats effect.stats := by
  have hself : node.nodeId ∈ [node.nodeId] := List.mem_singleton_self _
  cases h with
  | drained | issue | complete => exact Or.inl rfl
  | hit => exact Or.inr ⟨[node.nodeId], .hit node.nodeId, hself, rfl⟩
  | miss => exact Or.inr ⟨[node.nodeId], .miss node.nodeId, hself, rfl⟩
  | hitComplete | returned => exact Or.inr ⟨[node.nodeId], .latency node.nodeId _, hself, rfl⟩

theorem MemoryNode.MemoryStep.recorded {A : Arith} {m m' : MemoryNode} {event : Event}
    {sh : Shared} {effect : Effect} (h : MemoryStep A m event sh m' effect) :
    m'.config = m.config ∧
      Stats.RecordsAtMost A m.config.memoryChannelCount sh.stats effect.stats := by
  cases h with
  | forwardIdle | forwardBusy => exact ⟨rfl, Or.inr ⟨[], .arrival _ _ _, rfl, rfl⟩⟩
  | start => exact ⟨rfl, Or.inr ⟨[], .wait _ _ _, rfl, rfl⟩⟩
  | completeIdle | completeNext => exact ⟨rfl, Or.inr ⟨[], .service _ _ _, rfl, rfl⟩⟩

namespace Simulator

variable {P : CachePolicy} {A : Arith} {config : SimulationConfig}
  {generatedWorkload : Option GeneratedWorkload} {t : Simulator P}

/-- The invariant rule for the statistics. -/
theorem stats_of_reachable {I : Stats → Prop} (hinit : I {})
    (hrecord : ∀ (stats : Stats) (nodeIds : List NodeId) (recording : Stats.Recording),
      recording.Valid nodeIds config.memoryChannelCount → I stats → I (stats.record A recording))
    (h : Reachable A (ofConfig P config generatedWorkload) t) : I t.shared.stats := by
  have hkept : ∀ stats stats' : Stats,
      Stats.RecordsAtMost A config.memoryChannelCount stats stats' → I stats → I stats' := by
    rintro stats stats' (rfl | ⟨nodeIds, recording, hvalid, rfl⟩) hstats
    · exact hstats
    · exact hrecord stats nodeIds recording hvalid hstats
  have hrelease : ∀ s : Simulator P, s.memoryNode.config = config ∧ I s.shared.stats →
      (releaseNextEpochIfReady A s).memoryNode.config = config ∧
        I (releaseNextEpochIfReady A s).shared.stats := fun s hs =>
    release_preserves (p := fun t => t.memoryNode.config = config ∧ I t.shared.stats) hs
      fun _ _ _ => hs
  have hall : t.memoryNode.config = config ∧ I t.shared.stats := by
    apply Run.invariant_of_reaches
      (fun t : Simulator P => t.memoryNode.config = config ∧ I t.shared.stats) _ _ h
    · rintro a b ⟨hconfig, hstats⟩ hmove
      obtain ⟨event, scheduler, s', -, hdispatched, rfl⟩ := moves_iff.mp hmove
      apply hrelease
      cases hdispatched with
      | compute hfind hstep =>
          exact ⟨hconfig, hkept _ _ (hstep.recorded config.memoryChannelCount) hstats⟩
      | memory hfind htarget hstep =>
          obtain ⟨hsame, hrecorded⟩ := hstep.recorded
          exact ⟨hsame.trans hconfig, hkept _ _ (hconfig ▸ hrecorded) hstats⟩
    · exact hrelease _ ⟨rfl, hinit⟩
  exact hall.2

theorem channelsStamped_of_reachable (hchannels : 0 < config.memoryChannelCount)
    (h : Reachable A (ofConfig P config generatedWorkload) t) :
    t.shared.stats.ChannelsStamped config.memoryChannelCount :=
  stats_of_reachable (Stats.ChannelsStamped.init _)
    (fun _ _ _ hvalid hstamped => hstamped.record hchannels hvalid) h

theorem stamped_of_reachable (h : Reachable A (ofConfig P config generatedWorkload) t) :
    t.shared.stats.Stamped config.memoryChannelCount :=
  stats_of_reachable (Stats.Consistent.init [] _).stamped
    (fun _ _ _ hvalid hstamped => hstamped.record hvalid) h

theorem channels_pos_of_construct {rng : RandomSource} {config : SimulationConfig}
    {s : Simulator (makeCachePolicy A config.localCache)} (h : construct A rng config = .ok s) :
    ∃ prepared generatedWorkload, 0 < prepared.memoryChannelCount ∧
      s = ofConfig _ prepared generatedWorkload := by
  unfold construct at h
  simp only [bind_eq_ok, pure_eq_ok, Prod.exists] at h
  obtain ⟨prepared, generatedWorkload, hprepared, rfl⟩ := h
  refine ⟨prepared, generatedWorkload, ?_, rfl⟩
  unfold prepareConfig at hprepared
  cases hsynthetic : config.syntheticWorkload with
  | none =>
      simp only [hsynthetic, bind_eq_ok, throwIf_eq_ok, exists_and_left, exists_const,
        decide_eq_false_iff_not, pure_eq_ok, Prod.mk.injEq, exists_eq_left'] at hprepared
      obtain ⟨hchannels, -, -, -, rfl, -⟩ := hprepared
      exact Nat.pos_of_ne_zero hchannels
  | some synthetic =>
      simp only [hsynthetic, bind_eq_ok, throwIf_eq_ok, exists_and_left, exists_const,
        decide_eq_false_iff_not, pure_eq_ok, Prod.mk.injEq, exists_eq_left'] at hprepared
      obtain ⟨hchannels, -, -, -, -, -, -, rfl, -⟩ := hprepared
      exact Nat.pos_of_ne_zero hchannels

end Simulator

end DmSimulator
