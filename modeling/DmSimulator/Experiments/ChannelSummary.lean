/-
  DmSimulator.Experiments.ChannelSummary

  The channel figures of a summary against the waits of the channels.

  The summary is taken over rows, one for every epoch and channel with traffic.
  A channel waits in several rows or in none, so the figures are those of the
  channels only where no request waited, or where there is one row for each
  channel's worth of mean and the busiest channel waited in one epoch only.
-/
import DmSimulator.Experiments.Summaries
import DmSimulator.Lib.Imbalance
import DmSimulator.Runs.Channels
import DmSimulator.Runs.Recordings

namespace DmSimulator

open Imbalance Ranking

-- ============================================================================
-- The figures of a list of rows
-- ============================================================================

section Rows

variable (rows : List ChannelContentionStats)

/-- The queue waits of the rows, added up. -/
def rowsWait : SimTime := (rows.map ChannelContentionStats.totalQueueWait).sum

/-- What a channel waited, over all its rows. -/
def channelWait (channelId : MemoryChannelId) : SimTime :=
  rowsWait (rows.filter (fun row => row.memoryChannelId = channelId))

variable {rows}

theorem maxChannelTotalQueueWait_cons (row : ChannelContentionStats) :
    maxChannelTotalQueueWait (row :: rows) =
      max row.totalQueueWait (maxChannelTotalQueueWait rows) := by
  have hfold : ∀ start : Nat, rows.foldl
      (fun maximum channel => max maximum channel.totalQueueWait) start =
        max start (maxChannelTotalQueueWait rows) := by
    unfold maxChannelTotalQueueWait
    induction rows with
    | nil =>
        intro start
        exact (Nat.max_zero start).symm
    | cons row rows ih =>
        intro start
        rw [List.foldl_cons, List.foldl_cons, ih, ih (max 0 row.totalQueueWait), Nat.zero_max,
          max_assoc]
  exact (hfold (max 0 row.totalQueueWait)).trans (by rw [Nat.zero_max])

theorem le_maxChannelTotalQueueWait {row : ChannelContentionStats} (h : row ∈ rows) :
    row.totalQueueWait ≤ maxChannelTotalQueueWait rows := by
  induction rows with
  | nil => cases h
  | cons first rows ih =>
      rw [maxChannelTotalQueueWait_cons]
      rcases List.mem_cons.mp h with rfl | h
      · exact le_max_left _ _
      · exact (ih h).trans (le_max_right _ _)

/-- The maximum is that of a row, unless nothing waited. -/
theorem exists_maxChannelTotalQueueWait (h : 0 < maxChannelTotalQueueWait rows) :
    ∃ row ∈ rows, row.totalQueueWait = maxChannelTotalQueueWait rows := by
  induction rows with
  | nil => exact absurd h (lt_irrefl _)
  | cons first rows ih =>
      rw [maxChannelTotalQueueWait_cons] at h ⊢
      rcases le_total (maxChannelTotalQueueWait rows) first.totalQueueWait with hle | hle
      · exact ⟨first, List.mem_cons_self, (max_eq_left hle).symm⟩
      · rw [max_eq_right hle] at h ⊢
        obtain ⟨row, hrow, hmax⟩ := ih h
        exact ⟨row, List.mem_cons_of_mem _ hrow, hmax⟩

theorem channelWaitTotal_exact : channelWaitTotal .exact rows = rowsWait rows := by
  have hfold : ∀ start, rows.foldl
      (fun total channel => Arith.exact.add total channel.totalQueueWait) start =
        start + rowsWait rows := by
    unfold rowsWait
    induction rows with
    | nil => intro start; rfl
    | cons row rows ih =>
        intro start
        rw [List.foldl_cons, ih, List.map_cons, List.sum_cons]
        exact Nat.add_assoc _ _ _
  exact (hfold 0).trans (Nat.zero_add _)

theorem channelWait_cons (row : ChannelContentionStats) (channelId : MemoryChannelId) :
    channelWait (row :: rows) channelId =
      (if channelId = row.memoryChannelId then row.totalQueueWait else 0) +
        channelWait rows channelId := by
  unfold channelWait rowsWait
  by_cases h : row.memoryChannelId = channelId
  · rw [if_pos h.symm, List.filter_cons_of_pos (by simpa using h), List.map_cons, List.sum_cons]
  · rw [if_neg (Ne.symm h), List.filter_cons_of_neg (by simpa using h), Nat.zero_add]

/-- The channels wait what the rows do. -/
theorem total_channelWait {channelCount : Nat}
    (h : ∀ row ∈ rows, row.memoryChannelId < channelCount) :
    total (Finset.range channelCount) (channelWait rows) = rowsWait rows := by
  induction rows with
  | nil => exact Finset.sum_eq_zero fun _ _ => rfl
  | cons row rows ih =>
      have hrow := h row List.mem_cons_self
      have hrest := ih fun other hother => h other (List.mem_cons_of_mem row hother)
      unfold total at hrest ⊢
      rw [Finset.sum_congr rfl fun channelId _ => channelWait_cons row channelId,
        Finset.sum_add_distrib, hrest, Finset.sum_ite_eq', if_pos (Finset.mem_range.mpr hrow)]
      rfl

/-- A row waits no longer than its channel. -/
theorem totalQueueWait_le_channelWait {row : ChannelContentionStats} (h : row ∈ rows) :
    row.totalQueueWait ≤ channelWait rows row.memoryChannelId := by
  apply List.le_sum_of_mem
  apply List.mem_map_of_mem
  exact List.mem_filter.mpr ⟨h, by simp⟩

-- ============================================================================
-- Rows and channels
-- ============================================================================

variable (rows) (channelCount : Nat)

/-- Some row holds the whole wait of a channel that waited longest: a busiest channel
    waited in one epoch only. -/
def BusiestInOneEpoch : Prop :=
  ∃ row ∈ rows, ∀ channelId < channelCount, channelWait rows channelId ≤ row.totalQueueWait

/-- When the figures over the rows are those of the channels. -/
def RowsAreChannels : Prop :=
  rowsWait rows = 0 ∨ rows.length = channelCount ∧ BusiestInOneEpoch rows channelCount

variable {rows channelCount}

theorem maxChannelTotalQueueWait_le_peak (h : ∀ row ∈ rows, row.memoryChannelId < channelCount) :
    maxChannelTotalQueueWait rows ≤ peak (Finset.range channelCount) (channelWait rows) := by
  rcases Nat.eq_zero_or_pos (maxChannelTotalQueueWait rows) with hzero | hpos
  · rw [hzero]
    exact Nat.zero_le _
  · obtain ⟨row, hrow, hmax⟩ := exists_maxChannelTotalQueueWait hpos
    rw [← hmax]
    apply (totalQueueWait_le_channelWait hrow).trans
    exact load_le_peak (Finset.mem_range.mpr (h row hrow))

/-- The largest row is the largest channel just where a busiest channel is one row. -/
theorem maxChannelTotalQueueWait_eq_peak_iff
    (h : ∀ row ∈ rows, row.memoryChannelId < channelCount) (hwait : rowsWait rows ≠ 0) :
    maxChannelTotalQueueWait rows = peak (Finset.range channelCount) (channelWait rows) ↔
      BusiestInOneEpoch rows channelCount := by
  have htotal : total (Finset.range channelCount) (channelWait rows) ≠ 0 := by
    rw [total_channelWait h]
    exact hwait
  have hpos := peak_pos htotal
  constructor
  · intro heq
    rw [← heq] at hpos
    obtain ⟨row, hrow, hmax⟩ := exists_maxChannelTotalQueueWait hpos
    refine ⟨row, hrow, fun channelId hlt => ?_⟩
    rw [hmax, heq]
    exact load_le_peak (Finset.mem_range.mpr hlt)
  · rintro ⟨row, hrow, hall⟩
    apply le_antisymm (maxChannelTotalQueueWait_le_peak h)
    apply le_trans _ (le_maxChannelTotalQueueWait hrow)
    exact Finset.sup_le fun channelId hmem => hall channelId (Finset.mem_range.mp hmem)

theorem channelQueueImbalance_of_wait (hwait : rowsWait rows ≠ 0) :
    channelQueueImbalance .exact rows =
      (maxChannelTotalQueueWait rows : Rat) / ((rowsWait rows : Rat) / (rows.length : Rat)) := by
  unfold channelQueueImbalance
  have hrows : rows.isEmpty = false := by
    cases rows with
    | nil => exact absurd rfl hwait
    | cons row rows => rfl
  simp only [hrows, channelWaitTotal_exact, if_neg hwait, Bool.false_eq_true, if_false]

/-- The figures over the rows are those of the channels. -/
theorem channelFigures_iff (h : ∀ row ∈ rows, row.memoryChannelId < channelCount) :
    (maxChannelTotalQueueWait rows = peak (Finset.range channelCount) (channelWait rows) ∧
      channelQueueImbalance .exact rows =
        imbalance (Finset.range channelCount) (channelWait rows)) ↔
      RowsAreChannels rows channelCount := by
  unfold RowsAreChannels
  by_cases hwait : rowsWait rows = 0
  · have htotal : total (Finset.range channelCount) (channelWait rows) = 0 := by
      rw [total_channelWait h, hwait]
    have hpeak : peak (Finset.range channelCount) (channelWait rows) = 0 :=
      Nat.le_zero.mp (peak_le_total.trans htotal.le)
    have hmax : maxChannelTotalQueueWait rows = 0 :=
      Nat.le_zero.mp ((maxChannelTotalQueueWait_le_peak h).trans hpeak.le)
    refine iff_of_true ⟨hmax.trans hpeak.symm, ?_⟩ (Or.inl hwait)
    unfold channelQueueImbalance imbalance
    simp only [channelWaitTotal_exact, hwait, htotal, if_true, ite_self]
  · have htotal : total (Finset.range channelCount) (channelWait rows) ≠ 0 := by
      rw [total_channelWait h]
      exact hwait
    have hpeak := peak_pos htotal
    have hne : (rowsWait rows : Rat) ≠ 0 := Nat.cast_ne_zero.mpr hwait
    rw [or_iff_right hwait, maxChannelTotalQueueWait_eq_peak_iff h hwait,
      channelQueueImbalance_of_wait hwait, imbalance_of_total_ne_zero htotal, total_channelWait h,
      Finset.card_range, div_div_eq_mul_div, div_left_inj' hne, and_comm]
    apply and_congr_left
    intro hbusiest
    rw [(maxChannelTotalQueueWait_eq_peak_iff h hwait).mpr hbusiest, mul_comm, ← Nat.cast_mul,
      Nat.cast_inj, Nat.mul_left_inj hpeak.ne']

end Rows

-- ============================================================================
-- Finished runs
-- ============================================================================

namespace Simulator

variable {P : CachePolicy} (s : Simulator P) (summary : MetricsSummary)

/-- The channels of the memory node. -/
def channelIds : Finset MemoryChannelId := Finset.range s.config.memoryChannelCount

/-- The queue wait of a channel, summed over all epochs. -/
def waitOfChannel : MemoryChannelId → SimTime :=
  channelWait s.shared.stats.allChannelContentionStats

/-- The channel figures of the summary are those of the channels. -/
structure ChannelFiguresHold : Prop where
  maximum : summary.maxChannelTotalQueueWait = peak s.channelIds s.waitOfChannel
  imbalance : summary.channelQueueImbalance = Imbalance.imbalance s.channelIds s.waitOfChannel
  eq_one_iff : total s.channelIds s.waitOfChannel ≠ 0 → (summary.channelQueueImbalance = 1 ↔
    ∀ i ∈ s.channelIds, ∀ j ∈ s.channelIds, s.waitOfChannel i = s.waitOfChannel j)
  eq_count_iff : total s.channelIds s.waitOfChannel ≠ 0 →
    (summary.channelQueueImbalance = (s.config.memoryChannelCount : Rat) ↔
      ∃ i ∈ s.channelIds, ∀ j ∈ s.channelIds, j ≠ i → s.waitOfChannel j = 0)

variable {s summary}

theorem channelFiguresHold_iff (hstamped :
    s.shared.stats.ChannelsStamped s.config.memoryChannelCount)
    (hsummary : s.Summarizes .exact summary) :
    s.ChannelFiguresHold summary ↔
      RowsAreChannels s.shared.stats.allChannelContentionStats s.config.memoryChannelCount := by
  have hperm := (s.shared.stats.isSortOf_allChannelContentionStats).perm
  have hlt : ∀ row ∈ s.shared.stats.allChannelContentionStats,
      row.memoryChannelId < s.config.memoryChannelCount :=
    fun row hrow => hstamped.row_lt (hperm.subset hrow)
  rw [← channelFigures_iff hlt, ← hsummary.maxChannelTotalQueueWait,
    ← hsummary.channelQueueImbalance]
  refine ⟨fun h => ⟨h.maximum, h.imbalance⟩, fun h => ⟨h.1, h.2, fun hwait => ?_, fun hwait => ?_⟩⟩
  · rw [h.2]
    exact imbalance_eq_one_iff hwait
  · have hcard : ((s.channelIds.card : Nat) : Rat) = (s.config.memoryChannelCount : Rat) := by
      rw [channelIds, Finset.card_range]
    rw [h.2, ← hcard]
    exact imbalance_eq_card_iff hwait

theorem channelsStamped_of_run {rng : RandomSource} {config : SimulationConfig}
    {s final : Simulator (makeCachePolicy .exact config.localCache)}
    (h : construct .exact rng config = .ok s) (hfinal : RunsTo .exact s final) :
    final.shared.stats.ChannelsStamped final.config.memoryChannelCount := by
  obtain ⟨prepared, generatedWorkload, rfl, hprepared⟩ := construct_spec h
  rw [config_of_reaches hfinal.reaches]
  exact channelsStamped_of_reachable hprepared.channels_pos hfinal.reaches

/-- A finished run has a summary; its channel figures are those of the channels just where
    no request waited, or where there are as many rows as channels and a busiest channel
    waited in one epoch only. -/
theorem run_channelFigures_iff {rng : RandomSource} {config : SimulationConfig}
    {s : Simulator (makeCachePolicy .exact config.localCache)}
    (h : construct .exact rng config = .ok s) :
    ∀ final, RunsTo .exact s final → ∀ experimentName, ∃ summary,
      final.summarizeMetrics .exact experimentName = .ok summary ∧
        (final.ChannelFiguresHold summary ↔
          RowsAreChannels final.shared.stats.allChannelContentionStats
            final.config.memoryChannelCount) := by
  intro final hfinal experimentName
  obtain ⟨summary, hsummary, hsummarizes⟩ := exists_summary h hfinal experimentName
  exact ⟨summary, hsummary, channelFiguresHold_iff (channelsStamped_of_run h hfinal) hsummarizes⟩

/-- Requests wait in this run. -/
theorem contendedConfig_channelFigures_iff :
    ∃ s final, construct .exact lowestSource contendedConfig = .ok s ∧ RunsTo .exact s final ∧
      0 < rowsWait final.shared.stats.allChannelContentionStats ∧ ∀ experimentName, ∃ summary,
        final.summarizeMetrics .exact experimentName = .ok summary ∧
          (final.ChannelFiguresHold summary ↔
            RowsAreChannels final.shared.stats.allChannelContentionStats
              final.config.memoryChannelCount) := by
  obtain ⟨s, final, hs, hfinal, hcheck⟩ := runsTo_of_endsWith
    (show endsWith .exact lowestSource contendedConfig 40 (fun final =>
      0 < rowsWait final.shared.stats.allChannelContentionStats) = true by decide +kernel)
  exact ⟨s, final, hs, hfinal, of_decide_eq_true hcheck, run_channelFigures_iff hs final hfinal⟩

/-- Two nodes that meet on one of two channels. -/
def idleChannelConfig : SimulationConfig :=
  { memoryChannelCount := 2
    computeNodes :=
      [{ nodeId := 1, requests := [{ objectId := 2, sizeBytes := 64 }] },
       { nodeId := 3, requests := [{ objectId := 4, sizeBytes := 64 }] }] }

/-- The idle channel has no row, and the one row is its own mean. -/
theorem idleChannelConfig_not_channelFigures :
    ∃ s final summary, construct .exact lowestSource idleChannelConfig = .ok s ∧
      RunsTo .exact s final ∧ final.summarizeMetrics .exact "idle_channel" = .ok summary ∧
        ¬ final.ChannelFiguresHold summary := by
  obtain ⟨s, final, hs, hfinal, hcheck⟩ := runsTo_of_endsWith
    (show endsWith .exact lowestSource idleChannelConfig 30 (fun final =>
      (rowsWait final.shared.stats.allChannelContentionStats != 0) &&
        (final.shared.stats.allChannelContentionStats.length !=
          final.config.memoryChannelCount)) = true by decide +kernel)
  obtain ⟨summary, hsummary, hsummarizes⟩ := exists_summary hs hfinal "idle_channel"
  refine ⟨s, final, summary, hs, hfinal, hsummary, fun hholds => ?_⟩
  obtain ⟨hwait, hlength⟩ := Bool.and_eq_true_iff.mp hcheck
  rcases (channelFiguresHold_iff (channelsStamped_of_run hs hfinal) hsummarizes).mp hholds with
    hzero | ⟨hrows, -⟩
  · exact bne_iff_ne.mp hwait hzero
  · exact bne_iff_ne.mp hlength hrows

end Simulator

end DmSimulator
