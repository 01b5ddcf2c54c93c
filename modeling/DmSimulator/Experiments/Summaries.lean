/-
  DmSimulator.Experiments.Summaries

  The summary of a run in which every response answers a request is there, and
  its figures can be read off the final state.
-/
import DmSimulator.Experiments.Runner
import DmSimulator.Runs.Lookups

namespace DmSimulator

-- ============================================================================
-- Loops that can throw
-- ============================================================================

/-- A loop whose body neither throws nor breaks the invariant. -/
theorem foldlM_ok {α β ε : Type} {body : β → α → Except ε β} {I : β → Prop} {items : List α}
    (hbody : ∀ acc item, item ∈ items → I acc → ∃ next, body acc item = .ok next ∧ I next)
    {start : β} (hstart : I start) : ∃ last, items.foldlM body start = .ok last ∧ I last := by
  induction items generalizing start with
  | nil => exact ⟨start, rfl, hstart⟩
  | cons item items ih =>
      obtain ⟨next, hnext, hinv⟩ := hbody start item List.mem_cons_self hstart
      obtain ⟨last, hlast, hend⟩ :=
        ih (fun acc item hitem => hbody acc item (List.mem_cons_of_mem _ hitem)) hinv
      refine ⟨last, ?_, hend⟩
      rw [List.foldlM_cons, hnext]
      exact hlast

namespace ViabilityMetricsSummary

/-- The two counts of eviction regret. -/
def regret (summary : ViabilityMetricsSummary) : Nat × Nat :=
  (summary.evictionRegretCount, summary.remoteEvictionRegretCount)

theorem regret_countAdmission (summary : ViabilityMetricsSummary)
    (record : CacheAdmissionRecord) : (summary.countAdmission record).regret = summary.regret := by
  unfold countAdmission
  split <;> rfl

theorem regret_foldl_countAdmission (records : List CacheAdmissionRecord)
    (summary : ViabilityMetricsSummary) :
    (records.foldl countAdmission summary).regret = summary.regret := by
  induction records generalizing summary with
  | nil => rfl
  | cons record records ih => rw [List.foldl_cons, ih, regret_countAdmission]

theorem regret_setAdmissionRates (summary : ViabilityMetricsSummary) :
    summary.setAdmissionRates.regret = summary.regret := by
  unfold setAdmissionRates
  split <;> rfl

/-- An answered request is credited, whatever the statistics hold. -/
theorem creditResponse_ok (stats : Stats) {requests : RequestTable} {response : Response}
    (h : ∃ request, requests.find response.requestId = some request)
    (summary : ViabilityMetricsSummary) :
    ∃ next, creditResponse stats requests summary response = .ok next ∧
      next.regret = summary.regret := by
  obtain ⟨request, hfind⟩ := h
  unfold creditResponse
  split
  · exact ⟨summary, rfl, rfl⟩
  · simp only [hfind]
    split
    · exact ⟨_, rfl, rfl⟩
    · split <;> exact ⟨_, rfl, rfl⟩

end ViabilityMetricsSummary

namespace Simulator

variable {P : CachePolicy} {s : Simulator P}

/-- Every response answers a request of the table. -/
def Answers (s : Simulator P) : Prop :=
  ∀ response ∈ s.shared.responses, ∃ request,
    s.shared.requestTable.find response.requestId = some request

theorem regret_admissionMetrics (s : Simulator P) : s.admissionMetrics.regret = (0, 0) := by
  unfold admissionMetrics
  rw [ViabilityMetricsSummary.regret_setAdmissionRates,
    ViabilityMetricsSummary.regret_foldl_countAdmission]
  rfl

theorem regret_setStaleness (s : Simulator P) (summary : ViabilityMetricsSummary) :
    (s.setStaleness summary).regret = summary.regret := by
  unfold setStaleness
  simp only
  split <;> rfl

/-- The viability metrics are there, and their regret is counted from nothing. -/
theorem summarizeViabilityMetrics_spec (h : s.Answers) (perNode : List PerNodeMetricsSummary) :
    ∃ before summary : ViabilityMetricsSummary,
      s.summarizeViabilityMetrics perNode = .ok summary ∧ before.regret = (0, 0) ∧
        summary.regret = (s.cacheAdmissionDiagnostics.foldl
          (ViabilityMetricsSummary.countRecordRegret (servedTiersByRequest s.shared.responses)
            s.shared.requestTable) before).regret := by
  have hcredit : ∀ (summary : ViabilityMetricsSummary) (response : Response),
      response ∈ s.shared.responses → summary.regret = (0, 0) →
      ∃ next, ViabilityMetricsSummary.creditResponse s.shared.stats s.shared.requestTable summary
        response = .ok next ∧ next.regret = (0, 0) := by
    intro summary response hresponse hregret
    obtain ⟨next, hnext, hsame⟩ := ViabilityMetricsSummary.creditResponse_ok s.shared.stats
      (h response hresponse) summary
    exact ⟨next, hnext, hsame.trans hregret⟩
  obtain ⟨before, hcredited, hzero⟩ := foldlM_ok hcredit
    ((s.regret_setStaleness s.admissionMetrics).trans s.regret_admissionMetrics)
  unfold summarizeViabilityMetrics
  simp only [hcredited]
  exact ⟨before, _, rfl, hzero, rfl⟩

/-- What the summary says, against the final state. -/
structure Summarizes (A : Arith) (s : Simulator P) (summary : MetricsSummary) : Prop where
  viability : s.summarizeViabilityMetrics (s.config.computeNodes.map s.perNodeSummary) =
    .ok summary.viability
  peakQueueDepth : summary.memoryPeakQueueDepth = s.shared.stats.peakMemoryQueueDepth
  peakChannelQueueDepth :
    summary.memoryPeakChannelQueueDepth = s.shared.stats.peakMemoryChannelQueueDepth
  maxChannelTotalQueueWait : summary.maxChannelTotalQueueWait =
    maxChannelTotalQueueWait s.shared.stats.allChannelContentionStats
  channelQueueImbalance : summary.channelQueueImbalance =
    channelQueueImbalance A s.shared.stats.allChannelContentionStats
  topPolicyDecisions : summary.topPolicyDecisions = s.topPolicyDecisions

theorem exists_summarizes (A : Arith) (h : s.Answers) (experimentName : String) :
    ∃ summary, s.summarizeMetrics A experimentName = .ok summary ∧ s.Summarizes A summary := by
  obtain ⟨before, viability, hviability, -, -⟩ :=
    summarizeViabilityMetrics_spec h (s.config.computeNodes.map s.perNodeSummary)
  unfold summarizeMetrics
  simp only [hviability]
  exact ⟨_, rfl, hviability, rfl, rfl, rfl, rfl, rfl⟩

/-- In a run every response answers a request. -/
theorem LookupsInv.answers (h : s.LookupsInv) : s.Answers := by
  intro response hresponse
  obtain ⟨⟨ticket, hticket⟩, -⟩ := h.answered response hresponse
  obtain ⟨request, hfind, -⟩ := Option.map_eq_some_iff.mp hticket
  exact ⟨request, hfind⟩

/-- A finished run has a summary, in either reading of the arithmetic. -/
theorem exists_summary {A : Arith} {rng : RandomSource} {config : SimulationConfig}
    {s final : Simulator (makeCachePolicy A config.localCache)}
    (h : construct A rng config = .ok s) (hfinal : RunsTo A s final) (experimentName : String) :
    ∃ summary, final.summarizeMetrics A experimentName = .ok summary ∧
      final.Summarizes A summary :=
  exists_summarizes A (lookupsInv_of_construct h hfinal.reaches).answers experimentName

end Simulator

end DmSimulator
