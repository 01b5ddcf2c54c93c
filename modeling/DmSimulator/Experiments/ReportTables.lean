/-
  DmSimulator.Experiments.ReportTables

  The reports of a finished run, read back.  The labels in the records are the ones that
  the caches and the policies give, none of which needs quotes, so that every report is
  the table that was written.
-/
import DmSimulator.Experiments.ContentionReports
import DmSimulator.Runs.DecisionRows

namespace DmSimulator

open Csv

-- ============================================================================
-- Labels of a cache
-- ============================================================================

/-- A label that is written without quotes. -/
def IsPlainLabel (label : String) : Prop := IsPlainCell (textCell label)

instance (label : String) : Decidable (IsPlainLabel label) :=
  inferInstanceAs (Decidable (IsPlainCell (textCell label)))

/-- The policy gives plain reasons. -/
def CachePolicy.PlainReasons (P : CachePolicy) : Prop :=
  ∀ s request response, IsPlainLabel (P.admissionDecision s request response).reason

theorem plain_decisionOf (accept : Bool) :
    IsPlainLabel (CachePolicy.decisionOf accept).reason := by
  cases accept <;> decide

theorem ContentionAwarePolicy.plainReasons (config : ContentionPolicyConfig)
    (cacheCapacityBytes : Nat) :
    (ContentionAwarePolicy config cacheCapacityBytes).PlainReasons := by
  intro s request response
  show IsPlainLabel (admissionDecision config cacheCapacityBytes s request).reason
  rcases @admissionDecision_cases config cacheCapacityBytes s request with
    ⟨-, -, hdecision⟩ | ⟨-, hdecision⟩ | ⟨-, -, hdecision⟩ | ⟨-, -, -, -, hdecision⟩
  · rw [hdecision]
    decide
  · rw [hdecision]
    cases usesLocalConfirmation config <;> decide
  · rw [hdecision]
    decide
  · rw [hdecision]
    decide

theorem makeCachePolicy_plainReasons (A : Arith) (localCacheConfig : LocalCacheConfig) :
    (makeCachePolicy A localCacheConfig).PlainReasons := by
  unfold makeCachePolicy
  cases localCacheConfig.policyType with
  | alwaysRemote => exact fun s request response => plain_decisionOf false
  | lru => exact fun s request response => plain_decisionOf true
  | hotnessOnly => exact fun s request response => plain_decisionOf _
  | globalHottestReplication => exact fun s request response => plain_decisionOf false
  | contentionAware => exact ContentionAwarePolicy.plainReasons _ _

theorem plain_variantLabel (config : ContentionPolicyConfig) :
    IsPlainLabel (ContentionAwarePolicy.variantLabel config) := by
  unfold ContentionAwarePolicy.variantLabel
  cases config.variant <;> decide

namespace LocalCache

variable {P : CachePolicy} {A : Arith} {c : LocalCache P}

theorem Verdict.plain (hP : P.PlainReasons) {request : Request} {response : Response}
    {admitted : Bool} {reason : String} {victims : List ObjectId}
    (h : Verdict c request response admitted reason victims) : IsPlainLabel reason := by
  cases h with
  | refused => exact hP _ _ _
  | placed | tooLarge | noVictim => decide

/-- The reason and the source of every record are plain. -/
def PlainRecordings (c : LocalCache P) : Prop :=
  ∀ row ∈ c.recordings, IsPlainLabel row.1.reason ∧ IsPlainLabel row.2

theorem PlainRecordings.applyOp (hresidents : P.ChoosesResidents) (hreasons : P.PlainReasons)
    (h : c.PlainRecordings) (op : CacheOp) : (applyOp A c op).PlainRecordings := by
  unfold PlainRecordings
  rcases recorded_applyOp (A := A) hresidents c op with
    ⟨_, _, _, _, -, hsame⟩ | ⟨_, _, -, hsame⟩ | ⟨_, _, _, _, _, _, hverdict, -, hadded⟩ |
      ⟨nodeId, epochId, objects, -, hadded⟩
  · rw [hsame]
    exact h
  · rw [hsame]
    exact h
  · rw [hadded, List.forall_mem_append, List.forall_mem_singleton]
    exact ⟨h, hverdict.plain hreasons, show IsPlainLabel "remote_response" by decide⟩
  · rw [hadded, List.forall_mem_append, List.forall_mem_map]
    exact ⟨h, fun objectId _ => ⟨show IsPlainLabel "replica_installed" by decide,
      show IsPlainLabel "global_replica" by decide⟩⟩

/-- The texts of the decision records are plain. -/
def PlainDecisions (c : LocalCache P) : Prop :=
  ∀ record ∈ c.decisions, IsPlainLabel record.reason ∧ IsPlainLabel record.policyVariant

theorem PlainDecisions.applyOp {config : ContentionPolicyConfig} {cacheCapacityBytes : Nat}
    {c : LocalCache (ContentionAwarePolicy config cacheCapacityBytes)} (h : c.PlainDecisions)
    (op : CacheOp) : (applyOp A c op).PlainDecisions := by
  unfold PlainDecisions
  rcases decisions_applyOp (A := A) op with ⟨hdecisions, -⟩ |
    ⟨request, response, admitted, reason, victims, hverdict, hdecisions, -⟩
  · rw [hdecisions]
    exact h
  · rw [hdecisions, List.forall_mem_append, List.forall_mem_singleton]
    exact ⟨h, hverdict.plain (ContentionAwarePolicy.plainReasons _ _), plain_variantLabel config⟩

end LocalCache

namespace Simulator

variable {P : CachePolicy} {A : Arith}

-- ============================================================================
-- Labels of a run
-- ============================================================================

theorem plainRecordings_of_reachable (hresidents : P.ChoosesResidents)
    (hreasons : P.PlainReasons) {config : SimulationConfig}
    {generatedWorkload : Option GeneratedWorkload} {t : Simulator P}
    (h : Reachable A (ofConfig P config generatedWorkload) t) :
    ∀ record ∈ t.cacheAdmissionDiagnostics,
      IsPlainLabel record.reason ∧ IsPlainLabel record.placementSource := by
  have hinit : LocalCache.PlainRecordings (P := P)
      { capacityBytes := config.localCache.capacityBytes } := fun _ h => absurd h List.not_mem_nil
  have hcaches := caches_of_reachable hinit
    (fun c op hc => LocalCache.PlainRecordings.applyOp hresidents hreasons hc op) h
  intro record hrecord
  have hmem := (ranksBy_cacheAdmissionLess.isSortOf_sortBy t.cacheRecords).perm.subset hrecord
  obtain ⟨_, _, node, hfind, hin⟩ := mem_collect.mp hmem
  exact hcaches node (KeyedStore.find_eq_some.mp hfind).1 _ (List.mem_map_of_mem hin)

theorem diagnostics_eq_nil {localCacheConfig : LocalCacheConfig}
    (h : localCacheConfig.policyType ≠ .contentionAware)
    (s : (makeCachePolicy A localCacheConfig).State) :
    (makeCachePolicy A localCacheConfig).diagnostics s = [] := by
  revert s
  unfold makeCachePolicy
  cases htype : localCacheConfig.policyType with
  | contentionAware => exact absurd htype h
  | alwaysRemote | lru | hotnessOnly | globalHottestReplication => exact fun s => rfl

theorem plainDecisions_of_run {rng : RandomSource} {config : SimulationConfig}
    {s : Simulator (makeCachePolicy A config.localCache)} (h : construct A rng config = .ok s)
    {t : Simulator (makeCachePolicy A config.localCache)} (ht : Reachable A s t) :
    ∀ record ∈ t.policyDiagnostics,
      IsPlainLabel record.reason ∧ IsPlainLabel record.policyVariant := by
  intro record hrecord
  obtain ⟨node, hnode, hdecision⟩ := exists_node_of_policyDiagnostics hrecord
  by_cases hpolicy : config.localCache.policyType = .contentionAware
  · obtain ⟨prepared, generatedWorkload, rfl, hP⟩ := construct_contentionAware hpolicy h
    have hplain : ∀ {P : CachePolicy}, P = ContentionAwarePolicy config.localCache.contention
        prepared.localCache.capacityBytes → ∀ {t : Simulator P},
          Reachable A (ofConfig P prepared generatedWorkload) t →
            ∀ node ∈ t.computeNodes.items, node.localCache.PlainDecisions := by
      rintro P rfl t ht
      refine caches_of_reachable ?_ (fun c op hc => hc.applyOp op) ht
      exact fun _ hin => absurd hin List.not_mem_nil
    exact hplain hP ht node hnode record hdecision
  · unfold LocalCache.decisions at hdecision
    rw [diagnostics_eq_nil hpolicy] at hdecision
    exact absurd hdecision List.not_mem_nil

-- ============================================================================
-- Tables
-- ============================================================================

/-- A table of plain cells, whose rows are as long as its header. -/
structure Tabular (columns : List String) (rows : List (List Cell)) : Prop where
  wide : 1 < columns.length
  header : ∀ column ∈ columns, IsPlainCell (textCell column)
  body : ∀ row ∈ rows, row.length = columns.length ∧ ∀ cell ∈ row, IsPlainCell cell

theorem Tabular.readRows {columns : List String} {rows : List (List Cell)}
    (h : Tabular columns rows) :
    readRows none (csvText columns rows) = .ok (columns.map textCell :: rows) := by
  refine readRows_csvText ⟨h.wide, h.header⟩ (fun row hrow => ?_)
    (fun _ _ cell _ => fits_none cell)
  obtain ⟨hlength, hplain⟩ := h.body row hrow
  exact ⟨hlength ▸ h.wide, hplain⟩

theorem forall_mem_nil_cell (cell : Cell) (h : cell ∈ ([] : List Cell)) : IsPlainCell cell :=
  absurd h List.not_mem_nil

theorem tabular_perNode (summary : MetricsSummary) :
    Tabular perNodeColumns (summary.perNode.map PerNodeMetricsSummary.cells) := by
  refine ⟨by decide, by decide, List.forall_mem_map.mpr fun node _ => ⟨rfl, ?_⟩⟩
  simp only [PerNodeMetricsSummary.cells, List.forall_mem_cons]
  exact ⟨plain_natCell _, plain_natCell _, plain_realCell _, plain_realCell _, plain_natCell _,
    plain_natCell _, plain_realCell _, forall_mem_nil_cell⟩

theorem tabular_contentionByObject (s : Simulator P) :
    Tabular contentionByObjectColumns
      (s.shared.stats.allContentionStats.map ObjectContentionStats.cells) :=
  ⟨by decide, by decide, List.forall_mem_map.mpr fun row _ => ⟨rfl, row.plain_cells.2⟩⟩

theorem tabular_contentionByChannel (s : Simulator P) :
    Tabular contentionByChannelColumns
      (s.shared.stats.allChannelContentionStats.map ChannelContentionStats.cells) :=
  ⟨by decide, by decide, List.forall_mem_map.mpr fun row _ => ⟨rfl, row.plain_cells.2⟩⟩

theorem tabular_policyDiagnostics {s : Simulator P} (h : ∀ record ∈ s.policyDiagnostics,
      IsPlainLabel record.reason ∧ IsPlainLabel record.policyVariant) :
    Tabular policyDiagnosticsColumns (s.policyDiagnostics.map PolicyDecisionRecord.cells) := by
  refine ⟨by decide, by decide, List.forall_mem_map.mpr fun record hrecord => ⟨rfl, ?_⟩⟩
  obtain ⟨hreason, hvariant⟩ := h record hrecord
  simp only [PolicyDecisionRecord.cells, List.forall_mem_cons]
  exact ⟨plain_natCell _, plain_natCell _, plain_natCell _, plain_natCell _, plain_boolCell _,
    hreason, hvariant, plain_realCell _, plain_realCell _, plain_realCell _, plain_realCell _,
    plain_realCell _, plain_realCell _, plain_realCell _, plain_realCell _, plain_realCell _,
    plain_natCell _, plain_natCell _, plain_boolCell _, plain_joinEvictedObjects _,
    forall_mem_nil_cell⟩

theorem tabular_cacheAdmissions {s : Simulator P} (h : ∀ record ∈ s.cacheAdmissionDiagnostics,
      IsPlainLabel record.reason ∧ IsPlainLabel record.placementSource) :
    Tabular cacheAdmissionsColumns
      (s.cacheAdmissionDiagnostics.map CacheAdmissionRecord.cells) := by
  refine ⟨by decide, by decide, List.forall_mem_map.mpr fun record hrecord => ⟨rfl, ?_⟩⟩
  obtain ⟨hreason, hsource⟩ := h record hrecord
  have htime : IsPlainCell (if record.evicted then natCell record.evictionTime else []) := by
    split
    · exact plain_natCell _
    · exact fun c hc => absurd hc List.not_mem_nil
  simp only [CacheAdmissionRecord.cells, List.forall_mem_cons]
  exact ⟨plain_natCell _, plain_natCell _, plain_natCell _, plain_natCell _, plain_natCell _,
    plain_boolCell _, hreason, hsource, plain_natCell _, plain_natCell _, plain_boolCell _,
    plain_boolCell _, htime, plain_joinEvictedObjects _, forall_mem_nil_cell⟩

theorem tabular_epochDiagnostics (summary : MetricsSummary) :
    Tabular epochDiagnosticsColumns
      (summary.viability.epochDiagnostics.map EpochDiagnosticSummary.cells) := by
  refine ⟨by decide, by decide, List.forall_mem_map.mpr fun epoch _ => ⟨rfl, ?_⟩⟩
  simp only [EpochDiagnosticSummary.cells, List.forall_mem_cons]
  exact ⟨plain_natCell _, plain_natCell _, plain_natCell _, plain_natCell _, plain_realCell _,
    plain_realCell _, plain_joinEvictedObjects _, plain_joinEvictedObjects _, forall_mem_nil_cell⟩

theorem tabular_viability (summary : MetricsSummary) :
    Tabular viabilityColumns [summary.viability.cells] := by
  refine ⟨by decide, by decide, List.forall_mem_singleton.mpr ⟨rfl, ?_⟩⟩
  simp only [ViabilityMetricsSummary.cells, List.forall_mem_cons]
  exact ⟨plain_natCell _, plain_natCell _, plain_natCell _, plain_natCell _, plain_natCell _,
    plain_realCell _, plain_natCell _, plain_realCell _, plain_realCell _, plain_realCell _,
    plain_natCell _, plain_realCell _, plain_realCell _, plain_natCell _, plain_natCell _,
    plain_realCell _, plain_realCell _, plain_realCell _, forall_mem_nil_cell⟩

/-- Every response has a row of its own. -/
theorem tabular_latencies {requests : RequestTable} {responses : List Response}
    (h : ∀ response ∈ responses, ∃ request, requests.find response.requestId = some request) :
    ∃ rows, responses.mapM (latencyCells requests) = .ok rows ∧ Tabular latencyColumns rows ∧
      rows.length = responses.length := by
  induction responses with
  | nil => exact ⟨[], rfl, ⟨by decide, by decide, fun row hrow => absurd hrow List.not_mem_nil⟩, rfl⟩
  | cons response rest ih =>
      obtain ⟨⟨request, hfind⟩, hrest⟩ := List.forall_mem_cons.mp h
      obtain ⟨rows, hrows, htabular, hlength⟩ := ih hrest
      have htier : IsPlainCell (textCell (servedFromTierText response.servedFromTier)) := by
        cases response.servedFromTier <;> decide
      have hcells : ∃ cells, latencyCells requests response = .ok cells ∧
          cells.length = latencyColumns.length ∧ ∀ cell ∈ cells, IsPlainCell cell := by
        unfold latencyCells
        rw [hfind]
        refine ⟨_, rfl, rfl, ?_⟩
        simp only [List.forall_mem_cons]
        exact ⟨plain_natCell _, plain_natCell _, plain_natCell _, plain_natCell _, htier,
          plain_natCell _, plain_natCell _, plain_natCell _, forall_mem_nil_cell⟩
      obtain ⟨cells, hcells, hplain⟩ := hcells
      refine ⟨cells :: rows, ?_, ⟨htabular.wide, htabular.header, ?_⟩, congrArg (· + 1) hlength⟩
      · rw [List.mapM_cons, hcells, hrows]
        rfl
      · exact List.forall_mem_cons.mpr ⟨hplain, htabular.body⟩

-- ============================================================================
-- Finished runs
-- ============================================================================

/-- The reports of a finished run are there, and each of them reads back as the table that
    was written. -/
structure ReportsReadBack (s : Simulator P) (summary : MetricsSummary) : Prop where
  latencies : ∃ text rows, s.writeLatenciesCsv = .ok text ∧
    s.shared.responses.mapM (latencyCells s.shared.requestTable) = .ok rows ∧
    readRows none text = .ok (latencyColumns.map textCell :: rows) ∧
    rows.length = s.shared.responses.length
  perNode : readRows none (writePerNodeCsv summary) =
    .ok (perNodeColumns.map textCell :: summary.perNode.map PerNodeMetricsSummary.cells)
  contentionByObject : readRows none s.writeContentionByObjectCsv =
    .ok (contentionByObjectColumns.map textCell ::
      s.shared.stats.allContentionStats.map ObjectContentionStats.cells)
  contentionByChannel : readRows none s.writeContentionByChannelCsv =
    .ok (contentionByChannelColumns.map textCell ::
      s.shared.stats.allChannelContentionStats.map ChannelContentionStats.cells)
  policyDiagnostics : readRows none s.writePolicyDiagnosticsCsv =
    .ok (policyDiagnosticsColumns.map textCell ::
      s.policyDiagnostics.map PolicyDecisionRecord.cells)
  cacheAdmissions : readRows none s.writeCacheAdmissionsCsv =
    .ok (cacheAdmissionsColumns.map textCell ::
      s.cacheAdmissionDiagnostics.map CacheAdmissionRecord.cells)
  epochDiagnostics : readRows none (writeEpochDiagnosticsCsv summary) =
    .ok (epochDiagnosticsColumns.map textCell ::
      summary.viability.epochDiagnostics.map EpochDiagnosticSummary.cells)
  viability : readRows none (writeViabilityMetricsCsv summary) =
    .ok [viabilityColumns.map textCell, summary.viability.cells]

theorem reportsReadBack {s : Simulator P} (summary : MetricsSummary) (hanswers : s.Answers)
    (hpolicy : ∀ record ∈ s.policyDiagnostics,
      IsPlainLabel record.reason ∧ IsPlainLabel record.policyVariant)
    (hcache : ∀ record ∈ s.cacheAdmissionDiagnostics,
      IsPlainLabel record.reason ∧ IsPlainLabel record.placementSource) :
    s.ReportsReadBack summary := by
  obtain ⟨rows, hrows, htabular, hlength⟩ := tabular_latencies hanswers
  have htext : s.writeLatenciesCsv = .ok (csvText latencyColumns rows) := by
    unfold writeLatenciesCsv
    rw [hrows]
    rfl
  exact {
    latencies := ⟨_, rows, htext, hrows, htabular.readRows, hlength⟩
    perNode := (tabular_perNode summary).readRows
    contentionByObject := (tabular_contentionByObject s).readRows
    contentionByChannel := (tabular_contentionByChannel s).readRows
    policyDiagnostics := (tabular_policyDiagnostics hpolicy).readRows
    cacheAdmissions := (tabular_cacheAdmissions hcache).readRows
    epochDiagnostics := (tabular_epochDiagnostics summary).readRows
    viability := (tabular_viability summary).readRows }

/-- A finished run has a summary and its eight reports, and each report reads back as the
    table that was written, in either reading of the arithmetic. -/
theorem run_reportsReadBack {A : Arith} {rng : RandomSource} {config : SimulationConfig}
    {s : Simulator (makeCachePolicy A config.localCache)} (h : construct A rng config = .ok s) :
    ∀ final, RunsTo A s final → ∀ experimentName, ∃ summary,
      final.summarizeMetrics A experimentName = .ok summary ∧ final.ReportsReadBack summary := by
  intro final hfinal experimentName
  obtain ⟨summary, hsummary, -⟩ := exists_summary h hfinal experimentName
  have hanswers := (lookupsInv_of_construct h hfinal.reaches).answers
  have hpolicy := plainDecisions_of_run h hfinal.reaches
  obtain ⟨prepared, generatedWorkload, rfl⟩ := construct_eq_ofConfig h
  exact ⟨summary, hsummary, reportsReadBack summary hanswers hpolicy
    (plainRecordings_of_reachable (makeCachePolicy_choosesResidents _ _)
      (makeCachePolicy_plainReasons _ _) hfinal.reaches)⟩

theorem contendedConfig_reportsReadBack :
    ∃ s, construct .word64 lowestSource contendedConfig = .ok s ∧
      ∀ final, RunsTo .word64 s final → ∀ experimentName, ∃ summary,
        final.summarizeMetrics .word64 experimentName = .ok summary ∧
          final.ReportsReadBack summary :=
  ⟨_, rfl, run_reportsReadBack
    (show construct .word64 lowestSource contendedConfig = .ok _ from rfl)⟩

end Simulator

end DmSimulator
