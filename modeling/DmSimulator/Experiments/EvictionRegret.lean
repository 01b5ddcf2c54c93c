/-
  DmSimulator.Experiments.EvictionRegret

  What the eviction regret of a summary counts.

  The loop counts every request that the node of an evicted placement has issued for
  its object since the time of the eviction.  So it counts the placements that were
  asked for again just where no placement has two such requests, and none that was
  looked up before the eviction but at the same time.
-/
import DmSimulator.Experiments.Summaries
import DmSimulator.Lib.LastWins
import DmSimulator.Runs.Evictions

namespace DmSimulator

open LastWins Ranking

-- ============================================================================
-- Counting with multiplicities
-- ============================================================================

/-- Each flagged element has a multiplicity.  The multiplicities sum up to the number of flagged
    elements just where those have multiplicity one, and the others none. -/
theorem sum_map_eq_countP_iff {α : Type} {multiplicity : α → Nat} {flag : α → Bool}
    {items : List α} (hpos : ∀ a ∈ items, flag a = true → 0 < multiplicity a) :
    (items.map multiplicity).sum = items.countP flag ↔
      ∀ a ∈ items, multiplicity a = if flag a = true then 1 else 0 := by
  have hle : ∀ items : List α, (∀ a ∈ items, flag a = true → 0 < multiplicity a) →
      items.countP flag ≤ (items.map multiplicity).sum := by
    intro items hpos
    induction items with
    | nil => exact Nat.le_refl _
    | cons a items ih =>
        rw [List.forall_mem_cons] at hpos
        have hrest := ih hpos.2
        rw [List.countP_cons, List.map_cons, List.sum_cons]
        cases hflag : flag a with
        | false =>
            rw [if_neg Bool.false_ne_true]
            omega
        | true =>
            have hone := hpos.1 hflag
            rw [if_pos rfl]
            omega
  induction items with
  | nil => simp
  | cons a items ih =>
      rw [List.forall_mem_cons] at hpos
      have hrest := hle items hpos.2
      rw [List.forall_mem_cons, List.map_cons, List.sum_cons, List.countP_cons]
      apply Iff.trans _ (and_congr_right' (ih hpos.2))
      cases hflag : flag a with
      | false =>
          rw [if_neg Bool.false_ne_true]
          omega
      | true =>
          have hone := hpos.1 hflag
          rw [if_pos rfl]
          omega

/-- At most one element of a list without duplicates passes the test. -/
theorem countP_le_one_iff {α : Type} [DecidableEq α] {items : List α} (h : items.Nodup)
    (p : α → Bool) :
    items.countP p ≤ 1 ↔ ∀ a ∈ items, ∀ b ∈ items, p a = true → p b = true → a = b := by
  have hcard : items.countP p = (items.filter p).toFinset.card := by
    rw [List.countP_eq_length_filter, List.toFinset_card_of_nodup (h.filter p)]
  rw [hcard, Finset.card_le_one]
  simp only [List.mem_toFinset, List.mem_filter]
  constructor
  · intro hall a ha b hb hpa hpb
    exact hall a ⟨ha, hpa⟩ b ⟨hb, hpb⟩
  · rintro hall a ⟨ha, hpa⟩ b ⟨hb, hpb⟩
    exact hall a ha b hb hpa hpb

/-- A test that follows from a property counts whether the property holds of some element, just
    where the test is the property and at most one element passes it. -/
theorem countP_eq_ite_iff {α : Type} [DecidableEq α] {items : List α} (h : items.Nodup)
    {p : α → Bool} {q : α → Prop} [Decidable (∃ a ∈ items, q a)]
    (hq : ∀ a ∈ items, q a → p a = true) :
    items.countP p = (if ∃ a ∈ items, q a then 1 else 0) ↔
      (∀ a ∈ items, p a = true → q a) ∧
        ∀ a ∈ items, ∀ b ∈ items, p a = true → p b = true → a = b := by
  rw [← countP_le_one_iff h p]
  by_cases hsome : ∃ a ∈ items, q a
  · rw [if_pos hsome]
    obtain ⟨a, ha, hqa⟩ := hsome
    have hpos : 0 < items.countP p := List.countP_pos_iff.mpr ⟨a, ha, hq a ha hqa⟩
    constructor
    · intro hone
      have hunique := (countP_le_one_iff h p).mp (le_of_eq hone)
      refine ⟨fun b hb hpb => ?_, le_of_eq hone⟩
      rw [hunique b hb a ha hpb (hq a ha hqa)]
      exact hqa
    · rintro ⟨-, hle⟩
      omega
  · rw [if_neg hsome, List.countP_eq_zero]
    constructor
    · intro hnone
      refine ⟨fun a ha hpa => absurd hpa (hnone a ha), ?_⟩
      rw [List.countP_eq_zero.mpr hnone]
      exact Nat.zero_le 1
    · rintro ⟨hall, -⟩ a ha hpa
      exact hsome ⟨a, ha, hall a ha hpa⟩

/-- Counting pairs that pass the test counts the elements that have a partner, just where a pair
    that passes the test has the property and no element has two such partners. -/
theorem sum_countP_eq_iff {α β : Type} [DecidableEq α] {elements : List β} {items : List α}
    (h : items.Nodup) {p : β → α → Bool} {q : β → α → Prop}
    [DecidablePred fun b => ∃ a ∈ items, q b a]
    (hq : ∀ b ∈ elements, ∀ a ∈ items, q b a → p b a = true) :
    (elements.map fun b => items.countP (p b)).sum =
        elements.countP (fun b => ∃ a ∈ items, q b a) ↔
      ∀ b ∈ elements, (∀ a ∈ items, p b a = true → q b a) ∧
        ∀ a ∈ items, ∀ a' ∈ items, p b a = true → p b a' = true → a = a' := by
  have hpos : ∀ b ∈ elements, decide (∃ a ∈ items, q b a) = true → 0 < items.countP (p b) := by
    intro b hb hsome
    obtain ⟨a, ha, hqa⟩ := of_decide_eq_true hsome
    exact List.countP_pos_iff.mpr ⟨a, ha, hq b hb a ha hqa⟩
  rw [sum_map_eq_countP_iff hpos]
  apply forall₂_congr
  intro b hb
  rw [← countP_eq_ite_iff h (hq b hb)]
  simp only [decide_eq_true_eq]

-- ============================================================================
-- The loop
-- ============================================================================

namespace CacheAdmissionRecord

/-- The node issued a request for the object at the time of the eviction or later: what the
    loop tests. -/
def IssuedSince (record : CacheAdmissionRecord) (request : Request) : Bool :=
  request.sourceNodeId = record.nodeId ∧ request.objectId = record.objectId ∧
    record.evictionTime ≤ request.issueTime

end CacheAdmissionRecord

namespace ViabilityMetricsSummary

variable (servedTiers : UnorderedMap RequestId ServedFromTier)

/-- Whether the request was served from memory, by the table of tiers. -/
def servedFromMemory (request : Request) : Bool :=
  servedTiers.lookup request.requestId = some .memory

theorem regret_countRegret (record : CacheAdmissionRecord) (summary : ViabilityMetricsSummary)
    (request : Request) :
    (countRegret servedTiers record summary request).regret =
      if record.IssuedSince request then
        (summary.evictionRegretCount + 1, summary.remoteEvictionRegretCount +
          if servedFromMemory servedTiers request then 1 else 0)
      else summary.regret := by
  have hskip : (request.sourceNodeId ≠ record.nodeId ∨ request.objectId ≠ record.objectId ∨
      request.issueTime < record.evictionTime) ↔ record.IssuedSince request = false := by
    unfold CacheAdmissionRecord.IssuedSince
    rw [decide_eq_false_iff_not, not_and_or, not_and_or, not_le]
  unfold countRegret
  cases hlater : record.IssuedSince request with
  | true =>
      rw [if_neg (by rw [hskip, hlater]; exact Bool.true_eq_false.mp), if_pos rfl]
      unfold regret servedFromMemory
      by_cases hmemory : servedTiers.lookup request.requestId = some .memory
      · simp [hmemory]
      · simp [hmemory]
  | false =>
      rw [if_pos (hskip.mpr hlater), if_neg Bool.false_ne_true]

/-- The inner loop counts the later requests. -/
theorem regret_foldl_countRegret (record : CacheAdmissionRecord) (requests : List Request)
    (summary : ViabilityMetricsSummary) :
    (requests.foldl (countRegret servedTiers record) summary).regret =
      (summary.evictionRegretCount + requests.countP record.IssuedSince,
        summary.remoteEvictionRegretCount + requests.countP (fun request =>
          record.IssuedSince request && servedFromMemory servedTiers request)) := by
  induction requests generalizing summary with
  | nil => rfl
  | cons request requests ih =>
      have hnext := regret_countRegret servedTiers record summary request
      unfold regret at hnext
      rw [List.foldl_cons, ih, List.countP_cons, List.countP_cons]
      cases hlater : record.IssuedSince request with
      | true =>
          rw [hlater, if_pos rfl, Prod.mk.injEq] at hnext
          rw [hnext.1, hnext.2]
          cases servedFromMemory servedTiers request with
          | true =>
              simp only [Bool.and_self, if_true]
              congr 1 <;> omega
          | false =>
              simp only [Bool.and_false, Bool.false_eq_true, if_true, if_false]
              congr 1
              omega
      | false =>
          rw [hlater, if_neg Bool.false_ne_true, Prod.mk.injEq] at hnext
          rw [hnext.1, hnext.2]
          rfl

/-- The outer loop does so for every evicted placement. -/
theorem regret_foldl_countRecordRegret (requests : RequestTable)
    (records : List CacheAdmissionRecord) (summary : ViabilityMetricsSummary) :
    (records.foldl (countRecordRegret servedTiers requests) summary).regret =
      (summary.evictionRegretCount +
          ((records.filter CacheAdmissionRecord.IsEvictedPlacement).map fun record =>
            requests.items.countP record.IssuedSince).sum,
        summary.remoteEvictionRegretCount +
          ((records.filter CacheAdmissionRecord.IsEvictedPlacement).map fun record =>
            requests.items.countP fun request =>
              record.IssuedSince request && servedFromMemory servedTiers request).sum) := by
  induction records generalizing summary with
  | nil => rfl
  | cons record records ih =>
      rw [List.foldl_cons, ih]
      have hplacement : record.IsEvictedPlacement = (record.admitted && record.evicted) := rfl
      cases hadmitted : record.admitted with
      | false =>
          rw [List.filter_cons_of_neg (by simp [hplacement, hadmitted])]
          simp [countRecordRegret, hadmitted]
      | true =>
          cases hevicted : record.evicted with
          | false =>
              rw [List.filter_cons_of_neg (by simp [hplacement, hevicted])]
              simp [countRecordRegret, hevicted]
          | true =>
              rw [List.filter_cons_of_pos (by simp [hplacement, hadmitted, hevicted])]
              have hinner := regret_foldl_countRegret servedTiers record requests.items summary
              unfold regret at hinner
              rw [Prod.mk.injEq] at hinner
              simp only [countRecordRegret, hadmitted, hevicted, not_true_eq_false, or_self,
                if_false, hinner.1, hinner.2, List.map_cons, List.sum_cons, Nat.add_assoc]

end ViabilityMetricsSummary

-- ============================================================================
-- Placements and requests
-- ============================================================================

/-- The table of tiers holds the tier of the last response. -/
theorem lookup_servedTiersByRequest (responses : List Response) (requestId : RequestId) :
    (servedTiersByRequest responses).lookup requestId =
      ((lastByKey Response.requestId responses).lookup requestId).map
        Response.servedFromTier := by
  induction responses using List.reverseRecOn with
  | nil => rfl
  | append_singleton responses response ih =>
      rw [lookup_lastByKey_snoc]
      unfold servedTiersByRequest at ih ⊢
      rw [List.foldl_append, List.foldl_cons, List.foldl_nil]
      by_cases h : response.requestId = requestId
      · subst h
        rw [if_pos rfl]
        exact AList.lookup_insert _
      · rw [if_neg h, ← ih]
        exact AList.lookup_insert_ne (Ne.symm h)

/-- With one response for each request, that is its tier. -/
theorem lookup_servedTiers_iff {responses : List Response}
    (h : (responses.map Response.requestId).Nodup) {requestId : RequestId}
    {tier : ServedFromTier} :
    (servedTiersByRequest responses).lookup requestId = some tier ↔
      ∃ response ∈ responses, response.requestId = requestId ∧ response.servedFromTier = tier := by
  rw [lookup_servedTiersByRequest, Option.map_eq_some_iff]
  constructor
  · rintro ⟨response, hlookup, htier⟩
    obtain ⟨hmem, hid⟩ := of_lookup Response.requestId hlookup
    exact ⟨response, hmem, hid, htier⟩
  · rintro ⟨response, hmem, rfl, htier⟩
    obtain ⟨found, hfound⟩ := isSome_lookup Response.requestId hmem
    obtain ⟨hmem', hid⟩ := of_lookup Response.requestId hfound
    obtain rfl := List.inj_on_of_nodup_map h hmem' hmem hid
    exact ⟨found, hfound, htier⟩

namespace Simulator

variable {P : CachePolicy} (A : Arith) (start final : Simulator P)

/-- The placements of the run that ended in an eviction. -/
def evictedPlacements : List Placement :=
  final.placements.filter fun p => p.record.IsEvictedPlacement

/-- The node of the placement asked for its object again: the run has a state in which the
    placement is evicted and the request has not been looked up. -/
def RequestedAgain (p : Placement) (request : Request) : Prop :=
  request.sourceNodeId = p.nodeId ∧ request.objectId = p.record.objectId ∧
    ∃ t, Reachable A start t ∧ t.HasEvicted p.nodeId p.index ∧
      ¬ t.HasLookedUp request.requestId

/-- Whether some response of the request came from memory. -/
def answeredFromMemory (request : Request) : Bool :=
  final.shared.responses.any fun response =>
    response.requestId = request.requestId ∧ response.servedFromTier = .memory

open Classical in
/-- The number of evicted placements whose object was asked for again. -/
noncomputable def regretted : Nat :=
  final.evictedPlacements.countP fun p =>
    ∃ request ∈ final.shared.requestTable.items, start.RequestedAgain A p request

open Classical in
/-- The number of evicted placements whose object was asked for again and came from memory. -/
noncomputable def regrettedRemotely : Nat :=
  final.evictedPlacements.countP fun p =>
    ∃ request ∈ final.shared.requestTable.items,
      start.RequestedAgain A p request ∧ final.answeredFromMemory request = true

/-- Eviction regret counts placements, each at most once. -/
structure RegretCountsPlacements (viability : ViabilityMetricsSummary) : Prop where
  regret : viability.evictionRegretCount = start.regretted A final
  remote : viability.remoteEvictionRegretCount = start.regrettedRemotely A final
  regret_le : viability.evictionRegretCount ≤ final.evictedPlacements.length
  remote_le : viability.remoteEvictionRegretCount ≤ final.evictedPlacements.length

/-- No evicted placement has two requests that its node has issued for its object since the
    eviction, and one that was issued at the very time of the eviction was looked up after it. -/
structure RequestedOnceMore : Prop where
  tied : ∀ p ∈ final.evictedPlacements, ∀ request ∈ final.shared.requestTable.items,
    p.record.IssuedSince request = true → request.issueTime = p.record.evictionTime →
      start.RequestedAgain A p request
  once : ∀ p ∈ final.evictedPlacements, ∀ request ∈ final.shared.requestTable.items,
    ∀ request' ∈ final.shared.requestTable.items, p.record.IssuedSince request = true →
      p.record.IssuedSince request' = true → request = request'

variable {A start final}

/-- A sum over the reported records is a sum over the placements. -/
theorem sum_evictedPlacements (weight : CacheAdmissionRecord → Nat) :
    ((final.cacheAdmissionDiagnostics.filter
        CacheAdmissionRecord.IsEvictedPlacement).map weight).sum =
      (final.evictedPlacements.map fun p => weight p.record).sum := by
  have hperm := (ranksBy_cacheAdmissionLess.isSortOf_sortBy final.cacheRecords).perm
  refine ((hperm.filter CacheAdmissionRecord.IsEvictedPlacement).map weight).sum_eq.trans ?_
  rw [← map_record_placements, List.filter_map, List.map_map]
  rfl

/-- What the two counts of the viability metrics are. -/
theorem regretCounts (hinv : final.LookupsInv) {viability : ViabilityMetricsSummary}
    {perNode : List PerNodeMetricsSummary}
    (h : final.summarizeViabilityMetrics perNode = .ok viability) :
    viability.evictionRegretCount = (final.evictedPlacements.map fun p =>
        final.shared.requestTable.items.countP p.record.IssuedSince).sum ∧
      viability.remoteEvictionRegretCount = (final.evictedPlacements.map fun p =>
        final.shared.requestTable.items.countP fun request =>
          p.record.IssuedSince request && final.answeredFromMemory request).sum := by
  obtain ⟨before, summary, hsummary, hzero, hregret⟩ :=
    summarizeViabilityMetrics_spec hinv.answers perNode
  obtain rfl := Except.ok.inj (h.symm.trans hsummary)
  have hmemory : ViabilityMetricsSummary.servedFromMemory
      (servedTiersByRequest final.shared.responses) = final.answeredFromMemory := by
    funext request
    rw [Bool.eq_iff_iff]
    unfold ViabilityMetricsSummary.servedFromMemory answeredFromMemory
    rw [decide_eq_true_iff, lookup_servedTiers_iff hinv.nodup, List.any_eq_true]
    simp only [decide_eq_true_eq]
  rw [ViabilityMetricsSummary.regret_foldl_countRecordRegret, hmemory] at hregret
  unfold ViabilityMetricsSummary.regret at hregret hzero
  rw [Prod.mk.injEq] at hregret hzero
  rw [hregret.1, hregret.2, hzero.1, hzero.2, Nat.zero_add, Nat.zero_add]
  exact ⟨sum_evictedPlacements _, sum_evictedPlacements _⟩

-- ============================================================================
-- Requests since and after an eviction
-- ============================================================================

section Run

variable {rng : RandomSource} {config : SimulationConfig}
  {s final : Simulator (makeCachePolicy A config.localCache)}

/-- The loop counts every request after the eviction. -/
theorem RequestedAgain.issuedSince (h : construct A rng config = .ok s) (hfinal : RunsTo A s final)
    {p : Placement} (hp : p ∈ final.evictedPlacements) {request : Request}
    (hrequest : request ∈ final.shared.requestTable.items) (hagain : s.RequestedAgain A p request) :
    p.record.IssuedSince request = true := by
  obtain ⟨hsource, hobject, t, ht, hevicted, hnot⟩ := hagain
  have hin := (List.mem_filter.mp hp).1
  have htime := evictionTime_le_issueTime h ht hfinal hin hevicted hrequest hnot
  have hnode := nodeId_of_placement (allLabelled_of_construct h hfinal.reaches) hin
  exact decide_eq_true ⟨hsource.trans hnode.symm, hobject, htime⟩

/-- What it counts beyond that was issued at the time of the eviction. -/
theorem requestedAgain_of_issuedSince (h : construct A rng config = .ok s)
    (hfinal : RunsTo A s final) {p : Placement} (hp : p ∈ final.evictedPlacements)
    {request : Request} (hrequest : request ∈ final.shared.requestTable.items)
    (hissued : p.record.IssuedSince request = true)
    (hlater : request.issueTime ≠ p.record.evictionTime) : s.RequestedAgain A p request := by
  obtain ⟨hsource, hobject, hle⟩ := of_decide_eq_true hissued
  obtain ⟨hin, hplacement⟩ := List.mem_filter.mp hp
  have hnode := nodeId_of_placement (allLabelled_of_construct h hfinal.reaches) hin
  exact ⟨hsource.trans hnode, hobject, exists_evicted_before_lookup h hfinal hin hplacement
    hrequest (lt_of_le_of_ne hle (Ne.symm hlater))⟩

theorem regretCountsPlacements_iff (h : construct A rng config = .ok s)
    (hfinal : RunsTo A s final) {viability : ViabilityMetricsSummary}
    {perNode : List PerNodeMetricsSummary}
    (hviability : final.summarizeViabilityMetrics perNode = .ok viability) :
    s.RegretCountsPlacements A final viability ↔ s.RequestedOnceMore A final := by
  obtain ⟨hregret, hremote⟩ := regretCounts (lookupsInv_of_construct h hfinal.reaches) hviability
  have hitems : final.shared.requestTable.items.Nodup :=
    List.Nodup.of_map Request.requestId final.shared.requestTable.nodup
  have hsince : ∀ p ∈ final.evictedPlacements, ∀ request ∈ final.shared.requestTable.items,
      s.RequestedAgain A p request → p.record.IssuedSince request = true :=
    fun p hp request hrequest hagain => hagain.issuedSince h hfinal hp hrequest
  have hsinceMemory : ∀ p ∈ final.evictedPlacements,
      ∀ request ∈ final.shared.requestTable.items,
        s.RequestedAgain A p request ∧ final.answeredFromMemory request = true →
          (p.record.IssuedSince request && final.answeredFromMemory request) = true :=
    fun p hp request hrequest hagain =>
      Bool.and_eq_true_iff.mpr ⟨hsince p hp request hrequest hagain.1, hagain.2⟩
  classical
  have hcount := sum_countP_eq_iff hitems hsince
  constructor
  · intro hcounts
    have hall := hcount.mp (hregret.symm.trans hcounts.regret)
    exact ⟨fun p hp request hrequest hissued _ => (hall p hp).1 request hrequest hissued,
      fun p hp => (hall p hp).2⟩
  · intro honce
    have hagain : ∀ p ∈ final.evictedPlacements, ∀ request ∈ final.shared.requestTable.items,
        p.record.IssuedSince request = true → s.RequestedAgain A p request := by
      intro p hp request hrequest hissued
      by_cases htied : request.issueTime = p.record.evictionTime
      · exact honce.tied p hp request hrequest hissued htied
      · exact requestedAgain_of_issuedSince h hfinal hp hrequest hissued htied
    have hregret' : viability.evictionRegretCount = s.regretted A final :=
      hregret.trans (hcount.mpr fun p hp => ⟨hagain p hp, honce.once p hp⟩)
    have hremote' : viability.remoteEvictionRegretCount = s.regrettedRemotely A final := by
      apply hremote.trans
      apply (sum_countP_eq_iff hitems hsinceMemory).mpr
      intro p hp
      refine ⟨fun request hrequest hboth => ?_, fun a ha a' ha' hboth hboth' => ?_⟩
      · obtain ⟨hissued, hmemory⟩ := Bool.and_eq_true_iff.mp hboth
        exact ⟨hagain p hp request hrequest hissued, hmemory⟩
      · exact honce.once p hp a ha a' ha' (Bool.and_eq_true_iff.mp hboth).1
          (Bool.and_eq_true_iff.mp hboth').1
    refine ⟨hregret', hremote', ?_, ?_⟩
    · rw [hregret']
      exact List.countP_le_length
    · rw [hremote']
      exact List.countP_le_length

end Run

theorem exists_regretSummary {rng : RandomSource} {config : SimulationConfig}
    {s final : Simulator (makeCachePolicy A config.localCache)}
    (h : construct A rng config = .ok s) (hfinal : RunsTo A s final) (experimentName : String) :
    ∃ summary, final.summarizeMetrics A experimentName = .ok summary ∧
      (s.RegretCountsPlacements A final summary.viability ↔ s.RequestedOnceMore A final) := by
  obtain ⟨summary, hsummary, hsummarizes⟩ := exists_summary h hfinal experimentName
  exact ⟨summary, hsummary, regretCountsPlacements_iff h hfinal hsummarizes.viability⟩

/-- A finished run has a summary; its eviction regret counts the placements that were asked for
    again just where each of them was requested once more.  So it is in either reading of the
    arithmetic. -/
theorem run_evictionRegret_iff {A : Arith} {rng : RandomSource} {config : SimulationConfig}
    {s : Simulator (makeCachePolicy A config.localCache)} (h : construct A rng config = .ok s) :
    ∀ final, RunsTo A s final → ∀ experimentName, ∃ summary,
      final.summarizeMetrics A experimentName = .ok summary ∧
        (s.RegretCountsPlacements A final summary.viability ↔ s.RequestedOnceMore A final) :=
  fun _ hfinal experimentName => exists_regretSummary h hfinal experimentName

/-- A node that reads an object again, some time after it was evicted. -/
def regrettedOnce : SimulationConfig :=
  { computeNodes :=
      [{ nodeId := 1
         requests := [{ objectId := 1, sizeBytes := 64 }, { objectId := 2, sizeBytes := 64 },
           { objectId := 3, sizeBytes := 64 }, { objectId := 1, sizeBytes := 64 }] }]
    localCache := { capacityBytes := 64, policyType := .lru } }

/-- Three placements of this run end in an eviction, and no two requests regret the same one. -/
theorem regrettedOnce_evictionRegret :
    ∃ s final, construct .word64 lowestSource regrettedOnce = .ok s ∧ RunsTo .word64 s final ∧
      final.evictedPlacements.length = 3 ∧ s.RequestedOnceMore .word64 final ∧
        ∀ experimentName, ∃ summary,
          final.summarizeMetrics .word64 experimentName = .ok summary ∧
            (s.RegretCountsPlacements .word64 final summary.viability ↔
              s.RequestedOnceMore .word64 final) := by
  obtain ⟨s, final, hs, hfinal, hcheck⟩ := runsTo_of_endsWith
    (show endsWith .word64 lowestSource regrettedOnce 40 (fun final =>
      decide (final.evictedPlacements.length = 3) && final.evictedPlacements.all fun p =>
        decide (final.shared.requestTable.items.countP p.record.IssuedSince ≤ 1) &&
          final.shared.requestTable.items.all fun request =>
            !(p.record.IssuedSince request && request.issueTime = p.record.evictionTime)) = true by
      decide +kernel)
  obtain ⟨hlength, hall⟩ := Bool.and_eq_true_iff.mp hcheck
  have hitems : final.shared.requestTable.items.Nodup :=
    List.Nodup.of_map Request.requestId final.shared.requestTable.nodup
  refine ⟨s, final, hs, hfinal, of_decide_eq_true hlength, ⟨?_, ?_⟩,
    run_evictionRegret_iff hs final hfinal⟩
  · intro p hp request hrequest hissued htied
    have hnot := List.all_eq_true.mp (Bool.and_eq_true_iff.mp (List.all_eq_true.mp hall p hp)).2
      request hrequest
    rw [hissued, decide_eq_true htied] at hnot
    cases hnot
  · intro p hp
    exact (countP_le_one_iff hitems p.record.IssuedSince).mp
      (of_decide_eq_true (Bool.and_eq_true_iff.mp (List.all_eq_true.mp hall p hp)).1)

/-- A node that reads an object twice after it was evicted. -/
def twiceRegretted : SimulationConfig :=
  { computeNodes :=
      [{ nodeId := 1
         requests := [{ objectId := 1, sizeBytes := 64 }, { objectId := 2, sizeBytes := 64 },
           { objectId := 1, sizeBytes := 64 }, { objectId := 1, sizeBytes := 64 }] }]
    localCache := { capacityBytes := 64, policyType := .lru } }

/-- Two requests regret the first eviction, and it is counted twice. -/
theorem twiceRegretted_not_counted :
    ∃ s final summary, construct .word64 lowestSource twiceRegretted = .ok s ∧
      RunsTo .word64 s final ∧
        final.summarizeMetrics .word64 "viability_regret" = .ok summary ∧
          ¬ s.RegretCountsPlacements .word64 final summary.viability := by
  obtain ⟨s, final, hs, hfinal, hcheck⟩ := runsTo_of_endsWith
    (show endsWith .word64 lowestSource twiceRegretted 40 (fun final =>
      final.evictedPlacements.any fun p =>
        1 < final.shared.requestTable.items.countP p.record.IssuedSince) = true by
      decide +kernel)
  obtain ⟨summary, hsummary, hiff⟩ := exists_regretSummary hs hfinal "viability_regret"
  refine ⟨s, final, summary, hs, hfinal, hsummary, fun hcounts => ?_⟩
  obtain ⟨p, hp, hmany⟩ := List.any_eq_true.mp hcheck
  have hitems : final.shared.requestTable.items.Nodup :=
    List.Nodup.of_map Request.requestId final.shared.requestTable.nodup
  have hone := (countP_le_one_iff hitems p.record.IssuedSince).mpr ((hiff.mp hcounts).once p hp)
  exact absurd (of_decide_eq_true hmany) (not_lt.mpr hone)

end Simulator

end DmSimulator
