/-
  DmSimulator.Experiments.Rankings

  The ranked lists of the reports.

  Each comparator ends with identifiers that tell the records of a run apart, so
  every sort of every permutation of them is the same list.  The exception is the
  order of the top policy decisions, which stops at the object.
-/
import DmSimulator.Experiments.ChannelSummary
import DmSimulator.Runs.RecordLabels

namespace DmSimulator

open Ranking

namespace Stats

variable {s : Stats} {channelCount : Nat}

theorem Stamped.mem_contentionByEpoch (h : Stamped channelCount s) {epochId : EpochId}
    {row : ObjectContentionStats} (hrow : row ∈ s.contentionByEpoch epochId) :
    row ∈ s.contentionRows ∧ row.epochId = epochId := by
  unfold contentionByEpoch at hrow
  cases hobjects : s.contentionByEpoch_.lookup epochId with
  | none =>
      rw [hobjects] at hrow
      cases hrow
  | some objects =>
      simp only [hobjects] at hrow
      have hmem := (List.perm_insertionSort _ _).subset hrow
      obtain ⟨bucket, hbucket, rfl⟩ := List.mem_map.mp hmem
      obtain ⟨objectId, hlookup⟩ := UnorderedMap.mem_values.mp hbucket
      have hfound : (s.contentionByEpoch_.getD epochId ∅).lookup objectId = some bucket := by
        rw [UnorderedMap.getD_of_lookup hobjects]
        exact hlookup
      exact ⟨mem_contentionRows.mpr ⟨epochId, objectId, bucket, hfound, rfl⟩,
        (h _ _ _ hfound).1⟩

theorem Stamped.total_contentionLess (h : Stamped channelCount s) :
    Total contentionLess s.contentionRows := by
  apply (ranksBy_contentionLess.total_iff _).mpr
  intro a ha b hb hrank
  have hkeys := toLex.injective hrank
  exact h.row_eq ha hb (congrArg Prod.fst hkeys) (congrArg Prod.snd hkeys)

theorem Stamped.total_topContentionLess (h : Stamped channelCount s)
    (sortKey : ContentionSortKey) : Total (topContentionLess sortKey) s.contentionRows := by
  apply ((ranksBy_topContentionLess sortKey).total_iff _).mpr
  intro a ha b hb hrank
  have hkeys := toLex.injective (congrArg Prod.snd (toLex.injective hrank))
  exact h.row_eq ha hb (congrArg Prod.fst hkeys) (congrArg Prod.snd hkeys)

theorem ChannelsStamped.total_channelContentionLess (h : ChannelsStamped channelCount s) :
    Total channelContentionLess s.channelRows := by
  apply (ranksBy_channelContentionLess.total_iff _).mpr
  intro a ha b hb hrank
  have hkeys := toLex.injective hrank
  exact h.row_eq ha hb (congrArg Prod.fst hkeys) (congrArg Prod.snd hkeys)

theorem Stamped.total_topContendedLess (h : Stamped channelCount s) (epochId : EpochId) :
    Total topContendedLess (s.contentionByEpoch epochId) := by
  apply (ranksBy_topContendedLess.total_iff _).mpr
  intro a ha b hb hrank
  have hservice := toLex.injective (congrArg Prod.snd (toLex.injective hrank))
  have haccesses := toLex.injective (congrArg Prod.snd hservice)
  obtain ⟨harow, haepoch⟩ := h.mem_contentionByEpoch ha
  obtain ⟨hbrow, hbepoch⟩ := h.mem_contentionByEpoch hb
  exact h.row_eq harow hbrow (haepoch.trans hbepoch.symm) (congrArg Prod.snd haccesses)

/-- The top contention objects are read off a sort of the rows. -/
theorem isSortOf_topContention (s : Stats) (sortKey : ContentionSortKey) :
    IsSortOf (topContentionLess sortKey) s.contentionRows
      (sortBy (topContentionLess sortKey) s.allContentionStats) := by
  obtain ⟨hperm, hordered⟩ :=
    (ranksBy_topContentionLess sortKey).isSortOf_sortBy s.allContentionStats
  exact ⟨hperm.trans (isSortOf_allContentionStats s).perm, hordered⟩

end Stats

/-- The objects of an epoch have one count each. -/
theorem total_topRequestedLess (requests : RequestTable) (epochId : EpochId) :
    Total topRequestedLess (requestCounts requests epochId).entries := by
  apply (ranksBy_topRequestedLess.total_iff _).mpr
  intro a ha b hb hrank
  have hobject : a.1 = b.1 := congrArg Prod.snd (toLex.injective hrank)
  exact (requestCounts requests epochId).nodupKeys.eq_of_fst_eq ha hb hobject

namespace Simulator

variable {P : CachePolicy} {s : Simulator P}

-- ============================================================================
-- The records of the nodes
-- ============================================================================

/-- Two records with the same node id were collected from the same node. -/
theorem AllLabelled.same_node (h : s.AllLabelled) {ρ : Type} {recordsOf : ComputeNode P → List ρ}
    {nodeIdOf : ρ → NodeId}
    (hid : ∀ node, node.Labelled s.Answered → ∀ record ∈ recordsOf node,
      nodeIdOf record = node.nodeId) {a b : ρ} (ha : a ∈ s.collect recordsOf)
    (hb : b ∈ s.collect recordsOf) (heq : nodeIdOf a = nodeIdOf b) :
    ∃ node, node.Labelled s.Answered ∧ a ∈ recordsOf node ∧ b ∈ recordsOf node := by
  obtain ⟨_, -, node, hfind, hin⟩ := mem_collect.mp ha
  obtain ⟨_, -, other, hother, hinOther⟩ := mem_collect.mp hb
  have hmem := (KeyedStore.find_eq_some.mp hfind).1
  have hmemOther := (KeyedStore.find_eq_some.mp hother).1
  have hlabelled := h.nodes node hmem
  have hsame : node.nodeId = other.nodeId := by
    rw [← hid node hlabelled a hin, heq]
    exact hid other (h.nodes other hmemOther) b hinOther
  have hself : s.computeNodes.find node.nodeId = some node :=
    KeyedStore.find_eq_some.mpr ⟨hmem, rfl⟩
  obtain rfl : node = other := by
    rw [hsame, KeyedStore.find_eq_some.mpr ⟨hmemOther, rfl⟩] at hself
    exact (Option.some.inj hself).symm
  exact ⟨node, hlabelled, hin, hinOther⟩

theorem AllLabelled.total_policyDecisionLess (h : s.AllLabelled) :
    Total policyDecisionLess s.policyRecords := by
  apply (ranksBy_policyDecisionLess.total_iff _).mpr
  intro a ha b hb hrank
  have hrequest := toLex.injective (congrArg Prod.snd (toLex.injective hrank))
  have hnode := toLex.injective (congrArg Prod.snd hrequest)
  obtain ⟨node, hlabelled, hain, hbin⟩ := @AllLabelled.same_node P s h _ _
    PolicyDecisionRecord.nodeId (fun node hlabelled record hrecord =>
      (hlabelled.decision_of record hrecord).1) a b ha hb (congrArg Prod.fst hnode)
  exact List.inj_on_of_nodup_map hlabelled.decided hain hbin (congrArg Prod.fst hrequest)

theorem AllLabelled.total_cacheAdmissionLess (h : s.AllLabelled) :
    Total cacheAdmissionLess s.cacheRecords := by
  apply (ranksBy_cacheAdmissionLess.total_iff _).mpr
  intro a ha b hb hrank
  have hepoch := toLex.injective (congrArg Prod.snd (toLex.injective hrank))
  have hnode := toLex.injective (congrArg Prod.snd hepoch)
  have hrequest := toLex.injective (congrArg Prod.snd hnode)
  obtain ⟨node, hlabelled, hain, hbin⟩ := @AllLabelled.same_node P s h _ _
    CacheAdmissionRecord.nodeId (fun node hlabelled record hrecord =>
      (hlabelled.label_of record.label (List.mem_map_of_mem hrecord)).1) a b ha hb
        (congrArg Prod.fst hnode)
  apply List.inj_on_of_nodup_map hlabelled.distinct hain hbin
  unfold CacheAdmissionRecord.label
  rw [RecordLabel.mk.injEq]
  exact ⟨congrArg Prod.fst hnode, congrArg Prod.fst hrequest, congrArg Prod.fst hepoch,
    congrArg Prod.snd hrequest⟩

-- ============================================================================
-- The reports
-- ============================================================================

/-- Every ranked list of the reports is determined by the records it ranks. -/
structure RankingsDetermined (s : Simulator P) (summary : MetricsSummary) : Prop where
  policyDiagnostics : Reports policyDecisionLess s.policyRecords id s.policyDiagnostics
  cacheAdmissionDiagnostics :
    Reports cacheAdmissionLess s.cacheRecords id s.cacheAdmissionDiagnostics
  allContentionStats : Reports Stats.contentionLess s.shared.stats.contentionRows id
    s.shared.stats.allContentionStats
  allChannelContentionStats : Reports Stats.channelContentionLess s.shared.stats.channelRows id
    s.shared.stats.allChannelContentionStats
  topContentionObjects : ∀ sortKey limit,
    Reports (Stats.topContentionLess sortKey) s.shared.stats.contentionRows (List.take limit)
      (s.shared.stats.topContentionObjects sortKey limit)
  topContendedObjects : ∀ epochId limit,
    Reports topContendedLess (s.shared.stats.contentionByEpoch epochId)
      (fun sorted => (sorted.take limit).map ObjectContentionStats.objectId)
      (topContendedObjects s.shared.stats epochId limit)
  topRequestedObjects : ∀ epochId limit,
    Reports topRequestedLess (requestCounts s.shared.requestTable epochId).entries
      (fun sorted => (sorted.take limit).map Sigma.fst)
      (topRequestedObjects s.shared.requestTable epochId limit)
  topPolicyDecisions : Reports topDecisionLess s.policyRecords (List.take 5)
    summary.topPolicyDecisions

/-- No two different decisions agree on their score, their epoch and their object. -/
def NoTiedDecisions (s : Simulator P) : Prop :=
  ∀ a ∈ s.policyRecords, ∀ b ∈ s.policyRecords, a.score.totalScore = b.score.totalScore →
    a.epochId = b.epochId → a.objectId = b.objectId → a = b

theorem total_topDecisionLess_iff :
    Total topDecisionLess s.policyRecords ↔ s.NoTiedDecisions := by
  rw [ranksBy_topDecisionLess.total_iff]
  unfold NoTiedDecisions
  simp only [toLex_inj, Prod.mk.injEq, OrderDual.toDual_inj, and_imp]

/-- The top policy decisions are read off a sort of the decisions. -/
theorem isSortOf_topDecisions (s : Simulator P) :
    IsSortOf topDecisionLess s.policyRecords (sortBy topDecisionLess s.policyDiagnostics) := by
  obtain ⟨hperm, hordered⟩ := ranksBy_topDecisionLess.isSortOf_sortBy s.policyDiagnostics
  exact ⟨hperm.trans (ranksBy_policyDecisionLess.isSortOf_sortBy s.policyRecords).perm, hordered⟩

theorem rankingsDetermined_iff (h : s.AllLabelled) {channelCount : Nat}
    (hstamped : s.shared.stats.Stamped channelCount)
    (hchannels : s.shared.stats.ChannelsStamped channelCount) {summary : MetricsSummary}
    (hsummary : summary.topPolicyDecisions = s.topPolicyDecisions) :
    s.RankingsDetermined summary ↔ s.NoTiedDecisions := by
  rw [← total_topDecisionLess_iff]
  refine ⟨fun hdetermined => hdetermined.topPolicyDecisions.total, fun htotal => ?_⟩
  refine ⟨?_, ?_, ?_, ?_, fun sortKey limit => ?_, fun epochId limit => ?_,
    fun epochId limit => ?_, ?_⟩
  · exact Reports.of_isSortOf id h.total_policyDecisionLess
      (ranksBy_policyDecisionLess.isSortOf_sortBy _)
  · exact Reports.of_isSortOf id h.total_cacheAdmissionLess
      (ranksBy_cacheAdmissionLess.isSortOf_sortBy _)
  · exact Reports.of_isSortOf id hstamped.total_contentionLess
      (Stats.isSortOf_allContentionStats _)
  · exact Reports.of_isSortOf id hchannels.total_channelContentionLess
      (Stats.isSortOf_allChannelContentionStats _)
  · exact Reports.of_isSortOf (List.take limit) (hstamped.total_topContentionLess sortKey)
      (Stats.isSortOf_topContention _ sortKey)
  · exact Reports.of_isSortOf _ (hstamped.total_topContendedLess epochId)
      (ranksBy_topContendedLess.isSortOf_sortBy _)
  · exact Reports.of_isSortOf _ (total_topRequestedLess s.shared.requestTable epochId)
      (ranksBy_topRequestedLess.isSortOf_sortBy _)
  · rw [hsummary]
    exact Reports.of_isSortOf (List.take 5) htotal s.isSortOf_topDecisions

variable {A : Arith}

theorem rankingsDetermined_of_run {rng : RandomSource} {config : SimulationConfig}
    {s final : Simulator (makeCachePolicy A config.localCache)}
    (h : construct A rng config = .ok s) (hfinal : RunsTo A s final)
    {summary : MetricsSummary} (hsummary : final.Summarizes A summary) :
    final.RankingsDetermined summary ↔ final.NoTiedDecisions := by
  have hlabelled := allLabelled_of_construct h hfinal.reaches
  obtain ⟨prepared, generatedWorkload, hchannels, rfl⟩ := channels_pos_of_construct h
  exact rankingsDetermined_iff hlabelled (stamped_of_reachable hfinal.reaches)
    (channelsStamped_of_reachable hchannels hfinal.reaches) hsummary.topPolicyDecisions

/-- Two nodes that decide on different objects. -/
def separateObjectsConfig : SimulationConfig :=
  { computeNodes :=
      [{ nodeId := 1, requests := [{ objectId := 1, sizeBytes := 64 }] },
       { nodeId := 3, requests := [{ objectId := 2, sizeBytes := 64 }] }]
    localCache := { capacityBytes := 64, policyType := .contentionAware } }

/-- Two nodes that decide on the same object in the same epoch. -/
def sharedObjectConfig : SimulationConfig :=
  { computeNodes :=
      [{ nodeId := 1, requests := [{ objectId := 1, sizeBytes := 64 }] },
       { nodeId := 3, requests := [{ objectId := 1, sizeBytes := 64 }] }]
    localCache := { capacityBytes := 64, policyType := .contentionAware } }

end Simulator

end DmSimulator
