/-
  DmSimulator.Sim.ReplicaPlan

  What the global replica plan holds: for every epoch the objects requested in
  it, hottest first, each with the size of its requests.
-/
import DmSimulator.Lib.Greedy
import DmSimulator.Lib.Tally
import DmSimulator.Sim.Simulator

namespace DmSimulator

-- ============================================================================
-- The demand of a workload
-- ============================================================================

/-- The requests for an object in an epoch. -/
def requestsFor (specs : List RequestSpec) (epochId : EpochId) (objectId : ObjectId) :
    List RequestSpec :=
  specs.filter (fun spec => spec.epochId = epochId ∧ spec.objectId = objectId)

/-- How often an object is requested in an epoch. -/
def requestCount (specs : List RequestSpec) (epochId : EpochId) (objectId : ObjectId) : Nat :=
  (requestsFor specs epochId objectId).length

/-- The size of the largest request for an object in an epoch. -/
def requestSize (specs : List RequestSpec) (epochId : EpochId) (objectId : ObjectId) : Nat :=
  ((requestsFor specs epochId objectId).map RequestSpec.sizeBytes).foldl max 0

theorem requestsFor_snoc (specs : List RequestSpec) (spec : RequestSpec) (epochId : EpochId)
    (objectId : ObjectId) :
    requestsFor (specs ++ [spec]) epochId objectId =
      requestsFor specs epochId objectId ++
        if spec.epochId = epochId ∧ spec.objectId = objectId then [spec] else [] := by
  unfold requestsFor
  rw [List.filter_append, List.filter_singleton]
  by_cases h : spec.epochId = epochId ∧ spec.objectId = objectId
  · rw [if_pos h, decide_eq_true h]
    rfl
  · rw [if_neg h, decide_eq_false h]
    rfl

theorem requestSize_eq {specs : List RequestSpec} {epochId : EpochId} {objectId : ObjectId}
    {size : Nat} (hsize : ∀ spec ∈ requestsFor specs epochId objectId, spec.sizeBytes = size)
    (hcount : 0 < requestCount specs epochId objectId) :
    requestSize specs epochId objectId = size := by
  unfold requestSize
  unfold requestCount at hcount
  have hall : ∀ (l : List RequestSpec) (n : Nat), (∀ spec ∈ l, spec.sizeBytes = size) → l ≠ [] →
      (l.map RequestSpec.sizeBytes).foldl max n = max n size := by
    intro l
    induction l with
    | nil => exact fun n _ hne => absurd rfl hne
    | cons first rest ih =>
        intro n hl _
        rw [List.map_cons, List.foldl_cons, hl first List.mem_cons_self]
        cases rest with
        | nil => rfl
        | cons second rest =>
            rw [ih _ (fun s hs => hl s (List.mem_cons_of_mem first hs)) (List.cons_ne_nil _ _)]
            omega
  rw [hall _ 0 hsize (List.length_pos_iff.mp hcount), Nat.zero_max]

/-- Counting a request changes the table of its epoch. -/
theorem getD_addDemand (demandByEpoch : DemandByEpoch) (request : RequestSpec)
    (epochId : EpochId) :
    (addDemand demandByEpoch request).getD epochId ∅ =
      if epochId = request.epochId then
        (demandByEpoch.getD request.epochId ∅).insert request.objectId
          { requestCount :=
              ((demandByEpoch.getD request.epochId ∅).getD request.objectId {}).requestCount + 1
            sizeBytes :=
              max ((demandByEpoch.getD request.epochId ∅).getD request.objectId {}).sizeBytes
                request.sizeBytes }
      else demandByEpoch.getD epochId ∅ :=
  UnorderedMap.getD_insert _ _ _ _ _

/-- The demand tables count the requests of every epoch. -/
theorem foldl_addDemand_lookup (specs : List RequestSpec) (epochId : EpochId)
    (objectId : ObjectId) :
    ((specs.foldl addDemand ∅).getD epochId ∅).lookup objectId =
      if requestCount specs epochId objectId = 0 then none
      else some { requestCount := requestCount specs epochId objectId
                  sizeBytes := requestSize specs epochId objectId } := by
  induction specs using List.reverseRecOn generalizing epochId objectId with
  | nil => rfl
  | append_singleton specs spec ih =>
      rw [List.foldl_append]
      generalize specs.foldl addDemand ∅ = demandByEpoch at ih
      rw [List.foldl_cons, List.foldl_nil, getD_addDemand]
      have hsnoc := requestsFor_snoc specs spec epochId objectId
      by_cases hepoch : epochId = spec.epochId
      · rw [if_pos hepoch]
        subst hepoch
        by_cases hobject : objectId = spec.objectId
        · -- the counted object
          subst hobject
          rw [if_pos ⟨rfl, rfl⟩] at hsnoc
          have hcount : requestCount (specs ++ [spec]) spec.epochId spec.objectId =
              requestCount specs spec.epochId spec.objectId + 1 := by
            unfold requestCount
            rw [hsnoc, List.length_append, List.length_singleton]
          have hsize : requestSize (specs ++ [spec]) spec.epochId spec.objectId =
              max (requestSize specs spec.epochId spec.objectId) spec.sizeBytes := by
            unfold requestSize
            rw [hsnoc, List.map_append, List.foldl_append]
            rfl
          have hdemand : (demandByEpoch.getD spec.epochId ∅).getD spec.objectId {} =
              { requestCount := requestCount specs spec.epochId spec.objectId
                sizeBytes := requestSize specs spec.epochId spec.objectId : ObjectDemand } := by
            show ((demandByEpoch.getD spec.epochId ∅).lookup spec.objectId).getD {} = _
            rw [ih]
            by_cases hzero : requestCount specs spec.epochId spec.objectId = 0
            · have hnil : requestsFor specs spec.epochId spec.objectId = [] :=
                List.length_eq_zero_iff.mp hzero
              unfold requestSize
              rw [if_pos hzero, hzero, hnil]
              rfl
            · rw [if_neg hzero]
              rfl
          rw [AList.lookup_insert, if_neg (by omega), hcount, hsize, hdemand]
        · rw [if_neg (fun h => hobject h.2.symm), List.append_nil] at hsnoc
          rw [AList.lookup_insert_ne hobject, ih]
          unfold requestCount requestSize
          rw [hsnoc]
      · rw [if_neg (fun h => hepoch h.1.symm), List.append_nil] at hsnoc
        rw [if_neg hepoch, ih]
        unfold requestCount requestSize
        rw [hsnoc]

-- ============================================================================
-- The plan
-- ============================================================================

/-- The objects requested in an epoch, in order of decreasing request count, then
    of increasing id. -/
structure RankedObjects (specs : List RequestSpec) (epochId : EpochId)
    (ranked : List ObjectId) : Prop where
  nodup : ranked.Nodup
  mem_iff : ∀ objectId, objectId ∈ ranked ↔ 0 < requestCount specs epochId objectId
  ordered : ranked.Pairwise (fun objectId next =>
    requestCount specs epochId next < requestCount specs epochId objectId ∨
      requestCount specs epochId next = requestCount specs epochId objectId ∧ objectId < next)

/-- With one size nothing that fits has a larger request count than a greedy fill. -/
theorem RankedObjects.heaviest {specs : List RequestSpec} {epochId : EpochId}
    {ranked replicas : List ObjectId} (hranked : RankedObjects specs epochId ranked) {size : Nat}
    (hsize : ∀ spec ∈ specs, spec.epochId = epochId → spec.sizeBytes = size) {capacity : Nat}
    (hgreedy : FitsUpTo (requestSize specs epochId) capacity ranked replicas)
    {chosen : Finset ObjectId} (hchosen : chosen.card * size ≤ capacity) :
    ∑ objectId ∈ chosen, requestCount specs epochId objectId ≤
      (replicas.map (requestCount specs epochId)).sum := by
  have hsizes : ∀ objectId ∈ ranked, requestSize specs epochId objectId = size := by
    intro objectId hmem
    refine requestSize_eq (fun spec hspec => ?_) ((hranked.mem_iff objectId).mp hmem)
    rw [requestsFor, List.mem_filter, decide_eq_true_eq] at hspec
    exact hsize spec hspec.1 hspec.2.1
  have hzero : ∀ objectId ∉ ranked, requestCount specs epochId objectId = 0 := fun objectId hnot =>
    Nat.eq_zero_of_not_pos fun hpos => hnot ((hranked.mem_iff objectId).mpr hpos)
  by_cases hlarge : size ≤ capacity
  · obtain ⟨hfront, hcard⟩ := hgreedy.card_le hsizes hlarge hchosen
    refine sum_le_of_heaviest hranked.nodup (hranked.ordered.imp ?_) hfront hzero hcard
    rintro objectId next (hlt | ⟨heq, -⟩)
    · exact Nat.le_of_lt hlt
    · exact Nat.le_of_eq heq
  · -- nothing fits
    have hempty : chosen = ∅ := by
      by_contra hne
      have hpos := Finset.card_pos.mpr (Finset.nonempty_iff_ne_empty.mpr hne)
      exact hlarge ((Nat.le_mul_of_pos_left size hpos).trans hchosen)
    rw [hempty, Finset.sum_empty]
    exact Nat.zero_le _

/-- The objects the plan replicates in an epoch, hottest first. -/
def plannedObjects (plan : GlobalReplicaPlan) (epochId : EpochId) : List ObjectId :=
  ((plan.lookup epochId).getD []).map CacheReplica.objectId

theorem lookup_buildGlobalReplicaPlan (computeNodes : List ComputeNodeConfig)
    (epochId : EpochId) :
    ((buildGlobalReplicaPlan computeNodes).lookup epochId).getD [] =
      replicasOfDemand
        (((computeNodes.flatMap ComputeNodeConfig.requests).foldl addDemand ∅).getD epochId ∅) := by
  unfold buildGlobalReplicaPlan UnorderedMap.getD
  simp only
  rw [UnorderedMap.lookup_foldl_insert replicasOfDemand]
  cases ((computeNodes.flatMap ComputeNodeConfig.requests).foldl addDemand ∅).lookup epochId <;> rfl

section Replicas

variable {demands : UnorderedMap ObjectId ObjectDemand} {count size : ObjectId → Nat}

/-- The hotter of two replicas comes first. -/
def hotter (count : ObjectId → Nat) (lhs rhs : CacheReplica) : Prop :=
  if count lhs.objectId ≠ count rhs.objectId then count lhs.objectId > count rhs.objectId
  else lhs.objectId ≤ rhs.objectId

theorem hotter_total (count : ObjectId → Nat) (lhs rhs : CacheReplica) :
    hotter count lhs rhs ∨ hotter count rhs lhs := by
  unfold hotter
  split <;> split <;> lia

theorem hotter_trans {count : ObjectId → Nat} {first second third : CacheReplica}
    (h : hotter count first second) (h' : hotter count second third) :
    hotter count first third := by
  unfold hotter at *
  split at h <;> split at h' <;> split <;> lia

theorem replicasOfDemand_spec
    (hdemands : ∀ objectId, demands.lookup objectId =
      if count objectId = 0 then none
      else some { requestCount := count objectId, sizeBytes := size objectId }) :
    ((replicasOfDemand demands).map CacheReplica.objectId).Nodup ∧
      (∀ objectId, objectId ∈ (replicasOfDemand demands).map CacheReplica.objectId ↔
        0 < count objectId) ∧
      (∀ replica ∈ replicasOfDemand demands, replica.sizeBytes = size replica.objectId) ∧
      (replicasOfDemand demands).Pairwise (hotter count) := by
  have hcount : ∀ replica : CacheReplica,
      (demands.getD replica.objectId {}).requestCount = count replica.objectId := by
    intro replica
    unfold UnorderedMap.getD
    rw [hdemands]
    by_cases hzero : count replica.objectId = 0
    · rw [if_pos hzero, hzero]
      rfl
    · rw [if_neg hzero]
      rfl
  obtain ⟨r, hdec, hr, hsort⟩ : ∃ (r : CacheReplica → CacheReplica → Prop) (_ : DecidableRel r),
      (∀ lhs rhs, r lhs rhs ↔ hotter count lhs rhs) ∧
      replicasOfDemand demands = (demands.entries.map (fun entry =>
        { objectId := entry.1, sizeBytes := entry.2.sizeBytes : CacheReplica })).insertionSort r := by
    refine ⟨_, _, fun lhs rhs => ?_, rfl⟩
    simp only [hcount]
    exact Iff.rfl
  have htotal : Std.Total r := ⟨fun lhs rhs => by
    rw [hr, hr]
    exact hotter_total count lhs rhs⟩
  have htrans : IsTrans CacheReplica r := ⟨fun first second third h h' =>
    (hr _ _).mpr (hotter_trans ((hr _ _).mp h) ((hr _ _).mp h'))⟩
  have hperm := List.perm_insertionSort r (demands.entries.map (fun entry =>
    { objectId := entry.1, sizeBytes := entry.2.sizeBytes : CacheReplica }))
  rw [← hsort] at hperm
  -- the ids of the replicas are the keys of the demand table
  have hkeys : ((replicasOfDemand demands).map CacheReplica.objectId).Perm demands.keys := by
    refine (hperm.map CacheReplica.objectId).trans ?_
    rw [List.map_map]
    exact List.Perm.refl _
  refine ⟨?_, ?_, ?_, ?_⟩
  · exact hkeys.nodup_iff.mpr demands.keys_nodup
  · intro objectId
    rw [hkeys.mem_iff]
    show objectId ∈ demands ↔ _
    rw [← AList.lookup_isSome, hdemands]
    by_cases hzero : count objectId = 0
    · simp [hzero]
    · simp [hzero, Nat.pos_of_ne_zero hzero]
  · intro replica hmem
    obtain ⟨⟨objectId, demand⟩, hentry, rfl⟩ := List.mem_map.mp (hperm.mem_iff.mp hmem)
    have hlookup := UnorderedMap.mem_entries.mp hentry
    rw [hdemands] at hlookup
    by_cases hzero : count objectId = 0
    · rw [if_pos hzero] at hlookup
      cases hlookup
    · rw [if_neg hzero, Option.some.injEq] at hlookup
      show demand.sizeBytes = size objectId
      rw [← hlookup]
  · rw [hsort]
    exact (List.pairwise_insertionSort r _).imp fun h => (hr _ _).mp h

end Replicas

/-- The plan ranks the objects of every epoch, and gives each its size. -/
theorem buildGlobalReplicaPlan_spec (computeNodes : List ComputeNodeConfig) (epochId : EpochId) :
    RankedObjects (computeNodes.flatMap ComputeNodeConfig.requests) epochId
        (plannedObjects (buildGlobalReplicaPlan computeNodes) epochId) ∧
      ∀ replica ∈ ((buildGlobalReplicaPlan computeNodes).lookup epochId).getD [],
        replica.sizeBytes = requestSize (computeNodes.flatMap ComputeNodeConfig.requests) epochId
          replica.objectId := by
  unfold plannedObjects
  rw [lookup_buildGlobalReplicaPlan]
  obtain ⟨hnodup, hmem, hsize, hordered⟩ := replicasOfDemand_spec
    (foldl_addDemand_lookup (computeNodes.flatMap ComputeNodeConfig.requests) epochId)
  refine ⟨⟨hnodup, hmem, ?_⟩, hsize⟩
  rw [List.pairwise_map]
  have hne := List.pairwise_map.mp hnodup
  refine (hordered.and hne).imp ?_
  rintro lhs rhs ⟨hhot, hdiffer⟩
  unfold hotter at hhot
  split at hhot <;> lia

end DmSimulator
