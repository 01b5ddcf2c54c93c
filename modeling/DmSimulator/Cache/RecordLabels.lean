/-
  DmSimulator.Cache.RecordLabels

  What identifies the records of a cache and of its policy.

  An admission attempt adds one lifecycle record with the label of its request,
  and at most one decision record; an installation adds one lifecycle record for
  each object it stores, all with request id zero.
-/
import DmSimulator.Cache.EvictionRows
import DmSimulator.Cache.Replicas
import DmSimulator.Sim.Simulator

namespace DmSimulator

-- ============================================================================
-- Decision records
-- ============================================================================

/-- The decision record of a request carries its ids. -/
def PolicyDecisionRecord.IsFor (record : PolicyDecisionRecord) (request : Request) : Prop :=
  record.nodeId = request.sourceNodeId ∧ record.requestId = request.requestId

/-- The policy adds decision records only for admission attempts, at most one for each. -/
structure DecidesOnce (P : CachePolicy) : Prop where
  init : P.diagnostics P.init = []
  onLookup : ∀ stats s request time hit,
    P.diagnostics (P.onLookup stats s request time hit) = P.diagnostics s
  onEpochStart : ∀ stats s epochId,
    P.diagnostics (P.onEpochStart stats s epochId) = P.diagnostics s
  onAdmissionResult : ∀ s request response time admitted reason victims, ∃ added : Option _,
    P.diagnostics (P.onAdmissionResult s request response time admitted reason victims) =
        P.diagnostics s ++ added.toList ∧ ∀ record ∈ added, record.IsFor request

theorem decidesOnce_of_nil {P : CachePolicy} (h : ∀ s, P.diagnostics s = []) : DecidesOnce P := by
  refine ⟨h _, fun stats s request time hit => ?_, fun stats s epochId => ?_,
    fun s request response time admitted reason victims => ⟨none, ?_, ?_⟩⟩
  · rw [h, h]
  · rw [h, h]
  · rw [h, h]
    rfl
  · intro record hrecord
    cases hrecord

theorem contentionAware_decidesOnce (config : ContentionPolicyConfig) (cacheCapacityBytes : Nat) :
    DecidesOnce (ContentionAwarePolicy config cacheCapacityBytes) := by
  refine ⟨rfl, ?_, ?_, ?_⟩
  · intro stats s request time hit
    exact ContentionAwarePolicy.onLookup_diagnostics config stats s request
  · intro stats s epochId
    exact ContentionAwarePolicy.onEpochStart_diagnostics config stats s epochId
  · intro s request response time admitted reason victims
    refine ⟨some _, rfl, fun record hrecord => ?_⟩
    rw [← Option.some.inj hrecord]
    constructor
    · simp only
      split <;> rfl
    · simp only
      split <;> rfl

theorem makeCachePolicy_decidesOnce (A : Arith) (localCacheConfig : LocalCacheConfig) :
    DecidesOnce (makeCachePolicy A localCacheConfig) := by
  unfold makeCachePolicy
  cases localCacheConfig.policyType with
  | alwaysRemote | lru | hotnessOnly | globalHottestReplication =>
      exact decidesOnce_of_nil fun _ => rfl
  | contentionAware => exact contentionAware_decidesOnce _ _

-- ============================================================================
-- Labels
-- ============================================================================

/-- The ids of a lifecycle record. -/
structure RecordLabel where
  nodeId : NodeId
  requestId : RequestId
  epochId : EpochId
  objectId : ObjectId
deriving DecidableEq, Repr

def CacheAdmissionRecord.label (record : CacheAdmissionRecord) : RecordLabel :=
  { nodeId := record.nodeId
    requestId := record.requestId
    epochId := record.epochId
    objectId := record.objectId }

/-- The label of the record that an admission attempt for the request adds. -/
def Request.label (request : Request) : RecordLabel :=
  { nodeId := request.sourceNodeId
    requestId := request.requestId
    epochId := request.epochId
    objectId := request.objectId }

namespace LocalCache

variable {P : CachePolicy} {A : Arith}

def labels (c : LocalCache P) : List RecordLabel :=
  c.admissionRecords.map CacheAdmissionRecord.label

theorem label_keptByEviction : KeptByEviction CacheAdmissionRecord.label := fun _ _ => rfl

theorem labels_lookup (c : LocalCache P) (stats : Stats) (request : Request) (time : SimTime) :
    (lookup stats c request time).1.labels = c.labels :=
  map_lookup (fun _ _ => rfl) c stats request time

theorem labels_recordResult (c : LocalCache P) (request : Request) (response : Response)
    (time : SimTime) (admitted : Bool) (reason : String) (victims : List ObjectId) :
    (c.recordResult request response time admitted reason victims).1.labels =
      c.labels ++ [request.label] := by
  unfold recordResult labels
  cases admitted with
  | true => exact List.map_append
  | false => exact List.map_append

/-- An admission attempt adds the label of its request, whatever becomes of it. -/
theorem labels_admitObject (c : LocalCache P) (request : Request) (response : Response)
    (time : SimTime) :
    (admitObject A c request response time).1.labels = c.labels ++ [request.label] := by
  rcases admit_cases (A := A) c request response time with
    ⟨reason, victims, heq⟩ | ⟨victims, _, _, -, -, -, heq⟩
  · rw [heq, labels_recordResult]
  · rw [heq, labels_recordResult]
    exact congrArg (· ++ [request.label])
      (map_evictAll label_keptByEviction victims c time)

/-- The label of the record that installing a replica adds. -/
def replicaLabel (nodeId : NodeId) (epochId : EpochId) (objectId : ObjectId) : RecordLabel :=
  { nodeId := nodeId, requestId := kInvalidRequestId, epochId := epochId, objectId := objectId }

theorem labels_installLoop (time : SimTime) (nodeId : NodeId) (epochId : EpochId)
    (replicas : List CacheReplica) (c : LocalCache P) :
    ∃ installed : List ObjectId,
      (installLoop A time nodeId epochId replicas c).labels =
          c.labels ++ installed.map (replicaLabel nodeId epochId) ∧
        installed.Nodup ∧ ∀ objectId ∈ installed, c.entries.find objectId = none := by
  induction replicas generalizing c with
  | nil => exact ⟨[], (List.append_nil _).symm, List.nodup_nil, by simp⟩
  | cons replica rest ih =>
      rw [installLoop]
      by_cases hlarge : replica.sizeBytes > c.capacityBytes
      · rw [if_pos hlarge]
        exact ih c
      · by_cases hfull : A.add c.occupancyBytes replica.sizeBytes > c.capacityBytes
        · rw [if_neg hlarge, if_pos hfull]
          exact ⟨[], (List.append_nil _).symm, List.nodup_nil, by simp⟩
        · by_cases hresident : (c.entries.find replica.objectId).isSome
          · rw [if_neg hlarge, if_neg hfull, if_pos hresident]
            exact ih c
          · rw [if_neg hlarge, if_neg hfull, if_neg hresident]
            simp only
            obtain ⟨installed, hlabels, hnodup, hfresh⟩ := ih _
            refine ⟨replica.objectId :: installed, hlabels.trans ?_, ?_, ?_⟩
            · unfold labels recordSuccessfulReplica
              rw [List.map_append, List.append_assoc]
              rfl
            · refine List.nodup_cons.mpr ⟨fun hmem => ?_, hnodup⟩
              -- what has been installed is resident from then on
              have hnone := hfresh _ hmem
              simp [recordSuccessfulReplica] at hnone
            · intro objectId hmem
              rcases List.mem_cons.mp hmem with rfl | hin
              · exact Option.not_isSome_iff_eq_none.mp hresident
              · have hnone := hfresh objectId hin
                simp only [recordSuccessfulReplica, KeyedStore.find_insert] at hnone
                split at hnone
                · cases hnone
                · exact hnone

/-- An installation adds the labels of different objects. -/
theorem labels_installReplicas (c : LocalCache P) (replicas : List CacheReplica) (time : SimTime)
    (nodeId : NodeId) (epochId : EpochId) :
    ∃ installed : List ObjectId, installed.Nodup ∧
      (installReplicas A c replicas time nodeId epochId).labels =
        c.labels ++ installed.map (replicaLabel nodeId epochId) := by
  obtain ⟨installed, hlabels, hnodup, -⟩ :=
    labels_installLoop (A := A) time nodeId epochId replicas (clearEntries A c time)
  have hclear : (clearEntries A c time).labels = c.labels :=
    map_clearEntries label_keptByEviction c time
  refine ⟨installed, hnodup, ?_⟩
  unfold installReplicas
  rw [hlabels, hclear]

end LocalCache

end DmSimulator
