/-
  DmSimulator.Cache.Verdicts

  What becomes of an admission attempt, and what is recorded of it.

  The cache and the policy record the same verdict: the object was placed, or the
  policy refused it, or it is larger than the cache, or no victim was left for it.
-/
import DmSimulator.Cache.Columns
import DmSimulator.Cache.EvictionRows
import DmSimulator.Cache.Replicas
import DmSimulator.Sim.Simulator

namespace DmSimulator

-- ============================================================================
-- Victims are resident
-- ============================================================================

theorem foldl_best_mem (better : CacheEntry → CacheEntry → Bool) (rest : List CacheEntry)
    (first : CacheEntry) :
    rest.foldl (fun best entry => if better entry best then entry else best) first ∈
      first :: rest := by
  induction rest generalizing first with
  | nil => exact List.mem_cons_self
  | cons entry rest ih =>
      rw [List.foldl_cons]
      rcases List.mem_cons.mp (ih (if better entry first then entry else first)) with heq | hmem
      · rw [heq]
        split
        · exact List.mem_cons_of_mem _ List.mem_cons_self
        · exact List.mem_cons_self
      · exact List.mem_cons_of_mem _ (List.mem_cons_of_mem _ hmem)

/-- The victim loops choose one of the entries. -/
theorem scanEntries_mem {better : CacheEntry → CacheEntry → Bool} {entries : Residents}
    {victim : CacheEntry} (h : scanEntries better entries = some victim) :
    victim ∈ entries.items := by
  unfold scanEntries at h
  cases hitems : entries.items with
  | nil =>
      rw [hitems] at h
      cases h
  | cons first rest =>
      rw [hitems] at h
      rw [← Option.some.inj h]
      rcases List.mem_cons.mp (foldl_best_mem better (first :: rest) first) with heq | hmem
      · rw [heq]
        exact List.mem_cons_self
      · exact hmem

theorem isSome_find_of_scanEntries {better : CacheEntry → CacheEntry → Bool}
    {entries : Residents} {victim : CacheEntry} (h : scanEntries better entries = some victim) :
    (entries.find victim.objectId).isSome := by
  have hfind := KeyedStore.find_eq_some.mpr ⟨scanEntries_mem h, rfl⟩
  exact Option.isSome_of_eq_some hfind

/-- The policy proposes residents only. -/
def CachePolicy.ChoosesResidents (P : CachePolicy) : Prop :=
  ∀ s entries request victim, P.selectVictim s entries request = some victim →
    (entries.find victim).isSome

theorem HotnessOnlyPolicy.choosesResidents (A : Arith) (config : HotnessPolicyConfig) :
    (HotnessOnlyPolicy A config).ChoosesResidents := by
  intro s entries request victim h
  change HotnessOnlyPolicy.selectVictim s entries request = some victim at h
  unfold HotnessOnlyPolicy.selectVictim at h
  cases hscan : scanEntries (colder s) entries with
  | none =>
      rw [hscan] at h
      cases h
  | some coldest =>
      simp only [hscan, Option.ite_none_left_eq_some, Option.some.injEq] at h
      rw [← h.2]
      exact isSome_find_of_scanEntries hscan

theorem ContentionAwarePolicy.choosesResidents (config : ContentionPolicyConfig)
    (cacheCapacityBytes : Nat) :
    (ContentionAwarePolicy config cacheCapacityBytes).ChoosesResidents := by
  intro s entries request victim h
  change ContentionAwarePolicy.selectVictim config cacheCapacityBytes s entries request = _ at h
  unfold ContentionAwarePolicy.selectVictim at h
  cases hscan : scanEntries (weaker config cacheCapacityBytes s) entries with
  | none =>
      rw [hscan] at h
      cases h
  | some weakest =>
      simp only [hscan, Option.ite_none_left_eq_some, Option.some.injEq] at h
      rw [← h.2]
      exact isSome_find_of_scanEntries hscan

theorem makeCachePolicy_choosesResidents (A : Arith) (localCacheConfig : LocalCacheConfig) :
    (makeCachePolicy A localCacheConfig).ChoosesResidents := by
  unfold makeCachePolicy
  cases localCacheConfig.policyType with
  | alwaysRemote => exact fun s entries request victim h => nomatch h
  | globalHottestReplication => exact fun s entries request victim h => nomatch h
  | lru =>
      intro s entries request victim h
      obtain ⟨entry, hentry, rfl⟩ := Option.map_eq_some_iff.mp h
      exact isSome_find_of_scanEntries hentry
  | hotnessOnly => exact HotnessOnlyPolicy.choosesResidents A _
  | contentionAware => exact ContentionAwarePolicy.choosesResidents _ _

namespace LocalCache

variable {P : CachePolicy} {A : Arith}

-- ============================================================================
-- Verdicts
-- ============================================================================

/-- What an attempt comes to: whether the object is placed, the reason that is recorded,
    and the victims that were planned. -/
inductive Verdict (c : LocalCache P) (request : Request) (response : Response) :
    Bool → String → List ObjectId → Prop
  | placed {victims : List ObjectId}
      (accepted : (P.admissionDecision c.policy request response).shouldAdmit = true)
      (fits : request.sizeBytes ≤ c.capacityBytes) :
      Verdict c request response true "admitted" victims
  | refused (rejected : (P.admissionDecision c.policy request response).shouldAdmit = false) :
      Verdict c request response false (P.admissionDecision c.policy request response).reason []
  | tooLarge (accepted : (P.admissionDecision c.policy request response).shouldAdmit = true)
      (large : c.capacityBytes < request.sizeBytes) :
      Verdict c request response false "object_too_large" []
  | noVictim {victims : List ObjectId}
      (accepted : (P.admissionDecision c.policy request response).shouldAdmit = true)
      (fits : request.sizeBytes ≤ c.capacityBytes) :
      Verdict c request response false "no_victim" victims

/-- Planning that fails has run out of victims. -/
theorem reason_of_planVictims (hP : P.ChoosesResidents) {policy : P.State} {capacityBytes : Nat}
    {request : Request} {fuel : Nat} {entries : Residents} {occupancy : Nat}
    {victims planned : List ObjectId} {reason : String}
    (h : planVictims A policy capacityBytes request fuel entries occupancy victims =
      some (.rejected reason planned)) : reason = "no_victim" := by
  induction fuel generalizing entries occupancy victims with
  | zero => cases h
  | succ fuel ih =>
      rw [planVictims] at h
      split at h
      · cases hvictim : P.selectVictim policy entries request with
        | none =>
            rw [hvictim] at h
            injection h with h
            injection h with h
            exact h.symm
        | some victim =>
            obtain ⟨entry, hentry⟩ := Option.isSome_iff_exists.mp (hP _ _ _ _ hvictim)
            simp only [hvictim, hentry] at h
            exact ih h
      · cases h

-- ============================================================================
-- What is recorded
-- ============================================================================

/-- What the rows of the two reports say about an attempt. -/
structure AttemptRow where
  nodeId : NodeId
  epochId : EpochId
  requestId : RequestId
  objectId : ObjectId
  admitted : Bool
  reason : String
  evictedObjects : List ObjectId
deriving DecidableEq

def attemptRow (request : Request) (admitted : Bool) (reason : String)
    (victims : List ObjectId) : AttemptRow where
  nodeId := request.sourceNodeId
  epochId := request.epochId
  requestId := request.requestId
  objectId := request.objectId
  admitted := admitted
  reason := reason
  evictedObjects := victims

/-- What was recorded when the record was added, and where the object came from. -/
def recorded (record : CacheAdmissionRecord) : AttemptRow × String :=
  ({ nodeId := record.nodeId
     epochId := record.epochId
     requestId := record.requestId
     objectId := record.objectId
     admitted := record.admitted
     reason := record.reason
     evictedObjects := record.evictedObjects }, record.placementSource)

def recordings (c : LocalCache P) : List (AttemptRow × String) := c.admissionRecords.map recorded

theorem recordings_recordResult (c : LocalCache P) (request : Request) (response : Response)
    (time : SimTime) (admitted : Bool) (reason : String) (victims : List ObjectId) :
    (c.recordResult request response time admitted reason victims).1.recordings =
      c.recordings ++ [(attemptRow request admitted reason victims, "remote_response")] := by
  unfold recordResult recordings
  cases admitted with
  | true => exact List.map_append
  | false => exact List.map_append

/-- An attempt comes to a verdict, which the cache records and the policy is told. -/
theorem admitObject_verdict (hP : P.ChoosesResidents) (c : LocalCache P) (request : Request)
    (response : Response) (time : SimTime) :
    ∃ admitted reason victims, Verdict c request response admitted reason victims ∧
      (admitObject A c request response time).1.recordings =
        c.recordings ++ [(attemptRow request admitted reason victims, "remote_response")] ∧
      (admitObject A c request response time).1.policy =
        P.onAdmissionResult c.policy request response time admitted reason victims := by
  unfold admitObject
  by_cases hdecision : (P.admissionDecision c.policy request response).shouldAdmit = true
  · by_cases hlarge : request.sizeBytes > c.capacityBytes
    · simp only [hdecision, hlarge, not_true_eq_false, if_true, if_false]
      exact ⟨_, _, _, .tooLarge hdecision hlarge, recordings_recordResult _ _ _ _ _ _ _,
        recordResult_policy _ _ _ _ _ _ _⟩
    · obtain ⟨plan, hplan⟩ := Option.isSome_iff_exists.mp (victimPlan_isSome (A := A) c request)
      simp only [hdecision, hlarge, hplan, not_true_eq_false, if_false]
      have hfits := Nat.le_of_not_gt hlarge
      cases plan with
      | rejected reason victims =>
          have hreason : reason = "no_victim" := reason_of_planVictims hP hplan
          rw [hreason]
          exact ⟨_, _, _, .noVictim hdecision hfits, recordings_recordResult _ _ _ _ _ _ _,
            recordResult_policy _ _ _ _ _ _ _⟩
      | planned victims =>
          refine ⟨true, "admitted", victims, .placed hdecision hfits, ?_, ?_⟩
          · show ((place A (evictAll A c victims time) request time).recordResult request response
              time true "admitted" victims).1.recordings = _
            rw [recordings_recordResult]
            exact congrArg (· ++ _) (map_evictAll (fun _ _ => rfl) victims c time)
          · refine (recordResult_policy _ _ _ _ _ _ _).trans ?_
            show P.onAdmissionResult (evictAll A c victims time).policy _ _ _ _ _ _ = _
            rw [evictAll_policy]
  · have hrejected := Bool.eq_false_of_not_eq_true hdecision
    simp only [hrejected, Bool.false_eq_true, not_false_eq_true, if_true]
    exact ⟨_, _, _, .refused hrejected, recordings_recordResult _ _ _ _ _ _ _,
      recordResult_policy _ _ _ _ _ _ _⟩

/-- The recording of an installed replica. -/
def replicaRow (nodeId : NodeId) (epochId : EpochId) (objectId : ObjectId) :
    AttemptRow × String :=
  ({ nodeId := nodeId
     epochId := epochId
     requestId := kInvalidRequestId
     objectId := objectId
     admitted := true
     reason := "replica_installed"
     evictedObjects := [] }, "global_replica")

theorem recordings_installLoop (time : SimTime) (nodeId : NodeId) (epochId : EpochId)
    (replicas : List CacheReplica) (c : LocalCache P) :
    ∃ installed : List ObjectId, (installLoop A time nodeId epochId replicas c).recordings =
      c.recordings ++ installed.map (replicaRow nodeId epochId) := by
  induction replicas generalizing c with
  | nil => exact ⟨[], (List.append_nil _).symm⟩
  | cons replica rest ih =>
      rw [installLoop]
      split
      · exact ih c
      · split
        · exact ⟨[], (List.append_nil _).symm⟩
        · split
          · exact ih c
          · obtain ⟨installed, hinstalled⟩ := ih (recordSuccessfulReplica _ nodeId epochId
              replica.objectId replica.sizeBytes time)
            refine ⟨replica.objectId :: installed, hinstalled.trans ?_⟩
            unfold recordings recordSuccessfulReplica
            rw [List.map_append, List.append_assoc]
            rfl

-- ============================================================================
-- What an operation does
-- ============================================================================

/-- What an operation does to the policy and to the recordings. -/
inductive Recorded (c c' : LocalCache P) : Prop
  | looked (stats : Stats) (request : Request) (time : SimTime) (hit : Bool)
      (policy : c'.policy = P.onLookup stats c.policy request time hit)
      (same : c'.recordings = c.recordings)
  | started (stats : Stats) (epochId : EpochId)
      (policy : c'.policy = P.onEpochStart stats c.policy epochId)
      (same : c'.recordings = c.recordings)
  | attempted (request : Request) (response : Response) (time : SimTime) (admitted : Bool)
      (reason : String) (victims : List ObjectId)
      (verdict : Verdict c request response admitted reason victims)
      (policy : c'.policy =
        P.onAdmissionResult c.policy request response time admitted reason victims)
      (added : c'.recordings =
        c.recordings ++ [(attemptRow request admitted reason victims, "remote_response")])
  | installed (nodeId : NodeId) (epochId : EpochId) (objects : List ObjectId)
      (policy : c'.policy = c.policy)
      (added : c'.recordings = c.recordings ++ objects.map (replicaRow nodeId epochId))

theorem recorded_applyOp (hP : P.ChoosesResidents) (c : LocalCache P) (op : CacheOp) :
    Recorded c (applyOp A c op) := by
  cases op with
  | lookup stats request time =>
      have hsame : (lookup stats c request time).1.recordings = c.recordings :=
        map_lookup (fun _ _ => rfl) c stats request time
      cases hfind : c.entries.find request.objectId with
      | none =>
          refine .looked stats request time false ?_ hsame
          simp only [applyOp, lookup, hfind]
      | some entry =>
          refine .looked stats request time true ?_ hsame
          simp only [applyOp, lookup, hfind, recordHit_policy]
  | admitObject request response time =>
      obtain ⟨admitted, reason, victims, hverdict, hadded, hpolicy⟩ :=
        admitObject_verdict (A := A) hP c request response time
      exact .attempted request response time admitted reason victims hverdict hpolicy hadded
  | onEpochStart stats epochId => exact .started stats epochId rfl rfl
  | installReplicas replicas time nodeId epochId =>
      obtain ⟨objects, hadded⟩ :=
        recordings_installLoop (A := A) time nodeId epochId replicas (clearEntries A c time)
      have hclear : (clearEntries A c time).recordings = c.recordings :=
        map_clearEntries (fun _ _ => rfl) c time
      rw [hclear] at hadded
      exact .installed nodeId epochId objects (installReplicas_policy _ _ _ _ _) hadded

end LocalCache

end DmSimulator
