/-
  DmSimulator.Cache.Replicas

  The contents of a cache that holds replicas, with exact byte counts: what
  `install_replicas` leaves, and that under a policy that never admits anything
  no other operation changes it.
-/
import DmSimulator.Cache.Capacity
import DmSimulator.Lib.Greedy

namespace DmSimulator

/-- Greedy fills of mapped candidates. -/
theorem map_fill {α β : Type} {f : α → β} {size : α → Nat} {size' : β → Nat} {capacity : Nat}
    {candidates : List α} (hsize : ∀ a ∈ candidates, size a = size' (f a)) (used : Nat) :
    (fill size capacity used candidates).map f = fill size' capacity used (candidates.map f) := by
  induction candidates generalizing used with
  | nil => rfl
  | cons a rest ih =>
      have hrest := ih fun b hb => hsize b (List.mem_cons_of_mem a hb)
      rw [List.map_cons, fill, fill, ← hsize a List.mem_cons_self]
      split
      · exact hrest used
      · split
        · rfl
        · rw [List.map_cons, hrest]

/-- The policy rejects every object that is offered to it. -/
def CachePolicy.NeverAdmits (P : CachePolicy) : Prop :=
  ∀ s request response, (P.admissionDecision s request response).shouldAdmit = false

namespace LocalCache

variable {P : CachePolicy} {A : Arith} {c : LocalCache P}

/-- The object is in the cache. -/
def Holds (c : LocalCache P) (objectId : ObjectId) : Prop := (c.entries.find objectId).isSome

theorem lookup_hit_iff (stats : Stats) (c : LocalCache P) (request : Request) (time : SimTime) :
    (lookup stats c request time).2 = true ↔ c.Holds request.objectId := by
  unfold lookup Holds
  cases c.entries.find request.objectId <;> simp

theorem holds_lookup (stats : Stats) (c : LocalCache P) (request : Request) (time : SimTime)
    (objectId : ObjectId) : (lookup stats c request time).1.Holds objectId ↔ c.Holds objectId := by
  unfold lookup Holds
  cases hfind : c.entries.find request.objectId with
  | none => exact Iff.rfl
  | some entry =>
      simp only [recordHit_entries]
      refine KeyedStore.isSome_find_insert (b := entry) ?_ objectId
      rw [CachePolicy.onAccess_objectId, KeyedStore.key_of_find hfind, hfind]

theorem admitObject_entries (hP : P.NeverAdmits) (request : Request) (response : Response)
    (time : SimTime) : (admitObject A c request response time).1.entries = c.entries := by
  unfold admitObject
  simp only
  rw [if_pos (by rw [hP]; exact Bool.false_ne_true)]
  exact recordResult_entries _ _ _ _ _ _ _

/-- The entry a replica is stored as. -/
def replicaEntry (replica : CacheReplica) (time : SimTime) : CacheEntry :=
  { objectId := replica.objectId
    sizeBytes := replica.sizeBytes
    insertTime := time
    lastAccessTime := time }

/-- The cache after `install_replicas` has stored one replica. -/
def withReplica (c : LocalCache P) (replica : CacheReplica) (time : SimTime) (nodeId : NodeId)
    (epochId : EpochId) : LocalCache P :=
  ({ c with
      occupancyBytes := c.occupancyBytes + replica.sizeBytes
      bytesAdmitted := c.bytesAdmitted + replica.sizeBytes
      entries := c.entries.insert (replicaEntry replica time) } :
    LocalCache P).recordSuccessfulReplica nodeId epochId replica.objectId replica.sizeBytes time

theorem holds_withReplica (c : LocalCache P) (replica : CacheReplica) (time : SimTime)
    (nodeId : NodeId) (epochId : EpochId) (objectId : ObjectId) :
    (c.withReplica replica time nodeId epochId).Holds objectId ↔
      c.Holds objectId ∨ objectId = replica.objectId := by
  show ((c.entries.insert (replicaEntry replica time)).find objectId).isSome ↔ _
  by_cases heq : objectId = (replicaEntry replica time).objectId
  · rw [heq, KeyedStore.find_insert_self]
    exact iff_of_true rfl (Or.inr rfl)
  · rw [KeyedStore.find_insert_ne _ _ heq]
    exact (or_iff_left heq).symm

theorem installLoop_cons {replica : CacheReplica} (hfresh : ¬ c.Holds replica.objectId)
    (rest : List CacheReplica) (time : SimTime) (nodeId : NodeId) (epochId : EpochId) :
    installLoop .exact time nodeId epochId (replica :: rest) c =
      if replica.sizeBytes > c.capacityBytes then installLoop .exact time nodeId epochId rest c
      else if c.occupancyBytes + replica.sizeBytes > c.capacityBytes then c
      else installLoop .exact time nodeId epochId rest
        (c.withReplica replica time nodeId epochId) := by
  have hnot : ¬ (c.entries.find replica.objectId).isSome = true := hfresh
  rw [installLoop, if_neg hnot]
  rfl

theorem holds_installLoop (time : SimTime) (nodeId : NodeId) (epochId : EpochId)
    {replicas : List CacheReplica} (hnodup : (replicas.map CacheReplica.objectId).Nodup)
    (hfresh : ∀ replica ∈ replicas, ¬ c.Holds replica.objectId) (objectId : ObjectId) :
    (installLoop .exact time nodeId epochId replicas c).Holds objectId ↔ c.Holds objectId ∨
      objectId ∈ (fill CacheReplica.sizeBytes c.capacityBytes c.occupancyBytes replicas).map
        CacheReplica.objectId := by
  induction replicas generalizing c with
  | nil => simp [installLoop, fill]
  | cons replica rest ih =>
      rw [List.map_cons, List.nodup_cons] at hnodup
      have hrest := fun r hr => hfresh r (List.mem_cons_of_mem replica hr)
      rw [installLoop_cons (hfresh replica List.mem_cons_self), fill]
      by_cases hlarge : replica.sizeBytes > c.capacityBytes
      · rw [if_pos hlarge, if_pos hlarge]
        exact ih hnodup.2 hrest
      rw [if_neg hlarge, if_neg hlarge]
      by_cases hfull : c.occupancyBytes + replica.sizeBytes > c.capacityBytes
      · rw [if_pos hfull, if_pos hfull]
        simp
      rw [if_neg hfull, if_neg hfull]
      have hfresh' : ∀ r ∈ rest,
          ¬ (c.withReplica replica time nodeId epochId).Holds r.objectId := by
        intro r hr hheld
        rcases (holds_withReplica c replica time nodeId epochId r.objectId).mp hheld with
          hold | heq
        · exact hrest r hr hold
        · exact hnodup.1 (heq ▸ List.mem_map_of_mem hr)
      rw [ih hnodup.2 hfresh', holds_withReplica, List.map_cons, List.mem_cons, or_assoc]
      exact Iff.rfl

/-- What `install_replicas` leaves in the cache. -/
theorem holds_installReplicas (time : SimTime) (nodeId : NodeId) (epochId : EpochId)
    {replicas : List CacheReplica} (hnodup : (replicas.map CacheReplica.objectId).Nodup)
    (objectId : ObjectId) :
    (installReplicas .exact c replicas time nodeId epochId).Holds objectId ↔
      objectId ∈ (fill CacheReplica.sizeBytes c.capacityBytes 0 replicas).map
        CacheReplica.objectId := by
  have hempty : ∀ id, ¬ (clearEntries .exact c time).Holds id := fun id hheld => by cases hheld
  unfold installReplicas
  rw [holds_installLoop time nodeId epochId hnodup (fun replica _ => hempty replica.objectId),
    clearEntries_capacityBytes, clearEntries_occupancyBytes]
  exact or_iff_right (hempty objectId)

/-- Installing replicas does not touch the policy. -/
theorem installReplicas_policy (c : LocalCache P) (replicas : List CacheReplica) (time : SimTime)
    (nodeId : NodeId) (epochId : EpochId) :
    (installReplicas A c replicas time nodeId epochId).policy = c.policy := by
  have hloop : ∀ (replicas : List CacheReplica) (c : LocalCache P),
      (installLoop A time nodeId epochId replicas c).policy = c.policy := by
    intro replicas
    induction replicas with
    | nil => exact fun c => rfl
    | cons replica rest ih =>
        intro c
        rw [installLoop]
        split
        · exact ih c
        · split
          · rfl
          · split
            · exact ih c
            · exact ih _
  have hclear : ∀ (entries : List CacheEntry) (c : LocalCache P),
      (entries.foldl (fun c entry => clearEntry A c entry time) c).policy = c.policy := by
    intro entries
    induction entries with
    | nil => exact fun c => rfl
    | cons entry entries ih => exact fun c => ih _
  exact (hloop replicas _).trans (hclear c.entries.items c)

end LocalCache

end DmSimulator
