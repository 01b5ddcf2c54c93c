/-
  DmSimulator.Cache.Capacity

  Byte capacity of a cache under arbitrary operations and an arbitrary policy.

  The occupancy counter need not be the sum of the resident sizes: admitting an
  object that is already resident counts it twice.  What every operation keeps
  is that the counter is an upper bound of the sum and stays below the capacity
  (`WithinCapacity`).  The planning loop of `admit` is followed through its loop
  heads (`LoopHead`); the eviction loop passes through the same states.
-/
import DmSimulator.Cache.LocalCache

namespace DmSimulator

namespace LocalCache

variable {P : CachePolicy} {A : Arith}

-- ============================================================================
-- Columns of modified lists
-- ============================================================================

theorem map_modify {α β : Type} (f : α → α) (g : α → β) (f' : β → β)
    (h : ∀ a, g (f a) = f' (g a)) (i : Nat) (l : List α) :
    (l.modify i f).map g = (l.map g).modify i f' := by
  induction l generalizing i with
  | nil => simp
  | cons a l ih =>
      cases i with
      | zero => simp [h]
      | succ i => simp [ih i]

/-- A column that the modification does not write. -/
theorem map_modify_self {α β : Type} {f : α → α} (g : α → β) {i : Nat} {l : List α}
    (h : ∀ a, g (f a) = g a) : (l.modify i f).map g = l.map g := by
  rw [map_modify f g id h]
  exact List.modify_id i _

-- ============================================================================
-- What the recording operations leave alone
-- ============================================================================

section Frame

variable (c : LocalCache P) (request : Request) (response : Response) (time : SimTime)
  (admitted : Bool) (reason : String) (victims : List ObjectId) (objectId : ObjectId)

@[simp] theorem recordHit_entries : (c.recordHit objectId).entries = c.entries := by
  unfold recordHit
  split <;> rfl

@[simp] theorem recordHit_policy : (c.recordHit objectId).policy = c.policy := by
  unfold recordHit
  split <;> rfl

@[simp] theorem recordHit_occupancyBytes :
    (c.recordHit objectId).occupancyBytes = c.occupancyBytes := by
  unfold recordHit
  split <;> rfl

@[simp] theorem recordHit_capacityBytes :
    (c.recordHit objectId).capacityBytes = c.capacityBytes := by
  unfold recordHit
  split <;> rfl

@[simp] theorem recordHit_hitCount : (c.recordHit objectId).hitCount = c.hitCount := by
  unfold recordHit
  split <;> rfl

@[simp] theorem recordResult_snd :
    (c.recordResult request response time admitted reason victims).2 = admitted := by
  unfold recordResult
  split <;> rfl

@[simp] theorem recordResult_entries :
    (c.recordResult request response time admitted reason victims).1.entries = c.entries := by
  unfold recordResult
  split <;> rfl

@[simp] theorem recordResult_occupancyBytes :
    (c.recordResult request response time admitted reason victims).1.occupancyBytes =
      c.occupancyBytes := by
  unfold recordResult
  split <;> rfl

@[simp] theorem recordResult_capacityBytes :
    (c.recordResult request response time admitted reason victims).1.capacityBytes =
      c.capacityBytes := by
  unfold recordResult
  split <;> rfl

@[simp] theorem recordResult_hitCount :
    (c.recordResult request response time admitted reason victims).1.hitCount = c.hitCount := by
  unfold recordResult
  split <;> rfl

theorem recordResult_policy :
    (c.recordResult request response time admitted reason victims).1.policy =
      P.onAdmissionResult c.policy request response time admitted reason victims := by
  unfold recordResult
  split <;> rfl

@[simp] theorem recordResult_bytesAdmitted :
    (c.recordResult request response time admitted reason victims).1.bytesAdmitted =
      c.bytesAdmitted := by
  unfold recordResult
  split <;> rfl

@[simp] theorem recordResult_bytesEvicted :
    (c.recordResult request response time admitted reason victims).1.bytesEvicted =
      c.bytesEvicted := by
  unfold recordResult
  split <;> rfl

end Frame

-- ============================================================================
-- Evicting
-- ============================================================================

theorem evict_of_find_none {c : LocalCache P} {objectId : ObjectId}
    (h : c.entries.find objectId = none) (time : SimTime) : evict A c objectId time = c := by
  simp only [evict, h]

/-- Evicting a resident subtracts its size and removes its entry. -/
theorem evict_of_find_some {c : LocalCache P} {objectId : ObjectId} {entry : CacheEntry}
    (h : c.entries.find objectId = some entry) (time : SimTime) :
    (evict A c objectId time).entries = c.entries.erase objectId ∧
      (evict A c objectId time).occupancyBytes = A.sub c.occupancyBytes entry.sizeBytes := by
  unfold evict
  simp only [h]
  cases c.activePlacementByObject.lookup objectId with
  | none => exact ⟨rfl, rfl⟩
  | some index => exact ⟨rfl, rfl⟩

@[simp] theorem evict_capacityBytes (c : LocalCache P) (objectId : ObjectId) (time : SimTime) :
    (evict A c objectId time).capacityBytes = c.capacityBytes := by
  unfold evict
  cases c.entries.find objectId with
  | none => rfl
  | some entry =>
      simp only
      cases c.activePlacementByObject.lookup objectId <;> rfl

@[simp] theorem evict_policy (c : LocalCache P) (objectId : ObjectId) (time : SimTime) :
    (evict A c objectId time).policy = c.policy := by
  unfold evict
  cases c.entries.find objectId with
  | none => rfl
  | some entry =>
      simp only
      cases c.activePlacementByObject.lookup objectId <;> rfl

@[simp] theorem evict_hitCount (c : LocalCache P) (objectId : ObjectId) (time : SimTime) :
    (evict A c objectId time).hitCount = c.hitCount := by
  unfold evict
  cases c.entries.find objectId with
  | none => rfl
  | some entry =>
      simp only
      cases c.activePlacementByObject.lookup objectId <;> rfl

@[simp] theorem evictAll_nil (c : LocalCache P) (time : SimTime) :
    evictAll A c [] time = c := rfl

theorem evictAll_cons (c : LocalCache P) (victim : ObjectId) (victims : List ObjectId)
    (time : SimTime) :
    evictAll A c (victim :: victims) time = evictAll A (evict A c victim time) victims time := rfl

theorem evictAll_snoc (c : LocalCache P) (victims : List ObjectId) (victim : ObjectId)
    (time : SimTime) :
    evictAll A c (victims ++ [victim]) time =
      evict A (evictAll A c victims time) victim time := by
  simp [evictAll]

@[simp] theorem evictAll_capacityBytes (c : LocalCache P) (victims : List ObjectId)
    (time : SimTime) : (evictAll A c victims time).capacityBytes = c.capacityBytes := by
  induction victims generalizing c with
  | nil => rfl
  | cons victim victims ih => rw [evictAll_cons, ih, evict_capacityBytes]

@[simp] theorem evictAll_policy (c : LocalCache P) (victims : List ObjectId) (time : SimTime) :
    (evictAll A c victims time).policy = c.policy := by
  induction victims generalizing c with
  | nil => rfl
  | cons victim victims ih => rw [evictAll_cons, ih, evict_policy]

@[simp] theorem evictAll_hitCount (c : LocalCache P) (victims : List ObjectId) (time : SimTime) :
    (evictAll A c victims time).hitCount = c.hitCount := by
  induction victims generalizing c with
  | nil => rfl
  | cons victim victims ih => rw [evictAll_cons, ih, evict_hitCount]

theorem evictAll_find (victims : List ObjectId) (c : LocalCache P) (time : SimTime)
    (objectId : ObjectId) :
    (evictAll A c victims time).entries.find objectId =
      if objectId ∈ victims then none else c.entries.find objectId := by
  induction victims generalizing c with
  | nil => simp
  | cons victim victims ih =>
      rw [evictAll_cons, ih]
      by_cases hin : objectId ∈ victims
      · simp [hin]
      · cases hfind : c.entries.find victim with
        | none =>
            rw [evict_of_find_none hfind time]
            by_cases heq : objectId = victim
            · subst heq
              simp [hfind]
            · simp [heq]
        | some entry =>
            rw [(evict_of_find_some hfind time).1]
            by_cases heq : objectId = victim
            · subst heq
              simp
            · simp [heq, KeyedStore.find_erase_ne _ heq]

/-- The entry `admit` hands to the policy. -/
def incomingEntry (request : Request) (time : SimTime) : CacheEntry :=
  { objectId := request.objectId
    sizeBytes := request.sizeBytes
    insertTime := time
    lastAccessTime := time }

theorem place_find (c : LocalCache P) (request : Request) (time : SimTime)
    (objectId : ObjectId) :
    (place A c request time).entries.find objectId =
      if objectId = request.objectId then
        some (P.onAccess c.policy (incomingEntry request time) time)
      else c.entries.find objectId := by
  have hkey : (P.onAccess c.policy (incomingEntry request time) time).objectId =
      request.objectId := CachePolicy.onAccess_objectId P _ _ _
  by_cases heq : objectId = request.objectId
  · subst heq
    rw [if_pos rfl]
    have hself := KeyedStore.find_insert_self c.entries
      (P.onAccess c.policy (incomingEntry request time) time)
    rw [hkey] at hself
    exact hself
  · rw [if_neg heq]
    exact KeyedStore.find_insert_ne c.entries _ (fun hk => heq (hk.trans hkey))

-- ============================================================================
-- The heads of the planning loop
-- ============================================================================

/-- The states (candidate entries, projected occupancy, planned victims) in
    which the planning loop of `admit` tests its condition. -/
inductive LoopHead (A : Arith) (c : LocalCache P) (request : Request) :
    Residents → Nat → List ObjectId → Prop
  | start : LoopHead A c request c.entries c.occupancyBytes []
  | next {entries : Residents} {occupancy : Nat} {victims : List ObjectId}
      {victim : ObjectId} {entry : CacheEntry} :
      LoopHead A c request entries occupancy victims →
      A.add occupancy request.sizeBytes > c.capacityBytes →
      P.selectVictim c.policy entries request = some victim →
      entries.find victim = some entry →
      LoopHead A c request (entries.erase victim) (A.sub occupancy entry.sizeBytes)
        (victims ++ [victim])

/-- The eviction loop passes through the states of the planning loop. -/
theorem LoopHead.evictAll_eq {c : LocalCache P} {request : Request} {entries : Residents}
    {occupancy : Nat} {victims : List ObjectId}
    (h : LoopHead A c request entries occupancy victims) (time : SimTime) :
    (evictAll A c victims time).entries = entries ∧
      (evictAll A c victims time).occupancyBytes = occupancy := by
  induction h with
  | start => exact ⟨rfl, rfl⟩
  | next _ _ _ hfind ih =>
      obtain ⟨hentries, hoccupancy⟩ := ih
      rw [evictAll_snoc]
      rw [← hentries] at hfind
      obtain ⟨he, ho⟩ := evict_of_find_some (A := A) hfind time
      rw [he, ho, hentries, hoccupancy]
      exact ⟨rfl, rfl⟩

/-- The loop had a head at every victim of a later head, and found it resident. -/
theorem LoopHead.of_append {c : LocalCache P} {request : Request} {entries : Residents}
    {occupancy : Nat} {victims : List ObjectId}
    (h : LoopHead A c request entries occupancy victims) :
    ∀ earlier victim later, victims = earlier ++ victim :: later →
      ∃ entries' occupancy' entry, LoopHead A c request entries' occupancy' earlier ∧
        P.selectVictim c.policy entries' request = some victim ∧
        entries'.find victim = some entry := by
  induction h with
  | start =>
      intro earlier victim later heq
      simp at heq
  | next hhead _ hselect hfind ih =>
      intro earlier victim later heq
      rcases List.eq_nil_or_concat later with rfl | ⟨later', last, rfl⟩
      · obtain ⟨rfl, hlast⟩ := List.append_inj' heq rfl
        obtain rfl : _ = victim := by simpa using hlast
        exact ⟨_, _, _, hhead, hselect, hfind⟩
      · rw [List.concat_eq_append, ← List.cons_append, ← List.append_assoc] at heq
        exact ih earlier victim later' (List.append_inj' heq rfl).1

/-- A successful plan is the victim list of a loop head at which there is room. -/
theorem LoopHead.of_planVictims {c : LocalCache P} {request : Request} {fuel : Nat} :
    ∀ {entries : Residents} {occupancy : Nat} {planned victims : List ObjectId},
      LoopHead A c request entries occupancy planned →
      planVictims A c.policy c.capacityBytes request fuel entries occupancy planned =
        some (.planned victims) →
      ∃ entries' occupancy', LoopHead A c request entries' occupancy' victims ∧
        A.add occupancy' request.sizeBytes ≤ c.capacityBytes := by
  induction fuel with
  | zero => intro _ _ _ _ _ hplan; simp [planVictims] at hplan
  | succ fuel ih =>
      intro entries occupancy planned victims hhead hplan
      rw [planVictims] at hplan
      by_cases hroom : A.add occupancy request.sizeBytes > c.capacityBytes
      · rw [if_pos hroom] at hplan
        cases hselect : P.selectVictim c.policy entries request with
        | none => simp [hselect] at hplan
        | some victim =>
            cases hfind : entries.find victim with
            | none => simp [hselect, hfind] at hplan
            | some entry =>
                simp only [hselect, hfind] at hplan
                exact ih (hhead.next hroom hselect hfind) hplan
      · rw [if_neg hroom] at hplan
        simp only [Option.some.injEq, VictimPlan.planned.injEq] at hplan
        subst hplan
        exact ⟨entries, occupancy, hhead, by omega⟩

/-- Every turn of the loop takes an entry out of its copy, so more fuel than
    entries is enough. -/
theorem planVictims_isSome (policy : P.State) (capacityBytes : Nat) (request : Request)
    {fuel : Nat} : ∀ (entries : Residents) (occupancy : Nat) (planned : List ObjectId),
      entries.items.length < fuel →
      (planVictims A policy capacityBytes request fuel entries occupancy planned).isSome := by
  induction fuel with
  | zero => intro entries _ _ hlt; omega
  | succ fuel ih =>
      intro entries occupancy planned hlt
      rw [planVictims]
      split
      · cases P.selectVictim policy entries request with
        | none => rfl
        | some victim =>
            cases hfind : entries.find victim with
            | none => simp only [hfind]; rfl
            | some entry =>
                simp only [hfind]
                have hlen := KeyedStore.length_erase hfind
                exact ih _ _ _ (by omega)
      · rfl

theorem victimPlan_isSome (c : LocalCache P) (request : Request) :
    (victimPlan A c request).isSome :=
  planVictims_isSome c.policy c.capacityBytes request c.entries c.occupancyBytes []
    (Nat.lt_succ_self _)

/-- What `admit` does, by cases: it rejects and only records that, or it evicts
    the victims of a loop head at which there is room and places the object. -/
theorem admit_cases (c : LocalCache P) (request : Request) (response : Response)
    (time : SimTime) :
    (∃ reason victims,
        admitObject A c request response time =
          c.recordResult request response time false reason victims) ∨
      (∃ victims entries occupancy,
        victimPlan A c request = some (.planned victims) ∧
        LoopHead A c request entries occupancy victims ∧
        A.add occupancy request.sizeBytes ≤ c.capacityBytes ∧
        admitObject A c request response time =
          (place A (evictAll A c victims time) request time).recordResult request response
            time true "admitted" victims) := by
  unfold admitObject
  by_cases hdecision : (P.admissionDecision c.policy request response).shouldAdmit = true
  · by_cases hlarge : request.sizeBytes > c.capacityBytes
    · exact Or.inl ⟨"object_too_large", [], by simp [hdecision, hlarge]⟩
    · obtain ⟨plan, hplan⟩ := Option.isSome_iff_exists.mp (victimPlan_isSome (A := A) c request)
      cases plan with
      | planned victims =>
          obtain ⟨entries, occupancy, hhead, hroom⟩ := LoopHead.of_planVictims .start hplan
          exact Or.inr ⟨victims, entries, occupancy, hplan, hhead, hroom,
            by simp [hdecision, hlarge, hplan]⟩
      | rejected reason victims =>
          exact Or.inl ⟨reason, victims, by simp [hdecision, hlarge, hplan]⟩
  · exact Or.inl ⟨(P.admissionDecision c.policy request response).reason, [],
      by simp [hdecision]⟩

-- ============================================================================
-- The capacity invariant
-- ============================================================================

/-- The occupancy counter bounds the resident bytes and stays in the capacity. -/
structure WithinCapacity (c : LocalCache P) : Prop where
  resident_le : c.entries.total CacheEntry.sizeBytes ≤ c.occupancyBytes
  occupancy_le : c.occupancyBytes ≤ c.capacityBytes

/-- Along the planning loop the projected occupancy bounds the bytes left. -/
theorem LoopHead.total_le {c : LocalCache P} (hc : c.WithinCapacity) {request : Request}
    {entries : Residents} {occupancy : Nat} {victims : List ObjectId}
    (h : LoopHead .exact c request entries occupancy victims) :
    entries.total CacheEntry.sizeBytes ≤ occupancy := by
  induction h with
  | start => exact hc.resident_le
  | next _ _ _ hfind ih =>
      have htotal := KeyedStore.total_erase CacheEntry.sizeBytes hfind
      rw [Arith.sub_exact]
      omega

/-- So no subtraction of the loop goes below zero. -/
theorem LoopHead.size_le {c : LocalCache P} (hc : c.WithinCapacity) {request : Request}
    {entries : Residents} {occupancy : Nat} {victims : List ObjectId}
    (h : LoopHead .exact c request entries occupancy victims) {victim : ObjectId}
    {entry : CacheEntry} (hfind : entries.find victim = some entry) :
    entry.sizeBytes ≤ occupancy := by
  have hweight := KeyedStore.weight_le_total CacheEntry.sizeBytes hfind
  have htotal := h.total_le hc
  omega

theorem withinCapacity_lookup {c : LocalCache P} (hc : c.WithinCapacity) (stats : Stats)
    (request : Request) (time : SimTime) : (lookup stats c request time).1.WithinCapacity := by
  unfold lookup
  cases hfind : c.entries.find request.objectId with
  | none => exact ⟨hc.resident_le, hc.occupancy_le⟩
  | some entry =>
      refine ⟨?_, ?_⟩
      · have hkey := KeyedStore.key_of_find hfind
        have htotal := KeyedStore.total_erase CacheEntry.sizeBytes hfind
        have hle := hc.resident_le
        simp only [recordHit_entries, recordHit_occupancyBytes, KeyedStore.total_insert,
          CachePolicy.onAccess_sizeBytes, CachePolicy.onAccess_objectId, hkey]
        omega
      · simpa using hc.occupancy_le

theorem withinCapacity_recordResult {c : LocalCache P} (hc : c.WithinCapacity)
    (request : Request) (response : Response) (time : SimTime) (admitted : Bool)
    (reason : String) (victims : List ObjectId) :
    (c.recordResult request response time admitted reason victims).1.WithinCapacity := by
  refine ⟨?_, ?_⟩
  · simpa using hc.resident_le
  · simpa using hc.occupancy_le

/-- Placing an object that fits keeps the invariant, resident or not. -/
theorem withinCapacity_place {c : LocalCache P} (request : Request) (time : SimTime)
    (hle : c.entries.total CacheEntry.sizeBytes ≤ c.occupancyBytes)
    (hroom : c.occupancyBytes + request.sizeBytes ≤ c.capacityBytes) :
    (place .exact c request time).WithinCapacity := by
  have herase := KeyedStore.total_erase_le CacheEntry.sizeBytes c.entries request.objectId
  refine ⟨?_, ?_⟩
  · simp only [place, KeyedStore.total_insert, CachePolicy.onAccess_sizeBytes,
      CachePolicy.onAccess_objectId, Arith.add_exact]
    omega
  · simpa [place] using hroom

theorem withinCapacity_admitObject {c : LocalCache P} (hc : c.WithinCapacity) (request : Request)
    (response : Response) (time : SimTime) :
    (admitObject .exact c request response time).1.WithinCapacity := by
  rcases admit_cases (A := .exact) c request response time with
    ⟨reason, victims, heq⟩ | ⟨victims, entries, occupancy, -, hhead, hroom, heq⟩
  · rw [heq]
    exact withinCapacity_recordResult hc request response time false reason victims
  · rw [heq]
    obtain ⟨hentries, hoccupancy⟩ := hhead.evictAll_eq time
    apply withinCapacity_recordResult
    apply withinCapacity_place
    · rw [hentries, hoccupancy]
      exact hhead.total_le hc
    · rw [hoccupancy, evictAll_capacityBytes]
      simpa using hroom

-- ============================================================================
-- Replicas
-- ============================================================================

@[simp] theorem clearEntries_entries (c : LocalCache P) (time : SimTime) :
    (clearEntries A c time).entries = KeyedStore.empty := rfl

@[simp] theorem clearEntries_occupancyBytes (c : LocalCache P) (time : SimTime) :
    (clearEntries A c time).occupancyBytes = 0 := rfl

theorem foldl_clearEntry_capacityBytes (entries : List CacheEntry) (c : LocalCache P)
    (time : SimTime) :
    (entries.foldl (fun c entry => clearEntry A c entry time) c).capacityBytes =
      c.capacityBytes := by
  induction entries generalizing c with
  | nil => rfl
  | cons entry entries ih => rw [List.foldl_cons, ih]; rfl

@[simp] theorem clearEntries_capacityBytes (c : LocalCache P) (time : SimTime) :
    (clearEntries A c time).capacityBytes = c.capacityBytes :=
  foldl_clearEntry_capacityBytes c.entries.items c time

theorem withinCapacity_clearEntries (c : LocalCache P) (time : SimTime) :
    (clearEntries A c time).WithinCapacity :=
  ⟨Nat.le_refl 0, Nat.zero_le _⟩

theorem withinCapacity_installLoop (replicas : List CacheReplica) (time : SimTime)
    (nodeId : NodeId) (epochId : EpochId) {c : LocalCache P} (hc : c.WithinCapacity) :
    (installLoop .exact time nodeId epochId replicas c).WithinCapacity := by
  induction replicas generalizing c with
  | nil => exact hc
  | cons replica rest ih =>
      rw [installLoop]
      split
      · exact ih hc
      · split
        · exact hc
        · split
          · exact ih hc
          · rename_i _ hroom hfind
            apply ih
            have hnone : c.entries.find replica.objectId = none := by
              simpa using hfind
            have hle := hc.resident_le
            refine ⟨?_, ?_⟩
            · simp only [recordSuccessfulReplica, KeyedStore.total_insert,
                KeyedStore.erase_eq_self hnone, Arith.add_exact]
              omega
            · simpa [recordSuccessfulReplica] using hroom

theorem installLoop_capacityBytes (replicas : List CacheReplica) (time : SimTime)
    (nodeId : NodeId) (epochId : EpochId) (c : LocalCache P) :
    (installLoop A time nodeId epochId replicas c).capacityBytes = c.capacityBytes := by
  induction replicas generalizing c with
  | nil => rfl
  | cons replica rest ih =>
      rw [installLoop]
      split
      · exact ih c
      · split
        · rfl
        · split
          · exact ih c
          · rw [ih]; rfl

-- ============================================================================
-- Sequences of operations
-- ============================================================================

/-- The public operations of a cache. -/
inductive CacheOp
  | lookup (stats : Stats) (request : Request) (time : SimTime)
  | admitObject (request : Request) (response : Response) (time : SimTime)
  | onEpochStart (stats : Stats) (epochId : EpochId)
  | installReplicas (replicas : List CacheReplica) (time : SimTime) (nodeId : NodeId)
      (epochId : EpochId)

def applyOp (A : Arith) (c : LocalCache P) : CacheOp → LocalCache P
  | .lookup stats request time => (lookup stats c request time).1
  | .admitObject request response time => (admitObject A c request response time).1
  | .onEpochStart stats epochId => c.onEpochStart stats epochId
  | .installReplicas replicas time nodeId epochId =>
      installReplicas A c replicas time nodeId epochId

/-- A new cache of the given capacity after a sequence of operations. -/
def runOps (A : Arith) (P : CachePolicy) (capacityBytes : Nat) (ops : List CacheOp) :
    LocalCache P :=
  ops.foldl (applyOp A) { capacityBytes := capacityBytes }

@[simp] theorem applyOp_capacityBytes (c : LocalCache P) (op : CacheOp) :
    (applyOp A c op).capacityBytes = c.capacityBytes := by
  cases op with
  | lookup stats request time =>
      simp only [applyOp, lookup]
      split <;> simp
  | admitObject request response time =>
      rcases admit_cases (A := A) c request response time with
        ⟨reason, victims, heq⟩ | ⟨victims, _, _, -, -, -, heq⟩
      · simp [applyOp, heq]
      · simp [applyOp, heq, place]
  | onEpochStart stats epochId => rfl
  | installReplicas replicas time nodeId epochId =>
      simp [applyOp, installReplicas, installLoop_capacityBytes]

theorem withinCapacity_applyOp {c : LocalCache P} (hc : c.WithinCapacity) (op : CacheOp) :
    (applyOp .exact c op).WithinCapacity := by
  cases op with
  | lookup stats request time => exact withinCapacity_lookup hc stats request time
  | admitObject request response time => exact withinCapacity_admitObject hc request response time
  | onEpochStart stats epochId => exact ⟨hc.resident_le, hc.occupancy_le⟩
  | installReplicas replicas time nodeId epochId =>
      exact withinCapacity_installLoop replicas time nodeId epochId
        (withinCapacity_clearEntries c time)

theorem withinCapacity_foldl {c : LocalCache P} (hc : c.WithinCapacity) (ops : List CacheOp) :
    (ops.foldl (applyOp .exact) c).WithinCapacity := by
  induction ops generalizing c with
  | nil => exact hc
  | cons op ops ih => exact ih (withinCapacity_applyOp hc op)

theorem runOps_withinCapacity (P : CachePolicy) (capacityBytes : Nat) (ops : List CacheOp) :
    (runOps .exact P capacityBytes ops).WithinCapacity :=
  withinCapacity_foldl (c := { capacityBytes := capacityBytes })
    ⟨Nat.le_refl 0, Nat.zero_le _⟩ ops

theorem foldl_applyOp_capacityBytes (c : LocalCache P) (ops : List CacheOp) :
    (ops.foldl (applyOp A) c).capacityBytes = c.capacityBytes := by
  induction ops generalizing c with
  | nil => rfl
  | cons op ops ih => rw [List.foldl_cons, ih, applyOp_capacityBytes]

/-- Byte capacity safety: for every policy, capacity and sequence of operations,
    the resident bytes never exceed the occupancy counter, the counter never
    exceeds the capacity, neither the planning loop nor the eviction loop of
    `admit` subtracts below zero, and the planning loop comes to an end. -/
theorem runOps_capacity_safe (P : CachePolicy) (capacityBytes : Nat) (ops : List CacheOp)
    (request : Request) :
    let c := runOps .exact P capacityBytes ops
    c.entries.total CacheEntry.sizeBytes ≤ c.occupancyBytes ∧
      c.occupancyBytes ≤ c.capacityBytes ∧
      c.capacityBytes = capacityBytes ∧
      (victimPlan .exact c request).isSome ∧
      (∀ entries occupancy planned victim entry,
        LoopHead .exact c request entries occupancy planned →
        P.selectVictim c.policy entries request = some victim →
        entries.find victim = some entry → entry.sizeBytes ≤ occupancy) ∧
      (∀ victims earlier victim later entry time,
        victimPlan .exact c request = some (.planned victims) →
        victims = earlier ++ victim :: later →
        (evictAll .exact c earlier time).entries.find victim = some entry →
        entry.sizeBytes ≤ (evictAll .exact c earlier time).occupancyBytes) := by
  intro c
  have hc : c.WithinCapacity := runOps_withinCapacity P capacityBytes ops
  refine ⟨hc.resident_le, hc.occupancy_le, ?_, victimPlan_isSome c request, ?_, ?_⟩
  · exact foldl_applyOp_capacityBytes { capacityBytes := capacityBytes } ops
  · intro entries occupancy planned victim entry hhead _ hfind
    exact hhead.size_le hc hfind
  · intro victims earlier victim later entry time hplan hsplit hfind
    obtain ⟨_, _, hend, -⟩ := LoopHead.of_planVictims .start hplan
    obtain ⟨_, _, _, hhead, -, -⟩ := hend.of_append earlier victim later hsplit
    obtain ⟨hentries, hoccupancy⟩ := hhead.evictAll_eq time
    rw [hentries] at hfind
    rw [hoccupancy]
    exact hhead.size_le hc hfind

end LocalCache

end DmSimulator
