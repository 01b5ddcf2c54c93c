/-
  DmSimulator.Cache.Accounting

  The representation invariant of the store behind a cache, in either reading of
  the arithmetic.

  `Accounted` ties the occupancy, the two byte counters and the lifecycle
  records to the resident entries.  Lookups, replica installs and evictions keep
  it.  An admission keeps it unless it commits an object that is still resident
  after the planned evictions (`Overwrites`): the entry is replaced while its
  size and its open record stay behind.
-/
import DmSimulator.Cache.Capacity

namespace DmSimulator

namespace Arith

theorem add_add (A : Arith) (a b c : Nat) : A.add (A.add a b) c = A.add a (b + c) := by
  cases A with
  | exact => simp [Nat.add_assoc]
  | word64 => simp [add, norm, Nat.mod_add_mod, Nat.add_assoc]

theorem add_norm (A : Arith) (a b : Nat) : A.add (A.norm a) b = A.norm (a + b) := by
  cases A with
  | exact => rfl
  | word64 => simp [add, norm, Nat.mod_add_mod]

theorem sub_norm_add (A : Arith) (a b : Nat) : A.sub (A.norm (a + b)) a = A.norm b := by
  cases A with
  | exact => simp
  | word64 =>
      show ((a + b) % wordSize + (wordSize - a % wordSize)) % wordSize = b % wordSize
      unfold wordSize
      omega

end Arith

namespace LocalCache

variable {P : CachePolicy} {A : Arith} {c : LocalCache P}

-- ============================================================================
-- Open records
-- ============================================================================

/-- The record at `index` is that of a placement of the object that is in force. -/
def OpenAt (c : LocalCache P) (objectId : ObjectId) (index : Nat) : Prop :=
  ∃ record, c.admissionRecords[index]? = some record ∧ record.admitted = true ∧
    record.evicted = false ∧ record.objectId = objectId

theorem openAt_congr {c' : LocalCache P} (h : c'.admissionRecords = c.admissionRecords)
    (objectId : ObjectId) (index : Nat) : c'.OpenAt objectId index ↔ c.OpenAt objectId index := by
  unfold OpenAt
  rw [h]

/-- A change of the records that keeps what `OpenAt` looks at. -/
theorem openAt_modify {c' : LocalCache P} {i : Nat}
    {f : CacheAdmissionRecord → CacheAdmissionRecord}
    (hf : ∀ record, (f record).admitted = record.admitted ∧
      (f record).evicted = record.evicted ∧ (f record).objectId = record.objectId)
    (h : c'.admissionRecords = c.admissionRecords.modify i f) (objectId : ObjectId)
    (index : Nat) : c'.OpenAt objectId index ↔ c.OpenAt objectId index := by
  unfold OpenAt
  rw [h, List.getElem?_modify]
  by_cases heq : i = index
  · simp [heq, hf]
  · simp [heq]

/-- Closing a record closes just that record. -/
theorem openAt_close {c' : LocalCache P} {i : Nat} {time : SimTime}
    (h : c'.admissionRecords = closeRecord c.admissionRecords i time) (objectId : ObjectId)
    (index : Nat) : c'.OpenAt objectId index ↔ c.OpenAt objectId index ∧ index ≠ i := by
  unfold OpenAt
  rw [h, closeRecord, List.getElem?_modify]
  by_cases heq : i = index
  · simp [heq]
  · simp [heq, Ne.symm heq]

/-- A new record may open the new index. -/
theorem openAt_append {c' : LocalCache P} {new : CacheAdmissionRecord}
    (h : c'.admissionRecords = c.admissionRecords ++ [new]) (objectId : ObjectId) (index : Nat) :
    c'.OpenAt objectId index ↔ c.OpenAt objectId index ∨
      (index = c.admissionRecords.length ∧ new.admitted = true ∧ new.evicted = false ∧
        new.objectId = objectId) := by
  unfold OpenAt
  rw [h]
  by_cases hlt : index < c.admissionRecords.length
  · rw [List.getElem?_append_left hlt]
    constructor
    · exact Or.inl
    · rintro (hold | ⟨heq, -⟩)
      · exact hold
      · exact absurd heq (Nat.ne_of_lt hlt)
  · have hnone : c.admissionRecords[index]? = none :=
      List.getElem?_eq_none_iff.mpr (Nat.le_of_not_lt hlt)
    rw [hnone, List.getElem?_append_right (Nat.le_of_not_lt hlt)]
    by_cases heq : index = c.admissionRecords.length
    · simp [heq]
    · have hpos : index - c.admissionRecords.length ≠ 0 := by omega
      simp [hpos, heq]

/-- A record index belongs to one object. -/
theorem openAt_unique {objectId objectId' : ObjectId} {index : Nat}
    (h : c.OpenAt objectId index) (h' : c.OpenAt objectId' index) : objectId = objectId' := by
  obtain ⟨record, hrecord, -, -, rfl⟩ := h
  obtain ⟨record', hrecord', -, -, rfl⟩ := h'
  rw [hrecord] at hrecord'
  rw [Option.some.inj hrecord']

/-- Clearing the residents closes the records their placements point at. -/
theorem foldl_clearEntry_spec (entries : List CacheEntry) (c : LocalCache P) (time : SimTime) :
    let cleared := entries.foldl (fun c entry => clearEntry A c entry time) c
    cleared.bytesAdmitted = c.bytesAdmitted ∧
      A.add cleared.bytesEvicted 0 = A.add c.bytesEvicted (entries.map CacheEntry.sizeBytes).sum ∧
      ∀ objectId index, cleared.OpenAt objectId index ↔ c.OpenAt objectId index ∧
        ∀ entry ∈ entries, c.activePlacementByObject.lookup entry.objectId ≠ some index := by
  induction entries generalizing c with
  | nil => exact ⟨rfl, rfl, fun objectId index => by simp⟩
  | cons entry rest ih =>
      obtain ⟨hadmitted, hevicted, hopen⟩ := ih (clearEntry A c entry time)
      refine ⟨hadmitted, ?_, fun objectId index => ?_⟩
      · rw [List.foldl_cons, hevicted, List.map_cons, List.sum_cons, ← Arith.add_add]
        rfl
      · rw [List.foldl_cons, hopen]
        show (clearEntry A c entry time).OpenAt objectId index ∧ (∀ other ∈ rest,
          c.activePlacementByObject.lookup other.objectId ≠ some index) ↔ _
        have hhead : (clearEntry A c entry time).OpenAt objectId index ↔
            c.OpenAt objectId index ∧
              c.activePlacementByObject.lookup entry.objectId ≠ some index := by
          cases hlookup : c.activePlacementByObject.lookup entry.objectId with
          | none =>
              rw [openAt_congr (c := c) (by unfold clearEntry; rw [hlookup])]
              simp
          | some i =>
              rw [openAt_close (c := c) (i := i) (by unfold clearEntry; rw [hlookup])]
              simp [eq_comm]
        rw [hhead, List.forall_mem_cons, and_assoc]

-- ============================================================================
-- The representation invariant
-- ============================================================================

/-- The occupancy is the sum of the resident sizes; so is the difference of the
    byte counters; every resident has an active placement; and the open records
    are those the active placements of the residents point at. -/
structure Accounted (A : Arith) (c : LocalCache P) : Prop where
  occupancy_eq : c.occupancyBytes = A.norm (c.entries.total CacheEntry.sizeBytes)
  counters_eq : c.bytesAdmitted = A.add c.bytesEvicted (c.entries.total CacheEntry.sizeBytes)
  indexed : ∀ objectId, (c.entries.find objectId).isSome →
    ∃ index, c.activePlacementByObject.lookup objectId = some index
  open_iff : ∀ objectId index, c.OpenAt objectId index ↔
    (c.entries.find objectId).isSome ∧ c.activePlacementByObject.lookup objectId = some index

namespace Accounted

theorem init (A : Arith) (P : CachePolicy) (capacityBytes : Nat) :
    ({ capacityBytes := capacityBytes } : LocalCache P).Accounted A := by
  refine ⟨?_, ?_, ?_, ?_⟩
  · cases A <;> rfl
  · cases A <;> rfl
  · intro objectId h
    cases h
  · intro objectId index
    constructor
    · rintro ⟨record, hrecord, -⟩
      simp at hrecord
    · rintro ⟨h, -⟩
      cases h

/-- The policy, the capacity and the hit counters do not matter. -/
theorem congr {c' : LocalCache P} (h : c.Accounted A) (hentries : c'.entries = c.entries)
    (hoccupancy : c'.occupancyBytes = c.occupancyBytes)
    (hadmitted : c'.bytesAdmitted = c.bytesAdmitted)
    (hevicted : c'.bytesEvicted = c.bytesEvicted)
    (hopen : ∀ objectId index, c'.OpenAt objectId index ↔ c.OpenAt objectId index)
    (hactive : c'.activePlacementByObject = c.activePlacementByObject) : c'.Accounted A := by
  refine ⟨?_, ?_, ?_, ?_⟩
  · rw [hoccupancy, hentries]
    exact h.occupancy_eq
  · rw [hadmitted, hevicted, hentries]
    exact h.counters_eq
  · rw [hentries, hactive]
    exact h.indexed
  · intro objectId index
    rw [hopen, hentries, hactive]
    exact h.open_iff objectId index

-- ============================================================================
-- Lookups, rejections and evictions
-- ============================================================================

theorem recordHit (h : c.Accounted A) (objectId : ObjectId) :
    (c.recordHit objectId).Accounted A := by
  unfold LocalCache.recordHit
  cases hlookup : c.activePlacementByObject.lookup objectId with
  | none => exact h
  | some index =>
      refine h.congr rfl rfl rfl rfl ?_ rfl
      exact openAt_modify (i := index)
        (f := fun record =>
          { record with futureHitCount := record.futureHitCount + 1, reusedAfterAdmit := true })
        (fun record => ⟨rfl, rfl, rfl⟩) rfl

theorem lookup (h : c.Accounted A) (stats : Stats) (request : Request) (time : SimTime) :
    (lookup stats c request time).1.Accounted A := by
  unfold LocalCache.lookup
  cases hfind : c.entries.find request.objectId with
  | none => exact h.congr rfl rfl rfl rfl (fun _ _ => Iff.rfl) rfl
  | some entry =>
      have hkey : entry.objectId = request.objectId := KeyedStore.key_of_find hfind
      set touched := P.onAccess (P.onLookup stats c.policy request time true) entry time
        with htouched
      have htouchedKey : touched.objectId = request.objectId :=
        (CachePolicy.onAccess_objectId P _ _ _).trans hkey
      have htotal : (c.entries.insert touched).total CacheEntry.sizeBytes =
          c.entries.total CacheEntry.sizeBytes := by
        have hreplace := KeyedStore.total_replace CacheEntry.sizeBytes hfind htouchedKey
        rw [htouched, CachePolicy.onAccess_sizeBytes] at hreplace
        exact Nat.add_right_cancel hreplace
      have hfinds : ∀ objectId, ((c.entries.insert touched).find objectId).isSome ↔
          (c.entries.find objectId).isSome :=
        KeyedStore.isSome_find_insert (by rw [htouchedKey, hfind])
      refine recordHit (c := { c with
        hitCount := c.hitCount + 1
        policy := P.onLookup stats c.policy request time true
        entries := c.entries.insert touched }) ⟨?_, ?_, ?_, ?_⟩ request.objectId
      · exact h.occupancy_eq.trans (congrArg A.norm htotal.symm)
      · exact h.counters_eq.trans (congrArg (A.add c.bytesEvicted) htotal.symm)
      · exact fun objectId hsome => h.indexed objectId ((hfinds objectId).mp hsome)
      · intro objectId index
        rw [hfinds objectId]
        exact h.open_iff objectId index

theorem recordRejectedAdmission (h : c.Accounted A) (request : Request) (time : SimTime)
    (reason : String) (victims : List ObjectId) :
    (c.recordRejectedAdmission request time reason victims).Accounted A := by
  refine h.congr rfl rfl rfl rfl ?_ rfl
  intro objectId index
  rw [openAt_append rfl]
  constructor
  · rintro (hold | ⟨-, hadmitted, -⟩)
    · exact hold
    · cases hadmitted
  · exact Or.inl

/-- Evicting a resident closes its record and no other. -/
theorem evict (h : c.Accounted A) (objectId : ObjectId) (time : SimTime) :
    (evict A c objectId time).Accounted A := by
  cases hfind : c.entries.find objectId with
  | none =>
      rw [evict_of_find_none hfind]
      exact h
  | some entry =>
      obtain ⟨index, hindex⟩ := h.indexed objectId (by rw [hfind]; rfl)
      have htotal := KeyedStore.total_erase CacheEntry.sizeBytes hfind
      unfold LocalCache.evict
      simp only [hfind, hindex]
      refine ⟨?_, ?_, ?_, ?_⟩
      · show A.sub c.occupancyBytes entry.sizeBytes = _
        rw [h.occupancy_eq, htotal]
        exact Arith.sub_norm_add A _ _
      · show c.bytesAdmitted = A.add (A.add c.bytesEvicted entry.sizeBytes) _
        rw [h.counters_eq, htotal, Arith.add_add]
      · intro other hsome
        by_cases heq : other = objectId
        · rw [heq, KeyedStore.find_erase_self] at hsome
          cases hsome
        · rw [KeyedStore.find_erase_ne _ heq] at hsome
          rw [AList.lookup_erase_ne heq]
          exact h.indexed other hsome
      · intro other i
        rw [openAt_close (c := c) rfl]
        by_cases heq : other = objectId
        · rw [heq, KeyedStore.find_erase_self]
          constructor
          · rintro ⟨hopen, hne⟩
            obtain ⟨-, hlookup⟩ := (h.open_iff objectId i).mp hopen
            exact absurd (Option.some.inj (hlookup.symm.trans hindex)) hne
          · rintro ⟨hsome, -⟩
            cases hsome
        · rw [KeyedStore.find_erase_ne _ heq, AList.lookup_erase_ne heq, h.open_iff]
          refine ⟨And.left, fun hopen => ⟨hopen, ?_⟩⟩
          -- an index belongs to one object
          rintro rfl
          exact heq (openAt_unique ((h.open_iff other i).mpr hopen)
            ((h.open_iff objectId i).mpr ⟨by rw [hfind]; rfl, hindex⟩))

theorem evictAll (h : c.Accounted A) (victims : List ObjectId) (time : SimTime) :
    (evictAll A c victims time).Accounted A := by
  induction victims generalizing c with
  | nil => exact h
  | cons victim victims ih => exact ih (h.evict victim time)

-- ============================================================================
-- Placements
-- ============================================================================

/-- Storing an object that is not resident, with a new open record. -/
theorem store (h : c.Accounted A) {c' : LocalCache P} (entry : CacheEntry)
    {record : CacheAdmissionRecord} (hnone : c.entries.find entry.objectId = none)
    (hentries : c'.entries = c.entries.insert entry)
    (hoccupancy : c'.occupancyBytes = A.add c.occupancyBytes entry.sizeBytes)
    (hadmitted : c'.bytesAdmitted = A.add c.bytesAdmitted entry.sizeBytes)
    (hevicted : c'.bytesEvicted = c.bytesEvicted)
    (hrecords : c'.admissionRecords = c.admissionRecords ++ [record])
    (hrecord : record.admitted = true ∧ record.evicted = false ∧
      record.objectId = entry.objectId)
    (hactive : c'.activePlacementByObject =
      c.activePlacementByObject.insert entry.objectId c.admissionRecords.length) :
    c'.Accounted A := by
  have htotal : c'.entries.total CacheEntry.sizeBytes =
      c.entries.total CacheEntry.sizeBytes + entry.sizeBytes := by
    rw [hentries, KeyedStore.total_insert, KeyedStore.erase_eq_self hnone, Nat.add_comm]
  refine ⟨?_, ?_, ?_, ?_⟩
  · rw [hoccupancy, h.occupancy_eq, htotal]
    exact Arith.add_norm A _ _
  · rw [hadmitted, hevicted, h.counters_eq, htotal, Arith.add_add]
  · intro objectId hsome
    rw [hactive]
    by_cases heq : objectId = entry.objectId
    · rw [heq]
      exact ⟨_, AList.lookup_insert _⟩
    · rw [AList.lookup_insert_ne heq]
      rw [hentries, KeyedStore.find_insert_ne _ _ heq] at hsome
      exact h.indexed objectId hsome
  · intro objectId index
    rw [openAt_append hrecords, h.open_iff, hentries, hactive]
    by_cases heq : objectId = entry.objectId
    · rw [heq, hnone, KeyedStore.find_insert_self, AList.lookup_insert]
      simp [hrecord, eq_comm]
    · rw [KeyedStore.find_insert_ne _ _ heq, AList.lookup_insert_ne heq]
      simp [hrecord.2.2, Ne.symm heq]

/-- Clearing the cache closes all open records. -/
theorem clearEntries (h : c.Accounted A) (time : SimTime) :
    (clearEntries A c time).Accounted A := by
  obtain ⟨hadmitted, hevicted, hopen⟩ :=
    foldl_clearEntry_spec (A := A) c.entries.items c time
  refine ⟨?_, ?_, ?_, ?_⟩
  · cases A <;> rfl
  · exact (hadmitted.trans h.counters_eq).trans hevicted.symm
  · intro objectId hsome
    cases hsome
  · intro objectId index
    have hcleared : (LocalCache.clearEntries A c time).OpenAt objectId index ↔ _ :=
      hopen objectId index
    rw [hcleared]
    refine ⟨fun ⟨hold, hnone⟩ => ?_, fun ⟨hsome, _⟩ => by cases hsome⟩
    obtain ⟨hsome, hlookup⟩ := (h.open_iff objectId index).mp hold
    obtain ⟨entry, hfind⟩ := Option.isSome_iff_exists.mp hsome
    obtain ⟨hmem, hkey⟩ := KeyedStore.find_eq_some.mp hfind
    exact absurd (by rw [hkey]; exact hlookup) (hnone entry hmem)

theorem installLoop (replicas : List CacheReplica) (time : SimTime) (nodeId : NodeId)
    (epochId : EpochId) {c : LocalCache P} (h : c.Accounted A) :
    (installLoop A time nodeId epochId replicas c).Accounted A := by
  induction replicas generalizing c with
  | nil => exact h
  | cons replica rest ih =>
      rw [LocalCache.installLoop]
      split
      · exact ih h
      · split
        · exact h
        · split
          · exact ih h
          · rename_i _ _ hfind
            have hnone : c.entries.find replica.objectId = none := by
              simpa using hfind
            exact ih (h.store { objectId := replica.objectId
                                sizeBytes := replica.sizeBytes
                                insertTime := time
                                lastAccessTime := time }
              hnone rfl rfl rfl rfl rfl ⟨rfl, rfl, rfl⟩ rfl)

theorem installReplicas (h : c.Accounted A) (replicas : List CacheReplica) (time : SimTime)
    (nodeId : NodeId) (epochId : EpochId) :
    (installReplicas A c replicas time nodeId epochId).Accounted A :=
  installLoop replicas time nodeId epochId (h.clearEntries time)

end Accounted

-- ============================================================================
-- Admissions
-- ============================================================================

/-- The admission would be committed while its object is resident and not among
    the planned victims. -/
def Overwrites (A : Arith) (c : LocalCache P) (request : Request) (response : Response) : Prop :=
  (P.admissionDecision c.policy request response).shouldAdmit = true ∧
    request.sizeBytes ≤ c.capacityBytes ∧ (c.entries.find request.objectId).isSome ∧
    ∃ victims, victimPlan A c request = some (.planned victims) ∧ request.objectId ∉ victims

section Commit

variable {request : Request} {response : Response} {time : SimTime} {victims : List ObjectId}

/-- A rejected admission only leaves its record. -/
theorem Accounted.reject (h : c.Accounted A) {reason : String} :
    (c.recordResult request response time false reason victims).1.Accounted A :=
  Accounted.recordRejectedAdmission
    (c := { c with
      policy := P.onAdmissionResult c.policy request response time false reason victims })
    (h.congr rfl rfl rfl rfl (fun _ _ => Iff.rfl) rfl) request time reason victims

/-- The committed admission of an object that is not resident. -/
theorem Accounted.commit (h : c.Accounted A) (hnone : c.entries.find request.objectId = none) :
    ((place A c request time).recordResult request response time true "admitted"
      victims).1.Accounted A := by
  have hkey : (P.onAccess c.policy (incomingEntry request time) time).objectId =
      request.objectId := CachePolicy.onAccess_objectId P _ _ _
  refine h.store (P.onAccess c.policy (incomingEntry request time) time)
    (by rw [hkey]; exact hnone) rfl rfl rfl rfl rfl ⟨rfl, rfl, hkey.symm⟩ ?_
  rw [hkey]
  rfl

/-- The committed admission of a resident leaves an open record that no active
    placement points at. -/
theorem Accounted.not_commit (h : c.Accounted A)
    (hsome : (c.entries.find request.objectId).isSome) :
    ¬ ((place A c request time).recordResult request response time true "admitted"
      victims).1.Accounted A := by
  intro hc
  obtain ⟨index, hindex⟩ := h.indexed request.objectId hsome
  have hopen := (h.open_iff request.objectId index).mpr ⟨hsome, hindex⟩
  have hlt : index < c.admissionRecords.length := by
    obtain ⟨record, hrecord, -⟩ := hopen
    exact (List.getElem?_eq_some_iff.mp hrecord).1
  -- the old record is still open, but the index has moved on
  have hstill : ((place A c request time).recordResult request response time true "admitted"
      victims).1.OpenAt request.objectId index :=
    (openAt_append (c := c) rfl request.objectId index).mpr (Or.inl hopen)
  obtain ⟨-, hlookup⟩ := (hc.open_iff request.objectId index).mp hstill
  have hmoved : ((place A c request time).recordResult request response time true "admitted"
      victims).1.activePlacementByObject.lookup request.objectId =
        some c.admissionRecords.length := AList.lookup_insert _
  exact absurd (Option.some.inj (hmoved.symm.trans hlookup)) (Nat.ne_of_gt hlt)

/-- An admission keeps the representation invariant exactly if it does not overwrite
    a resident. -/
theorem Accounted.admitObject_iff (h : c.Accounted A) :
    (admitObject A c request response time).1.Accounted A ↔ ¬ Overwrites A c request response := by
  unfold admitObject Overwrites
  by_cases hdecision : (P.admissionDecision c.policy request response).shouldAdmit = true
  · by_cases hlarge : request.sizeBytes > c.capacityBytes
    · have hnot : ¬ request.sizeBytes ≤ c.capacityBytes := Nat.not_le_of_gt hlarge
      simp only [hdecision, hlarge, hnot, not_true_eq_false, if_false, if_true, false_and,
        and_false, not_false_eq_true, iff_true]
      exact h.reject
    · obtain ⟨plan, hplan⟩ := Option.isSome_iff_exists.mp (victimPlan_isSome (A := A) c request)
      cases plan with
      | rejected reason planned =>
          simp only [hdecision, hlarge, hplan, not_true_eq_false, if_false, Option.some.injEq,
            reduceCtorEq, false_and, exists_false, and_false, not_false_eq_true, iff_true]
          exact h.reject
      | planned planned =>
          have hle : request.sizeBytes ≤ c.capacityBytes := Nat.le_of_not_gt hlarge
          have hevicted := h.evictAll planned time
          have hfind := evictAll_find (A := A) planned c time request.objectId
          simp only [hdecision, hlarge, hplan, hle, not_true_eq_false, if_false, true_and,
            Option.some.injEq, VictimPlan.planned.injEq, exists_eq_left', not_and, not_not]
          constructor
          · intro hc hsome
            by_contra hnot
            rw [if_neg hnot] at hfind
            exact hevicted.not_commit (by rw [hfind]; exact hsome) hc
          · intro hmem
            refine hevicted.commit ?_
            rw [hfind]
            by_cases hin : request.objectId ∈ planned
            · exact if_pos hin
            · rw [if_neg hin]
              exact Option.not_isSome_iff_eq_none.mp fun hsome => hin (hmem hsome)
  · simp only [hdecision, not_false_eq_true, if_true, false_and, iff_true,
      Bool.false_eq_true]
    exact h.reject

end Commit

end LocalCache

end DmSimulator
