/-
  DmSimulator.Cache.HitCredit

  Hit credit of a cache under arbitrary operations and an arbitrary policy, in
  either reading of the arithmetic.

  A hit is credited to the record that the placement index of its object points
  at.  `Credited` says that the index has exactly the residents as its keys, that
  it points at their open records, and that no hit is lost.  Unlike the byte
  accounting it survives the admission of a resident: the old record keeps its
  credit and the index moves on to the new one.
-/
import DmSimulator.Cache.Accounting
import DmSimulator.Cache.Columns

namespace DmSimulator

namespace LocalCache

variable {P : CachePolicy} {A : Arith} {c : LocalCache P}

-- ============================================================================
-- The columns of a record that hits and placements write
-- ============================================================================

/-- The hits, the reuse flag and the placement source of a record. -/
def creditRow (record : CacheAdmissionRecord) : Nat × Bool × String :=
  (record.futureHitCount, record.reusedAfterAdmit, record.placementSource)

def creditRows (c : LocalCache P) : List (Nat × Bool × String) := c.admissionRecords.map creditRow

/-- The number of records that stand for an admission attempt after a remote response. -/
def remoteRecords (c : LocalCache P) : Nat :=
  c.admissionRecords.countP fun record => record.placementSource = "remote_response"

theorem remoteRecords_eq (c : LocalCache P) :
    c.remoteRecords = c.creditRows.countP fun row => row.2.2 = "remote_response" := by
  rw [remoteRecords, creditRows, List.countP_map]
  rfl

theorem creditRows_evict (c : LocalCache P) (objectId : ObjectId) (time : SimTime) :
    (evict A c objectId time).creditRows = c.creditRows :=
  map_evict (fun _ _ => rfl) c objectId time

theorem creditRows_evictAll (victims : List ObjectId) (c : LocalCache P) (time : SimTime) :
    (evictAll A c victims time).creditRows = c.creditRows :=
  map_evictAll (fun _ _ => rfl) victims c time

theorem creditRows_clearEntries (c : LocalCache P) (time : SimTime) :
    (clearEntries A c time).creditRows = c.creditRows :=
  map_clearEntries (fun _ _ => rfl) c time

theorem clearEntries_hitCount (c : LocalCache P) (time : SimTime) :
    (clearEntries A c time).hitCount = c.hitCount := by
  have hfold : ∀ (entries : List CacheEntry) (c : LocalCache P),
      (entries.foldl (fun c entry => clearEntry A c entry time) c).hitCount = c.hitCount := by
    intro entries
    induction entries with
    | nil => exact fun c => rfl
    | cons entry entries ih =>
        intro c
        rw [List.foldl_cons, ih]
        rfl
  exact hfold c.entries.items c

-- ============================================================================
-- The invariant
-- ============================================================================

/-- The hits credited to the records of a cache. -/
def hitCredit (c : LocalCache P) : Nat :=
  (c.admissionRecords.map CacheAdmissionRecord.futureHitCount).sum

/-- The placement index has exactly the residents as keys and points at their open records,
    the records are credited with all hits, and a record is marked as reused exactly if it
    has been credited. -/
structure Credited (c : LocalCache P) : Prop where
  indexed_iff : ∀ objectId, (c.entries.find objectId).isSome ↔
    (c.activePlacementByObject.lookup objectId).isSome
  placed : ∀ objectId index, c.activePlacementByObject.lookup objectId = some index →
    c.OpenAt objectId index
  credit_eq : c.hitCredit = c.hitCount
  reused_iff : ∀ record ∈ c.admissionRecords,
    (record.reusedAfterAdmit = true ↔ 0 < record.futureHitCount)

theorem hitCredit_eq (c : LocalCache P) : c.hitCredit = (c.creditRows.map Prod.fst).sum := by
  rw [hitCredit, creditRows, List.map_map]
  rfl

theorem reused_iff_rows (c : LocalCache P) :
    (∀ record ∈ c.admissionRecords,
        (record.reusedAfterAdmit = true ↔ 0 < record.futureHitCount)) ↔
      ∀ row ∈ c.creditRows, (row.2.1 = true ↔ 0 < row.1) := by
  rw [creditRows, List.forall_mem_map]
  exact Iff.rfl

namespace Credited

theorem init (P : CachePolicy) (capacityBytes : Nat) :
    ({ capacityBytes := capacityBytes } : LocalCache P).Credited := by
  refine ⟨fun objectId => Iff.rfl, fun objectId index h => ?_, rfl, fun record hmem => ?_⟩
  · cases h
  · cases hmem

/-- A change that credits nothing and keeps the index in line with the residents. -/
theorem frame {c' : LocalCache P} (h : c.Credited) (hrows : c'.creditRows = c.creditRows)
    (hhits : c'.hitCount = c.hitCount)
    (hindexed : ∀ objectId, (c'.entries.find objectId).isSome ↔
      (c'.activePlacementByObject.lookup objectId).isSome)
    (hplaced : ∀ objectId index, c'.activePlacementByObject.lookup objectId = some index →
      c'.OpenAt objectId index) : c'.Credited := by
  refine ⟨hindexed, hplaced, ?_, ?_⟩
  · rw [hitCredit_eq, hrows, ← hitCredit_eq, h.credit_eq, hhits]
  · rw [reused_iff_rows, hrows, ← reused_iff_rows]
    exact h.reused_iff

/-- The policy and the byte counters do not matter. -/
theorem congr {c' : LocalCache P} (h : c.Credited) (hentries : c'.entries = c.entries)
    (hhits : c'.hitCount = c.hitCount) (hrecords : c'.admissionRecords = c.admissionRecords)
    (hactive : c'.activePlacementByObject = c.activePlacementByObject) : c'.Credited := by
  refine h.frame ?_ hhits ?_ ?_
  · rw [creditRows, hrecords]
    rfl
  · rw [hentries, hactive]
    exact h.indexed_iff
  · intro objectId index hlookup
    rw [hactive] at hlookup
    exact (openAt_congr hrecords objectId index).mpr (h.placed objectId index hlookup)

/-- A new record that no hit has been credited to. -/
theorem append {c' : LocalCache P} (h : c.Credited) {record : CacheAdmissionRecord}
    (hrecords : c'.admissionRecords = c.admissionRecords ++ [record])
    (hfresh : record.futureHitCount = 0 ∧ record.reusedAfterAdmit = false)
    (hhits : c'.hitCount = c.hitCount)
    (hindexed : ∀ objectId, (c'.entries.find objectId).isSome ↔
      (c'.activePlacementByObject.lookup objectId).isSome)
    (hplaced : ∀ objectId index, c'.activePlacementByObject.lookup objectId = some index →
      c'.OpenAt objectId index) : c'.Credited := by
  refine ⟨hindexed, hplaced, ?_, ?_⟩
  · rw [hhits, ← h.credit_eq, hitCredit, hrecords, List.map_append, List.sum_append,
      List.map_singleton, List.sum_singleton, hfresh.1]
    rfl
  · rw [hrecords]
    intro other hmem
    rcases List.mem_append.mp hmem with hold | hnew
    · exact h.reused_iff other hold
    · rw [List.mem_singleton.mp hnew, hfresh.1, hfresh.2]
      decide

-- ============================================================================
-- Lookups, rejections and evictions
-- ============================================================================

theorem sum_modify_succ {l : List (Nat × Bool × String)} {i : Nat} (h : i < l.length) :
    ((l.modify i fun row => (row.1 + 1, true, row.2.2)).map Prod.fst).sum =
      (l.map Prod.fst).sum + 1 := by
  induction l generalizing i with
  | nil => exact absurd h (Nat.not_lt_zero i)
  | cons row l ih =>
      cases i with
      | zero =>
          simp only [List.modify_zero_cons, List.map_cons, List.sum_cons]
          omega
      | succ i =>
          simp only [List.modify_succ_cons, List.map_cons, List.sum_cons]
          rw [ih (Nat.lt_of_succ_lt_succ h)]
          omega

/-- A hit is credited to one record. -/
theorem credit {c' : LocalCache P} (h : c.Credited) {index : Nat}
    {f : CacheAdmissionRecord → CacheAdmissionRecord}
    (hrow : ∀ record, creditRow (f record) =
      ((creditRow record).1 + 1, true, (creditRow record).2.2))
    (hrecords : c'.admissionRecords = c.admissionRecords.modify index f)
    (hlt : index < c.admissionRecords.length) (hhits : c'.hitCount = c.hitCount + 1)
    (hindexed : ∀ objectId, (c'.entries.find objectId).isSome ↔
      (c'.activePlacementByObject.lookup objectId).isSome)
    (hplaced : ∀ objectId index, c'.activePlacementByObject.lookup objectId = some index →
      c'.OpenAt objectId index) : c'.Credited := by
  have hrows : c'.creditRows =
      c.creditRows.modify index fun row => (row.1 + 1, true, row.2.2) := by
    rw [creditRows, hrecords]
    exact map_modify f creditRow _ hrow index c.admissionRecords
  refine ⟨hindexed, hplaced, ?_, ?_⟩
  · rw [hhits, ← h.credit_eq, hitCredit_eq, hitCredit_eq, hrows]
    apply sum_modify_succ
    rw [creditRows, List.length_map]
    exact hlt
  · rw [reused_iff_rows, hrows]
    intro row hmem
    obtain ⟨i, hi, rfl⟩ := List.mem_iff_getElem.mp hmem
    rw [List.getElem_modify]
    split
    · exact iff_of_true rfl (Nat.succ_pos _)
    · exact (reused_iff_rows c).mp h.reused_iff _ (List.getElem_mem _)

theorem lookup (h : c.Credited) (stats : Stats) (request : Request) (time : SimTime) :
    (lookup stats c request time).1.Credited := by
  unfold LocalCache.lookup
  cases hfind : c.entries.find request.objectId with
  | none => exact h.congr rfl rfl rfl rfl
  | some entry =>
      have hresident : (c.entries.find request.objectId).isSome := by
        rw [hfind]
        rfl
      -- the index knows the record of a resident
      obtain ⟨index, hindex⟩ := Option.isSome_iff_exists.mp ((h.indexed_iff _).mp hresident)
      have hlt : index < c.admissionRecords.length := by
        obtain ⟨record, hrecord, -⟩ := h.placed _ _ hindex
        exact (List.getElem?_eq_some_iff.mp hrecord).1
      have hkey : (P.onAccess (P.onLookup stats c.policy request time true) entry time).objectId =
          request.objectId :=
        (CachePolicy.onAccess_objectId P _ _ _).trans (KeyedStore.key_of_find hfind)
      simp only [recordHit, hindex]
      refine h.credit (fun record => rfl) rfl hlt rfl (fun objectId => ?_) fun objectId i hi => ?_
      · rw [← h.indexed_iff]
        exact KeyedStore.isSome_find_insert (by rw [hkey, hfind]) objectId
      · refine (openAt_modify (c := c) (i := index)
          (f := fun record =>
            { record with futureHitCount := record.futureHitCount + 1, reusedAfterAdmit := true })
          (fun record => ⟨rfl, rfl, rfl⟩) rfl objectId i).mpr ?_
        exact h.placed objectId i hi

theorem recordRejectedAdmission (h : c.Credited) (request : Request) (time : SimTime)
    (reason : String) (victims : List ObjectId) :
    (c.recordRejectedAdmission request time reason victims).Credited := by
  refine h.append rfl ⟨rfl, rfl⟩ rfl h.indexed_iff fun objectId index hlookup => ?_
  exact (openAt_append rfl objectId index).mpr (Or.inl (h.placed objectId index hlookup))

/-- Evicting a resident takes its key out of the index and closes its record, which no other
    key points at. -/
theorem evict (h : c.Credited) (objectId : ObjectId) (time : SimTime) :
    (evict A c objectId time).Credited := by
  cases hfind : c.entries.find objectId with
  | none =>
      rw [evict_of_find_none hfind]
      exact h
  | some entry =>
      have hresident : (c.entries.find objectId).isSome := by
        rw [hfind]
        rfl
      obtain ⟨index, hindex⟩ := Option.isSome_iff_exists.mp ((h.indexed_iff _).mp hresident)
      refine h.frame (creditRows_evict c objectId time) (evict_hitCount c objectId time) ?_ ?_
      · intro other
        unfold LocalCache.evict
        simp only [hfind, hindex]
        by_cases heq : other = objectId
        · rw [heq, KeyedStore.find_erase_self, AList.lookup_erase]
          exact Iff.rfl
        · rw [KeyedStore.find_erase_ne _ heq, AList.lookup_erase_ne heq]
          exact h.indexed_iff other
      · intro other i hlookup
        unfold LocalCache.evict at hlookup ⊢
        simp only [hfind, hindex] at hlookup ⊢
        by_cases heq : other = objectId
        · rw [heq, AList.lookup_erase] at hlookup
          cases hlookup
        · rw [AList.lookup_erase_ne heq] at hlookup
          refine (openAt_close (c := c) rfl other i).mpr ⟨h.placed other i hlookup, ?_⟩
          rintro rfl
          exact heq (openAt_unique (h.placed other i hlookup) (h.placed objectId i hindex))

theorem evictAll (h : c.Credited) (victims : List ObjectId) (time : SimTime) :
    (evictAll A c victims time).Credited := by
  induction victims generalizing c with
  | nil => exact h
  | cons victim victims ih => exact ih (h.evict victim time)

theorem clearEntries (h : c.Credited) (time : SimTime) : (clearEntries A c time).Credited := by
  refine h.frame (creditRows_clearEntries c time) (clearEntries_hitCount c time)
    (fun objectId => Iff.rfl) fun objectId index hlookup => ?_
  cases hlookup

-- ============================================================================
-- Placements
-- ============================================================================

/-- Storing an object with a new open record, whether or not it is resident. -/
theorem store (h : c.Credited) {c' : LocalCache P} (entry : CacheEntry)
    {record : CacheAdmissionRecord} (hentries : c'.entries = c.entries.insert entry)
    (hrecords : c'.admissionRecords = c.admissionRecords ++ [record])
    (hrecord : record.admitted = true ∧ record.evicted = false ∧
      record.objectId = entry.objectId)
    (hfresh : record.futureHitCount = 0 ∧ record.reusedAfterAdmit = false)
    (hhits : c'.hitCount = c.hitCount)
    (hactive : c'.activePlacementByObject =
      c.activePlacementByObject.insert entry.objectId c.admissionRecords.length) :
    c'.Credited := by
  refine h.append hrecords hfresh hhits (fun objectId => ?_) fun objectId index hlookup => ?_
  · rw [hentries, hactive]
    by_cases heq : objectId = entry.objectId
    · rw [heq, KeyedStore.find_insert_self, AList.lookup_insert]
      exact Iff.rfl
    · rw [KeyedStore.find_insert_ne _ _ heq, AList.lookup_insert_ne heq]
      exact h.indexed_iff objectId
  · rw [hactive] at hlookup
    rw [openAt_append hrecords]
    by_cases heq : objectId = entry.objectId
    · rw [heq, AList.lookup_insert] at hlookup
      exact Or.inr ⟨(Option.some.inj hlookup).symm, hrecord.1, hrecord.2.1,
        hrecord.2.2.trans heq.symm⟩
    · rw [AList.lookup_insert_ne heq] at hlookup
      exact Or.inl (h.placed objectId index hlookup)

theorem installLoop (replicas : List CacheReplica) (time : SimTime) (nodeId : NodeId)
    (epochId : EpochId) {c : LocalCache P} (h : c.Credited) :
    (installLoop A time nodeId epochId replicas c).Credited := by
  induction replicas generalizing c with
  | nil => exact h
  | cons replica rest ih =>
      rw [LocalCache.installLoop]
      split
      · exact ih h
      · split
        · exact h
        · split
          · exact ih h
          · exact ih (h.store { objectId := replica.objectId
                                sizeBytes := replica.sizeBytes
                                insertTime := time
                                lastAccessTime := time }
              rfl rfl ⟨rfl, rfl, rfl⟩ ⟨rfl, rfl⟩ rfl rfl)

theorem installReplicas (h : c.Credited) (replicas : List CacheReplica) (time : SimTime)
    (nodeId : NodeId) (epochId : EpochId) :
    (installReplicas A c replicas time nodeId epochId).Credited :=
  installLoop replicas time nodeId epochId (h.clearEntries time)

/-- A committed admission, also of a resident. -/
theorem commit (h : c.Credited) (request : Request) (response : Response) (time : SimTime)
    (victims : List ObjectId) :
    ((place A c request time).recordResult request response time true "admitted"
      victims).1.Credited := by
  have hkey : (P.onAccess c.policy (incomingEntry request time) time).objectId =
      request.objectId := CachePolicy.onAccess_objectId P _ _ _
  refine h.store (P.onAccess c.policy (incomingEntry request time) time) rfl rfl
    ⟨rfl, rfl, hkey.symm⟩ ⟨rfl, rfl⟩ rfl ?_
  rw [hkey]
  rfl

theorem admitObject (h : c.Credited) (request : Request) (response : Response)
    (time : SimTime) : (admitObject A c request response time).1.Credited := by
  rcases admit_cases (A := A) c request response time with
    ⟨reason, victims, heq⟩ | ⟨victims, _, _, -, -, -, heq⟩
  · rw [heq]
    have hpolicy : Credited { c with
        policy := P.onAdmissionResult c.policy request response time false reason victims } :=
      h.congr rfl rfl rfl rfl
    exact hpolicy.recordRejectedAdmission request time reason victims
  · rw [heq]
    exact (h.evictAll victims time).commit request response time victims

theorem applyOp (h : c.Credited) (op : CacheOp) : (applyOp A c op).Credited := by
  cases op with
  | lookup stats request time => exact h.lookup stats request time
  | admitObject request response time => exact h.admitObject request response time
  | onEpochStart stats epochId => exact h.congr rfl rfl rfl rfl
  | installReplicas replicas time nodeId epochId =>
      exact h.installReplicas replicas time nodeId epochId

theorem foldl_applyOp (h : c.Credited) (ops : List CacheOp) :
    (ops.foldl (LocalCache.applyOp A) c).Credited := by
  induction ops generalizing c with
  | nil => exact h
  | cons op ops ih => exact ih (h.applyOp op)

end Credited

-- ============================================================================
-- What the operations do to the two counts
-- ============================================================================

theorem remoteRecords_of_rows {c' : LocalCache P} (h : c'.creditRows = c.creditRows) :
    c'.remoteRecords = c.remoteRecords := by
  rw [remoteRecords_eq, remoteRecords_eq, h]

/-- A lookup counts a hit if it finds the object, and leaves the remote records alone. -/
theorem lookup_counts (stats : Stats) (c : LocalCache P) (request : Request) (time : SimTime) :
    (lookup stats c request time).1.hitCount =
        c.hitCount + (if (lookup stats c request time).2 = true then 1 else 0) ∧
      (lookup stats c request time).1.remoteRecords = c.remoteRecords := by
  unfold lookup
  cases c.entries.find request.objectId with
  | none => exact ⟨rfl, rfl⟩
  | some entry =>
      refine ⟨recordHit_hitCount _ _, ?_⟩
      unfold recordHit remoteRecords
      simp only
      cases c.activePlacementByObject.lookup request.objectId with
      | none => rfl
      | some index =>
          have hcount : ∀ records : List CacheAdmissionRecord,
              records.countP (fun record => record.placementSource = "remote_response") =
                (records.map CacheAdmissionRecord.placementSource).countP
                  (fun source => source = "remote_response") := by
            intro records
            rw [List.countP_map]
            rfl
          rw [hcount, hcount]
          exact congrArg _ (map_modify_self CacheAdmissionRecord.placementSource fun record => rfl)

/-- An admission attempt adds one remote record, whatever becomes of it. -/
theorem admitObject_counts (c : LocalCache P) (request : Request) (response : Response)
    (time : SimTime) :
    (admitObject A c request response time).1.hitCount = c.hitCount ∧
      (admitObject A c request response time).1.remoteRecords = c.remoteRecords + 1 := by
  have happend : ∀ {d d' : LocalCache P} {record : CacheAdmissionRecord},
      record.placementSource = "remote_response" →
        d'.admissionRecords = d.admissionRecords ++ [record] →
          d'.remoteRecords = d.remoteRecords + 1 := by
    intro d d' record hsource hrecords
    rw [remoteRecords, hrecords, List.countP_append, List.countP_singleton, if_pos]
    · rfl
    · rw [hsource]
      decide
  rcases admit_cases (A := A) c request response time with
    ⟨reason, victims, heq⟩ | ⟨victims, _, _, -, -, -, heq⟩
  · rw [heq]
    exact ⟨rfl, happend (d := c) rfl rfl⟩
  · rw [heq]
    refine ⟨(recordResult_hitCount _ _ _ _ _ _ _).trans (evictAll_hitCount c victims time), ?_⟩
    rw [← remoteRecords_of_rows (creditRows_evictAll (A := A) victims c time)]
    exact happend (d := evictAll A c victims time) rfl rfl

/-- Installing replicas is no hit and no remote response. -/
theorem installReplicas_counts (c : LocalCache P) (replicas : List CacheReplica) (time : SimTime)
    (nodeId : NodeId) (epochId : EpochId) :
    (installReplicas A c replicas time nodeId epochId).hitCount = c.hitCount ∧
      (installReplicas A c replicas time nodeId epochId).remoteRecords = c.remoteRecords := by
  have hloop : ∀ (replicas : List CacheReplica) (c : LocalCache P),
      (installLoop A time nodeId epochId replicas c).hitCount = c.hitCount ∧
        (installLoop A time nodeId epochId replicas c).remoteRecords = c.remoteRecords := by
    intro replicas
    induction replicas with
    | nil => exact fun c => ⟨rfl, rfl⟩
    | cons replica rest ih =>
        intro c
        rw [installLoop]
        split
        · exact ih c
        · split
          · exact ⟨rfl, rfl⟩
          · split
            · exact ih c
            · obtain ⟨hhits, hremote⟩ := ih (LocalCache.recordSuccessfulReplica
                { c with
                  occupancyBytes := A.add c.occupancyBytes replica.sizeBytes
                  bytesAdmitted := A.add c.bytesAdmitted replica.sizeBytes
                  entries := c.entries.insert
                    { objectId := replica.objectId
                      sizeBytes := replica.sizeBytes
                      insertTime := time
                      lastAccessTime := time } }
                nodeId epochId replica.objectId replica.sizeBytes time)
              refine ⟨hhits, hremote.trans ?_⟩
              show (c.admissionRecords ++ [_]).countP _ = _
              have hsource : ¬ decide ("global_replica" = "remote_response") = true := by decide
              rw [List.countP_append, List.countP_singleton, if_neg hsource]
              rfl
  obtain ⟨hhits, hremote⟩ := hloop replicas (clearEntries A c time)
  refine ⟨hhits.trans (clearEntries_hitCount c time), hremote.trans ?_⟩
  exact remoteRecords_of_rows (creditRows_clearEntries c time)

/-- Every sequence of operations on a new cache keeps its hit credit. -/
theorem credited_runOps (A : Arith) (P : CachePolicy) (capacityBytes : Nat) (ops : List CacheOp) :
    (runOps A P capacityBytes ops).Credited :=
  (Credited.init P capacityBytes).foldl_applyOp ops

end LocalCache

end DmSimulator
