/-
  DmSimulator.Cache.Closings

  Closed lifecycle records under the operations of a cache.

  Hits and evictions write the records that the placement index points at, and
  those are open.  So a record that an eviction has closed is never written again,
  and a record that an operation closes is stamped with the time of the operation.
-/
import DmSimulator.Cache.HitCredit

namespace DmSimulator

namespace LocalCache

variable {P : CachePolicy} {A : Arith} {c : LocalCache P} {time : SimTime}

/-- Closed records stay in place, and the newly closed ones were closed at `time`. -/
structure Closes (time : SimTime) (records records' : List CacheAdmissionRecord) : Prop where
  kept : ∀ (i : Nat) record, records[i]? = some record → record.evicted = true →
    records'[i]? = some record
  closed : ∀ (i : Nat) record, records'[i]? = some record → record.evicted = true →
    records[i]? = some record ∨ record.evictionTime = time

namespace Closes

variable {records records' records'' : List CacheAdmissionRecord}

theorem refl (time : SimTime) (records : List CacheAdmissionRecord) :
    Closes time records records :=
  ⟨fun _ _ hrecord _ => hrecord, fun _ _ hrecord _ => Or.inl hrecord⟩

theorem trans (h : Closes time records records') (h' : Closes time records' records'') :
    Closes time records records'' := by
  constructor
  · intro i record hrecord hevicted
    exact h'.kept i record (h.kept i record hrecord hevicted) hevicted
  · intro i record hrecord hevicted
    rcases h'.closed i record hrecord hevicted with hold | htime
    · exact h.closed i record hold hevicted
    · exact Or.inr htime

/-- A new record is open. -/
theorem append (time : SimTime) (records : List CacheAdmissionRecord)
    {record : CacheAdmissionRecord} (hopen : record.evicted = false) :
    Closes time records (records ++ [record]) := by
  constructor
  · intro i old hold _
    rw [List.getElem?_append_left (List.getElem?_eq_some_iff.mp hold).1]
    exact hold
  · intro i old hold hevicted
    rcases Nat.lt_trichotomy i records.length with hlt | rfl | hgt
    · rw [List.getElem?_append_left hlt] at hold
      exact Or.inl hold
    · rw [List.getElem?_concat_length] at hold
      rw [← Option.some.inj hold, hopen] at hevicted
      cases hevicted
    · have hlength : (records ++ [record]).length ≤ i := by
        rw [List.length_append]
        exact hgt
      rw [List.getElem?_eq_none hlength] at hold
      cases hold

/-- An open record is credited, or closed at `time`. -/
theorem modify {index : Nat} {f : CacheAdmissionRecord → CacheAdmissionRecord}
    (hopen : ∀ record, records[index]? = some record → record.evicted = false)
    (hf : ∀ record, (f record).evicted = record.evicted ∨ (f record).evictionTime = time) :
    Closes time records (records.modify index f) := by
  constructor
  · intro i record hrecord hevicted
    by_cases heq : index = i
    · rw [hopen record (heq ▸ hrecord)] at hevicted
      cases hevicted
    · rw [List.getElem?_modify_ne f records heq]
      exact hrecord
  · intro i record hrecord hevicted
    by_cases heq : index = i
    · subst heq
      rw [List.getElem?_modify_eq] at hrecord
      obtain ⟨old, hold, rfl⟩ := Option.map_eq_some_iff.mp hrecord
      rcases hf old with hsame | htime
      · rw [hsame, hopen old hold] at hevicted
        cases hevicted
      · exact Or.inr htime
    · rw [List.getElem?_modify_ne f records heq] at hrecord
      exact Or.inl hrecord

end Closes

-- ============================================================================
-- The operations
-- ============================================================================

/-- The record that a placement points at is open. -/
theorem OpenAt.evicted_eq {objectId : ObjectId} {index : Nat} (h : c.OpenAt objectId index) :
    ∀ record, c.admissionRecords[index]? = some record → record.evicted = false := by
  obtain ⟨found, hfound, -, hopen, -⟩ := h
  intro record hrecord
  rw [hfound] at hrecord
  rw [← Option.some.inj hrecord]
  exact hopen

/-- A hit credits an open record. -/
theorem closes_lookup (h : c.Credited) (stats : Stats) (request : Request) (time : SimTime) :
    Closes time c.admissionRecords (lookup stats c request time).1.admissionRecords := by
  unfold lookup recordHit
  cases c.entries.find request.objectId with
  | none => exact Closes.refl _ _
  | some entry =>
      simp only
      cases hindex : c.activePlacementByObject.lookup request.objectId with
      | none => exact Closes.refl _ _
      | some index =>
          exact Closes.modify (h.placed _ _ hindex).evicted_eq fun record => Or.inl rfl

theorem closes_evict (h : c.Credited) (objectId : ObjectId) (time : SimTime) :
    Closes time c.admissionRecords (evict A c objectId time).admissionRecords := by
  unfold evict
  cases c.entries.find objectId with
  | none => exact Closes.refl _ _
  | some entry =>
      simp only
      cases hindex : c.activePlacementByObject.lookup objectId with
      | none => exact Closes.refl _ _
      | some index =>
          exact Closes.modify (h.placed _ _ hindex).evicted_eq fun record => Or.inr rfl

theorem closes_evictAll (victims : List ObjectId) (h : c.Credited) (time : SimTime) :
    Closes time c.admissionRecords (evictAll A c victims time).admissionRecords := by
  induction victims generalizing c with
  | nil => exact Closes.refl _ _
  | cons victim victims ih =>
      exact (closes_evict h victim time).trans (ih (h.evict victim time))

/-- Clearing closes the records of the residents, which are different open records. -/
theorem closes_clearEntry (entries : List CacheEntry)
    (hnodup : (entries.map CacheEntry.objectId).Nodup)
    (hopen : ∀ entry ∈ entries, ∀ index,
      c.activePlacementByObject.lookup entry.objectId = some index →
        c.OpenAt entry.objectId index) :
    Closes time c.admissionRecords
      (entries.foldl (fun c entry => clearEntry A c entry time) c).admissionRecords := by
  induction entries generalizing c with
  | nil => exact Closes.refl _ _
  | cons entry rest ih =>
      rw [List.map_cons, List.nodup_cons] at hnodup
      have hrest : ∀ other ∈ rest, other.objectId ≠ entry.objectId := by
        intro other hother heq
        exact hnodup.1 (heq ▸ List.mem_map_of_mem hother)
      rw [List.foldl_cons]
      cases hindex : c.activePlacementByObject.lookup entry.objectId with
      | none =>
          have hsame : (clearEntry A c entry time).admissionRecords = c.admissionRecords := by
            unfold clearEntry
            rw [hindex]
          have hlater := ih (c := clearEntry A c entry time) hnodup.2 fun other hother i hi =>
            (openAt_congr hsame other.objectId i).mpr
              (hopen other (List.mem_cons_of_mem _ hother) i hi)
          rw [hsame] at hlater
          exact hlater
      | some index =>
          have hclosed : (clearEntry A c entry time).admissionRecords =
              closeRecord c.admissionRecords index time := by
            unfold clearEntry
            rw [hindex]
          have hhead := hopen entry List.mem_cons_self index hindex
          have hfirst : Closes time c.admissionRecords
              (clearEntry A c entry time).admissionRecords := by
            rw [hclosed]
            exact Closes.modify hhead.evicted_eq fun record => Or.inr rfl
          apply hfirst.trans
          apply ih hnodup.2
          intro other hother i hi
          have hother' := hopen other (List.mem_cons_of_mem _ hother) i hi
          apply (openAt_close hclosed other.objectId i).mpr
          refine ⟨hother', ?_⟩
          rintro rfl
          exact hrest other hother (openAt_unique hother' hhead)

theorem closes_clearEntries (h : c.Credited) (time : SimTime) :
    Closes time c.admissionRecords (clearEntries A c time).admissionRecords :=
  closes_clearEntry c.entries.items c.entries.nodup fun entry _ index hindex =>
    h.placed entry.objectId index hindex

theorem closes_installLoop (time : SimTime) (nodeId : NodeId) (epochId : EpochId)
    (replicas : List CacheReplica) (c : LocalCache P) :
    Closes time c.admissionRecords
      (installLoop A time nodeId epochId replicas c).admissionRecords := by
  induction replicas generalizing c with
  | nil => exact Closes.refl _ _
  | cons replica rest ih =>
      rw [installLoop]
      split
      · exact ih c
      · split
        · exact Closes.refl _ _
        · split
          · exact ih c
          · refine Closes.trans ?_ (ih _)
            exact Closes.append time c.admissionRecords rfl

theorem closes_admitObject (h : c.Credited) (request : Request) (response : Response)
    (time : SimTime) :
    Closes time c.admissionRecords
      (admitObject A c request response time).1.admissionRecords := by
  rcases admit_cases (A := A) c request response time with
    ⟨reason, victims, heq⟩ | ⟨victims, _, _, -, -, -, heq⟩
  · rw [heq]
    exact Closes.append time c.admissionRecords rfl
  · rw [heq]
    exact (closes_evictAll victims h time).trans (Closes.append time _ rfl)

/-- The operation takes place at `time`. -/
def CacheOp.At (time : SimTime) : CacheOp → Prop
  | .lookup _ _ accessTime => accessTime = time
  | .admitObject _ _ accessTime => accessTime = time
  | .onEpochStart _ _ => True
  | .installReplicas _ installTime _ _ => installTime = time

theorem closes_applyOp (h : c.Credited) {op : CacheOp} (hat : op.At time) :
    Closes time c.admissionRecords (applyOp A c op).admissionRecords := by
  cases op with
  | lookup stats request accessTime =>
      obtain rfl : accessTime = time := hat
      exact closes_lookup h stats request accessTime
  | admitObject request response accessTime =>
      obtain rfl : accessTime = time := hat
      exact closes_admitObject h request response accessTime
  | onEpochStart stats epochId => exact Closes.refl _ _
  | installReplicas replicas installTime nodeId epochId =>
      obtain rfl : installTime = time := hat
      exact (closes_clearEntries h installTime).trans
        (closes_installLoop installTime nodeId epochId replicas _)

/-- Operations that take place at one time. -/
theorem closes_foldl_applyOp (ops : List CacheOp) (h : c.Credited)
    (hat : ∀ op ∈ ops, op.At time) :
    Closes time c.admissionRecords (ops.foldl (applyOp A) c).admissionRecords := by
  induction ops generalizing c with
  | nil => exact Closes.refl _ _
  | cons op ops ih =>
      rw [List.forall_mem_cons] at hat
      exact (closes_applyOp h hat.1).trans (ih (h.applyOp op) hat.2)

end LocalCache

end DmSimulator
