/-
  DmSimulator.Cache.Columns

  Columns of the lifecycle records.

  Evictions close records and hits credit them, and nothing else writes a record
  that exists, so a column that leaves out these fields only grows: by one row
  with every admission attempt and with every replica that is installed.
-/
import DmSimulator.Cache.Capacity

namespace DmSimulator

namespace LocalCache

variable {P : CachePolicy} {A : Arith} {β : Type} {column : CacheAdmissionRecord → β}

/-- Closing a record does not write the column. -/
def KeptByEviction (column : CacheAdmissionRecord → β) : Prop :=
  ∀ record time, column { record with evicted := true, evictionTime := time } = column record

/-- Crediting a record does not write the column. -/
def KeptByHits (column : CacheAdmissionRecord → β) : Prop :=
  ∀ record hits, column { record with futureHitCount := hits, reusedAfterAdmit := true } =
    column record

theorem map_closeRecord (h : KeptByEviction column) (records : List CacheAdmissionRecord)
    (index : Nat) (time : SimTime) :
    (closeRecord records index time).map column = records.map column :=
  map_modify_self column fun record => h record time

theorem map_evict (h : KeptByEviction column) (c : LocalCache P) (objectId : ObjectId)
    (time : SimTime) :
    (evict A c objectId time).admissionRecords.map column = c.admissionRecords.map column := by
  unfold evict
  cases c.entries.find objectId with
  | none => rfl
  | some entry =>
      simp only
      cases c.activePlacementByObject.lookup objectId with
      | none => rfl
      | some index => exact map_closeRecord h c.admissionRecords index time

theorem map_evictAll (h : KeptByEviction column) (victims : List ObjectId) (c : LocalCache P)
    (time : SimTime) :
    (evictAll A c victims time).admissionRecords.map column = c.admissionRecords.map column := by
  induction victims generalizing c with
  | nil => rfl
  | cons victim victims ih => rw [evictAll_cons, ih, map_evict h]

theorem map_clearEntries (h : KeptByEviction column) (c : LocalCache P) (time : SimTime) :
    (clearEntries A c time).admissionRecords.map column = c.admissionRecords.map column := by
  have hfold : ∀ (entries : List CacheEntry) (c : LocalCache P),
      (entries.foldl (fun c entry => clearEntry A c entry time) c).admissionRecords.map column =
        c.admissionRecords.map column := by
    intro entries
    induction entries with
    | nil => exact fun c => rfl
    | cons entry entries ih =>
        intro c
        rw [List.foldl_cons, ih, clearEntry]
        cases c.activePlacementByObject.lookup entry.objectId with
        | none => rfl
        | some index => exact map_closeRecord h c.admissionRecords index time
  exact hfold c.entries.items c

theorem map_recordHit (h : KeptByHits column) (c : LocalCache P) (objectId : ObjectId) :
    (c.recordHit objectId).admissionRecords.map column = c.admissionRecords.map column := by
  unfold recordHit
  cases c.activePlacementByObject.lookup objectId with
  | none => rfl
  | some index => exact map_modify_self column fun record => h record _

theorem map_lookup (h : KeptByHits column) (c : LocalCache P) (stats : Stats) (request : Request)
    (time : SimTime) :
    (lookup stats c request time).1.admissionRecords.map column =
      c.admissionRecords.map column := by
  unfold lookup
  cases c.entries.find request.objectId with
  | none => rfl
  | some entry => exact map_recordHit h _ _

end LocalCache

end DmSimulator
