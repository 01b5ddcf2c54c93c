/-
  DmSimulator.Cache.HotnessPolicy

  `HotnessOnlyPolicy` and `GlobalHottestReplicationPolicy`
  (`cache/hotness_policy.cpp`).
-/
import DmSimulator.Cache.CachePolicy
import DmSimulator.Sim.Config

namespace DmSimulator

structure HotnessState where
  accessCounts : UnorderedMap ObjectId Nat := ∅
  epochAccessCounts : UnorderedMap EpochId (UnorderedMap ObjectId Nat) := ∅

/-- `++counts[key]`. -/
def bumpCount (counts : UnorderedMap ObjectId Nat) (key : ObjectId) :
    UnorderedMap ObjectId Nat :=
  counts.insert key (counts.getD key 0 + 1)

/-- The count of a key, zero if the key is absent. -/
def countOf (counts : UnorderedMap ObjectId Nat) (key : ObjectId) : Nat :=
  match counts.lookup key with
  | none => 0
  | some count => count

/-- Take the counts of a closed epoch out of the aggregate counts; a count that
    would reach zero is erased. -/
def subtractCounts (totals epochCounts : UnorderedMap ObjectId Nat) :
    UnorderedMap ObjectId Nat :=
  epochCounts.entries.foldl
    (fun totals entry =>
      match totals.lookup entry.1 with
      | none => totals
      | some total =>
          if total ≤ entry.2 then totals.erase entry.1
          else totals.insert entry.1 (total - entry.2))
    totals

namespace HotnessOnlyPolicy

variable (A : Arith) (config : HotnessPolicyConfig)

def onLookup (s : HotnessState) (request : Request) : HotnessState :=
  let s := { s with accessCounts := bumpCount s.accessCounts request.objectId }
  if config.historyMode = .windowed then
    { s with
      epochAccessCounts := s.epochAccessCounts.insert request.epochId
        (bumpCount (s.epochAccessCounts.getD request.epochId ∅) request.objectId) }
  else s

def countFor (s : HotnessState) (objectId : ObjectId) : Nat :=
  countOf s.accessCounts objectId

def pruneWindow (s : HotnessState) (epochId : EpochId) : HotnessState :=
  let epochsToRemove :=
    s.epochAccessCounts.keys.filter
      (fun epoch => A.add epoch config.historyWindowEpochs ≤ epochId)
  epochsToRemove.foldl
    (fun s oldEpoch =>
      { accessCounts := subtractCounts s.accessCounts (s.epochAccessCounts.getD oldEpoch ∅)
        epochAccessCounts := s.epochAccessCounts.erase oldEpoch })
    s

def onEpochStart (s : HotnessState) (epochId : EpochId) : HotnessState :=
  match config.historyMode with
  | .epoch => { accessCounts := ∅, epochAccessCounts := ∅ }
  | .windowed => pruneWindow A config s epochId
  | .cumulative => s

def shouldAdmit (s : HotnessState) (request : Request) : Bool :=
  countFor s request.objectId ≥ config.minAdmitCount

/-- The scan of `HotnessOnlyPolicy::select_victim` moves from `coldest` to `entry`. -/
def colder (s : HotnessState) (entry coldest : CacheEntry) : Bool :=
  if countFor s entry.objectId < countFor s coldest.objectId then true
  else if countFor s entry.objectId = countFor s coldest.objectId &&
      entry.lastAccessTime < coldest.lastAccessTime then true
  else countFor s entry.objectId = countFor s coldest.objectId &&
      entry.lastAccessTime = coldest.lastAccessTime && entry.objectId < coldest.objectId

def selectVictim (s : HotnessState) (entries : Residents) (incomingRequest : Request) :
    Option ObjectId :=
  match scanEntries (colder s) entries with
  | none => none
  | some coldest =>
      if countFor s incomingRequest.objectId ≤ countFor s coldest.objectId then none
      else some coldest.objectId

end HotnessOnlyPolicy

def HotnessOnlyPolicy (A : Arith) (config : HotnessPolicyConfig) : CachePolicy where
  State := HotnessState
  init := {}
  onLookup _ s request _ _ := HotnessOnlyPolicy.onLookup config s request
  onEpochStart _ s epochId := HotnessOnlyPolicy.onEpochStart A config s epochId
  onAccess _ entry accessTime := entry.touch accessTime
  shouldAdmit s request _ := HotnessOnlyPolicy.shouldAdmit config s request
  admissionDecision s request _ :=
    CachePolicy.decisionOf (HotnessOnlyPolicy.shouldAdmit config s request)
  selectVictim := HotnessOnlyPolicy.selectVictim
  onAdmissionResult s _ _ _ _ _ _ := s
  diagnostics _ := []
  onAccess_objectId _ := CacheEntry.touch_objectId
  onAccess_sizeBytes _ := CacheEntry.touch_sizeBytes

def GlobalHottestReplicationPolicy : CachePolicy where
  State := Unit
  init := ()
  onLookup _ s _ _ _ := s
  onEpochStart _ s _ := s
  onAccess _ entry accessTime := entry.touch accessTime
  shouldAdmit _ _ _ := false
  admissionDecision _ _ _ := CachePolicy.decisionOf false
  selectVictim _ _ _ := none
  onAdmissionResult s _ _ _ _ _ _ := s
  diagnostics _ := []
  onAccess_objectId _ := CacheEntry.touch_objectId
  onAccess_sizeBytes _ := CacheEntry.touch_sizeBytes

end DmSimulator
