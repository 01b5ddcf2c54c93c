/-
  DmSimulator.Cache.LocalCache

  The private cache of a compute node (`cache/local_cache.cpp`): a store of
  entries under a byte capacity, driven by a cache policy, with one lifecycle
  record per placement and per rejected admission.

  Byte counters go through `Arith`.  The victim-planning loop of `admit` runs on
  fuel; `planVictims_isSome` shows that the fuel `admit` gives it is enough.
-/
import DmSimulator.Cache.CachePolicy

namespace DmSimulator

structure CacheReplica where
  objectId : ObjectId := 0
  sizeBytes : Nat := 0
deriving DecidableEq, Repr

abbrev GlobalReplicaPlan : Type := UnorderedMap EpochId (List CacheReplica)

structure CacheAdmissionRecord where
  nodeId : NodeId := 0
  epochId : EpochId := 0
  requestId : RequestId := kInvalidRequestId
  objectId : ObjectId := 0
  time : SimTime := 0
  admitted : Bool := false
  reason : String := ""
  placementSource : String := ""
  sizeBytes : Nat := 0
  futureHitCount : Nat := 0
  reusedAfterAdmit : Bool := false
  evicted : Bool := false
  evictionTime : SimTime := 0
  evictedObjects : List ObjectId := []
deriving DecidableEq, Repr

structure LocalCache (P : CachePolicy) where
  capacityBytes : Nat
  occupancyBytes : Nat := 0
  hitCount : Nat := 0
  missCount : Nat := 0
  bytesAdmitted : Nat := 0
  bytesEvicted : Nat := 0
  policy : P.State := P.init
  entries : Residents := KeyedStore.empty
  admissionRecords : List CacheAdmissionRecord := []
  activePlacementByObject : UnorderedMap ObjectId Nat := ∅

/-- How the planning loop of `admit` ends: with the victims to evict, or with a
    rejection reason and the victims planned so far. -/
inductive VictimPlan
  | planned (victims : List ObjectId)
  | rejected (reason : String) (victims : List ObjectId)
deriving DecidableEq, Repr

namespace LocalCache

variable {P : CachePolicy} (A : Arith)

-- ============================================================================
-- Lifecycle records
-- ============================================================================

/-- Mark the record at an index as evicted. -/
def closeRecord (records : List CacheAdmissionRecord) (index : Nat) (evictionTime : SimTime) :
    List CacheAdmissionRecord :=
  records.modify index (fun record => { record with evicted := true, evictionTime := evictionTime })

def recordHit (c : LocalCache P) (objectId : ObjectId) : LocalCache P :=
  match c.activePlacementByObject.lookup objectId with
  | none => c
  | some index =>
      { c with
        admissionRecords := c.admissionRecords.modify index (fun record =>
          { record with
            futureHitCount := record.futureHitCount + 1
            reusedAfterAdmit := true }) }

def recordSuccessfulPlacement (c : LocalCache P) (request : Request) (placementTime : SimTime)
    (reason : String) (placementSource : String) (evictedObjects : List ObjectId) :
    LocalCache P :=
  let record : CacheAdmissionRecord :=
    { nodeId := request.sourceNodeId
      epochId := request.epochId
      requestId := request.requestId
      objectId := request.objectId
      time := placementTime
      admitted := true
      reason := reason
      placementSource := placementSource
      sizeBytes := request.sizeBytes
      evictedObjects := evictedObjects }
  { c with
    admissionRecords := c.admissionRecords ++ [record]
    activePlacementByObject :=
      c.activePlacementByObject.insert request.objectId c.admissionRecords.length }

def recordSuccessfulReplica (c : LocalCache P) (nodeId : NodeId) (epochId : EpochId)
    (objectId : ObjectId) (sizeBytes : Nat) (placementTime : SimTime) : LocalCache P :=
  let record : CacheAdmissionRecord :=
    { nodeId := nodeId
      epochId := epochId
      requestId := kInvalidRequestId
      objectId := objectId
      time := placementTime
      admitted := true
      reason := "replica_installed"
      placementSource := "global_replica"
      sizeBytes := sizeBytes }
  { c with
    admissionRecords := c.admissionRecords ++ [record]
    activePlacementByObject :=
      c.activePlacementByObject.insert objectId c.admissionRecords.length }

def recordRejectedAdmission (c : LocalCache P) (request : Request) (attemptTime : SimTime)
    (reason : String) (evictedObjects : List ObjectId) : LocalCache P :=
  let record : CacheAdmissionRecord :=
    { nodeId := request.sourceNodeId
      epochId := request.epochId
      requestId := request.requestId
      objectId := request.objectId
      time := attemptTime
      admitted := false
      reason := reason
      placementSource := "remote_response"
      sizeBytes := request.sizeBytes
      evictedObjects := evictedObjects }
  { c with admissionRecords := c.admissionRecords ++ [record] }

-- ============================================================================
-- Eviction
-- ============================================================================

def evict (c : LocalCache P) (objectId : ObjectId) (evictionTime : SimTime) : LocalCache P :=
  match c.entries.find objectId with
  | none => c
  | some entry =>
      let c :=
        match c.activePlacementByObject.lookup objectId with
        | none => c
        | some index =>
            { c with
              admissionRecords := closeRecord c.admissionRecords index evictionTime
              activePlacementByObject := c.activePlacementByObject.erase objectId }
      { c with
        occupancyBytes := A.sub c.occupancyBytes entry.sizeBytes
        bytesEvicted := A.add c.bytesEvicted entry.sizeBytes
        entries := c.entries.erase objectId }

/-- The loop body of `clear_entries` for one resident. -/
def clearEntry (c : LocalCache P) (entry : CacheEntry) (evictionTime : SimTime) : LocalCache P :=
  { c with
    admissionRecords :=
      match c.activePlacementByObject.lookup entry.objectId with
      | none => c.admissionRecords
      | some index => closeRecord c.admissionRecords index evictionTime
    bytesEvicted := A.add c.bytesEvicted entry.sizeBytes }

def clearEntries (c : LocalCache P) (evictionTime : SimTime) : LocalCache P :=
  let c := c.entries.items.foldl (fun c entry => clearEntry A c entry evictionTime) c
  { c with
    entries := KeyedStore.empty
    activePlacementByObject := ∅
    occupancyBytes := 0 }

-- ============================================================================
-- Lookup
-- ============================================================================

def lookup (stats : Stats) (c : LocalCache P) (request : Request) (accessTime : SimTime) :
    LocalCache P × Bool :=
  match c.entries.find request.objectId with
  | none =>
      ({ c with
          missCount := c.missCount + 1
          policy := P.onLookup stats c.policy request accessTime false }, false)
  | some entry =>
      let policy := P.onLookup stats c.policy request accessTime true
      let c :=
        { c with
          hitCount := c.hitCount + 1
          policy := policy
          entries := c.entries.insert (P.onAccess policy entry accessTime) }
      (c.recordHit request.objectId, true)

/-- The overload that looks up a bare object id. -/
def lookupObject (stats : Stats) (c : LocalCache P) (objectId : ObjectId)
    (accessTime : SimTime) : LocalCache P × Bool :=
  lookup stats c { objectId := objectId } accessTime

-- ============================================================================
-- Admission
-- ============================================================================

/-- The `record_result` closure of `admit`. -/
def recordResult (c : LocalCache P) (request : Request) (response : Response)
    (accessTime : SimTime) (admitted : Bool) (reason : String)
    (plannedVictims : List ObjectId) : LocalCache P × Bool :=
  let c :=
    { c with
      policy := P.onAdmissionResult c.policy request response accessTime admitted reason
        plannedVictims }
  if admitted then
    (c.recordSuccessfulPlacement request accessTime reason "remote_response" plannedVictims,
      admitted)
  else
    (c.recordRejectedAdmission request accessTime reason plannedVictims, admitted)

/-- The planning loop of `admit` on its copy of the entries.  `none` means that
    the fuel ran out. -/
def planVictims (policy : P.State) (capacityBytes : Nat) (request : Request) :
    Nat → Residents → Nat → List ObjectId → Option VictimPlan
  | 0, _, _, _ => none
  | fuel + 1, candidateEntries, projectedOccupancy, plannedVictims =>
      if A.add projectedOccupancy request.sizeBytes > capacityBytes then
        match P.selectVictim policy candidateEntries request with
        | none => some (.rejected "no_victim" plannedVictims)
        | some victim =>
            match candidateEntries.find victim with
            | none => some (.rejected "invalid_victim" plannedVictims)
            | some entry =>
                planVictims policy capacityBytes request fuel (candidateEntries.erase victim)
                  (A.sub projectedOccupancy entry.sizeBytes) (plannedVictims ++ [victim])
      else some (.planned plannedVictims)

/-- The plan `admit` makes in the current state of the cache. -/
def victimPlan (c : LocalCache P) (request : Request) : Option VictimPlan :=
  planVictims A c.policy c.capacityBytes request (c.entries.items.length + 1) c.entries
    c.occupancyBytes []

/-- Evict the planned victims, in order. -/
def evictAll (c : LocalCache P) (victims : List ObjectId) (accessTime : SimTime) :
    LocalCache P :=
  victims.foldl (fun c victim => evict A c victim accessTime) c

/-- Store the incoming object. -/
def place (c : LocalCache P) (request : Request) (accessTime : SimTime) : LocalCache P :=
  let entry : CacheEntry :=
    { objectId := request.objectId
      sizeBytes := request.sizeBytes
      insertTime := accessTime
      lastAccessTime := accessTime }
  let entry := P.onAccess c.policy entry accessTime
  { c with
    occupancyBytes := A.add c.occupancyBytes entry.sizeBytes
    bytesAdmitted := A.add c.bytesAdmitted entry.sizeBytes
    entries := c.entries.insert entry }

def admitObject (c : LocalCache P) (request : Request) (response : Response) (accessTime : SimTime) :
    LocalCache P × Bool :=
  let decision := P.admissionDecision c.policy request response
  if ¬ decision.shouldAdmit then
    c.recordResult request response accessTime false decision.reason []
  else if request.sizeBytes > c.capacityBytes then
    c.recordResult request response accessTime false "object_too_large" []
  else
    match victimPlan A c request with
    | none => (c, false)
    | some (.rejected reason plannedVictims) =>
        c.recordResult request response accessTime false reason plannedVictims
    | some (.planned plannedVictims) =>
        let c := place A (evictAll A c plannedVictims accessTime) request accessTime
        c.recordResult request response accessTime true "admitted" plannedVictims

-- ============================================================================
-- Epochs and replicas
-- ============================================================================

def onEpochStart (stats : Stats) (c : LocalCache P) (epochId : EpochId) : LocalCache P :=
  { c with policy := P.onEpochStart stats c.policy epochId }

/-- The loop of `install_replicas`: oversized replicas are skipped, the first
    that does not fit ends the loop, and residents are not stored twice. -/
def installLoop (installTime : SimTime) (nodeId : NodeId) (epochId : EpochId) :
    List CacheReplica → LocalCache P → LocalCache P
  | [], c => c
  | replica :: rest, c =>
      if replica.sizeBytes > c.capacityBytes then
        installLoop installTime nodeId epochId rest c
      else if A.add c.occupancyBytes replica.sizeBytes > c.capacityBytes then c
      else if (c.entries.find replica.objectId).isSome then
        installLoop installTime nodeId epochId rest c
      else
        let entry : CacheEntry :=
          { objectId := replica.objectId
            sizeBytes := replica.sizeBytes
            insertTime := installTime
            lastAccessTime := installTime }
        let c :=
          { c with
            occupancyBytes := A.add c.occupancyBytes entry.sizeBytes
            bytesAdmitted := A.add c.bytesAdmitted entry.sizeBytes
            entries := c.entries.insert entry }
        installLoop installTime nodeId epochId rest
          (c.recordSuccessfulReplica nodeId epochId replica.objectId replica.sizeBytes
            installTime)

def installReplicas (c : LocalCache P) (replicas : List CacheReplica) (installTime : SimTime)
    (nodeId : NodeId) (epochId : EpochId) : LocalCache P :=
  installLoop A installTime nodeId epochId replicas (clearEntries A c installTime)

def contains (c : LocalCache P) (objectId : ObjectId) : Bool := c.entries.contains objectId

end LocalCache

end DmSimulator
