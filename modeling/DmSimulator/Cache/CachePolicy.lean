/-
  DmSimulator.Cache.CachePolicy

  The cache policy interface (`cache/cache_policy.hpp`) and the policies of
  `cache/lru_policy.cpp`.

  A policy is a record of the virtual methods over the policy's own state.  The
  methods that may read the statistics get them as an argument.  `onAccess` may
  change the entry it is handed, but no policy re-labels or resizes it; the
  record carries that as two fields.
-/
import DmSimulator.Lib.KeyedStore
import DmSimulator.Metrics.Stats

namespace DmSimulator

structure CacheEntry where
  objectId : ObjectId := 0
  sizeBytes : Nat := 0
  insertTime : SimTime := 0
  lastAccessTime : SimTime := 0
deriving DecidableEq, Repr

/-- The entry table of a cache; an entry is stored under its own object id. -/
abbrev Residents : Type := KeyedStore CacheEntry.objectId

structure ContentionScoreComponents where
  localHotness : Rat := 0
  remoteAccesses : Rat := 0
  distinctRequesters : Rat := 0
  queueWait : Rat := 0
  remoteServiceTime : Rat := 0
  costDensity : Rat := 0
  costPerCacheByte : Rat := 0
  sizePenalty : Rat := 0
  totalScore : Rat := 0
deriving DecidableEq

structure PolicyDecisionRecord where
  nodeId : NodeId := 0
  epochId : EpochId := 0
  requestId : RequestId := kInvalidRequestId
  objectId : ObjectId := 0
  admitted : Bool := false
  reason : String := ""
  policyVariant : String := ""
  score : ContentionScoreComponents := {}
  recentLocalConfirmationCount : Nat := 0
  requiredLocalConfirmationCount : Nat := 0
  localConfirmationBypassed : Bool := false
  evictedObjects : List ObjectId := []
deriving DecidableEq

structure AdmissionDecision where
  shouldAdmit : Bool := false
  reason : String := "policy_rejected"
deriving DecidableEq, Repr

structure CachePolicy where
  State : Type
  init : State
  onLookup : Stats → State → Request → SimTime → Bool → State
  onEpochStart : Stats → State → EpochId → State
  onAccess : State → CacheEntry → SimTime → CacheEntry
  shouldAdmit : State → Request → Response → Bool
  admissionDecision : State → Request → Response → AdmissionDecision
  selectVictim : State → Residents → Request → Option ObjectId
  onAdmissionResult :
    State → Request → Response → SimTime → Bool → String → List ObjectId → State
  diagnostics : State → List PolicyDecisionRecord
  onAccess_objectId : ∀ s e t, (onAccess s e t).objectId = e.objectId
  onAccess_sizeBytes : ∀ s e t, (onAccess s e t).sizeBytes = e.sizeBytes

attribute [simp] CachePolicy.onAccess_objectId CachePolicy.onAccess_sizeBytes

namespace CachePolicy

/-- The base class turns the boolean verdict into a decision. -/
def decisionOf (accept : Bool) : AdmissionDecision :=
  if accept then { shouldAdmit := true, reason := "admitted" }
  else { shouldAdmit := false, reason := "policy_rejected" }

@[simp] theorem decisionOf_shouldAdmit (accept : Bool) :
    (decisionOf accept).shouldAdmit = accept := by
  cases accept <;> rfl

end CachePolicy

/-- The victim loops: start at the first entry and move to every entry that
    `better` prefers to the current choice. -/
def scanEntries (better : CacheEntry → CacheEntry → Bool) (entries : Residents) :
    Option CacheEntry :=
  match entries.items with
  | [] => none
  | first :: rest =>
      some ((first :: rest).foldl (fun best entry => if better entry best then entry else best)
        first)

/-- Stamp the access time on an entry. -/
def CacheEntry.touch (entry : CacheEntry) (accessTime : SimTime) : CacheEntry :=
  { entry with lastAccessTime := accessTime }

@[simp] theorem CacheEntry.touch_objectId (entry : CacheEntry) (accessTime : SimTime) :
    (entry.touch accessTime).objectId = entry.objectId := rfl

@[simp] theorem CacheEntry.touch_sizeBytes (entry : CacheEntry) (accessTime : SimTime) :
    (entry.touch accessTime).sizeBytes = entry.sizeBytes := rfl

@[simp] theorem CacheEntry.touch_lastAccessTime (entry : CacheEntry) (accessTime : SimTime) :
    (entry.touch accessTime).lastAccessTime = accessTime := rfl

-- ============================================================================
-- AlwaysRemotePolicy
-- ============================================================================

def AlwaysRemotePolicy : CachePolicy where
  State := Unit
  init := ()
  onLookup _ s _ _ _ := s
  onEpochStart _ s _ := s
  onAccess _ entry _ := entry
  shouldAdmit _ _ _ := false
  admissionDecision _ _ _ := CachePolicy.decisionOf false
  selectVictim _ _ _ := none
  onAdmissionResult s _ _ _ _ _ _ := s
  diagnostics _ := []
  onAccess_objectId _ _ _ := rfl
  onAccess_sizeBytes _ _ _ := rfl

-- ============================================================================
-- LruPolicy
-- ============================================================================

namespace LruPolicy

/-- The scan of `LruPolicy::select_victim` moves from `oldest` to `entry`. -/
def older (entry oldest : CacheEntry) : Bool :=
  if entry.lastAccessTime < oldest.lastAccessTime then true
  else entry.lastAccessTime = oldest.lastAccessTime && entry.objectId < oldest.objectId

def selectVictim (entries : Residents) : Option ObjectId :=
  (scanEntries older entries).map CacheEntry.objectId

end LruPolicy

def LruPolicy : CachePolicy where
  State := Unit
  init := ()
  onLookup _ s _ _ _ := s
  onEpochStart _ s _ := s
  onAccess _ entry accessTime := entry.touch accessTime
  shouldAdmit _ _ _ := true
  admissionDecision _ _ _ := CachePolicy.decisionOf true
  selectVictim _ entries _ := LruPolicy.selectVictim entries
  onAdmissionResult s _ _ _ _ _ _ := s
  diagnostics _ := []
  onAccess_objectId _ := CacheEntry.touch_objectId
  onAccess_sizeBytes _ := CacheEntry.touch_sizeBytes

end DmSimulator
