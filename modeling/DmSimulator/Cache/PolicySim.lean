/-
  DmSimulator.Cache.PolicySim

  Two cache policies that make the same decisions.

  A `PolicySim P Q` relates the states of two policies and says that every
  operation keeps them related and decides alike; what an admission may rely on is
  that the object was looked up before in the same epoch (`ready`).  Caches under
  the two policies then mirror each other: they hold the same entries and have
  placed and evicted the same objects, and only the reasons they note may differ.
-/
import DmSimulator.Cache.LocalCache
import Mathlib.Data.List.Forall2

namespace DmSimulator

/-- The same placement or rejection, whatever the reason noted for it. -/
def SamePlacement (r r' : CacheAdmissionRecord) : Prop := ∃ reason, r' = { r with reason := reason }

/-- The same decision with the same score and victims; the labels and what the
    confirmation gate notes may differ. -/
def SameDecision (d d' : PolicyDecisionRecord) : Prop :=
  ∃ reason policyVariant recent required bypassed,
    d' =
      { d with
        reason := reason
        policyVariant := policyVariant
        recentLocalConfirmationCount := recent
        requiredLocalConfirmationCount := required
        localConfirmationBypassed := bypassed }

/-- Policy `P` makes the decisions of policy `Q`. -/
structure PolicySim (P Q : CachePolicy) where
  rel : P.State → Q.State → Prop
  ready : P.State → EpochId → ObjectId → Prop
  init : rel P.init Q.init
  onLookup : ∀ {p q} (stats : Stats) (request : Request) (time : SimTime) (hit : Bool), rel p q →
    rel (P.onLookup stats p request time hit) (Q.onLookup stats q request time hit)
  onEpochStart : ∀ {p q} (stats : Stats) (epochId : EpochId), rel p q →
    rel (P.onEpochStart stats p epochId) (Q.onEpochStart stats q epochId)
  onAccess : ∀ {p q} (entry : CacheEntry) (time : SimTime), rel p q →
    P.onAccess p entry time = Q.onAccess q entry time
  admissionDecision : ∀ {p q} (request : Request) (response : Response), rel p q →
    ready p request.epochId request.objectId →
      (P.admissionDecision p request response).shouldAdmit =
        (Q.admissionDecision q request response).shouldAdmit
  selectVictim : ∀ {p q} (entries : Residents) (request : Request), rel p q →
    P.selectVictim p entries request = Q.selectVictim q entries request
  onAdmissionResult : ∀ {p q} (request : Request) (response : Response) (time : SimTime)
    (admitted : Bool) (reason reason' : String) (victims : List ObjectId), rel p q →
    rel (P.onAdmissionResult p request response time admitted reason victims)
      (Q.onAdmissionResult q request response time admitted reason' victims)
  diagnostics : ∀ {p q}, rel p q →
    List.Forall₂ SameDecision (P.diagnostics p) (Q.diagnostics q)
  ready_onLookup : ∀ {p} (stats : Stats) (request : Request) (time : SimTime) (hit : Bool),
    ready (P.onLookup stats p request time hit) request.epochId request.objectId
  ready_onLookup_other : ∀ {p objectId} (stats : Stats) (request : Request) (time : SimTime)
    (hit : Bool), ready p request.epochId objectId →
      ready (P.onLookup stats p request time hit) request.epochId objectId
  ready_onAdmissionResult : ∀ {p epochId objectId} (request : Request) (response : Response)
    (time : SimTime) (admitted : Bool) (reason : String) (victims : List ObjectId),
    ready p epochId objectId →
      ready (P.onAdmissionResult p request response time admitted reason victims) epochId objectId

theorem SamePlacement.refl (r : CacheAdmissionRecord) : SamePlacement r r := ⟨r.reason, rfl⟩

/-- Updating both records at an index keeps them related. -/
theorem forall₂_modify {α β : Type} {R : α → β → Prop} {f : α → α} {g : β → β}
    (hfg : ∀ a b, R a b → R (f a) (g b)) {l : List α} {l' : List β} (h : List.Forall₂ R l l')
    (i : Nat) : List.Forall₂ R (l.modify i f) (l'.modify i g) := by
  induction h generalizing i with
  | nil =>
      rw [List.modify_nil, List.modify_nil]
      exact .nil
  | @cons a b as bs hab hrest ih =>
      cases i with
      | zero => exact .cons (hfg a b hab) hrest
      | succ i => exact .cons hab (ih i)

namespace LocalCache

variable {P Q : CachePolicy} (A : Arith)

/-- The cache with the state of another policy and other records in place of its
    own. -/
def relabel (c : LocalCache P) (policy : Q.State) (records : List CacheAdmissionRecord) :
    LocalCache Q :=
  { capacityBytes := c.capacityBytes
    occupancyBytes := c.occupancyBytes
    hitCount := c.hitCount
    missCount := c.missCount
    bytesAdmitted := c.bytesAdmitted
    bytesEvicted := c.bytesEvicted
    policy := policy
    entries := c.entries
    admissionRecords := records
    activePlacementByObject := c.activePlacementByObject }

/-- The two caches differ in their policies' states, which are related, and in the
    reasons of their records. -/
structure Mirrors (sim : PolicySim P Q) (c : LocalCache P) (d : LocalCache Q) : Prop where
  relabelled : d = c.relabel d.policy d.admissionRecords
  policy : sim.rel c.policy d.policy
  records : List.Forall₂ SamePlacement c.admissionRecords d.admissionRecords

namespace Mirrors

variable {sim : PolicySim P Q} {c : LocalCache P} {d : LocalCache Q} {A : Arith}

/-- Mirroring caches in terms of the first. -/
theorem exists_relabel (h : Mirrors sim c d) :
    ∃ (policy : Q.State) (records : List CacheAdmissionRecord), d = c.relabel policy records ∧
      sim.rel c.policy policy ∧ List.Forall₂ SamePlacement c.admissionRecords records :=
  ⟨d.policy, d.admissionRecords, h.relabelled, h.policy, h.records⟩

theorem recordHit (h : Mirrors sim c d) (objectId : ObjectId) :
    Mirrors sim (c.recordHit objectId) (d.recordHit objectId) := by
  obtain ⟨policy, records, rfl, hpolicy, hrecords⟩ := h.exists_relabel
  have hactive : (c.relabel policy records).activePlacementByObject =
    c.activePlacementByObject := rfl
  unfold LocalCache.recordHit
  rw [hactive]
  cases c.activePlacementByObject.lookup objectId with
  | none => exact ⟨rfl, hpolicy, hrecords⟩
  | some index =>
      refine ⟨rfl, hpolicy, forall₂_modify (fun r r' hsame => ?_) hrecords index⟩
      obtain ⟨reason, rfl⟩ := hsame
      exact ⟨reason, rfl⟩

theorem recordSuccessfulPlacement (h : Mirrors sim c d) (request : Request) (time : SimTime)
    (reason source : String) (victims : List ObjectId) :
    Mirrors sim (c.recordSuccessfulPlacement request time reason source victims)
      (d.recordSuccessfulPlacement request time reason source victims) := by
  obtain ⟨policy, records, rfl, hpolicy, hrecords⟩ := h.exists_relabel
  refine ⟨?_, hpolicy, List.rel_append hrecords (.cons (SamePlacement.refl _) .nil)⟩
  unfold LocalCache.recordSuccessfulPlacement relabel
  simp only [hrecords.length_eq]

theorem recordRejectedAdmission (h : Mirrors sim c d) (request : Request) (time : SimTime)
    (reason reason' : String) (victims : List ObjectId) :
    Mirrors sim (c.recordRejectedAdmission request time reason victims)
      (d.recordRejectedAdmission request time reason' victims) := by
  obtain ⟨policy, records, rfl, hpolicy, hrecords⟩ := h.exists_relabel
  exact ⟨rfl, hpolicy, List.rel_append hrecords (.cons ⟨reason', rfl⟩ .nil)⟩

theorem closeRecord {records records' : List CacheAdmissionRecord}
    (h : List.Forall₂ SamePlacement records records') (index : Nat) (time : SimTime) :
    List.Forall₂ SamePlacement (LocalCache.closeRecord records index time)
      (LocalCache.closeRecord records' index time) := by
  refine forall₂_modify (fun r r' hsame => ?_) h index
  obtain ⟨reason, rfl⟩ := hsame
  exact ⟨reason, rfl⟩

theorem evict (h : Mirrors sim c d) (objectId : ObjectId) (time : SimTime) :
    Mirrors sim (c.evict A objectId time) (d.evict A objectId time) := by
  obtain ⟨policy, records, rfl, hpolicy, hrecords⟩ := h.exists_relabel
  have hentries : (c.relabel policy records).entries = c.entries := rfl
  have hactive : (c.relabel policy records).activePlacementByObject =
    c.activePlacementByObject := rfl
  unfold LocalCache.evict
  rw [hentries, hactive]
  cases c.entries.find objectId with
  | none => exact ⟨rfl, hpolicy, hrecords⟩
  | some entry =>
      cases c.activePlacementByObject.lookup objectId with
      | none => exact ⟨rfl, hpolicy, hrecords⟩
      | some index => exact ⟨rfl, hpolicy, closeRecord hrecords index time⟩

theorem evictAll (h : Mirrors sim c d) (victims : List ObjectId) (time : SimTime) :
    Mirrors sim (c.evictAll A victims time) (d.evictAll A victims time) := by
  unfold LocalCache.evictAll
  induction victims generalizing c d with
  | nil => exact h
  | cons victim rest ih => exact ih (h.evict victim time)

theorem lookup (h : Mirrors sim c d) (stats : Stats) (request : Request) (time : SimTime) :
    Mirrors sim (c.lookup stats request time).1 (d.lookup stats request time).1 ∧
      (c.lookup stats request time).2 = (d.lookup stats request time).2 := by
  obtain ⟨policy, records, rfl, hpolicy, hrecords⟩ := h.exists_relabel
  have hentries : (c.relabel policy records).entries = c.entries := rfl
  unfold LocalCache.lookup
  rw [hentries]
  cases c.entries.find request.objectId with
  | none => exact ⟨⟨rfl, sim.onLookup stats request time false hpolicy, hrecords⟩, rfl⟩
  | some entry =>
      have hlookup := sim.onLookup stats request time true hpolicy
      have hstored : Mirrors sim
          { c with
            hitCount := c.hitCount + 1
            policy := P.onLookup stats c.policy request time true
            entries := c.entries.insert
              (P.onAccess (P.onLookup stats c.policy request time true) entry time) }
          { c.relabel policy records with
            hitCount := c.hitCount + 1
            policy := Q.onLookup stats policy request time true
            entries := c.entries.insert
              (Q.onAccess (Q.onLookup stats policy request time true) entry time) } := by
        rw [sim.onAccess entry time hlookup]
        exact ⟨rfl, hlookup, hrecords⟩
      exact ⟨hstored.recordHit request.objectId, rfl⟩

theorem place (h : Mirrors sim c d) (request : Request) (time : SimTime) :
    Mirrors sim (c.place A request time) (d.place A request time) := by
  obtain ⟨policy, records, rfl, hpolicy, hrecords⟩ := h.exists_relabel
  have haccess := sim.onAccess
    { objectId := request.objectId
      sizeBytes := request.sizeBytes
      insertTime := time
      lastAccessTime := time } time hpolicy
  have hpolicy' : (c.relabel policy records).policy = policy := rfl
  unfold LocalCache.place
  simp only
  rw [hpolicy', haccess]
  exact ⟨rfl, hpolicy, hrecords⟩

/-- The two caches plan the same victims. -/
theorem planVictims_eq {p : P.State} {q : Q.State} (hrel : sim.rel p q) (capacityBytes : Nat)
    (request : Request) (fuel : Nat) (candidates : Residents) (occupancy : Nat)
    (planned : List ObjectId) :
    LocalCache.planVictims (P := P) A p capacityBytes request fuel candidates occupancy planned =
      LocalCache.planVictims (P := Q) A q capacityBytes request fuel candidates occupancy
        planned := by
  induction fuel generalizing candidates occupancy planned with
  | zero => rfl
  | succ fuel ih =>
      rw [LocalCache.planVictims, LocalCache.planVictims,
        sim.selectVictim candidates request hrel]
      simp only [ih]

theorem recordResult (h : Mirrors sim c d) (request : Request) (response : Response)
    (time : SimTime) (reason reason' : String) (victims : List ObjectId) :
    Mirrors sim (c.recordResult request response time false reason victims).1
      (d.recordResult request response time false reason' victims).1 := by
  obtain ⟨policy, records, rfl, hpolicy, hrecords⟩ := h.exists_relabel
  have hnoted : Mirrors sim
      { c with policy := P.onAdmissionResult c.policy request response time false reason victims }
      { c.relabel policy records with
        policy := Q.onAdmissionResult policy request response time false reason' victims } :=
    ⟨rfl, sim.onAdmissionResult request response time false reason reason' victims hpolicy,
      hrecords⟩
  exact hnoted.recordRejectedAdmission request time reason reason' victims

theorem recordAdmitted (h : Mirrors sim c d) (request : Request) (response : Response)
    (time : SimTime) (reason : String) (victims : List ObjectId) :
    Mirrors sim (c.recordResult request response time true reason victims).1
      (d.recordResult request response time true reason victims).1 := by
  obtain ⟨policy, records, rfl, hpolicy, hrecords⟩ := h.exists_relabel
  have hnoted : Mirrors sim
      { c with policy := P.onAdmissionResult c.policy request response time true reason victims }
      { c.relabel policy records with
        policy := Q.onAdmissionResult policy request response time true reason victims } :=
    ⟨rfl, sim.onAdmissionResult request response time true reason reason victims hpolicy,
      hrecords⟩
  exact hnoted.recordSuccessfulPlacement request time reason "remote_response" victims

/-- An admission of an object that was looked up has the same outcome. -/
theorem admitObject (h : Mirrors sim c d) (request : Request) (response : Response)
    (time : SimTime) (hready : sim.ready c.policy request.epochId request.objectId) :
    Mirrors sim (c.admitObject A request response time).1
      (d.admitObject A request response time).1 := by
  have hdecision := sim.admissionDecision request response h.policy hready
  have hcapacity : d.capacityBytes = c.capacityBytes := by rw [h.relabelled]; rfl
  have hplan : d.victimPlan A request = c.victimPlan A request := by
    obtain ⟨policy, records, rfl, hpolicy, hrecords⟩ := h.exists_relabel
    exact (planVictims_eq hpolicy _ _ _ _ _ _).symm
  unfold LocalCache.admitObject
  simp only
  rw [← hdecision, hcapacity, hplan]
  split
  · exact h.recordResult _ _ _ _ _ _
  split
  · exact h.recordResult _ _ _ _ _ _
  cases c.victimPlan A request with
  | none => exact h
  | some plan =>
      cases plan with
      | rejected reason victims => exact h.recordResult _ _ _ _ _ _
      | planned victims => exact ((h.evictAll victims time).place request time).recordAdmitted ..

theorem onEpochStart (h : Mirrors sim c d) (stats : Stats) (epochId : EpochId) :
    Mirrors sim (c.onEpochStart stats epochId) (d.onEpochStart stats epochId) := by
  obtain ⟨policy, records, rfl, hpolicy, hrecords⟩ := h.exists_relabel
  exact ⟨rfl, sim.onEpochStart stats epochId hpolicy, hrecords⟩

end Mirrors

end LocalCache

end DmSimulator
