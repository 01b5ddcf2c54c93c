/-
  DmSimulator.Cache.Noninterference

  One cache that serves the same accesses at other times.

  A policy is `Private` if it looks at nothing but the accesses of its own cache,
  and at their times only to compare the residents.  Two caches under such a
  policy stay alike as long as the times of their accesses compare alike, which
  they do if they agree on which consecutive accesses carry the same time
  (`TiedAlike`).
-/
import DmSimulator.Cache.Recency

namespace DmSimulator

open Recency

/-- What a request asks for. -/
structure Demand where
  objectId : ObjectId
  sizeBytes : Nat
  epochId : EpochId
deriving DecidableEq, Repr

def Request.demand (request : Request) : Demand :=
  { objectId := request.objectId, sizeBytes := request.sizeBytes, epochId := request.epochId }

theorem Request.demand_eq_iff {request request' : Request} :
    request.demand = request'.demand ↔ request.objectId = request'.objectId ∧
      request.sizeBytes = request'.sizeBytes ∧ request.epochId = request'.epochId :=
  Demand.mk.injEq _ _ _ _ _ _ ▸ Iff.rfl

/-- Two entries for the same object whose times are a pair of the two logs. -/
structure CacheEntry.Alike (pairs : List (SimTime × SimTime)) (entry entry' : CacheEntry) :
    Prop where
  objectId : entry.objectId = entry'.objectId
  sizeBytes : entry.sizeBytes = entry'.sizeBytes
  times : (entry.lastAccessTime, entry'.lastAccessTime) ∈ pairs

theorem CacheEntry.Alike.mono {pairs pairs' : List (SimTime × SimTime)}
    (hsub : ∀ p ∈ pairs, p ∈ pairs') {entry entry' : CacheEntry} (h : entry.Alike pairs entry') :
    entry.Alike pairs' entry' :=
  ⟨h.objectId, h.sizeBytes, hsub _ h.times⟩

-- ============================================================================
-- Private policies
-- ============================================================================

/-- The policy reads neither the statistics, nor the clock, nor who asks; it stamps accesses
    on the residents and compares these stamps when it selects a victim. -/
structure CachePolicy.Private (P : CachePolicy) : Prop where
  stamps : P.Stamps
  onLookup : ∀ (stats stats' : Stats) (s : P.State) {request request' : Request}
    (time time' : SimTime) (hit : Bool), request.demand = request'.demand →
    P.onLookup stats s request time hit = P.onLookup stats' s request' time' hit
  onEpochStart : ∀ (stats stats' : Stats) (s : P.State) (epochId : EpochId),
    P.onEpochStart stats s epochId = P.onEpochStart stats' s epochId
  admissionDecision : ∀ (s : P.State) {request request' : Request} (response response' : Response),
    request.demand = request'.demand →
    P.admissionDecision s request response = P.admissionDecision s request' response'
  onAdmissionResult : ∀ (s : P.State) (request : Request) (response : Response) (time : SimTime)
    (admitted : Bool) (reason : String) (victims : List ObjectId),
    P.onAdmissionResult s request response time admitted reason victims = s
  selectVictim : ∀ (s : P.State) {request request' : Request} {entries entries' : Residents}
    {pairs : List (SimTime × SimTime)}, request.demand = request'.demand → TiedAlike pairs →
    entries.Related (CacheEntry.Alike pairs) entries' →
    P.selectVictim s entries request = P.selectVictim s entries' request'

/-- Two scans that prefer alike choose alike. -/
theorem scanEntries_related {R : CacheEntry → CacheEntry → Prop}
    {better better' : CacheEntry → CacheEntry → Bool}
    (hbetter : ∀ a a' b b', R a a' → R b b' → better a b = better' a' b')
    {entries entries' : Residents} (h : entries.Related R entries') :
    (scanEntries better entries = none ∧ scanEntries better' entries' = none) ∨
      ∃ v v', scanEntries better entries = some v ∧ scanEntries better' entries' = some v' ∧
        R v v' := by
  have hfold : ∀ {rest rest' : List CacheEntry}, List.Forall₂ R rest rest' → ∀ best best',
      R best best' →
      R (rest.foldl (fun best entry => if better entry best then entry else best) best)
        (rest'.foldl (fun best entry => if better' entry best then entry else best) best') := by
    intro rest rest' hrest
    induction hrest with
    | nil => exact fun _ _ hbest => hbest
    | @cons entry entry' rest rest' hentry _ ih =>
        intro best best' hbest
        rw [List.foldl_cons, List.foldl_cons]
        apply ih
        rw [hbetter entry entry' best best' hentry hbest]
        split
        · exact hentry
        · exact hbest
  unfold KeyedStore.Related at h
  unfold scanEntries
  revert h
  generalize entries.items = items
  generalize entries'.items = items'
  intro h
  cases h with
  | nil => exact Or.inl ⟨rfl, rfl⟩
  | @cons first first' rest rest' hfirst hrest =>
      exact Or.inr ⟨_, _, rfl, rfl, hfold (.cons hfirst hrest) first first' hfirst⟩

/-- Alike entries compare alike by time and object id. -/
theorem CacheEntry.Alike.compare {pairs : List (SimTime × SimTime)} (hpairs : TiedAlike pairs)
    {a a' b b' : CacheEntry} (ha : a.Alike pairs a') (hb : b.Alike pairs b') :
    (a.lastAccessTime < b.lastAccessTime ↔ a'.lastAccessTime < b'.lastAccessTime) ∧
      (a.lastAccessTime = b.lastAccessTime ↔ a'.lastAccessTime = b'.lastAccessTime) :=
  hpairs.compare ha.times hb.times

theorem LruPolicy.isPrivate : LruPolicy.Private := by
  refine ⟨LruPolicy.stamps, fun _ _ _ _ _ _ _ _ _ => rfl, fun _ _ _ _ => rfl,
    fun _ _ _ _ _ _ => rfl, fun _ _ _ _ _ _ _ => rfl, ?_⟩
  intro s request request' entries entries' pairs hdemand hpairs hentries
  have holder : ∀ a a' b b', CacheEntry.Alike pairs a a' → CacheEntry.Alike pairs b b' →
      LruPolicy.older a b = LruPolicy.older a' b' := by
    intro a a' b b' ha hb
    obtain ⟨hlt, heq⟩ := ha.compare hpairs hb
    simp only [LruPolicy.older, hlt, heq, ha.objectId, hb.objectId]
  show LruPolicy.selectVictim entries = LruPolicy.selectVictim entries'
  unfold LruPolicy.selectVictim
  rcases scanEntries_related holder hentries with ⟨hnone, hnone'⟩ | ⟨v, v', hv, hv', halike⟩
  · rw [hnone, hnone']
  · rw [hv, hv', Option.map_some, Option.map_some, halike.objectId]

theorem HotnessOnlyPolicy.isPrivate (A : Arith) (config : HotnessPolicyConfig) :
    (HotnessOnlyPolicy A config).Private := by
  refine ⟨fun _ _ _ => rfl, ?_, fun _ _ _ _ => rfl, ?_, fun _ _ _ _ _ _ _ => rfl, ?_⟩
  · intro stats stats' s request request' time time' hit hdemand
    show HotnessOnlyPolicy.onLookup config s request = HotnessOnlyPolicy.onLookup config s request'
    obtain ⟨hobject, -, hepoch⟩ := Request.demand_eq_iff.mp hdemand
    unfold HotnessOnlyPolicy.onLookup
    rw [hobject, hepoch]
  · intro s request request' response response' hdemand
    show CachePolicy.decisionOf (HotnessOnlyPolicy.shouldAdmit config s request) =
      CachePolicy.decisionOf (HotnessOnlyPolicy.shouldAdmit config s request')
    unfold HotnessOnlyPolicy.shouldAdmit
    rw [(Request.demand_eq_iff.mp hdemand).1]
  · intro s request request' entries entries' pairs hdemand hpairs hentries
    have hcolder : ∀ a a' b b', CacheEntry.Alike pairs a a' → CacheEntry.Alike pairs b b' →
        HotnessOnlyPolicy.colder s a b = HotnessOnlyPolicy.colder s a' b' := by
      intro a a' b b' ha hb
      obtain ⟨hlt, heq⟩ := ha.compare hpairs hb
      simp only [HotnessOnlyPolicy.colder, hlt, heq, ha.objectId, hb.objectId]
    show HotnessOnlyPolicy.selectVictim s entries request =
      HotnessOnlyPolicy.selectVictim s entries' request'
    unfold HotnessOnlyPolicy.selectVictim
    rcases scanEntries_related hcolder hentries with ⟨hnone, hnone'⟩ | ⟨v, v', hv, hv', halike⟩
    · rw [hnone, hnone']
    · obtain ⟨hobject, -, -⟩ := Request.demand_eq_iff.mp hdemand
      rw [hv, hv']
      simp only [halike.objectId, hobject]

-- ============================================================================
-- Alike caches
-- ============================================================================

namespace LocalCache

variable {P : CachePolicy} {A : Arith} {pairs pairs' : List (SimTime × SimTime)}
  {c c' : LocalCache P} {request request' : Request}

/-- Two caches that hold the same objects, each with a pair of times of the two logs, and
    whose policies have learned the same. -/
structure Alike (pairs : List (SimTime × SimTime)) (c c' : LocalCache P) : Prop where
  policy : c.policy = c'.policy
  capacityBytes : c.capacityBytes = c'.capacityBytes
  occupancyBytes : c.occupancyBytes = c'.occupancyBytes
  entries : c.entries.Related (CacheEntry.Alike pairs) c'.entries

theorem alike_objectId {entry entry' : CacheEntry} (h : entry.Alike pairs entry') :
    entry.objectId = entry'.objectId := h.objectId

theorem alike_init (P : CachePolicy) (capacityBytes : Nat) :
    Alike (P := P) [] { capacityBytes := capacityBytes } { capacityBytes := capacityBytes } :=
  ⟨rfl, rfl, rfl, List.Forall₂.nil⟩

theorem Alike.mono (h : Alike pairs c c') (hsub : ∀ p ∈ pairs, p ∈ pairs') :
    Alike pairs' c c' :=
  ⟨h.policy, h.capacityBytes, h.occupancyBytes,
    List.Forall₂.imp (fun _ _ halike => halike.mono hsub) h.entries⟩

theorem Alike.onEpochStart (hP : P.Private) (h : Alike pairs c c') (stats stats' : Stats)
    (epochId : EpochId) :
    Alike pairs (c.onEpochStart stats epochId) (c'.onEpochStart stats' epochId) := by
  refine ⟨?_, h.capacityBytes, h.occupancyBytes, h.entries⟩
  show P.onEpochStart stats c.policy epochId = P.onEpochStart stats' c'.policy epochId
  rw [hP.onEpochStart stats stats', h.policy]

/-- Alike caches answer a lookup alike.  A hit is a use in both logs. -/
theorem Alike.lookup (hP : P.Private) (h : Alike pairs c c')
    (hdemand : request.demand = request'.demand) (stats stats' : Stats) (time time' : SimTime)
    (hsub : ∀ p ∈ pairs, p ∈ pairs')
    (huse : (c.lookup stats request time).2 = true → (time, time') ∈ pairs') :
    (c.lookup stats request time).2 = (c'.lookup stats' request' time').2 ∧
      Alike pairs' (c.lookup stats request time).1 (c'.lookup stats' request' time').1 := by
  have hlearned := fun hit => hP.onLookup stats stats' c.policy time time' hit hdemand
  have hcapacity := h.capacityBytes
  have hoccupancy := h.occupancyBytes
  rw [h.policy] at hlearned
  obtain ⟨hobject, -, -⟩ := Request.demand_eq_iff.mp hdemand
  unfold LocalCache.lookup at huse ⊢
  rw [hobject] at huse ⊢
  rcases h.entries.find (fun _ _ => alike_objectId) request'.objectId with
    ⟨hnone, hnone'⟩ | ⟨entry, entry', hfind, hfind', halike⟩
  · rw [hnone, hnone', h.policy]
    exact ⟨rfl, hlearned false, hcapacity, hoccupancy, (h.mono hsub).entries⟩
  · rw [hfind, hfind', h.policy]
    rw [hfind] at huse
    refine ⟨rfl, ?_, ?_, ?_, ?_⟩
    · simp only [recordHit_policy]
      exact hlearned true
    · simp only [recordHit_capacityBytes]
      exact hcapacity
    · simp only [recordHit_occupancyBytes]
      exact hoccupancy
    · simp only [recordHit_entries, hP.stamps _ _ _]
      refine (h.mono hsub).entries.insert (fun _ _ => alike_objectId) ?_
      exact ⟨halike.objectId, halike.sizeBytes, huse rfl⟩

-- ============================================================================
-- Admission
-- ============================================================================

/-- Alike caches plan the same victims. -/
theorem Alike.planVictims (hP : P.Private) (hpairs : TiedAlike pairs)
    (hdemand : request.demand = request'.demand) (s : P.State) (capacityBytes fuel : Nat)
    {entries entries' : Residents} (h : entries.Related (CacheEntry.Alike pairs) entries')
    (occupancy : Nat) (planned : List ObjectId) :
    LocalCache.planVictims A s capacityBytes request fuel entries occupancy planned =
      LocalCache.planVictims A s capacityBytes request' fuel entries' occupancy planned := by
  obtain ⟨-, hsize, -⟩ := Request.demand_eq_iff.mp hdemand
  induction fuel generalizing entries entries' occupancy planned with
  | zero => rfl
  | succ fuel ih =>
      rw [LocalCache.planVictims, LocalCache.planVictims,
        hP.selectVictim s hdemand hpairs h, hsize]
      split
      · cases P.selectVictim s entries' request' with
        | none => rfl
        | some victim =>
            simp only
            rcases h.find (fun _ _ => alike_objectId) victim with
              ⟨hnone, hnone'⟩ | ⟨entry, entry', hfind, hfind', halike⟩
            · rw [hnone, hnone']
            · rw [hfind, hfind']
              simp only [halike.sizeBytes]
              exact ih (h.erase (fun _ _ => alike_objectId) victim) _ _
      · rfl

theorem Alike.victimPlan (hP : P.Private) (hpairs : TiedAlike pairs) (h : Alike pairs c c')
    (hdemand : request.demand = request'.demand) :
    victimPlan A c request = victimPlan A c' request' := by
  unfold LocalCache.victimPlan
  rw [h.policy, h.capacityBytes, h.occupancyBytes, h.entries.length_eq]
  exact planVictims hP hpairs hdemand _ _ _ h.entries _ _

theorem Alike.evict (h : Alike pairs c c') (objectId : ObjectId) (time time' : SimTime) :
    Alike pairs (c.evict A objectId time) (c'.evict A objectId time') := by
  rcases h.entries.find (fun _ _ => alike_objectId) objectId with
    ⟨hnone, hnone'⟩ | ⟨entry, entry', hfind, hfind', halike⟩
  · rw [evict_of_find_none hnone, evict_of_find_none hnone']
    exact h
  · obtain ⟨hentries, hoccupancy⟩ := evict_of_find_some (A := A) hfind time
    obtain ⟨hentries', hoccupancy'⟩ := evict_of_find_some (A := A) hfind' time'
    refine ⟨?_, ?_, ?_, ?_⟩
    · rw [evict_policy, evict_policy, h.policy]
    · rw [evict_capacityBytes, evict_capacityBytes, h.capacityBytes]
    · rw [hoccupancy, hoccupancy', h.occupancyBytes, halike.sizeBytes]
    · rw [hentries, hentries']
      exact h.entries.erase (fun _ _ => alike_objectId) objectId

theorem Alike.evictAll (h : Alike pairs c c') (victims : List ObjectId) (time time' : SimTime) :
    Alike pairs (c.evictAll A victims time) (c'.evictAll A victims time') := by
  induction victims generalizing c c' with
  | nil => exact h
  | cons victim victims ih => exact ih (h.evict victim time time')

theorem Alike.place (hP : P.Private) (h : Alike pairs c c')
    (hdemand : request.demand = request'.demand) {time time' : SimTime}
    (huse : (time, time') ∈ pairs) :
    Alike pairs (c.place A request time) (c'.place A request' time') := by
  obtain ⟨hobject, hsize, -⟩ := Request.demand_eq_iff.mp hdemand
  unfold LocalCache.place
  simp only [hP.stamps _ _ _, CacheEntry.touch_sizeBytes]
  refine ⟨h.policy, h.capacityBytes, ?_, ?_⟩
  · show A.add c.occupancyBytes request.sizeBytes = A.add c'.occupancyBytes request'.sizeBytes
    rw [h.occupancyBytes, hsize]
  · refine h.entries.insert (fun _ _ => alike_objectId) ?_
    exact ⟨hobject, hsize, huse⟩

theorem Alike.recordResult (hP : P.Private) (h : Alike pairs c c') (response response' : Response)
    (time time' : SimTime) (admitted : Bool) (reason : String) (victims : List ObjectId) :
    Alike pairs (c.recordResult request response time admitted reason victims).1
      (c'.recordResult request' response' time' admitted reason victims).1 := by
  refine ⟨?_, ?_, ?_, ?_⟩
  · rw [recordResult_policy, recordResult_policy, hP.onAdmissionResult, hP.onAdmissionResult,
      h.policy]
  · rw [recordResult_capacityBytes, recordResult_capacityBytes, h.capacityBytes]
  · rw [recordResult_occupancyBytes, recordResult_occupancyBytes, h.occupancyBytes]
  · rw [recordResult_entries, recordResult_entries]
    exact h.entries

/-- Alike caches decide an admission alike, at times that are a pair of the two logs. -/
theorem Alike.admitObject (hP : P.Private) (hpairs : TiedAlike pairs) (h : Alike pairs c c')
    (hdemand : request.demand = request'.demand) (response response' : Response)
    {time time' : SimTime} (huse : (time, time') ∈ pairs) :
    Alike pairs (c.admitObject A request response time).1
      (c'.admitObject A request' response' time').1 := by
  have hdecision := hP.admissionDecision c.policy response response' hdemand
  obtain ⟨-, hsize, -⟩ := Request.demand_eq_iff.mp hdemand
  unfold LocalCache.admitObject
  rw [h.victimPlan hP hpairs hdemand, hdecision, h.policy, h.capacityBytes, hsize]
  simp only
  split
  · exact h.recordResult hP _ _ _ _ _ _ _
  split
  · exact h.recordResult hP _ _ _ _ _ _ _
  cases LocalCache.victimPlan A c' request' with
  | none => exact h
  | some plan =>
      cases plan with
      | rejected reason victims => exact h.recordResult hP _ _ _ _ _ _ _
      | planned victims =>
          have hplaced := (h.evictAll (A := A) victims time time').place (A := A) hP hdemand huse
          exact hplaced.recordResult hP _ _ _ _ _ _ _

end LocalCache

end DmSimulator
