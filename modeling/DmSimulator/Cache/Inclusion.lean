/-
  DmSimulator.Cache.Inclusion

  Two caches of different capacity that serve the same accesses to objects of one
  size.

  With one object size an admission evicts at most one resident, the one of
  least rank.  The larger cache then keeps whatever the smaller one keeps,
  provided the smaller cache has room only while both hold the same objects:
  otherwise it could store what a full larger cache refuses.  `Inclusion` is the
  invariant, with the agreement of the ranks that the evictions need.
-/
import DmSimulator.Cache.Accounting
import DmSimulator.Cache.AdmissionPlan

namespace DmSimulator

open Selection

/-- Two entries that differ in their insertion time at most. -/
structure SameUse (a b : CacheEntry) : Prop where
  objectId : a.objectId = b.objectId
  sizeBytes : a.sizeBytes = b.sizeBytes
  lastAccessTime : a.lastAccessTime = b.lastAccessTime

/-- A policy that learns nothing from hits and admissions, stamps the access time on an
    entry, and selects by a rank for which the beaten residents come first. -/
structure RanksResidents (P : CachePolicy) {ρ : Type} [LinearOrder ρ]
    (rank : P.State → CacheEntry → ρ) (beaten : P.State → Request → CacheEntry → Prop) :
    Prop where
  onLookup : ∀ stats s request time,
    P.onLookup stats s request time true = P.onLookup stats s request time false
  onAccess : ∀ s entry time, P.onAccess s entry time = entry.touch time
  onAdmissionResult : ∀ s request response time admitted reason victims,
    P.onAdmissionResult s request response time admitted reason victims = s
  ranked : ∀ s request, RankedBy P s request (rank s) (beaten s request)
  rank_congr : ∀ s a b, SameUse a b → rank s a = rank s b
  beaten_down : ∀ s request a b, rank s a ≤ rank s b → beaten s request b → beaten s request a

theorem LruPolicy.ranksResidents :
    RanksResidents LruPolicy (fun _ => LruPolicy.rank) (fun _ _ _ => True) := by
  refine ⟨fun _ _ _ _ => rfl, fun _ _ _ => rfl, fun _ _ _ _ _ _ _ => rfl, LruPolicy.rankedBy,
    ?_, fun _ _ _ _ _ _ => trivial⟩
  intro s a b hsame
  simp only [LruPolicy.rank, hsame.lastAccessTime, hsame.objectId]

theorem HotnessOnlyPolicy.ranksResidents (A : Arith) (config : HotnessPolicyConfig) :
    RanksResidents (HotnessOnlyPolicy A config) HotnessOnlyPolicy.rank
      (fun s request v => HotnessOnlyPolicy.countFor s v.objectId <
        HotnessOnlyPolicy.countFor s request.objectId) := by
  refine ⟨fun _ _ _ _ => rfl, fun _ _ _ => rfl, fun _ _ _ _ _ _ _ => rfl,
    HotnessOnlyPolicy.rankedBy A config, ?_, ?_⟩
  · intro s a b hsame
    simp only [HotnessOnlyPolicy.rank, hsame.lastAccessTime, hsame.objectId]
  · intro s request a b hrank hb
    have hcount : HotnessOnlyPolicy.countFor s a.objectId ≤
        HotnessOnlyPolicy.countFor s b.objectId := Prod.Lex.monotone_fst _ _ hrank
    omega

namespace LocalCache

variable {P : CachePolicy} {A : Arith} {sizeBytes : Nat} {c : LocalCache P} {ρ : Type}
  [LinearOrder ρ] {rank : P.State → CacheEntry → ρ}
  {beaten : P.State → Request → CacheEntry → Prop} {request : Request} {response : Response}
  {time : SimTime}

-- ============================================================================
-- Objects of one size
-- ============================================================================

/-- All residents have the given size, and the occupancy counts them. -/
structure Uniform (A : Arith) (sizeBytes : Nat) (c : LocalCache P) : Prop where
  sizes : ∀ entry ∈ c.entries.items, entry.sizeBytes = sizeBytes
  occupancy : c.occupancyBytes = A.norm (c.entries.items.length * sizeBytes)
  within : c.occupancyBytes ≤ c.capacityBytes
  fits : c.entries.items ≠ [] → sizeBytes ≤ c.capacityBytes

/-- One more object can be stored without an eviction. -/
def HasRoom (A : Arith) (sizeBytes : Nat) (c : LocalCache P) : Prop :=
  sizeBytes ≤ c.capacityBytes ∧ A.add c.occupancyBytes sizeBytes ≤ c.capacityBytes

/-- The entry of an object that is stored now. -/
def storedEntry (request : Request) (time : SimTime) : CacheEntry :=
  (incomingEntry request time).touch time

/-- How an admission attempt can change a cache of objects of one size. -/
inductive Outcome (A : Arith) (sizeBytes : Nat) (rank : P.State → CacheEntry → ρ)
    (beaten : P.State → Request → CacheEntry → Prop) (request : Request) (response : Response)
    (time : SimTime) (c : LocalCache P) : Residents → Nat → Prop
  | refused
      (h : ¬ ((P.admissionDecision c.policy request response).shouldAdmit = true ∧
        sizeBytes ≤ c.capacityBytes)) :
      Outcome A sizeBytes rank beaten request response time c c.entries c.occupancyBytes
  | kept (v : CacheEntry) (hfull : ¬ HasRoom A sizeBytes c)
      (hleast : IsLeast (rank c.policy) c.entries.items v) (hkept : ¬ beaten c.policy request v) :
      Outcome A sizeBytes rank beaten request response time c c.entries c.occupancyBytes
  | stored (haccepts : (P.admissionDecision c.policy request response).shouldAdmit = true)
      (hroom : HasRoom A sizeBytes c) :
      Outcome A sizeBytes rank beaten request response time c
        (c.entries.insert (storedEntry request time)) (A.add c.occupancyBytes sizeBytes)
  | replaced (v : CacheEntry)
      (haccepts : (P.admissionDecision c.policy request response).shouldAdmit = true)
      (hfits : sizeBytes ≤ c.capacityBytes) (hfull : ¬ HasRoom A sizeBytes c)
      (hleast : IsLeast (rank c.policy) c.entries.items v) (hbeaten : beaten c.policy request v) :
      Outcome A sizeBytes rank beaten request response time c
        ((c.entries.erase v.objectId).insert (storedEntry request time)) c.occupancyBytes

/-- What an admission attempt does to a cache of objects of one size. -/
structure Effect (A : Arith) (sizeBytes : Nat) (rank : P.State → CacheEntry → ρ)
    (beaten : P.State → Request → CacheEntry → Prop) (request : Request) (response : Response)
    (time : SimTime) (c after : LocalCache P) : Prop where
  policy : after.policy = c.policy
  capacityBytes : after.capacityBytes = c.capacityBytes
  hitCount : after.hitCount = c.hitCount
  outcome : Outcome A sizeBytes rank beaten request response time c after.entries
    after.occupancyBytes

/-- A cache that cannot store one more object holds one. -/
theorem Uniform.ne_nil (hc : Uniform A sizeBytes c) (hfits : sizeBytes ≤ c.capacityBytes)
    (hfull : ¬ HasRoom A sizeBytes c) : c.entries.items ≠ [] := by
  intro hempty
  apply hfull
  refine ⟨hfits, ?_⟩
  have hoccupancy := hc.occupancy
  rw [hempty, List.length_nil, Nat.zero_mul] at hoccupancy
  have hzero := A.norm_le 0
  have hnorm := A.norm_le (c.occupancyBytes + sizeBytes)
  show A.norm (c.occupancyBytes + sizeBytes) ≤ c.capacityBytes
  omega

/-- Without one resident there is room for one more object. -/
theorem Uniform.add_sub (hc : Uniform A sizeBytes c) (hne : c.entries.items ≠ []) :
    A.add (A.sub c.occupancyBytes sizeBytes) sizeBytes = c.occupancyBytes := by
  obtain ⟨n, hn⟩ : ∃ n, c.entries.items.length = n + 1 :=
    Nat.exists_eq_succ_of_ne_zero fun h => hne (List.length_eq_zero_iff.mp h)
  rw [hc.occupancy, hn, show (n + 1) * sizeBytes = sizeBytes + n * sizeBytes by
    rw [Nat.succ_mul, Nat.add_comm], Arith.sub_norm_add, Arith.add_norm, Nat.add_comm]

/-- Recording a result leaves the contents alone, and the policy does not learn from it. -/
theorem Effect.recordResult (hP : RanksResidents P rank beaten) {d : LocalCache P}
    (h : Effect A sizeBytes rank beaten request response time c d) (admitted : Bool)
    (reason : String) (victims : List ObjectId) :
    Effect A sizeBytes rank beaten request response time c
      (d.recordResult request response time admitted reason victims).1 := by
  refine ⟨?_, ?_, ?_, ?_⟩
  · rw [recordResult_policy, hP.onAdmissionResult, h.policy]
  · rw [recordResult_capacityBytes, h.capacityBytes]
  · rw [recordResult_hitCount, h.hitCount]
  · rw [recordResult_entries, recordResult_occupancyBytes]
    exact h.outcome

theorem place_entries (hP : RanksResidents P rank beaten) (d : LocalCache P) :
    (place A d request time).entries = d.entries.insert (storedEntry request time) := by
  simp only [place, hP.onAccess]
  rfl

theorem place_occupancyBytes (d : LocalCache P) :
    (place A d request time).occupancyBytes = A.add d.occupancyBytes request.sizeBytes := by
  simp only [place, CachePolicy.onAccess_sizeBytes]

/-- The plan when there is room, and when there is none. -/
theorem victimPlan_stored (hroom : HasRoom A request.sizeBytes c) :
    victimPlan A c request = some (.planned []) := by
  rw [victimPlan, planVictims, if_neg (Nat.not_lt.mpr hroom.2)]

theorem victimPlan_replaced (hP : RanksResidents P rank beaten)
    (hc : Uniform A request.sizeBytes c) (hfits : request.sizeBytes ≤ c.capacityBytes)
    (hfull : ¬ HasRoom A request.sizeBytes c) {v : CacheEntry}
    (hleast : IsLeast (rank c.policy) c.entries.items v) :
    (beaten c.policy request v → victimPlan A c request = some (.planned [v.objectId])) ∧
      (¬ beaten c.policy request v →
        victimPlan A c request = some (.rejected "no_victim" [])) := by
  have hne := hc.ne_nil hfits hfull
  have hover : A.add c.occupancyBytes request.sizeBytes > c.capacityBytes :=
    Nat.lt_of_not_le fun hle => hfull ⟨hfits, hle⟩
  have hranked := hP.ranked c.policy request
  constructor
  · intro hbeaten
    have hfind : c.entries.find v.objectId = some v :=
      KeyedStore.find_eq_some.mpr ⟨hleast.mem, rfl⟩
    obtain ⟨n, hn⟩ : ∃ n, c.entries.items.length = n + 1 :=
      Nat.exists_eq_succ_of_ne_zero fun h => hne (List.length_eq_zero_iff.mp h)
    rw [victimPlan, planVictims, if_pos hover, hranked.select_beaten c.entries v hleast hbeaten]
    simp only [hfind, hn]
    have hroom : ¬ A.add (A.sub c.occupancyBytes v.sizeBytes) request.sizeBytes >
        c.capacityBytes := by
      rw [hc.sizes v hleast.mem, hc.add_sub hne]
      exact Nat.not_lt.mpr hc.within
    rw [planVictims, if_neg hroom, List.nil_append]
  · intro hkept
    rw [victimPlan, planVictims, if_pos hover, hranked.select_kept c.entries v hleast hkept]

theorem admitObject_effect (hP : RanksResidents P rank beaten) (hc : Uniform A sizeBytes c)
    (hsize : request.sizeBytes = sizeBytes) (response : Response) (time : SimTime) :
    Effect A sizeBytes rank beaten request response time c
      (admitObject A c request response time).1 := by
  subst hsize
  by_cases hdecision : (P.admissionDecision c.policy request response).shouldAdmit = true
  · by_cases hfits : request.sizeBytes ≤ c.capacityBytes
    · have hsmall : ¬ request.sizeBytes > c.capacityBytes := Nat.not_lt.mpr hfits
      by_cases hroom : HasRoom A request.sizeBytes c
      · have heq : admitObject A c request response time =
            (place A c request time).recordResult request response time true "admitted" [] := by
          simp [admitObject, hdecision, hsmall, victimPlan_stored hroom]
        have hplaced : Effect A request.sizeBytes rank beaten request response time c
            (place A c request time) := by
          refine ⟨rfl, rfl, rfl, ?_⟩
          rw [place_entries hP, place_occupancyBytes]
          exact .stored hdecision hroom
        rw [heq]
        exact hplaced.recordResult hP _ _ _
      · obtain ⟨v, hleast⟩ := exists_isLeast (rank c.policy) (hc.ne_nil hfits hroom)
        obtain ⟨hplanned, hrejected⟩ := victimPlan_replaced hP hc hfits hroom hleast
        by_cases hbeaten : beaten c.policy request v
        · have heq : admitObject A c request response time =
              (place A (evictAll A c [v.objectId] time) request time).recordResult request
                response time true "admitted" [v.objectId] := by
            simp [admitObject, hdecision, hsmall, hplanned hbeaten]
          have hfind : c.entries.find v.objectId = some v :=
            KeyedStore.find_eq_some.mpr ⟨hleast.mem, rfl⟩
          obtain ⟨hentries, hoccupancy⟩ := evict_of_find_some (A := A) hfind time
          have hplaced : Effect A request.sizeBytes rank beaten request response time c
              (place A (evictAll A c [v.objectId] time) request time) := by
            refine ⟨evictAll_policy c [v.objectId] time, evictAll_capacityBytes c [v.objectId] time,
              evictAll_hitCount c [v.objectId] time, ?_⟩
            rw [place_entries hP, place_occupancyBytes, evictAll_cons, evictAll_nil, hentries,
              hoccupancy, hc.sizes v hleast.mem, hc.add_sub (hc.ne_nil hfits hroom)]
            exact .replaced v hdecision hfits hroom hleast hbeaten
          rw [heq]
          exact hplaced.recordResult hP _ _ _
        · have heq : admitObject A c request response time =
              c.recordResult request response time false "no_victim" [] := by
            simp [admitObject, hdecision, hsmall, hrejected hbeaten]
          rw [heq]
          exact Effect.recordResult hP ⟨rfl, rfl, rfl, .kept v hroom hleast hbeaten⟩ _ _ _
    · have heq : admitObject A c request response time =
          c.recordResult request response time false "object_too_large" [] := by
        simp [admitObject, hdecision, Nat.lt_of_not_le hfits]
      rw [heq]
      exact Effect.recordResult hP ⟨rfl, rfl, rfl, .refused fun hboth => hfits hboth.2⟩ _ _ _
  · have heq : admitObject A c request response time = c.recordResult request response time false
        (P.admissionDecision c.policy request response).reason [] := by
      simp [admitObject, hdecision]
    rw [heq]
    exact Effect.recordResult hP ⟨rfl, rfl, rfl, .refused fun hboth => hdecision hboth.1⟩ _ _ _

/-- Admission attempts for absent objects of the one size keep a cache uniform. -/
theorem Effect.uniform {after : LocalCache P} (hc : Uniform A sizeBytes c)
    (hsize : request.sizeBytes = sizeBytes) (habsent : c.entries.find request.objectId = none)
    (h : Effect A sizeBytes rank beaten request response time c after) :
    Uniform A sizeBytes after := by
  obtain ⟨-, hcapacity, -, houtcome⟩ := h
  obtain ⟨hsizes, hoccupancy, hwithin, hfits⟩ := hc
  generalize hentries : after.entries = entries at houtcome
  generalize hbytes : after.occupancyBytes = occupancy at houtcome
  have hlength : ∀ entries : Residents, entries.find request.objectId = none →
      (entries.insert (storedEntry request time)).items.length = entries.items.length + 1 := by
    intro entries hnone
    rw [KeyedStore.insert, List.length_cons]
    exact congrArg (fun s : Residents => s.items.length + 1) (KeyedStore.erase_eq_self hnone)
  have hstored : ∀ entries : Residents, (∀ e ∈ entries.items, e.sizeBytes = sizeBytes) →
      ∀ e ∈ (entries.insert (storedEntry request time)).items, e.sizeBytes = sizeBytes := by
    intro entries hall e he
    rcases KeyedStore.mem_insert.mp he with rfl | ⟨he, -⟩
    · exact hsize
    · exact hall e he
  cases houtcome with
  | refused _ | kept _ _ _ _ =>
      exact ⟨by rwa [hentries], by rw [hentries, hbytes, hoccupancy],
        by rwa [hbytes, hcapacity], by rwa [hentries, hcapacity]⟩
  | stored _ hroom =>
      refine ⟨by rw [hentries]; exact hstored _ hsizes, ?_, by rw [hbytes, hcapacity]; exact hroom.2,
        fun _ => by rw [hcapacity]; exact hroom.1⟩
      rw [hentries, hbytes, hlength _ habsent, hoccupancy, Arith.add_norm, Nat.succ_mul]
  | replaced v _ hfit _ hleast _ =>
      have hfind : c.entries.find v.objectId = some v :=
        KeyedStore.find_eq_some.mpr ⟨hleast.mem, rfl⟩
      have hnone : (c.entries.erase v.objectId).find request.objectId = none := by
        rw [KeyedStore.find_erase, habsent, ite_self]
      refine ⟨?_, ?_, by rwa [hbytes, hcapacity], fun _ => by rwa [hcapacity]⟩
      · rw [hentries]
        exact hstored _ fun e he => hsizes e (KeyedStore.mem_erase.mp he).1
      · rw [hentries, hbytes, hlength _ hnone, ← KeyedStore.length_erase hfind, hoccupancy]

-- ============================================================================
-- Two capacities
-- ============================================================================

/-- The larger cache holds what the smaller one holds, used at the same times, and as
    long as the smaller one has room it holds no more. -/
structure Inclusion (A : Arith) (sizeBytes : Nat) (small large : LocalCache P) : Prop where
  uniform_small : Uniform A sizeBytes small
  uniform_large : Uniform A sizeBytes large
  policy : small.policy = large.policy
  capacity : small.capacityBytes ≤ large.capacityBytes
  covers : small.entries.Covers SameUse large.entries
  same_of_room : HasRoom A sizeBytes small → ∀ objectId,
    (large.entries.find objectId).isSome → (small.entries.find objectId).isSome
  hits : small.hitCount ≤ large.hitCount

variable {small large : LocalCache P}

theorem Inclusion.mem_large (h : Inclusion A sizeBytes small large) {objectId : ObjectId}
    (hmem : (small.entries.find objectId).isSome) : (large.entries.find objectId).isSome := by
  obtain ⟨a, ha⟩ := Option.isSome_iff_exists.mp hmem
  obtain ⟨b, hb, -⟩ := h.covers objectId a ha
  rw [hb]
  rfl

/-- As long as the smaller cache has room, so does the larger one. -/
theorem Inclusion.large_hasRoom (h : Inclusion A sizeBytes small large)
    (hroom : HasRoom A sizeBytes small) : HasRoom A sizeBytes large := by
  have hlength : small.entries.items.length = large.entries.items.length :=
    KeyedStore.length_eq_of_find fun k => ⟨h.mem_large, h.same_of_room hroom k⟩
  have hoccupancy : small.occupancyBytes = large.occupancyBytes := by
    rw [h.uniform_small.occupancy, h.uniform_large.occupancy, hlength]
  refine ⟨hroom.1.trans h.capacity, ?_⟩
  rw [← hoccupancy]
  exact hroom.2.trans h.capacity

theorem Inclusion.onEpochStart (h : Inclusion A sizeBytes small large) (stats : Stats)
    (epochId : EpochId) :
    Inclusion A sizeBytes (small.onEpochStart stats epochId) (large.onEpochStart stats epochId) :=
  { h with
    uniform_small := { h.uniform_small with }
    uniform_large := { h.uniform_large with }
    policy := congrArg (fun s => P.onEpochStart stats s epochId) h.policy }

theorem lookup_of_none {stats : Stats} (hfind : c.entries.find request.objectId = none) :
    lookup stats c request time =
      ({ c with
          missCount := c.missCount + 1
          policy := P.onLookup stats c.policy request time false }, false) := by
  simp only [lookup, hfind]

/-- A hit stamps the entry. -/
theorem lookup_of_some {entry : CacheEntry} (hP : RanksResidents P rank beaten)
    (hfind : c.entries.find request.objectId = some entry) (stats : Stats) (time : SimTime) :
    (lookup stats c request time).2 = true ∧
      (lookup stats c request time).1.entries = c.entries.insert (entry.touch time) ∧
      (lookup stats c request time).1.policy = P.onLookup stats c.policy request time false ∧
      (lookup stats c request time).1.occupancyBytes = c.occupancyBytes ∧
      (lookup stats c request time).1.capacityBytes = c.capacityBytes ∧
      (lookup stats c request time).1.hitCount = c.hitCount + 1 := by
  simp only [lookup, hfind, recordHit_entries, recordHit_policy, recordHit_occupancyBytes,
    recordHit_capacityBytes, recordHit_hitCount, hP.onAccess, hP.onLookup, and_self]

theorem Uniform.lookup (hP : RanksResidents P rank beaten) (hc : Uniform A sizeBytes c)
    (stats : Stats) (request : Request) (time : SimTime) :
    Uniform A sizeBytes (lookup stats c request time).1 := by
  cases hfind : c.entries.find request.objectId with
  | none =>
      rw [lookup_of_none hfind]
      exact { hc with }
  | some entry =>
      obtain ⟨-, hentries, -, hoccupancy, hcapacity, -⟩ :=
        lookup_of_some hP hfind stats time
      have hkey : entry.objectId = request.objectId := KeyedStore.key_of_find hfind
      have hlength : (c.entries.insert (entry.touch time)).items.length =
          c.entries.items.length := by
        rw [KeyedStore.insert, List.length_cons, CacheEntry.touch_objectId, hkey,
          KeyedStore.length_erase hfind]
      refine ⟨?_, ?_, by rw [hoccupancy, hcapacity]; exact hc.within, ?_⟩
      · intro e he
        rw [hentries] at he
        rcases KeyedStore.mem_insert.mp he with rfl | ⟨he, -⟩
        · exact hc.sizes entry (KeyedStore.find_eq_some.mp hfind).1
        · exact hc.sizes e he
      · rw [hoccupancy, hentries, hlength, hc.occupancy]
      · intro _
        rw [hcapacity]
        exact hc.fits (List.ne_nil_of_mem (KeyedStore.find_eq_some.mp hfind).1)

theorem Inclusion.lookup (hP : RanksResidents P rank beaten)
    (h : Inclusion A sizeBytes small large) (stats : Stats) (request : Request) (time : SimTime) :
    Inclusion A sizeBytes (LocalCache.lookup stats small request time).1
      (LocalCache.lookup stats large request time).1 := by
  have husmall := h.uniform_small.lookup hP stats request time
  have hularge := h.uniform_large.lookup hP stats request time
  have hpolicy : P.onLookup stats small.policy request time false =
      P.onLookup stats large.policy request time false := by rw [h.policy]
  cases hlarge : large.entries.find request.objectId with
  | none =>
      have hsmall : small.entries.find request.objectId = none := by
        by_contra hne
        have hmem := h.mem_large (Option.ne_none_iff_isSome.mp hne)
        rw [hlarge] at hmem
        cases hmem
      rw [lookup_of_none hsmall, lookup_of_none hlarge] at *
      exact ⟨husmall, hularge, hpolicy, h.capacity, h.covers, h.same_of_room, h.hits⟩
  | some b =>
      obtain ⟨-, hentries, hstate, hoccupancy, hcapacity, hhits⟩ :=
        lookup_of_some hP hlarge stats time
      have hkey : b.objectId = request.objectId := KeyedStore.key_of_find hlarge
      have hsome : ∀ objectId, ((large.entries.insert (b.touch time)).find objectId).isSome →
          (large.entries.find objectId).isSome := by
        intro objectId hmem
        have hfind : large.entries.find (b.touch time).objectId = some b := hkey ▸ hlarge
        rwa [KeyedStore.isSome_find_insert hfind] at hmem
      cases hsmall : small.entries.find request.objectId with
      | none =>
          rw [lookup_of_none hsmall] at *
          refine ⟨husmall, hularge, hpolicy.trans hstate.symm, ?_, ?_, ?_, ?_⟩
          · rw [hcapacity]
            exact h.capacity
          · rw [hentries]
            exact h.covers.insert_right (by rw [CacheEntry.touch_objectId, hkey, hsmall])
          · intro hroom objectId hmem
            rw [hentries] at hmem
            exact h.same_of_room hroom objectId (hsome objectId hmem)
          · rw [hhits]
            exact h.hits.trans (Nat.le_succ _)
      | some a =>
          obtain ⟨-, hentries', hstate', hoccupancy', hcapacity', hhits'⟩ :=
            lookup_of_some hP hsmall stats time
          obtain ⟨b', hb', hsame⟩ := h.covers request.objectId a hsmall
          rw [hlarge] at hb'
          cases hb'
          refine ⟨husmall, hularge, ?_, ?_, ?_, ?_, ?_⟩
          · rw [hstate, hstate', hpolicy]
          · rw [hcapacity, hcapacity']
            exact h.capacity
          · rw [hentries, hentries']
            exact h.covers.insert ⟨hsame.objectId, hsame.sizeBytes, rfl⟩ hsame.objectId
          · intro hroom objectId hmem
            rw [HasRoom, hcapacity', hoccupancy'] at hroom
            rw [hentries] at hmem
            have hfind : small.entries.find (a.touch time).objectId = some a := by
              rw [CacheEntry.touch_objectId, hsame.objectId, hkey, hsmall]
            rw [hentries', KeyedStore.isSome_find_insert hfind]
            exact h.same_of_room hroom objectId (hsome objectId hmem)
          · rw [hhits, hhits']
            exact Nat.succ_le_succ h.hits

/-- A miss of the smaller cache only: what it stores is in the larger one. -/
theorem Inclusion.admit_small (hP : RanksResidents P rank beaten)
    (h : Inclusion A sizeBytes small large) (hsize : request.sizeBytes = sizeBytes)
    (habsent : small.entries.find request.objectId = none) {b : CacheEntry}
    (hlarge : large.entries.find request.objectId = some b) (hlast : b.lastAccessTime = time) :
    Inclusion A sizeBytes (admitObject A small request response time).1 large := by
  have heffect := admitObject_effect hP h.uniform_small hsize response time
  have huniform := heffect.uniform h.uniform_small hsize habsent
  obtain ⟨hpolicy, hcapacity, hhits, houtcome⟩ := heffect
  have hfull : ¬ HasRoom A sizeBytes small := by
    intro hroom
    have hmem := h.same_of_room hroom request.objectId (by rw [hlarge]; rfl)
    rw [habsent] at hmem
    cases hmem
  -- the smaller cache stays full, so only its contents are at stake
  have main : ∀ entries occupancy,
      Outcome A sizeBytes rank beaten request response time small entries occupancy →
        occupancy = small.occupancyBytes ∧ entries.Covers SameUse large.entries := by
    intro entries occupancy houtcome
    cases houtcome with
    | refused _ | kept _ _ _ _ => exact ⟨rfl, h.covers⟩
    | stored _ hroom => exact absurd hroom hfull
    | replaced v _ _ _ _ _ =>
        refine ⟨rfl, (h.covers.erase_left v.objectId).insert_left hlarge ⟨?_, ?_, ?_⟩⟩
        · exact (KeyedStore.key_of_find hlarge).symm
        · exact hsize.trans (h.uniform_large.sizes b (KeyedStore.find_eq_some.mp hlarge).1).symm
        · exact hlast.symm
  obtain ⟨hoccupancy, hcovers⟩ := main _ _ houtcome
  refine ⟨huniform, h.uniform_large, hpolicy.trans h.policy, by rw [hcapacity]; exact h.capacity,
    hcovers, ?_, by rw [hhits]; exact h.hits⟩
  intro hroom
  rw [HasRoom, hoccupancy, hcapacity] at hroom
  exact absurd hroom hfull

/-- The victims of the two caches: the larger one's ranks no higher, and if the smaller
    cache holds it, it is the smaller one's too. -/
theorem Inclusion.victims (hP : RanksResidents P rank beaten)
    (h : Inclusion A sizeBytes small large) {v w : CacheEntry}
    (hv : IsLeast (rank small.policy) small.entries.items v)
    (hw : IsLeast (rank small.policy) large.entries.items w) :
    rank small.policy w ≤ rank small.policy v ∧
      ∀ a, small.entries.find w.objectId = some a →
        rank small.policy v ≤ rank small.policy w ∧ w.objectId = v.objectId := by
  obtain ⟨b, hb, hsame⟩ := h.covers v.objectId v (KeyedStore.find_eq_some.mpr ⟨hv.mem, rfl⟩)
  have hle : rank small.policy w ≤ rank small.policy v := by
    rw [hP.rank_congr small.policy v b hsame]
    exact hw.le b (KeyedStore.find_eq_some.mp hb).1
  refine ⟨hle, fun a ha => ?_⟩
  obtain ⟨b', hb', hsame'⟩ := h.covers w.objectId a ha
  rw [KeyedStore.find_eq_some.mpr ⟨hw.mem, rfl⟩] at hb'
  cases hb'
  have hrank := hP.rank_congr small.policy a w hsame'
  have hback : rank small.policy v ≤ rank small.policy w := by
    rw [← hrank]
    exact hv.le a (KeyedStore.find_eq_some.mp ha).1
  exact ⟨hback, (hP.ranked small.policy {}).rank_objectId w v (le_antisymm hle hback)⟩

/-- The outcomes of a common admission attempt keep the inclusion. -/
theorem Inclusion.outcomes (hP : RanksResidents P rank beaten)
    (h : Inclusion A sizeBytes small large) (hpolicy : small.policy = large.policy)
    (habsent : small.entries.find request.objectId = none)
    {entries entries' : Residents} {occupancy occupancy' : Nat}
    (hsmall : Outcome A sizeBytes rank beaten request response time small entries occupancy)
    (hlarge : Outcome A sizeBytes rank beaten request response time large entries' occupancy') :
    entries.Covers SameUse entries' ∧
      (sizeBytes ≤ small.capacityBytes ∧ A.add occupancy sizeBytes ≤ small.capacityBytes →
        ∀ objectId, (entries'.find objectId).isSome → (entries.find objectId).isSome) := by
  have hnew : SameUse (storedEntry request time) (storedEntry request time) := ⟨rfl, rfl, rfl⟩
  cases hsmall with
  | refused hrefused =>
      cases hlarge with
      | refused _ | kept _ _ _ _ => exact ⟨h.covers, h.same_of_room⟩
      | stored haccepts _ =>
          rw [← hpolicy] at haccepts
          exact ⟨h.covers.insert_right habsent, fun hroom => absurd ⟨haccepts, hroom.1⟩ hrefused⟩
      | replaced w haccepts _ _ _ _ =>
          -- nothing fits into the smaller cache, so it is empty
          rw [← hpolicy] at haccepts
          refine ⟨?_, fun hroom => absurd ⟨haccepts, hroom.1⟩ hrefused⟩
          intro objectId a ha
          have hne := List.ne_nil_of_mem (KeyedStore.find_eq_some.mp ha).1
          exact absurd ⟨haccepts, h.uniform_small.fits hne⟩ hrefused
  | kept v hfull hv hkept =>
      refine ⟨?_, fun hroom => absurd hroom hfull⟩
      cases hlarge with
      | refused _ | kept _ _ _ _ => exact h.covers
      | stored _ _ => exact h.covers.insert_right habsent
      | replaced w _ _ _ hw hbeaten =>
          rw [← hpolicy] at hw hbeaten
          have hnone : small.entries.find w.objectId = none := by
            by_contra hne
            obtain ⟨a, ha⟩ := Option.ne_none_iff_exists'.mp hne
            have hle := ((h.victims hP hv hw).2 a ha).1
            exact hkept (hP.beaten_down small.policy request v w hle hbeaten)
          exact (h.covers.erase_right hnone).insert_right habsent
  | stored haccepts hroom =>
      have hroom' := h.large_hasRoom hroom
      cases hlarge with
      | refused hrefused =>
          rw [← hpolicy] at hrefused
          exact absurd ⟨haccepts, hroom'.1⟩ hrefused
      | kept _ hfull _ _ | replaced _ _ _ hfull _ _ => exact absurd hroom' hfull
      | stored _ _ =>
          refine ⟨h.covers.insert hnew rfl, fun _ objectId hmem => ?_⟩
          rw [KeyedStore.find_insert] at hmem ⊢
          split
          · rfl
          · next hne =>
              rw [if_neg hne] at hmem
              exact h.same_of_room hroom objectId hmem
  | replaced v haccepts hfits hfull hv hbeaten =>
      refine ⟨?_, fun hroom => absurd hroom hfull⟩
      cases hlarge with
      | refused hrefused =>
          rw [← hpolicy] at hrefused
          exact absurd ⟨haccepts, hfits.trans h.capacity⟩ hrefused
      | kept w _ hw hkept =>
          rw [← hpolicy] at hw hkept
          have hle := (h.victims hP hv hw).1
          exact absurd (hP.beaten_down small.policy request w v hle hbeaten) hkept
      | stored _ _ => exact (h.covers.erase_left v.objectId).insert hnew rfl
      | replaced w _ _ _ hw _ =>
          rw [← hpolicy] at hw
          have hnone : (small.entries.erase v.objectId).find w.objectId = none := by
            rw [KeyedStore.find_erase]
            split
            · rfl
            · next hne =>
                by_contra hfind
                obtain ⟨a, ha⟩ := Option.ne_none_iff_exists'.mp hfind
                exact hne ((h.victims hP hv hw).2 a ha).2
          exact ((h.covers.erase_left v.objectId).erase_right hnone).insert hnew rfl

/-- A miss of both caches. -/
theorem Inclusion.admit_both (hP : RanksResidents P rank beaten)
    (h : Inclusion A sizeBytes small large) (hsize : request.sizeBytes = sizeBytes)
    (habsent : small.entries.find request.objectId = none)
    (habsent' : large.entries.find request.objectId = none) :
    Inclusion A sizeBytes (admitObject A small request response time).1
      (admitObject A large request response time).1 := by
  have heffect := admitObject_effect hP h.uniform_small hsize response time
  have heffect' := admitObject_effect hP h.uniform_large hsize response time
  obtain ⟨hcovers, hroom⟩ :=
    h.outcomes hP h.policy habsent heffect.outcome heffect'.outcome
  refine ⟨heffect.uniform h.uniform_small hsize habsent,
    heffect'.uniform h.uniform_large hsize habsent', ?_, ?_, hcovers, ?_, ?_⟩
  · rw [heffect.policy, heffect'.policy, h.policy]
  · rw [heffect.capacityBytes, heffect'.capacityBytes]
    exact h.capacity
  · intro hhas
    rw [HasRoom, heffect.capacityBytes] at hhas
    exact hroom hhas
  · rw [heffect.hitCount, heffect'.hitCount]
    exact h.hits

-- ============================================================================
-- Runs of accesses
-- ============================================================================

/-- One access to an object: the request, the response if it has to be fetched, the
    statistics the policy may read, and the time. -/
structure Access where
  request : Request
  response : Response := {}
  stats : Stats := {}
  time : SimTime

/-- A cache with the epoch that was announced to it last. -/
structure Accessed (P : CachePolicy) where
  cache : LocalCache P
  currentEpoch : Option EpochId := none

/-- Announce the epoch of the access if it is a new one. -/
def startEpochIfNeeded (state : Accessed P) (access : Access) : Accessed P :=
  if state.currentEpoch = some access.request.epochId then state
  else
    { cache := state.cache.onEpochStart access.stats access.request.epochId
      currentEpoch := some access.request.epochId }

/-- Look the object up and try to admit it if it is absent. -/
def lookupOrAdmit (A : Arith) (cache : LocalCache P) (access : Access) : LocalCache P :=
  let found := LocalCache.lookup access.stats cache access.request access.time
  if found.2 then found.1
  else (admitObject A found.1 access.request access.response access.time).1

def serve (A : Arith) (state : Accessed P) (access : Access) : Accessed P :=
  let state := startEpochIfNeeded state access
  { state with cache := lookupOrAdmit A state.cache access }

/-- A new cache of the given capacity after a trace of accesses. -/
def serveAll (A : Arith) (P : CachePolicy) (capacityBytes : Nat) (trace : List Access) :
    LocalCache P :=
  (trace.foldl (serve A) { cache := { capacityBytes := capacityBytes } }).cache

theorem Inclusion.lookupOrAdmit (hP : RanksResidents P rank beaten)
    (h : Inclusion A sizeBytes small large) (access : Access)
    (hsize : access.request.sizeBytes = sizeBytes) :
    Inclusion A sizeBytes (lookupOrAdmit A small access) (lookupOrAdmit A large access) := by
  have hlookup := h.lookup hP access.stats access.request access.time
  unfold LocalCache.lookupOrAdmit
  cases hlarge : large.entries.find access.request.objectId with
  | none =>
      have hsmall : small.entries.find access.request.objectId = none := by
        by_contra hne
        have hmem := h.mem_large (Option.ne_none_iff_isSome.mp hne)
        rw [hlarge] at hmem
        cases hmem
      rw [lookup_of_none hsmall, lookup_of_none hlarge] at *
      exact hlookup.admit_both hP hsize hsmall hlarge
  | some b =>
      obtain ⟨hhit, hentries, -⟩ :=
        lookup_of_some hP hlarge access.stats access.time
      have hkey : b.objectId = access.request.objectId := KeyedStore.key_of_find hlarge
      simp only [hhit, if_true]
      cases hsmall : small.entries.find access.request.objectId with
      | none =>
          rw [lookup_of_none hsmall] at *
          refine hlookup.admit_small hP hsize hsmall (b := b.touch access.time) ?_ rfl
          rw [hentries, KeyedStore.find_insert, CacheEntry.touch_objectId, if_pos hkey.symm]
      | some a =>
          obtain ⟨hhit', -⟩ := lookup_of_some hP hsmall access.stats access.time
          simp only [hhit', if_true]
          exact hlookup

/-- Along a trace the two caches are told the same epochs and stay in the inclusion. -/
theorem Inclusion.serveAll (hP : RanksResidents P rank beaten) {trace : List Access}
    (hsizes : ∀ access ∈ trace, access.request.sizeBytes = sizeBytes) :
    ∀ state state' : Accessed P, state.currentEpoch = state'.currentEpoch →
      Inclusion A sizeBytes state.cache state'.cache →
      Inclusion A sizeBytes (trace.foldl (serve A) state).cache
        (trace.foldl (serve A) state').cache := by
  induction trace with
  | nil => exact fun _ _ _ h => h
  | cons access trace ih =>
      intro state state' hepoch h
      have hsize := hsizes access List.mem_cons_self
      have hstart : (startEpochIfNeeded state access).currentEpoch =
            (startEpochIfNeeded state' access).currentEpoch ∧
          Inclusion A sizeBytes (startEpochIfNeeded state access).cache
            (startEpochIfNeeded state' access).cache := by
        unfold startEpochIfNeeded
        rw [← hepoch]
        split
        · exact ⟨hepoch, h⟩
        · exact ⟨rfl, h.onEpochStart access.stats access.request.epochId⟩
      exact ih (fun other hother => hsizes other (List.mem_cons_of_mem access hother)) _ _ hstart.1
        (hstart.2.lookupOrAdmit hP access hsize)

theorem inclusion_init {smaller larger : Nat} (hle : smaller ≤ larger) :
    Inclusion A sizeBytes ({ capacityBytes := smaller } : LocalCache P)
      { capacityBytes := larger } := by
  have huniform : ∀ capacityBytes,
      Uniform A sizeBytes ({ capacityBytes := capacityBytes } : LocalCache P) := by
    intro capacityBytes
    refine ⟨?_, ?_, Nat.zero_le _, fun hne => absurd rfl hne⟩
    · intro entry hentry
      cases hentry
    · show 0 = A.norm (0 * sizeBytes)
      rw [Nat.zero_mul]
      exact (Nat.le_zero.mp (A.norm_le 0)).symm
  refine ⟨huniform smaller, huniform larger, rfl, hle, ?_, ?_, le_refl _⟩
  · intro objectId a ha
    cases ha
  · intro _ objectId hmem
    exact hmem

/-- After the trace, the larger cache holds what the smaller one holds, and it had at
    least as many hits. -/
structure LosesNoHits (A : Arith) (P : CachePolicy) (smaller larger : Nat)
    (trace : List Access) : Prop where
  contains : ∀ objectId, (serveAll A P smaller trace).contains objectId = true →
    (serveAll A P larger trace).contains objectId = true
  hitCount : (serveAll A P smaller trace).hitCount ≤ (serveAll A P larger trace).hitCount

theorem losesNoHits_of_ranksResidents (hP : RanksResidents P rank beaten) {smaller larger : Nat}
    (hle : smaller ≤ larger) {trace : List Access}
    (hsizes : ∀ access ∈ trace, access.request.sizeBytes = sizeBytes) :
    LosesNoHits A P smaller larger trace := by
  have h := Inclusion.serveAll (A := A) hP hsizes { cache := { capacityBytes := smaller } }
    { cache := { capacityBytes := larger } } rfl (inclusion_init hle)
  exact ⟨fun objectId hmem => h.mem_large hmem, h.hits⟩

/-- Larger caches lose no hits: with LRU and with each mode of the hotness policy, after
    every step of a trace of accesses to objects of one size, the residents of the smaller
    cache are residents of the larger one. -/
theorem serveAll_losesNoHits (A : Arith) (hotness : HotnessPolicyConfig) (sizeBytes : Nat)
    {smaller larger : Nat} (hle : smaller ≤ larger) (trace : List Access)
    (hsizes : ∀ access ∈ trace, access.request.sizeBytes = sizeBytes) :
    ∀ earlier, earlier <+: trace →
      LosesNoHits A LruPolicy smaller larger earlier ∧
        LosesNoHits A (HotnessOnlyPolicy A hotness) smaller larger earlier := by
  intro earlier hearlier
  have hsizes' : ∀ access ∈ earlier, access.request.sizeBytes = sizeBytes :=
    fun access hmem => hsizes access (hearlier.subset hmem)
  exact ⟨losesNoHits_of_ranksResidents LruPolicy.ranksResidents hle hsizes',
    losesNoHits_of_ranksResidents (HotnessOnlyPolicy.ranksResidents A hotness) hle hsizes'⟩

/-- Three accesses to two objects, the last in a new epoch. -/
def twoObjects : List Access :=
  [{ request := { objectId := 1, sizeBytes := 64 }, time := 0 },
    { request := { objectId := 2, sizeBytes := 64 }, time := 0 },
    { request := { objectId := 1, sizeBytes := 64, epochId := 1 }, time := 3 }]

theorem twoObjects_losesNoHits :
    (serveAll .word64 LruPolicy 64 twoObjects).hitCount = 0 ∧
      (serveAll .word64 LruPolicy 128 twoObjects).hitCount = 1 ∧
      LosesNoHits .word64 LruPolicy 64 128 twoObjects ∧
      LosesNoHits .word64 (HotnessOnlyPolicy .word64 { historyMode := .epoch }) 64 128
        twoObjects := by
  refine ⟨by decide +kernel, by decide +kernel, ?_⟩
  refine serveAll_losesNoHits .word64 { historyMode := .epoch } 64 (by decide) twoObjects ?_
    twoObjects (List.prefix_refl _)
  intro access haccess
  simp only [twoObjects, List.mem_cons, List.not_mem_nil, or_false] at haccess
  rcases haccess with rfl | rfl | rfl <;> rfl

end LocalCache

end DmSimulator
