/-
  DmSimulator.Cache.AdmissionPlan

  What `admit` plans under the three policies that rank residents: LRU, hotness
  and contention scores.  Each selects the resident of least rank and may refuse
  to give it up; the planning loop therefore works off the shortest prefix of
  the ranked residents whose removal makes room.
-/
import DmSimulator.Cache.Capacity
import DmSimulator.Cache.ContentionPolicy
import DmSimulator.Lib.Selection
import Mathlib.Data.Prod.Lex

namespace DmSimulator

open Selection

-- ============================================================================
-- The ranks of the policies
-- ============================================================================

/-- LRU ranks by access time, then by object id. -/
def LruPolicy.rank (entry : CacheEntry) : Nat ×ₗ Nat :=
  toLex (entry.lastAccessTime, entry.objectId)

/-- Hotness ranks by count, access time and object id. -/
def HotnessOnlyPolicy.rank (s : HotnessState) (entry : CacheEntry) : Nat ×ₗ Nat ×ₗ Nat :=
  toLex (HotnessOnlyPolicy.countFor s entry.objectId,
    toLex (entry.lastAccessTime, entry.objectId))

/-- Contention ranks by score, access time and object id. -/
def ContentionAwarePolicy.rank (config : ContentionPolicyConfig) (cacheCapacityBytes : Nat)
    (s : ContentionState) (entry : CacheEntry) : Rat ×ₗ Nat ×ₗ Nat :=
  toLex (ContentionAwarePolicy.scoreOf config cacheCapacityBytes s entry.objectId
      entry.sizeBytes, toLex (entry.lastAccessTime, entry.objectId))

theorem LruPolicy.older_eq (entry oldest : CacheEntry) :
    LruPolicy.older entry oldest = decide (LruPolicy.rank entry < LruPolicy.rank oldest) := by
  rw [Bool.eq_iff_iff, decide_eq_true_iff]
  simp only [LruPolicy.older, LruPolicy.rank, Prod.Lex.toLex_lt_toLex]
  split <;> simp_all

/-- The three-stage comparison of the hotness and contention scans is the
    lexicographic order. -/
theorem threeStage_eq {ρ : Type} [LinearOrder ρ] (x y : ρ) (t u i j : Nat) :
    (if x < y then true else if x = y && t < u then true else x = y && t = u && i < j) =
      decide (toLex (x, toLex (t, i)) < toLex (y, toLex (u, j))) := by
  rw [Bool.eq_iff_iff, decide_eq_true_iff]
  simp only [Prod.Lex.toLex_lt_toLex]
  rcases lt_trichotomy x y with hlt | heq | hgt
  · simp [hlt]
  · subst heq
    by_cases htu : t < u
    · simp [htu]
    · simp [htu]
  · simp [hgt.ne', not_lt.mpr hgt.le]

theorem HotnessOnlyPolicy.colder_eq (s : HotnessState) (entry coldest : CacheEntry) :
    HotnessOnlyPolicy.colder s entry coldest =
      decide (HotnessOnlyPolicy.rank s entry < HotnessOnlyPolicy.rank s coldest) :=
  threeStage_eq _ _ _ _ _ _

theorem ContentionAwarePolicy.weaker_eq (config : ContentionPolicyConfig)
    (cacheCapacityBytes : Nat) (s : ContentionState) (entry victim : CacheEntry) :
    ContentionAwarePolicy.weaker config cacheCapacityBytes s entry victim =
      decide (ContentionAwarePolicy.rank config cacheCapacityBytes s entry <
        ContentionAwarePolicy.rank config cacheCapacityBytes s victim) :=
  threeStage_eq _ _ _ _ _ _

-- ============================================================================
-- Policies that select by rank
-- ============================================================================

/-- In state `s` and for the given request, the policy selects the resident of
    least rank, and gives it up if it is `beaten` by the incoming object. -/
structure RankedBy (P : CachePolicy) (s : P.State) (request : Request) {ρ : Type}
    [LinearOrder ρ] (rank : CacheEntry → ρ) (beaten : CacheEntry → Prop) : Prop where
  rank_objectId : ∀ a b, rank a = rank b → a.objectId = b.objectId
  select_beaten : ∀ entries v, IsLeast rank entries.items v → beaten v →
    P.selectVictim s entries request = some v.objectId
  select_kept : ∀ entries v, IsLeast rank entries.items v → ¬ beaten v →
    P.selectVictim s entries request = none

/-- Selecting by rank does not depend on the iteration order. -/
theorem RankedBy.select_perm {P : CachePolicy} {ρ : Type} [LinearOrder ρ] {rank : CacheEntry → ρ}
    {beaten : CacheEntry → Prop} {s : P.State} {request : Request}
    (h : RankedBy P s request rank beaten) (e e' : Residents)
    (hperm : e'.items.Perm e.items) :
    P.selectVictim s e' request = P.selectVictim s e request := by
  by_cases hempty : e.items = []
  · have hempty' : e'.items = [] := by
      rw [hempty] at hperm
      exact hperm.eq_nil
    have heq : e' = e := KeyedStore.ext (hempty'.trans hempty.symm)
    rw [heq]
  · obtain ⟨v, hv⟩ := exists_isLeast rank hempty
    have hv' := hv.of_perm hperm.symm
    by_cases hbeaten : beaten v
    · rw [h.select_beaten e v hv hbeaten, h.select_beaten e' v hv' hbeaten]
    · rw [h.select_kept e v hv hbeaten, h.select_kept e' v hv' hbeaten]

theorem scanEntries_isLeast {ρ : Type} [LinearOrder ρ] {rank : CacheEntry → ρ}
    {better : CacheEntry → CacheEntry → Bool}
    (hbetter : ∀ a b, better a b = decide (rank a < rank b)) {entries : Residents}
    {v : CacheEntry} (h : scanEntries better entries = some v) :
    IsLeast rank entries.items v := by
  unfold scanEntries at h
  cases hitems : entries.items with
  | nil => simp [hitems] at h
  | cons first rest =>
      simp only [hitems, hbetter, decide_eq_true_eq, Option.some.injEq] at h
      obtain ⟨hmem, -, hall⟩ := foldl_scan_spec rank (first :: rest) first
      rw [h] at hmem hall
      refine ⟨?_, hall⟩
      rcases hmem with rfl | hmem
      · exact List.mem_cons_self
      · exact hmem

/-- If the rank determines the object, the scan finds the least entry. -/
theorem scanEntries_eq_some {ρ : Type} [LinearOrder ρ] {rank : CacheEntry → ρ}
    {better : CacheEntry → CacheEntry → Bool}
    (hbetter : ∀ a b, better a b = decide (rank a < rank b))
    (hid : ∀ a b, rank a = rank b → a.objectId = b.objectId) {entries : Residents}
    {v : CacheEntry} (h : IsLeast rank entries.items v) :
    scanEntries better entries = some v := by
  cases hscan : scanEntries better entries with
  | none =>
      unfold scanEntries at hscan
      have hmem := h.mem
      cases hitems : entries.items with
      | nil => simp [hitems] at hmem
      | cons first rest => simp [hitems] at hscan
  | some w =>
      have hw := scanEntries_isLeast hbetter hscan
      have hrank : rank w = rank v := le_antisymm (hw.le v h.mem) (h.le w hw.mem)
      rw [entries.eq_of_key_eq hw.mem h.mem (hid w v hrank)]

theorem LruPolicy.rankedBy (s : LruPolicy.State) (request : Request) :
    RankedBy LruPolicy s request LruPolicy.rank (fun _ => True) := by
  have hid : ∀ a b, LruPolicy.rank a = LruPolicy.rank b → a.objectId = b.objectId := by
    intro a b h
    simpa [LruPolicy.rank] using (Prod.mk.inj h).2
  refine ⟨hid, ?_, fun _ _ _ hnot => absurd trivial hnot⟩
  intro entries v hv _
  have hscan := scanEntries_eq_some LruPolicy.older_eq hid hv
  show LruPolicy.selectVictim entries = some v.objectId
  simp only [LruPolicy.selectVictim, hscan, Option.map_some]

theorem HotnessOnlyPolicy.rankedBy (A : Arith) (config : HotnessPolicyConfig)
    (s : HotnessState) (request : Request) :
    RankedBy (HotnessOnlyPolicy A config) s request (HotnessOnlyPolicy.rank s)
      (fun v => HotnessOnlyPolicy.countFor s v.objectId <
        HotnessOnlyPolicy.countFor s request.objectId) := by
  have hid : ∀ a b, HotnessOnlyPolicy.rank s a = HotnessOnlyPolicy.rank s b →
      a.objectId = b.objectId := by
    intro a b h
    exact (Prod.mk.inj (Prod.mk.inj h).2).2
  refine ⟨hid, ?_, ?_⟩
  · intro entries v hv hbeaten
    have hscan := scanEntries_eq_some (HotnessOnlyPolicy.colder_eq s) hid hv
    show HotnessOnlyPolicy.selectVictim s entries request = some v.objectId
    simp only [HotnessOnlyPolicy.selectVictim, hscan]
    rw [if_neg (by omega)]
  · intro entries v hv hkept
    have hscan := scanEntries_eq_some (HotnessOnlyPolicy.colder_eq s) hid hv
    show HotnessOnlyPolicy.selectVictim s entries request = none
    simp only [HotnessOnlyPolicy.selectVictim, hscan]
    rw [if_pos (by omega)]

theorem ContentionAwarePolicy.rankedBy (config : ContentionPolicyConfig)
    (cacheCapacityBytes : Nat) (s : ContentionState) (request : Request) :
    RankedBy (ContentionAwarePolicy config cacheCapacityBytes) s request
      (ContentionAwarePolicy.rank config cacheCapacityBytes s)
      (fun v =>
        ContentionAwarePolicy.scoreOf config cacheCapacityBytes s v.objectId v.sizeBytes +
            ContentionAwarePolicy.requiredMargin config <
          ContentionAwarePolicy.scoreOf config cacheCapacityBytes s request.objectId
            request.sizeBytes) := by
  have hid : ∀ a b, ContentionAwarePolicy.rank config cacheCapacityBytes s a =
      ContentionAwarePolicy.rank config cacheCapacityBytes s b → a.objectId = b.objectId := by
    intro a b h
    exact (Prod.mk.inj (Prod.mk.inj h).2).2
  refine ⟨hid, ?_, ?_⟩
  · intro entries v hv hbeaten
    have hscan := scanEntries_eq_some
      (ContentionAwarePolicy.weaker_eq config cacheCapacityBytes s) hid hv
    show ContentionAwarePolicy.selectVictim config cacheCapacityBytes s entries request =
      some v.objectId
    simp only [ContentionAwarePolicy.selectVictim, hscan]
    rw [if_neg (not_le.mpr hbeaten)]
  · intro entries v hv hkept
    have hscan := scanEntries_eq_some
      (ContentionAwarePolicy.weaker_eq config cacheCapacityBytes s) hid hv
    show ContentionAwarePolicy.selectVictim config cacheCapacityBytes s entries request = none
    simp only [ContentionAwarePolicy.selectVictim, hscan]
    rw [if_pos (not_lt.mp hkept)]

namespace LocalCache

variable {P : CachePolicy} {A : Arith}

-- ============================================================================
-- The plan
-- ============================================================================

def bytesOf (victims : List CacheEntry) : Nat := (victims.map CacheEntry.sizeBytes).sum

/-- Without the victims there is room for the incoming object. -/
def MakesRoom (c : LocalCache P) (request : Request) (victims : List CacheEntry) : Prop :=
  c.occupancyBytes - bytesOf victims + request.sizeBytes ≤ c.capacityBytes

/-- The shortest prefix of the residents in increasing rank that makes room. -/
def IsCheapestPrefix {ρ : Type} [LinearOrder ρ] (rank : CacheEntry → ρ) (c : LocalCache P)
    (request : Request) (victims : List CacheEntry) : Prop :=
  ∃ sorted, Ordered rank c.entries.items sorted ∧
    IsShortestPrefix (MakesRoom c request) sorted victims

/-- The incoming object is absent, fits, passes the admission decision, and the
    occupancy counter is exact. -/
structure Admissible (c : LocalCache P) (request : Request) (response : Response) : Prop where
  exact_occupancy : c.occupancyBytes = c.entries.total CacheEntry.sizeBytes
  absent : c.entries.find request.objectId = none
  fits : request.sizeBytes ≤ c.capacityBytes
  positive : (P.admissionDecision c.policy request response).shouldAdmit = true

section Ranked

variable {ρ : Type} [LinearOrder ρ] {rank : CacheEntry → ρ} {beaten : CacheEntry → Prop}
  {request : Request}

theorem ordered_erase {entries : Residents} {v : CacheEntry} {sorted : List CacheEntry}
    (h : Ordered rank entries.items (v :: sorted)) :
    entries.find v.objectId = some v ∧ Ordered rank (entries.erase v.objectId).items sorted := by
  have hfind : entries.find v.objectId = some v :=
    KeyedStore.find_eq_some.mpr ⟨h.isLeast_head.mem, rfl⟩
  have hperm := h.perm.trans (KeyedStore.perm_cons_erase hfind)
  exact ⟨hfind, hperm.cons_inv, (List.pairwise_cons.mp h.increasing).2⟩

theorem bytesOf_cons (v : CacheEntry) (victims : List CacheEntry) :
    bytesOf (v :: victims) = v.sizeBytes + bytesOf victims := by
  simp [bytesOf]

/-- The planning loop works off the shortest prefix that makes room, and gives up
    at the first resident the incoming object does not beat. -/
theorem planVictims_ordered {s : P.State} (h : RankedBy P s request rank beaten)
    {capacityBytes : Nat} {rest : List CacheEntry} (victims : List CacheEntry) :
    ∀ (fuel : Nat) (entries : Residents) (occupancy : Nat) (planned : List ObjectId),
      Ordered rank entries.items (victims ++ rest) → entries.items.length < fuel →
      occupancy - bytesOf victims + request.sizeBytes ≤ capacityBytes →
      (∀ shorter, shorter <+: victims → shorter ≠ victims →
        ¬ occupancy - bytesOf shorter + request.sizeBytes ≤ capacityBytes) →
      ((∀ v ∈ victims, beaten v) →
        planVictims .exact s capacityBytes request fuel entries occupancy planned =
          some (.planned (planned ++ victims.map CacheEntry.objectId))) ∧
      ((¬ ∀ v ∈ victims, beaten v) →
        ∃ ids, planVictims .exact s capacityBytes request fuel entries occupancy planned =
          some (.rejected "no_victim" ids)) := by
  induction victims with
  | nil =>
      intro fuel entries occupancy planned _ hfuel hroom _
      obtain ⟨fuel, rfl⟩ : ∃ f, fuel = f + 1 := ⟨fuel - 1, by omega⟩
      refine ⟨fun _ => ?_, fun hnot => absurd (by simp) hnot⟩
      have hroom' : ¬ Arith.exact.add occupancy request.sizeBytes > capacityBytes := by
        simpa [bytesOf] using hroom
      rw [planVictims, if_neg hroom']
      simp
  | cons v victims ih =>
      intro fuel entries occupancy planned hsorted hfuel hroom hshort
      obtain ⟨fuel, rfl⟩ : ∃ f, fuel = f + 1 := ⟨fuel - 1, by omega⟩
      have hfull : Arith.exact.add occupancy request.sizeBytes > capacityBytes := by
        have hnil := hshort [] List.nil_prefix (by simp)
        simpa [bytesOf] using hnil
      have hleast := hsorted.isLeast_head
      obtain ⟨hfind, hsorted'⟩ := ordered_erase hsorted
      have hlen := KeyedStore.length_erase hfind
      by_cases hv : beaten v
      · have hselect := h.select_beaten entries v hleast hv
        obtain ⟨hall, hsome⟩ :=
          ih fuel (entries.erase v.objectId) (occupancy - v.sizeBytes)
            (planned ++ [v.objectId]) hsorted' (by omega)
            (by rw [bytesOf_cons] at hroom; omega)
            (by
              intro shorter hfront hne
              have hcons := hshort (v :: shorter) (by simpa using hfront) (by simpa using hne)
              rw [bytesOf_cons] at hcons
              omega)
        rw [planVictims, if_pos hfull]
        simp only [hselect, hfind, Arith.sub_exact]
        refine ⟨fun hbeaten => ?_, fun hnot => ?_⟩
        · rw [hall (fun w hw => hbeaten w (List.mem_cons_of_mem v hw))]
          simp
        · apply hsome
          intro hbeaten
          apply hnot
          intro w hw
          rcases List.mem_cons.mp hw with rfl | hw
          · exact hv
          · exact hbeaten w hw
      · have hselect := h.select_kept entries v hleast hv
        refine ⟨fun hbeaten => absurd (hbeaten v List.mem_cons_self) hv, fun _ => ?_⟩
        refine ⟨planned, ?_⟩
        rw [planVictims, if_pos hfull]
        simp only [hselect]

@[simp] theorem bytesOf_nil : bytesOf [] = 0 := rfl

theorem bytesOf_perm {victims victims' : List CacheEntry} (h : victims.Perm victims') :
    bytesOf victims = bytesOf victims' :=
  (h.map CacheEntry.sizeBytes).sum_eq

/-- If whatever ranks below a beaten resident is beaten too, the planning loop succeeds
    exactly if there is room without the beaten residents. -/
theorem planVictims_planned_iff {s : P.State} (h : RankedBy P s request rank beaten)
    [DecidablePred beaten] (hdown : ∀ a b, rank a ≤ rank b → beaten b → beaten a)
    (capacityBytes : Nat) :
    ∀ (fuel : Nat) (entries : Residents) (occupancy : Nat) (planned : List ObjectId),
      entries.items.length < fuel →
      ((∃ victims, planVictims .exact s capacityBytes request fuel entries occupancy planned =
          some (.planned victims)) ↔
        occupancy - bytesOf (entries.items.filter fun v => beaten v) + request.sizeBytes ≤
          capacityBytes) := by
  intro fuel
  induction fuel with
  | zero =>
      intro entries occupancy planned hfuel
      omega
  | succ fuel ih =>
      intro entries occupancy planned hfuel
      rw [planVictims]
      by_cases hfull : Arith.exact.add occupancy request.sizeBytes > capacityBytes
      · rw [if_pos hfull]
        rw [Arith.add_exact] at hfull
        by_cases hempty : entries.items = []
        · -- nothing to evict, whatever the policy answers
          have hfind : ∀ victim, entries.find victim = none := by
            intro victim
            rw [KeyedStore.find_eq_none, hempty]
            simp
          rw [hempty, List.filter_nil, bytesOf_nil, Nat.sub_zero, iff_false_right (by omega)]
          cases P.selectVictim s entries request <;> simp [hfind]
        · obtain ⟨v, hleast⟩ := exists_isLeast rank hempty
          have hfind : entries.find v.objectId = some v :=
            KeyedStore.find_eq_some.mpr ⟨hleast.mem, rfl⟩
          by_cases hv : beaten v
          · have hlen := KeyedStore.length_erase hfind
            have hfilter := bytesOf_perm
              ((KeyedStore.perm_cons_erase hfind).filter fun v => beaten v)
            rw [List.filter_cons_of_pos (by simpa using hv), bytesOf_cons] at hfilter
            rw [h.select_beaten entries v hleast hv, hfilter]
            simp only [hfind, Arith.sub_exact]
            rw [ih _ _ _ (by omega), Nat.sub_sub]
          · have hnone : entries.items.filter (fun v => beaten v) = [] := by
              rw [List.filter_eq_nil_iff]
              intro b hb
              have hkept : ¬ beaten b := fun hbeaten => hv (hdown v b (hleast.le b hb) hbeaten)
              simpa using hkept
            rw [h.select_kept entries v hleast hv, hnone]
            rw [bytesOf_nil, Nat.sub_zero, iff_false_right (by omega)]
            simp
      · rw [if_neg hfull]
        rw [Arith.add_exact] at hfull
        exact iff_of_true ⟨planned, rfl⟩ (by omega)

theorem exists_ordered_residents (hid : ∀ a b, rank a = rank b → a.objectId = b.objectId)
    (entries : Residents) : ∃ sorted, Ordered rank entries.items sorted := by
  apply exists_ordered
  rw [List.Nodup, List.pairwise_map]
  exact (List.pairwise_map.mp entries.nodup).imp fun hne heq => hne (hid _ _ heq)

/-- There is exactly one cheapest prefix. -/
theorem existsUnique_cheapestPrefix
    (hid : ∀ a b, rank a = rank b → a.objectId = b.objectId) {c : LocalCache P}
    {response : Response} (hc : Admissible c request response) :
    ∃! victims, IsCheapestPrefix rank c request victims := by
  obtain ⟨sorted, hsorted⟩ := exists_ordered_residents hid c.entries
  have hbytes : bytesOf sorted = c.occupancyBytes := by
    rw [hc.exact_occupancy]
    exact (hsorted.perm.map CacheEntry.sizeBytes).sum_eq
  have hgoal : MakesRoom c request sorted := by
    have hfits := hc.fits
    unfold MakesRoom
    omega
  obtain ⟨victims, hvictims⟩ := exists_isShortestPrefix hgoal
  refine ⟨victims, ⟨sorted, hsorted, hvictims⟩, ?_⟩
  rintro victims' ⟨sorted', hsorted', hvictims'⟩
  rw [hsorted.unique hsorted'] at hvictims
  exact hvictims'.unique hvictims

/-- What `admit` does with the cheapest prefix. -/
theorem admit_of_cheapestPrefix {c : LocalCache P}
    (h : RankedBy P c.policy request rank beaten) {response : Response}
    (hc : Admissible c request response) {victims : List CacheEntry}
    (hvictims : IsCheapestPrefix rank c request victims) (time : SimTime) :
    let ids := victims.map CacheEntry.objectId
    ((∀ v ∈ victims, beaten v) →
      admitObject .exact c request response time =
        (place .exact (evictAll .exact c ids time) request time).recordResult request response
          time true "admitted" ids) ∧
    ((¬ ∀ v ∈ victims, beaten v) →
      ∃ planned, admitObject .exact c request response time =
        c.recordResult request response time false "no_victim" planned) := by
  intro ids
  obtain ⟨sorted, hsorted, hshortest⟩ := hvictims
  obtain ⟨rest, hrest⟩ := hshortest.front
  rw [← hrest] at hsorted
  obtain ⟨hall, hsome⟩ := planVictims_ordered h victims (c.entries.items.length + 1) c.entries
    c.occupancyBytes [] hsorted (Nat.lt_succ_self _) hshortest.reaches hshortest.minimal
  have hfits : ¬ request.sizeBytes > c.capacityBytes := by
    have hle := hc.fits
    omega
  refine ⟨fun hbeaten => ?_, fun hnot => ?_⟩
  · have hplan : victimPlan .exact c request = some (.planned ids) := hall hbeaten
    simp [admitObject, hc.positive, hfits, hplan]
  · obtain ⟨planned, hplan⟩ := hsome hnot
    have hplan' : victimPlan .exact c request = some (.rejected "no_victim" planned) := hplan
    exact ⟨planned, by simp [admitObject, hc.positive, hfits, hplan']⟩

end Ranked

-- ============================================================================
-- Independence of the iteration order
-- ============================================================================

/-- The same cache, with its entries in another iteration order. -/
structure SameContents (c c' : LocalCache P) : Prop where
  perm : c'.entries.items.Perm c.entries.items
  rest : c' = { c with entries := c'.entries }

theorem SameContents.evict {c c' : LocalCache P} (h : SameContents c c') (objectId : ObjectId)
    (time : SimTime) : SameContents (evict A c objectId time) (evict A c' objectId time) := by
  obtain ⟨hperm, hrest⟩ := h
  generalize c'.entries = entries at hperm hrest
  subst hrest
  have hfind := KeyedStore.find_perm hperm objectId
  unfold LocalCache.evict
  simp only [hfind]
  cases c.entries.find objectId with
  | none => exact ⟨hperm, rfl⟩
  | some entry =>
      have herase := KeyedStore.erase_perm hperm objectId
      simp only
      cases c.activePlacementByObject.lookup objectId with
      | none => exact ⟨herase, rfl⟩
      | some index => exact ⟨herase, rfl⟩

theorem SameContents.evictAll {c c' : LocalCache P} (h : SameContents c c')
    (victims : List ObjectId) (time : SimTime) :
    SameContents (evictAll A c victims time) (evictAll A c' victims time) := by
  induction victims generalizing c c' with
  | nil => exact h
  | cons victim victims ih => exact ih (h.evict victim time)

theorem SameContents.place {c c' : LocalCache P} (h : SameContents c c') (request : Request)
    (time : SimTime) : SameContents (place A c request time) (place A c' request time) := by
  obtain ⟨hperm, hrest⟩ := h
  generalize c'.entries = entries at hperm hrest
  subst hrest
  exact ⟨KeyedStore.insert_perm hperm _, rfl⟩

theorem SameContents.recordResult {c c' : LocalCache P} (h : SameContents c c')
    (request : Request) (response : Response) (time : SimTime) (admitted : Bool)
    (reason : String) (victims : List ObjectId) :
    SameContents (c.recordResult request response time admitted reason victims).1
      (c'.recordResult request response time admitted reason victims).1 := by
  obtain ⟨hperm, hrest⟩ := h
  generalize c'.entries = entries at hperm hrest
  subst hrest
  unfold LocalCache.recordResult
  cases admitted <;> exact ⟨hperm, rfl⟩

theorem planVictims_perm {s : P.State} {request : Request}
    (hselect : ∀ e e' : Residents, e'.items.Perm e.items →
      P.selectVictim s e' request = P.selectVictim s e request) (capacityBytes : Nat)
    {fuel : Nat} : ∀ (entries entries' : Residents) (occupancy : Nat) (planned : List ObjectId),
      entries'.items.Perm entries.items →
      planVictims A s capacityBytes request fuel entries' occupancy planned =
        planVictims A s capacityBytes request fuel entries occupancy planned := by
  induction fuel with
  | zero => intros; rfl
  | succ fuel ih =>
      intro entries entries' occupancy planned hperm
      rw [planVictims, planVictims, hselect entries entries' hperm]
      split
      · cases P.selectVictim s entries request with
        | none => rfl
        | some victim =>
            simp only [KeyedStore.find_perm hperm]
            cases entries.find victim with
            | none => rfl
            | some entry => exact ih _ _ _ _ (KeyedStore.erase_perm hperm victim)
      · rfl

/-- `admit` does the same in any iteration order, if victim selection does. -/
theorem SameContents.admitObject {c c' : LocalCache P} (h : SameContents c c') {request : Request}
    (hselect : ∀ e e' : Residents, e'.items.Perm e.items →
      P.selectVictim c.policy e' request = P.selectVictim c.policy e request)
    (response : Response) (time : SimTime) :
    (admitObject A c' request response time).2 = (admitObject A c request response time).2 ∧
      SameContents (admitObject A c request response time).1 (admitObject A c' request response time).1 := by
  have hpolicy : c'.policy = c.policy := by rw [h.rest]
  have hcapacity : c'.capacityBytes = c.capacityBytes := by rw [h.rest]
  have hoccupancy : c'.occupancyBytes = c.occupancyBytes := by rw [h.rest]
  have hplan : victimPlan A c' request = victimPlan A c request := by
    unfold victimPlan
    rw [hpolicy, hcapacity, hoccupancy, h.perm.length_eq]
    exact planVictims_perm hselect c.capacityBytes _ _ _ _ h.perm
  unfold LocalCache.admitObject
  rw [hpolicy, hcapacity, hplan]
  simp only
  split
  · exact ⟨by simp, h.recordResult _ _ _ _ _ _⟩
  · split
    · exact ⟨by simp, h.recordResult _ _ _ _ _ _⟩
    · cases victimPlan A c request with
      | none => exact ⟨rfl, h⟩
      | some plan =>
          cases plan with
          | rejected reason victims => exact ⟨by simp, h.recordResult _ _ _ _ _ _⟩
          | planned victims =>
              exact ⟨by simp, ((h.evictAll victims time).place request time).recordResult _ _ _ _ _ _⟩

-- ============================================================================
-- Minimal, atomic and order-independent admission
-- ============================================================================

/-- Admission evicts exactly the cheapest prefix, or leaves no trace. -/
structure AdmitsCheapestPrefix {ρ : Type} [LinearOrder ρ] (rank : CacheEntry → ρ)
    (beaten : CacheEntry → Prop) (c : LocalCache P) (request : Request) (response : Response)
    (time : SimTime) : Prop where
  unique_prefix : ∃! victims, IsCheapestPrefix rank c request victims
  succeeds_iff : ∀ victims, IsCheapestPrefix rank c request victims →
    ((admitObject .exact c request response time).2 = true ↔ ∀ v ∈ victims, beaten v)
  evicts_in_order : ∀ victims, IsCheapestPrefix rank c request victims →
    (admitObject .exact c request response time).2 = true →
    admitObject .exact c request response time =
      (place .exact (evictAll .exact c (victims.map CacheEntry.objectId) time) request
        time).recordResult request response time true "admitted"
          (victims.map CacheEntry.objectId)
  contents : ∀ victims, IsCheapestPrefix rank c request victims →
    (admitObject .exact c request response time).2 = true → ∀ objectId,
    (admitObject .exact c request response time).1.entries.find objectId =
      if objectId = request.objectId then
        some (P.onAccess c.policy (incomingEntry request time) time)
      else if objectId ∈ victims.map CacheEntry.objectId then none
      else c.entries.find objectId
  leaves_no_trace : (admitObject .exact c request response time).2 = false →
    (admitObject .exact c request response time).1.entries = c.entries ∧
    (admitObject .exact c request response time).1.occupancyBytes = c.occupancyBytes ∧
    (admitObject .exact c request response time).1.bytesAdmitted = c.bytesAdmitted ∧
    (admitObject .exact c request response time).1.bytesEvicted = c.bytesEvicted ∧
    (admitObject .exact c request response time).1.activePlacementByObject =
      c.activePlacementByObject
  order_independent : ∀ c', SameContents c c' →
    (admitObject .exact c' request response time).2 = (admitObject .exact c request response time).2 ∧
    SameContents (admitObject .exact c request response time).1
      (admitObject .exact c' request response time).1

theorem admitsCheapestPrefix {ρ : Type} [LinearOrder ρ] {rank : CacheEntry → ρ}
    {beaten : CacheEntry → Prop} {c : LocalCache P} {request : Request} {response : Response}
    (h : RankedBy P c.policy request rank beaten) (hc : Admissible c request response)
    (time : SimTime) : AdmitsCheapestPrefix rank beaten c request response time := by
  have hunique := existsUnique_cheapestPrefix h.rank_objectId hc
  have hiff : ∀ victims, IsCheapestPrefix rank c request victims →
      ((admitObject .exact c request response time).2 = true ↔ ∀ v ∈ victims, beaten v) := by
    intro victims hvictims
    obtain ⟨hall, hsome⟩ := admit_of_cheapestPrefix h hc hvictims time
    constructor
    · intro hadmitted
      by_contra hnot
      obtain ⟨planned, heq⟩ := hsome hnot
      rw [heq] at hadmitted
      simp at hadmitted
    · intro hbeaten
      rw [hall hbeaten]
      simp
  have horder : ∀ victims, IsCheapestPrefix rank c request victims →
      (admitObject .exact c request response time).2 = true →
      admitObject .exact c request response time =
        (place .exact (evictAll .exact c (victims.map CacheEntry.objectId) time) request
          time).recordResult request response time true "admitted"
            (victims.map CacheEntry.objectId) := by
    intro victims hvictims hadmitted
    obtain ⟨hall, -⟩ := admit_of_cheapestPrefix h hc hvictims time
    exact hall ((hiff victims hvictims).mp hadmitted)
  refine ⟨hunique, hiff, horder, ?_, ?_, fun c' hsame => hsame.admitObject h.select_perm response time⟩
  · intro victims hvictims hadmitted objectId
    rw [horder victims hvictims hadmitted, recordResult_entries, place_find, evictAll_find,
      evictAll_policy]
  · intro hrejected
    obtain ⟨victims, hvictims, -⟩ := hunique
    obtain ⟨-, hsome⟩ := admit_of_cheapestPrefix h hc hvictims time
    have hnot : ¬ ∀ v ∈ victims, beaten v := by
      intro hbeaten
      rw [(hiff victims hvictims).mpr hbeaten] at hrejected
      simp at hrejected
    obtain ⟨planned, heq⟩ := hsome hnot
    rw [heq]
    exact ⟨rfl, rfl, rfl, rfl, rfl⟩

/-- An LRU cache of ten bytes with two residents of six and four bytes. -/
def twoResidents : LocalCache LruPolicy :=
  { capacityBytes := 10
    occupancyBytes := 10
    entries :=
      { items := [{ objectId := 2, sizeBytes := 4, lastAccessTime := 2 },
          { objectId := 1, sizeBytes := 6, lastAccessTime := 1 }]
        nodup := by decide } }

end LocalCache

end DmSimulator
