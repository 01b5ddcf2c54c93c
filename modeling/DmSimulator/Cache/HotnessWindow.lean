/-
  DmSimulator.Cache.HotnessWindow

  The counts of the windowed hotness policy.

  The policy adds every lookup to a total and to the bucket of its epoch, and at
  the start of an epoch takes the buckets that have left the window out of the
  totals.  Whether a bucket has left is decided by a sum that can wrap around at
  the word size; a count is that of the window exactly if for no earlier lookup of
  the object the sum does.
-/
import DmSimulator.Cache.HotnessPolicy
import DmSimulator.Lib.EpochCounts

namespace DmSimulator

open EpochCounts

-- ============================================================================
-- Count tables
-- ============================================================================

theorem countOf_eq (counts : UnorderedMap ObjectId Nat) (key : ObjectId) :
    countOf counts key = (counts.lookup key).getD 0 := by
  unfold countOf
  cases counts.lookup key <;> rfl

theorem countOf_empty (key : ObjectId) : countOf ∅ key = 0 := rfl

theorem countOf_insert (counts : UnorderedMap ObjectId Nat) (key other : ObjectId) (count : Nat) :
    countOf (counts.insert key count) other = if other = key then count else countOf counts other := by
  rw [countOf_eq, countOf_eq]
  by_cases h : other = key
  · rw [if_pos h, h, AList.lookup_insert, Option.getD_some]
  · rw [if_neg h, AList.lookup_insert_ne h]

theorem countOf_erase (counts : UnorderedMap ObjectId Nat) (key other : ObjectId) :
    countOf (counts.erase key) other = if other = key then 0 else countOf counts other := by
  rw [countOf_eq, countOf_eq]
  by_cases h : other = key
  · rw [if_pos h, h, AList.lookup_erase, Option.getD_none]
  · rw [if_neg h, AList.lookup_erase_ne h]

theorem countOf_bumpCount (counts : UnorderedMap ObjectId Nat) (key other : ObjectId) :
    countOf (bumpCount counts key) other =
      countOf counts other + if other = key then 1 else 0 := by
  unfold bumpCount
  rw [countOf_insert]
  by_cases h : other = key
  · rw [if_pos h, if_pos h, h, countOf_eq]
    rfl
  · rw [if_neg h, if_neg h, Nat.add_zero]

/-- Erasing a count that would not stay positive subtracts it as well. -/
theorem countOf_subtractCounts (totals epochCounts : UnorderedMap ObjectId Nat)
    (key : ObjectId) :
    countOf (subtractCounts totals epochCounts) key =
      countOf totals key - countOf epochCounts key := by
  unfold subtractCounts
  induction epochCounts using AList.insertRec generalizing totals with
  | H0 => rfl
  | IH first count rest hnot ih =>
      rw [AList.entries_insert_of_notMem hnot, List.foldl_cons, ih, countOf_insert]
      have hrest : countOf rest first = 0 := by
        rw [countOf_eq, AList.lookup_eq_none.mpr hnot, Option.getD_none]
      cases hlookup : totals.lookup first with
      | none =>
          have hzero : countOf totals first = 0 := by rw [countOf_eq, hlookup, Option.getD_none]
          by_cases h : key = first
          · subst h
            simp only [if_true, hzero, Nat.zero_sub]
          · simp only [if_neg h]
      | some total =>
          have htotal : countOf totals first = total := by
            rw [countOf_eq, hlookup, Option.getD_some]
          by_cases hle : total ≤ count
          · simp only [if_pos hle, countOf_erase]
            by_cases h : key = first
            · subst h
              rw [if_pos rfl, if_pos rfl, htotal, Nat.zero_sub]
              omega
            · rw [if_neg h, if_neg h]
          · simp only [if_neg hle, countOf_insert]
            by_cases h : key = first
            · subst h
              rw [if_pos rfl, if_pos rfl, htotal, hrest, Nat.sub_zero]
            · rw [if_neg h, if_neg h]

/-- What a lookup counts for. -/
def Request.occurrence (request : Request) : EpochId × ObjectId :=
  (request.epochId, request.objectId)

namespace HotnessOnlyPolicy

variable {A : Arith} {config : HotnessPolicyConfig} {s : HotnessState}
  {history : List (EpochId × ObjectId)} {kept : EpochId → Bool}

/-- The count of an object in the bucket of an epoch. -/
def bucketCount (s : HotnessState) (epochId : EpochId) (objectId : ObjectId) : Nat :=
  countOf (s.epochAccessCounts.getD epochId ∅) objectId

-- ============================================================================
-- One operation
-- ============================================================================

theorem tracks_onLookup (hmode : config.historyMode = .windowed)
    (h : Tracks kept history (bucketCount s) (countFor s)) (request : Request)
    (hkept : kept request.epochId) :
    Tracks kept (history ++ [request.occurrence]) (bucketCount (onLookup config s request))
      (countFor (onLookup config s request)) := by
  have hlookup : onLookup config s request =
      { accessCounts := bumpCount s.accessCounts request.objectId
        epochAccessCounts := s.epochAccessCounts.insert request.epochId
          (bumpCount (s.epochAccessCounts.getD request.epochId ∅) request.objectId) } := by
    unfold onLookup
    simp [hmode]
  rw [hlookup]
  refine h.record hkept request.objectId (fun e k => ?_) (fun k => ?_)
  · unfold bucketCount UnorderedMap.getD
    by_cases he : e = request.epochId
    · subst he
      rw [AList.lookup_insert, Option.getD_some, countOf_bumpCount]
      simp
    · rw [AList.lookup_insert_ne he]
      simp [he]
  · exact countOf_bumpCount s.accessCounts request.objectId k

/-- Dropping the buckets of some epochs. -/
theorem tracks_dropEpochs (epochs : List EpochId)
    (h : Tracks kept history (bucketCount s) (countFor s)) :
    let dropped := epochs.foldl
      (fun s oldEpoch =>
        { accessCounts := subtractCounts s.accessCounts (s.epochAccessCounts.getD oldEpoch ∅)
          epochAccessCounts := s.epochAccessCounts.erase oldEpoch }) s
    Tracks (fun e => kept e && !epochs.contains e) history (bucketCount dropped)
      (countFor dropped) := by
  induction epochs generalizing s kept with
  | nil => exact h.congr (fun p _ => by simp) (fun _ _ => rfl) (fun _ => rfl)
  | cons epoch epochs ih =>
      refine (ih (h.drop epoch ?_ ?_)).congr ?_ (fun _ _ => rfl) (fun _ => rfl)
      · intro e k
        unfold bucketCount UnorderedMap.getD
        by_cases he : e = epoch
        · rw [if_pos he, he, AList.lookup_erase]
          rfl
        · rw [if_neg he, AList.lookup_erase_ne he]
      · exact fun k => countOf_subtractCounts _ _ k
      · intro p _
        cases kept p.1 <;> by_cases he : p.1 = epoch <;> simp [he]

/-- The start of an epoch drops the buckets whose window is over. -/
theorem tracks_onEpochStart (hmode : config.historyMode = .windowed)
    (h : Tracks kept history (bucketCount s) (countFor s)) (epochId : EpochId) :
    Tracks (fun e => kept e && decide (epochId < A.add e config.historyWindowEpochs)) history
      (bucketCount (onEpochStart A config s epochId))
      (countFor (onEpochStart A config s epochId)) := by
  have hstart : onEpochStart A config s epochId = pruneWindow A config s epochId := by
    unfold onEpochStart
    rw [hmode]
  rw [hstart]
  refine (tracks_dropEpochs _ h).congr ?_ (fun _ _ => rfl) (fun _ => rfl)
  intro p hp
  cases hkept : kept p.1 with
  | false => rfl
  | true =>
      -- an epoch with a counted lookup has a bucket
      have hpos : 0 < bucketCount s p.1 p.2 := by
        rw [h.bucket_eq, if_pos hkept]
        exact List.count_pos_iff.mpr hp
      have hkey : p.1 ∈ s.epochAccessCounts.keys := by
        by_contra hnot
        have hnone : s.epochAccessCounts.lookup p.1 = none :=
          AList.lookup_eq_none.mpr hnot
        unfold bucketCount UnorderedMap.getD at hpos
        rw [hnone] at hpos
        exact absurd hpos (Nat.lt_irrefl 0)
      rw [Bool.true_and, Bool.true_and, Bool.eq_iff_iff]
      simp [hkey]

-- ============================================================================
-- A history of lookups
-- ============================================================================

/-- Announce the epoch of a request if it is not the current one, and look the
    request up. -/
def trackLookup (A : Arith) (config : HotnessPolicyConfig)
    (tracked : HotnessState × Option EpochId) (request : Request) :
    HotnessState × Option EpochId :=
  let s :=
    if tracked.2 = some request.epochId then tracked.1
    else onEpochStart A config tracked.1 request.epochId
  (onLookup config s request, some request.epochId)

/-- The policy after a history of lookups. -/
def trackLookups (A : Arith) (config : HotnessPolicyConfig) (requests : List Request) :
    HotnessState × Option EpochId :=
  requests.foldl (trackLookup A config) ({}, none)

/-- The epochs whose buckets are there in epoch `current`. -/
def retained (A : Arith) (window : Nat) (current epochId : EpochId) : Bool :=
  decide (epochId = current) || decide (current < A.add epochId window)

/-- What is tracked after a history: the lookups of the retained epochs. -/
theorem trackLookups_tracks (hmode : config.historyMode = .windowed) {requests : List Request}
    {last : Request}
    (hsorted : ((requests ++ [last]).map Request.epochId).Pairwise (· ≤ ·)) :
    let tracked := trackLookups A config (requests ++ [last])
    tracked.2 = some last.epochId ∧
      Tracks (retained A config.historyWindowEpochs last.epochId)
        ((requests ++ [last]).map Request.occurrence) (bucketCount tracked.1)
        (countFor tracked.1) := by
  induction requests using List.reverseRecOn generalizing last with
  | nil =>
      refine ⟨rfl, ?_⟩
      have hinit : Tracks (retained A config.historyWindowEpochs last.epochId)
          ([] : List (EpochId × ObjectId)) (bucketCount ({} : HotnessState))
          (countFor ({} : HotnessState)) := Tracks.init
      have hannounced : Tracks (retained A config.historyWindowEpochs last.epochId) []
          (bucketCount (onEpochStart A config {} last.epochId))
          (countFor (onEpochStart A config {} last.epochId)) :=
        (tracks_onEpochStart hmode hinit last.epochId).congr (by simp) (fun _ _ => rfl)
          (fun _ => rfl)
      exact tracks_onLookup hmode hannounced last (by simp [retained])
  | append_singleton requests previous ih =>
      have hearlier : ((requests ++ [previous]).map Request.epochId).Pairwise (· ≤ ·) := by
        rw [List.map_append] at hsorted
        exact (List.pairwise_append.mp hsorted).1
      have hbefore : ∀ p ∈ (requests ++ [previous]).map Request.occurrence,
          p.1 ≤ previous.epochId := by
        intro p hp
        obtain ⟨r, hr, rfl⟩ := List.mem_map.mp hp
        rw [List.map_append, List.pairwise_append] at hearlier
        rcases List.mem_append.mp hr with hin | hin
        · exact hearlier.2.2 _ (List.mem_map_of_mem hin) _ (by simp)
        · rw [List.mem_singleton.mp hin]
          exact le_refl _
      have hle : previous.epochId ≤ last.epochId := by
        rw [List.map_append, List.pairwise_append] at hsorted
        exact hsorted.2.2 _ (List.mem_map_of_mem (by simp)) _ (by simp)
      obtain ⟨hcurrent, htracks⟩ := ih hearlier
      have hfold : trackLookups A config ((requests ++ [previous]) ++ [last]) =
          trackLookup A config (trackLookups A config (requests ++ [previous])) last := by
        unfold trackLookups
        rw [List.foldl_append]
        rfl
      rw [hfold]
      refine ⟨rfl, ?_⟩
      rw [List.map_append]
      unfold trackLookup
      simp only [hcurrent, Option.some.injEq]
      by_cases hsame : previous.epochId = last.epochId
      · rw [if_pos hsame]
        rw [hsame] at htracks
        exact tracks_onLookup hmode htracks last (by simp [retained])
      · rw [if_neg hsame]
        -- what a later epoch retains is retained in this one
        have hretained : ∀ p ∈ (requests ++ [previous]).map Request.occurrence,
            (retained A config.historyWindowEpochs previous.epochId p.1 &&
              decide (last.epochId < A.add p.1 config.historyWindowEpochs)) =
            retained A config.historyWindowEpochs last.epochId p.1 := by
          intro p hp
          have hp' := hbefore p hp
          have hne : p.1 ≠ last.epochId := by lia
          unfold retained
          by_cases hin : last.epochId < A.add p.1 config.historyWindowEpochs
          · have hin' : previous.epochId < A.add p.1 config.historyWindowEpochs := by lia
            simp [hin, hin']
          · simp [hin, hne]
        have hannounced := (tracks_onEpochStart hmode htracks last.epochId).congr hretained
          (fun _ _ => rfl) (fun _ => rfl)
        exact tracks_onLookup hmode hannounced last (by simp [retained])

-- ============================================================================
-- The window
-- ============================================================================

/-- The lookups of an object in the last `window` epochs up to `current`. -/
def windowCount (window : Nat) (current : EpochId) (requests : List Request)
    (objectId : ObjectId) : Nat :=
  keptCount (fun epochId => decide (epochId ≤ current ∧ current - epochId < window))
    (requests.map Request.occurrence) objectId

/-- After a lookup in epoch `E`, the count that admissions and evictions use for an
    object is that of the window, exactly if for no earlier lookup of the object the
    sum of epoch and window overflows. -/
theorem countFor_eq_windowCount_iff (hmode : config.historyMode = .windowed)
    (hpos : 1 ≤ config.historyWindowEpochs) (hwindow : config.historyWindowEpochs < Arith.wordSize)
    {earlier : List Request} {last : Request}
    (hsorted : ((earlier ++ [last]).map Request.epochId).Pairwise (· ≤ ·))
    (hword : ∀ r ∈ earlier ++ [last], r.epochId < Arith.wordSize) (objectId : ObjectId) :
    countFor (trackLookups .word64 config (earlier ++ [last])).1 objectId =
        windowCount config.historyWindowEpochs last.epochId (earlier ++ [last]) objectId ↔
      ∀ r ∈ earlier ++ [last], r.objectId = objectId → r.epochId < last.epochId →
        r.epochId + config.historyWindowEpochs < Arith.wordSize := by
  have hbefore : ∀ r ∈ earlier ++ [last], r.epochId ≤ last.epochId := by
    intro r hr
    rw [List.map_append, List.pairwise_append] at hsorted
    rcases List.mem_append.mp hr with hin | hin
    · exact hsorted.2.2 _ (List.mem_map_of_mem hin) _ (by simp)
    · rw [List.mem_singleton.mp hin]
  have hlast := hword last (by simp)
  obtain ⟨-, htracks⟩ := trackLookups_tracks (A := .word64) hmode hsorted
  rw [htracks.total_eq]
  -- what is retained lies in the window
  have hsub : ∀ p ∈ (earlier ++ [last]).map Request.occurrence,
      retained .word64 config.historyWindowEpochs last.epochId p.1 →
        decide (p.1 ≤ last.epochId ∧ last.epochId - p.1 < config.historyWindowEpochs) := by
    intro p hp hretained
    obtain ⟨r, hr, rfl⟩ := List.mem_map.mp hp
    have hle : r.epochId ≤ last.epochId := hbefore r hr
    unfold retained at hretained
    rw [Bool.or_eq_true, decide_eq_true_eq, decide_eq_true_eq, Arith.add_word64] at hretained
    rw [decide_eq_true_eq]
    show r.epochId ≤ last.epochId ∧ last.epochId - r.epochId < config.historyWindowEpochs
    rcases hretained with heq | hlt
    · have heq' : r.epochId = last.epochId := heq
      lia
    · have hmod := Nat.mod_le (r.epochId + config.historyWindowEpochs) Arith.wordSize
      have hlt' : last.epochId <
          (r.epochId + config.historyWindowEpochs) % Arith.wordSize := hlt
      lia
  unfold windowCount
  rw [keptCount_eq_iff hsub]
  constructor
  · intro hall r hr hobject hlt
    by_contra hover
    -- the sum wraps around to an epoch that is over
    have hwraps : (r.epochId + config.historyWindowEpochs) % Arith.wordSize =
        r.epochId + config.historyWindowEpochs - Arith.wordSize := by
      have hr' := hword r hr
      rw [Nat.mod_eq_sub_mod (by lia), Nat.mod_eq_of_lt (by lia)]
    have hretained := hall r.occurrence (List.mem_map_of_mem hr) hobject (by
      rw [decide_eq_true_eq]
      show r.epochId ≤ last.epochId ∧ last.epochId - r.epochId < config.historyWindowEpochs
      lia)
    unfold retained at hretained
    rw [Bool.or_eq_true, decide_eq_true_eq, decide_eq_true_eq, Arith.add_word64] at hretained
    rcases hretained with heq | hin
    · exact absurd heq (Nat.ne_of_lt hlt)
    · have hin' : last.epochId <
          (r.epochId + config.historyWindowEpochs) % Arith.wordSize := hin
      rw [hwraps] at hin'
      lia
  · intro hall p hp hobject hin
    obtain ⟨r, hr, rfl⟩ := List.mem_map.mp hp
    rw [decide_eq_true_eq] at hin
    have hin' : r.epochId ≤ last.epochId ∧
        last.epochId - r.epochId < config.historyWindowEpochs := hin
    unfold retained
    rw [Bool.or_eq_true, decide_eq_true_eq, decide_eq_true_eq, Arith.add_word64]
    rcases Nat.eq_or_lt_of_le hin'.1 with heq | hlt
    · exact Or.inl heq
    · have hfits := hall r hr hobject hlt
      right
      show last.epochId < (r.epochId + config.historyWindowEpochs) % Arith.wordSize
      rw [Nat.mod_eq_of_lt hfits]
      lia

/-- Three epochs with one object each, the first again in the last. -/
def threeEpochs : List Request :=
  [{ epochId := 0, objectId := 7 }, { epochId := 1, objectId := 8 },
    { epochId := 2, objectId := 7 }]

theorem threeEpochs_countFor_iff :
    countFor (trackLookups .word64 { historyMode := .windowed, historyWindowEpochs := 3 }
        threeEpochs).1 7 = windowCount 3 2 threeEpochs 7 ↔
      ∀ r ∈ threeEpochs, r.objectId = 7 → r.epochId < 2 → r.epochId + 3 < Arith.wordSize :=
  @countFor_eq_windowCount_iff { historyMode := .windowed, historyWindowEpochs := 3 } rfl
    (by decide) (by decide)
    [{ epochId := 0, objectId := 7 }, { epochId := 1, objectId := 8 }]
    { epochId := 2, objectId := 7 } (by decide) (by decide) 7

/-- With the largest window a lookup of epoch 1 is forgotten in epoch 2. -/
theorem largestWindow_forgets :
    countFor (trackLookups .word64
        { historyMode := .windowed, historyWindowEpochs := 2 ^ 64 - 1 }
        [{ epochId := 1, objectId := 7 }, { epochId := 2, objectId := 8 }]).1 7 = 0 ∧
      windowCount (2 ^ 64 - 1) 2
        [{ epochId := 1, objectId := 7 }, { epochId := 2, objectId := 8 }] 7 = 1 := by
  decide +kernel

end HotnessOnlyPolicy

end DmSimulator
