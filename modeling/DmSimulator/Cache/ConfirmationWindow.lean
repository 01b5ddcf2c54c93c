/-
  DmSimulator.Cache.ConfirmationWindow

  The confirmation counts of the contention-aware policy.

  A lookup is added to the bucket of its epoch and to the total of its object; the
  start of an epoch drops the buckets before the first retained epoch and takes
  their counts out of the totals.  The buckets are sorted by epoch and all of them
  lie in the window, so a total is the number of lookups in the window, and there
  are no more buckets than the window has epochs.
-/
import DmSimulator.Cache.ContentionPolicy
import DmSimulator.Cache.HotnessWindow

namespace DmSimulator

open EpochCounts

namespace ContentionAwarePolicy

variable {config : ContentionPolicyConfig} {s : ContentionState}
  {buckets : List (EpochId × UnorderedMap ObjectId Nat)} {counts : UnorderedMap ObjectId Nat}
  {history : List (EpochId × ObjectId)} {kept : EpochId → Bool}

-- ============================================================================
-- The ordered map of buckets
-- ============================================================================

/-- The count of an object in the bucket of an epoch. -/
def bucketCount (buckets : List (EpochId × UnorderedMap ObjectId Nat)) (epochId : EpochId)
    (objectId : ObjectId) : Nat :=
  match buckets with
  | [] => 0
  | (epoch, bucket) :: rest =>
      if epochId = epoch then countOf bucket objectId else bucketCount rest epochId objectId

/-- The buckets are sorted by epoch. -/
def SortedByEpoch (buckets : List (EpochId × UnorderedMap ObjectId Nat)) : Prop :=
  (buckets.map Prod.fst).Pairwise (· < ·)

theorem bucketCount_of_not_mem {epochId : EpochId} (h : epochId ∉ buckets.map Prod.fst)
    (objectId : ObjectId) : bucketCount buckets epochId objectId = 0 := by
  induction buckets with
  | nil => rfl
  | cons first rest ih =>
      rw [List.map_cons, List.mem_cons, not_or] at h
      rw [bucketCount, if_neg h.1]
      exact ih h.2

theorem mem_bumpBucket (epochId : EpochId) (key : ObjectId)
    (buckets : List (EpochId × UnorderedMap ObjectId Nat)) (epoch : EpochId) :
    epoch ∈ (bumpBucket epochId key buckets).map Prod.fst ↔
      epoch = epochId ∨ epoch ∈ buckets.map Prod.fst := by
  induction buckets with
  | nil => simp [bumpBucket]
  | cons first rest ih =>
      obtain ⟨e, bucket⟩ := first
      rw [bumpBucket]
      by_cases hlt : epochId < e
      · simp [hlt]
      · by_cases heq : epochId = e
        · subst heq
          simp
        · rw [if_neg hlt, if_neg heq, List.map_cons, List.mem_cons, ih]
          simp only [List.map_cons, List.mem_cons]
          apply or_left_comm

/-- A bump keeps the buckets sorted. -/
theorem sorted_bumpBucket (h : SortedByEpoch buckets) (epochId : EpochId) (key : ObjectId) :
    SortedByEpoch (bumpBucket epochId key buckets) := by
  induction buckets with
  | nil => exact List.pairwise_singleton _ _
  | cons first rest ih =>
      obtain ⟨e, bucket⟩ := first
      obtain ⟨hfirst, hrest⟩ := List.pairwise_cons.mp h
      rw [bumpBucket]
      by_cases hlt : epochId < e
      · rw [if_pos hlt]
        refine List.pairwise_cons.mpr ⟨fun other hother => ?_, h⟩
        rcases List.mem_cons.mp hother with rfl | hin
        · exact hlt
        · exact lt_trans hlt (hfirst other hin)
      · rw [if_neg hlt]
        by_cases heq : epochId = e
        · rw [if_pos heq]
          exact h
        · rw [if_neg heq]
          refine List.pairwise_cons.mpr ⟨fun other hother => ?_, ih hrest⟩
          rcases (mem_bumpBucket epochId key rest other).mp hother with rfl | hin
          · exact lt_of_le_of_ne (not_lt.mp hlt) (Ne.symm heq)
          · exact hfirst other hin

/-- A bump adds one to one count of one bucket. -/
theorem bucketCount_bumpBucket (h : SortedByEpoch buckets) (epochId : EpochId) (key : ObjectId)
    (epoch : EpochId) (objectId : ObjectId) :
    bucketCount (bumpBucket epochId key buckets) epoch objectId =
      bucketCount buckets epoch objectId + if epoch = epochId ∧ objectId = key then 1 else 0 := by
  have hnew : countOf (bumpCount ∅ key) objectId = if objectId = key then 1 else 0 := by
    rw [countOf_bumpCount, countOf_empty, Nat.zero_add]
  induction buckets with
  | nil =>
      show (if epoch = epochId then countOf (bumpCount ∅ key) objectId else 0) = 0 + _
      rw [hnew]
      by_cases he : epoch = epochId
      · simp [he]
      · simp [he]
  | cons first rest ih =>
      obtain ⟨e, bucket⟩ := first
      obtain ⟨hfirst, hrest⟩ := List.pairwise_cons.mp h
      rw [bumpBucket]
      by_cases hlt : epochId < e
      · rw [if_pos hlt, bucketCount]
        by_cases he : epoch = epochId
        · -- the bucket is a new one
          have hnone : epochId ∉ ((e, bucket) :: rest).map Prod.fst := by
            intro hin
            rcases List.mem_cons.mp hin with rfl | hin
            · exact absurd hlt (lt_irrefl _)
            · exact absurd (lt_trans hlt (hfirst epochId hin)) (lt_irrefl _)
          rw [if_pos he, hnew, he, bucketCount_of_not_mem hnone]
          simp
        · simp [he]
      · rw [if_neg hlt]
        by_cases heq : epochId = e
        · subst heq
          rw [if_pos rfl, bucketCount, bucketCount, countOf_bumpCount]
          by_cases he : epoch = epochId
          · simp [he]
          · simp [he]
        · rw [if_neg heq, bucketCount, bucketCount, ih hrest]
          by_cases he : epoch = e
          · have hne : ¬ e = epochId := fun h => heq h.symm
            simp [he, hne]
          · simp [he]

-- ============================================================================
-- Pruning
-- ============================================================================

/-- What is left after pruning are the buckets from the first retained epoch on. -/
theorem mem_pruneBuckets (h : SortedByEpoch buckets) (firstRetainedEpoch : EpochId)
    (counts : UnorderedMap ObjectId Nat) (epoch : EpochId) :
    epoch ∈ (pruneBuckets firstRetainedEpoch buckets counts).1.map Prod.fst ↔
      epoch ∈ buckets.map Prod.fst ∧ firstRetainedEpoch ≤ epoch := by
  induction buckets generalizing counts with
  | nil => simp [pruneBuckets]
  | cons first rest ih =>
      obtain ⟨e, bucket⟩ := first
      obtain ⟨hfirst, hrest⟩ := List.pairwise_cons.mp h
      rw [pruneBuckets]
      by_cases hlt : e < firstRetainedEpoch
      · rw [if_pos hlt, ih hrest, List.map_cons, List.mem_cons]
        refine ⟨fun hin => ⟨Or.inr hin.1, hin.2⟩, fun hin => ⟨hin.1.resolve_left ?_, hin.2⟩⟩
        rintro rfl
        exact absurd hin.2 (not_le.mpr hlt)
      · rw [if_neg hlt]
        refine ⟨fun hin => ⟨hin, ?_⟩, fun hin => hin.1⟩
        rcases List.mem_cons.mp hin with rfl | hin
        · exact not_lt.mp hlt
        · exact le_trans (not_lt.mp hlt) (le_of_lt (hfirst epoch hin))

theorem sorted_pruneBuckets (h : SortedByEpoch buckets) (firstRetainedEpoch : EpochId)
    (counts : UnorderedMap ObjectId Nat) :
    SortedByEpoch (pruneBuckets firstRetainedEpoch buckets counts).1 := by
  induction buckets generalizing counts with
  | nil => exact List.Pairwise.nil
  | cons first rest ih =>
      rw [pruneBuckets]
      split
      · exact ih (List.pairwise_cons.mp h).2 _
      · exact h

/-- An epoch with a counted occurrence has a bucket. -/
theorem mem_of_tracks (h : Tracks kept history (bucketCount buckets) (countOf counts))
    {p : EpochId × ObjectId} (hp : p ∈ history) (hkept : kept p.1 = true) :
    p.1 ∈ buckets.map Prod.fst := by
  by_contra hnot
  have hpos : 0 < bucketCount buckets p.1 p.2 := by
    rw [h.bucket_eq, if_pos hkept]
    exact List.count_pos_iff.mpr hp
  rw [bucketCount_of_not_mem hnot] at hpos
  exact absurd hpos (Nat.lt_irrefl 0)

/-- Pruning leaves counters that are right for the epochs from the first retained one on. -/
theorem tracks_pruneBuckets (hsorted : SortedByEpoch buckets)
    (h : Tracks kept history (bucketCount buckets) (countOf counts))
    (firstRetainedEpoch : EpochId) :
    Tracks (fun e => kept e && decide (firstRetainedEpoch ≤ e)) history
      (bucketCount (pruneBuckets firstRetainedEpoch buckets counts).1)
      (countOf (pruneBuckets firstRetainedEpoch buckets counts).2) := by
  -- where all buckets are retained, nothing changes
  have hall : ∀ {buckets counts kept},
      Tracks kept history (bucketCount buckets) (countOf counts) →
      (∀ e ∈ buckets.map Prod.fst, firstRetainedEpoch ≤ e) →
      Tracks (fun e => kept e && decide (firstRetainedEpoch ≤ e)) history (bucketCount buckets)
        (countOf counts) := by
    intro buckets counts kept htracks hle
    refine htracks.congr (fun p hp => ?_) (fun _ _ => rfl) (fun _ => rfl)
    cases hkept : kept p.1 with
    | false => rfl
    | true => simp [hle p.1 (mem_of_tracks htracks hp hkept)]
  induction buckets generalizing counts kept with
  | nil => exact hall h fun e he => absurd he List.not_mem_nil
  | cons first rest ih =>
      obtain ⟨e, bucket⟩ := first
      obtain ⟨hfirst, hrest⟩ := List.pairwise_cons.mp hsorted
      rw [pruneBuckets]
      by_cases hlt : e < firstRetainedEpoch
      · rw [if_pos hlt]
        have hdropped : Tracks (fun e' => kept e' && e' != e) history (bucketCount rest)
            (countOf (subtractCounts counts bucket)) := by
          refine h.drop e (fun e' k => ?_) (fun k => ?_)
          · rw [bucketCount]
            by_cases he : e' = e
            · have hnone : e' ∉ rest.map Prod.fst := by
                rw [he]
                exact fun hin => absurd (hfirst e hin) (lt_irrefl _)
              rw [if_pos he, bucketCount_of_not_mem hnone]
            · rw [if_neg he, if_neg he]
          · rw [countOf_subtractCounts, bucketCount, if_pos rfl]
        refine (ih hrest hdropped).congr (fun p _ => ?_) (fun _ _ => rfl) (fun _ => rfl)
        by_cases he : p.1 = e
        · simp [he, not_le.mpr hlt]
        · rw [bne_iff_ne.mpr he, Bool.and_true]
      · rw [if_neg hlt]
        refine hall h fun other hother => ?_
        rcases List.mem_cons.mp hother with rfl | hin
        · exact not_lt.mp hlt
        · exact le_trans (not_lt.mp hlt) (le_of_lt (hfirst other hin))

-- ============================================================================
-- The window
-- ============================================================================

/-- The epoch lies in the window that ends in the current epoch. -/
def inWindow (window : Nat) (current : Option EpochId) (epochId : EpochId) : Bool :=
  current.any fun current => decide (epochId ≤ current ∧ current - epochId < window)

/-- The buckets and the totals of the policy are those of the window. -/
structure Confirming (window : Nat) (s : ContentionState) (history : List (EpochId × ObjectId)) :
    Prop where
  sorted : SortedByEpoch s.localConfirmationByEpoch
  within : ∀ epoch ∈ s.localConfirmationByEpoch.map Prod.fst, inWindow window s.currentEpoch epoch
  past : ∀ p ∈ history, ∃ current, s.currentEpoch = some current ∧ p.1 ≤ current
  tracks : Tracks (inWindow window s.currentEpoch) history
    (bucketCount s.localConfirmationByEpoch) (confirmationCountFor s)

theorem Confirming.init (window : Nat) : Confirming window {} [] :=
  ⟨List.Pairwise.nil, fun _ he => absurd he List.not_mem_nil,
    fun _ hp => absurd hp List.not_mem_nil, Tracks.init⟩

/-- What does not touch the epoch, the buckets and the totals. -/
theorem Confirming.congr {window : Nat} (h : Confirming window s history) {s' : ContentionState}
    (hcurrent : s'.currentEpoch = s.currentEpoch)
    (hbuckets : s'.localConfirmationByEpoch = s.localConfirmationByEpoch)
    (hcounts : s'.localConfirmationCounts = s.localConfirmationCounts) :
    Confirming window s' history := by
  obtain ⟨hsorted, hwithin, hpast, htracks⟩ := h
  refine ⟨hbuckets ▸ hsorted, ?_, ?_, ?_⟩
  · rw [hbuckets, hcurrent]
    exact hwithin
  · rw [hcurrent]
    exact hpast
  · have hcount : confirmationCountFor s' = confirmationCountFor s := by
      funext objectId
      unfold confirmationCountFor
      rw [hcounts]
    rw [hcurrent, hbuckets, hcount]
    exact htracks

/-- The total of an object is the number of its lookups in the window. -/
theorem Confirming.count_eq {window : Nat} (h : Confirming window s history) {current : EpochId}
    (hcurrent : s.currentEpoch = some current) (objectId : ObjectId) :
    confirmationCountFor s objectId =
      keptCount (fun e => decide (e ≤ current ∧ current - e < window)) history objectId := by
  rw [h.tracks.total_eq, hcurrent]
  rfl

/-- There are no more buckets than the window has epochs. -/
theorem Confirming.length_le {window : Nat} (h : Confirming window s history) :
    s.localConfirmationByEpoch.length ≤ window := by
  cases hcurrent : s.currentEpoch with
  | none =>
      have hnil : s.localConfirmationByEpoch.map Prod.fst = [] := by
        rw [List.eq_nil_iff_forall_not_mem]
        intro epoch hepoch
        have hin := h.within epoch hepoch
        rw [hcurrent] at hin
        cases hin
      rw [← List.length_map Prod.fst, hnil]
      exact Nat.zero_le _
  | some current =>
      -- the ages of the buckets are distinct and less than the window
      have hage : ∀ epoch ∈ s.localConfirmationByEpoch.map Prod.fst,
          epoch ≤ current ∧ current - epoch < window := by
        intro epoch hepoch
        have hin := h.within epoch hepoch
        rw [hcurrent] at hin
        exact of_decide_eq_true hin
      have hnodup : ((s.localConfirmationByEpoch.map Prod.fst).map (current - ·)).Nodup := by
        have hsorted : (s.localConfirmationByEpoch.map Prod.fst).Nodup :=
          List.Pairwise.imp (fun hlt => Nat.ne_of_lt hlt) h.sorted
        refine hsorted.map_on fun first hfirst second hsecond heq => ?_
        have hle := (hage first hfirst).1
        have hle' := (hage second hsecond).1
        have heq' : current - first = current - second := heq
        lia
      have hsub : (s.localConfirmationByEpoch.map Prod.fst).map (current - ·) ⊆
          List.range window := by
        intro age hin
        obtain ⟨epoch, hepoch, rfl⟩ := List.mem_map.mp hin
        exact List.mem_range.mpr (hage epoch hepoch).2
      have hle := (hnodup.subperm hsub).length_le
      rw [List.length_map, List.length_map, List.length_range] at hle
      exact hle

-- ============================================================================
-- The operations of the policy
-- ============================================================================

/-- The start of another epoch prunes. -/
theorem onEpochStart_confirmation (hconfirm : usesLocalConfirmation config = true) (stats : Stats)
    (s : ContentionState) {epochId : EpochId} (hnew : s.currentEpoch ≠ some epochId) :
    let s' := onEpochStart config stats s epochId
    let pruned := pruneLocalConfirmation config s epochId
    s'.currentEpoch = some epochId ∧
      s'.localConfirmationByEpoch = pruned.localConfirmationByEpoch ∧
      s'.localConfirmationCounts = pruned.localConfirmationCounts := by
  unfold onEpochStart
  rw [if_neg hnew]
  by_cases hreset : config.resetOnEpochChange = true
  · simp only [hreset, hconfirm, if_true]
    exact ⟨rfl, rfl, rfl⟩
  · simp only [hreset, hconfirm, if_true]
    exact ⟨rfl, rfl, rfl⟩

theorem onEpochStart_same (stats : Stats) {s : ContentionState} {epochId : EpochId}
    (h : s.currentEpoch = some epochId) : onEpochStart config stats s epochId = s := if_pos h

theorem onEpochStart_currentEpoch (stats : Stats) (s : ContentionState) (epochId : EpochId) :
    (onEpochStart config stats s epochId).currentEpoch = some epochId := by
  by_cases hsame : s.currentEpoch = some epochId
  · rw [onEpochStart_same stats hsame]
    exact hsame
  · unfold onEpochStart pruneLocalConfirmation
    rw [if_neg hsame]
    by_cases hreset : config.resetOnEpochChange = true <;>
      by_cases hconfirm : usesLocalConfirmation config = true <;>
      simp only [hreset, hconfirm] <;> rfl

/-- The start of an epoch that is not over moves the window. -/
theorem Confirming.onEpochStart (hconfirm : usesLocalConfirmation config = true)
    (hpos : 1 ≤ config.localConfirmationWindowEpochs)
    (h : Confirming config.localConfirmationWindowEpochs s history) (stats : Stats)
    {epochId : EpochId} (hle : ∀ current, s.currentEpoch = some current → current ≤ epochId) :
    Confirming config.localConfirmationWindowEpochs
      (ContentionAwarePolicy.onEpochStart config stats s epochId) history := by
  by_cases hsame : s.currentEpoch = some epochId
  · rw [onEpochStart_same stats hsame]
    exact h
  obtain ⟨hcurrent, hbuckets, hcounts⟩ := onEpochStart_confirmation hconfirm stats s hsame
  have hpruned : pruneLocalConfirmation config s epochId =
      { s with
        localConfirmationByEpoch := (pruneBuckets
          (epochId + 1 - config.localConfirmationWindowEpochs) s.localConfirmationByEpoch
          s.localConfirmationCounts).1
        localConfirmationCounts := (pruneBuckets
          (epochId + 1 - config.localConfirmationWindowEpochs) s.localConfirmationByEpoch
          s.localConfirmationCounts).2 } := by
    have hfirst : (if epochId ≥ max config.localConfirmationWindowEpochs 1 - 1 then
        epochId - (max config.localConfirmationWindowEpochs 1 - 1) else 0) =
          epochId + 1 - config.localConfirmationWindowEpochs := by
      rw [Nat.max_eq_left hpos]
      split <;> lia
    unfold pruneLocalConfirmation
    simp only [hfirst]
  rw [hpruned] at hbuckets hcounts
  -- an epoch is in the new window if it is retained and was in the old one
  have hwindow : ∀ epoch, (∃ current, s.currentEpoch = some current ∧ epoch ≤ current) →
      (inWindow config.localConfirmationWindowEpochs s.currentEpoch epoch &&
        decide (epochId + 1 - config.localConfirmationWindowEpochs ≤ epoch)) =
          inWindow config.localConfirmationWindowEpochs (some epochId) epoch := by
    rintro epoch ⟨current, hsome, hepoch⟩
    have hle' := hle current hsome
    rw [hsome, Bool.eq_iff_iff]
    simp only [inWindow, Option.any_some, Bool.and_eq_true, decide_eq_true_eq]
    lia
  refine ⟨?_, ?_, ?_, ?_⟩
  · rw [hbuckets]
    exact sorted_pruneBuckets h.sorted _ _
  · rw [hbuckets, hcurrent]
    intro epoch hepoch
    obtain ⟨hin, hretained⟩ := (mem_pruneBuckets h.sorted _ _ epoch).mp hepoch
    have hold := h.within epoch hin
    have hpast : ∃ current, s.currentEpoch = some current ∧ epoch ≤ current := by
      obtain ⟨current, hsome, hdecide⟩ := (Option.any_eq_true _ _).mp hold
      exact ⟨current, hsome, (of_decide_eq_true hdecide).1⟩
    rw [← hwindow epoch hpast, hold, decide_eq_true hretained]
    rfl
  · intro p hp
    obtain ⟨current, hsome, hepoch⟩ := h.past p hp
    exact ⟨epochId, hcurrent, le_trans hepoch (hle current hsome)⟩
  · have htracks := tracks_pruneBuckets h.sorted h.tracks
      (epochId + 1 - config.localConfirmationWindowEpochs)
    refine htracks.congr (fun p hp => ?_) (fun e k => ?_) (fun k => ?_)
    · rw [hcurrent]
      exact hwindow p.1 (h.past p hp)
    · rw [hbuckets]
    · unfold confirmationCountFor
      rw [hcounts]

/-- A lookup in the current epoch is counted. -/
theorem Confirming.onLookup (hconfirm : usesLocalConfirmation config = true)
    (hpos : 1 ≤ config.localConfirmationWindowEpochs)
    (h : Confirming config.localConfirmationWindowEpochs s history) (stats : Stats)
    {request : Request} (hcurrent : s.currentEpoch = some request.epochId) :
    Confirming config.localConfirmationWindowEpochs
        (ContentionAwarePolicy.onLookup config stats s request)
        (history ++ [request.occurrence]) ∧
      (ContentionAwarePolicy.onLookup config stats s request).currentEpoch = s.currentEpoch := by
  have hlookup : ContentionAwarePolicy.onLookup config stats s request =
      { s with
        localAccessCounts := bumpCount s.localAccessCounts request.objectId
        localConfirmationByEpoch :=
          bumpBucket request.epochId request.objectId s.localConfirmationByEpoch
        localConfirmationCounts := bumpCount s.localConfirmationCounts request.objectId } := by
    unfold ContentionAwarePolicy.onLookup
    simp [hcurrent, hconfirm]
  have hnow : inWindow config.localConfirmationWindowEpochs s.currentEpoch request.epochId := by
    simp only [inWindow, hcurrent, Option.any_some, decide_eq_true_eq]
    lia
  rw [hlookup]
  refine ⟨⟨sorted_bumpBucket h.sorted _ _, ?_, ?_, ?_⟩, rfl⟩
  · intro epoch hepoch
    rcases (mem_bumpBucket _ _ _ epoch).mp hepoch with rfl | hin
    · exact hnow
    · exact h.within epoch hin
  · intro p hp
    rcases List.mem_append.mp hp with hold | hnew
    · exact h.past p hold
    · rw [List.mem_singleton.mp hnew]
      exact ⟨request.epochId, hcurrent, le_refl _⟩
  · exact h.tracks.record hnow request.objectId
      (fun e k => bucketCount_bumpBucket h.sorted request.epochId request.objectId e k)
      (fun k => countOf_bumpCount _ _ k)

end ContentionAwarePolicy

end DmSimulator
