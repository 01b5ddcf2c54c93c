/-
  DmSimulator.Workloads.HotSets

  The hot sets of a generated workload.

  A `Layout` is a shared segment and one private segment for each node, of the
  configured sizes, all of whose objects are distinct.  Every way of making the
  layout of an epoch (the first one, a full shift, a partial churn, keeping it)
  succeeds for an accepted configuration and makes a layout; the hot sets of the
  nodes and their overlaps are then read off the segments.
-/
import DmSimulator.Lib.Window
import DmSimulator.Workloads.Schedule
import Mathlib.Data.Finset.Card

namespace DmSimulator

-- ============================================================================
-- Taking objects in order
-- ============================================================================

theorem objectAt_eq {objects : List ObjectId} (hne : objects ≠ []) (index : Nat) :
    ∃ objectId, objects[index % objects.length]? = some objectId ∧
      objectAt objects index = .ok objectId := by
  have hlt : index % objects.length < objects.length :=
    Nat.mod_lt _ (List.length_pos_iff.mpr hne)
  refine ⟨objects[index % objects.length], List.getElem?_eq_getElem hlt, ?_⟩
  unfold objectAt
  rw [List.getElem?_eq_getElem hlt]

theorem nextObjects_eq {objects : List ObjectId} (hne : objects ≠ []) (cursor count : Nat) :
    nextObjects objects cursor count = .ok (window objects cursor count, cursor + count) := by
  have hmap : ∀ indices : List Nat,
      indices.mapM (fun i => objectAt objects (cursor + i)) =
        .ok (indices.filterMap (fun i => objects[(cursor + i) % objects.length]?)) := by
    intro indices
    induction indices with
    | nil => rfl
    | cons i rest ih =>
        obtain ⟨objectId, hget, hat⟩ := objectAt_eq hne (cursor + i)
        rw [List.mapM_cons, hat, ih, List.filterMap_cons, hget]
        rfl
  unfold nextObjects
  rw [hmap]
  rfl

theorem allocatePrivate_spec {objects : List ObjectId} (hne : objects ≠ [])
    (privateCount nodes cursor : Nat) :
    ∃ segments, allocatePrivate objects privateCount nodes cursor =
        .ok (segments, cursor + privateCount * nodes) ∧
      segments.length = nodes ∧ (∀ segment ∈ segments, segment.length = privateCount) ∧
      segments.flatten = window objects cursor (privateCount * nodes) := by
  induction nodes generalizing cursor with
  | zero => exact ⟨[], rfl, rfl, by simp, rfl⟩
  | succ nodes ih =>
      obtain ⟨rest, hrest, hlength, hsizes, hflatten⟩ := ih (cursor + privateCount)
      refine ⟨window objects cursor privateCount :: rest, ?_, by rw [List.length_cons, hlength],
        ?_, ?_⟩
      · rw [allocatePrivate, nextObjects_eq hne]
        simp only [bind, Except.bind, hrest, pure, Except.pure, Nat.mul_succ]
        rw [Nat.add_assoc, Nat.add_comm privateCount]
      · intro segment hmem
        rcases List.mem_cons.mp hmem with rfl | hin
        · exact length_window hne _ _
        · exact hsizes segment hin
      · rw [List.flatten_cons, hflatten, ← window_add, Nat.mul_succ, Nat.add_comm]

/-- The scan finds a fresh object if one comes up. -/
theorem nextUnusedObject_spec {objects usedObjects disallowedObjects : List ObjectId}
    (hne : objects ≠ []) {attempts cursor : Nat}
    (hfresh : ∃ objectId ∈ window objects cursor attempts,
      objectId ∉ usedObjects ∧ objectId ∉ disallowedObjects) :
    ∃ candidate cursor', nextUnusedObject objects usedObjects disallowedObjects attempts cursor =
        .ok (candidate, cursor') ∧
      candidate ∈ objects ∧ candidate ∉ usedObjects ∧ candidate ∉ disallowedObjects := by
  induction attempts generalizing cursor with
  | zero =>
      obtain ⟨objectId, hmem, -⟩ := hfresh
      cases hmem
  | succ attempts ih =>
      obtain ⟨candidate, hget, hat⟩ := objectAt_eq hne cursor
      by_cases hgood : candidate ∉ usedObjects ∧ candidate ∉ disallowedObjects
      · refine ⟨candidate, cursor + 1, ?_, List.mem_of_getElem? hget, hgood⟩
        rw [nextUnusedObject, hat]
        simp only [bind, Except.bind, if_pos hgood]
        rfl
      · -- the fresh object comes later
        obtain ⟨objectId, hmem, hobject⟩ := hfresh
        rw [window_succ, hget, Option.toList_some, List.singleton_append, List.mem_cons] at hmem
        have hlater : objectId ∈ window objects (cursor + 1) attempts := by
          rcases hmem with rfl | hin
          · exact absurd hobject hgood
          · exact hin
        obtain ⟨found, cursor', hfound, hspec⟩ := ih ⟨objectId, hlater, hobject⟩
        refine ⟨found, cursor', ?_, hspec⟩
        rw [nextUnusedObject, hat]
        simp only [bind, Except.bind, if_neg hgood]
        exact hfound

/-- Objects outside a small set are left over. -/
theorem exists_fresh {objects taken : List ObjectId} (hnodup : objects.Nodup)
    (hroom : taken.toFinset.card < objects.length) : ∃ objectId ∈ objects, objectId ∉ taken := by
  rw [← List.toFinset_card_of_nodup hnodup] at hroom
  obtain ⟨objectId, hmem, hnot⟩ := Finset.exists_mem_notMem_of_card_lt_card hroom
  exact ⟨objectId, List.mem_toFinset.mp hmem, fun h => hnot (List.mem_toFinset.mpr h)⟩

/-- How many objects are taken after some more are used. -/
theorem card_used_le (added usedObjects disallowedObjects : List ObjectId) :
    ((added.reverse ++ usedObjects) ++ disallowedObjects).toFinset.card ≤
      (usedObjects ++ disallowedObjects).toFinset.card + added.length := by
  have hunion := Finset.card_union_le added.reverse.toFinset
    (usedObjects ++ disallowedObjects).toFinset
  have hcard := List.toFinset_card_le added.reverse
  rw [List.length_reverse] at hcard
  rw [List.append_assoc, List.toFinset_append]
  omega

/-- What a refill adds: distinct objects that were neither used nor disallowed. -/
structure Fresh (objects usedObjects disallowedObjects added : List ObjectId) : Prop where
  nodup : added.Nodup
  mem : ∀ objectId ∈ added, objectId ∈ objects
  unused : ∀ objectId ∈ added, objectId ∉ usedObjects
  allowed : ∀ objectId ∈ added, objectId ∉ disallowedObjects

theorem Fresh.append {objects usedObjects disallowedObjects added more : List ObjectId}
    (h : Fresh objects usedObjects disallowedObjects added)
    (hmore : Fresh objects (added.reverse ++ usedObjects) disallowedObjects more) :
    Fresh objects usedObjects disallowedObjects (added ++ more) := by
  refine ⟨?_, ?_, ?_, ?_⟩
  · refine List.nodup_append'.mpr ⟨h.nodup, hmore.nodup, fun objectId hold hnew => ?_⟩
    exact hmore.unused objectId hnew (List.mem_append_left _ (List.mem_reverse.mpr hold))
  · intro objectId hmem
    exact (List.mem_append.mp hmem).elim (h.mem objectId) (hmore.mem objectId)
  · intro objectId hmem hused
    rcases List.mem_append.mp hmem with hold | hnew
    · exact h.unused objectId hold hused
    · exact hmore.unused objectId hnew (List.mem_append_right _ hused)
  · intro objectId hmem
    exact (List.mem_append.mp hmem).elim (h.allowed objectId) (hmore.allowed objectId)

/-- A segment is refilled if enough objects are left over. -/
theorem appendReplacements_spec {objects disallowedObjects : List ObjectId}
    (hnodup : objects.Nodup) (missing : Nat) (segment : List ObjectId) (cursor : Nat)
    {usedObjects : List ObjectId}
    (hroom : (usedObjects ++ disallowedObjects).toFinset.card + missing ≤ objects.length) :
    ∃ added cursor', appendReplacements objects disallowedObjects missing segment cursor
        usedObjects = .ok (segment ++ added, cursor', added.reverse ++ usedObjects) ∧
      added.length = missing ∧ Fresh objects usedObjects disallowedObjects added := by
  induction missing generalizing segment cursor usedObjects with
  | zero =>
      refine ⟨[], cursor, ?_, rfl, List.nodup_nil, by simp, by simp, by simp⟩
      rw [appendReplacements, List.append_nil]
      rfl
  | succ missing ih =>
      obtain ⟨objectId, hmem, hfresh⟩ := exists_fresh hnodup
        (show (usedObjects ++ disallowedObjects).toFinset.card < objects.length by omega)
      have hne : objects ≠ [] := List.ne_nil_of_mem hmem
      rw [List.mem_append, not_or] at hfresh
      obtain ⟨first, cursor₁, hfirst, hin, hunused, hallowed⟩ := nextUnusedObject_spec hne
        ⟨objectId, mem_window_length hmem cursor, hfresh⟩
      have hroom' : ((first :: usedObjects) ++ disallowedObjects).toFinset.card + missing ≤
          objects.length := by
        have hinsert := Finset.card_insert_le first (usedObjects ++ disallowedObjects).toFinset
        rw [List.cons_append, List.toFinset_cons]
        omega
      obtain ⟨rest, cursor₂, hrest, hlength, hspec⟩ := ih (segment ++ [first]) cursor₁ hroom'
      refine ⟨first :: rest, cursor₂, ?_, by rw [List.length_cons, hlength], ?_⟩
      · rw [appendReplacements, hfirst]
        simp only [bind, Except.bind]
        rw [List.insert_of_not_mem hunused, hrest]
        simp
      · have hone : Fresh objects usedObjects disallowedObjects [first] := by
          refine ⟨List.nodup_singleton _, ?_, ?_, ?_⟩
          · exact fun o ho => List.mem_singleton.mp ho ▸ hin
          · exact fun o ho => List.mem_singleton.mp ho ▸ hunused
          · exact fun o ho => List.mem_singleton.mp ho ▸ hallowed
        exact hone.append hspec

/-- The private segments, each with what its refill adds. -/
def refilled (segments : List (List ObjectId × Nat)) (added : List (List ObjectId)) :
    List (List ObjectId) :=
  List.zipWith (fun entry more => entry.1 ++ more) segments added

theorem refillPrivate_spec {objects disallowedObjects : List ObjectId} (hnodup : objects.Nodup)
    (segments : List (List ObjectId × Nat)) (cursor : Nat) {usedObjects : List ObjectId}
    (hroom : (usedObjects ++ disallowedObjects).toFinset.card +
      (segments.map (fun entry => entry.2 - entry.1.length)).sum ≤ objects.length) :
    ∃ added cursor', refillPrivate objects disallowedObjects segments cursor usedObjects =
        .ok (refilled segments added, cursor') ∧
      added.map List.length = segments.map (fun entry => entry.2 - entry.1.length) ∧
      Fresh objects usedObjects disallowedObjects added.flatten := by
  induction segments generalizing cursor usedObjects with
  | nil =>
      refine ⟨[], cursor, rfl, rfl, List.nodup_nil, by simp, by simp, by simp⟩
  | cons entry segments ih =>
      obtain ⟨segment, finalSize⟩ := entry
      rw [List.map_cons, List.sum_cons] at hroom
      simp only at hroom
      obtain ⟨first, cursor₁, hfirst, hlength, hspec⟩ :=
        appendReplacements_spec hnodup (finalSize - segment.length) segment cursor
          (show (usedObjects ++ disallowedObjects).toFinset.card + _ ≤ objects.length by omega)
      have hroom' : ((first.reverse ++ usedObjects) ++ disallowedObjects).toFinset.card +
          (segments.map (fun entry => entry.2 - entry.1.length)).sum ≤ objects.length := by
        have hcard := card_used_le first usedObjects disallowedObjects
        omega
      obtain ⟨rest, cursor₂, hrest, hlengths, hfresh⟩ := ih cursor₁ hroom'
      refine ⟨first :: rest, cursor₂, ?_, ?_, ?_⟩
      · rw [refillPrivate, hfirst]
        simp only [bind, Except.bind, hrest]
        rfl
      · rw [List.map_cons, List.map_cons, hlength, hlengths]
      · rw [List.flatten_cons]
        exact hspec.append hfresh

-- ============================================================================
-- Layouts
-- ============================================================================

/-- A hot-set layout of the configured shape: all its objects are distinct
    candidates. -/
structure Layout (config : SyntheticWorkloadConfig) (candidates : List ObjectId)
    (segments : HotSetSegments) : Prop where
  shared_length : segments.sharedHotObjects.length = sharedHotObjectCount config
  private_length : segments.privateHotObjectsByNode.length = config.computeNodeIds.length
  segment_length : ∀ segment ∈ segments.privateHotObjectsByNode,
    segment.length = config.hotSetSize - sharedHotObjectCount config
  nodup : (allHotObjects segments).Nodup
  mem : ∀ objectId ∈ allHotObjects segments, objectId ∈ candidates

/-- What the checks of a configuration give for the candidates of its hot sets. -/
structure HotSetsFit (config : SyntheticWorkloadConfig) (candidates : List ObjectId) : Prop where
  nodup : candidates.Nodup
  required_le : requiredHotObjectsPerEpoch config ≤ candidates.length
  churn_le : 0 < effectiveHotSetChurnFraction config → effectiveHotSetChurnFraction config < 1 →
    requiredHotObjectsPerEpoch config +
      totalReplacementsPerEpoch config (effectiveHotSetChurnFraction config) ≤ candidates.length
  nonempty : candidates ≠ []

section Layouts

variable {config : SyntheticWorkloadConfig} {candidates : List ObjectId}

theorem allocateHotSetSegments_spec (h : HotSetsFit config candidates) (cursor : Nat) :
    ∃ segments cursor', allocateHotSetSegments config candidates cursor =
        .ok (segments, cursor') ∧ Layout config candidates segments ∧
      allHotObjects segments =
        window candidates cursor (requiredHotObjectsPerEpoch config) := by
  obtain ⟨privates, hprivates, hlength, hsizes, hflatten⟩ := allocatePrivate_spec h.nonempty
    (config.hotSetSize - sharedHotObjectCount config) config.computeNodeIds.length
    (cursor + sharedHotObjectCount config)
  have hall : window candidates cursor (sharedHotObjectCount config) ++ privates.flatten =
      window candidates cursor (requiredHotObjectsPerEpoch config) := by
    rw [hflatten, ← window_add]
    rfl
  refine ⟨{ sharedHotObjects := window candidates cursor (sharedHotObjectCount config)
            privateHotObjectsByNode := privates },
    cursor + sharedHotObjectCount config +
      (config.hotSetSize - sharedHotObjectCount config) * config.computeNodeIds.length, ?_, ?_⟩
  · simp only [allocateHotSetSegments, nextObjects_eq h.nonempty, bind, Except.bind, hprivates]
    rfl
  · refine ⟨⟨length_window h.nonempty _ _, hlength, hsizes, ?_, ?_⟩, hall⟩
    · unfold allHotObjects
      simp only
      rw [hall]
      exact nodup_window h.nodup cursor h.required_le
    · unfold allHotObjects
      simp only
      rw [hall]
      exact fun objectId hmem => mem_of_mem_window hmem

theorem length_keepPrefixForChurn (segment : List ObjectId) (churnFraction : Rat) :
    (keepPrefixForChurn segment churnFraction).length =
      segment.length - replacementCount segment.length churnFraction := by
  unfold keepPrefixForChurn
  rw [List.length_take]
  omega

theorem keepPrefixForChurn_sublist (segment : List ObjectId) (churnFraction : Rat) :
    (keepPrefixForChurn segment churnFraction).Sublist segment :=
  List.take_sublist _ _

/-- The objects of a layout that a churn keeps. -/
def keptObjects (previous : HotSetSegments) (churnFraction : Rat) : List ObjectId :=
  keepPrefixForChurn previous.sharedHotObjects churnFraction ++
    (previous.privateHotObjectsByNode.map (fun segment =>
      keepPrefixForChurn segment churnFraction)).flatten

theorem keptObjects_sublist (previous : HotSetSegments) (churnFraction : Rat) :
    (keptObjects previous churnFraction).Sublist (allHotObjects previous) := by
  refine List.Sublist.append (keepPrefixForChurn_sublist _ _) ?_
  induction previous.privateHotObjectsByNode with
  | nil => exact List.Sublist.refl _
  | cons segment segments ih =>
      rw [List.map_cons, List.flatten_cons, List.flatten_cons]
      exact List.Sublist.append (keepPrefixForChurn_sublist _ _) ih

/-- Refilled segments hold what was kept and what was added. -/
theorem refilled_perm {segments : List (List ObjectId × Nat)} {added : List (List ObjectId)}
    (hlength : added.length = segments.length) :
    (refilled segments added).flatten.Perm
      ((segments.map Prod.fst).flatten ++ added.flatten) := by
  induction segments generalizing added with
  | nil =>
      rw [List.length_nil, List.length_eq_zero_iff] at hlength
      subst hlength
      exact List.Perm.refl _
  | cons entry segments ih =>
      obtain ⟨more, added, rfl⟩ := List.exists_cons_of_length_eq_add_one hlength
      have hrest := ih (Nat.succ.inj hlength)
      show ((entry.1 ++ more) ++ (refilled segments added).flatten).Perm
        ((entry.1 ++ (segments.map Prod.fst).flatten) ++ (more ++ added.flatten))
      refine (hrest.append_left _).trans ?_
      simp only [List.append_assoc]
      refine List.Perm.append_left _ ?_
      rw [← List.append_assoc, ← List.append_assoc]
      exact List.perm_append_comm.append_right _

/-- A refilled segment has its final size. -/
theorem length_of_mem_refilled {segments : List (List ObjectId × Nat)}
    {added : List (List ObjectId)}
    (hadded : added.map List.length = segments.map (fun entry => entry.2 - entry.1.length))
    (hsizes : ∀ entry ∈ segments, entry.1.length ≤ entry.2) {segment : List ObjectId}
    (hmem : segment ∈ refilled segments added) :
    ∃ entry ∈ segments, segment.length = entry.2 := by
  induction segments generalizing added with
  | nil => cases hmem
  | cons entry segments ih =>
      cases added with
      | nil => cases hmem
      | cons more added =>
          rw [List.map_cons, List.map_cons, List.cons.injEq] at hadded
          have hle := hsizes entry List.mem_cons_self
          rcases List.mem_cons.mp hmem with rfl | hin
          · refine ⟨entry, List.mem_cons_self, ?_⟩
            show (entry.1 ++ more).length = entry.2
            rw [List.length_append, hadded.1]
            omega
          · obtain ⟨found, hfound, hlength⟩ := ih hadded.2
              (fun e he => hsizes e (List.mem_cons_of_mem entry he)) hin
            exact ⟨found, List.mem_cons_of_mem entry hfound, hlength⟩

theorem Layout.length_allHotObjects {segments : HotSetSegments}
    (h : Layout config candidates segments) :
    (allHotObjects segments).length = requiredHotObjectsPerEpoch config := by
  have hconst : segments.privateHotObjectsByNode.map List.length =
      List.replicate segments.privateHotObjectsByNode.length
        (config.hotSetSize - sharedHotObjectCount config) := by
    refine List.eq_replicate_iff.mpr ⟨List.length_map _, ?_⟩
    intro n hn
    obtain ⟨segment, hmem, rfl⟩ := List.mem_map.mp hn
    exact h.segment_length segment hmem
  unfold allHotObjects requiredHotObjectsPerEpoch
  rw [List.length_append, List.length_flatten, hconst, List.sum_replicate_nat, h.shared_length,
    h.private_length, Nat.mul_comm]

/-- What a churn takes out of the private segments, in total. -/
theorem sum_missing_le {segments : List (List ObjectId)} {privateCount : Nat}
    (hsizes : ∀ segment ∈ segments, segment.length = privateCount) (churnFraction : Rat) :
    (((segments.map (fun segment => keepPrefixForChurn segment churnFraction)).zip
      (segments.map List.length)).map (fun entry => entry.2 - entry.1.length)).sum ≤
      replacementCount privateCount churnFraction * segments.length := by
  induction segments with
  | nil => exact Nat.zero_le _
  | cons segment segments ih =>
      have hrest := ih (fun s hs => hsizes s (List.mem_cons_of_mem segment hs))
      have hkept := length_keepPrefixForChurn segment churnFraction
      rw [hsizes segment List.mem_cons_self] at hkept
      rw [List.map_cons, List.map_cons, List.zip_cons_cons, List.map_cons, List.sum_cons,
        List.length_cons, Nat.mul_succ]
      simp only [hsizes segment List.mem_cons_self]
      omega

/-- What is kept of a layout counts once. -/
theorem Layout.card_kept {previous : HotSetSegments} (h : Layout config candidates previous)
    (churnFraction : Rat) :
    (keptObjects previous churnFraction ++ allHotObjects previous).toFinset.card =
      requiredHotObjectsPerEpoch config := by
  have hsublist := keptObjects_sublist previous churnFraction
  rw [List.toFinset_append, Finset.union_eq_right.mpr
    (fun o ho => List.mem_toFinset.mpr (hsublist.subset (List.mem_toFinset.mp ho))),
    List.toFinset_card_of_nodup h.nodup, h.length_allHotObjects]

/-- What was kept of a layout, refilled with fresh objects, is a layout. -/
theorem Layout.refill {previous : HotSetSegments} (h : Layout config candidates previous)
    {churnFraction : Rat} {addedShared : List ObjectId} {addedPrivate : List (List ObjectId)}
    (hshared : addedShared.length = previous.sharedHotObjects.length -
      (keepPrefixForChurn previous.sharedHotObjects churnFraction).length)
    (hprivate : addedPrivate.map List.length =
      ((previous.privateHotObjectsByNode.map (fun segment =>
        keepPrefixForChurn segment churnFraction)).zip
          (previous.privateHotObjectsByNode.map List.length)).map
            (fun entry => entry.2 - entry.1.length))
    (hfresh : Fresh candidates (keptObjects previous churnFraction) (allHotObjects previous)
      (addedShared ++ addedPrivate.flatten)) :
    Layout config candidates
      { sharedHotObjects :=
          keepPrefixForChurn previous.sharedHotObjects churnFraction ++ addedShared
        privateHotObjectsByNode :=
          refilled ((previous.privateHotObjectsByNode.map (fun segment =>
            keepPrefixForChurn segment churnFraction)).zip
              (previous.privateHotObjectsByNode.map List.length)) addedPrivate } := by
  have hlength : addedPrivate.length = previous.privateHotObjectsByNode.length := by
    have hcongr := congrArg List.length hprivate
    simpa using hcongr
  have hkept := length_keepPrefixForChurn previous.sharedHotObjects churnFraction
  -- all objects: what was kept and what was added
  have hperm : (allHotObjects
      { sharedHotObjects :=
          keepPrefixForChurn previous.sharedHotObjects churnFraction ++ addedShared
        privateHotObjectsByNode :=
          refilled ((previous.privateHotObjectsByNode.map (fun segment =>
            keepPrefixForChurn segment churnFraction)).zip
              (previous.privateHotObjectsByNode.map List.length)) addedPrivate }).Perm
      (keptObjects previous churnFraction ++ (addedShared ++ addedPrivate.flatten)) := by
    have hrefilled : (refilled ((previous.privateHotObjectsByNode.map (fun segment =>
        keepPrefixForChurn segment churnFraction)).zip
          (previous.privateHotObjectsByNode.map List.length)) addedPrivate).flatten.Perm _ :=
      refilled_perm (by simpa using hlength)
    rw [List.map_fst_zip (by simp)] at hrefilled
    unfold allHotObjects keptObjects
    simp only [List.append_assoc]
    refine List.Perm.append_left _ ((hrefilled.append_left _).trans ?_)
    rw [← List.append_assoc, ← List.append_assoc]
    exact List.perm_append_comm.append_right _
  refine ⟨?_, ?_, ?_, ?_, ?_⟩
  · simp only
    rw [List.length_append, hshared, ← h.shared_length]
    omega
  · unfold refilled
    simp [hlength, h.private_length]
  · intro segment hmem
    obtain ⟨entry, hentry, hsize⟩ := length_of_mem_refilled hprivate (by
      intro entry hentry
      rw [List.zip_map', List.mem_map] at hentry
      obtain ⟨segment, -, rfl⟩ := hentry
      exact (keepPrefixForChurn_sublist segment churnFraction).length_le) hmem
    rw [List.zip_map', List.mem_map] at hentry
    obtain ⟨old, hold, rfl⟩ := hentry
    rw [hsize]
    exact h.segment_length old hold
  · refine hperm.nodup_iff.mpr (List.nodup_append'.mpr ⟨?_, hfresh.nodup, ?_⟩)
    · exact h.nodup.sublist (keptObjects_sublist previous churnFraction)
    · exact fun objectId hkeep hadded => hfresh.unused objectId hadded hkeep
  · intro objectId hmem
    rcases List.mem_append.mp (hperm.mem_iff.mp hmem) with hkeep | hadded
    · exact h.mem objectId ((keptObjects_sublist previous churnFraction).subset hkeep)
    · exact hfresh.mem objectId hadded

/-- The next layout is what the churn keeps of the previous one, every segment
    refilled with fresh objects. -/
def Refills (candidates : List ObjectId) (previous : HotSetSegments) (churnFraction : Rat)
    (segments : HotSetSegments) : Prop :=
  ∃ addedShared addedPrivate,
    addedPrivate.length = previous.privateHotObjectsByNode.length ∧
    segments =
      { sharedHotObjects :=
          keepPrefixForChurn previous.sharedHotObjects churnFraction ++ addedShared
        privateHotObjectsByNode :=
          refilled ((previous.privateHotObjectsByNode.map (fun segment =>
            keepPrefixForChurn segment churnFraction)).zip
              (previous.privateHotObjectsByNode.map List.length)) addedPrivate } ∧
    Fresh candidates (keptObjects previous churnFraction) (allHotObjects previous)
      (addedShared ++ addedPrivate.flatten)

/-- A partial churn replaces a layout by another one. -/
theorem churnHotSetSegments_spec (h : HotSetsFit config candidates)
    (hpos : 0 < effectiveHotSetChurnFraction config)
    (hlt : effectiveHotSetChurnFraction config < 1) {previous : HotSetSegments}
    (hprevious : Layout config candidates previous) (cursor : Nat) :
    ∃ segments cursor', churnHotSetSegments previous candidates cursor
        (effectiveHotSetChurnFraction config) = .ok (segments, cursor') ∧
      Layout config candidates segments ∧
      Refills candidates previous (effectiveHotSetChurnFraction config) segments := by
  have hkept := hprevious.card_kept (effectiveHotSetChurnFraction config)
  have hshared := length_keepPrefixForChurn previous.sharedHotObjects
    (effectiveHotSetChurnFraction config)
  have hmissing := sum_missing_le hprevious.segment_length (effectiveHotSetChurnFraction config)
  have hsize := hprevious.shared_length
  rw [hprevious.private_length] at hmissing
  rw [hsize] at hshared
  have hfit := h.churn_le hpos hlt
  unfold totalReplacementsPerEpoch at hfit
  simp only at hfit
  -- the shared segment
  have hroom : (keptObjects previous (effectiveHotSetChurnFraction config) ++
      allHotObjects previous).toFinset.card + (previous.sharedHotObjects.length -
        (keepPrefixForChurn previous.sharedHotObjects
          (effectiveHotSetChurnFraction config)).length) ≤ candidates.length := by
    omega
  obtain ⟨addedShared, cursor₁, hrefill, hlength, hfresh⟩ := appendReplacements_spec h.nodup _
    (keepPrefixForChurn previous.sharedHotObjects (effectiveHotSetChurnFraction config)) cursor
    hroom
  -- the private segments
  have hcard := card_used_le addedShared
    (keptObjects previous (effectiveHotSetChurnFraction config)) (allHotObjects previous)
  obtain ⟨addedPrivate, cursor₂, hrefillPrivate, hlengths, hfreshPrivate⟩ :=
    refillPrivate_spec h.nodup ((previous.privateHotObjectsByNode.map (fun segment =>
      keepPrefixForChurn segment (effectiveHotSetChurnFraction config))).zip
        (previous.privateHotObjectsByNode.map List.length)) cursor₁
      (show ((addedShared.reverse ++ keptObjects previous (effectiveHotSetChurnFraction config)) ++
        allHotObjects previous).toFinset.card + _ ≤ candidates.length by omega)
  refine ⟨_, cursor₂, ?_, hprevious.refill hlength hlengths (hfresh.append hfreshPrivate),
    ⟨addedShared, addedPrivate, by simpa using congrArg List.length hlengths, rfl,
      hfresh.append hfreshPrivate⟩⟩
  unfold churnHotSetSegments
  unfold keptObjects at hrefill hrefillPrivate
  simp only [bind, Except.bind, hrefill, hrefillPrivate]
  rfl

/-- Every epoch gets a layout. -/
theorem epochLayout_spec (h : HotSetsFit config candidates) {epochId : EpochId}
    {segments : HotSetSegments} (hsegments : epochId = 0 ∨ Layout config candidates segments)
    (cursor : Nat) :
    ∃ segments' cursor', epochLayout config candidates epochId segments cursor =
        .ok (segments', cursor') ∧ Layout config candidates segments' := by
  unfold epochLayout
  simp only
  by_cases hfirst : epochId = 0
  · rw [if_pos hfirst]
    obtain ⟨segments', cursor', hallocate, hlayout, -⟩ := allocateHotSetSegments_spec h cursor
    exact ⟨segments', cursor', hallocate, hlayout⟩
  have hprevious := hsegments.resolve_left hfirst
  rw [if_neg hfirst]
  by_cases hshift : effectiveHotSetChurnFraction config ≥ 1
  · rw [if_pos hshift, if_neg (by rw [List.isEmpty_iff]; exact h.nonempty)]
    obtain ⟨segments', cursor', hallocate, hlayout, -⟩ := allocateHotSetSegments_spec h _
    exact ⟨segments', cursor', hallocate, hlayout⟩
  rw [if_neg hshift]
  by_cases hchurn : effectiveHotSetChurnFraction config > 0
  · rw [if_pos hchurn]
    obtain ⟨segments', cursor', hchurned, hlayout, -⟩ :=
      churnHotSetSegments_spec h hchurn (lt_of_not_ge hshift) hprevious cursor
    exact ⟨segments', cursor', hchurned, hlayout⟩
  · rw [if_neg hchurn]
    exact ⟨segments, cursor, rfl, hprevious⟩

-- ============================================================================
-- The hot sets of a layout
-- ============================================================================

theorem sharedHotObjectCount_le (config : SyntheticWorkloadConfig) :
    sharedHotObjectCount config ≤ config.hotSetSize := by
  unfold sharedHotObjectCount
  cases config.crossNodeOverlap with
  | low => exact Nat.zero_le _
  | medium => exact Nat.div_le_self _ _
  | high => exact Nat.le_refl _

variable {segments : HotSetSegments}

theorem Layout.privateSegment (h : Layout config candidates segments) {nodeIndex : Nat}
    (hlt : nodeIndex < config.computeNodeIds.length) :
    ∃ segment, segments.privateHotObjectsByNode[nodeIndex]? = some segment ∧
      segment ∈ segments.privateHotObjectsByNode ∧
      hotSetForNode segments nodeIndex = segments.sharedHotObjects ++ segment := by
  rw [← h.private_length] at hlt
  refine ⟨segments.privateHotObjectsByNode[nodeIndex], List.getElem?_eq_getElem hlt,
    List.getElem_mem hlt, ?_⟩
  unfold hotSetForNode
  rw [List.getD_eq_getElem?_getD, List.getElem?_eq_getElem hlt, Option.getD_some]

theorem Layout.length_hotSetForNode (h : Layout config candidates segments) {nodeIndex : Nat}
    (hlt : nodeIndex < config.computeNodeIds.length) :
    (hotSetForNode segments nodeIndex).length = config.hotSetSize := by
  obtain ⟨segment, -, hmem, heq⟩ := h.privateSegment hlt
  have hle := sharedHotObjectCount_le config
  rw [heq, List.length_append, h.shared_length, h.segment_length segment hmem]
  omega

theorem Layout.nodup_hotSetForNode (h : Layout config candidates segments) {nodeIndex : Nat}
    (hlt : nodeIndex < config.computeNodeIds.length) :
    (hotSetForNode segments nodeIndex).Nodup := by
  obtain ⟨segment, -, hmem, heq⟩ := h.privateSegment hlt
  rw [heq]
  exact h.nodup.sublist (List.Sublist.append_left (List.sublist_flatten_of_mem hmem) _)

theorem Layout.mem_hotSetForNode (h : Layout config candidates segments) {nodeIndex : Nat}
    (hlt : nodeIndex < config.computeNodeIds.length) {objectId : ObjectId}
    (hobject : objectId ∈ hotSetForNode segments nodeIndex) : objectId ∈ candidates := by
  obtain ⟨segment, -, hmem, heq⟩ := h.privateSegment hlt
  rw [heq] at hobject
  refine h.mem objectId (List.Sublist.subset ?_ hobject)
  exact List.Sublist.append_left (List.sublist_flatten_of_mem hmem) _

/-- Two nodes share the shared segment, and nothing else. -/
theorem Layout.inter_hotSetForNode (h : Layout config candidates segments) {i j : Nat}
    (hi : i < config.computeNodeIds.length) (hj : j < config.computeNodeIds.length)
    (hne : i ≠ j) :
    (hotSetForNode segments i).toFinset ∩ (hotSetForNode segments j).toFinset =
      segments.sharedHotObjects.toFinset := by
  obtain ⟨first, hfirst, -, heqi⟩ := h.privateSegment hi
  obtain ⟨second, hsecond, -, heqj⟩ := h.privateSegment hj
  have hprivate : first.Disjoint second := by
    have hpairwise := (List.nodup_flatten.mp (List.nodup_append'.mp h.nodup).2.1).2
    obtain ⟨hilt, higet⟩ := List.getElem?_eq_some_iff.mp hfirst
    obtain ⟨hjlt, hjget⟩ := List.getElem?_eq_some_iff.mp hsecond
    subst higet hjget
    rcases Nat.lt_or_gt_of_ne hne with hlt | hgt
    · exact List.pairwise_iff_getElem.mp hpairwise i j hilt hjlt hlt
    · exact (List.pairwise_iff_getElem.mp hpairwise j i hjlt hilt hgt).symm
  rw [heqi, heqj]
  ext objectId
  simp only [Finset.mem_inter, List.mem_toFinset, List.mem_append]
  constructor
  · rintro ⟨hin | hin, hin' | hin'⟩
    · exact hin
    · exact hin
    · exact hin'
    · exact absurd hin' (hprivate hin)
  · exact fun hin => ⟨Or.inl hin, Or.inl hin⟩

theorem Layout.card_inter_hotSetForNode (h : Layout config candidates segments) {i j : Nat}
    (hi : i < config.computeNodeIds.length) (hj : j < config.computeNodeIds.length)
    (hne : i ≠ j) :
    ((hotSetForNode segments i).toFinset ∩ (hotSetForNode segments j).toFinset).card =
      sharedHotObjectCount config := by
  rw [h.inter_hotSetForNode hi hj hne,
    List.toFinset_card_of_nodup (List.nodup_append'.mp h.nodup).1, h.shared_length]

end Layouts

end DmSimulator
