/-
  DmSimulator.Cache.Recency

  The recency of the residents of a cache.

  A use is a lookup that hits or an admission that succeeds.  Under a policy that
  stamps every access on the entry, the residents carry the times of their last
  uses (`Stamped`).  A policy that ranks the residents gives them up in the order
  of their ranks, so the LRU victims are in the order of those times.
-/
import DmSimulator.Cache.AdmissionPlan
import DmSimulator.Cache.EvictionRows
import DmSimulator.Lib.Recency

namespace DmSimulator

open Recency Selection

/-- The policy stamps the time of every access on the entry. -/
def CachePolicy.Stamps (P : CachePolicy) : Prop :=
  ∀ s entry time, P.onAccess s entry time = entry.touch time

theorem LruPolicy.stamps : LruPolicy.Stamps := fun _ _ _ => rfl

namespace LocalCache

variable {P : CachePolicy} {A : Arith} {c : LocalCache P}

-- ============================================================================
-- Uses
-- ============================================================================

/-- The use an operation makes: a lookup that hits, or an admission that succeeds. -/
def opUses (A : Arith) (c : LocalCache P) : CacheOp → List (ObjectId × SimTime)
  | .lookup stats request time =>
      if (lookup stats c request time).2 then [(request.objectId, time)] else []
  | .admitObject request response time =>
      if (admitObject A c request response time).2 then [(request.objectId, time)] else []
  | _ => []

/-- The uses of a sequence of operations. -/
def usesOf (A : Arith) (c : LocalCache P) : List CacheOp → List (ObjectId × SimTime)
  | [] => []
  | op :: ops => opUses A c op ++ usesOf A (applyOp A c op) ops

/-- The residents carry the times of their last uses. -/
def Stamped (c : LocalCache P) (uses : List (ObjectId × SimTime)) : Prop :=
  ∀ objectId entry, c.entries.find objectId = some entry →
    lastUse uses objectId = some entry.lastAccessTime

variable {uses : List (ObjectId × SimTime)}

theorem stamped_init (P : CachePolicy) (capacityBytes : Nat) :
    ({ capacityBytes := capacityBytes } : LocalCache P).Stamped [] := by
  intro objectId entry hfind
  have hnone : ({ capacityBytes := capacityBytes } : LocalCache P).entries.find objectId = none :=
    KeyedStore.find_empty objectId
  rw [hnone] at hfind
  cases hfind

/-- A lookup that hits stamps the resident. -/
theorem Stamped.lookup (hP : P.Stamps) (h : c.Stamped uses) (stats : Stats) (request : Request)
    (time : SimTime) :
    (c.applyOp A (.lookup stats request time)).Stamped
      (uses ++ opUses A c (.lookup stats request time)) := by
  intro objectId entry
  show (LocalCache.lookup stats c request time).1.entries.find objectId = some entry →
    Recency.lastUse (uses ++ if (LocalCache.lookup stats c request time).2 = true then _ else _) _ = _
  unfold LocalCache.lookup
  cases hresident : c.entries.find request.objectId with
  | none =>
      rw [if_neg Bool.false_ne_true, List.append_nil]
      exact h objectId entry
  | some resident =>
      rw [if_pos rfl, lastUse_snoc, recordHit_entries, hP]
      have hkey : resident.objectId = request.objectId := KeyedStore.key_of_find hresident
      intro hfind
      rw [KeyedStore.find_insert, CacheEntry.touch_objectId, hkey] at hfind
      by_cases heq : objectId = request.objectId
      · rw [if_pos heq] at hfind
        rw [if_pos heq.symm, ← Option.some.inj hfind]
        rfl
      · rw [if_neg heq] at hfind
        rw [if_neg (Ne.symm heq)]
        exact h objectId entry hfind

/-- An admission that succeeds stamps the incoming object; the others keep their stamps,
    as long as they stay. -/
theorem Stamped.admitObject (hP : P.Stamps) (h : c.Stamped uses) (request : Request)
    (response : Response) (time : SimTime) :
    (c.applyOp A (.admitObject request response time)).Stamped
      (uses ++ opUses A c (.admitObject request response time)) := by
  intro objectId entry
  show (c.admitObject A request response time).1.entries.find objectId = some entry →
    lastUse (uses ++ if (c.admitObject A request response time).2 = true then _ else _) _ = _
  rcases admit_cases (A := A) c request response time with
    ⟨reason, victims, heq⟩ | ⟨victims, entries, occupancy, -, -, -, heq⟩
  · rw [heq, recordResult_snd, recordResult_entries, if_neg Bool.false_ne_true, List.append_nil]
    exact h objectId entry
  · rw [heq, recordResult_snd, recordResult_entries, if_pos rfl, lastUse_snoc, place_find, hP]
    intro hfind
    by_cases hincoming : objectId = request.objectId
    · rw [if_pos hincoming] at hfind
      rw [if_pos hincoming.symm, ← Option.some.inj hfind]
      rfl
    · rw [if_neg hincoming, evictAll_find] at hfind
      rw [if_neg (Ne.symm hincoming)]
      by_cases hvictim : objectId ∈ victims
      · rw [if_pos hvictim] at hfind
        cases hfind
      · rw [if_neg hvictim] at hfind
        exact h objectId entry hfind

theorem Stamped.applyOp (hP : P.Stamps) (h : c.Stamped uses) {op : CacheOp}
    (hop : ¬ op.Installs) : (c.applyOp A op).Stamped (uses ++ opUses A c op) := by
  cases op with
  | lookup stats request time => exact h.lookup hP stats request time
  | admitObject request response time => exact h.admitObject hP request response time
  | onEpochStart stats epochId =>
      show (c.onEpochStart stats epochId).Stamped (uses ++ [])
      rw [List.append_nil]
      exact h
  | installReplicas replicas time nodeId epochId => exact absurd trivial hop

theorem Stamped.foldl_applyOp (hP : P.Stamps) {ops : List CacheOp}
    (hops : ∀ op ∈ ops, ¬ op.Installs) (h : c.Stamped uses) :
    (ops.foldl (LocalCache.applyOp A) c).Stamped (uses ++ usesOf A c ops) := by
  induction ops generalizing c uses with
  | nil =>
      rw [usesOf, List.append_nil]
      exact h
  | cons op ops ih =>
      have hfirst := h.applyOp (A := A) hP (hops op List.mem_cons_self)
      rw [usesOf, ← List.append_assoc]
      exact ih (fun other hother => hops other (List.mem_cons_of_mem op hother)) hfirst

-- ============================================================================
-- Victims
-- ============================================================================

/-- A loop head of a policy that ranks the residents has planned the first of them, and
    the others are left. -/
theorem LoopHead.ordered {ρ : Type} [LinearOrder ρ] {rank : CacheEntry → ρ}
    {beaten : CacheEntry → Prop} {request : Request}
    (hrank : RankedBy P c.policy request rank beaten) {entries : Residents} {occupancy : Nat}
    {victims : List ObjectId} (h : LoopHead A c request entries occupancy victims)
    {sorted : List CacheEntry} (hsorted : Ordered rank c.entries.items sorted) :
    ∃ rest, Ordered rank entries.items rest ∧
      sorted.map CacheEntry.objectId = victims ++ rest.map CacheEntry.objectId := by
  induction h with
  | start => exact ⟨sorted, hsorted, rfl⟩
  | @next entries occupancy victims victim entry _ _ hselect hfind ih =>
      obtain ⟨rest, hrest, hsplit⟩ := ih
      cases rest with
      | nil =>
          have hmem := hrest.perm.symm.subset (KeyedStore.find_eq_some.mp hfind).1
          exact absurd hmem List.not_mem_nil
      | cons first rest =>
          -- the policy selects the first of the residents that are left
          have hvictim : victim = first.objectId := by
            by_cases hbeaten : beaten first
            · have hfirst := hrank.select_beaten entries first hrest.isLeast_head hbeaten
              exact Option.some.inj (hselect.symm.trans hfirst)
            · have hkept := hrank.select_kept entries first hrest.isLeast_head hbeaten
              rw [hkept] at hselect
              cases hselect
          subst hvictim
          refine ⟨rest, (ordered_erase hrest).2, ?_⟩
          rw [hsplit, List.map_cons, List.append_assoc]
          rfl

/-- What an admission attempt removes are the first of the residents in the order of their
    ranks. -/
theorem admissionRemovals_prefix {ρ : Type} [LinearOrder ρ] {rank : CacheEntry → ρ}
    {beaten : CacheEntry → Prop} {request : Request}
    (hrank : RankedBy P c.policy request rank beaten) (response : Response) (time : SimTime)
    {sorted : List CacheEntry} (hsorted : Ordered rank c.entries.items sorted) :
    admissionRemovals A c request response time <+: sorted.map CacheEntry.objectId := by
  unfold admissionRemovals
  rcases admit_cases (A := A) c request response time with
    ⟨reason, victims, heq⟩ | ⟨victims, entries, occupancy, hplan, hhead, -, heq⟩
  · rw [heq, recordResult_snd]
    exact List.nil_prefix
  · rw [heq, recordResult_snd, hplan]
    simp only [hhead.removals_eq time]
    obtain ⟨rest, -, hsplit⟩ := hhead.ordered hrank hsorted
    exact ⟨_, hsplit.symm⟩

/-- LRU removes the least recently used residents, where residents whose last uses carry the
    same time are taken in the order of their ids. -/
theorem lru_removals {c : LocalCache LruPolicy} (h : c.Stamped uses) (huses : Chronological uses)
    (request : Request) (response : Response) (time : SimTime) :
    ∃ residents : List ObjectId, residents.Perm (c.entries.items.map CacheEntry.objectId) ∧
      residents.Pairwise (LessRecent uses) ∧
        admissionRemovals A c request response time <+: residents := by
  have hrank := LruPolicy.rankedBy c.policy request
  obtain ⟨sorted, hsorted⟩ := exists_ordered_residents hrank.rank_objectId c.entries
  have hlast : ∀ entry ∈ sorted, lastUse uses entry.objectId = some entry.lastAccessTime :=
    fun entry hmem => h entry.objectId entry
      (KeyedStore.find_eq_some.mpr ⟨hsorted.perm.subset hmem, rfl⟩)
  refine ⟨sorted.map CacheEntry.objectId, hsorted.perm.map _, ?_,
    admissionRemovals_prefix hrank response time hsorted⟩
  refine List.pairwise_map.mpr (hsorted.increasing.imp_of_mem fun {a b} ha hb hlt => ?_)
  apply lessRecent_of_lt huses (hlast a ha) (hlast b hb)
  exact Prod.Lex.toLex_lt_toLex.mp hlt

end LocalCache

end DmSimulator
