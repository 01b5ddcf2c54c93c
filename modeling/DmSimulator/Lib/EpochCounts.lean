/-
  DmSimulator.Lib.EpochCounts

  Counts over the retained part of a history that is divided into epochs.

  A counter keeps a total for every key and, for every retained epoch, the counts
  of that epoch alone.  `Tracks` says that both are right for the epochs that
  `kept` retains.  Recording an occurrence in a retained epoch keeps it; dropping
  an epoch, by subtracting its counts from the totals, leaves a counter that is
  right for the epochs that remain.
-/
import Mathlib.Algebra.Order.Ring.Nat
import Mathlib.Data.List.Count

namespace DmSimulator

namespace EpochCounts

variable {ε κ : Type} [DecidableEq κ]

/-- How often a key occurs in the retained epochs. -/
def keptCount (kept : ε → Bool) (history : List (ε × κ)) (key : κ) : Nat :=
  history.countP (fun p => kept p.1 && decide (p.2 = key))

variable {kept kept' : ε → Bool} {history : List (ε × κ)}

theorem keptCount_append (kept : ε → Bool) (history more : List (ε × κ)) (key : κ) :
    keptCount kept (history ++ more) key =
      keptCount kept history key + keptCount kept more key :=
  List.countP_append

theorem keptCount_congr (h : ∀ p ∈ history, kept p.1 = kept' p.1) (key : κ) :
    keptCount kept history key = keptCount kept' history key := by
  refine List.countP_congr fun p hp => ?_
  rw [h p hp]

/-- Two ways to retain epochs, one of which retains less, count alike exactly if
    every occurrence is retained by both. -/
theorem keptCount_eq_iff (hsub : ∀ p ∈ history, kept p.1 → kept' p.1) (key : κ) :
    keptCount kept history key = keptCount kept' history key ↔
      ∀ p ∈ history, p.2 = key → kept' p.1 → kept p.1 := by
  unfold keptCount
  induction history with
  | nil => simp
  | cons p history ih =>
      have hhead := hsub p List.mem_cons_self
      have htail := ih fun q hq => hsub q (List.mem_cons_of_mem p hq)
      have hle : history.countP (fun p => kept p.1 && decide (p.2 = key)) ≤
          history.countP (fun p => kept' p.1 && decide (p.2 = key)) := by
        refine List.countP_mono_left fun q hq hcount => ?_
        rw [Bool.and_eq_true] at hcount ⊢
        exact ⟨hsub q (List.mem_cons_of_mem p hq) hcount.1, hcount.2⟩
      rw [List.countP_cons, List.countP_cons, List.forall_mem_cons, ← htail]
      by_cases hk : p.2 = key
      · cases hp : kept p.1
        · cases hp' : kept' p.1
          · simp [hk]
          · simp [hk]
            omega
        · simp [hk, hhead hp]
      · simp [hk]

section Counters

variable [DecidableEq ε] {bucket bucket' : ε → κ → Nat} {total total' : κ → Nat}

/-- Counters that are right for the retained epochs of a history. -/
structure Tracks (kept : ε → Bool) (history : List (ε × κ)) (bucket : ε → κ → Nat)
    (total : κ → Nat) : Prop where
  bucket_eq : ∀ epoch key, bucket epoch key = if kept epoch then history.count (epoch, key) else 0
  total_eq : ∀ key, total key = keptCount kept history key

/-- What occurs in one epoch counts if that epoch is retained. -/
theorem keptCount_split (kept : ε → Bool) (history : List (ε × κ)) (epoch : ε) (key : κ) :
    keptCount kept history key =
      keptCount (fun e => kept e && e != epoch) history key +
        if kept epoch then history.count (epoch, key) else 0 := by
  induction history with
  | nil => simp [keptCount]
  | cons p history ih =>
      have hcons : ∀ kept : ε → Bool, keptCount kept (p :: history) key =
          keptCount kept history key + if kept p.1 && decide (p.2 = key) then 1 else 0 :=
        fun kept => List.countP_cons
      rw [hcons, hcons, List.count_cons, ih]
      obtain ⟨e, k⟩ := p
      by_cases he : e = epoch
      · subst he
        by_cases hk : k = key
        · subst hk
          cases kept e <;> simp
          omega
        · simp [hk]
      · by_cases hk : k = key
        · subst hk
          simp [he]
          omega
        · simp [hk]

theorem Tracks.init : Tracks kept ([] : List (ε × κ)) (fun _ _ => 0) (fun _ => 0) := by
  refine ⟨fun epoch key => ?_, fun key => rfl⟩
  rw [List.count_nil, ite_self]

/-- An occurrence in a retained epoch is counted in its bucket and in the total. -/
theorem Tracks.record (h : Tracks kept history bucket total) {epoch : ε} (hkept : kept epoch)
    (key : κ)
    (hbucket : ∀ e k, bucket' e k = bucket e k + if e = epoch ∧ k = key then 1 else 0)
    (htotal : ∀ k, total' k = total k + if k = key then 1 else 0) :
    Tracks kept (history ++ [(epoch, key)]) bucket' total' := by
  refine ⟨fun e k => ?_, fun k => ?_⟩
  · rw [hbucket, h.bucket_eq, List.count_append, List.count_singleton]
    by_cases he : e = epoch
    · subst he
      by_cases hk : k = key
      · simp [hkept, hk]
      · simp [hk, Ne.symm hk]
    · have hne : ¬ epoch = e := fun heq => he heq.symm
      simp [he, hne]
  · rw [htotal, h.total_eq, keptCount_append]
    congr 1
    by_cases hk : k = key
    · simp [keptCount, hkept, hk]
    · have hne : ¬ key = k := fun heq => hk heq.symm
      simp [keptCount, hk, hne]

/-- Dropping an epoch. -/
theorem Tracks.drop (h : Tracks kept history bucket total) (epoch : ε)
    (hbucket : ∀ e k, bucket' e k = if e = epoch then 0 else bucket e k)
    (htotal : ∀ k, total' k = total k - bucket epoch k) :
    Tracks (fun e => kept e && e != epoch) history bucket' total' := by
  refine ⟨fun e k => ?_, fun k => ?_⟩
  · rw [hbucket, h.bucket_eq]
    by_cases he : e = epoch
    · simp [he]
    · simp [he]
  · rw [htotal, h.total_eq, h.bucket_eq, keptCount_split kept history epoch k]
    omega

/-- Only the epochs that occur matter. -/
theorem Tracks.congr (h : Tracks kept history bucket total)
    (hkept : ∀ p ∈ history, kept p.1 = kept' p.1)
    (hbucket : ∀ e k, bucket' e k = bucket e k) (htotal : ∀ k, total' k = total k) :
    Tracks kept' history bucket' total' := by
  refine ⟨fun e k => ?_, fun k => ?_⟩
  · rw [hbucket, h.bucket_eq]
    by_cases hmem : (e, k) ∈ history
    · rw [hkept (e, k) hmem]
    · rw [List.count_eq_zero_of_not_mem hmem, ite_self, ite_self]
  · rw [htotal, h.total_eq, keptCount_congr hkept]

end Counters

end EpochCounts

end DmSimulator
