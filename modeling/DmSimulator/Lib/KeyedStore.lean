/-
  DmSimulator.Lib.KeyedStore

  Stores of records that carry their own key: a list of records in which no two
  have the same key.  The list is one iteration order of a hash map whose key
  is a field of the value.  The file has the operations (`find`, `erase`,
  `insert`), how they act on each other and on sums over the store, and that
  none of them depends on the iteration order.
-/
import Mathlib.Data.List.Forall2
import Mathlib.Data.List.Nodup
import Mathlib.Data.List.Perm.Basic
import Mathlib.Algebra.BigOperators.Group.List.Basic
import Mathlib.Algebra.Order.Ring.Nat

namespace DmSimulator

variable {α κ : Type}

/-- Records with pairwise different keys. -/
structure KeyedStore (key : α → κ) where
  items : List α
  nodup : (items.map key).Nodup

namespace KeyedStore

variable {key : α → κ}

@[ext] theorem ext {s t : KeyedStore key} (h : s.items = t.items) : s = t := by
  cases s; cases t; cases h; rfl

def empty : KeyedStore key := ⟨[], List.nodup_nil⟩

@[simp] theorem items_empty : (empty : KeyedStore key).items = [] := rfl

theorem eq_of_key_eq (s : KeyedStore key) {a b : α} (ha : a ∈ s.items) (hb : b ∈ s.items)
    (h : key a = key b) : a = b :=
  List.inj_on_of_nodup_map s.nodup ha hb h

/-- The sum of a weight over the records. -/
def total (weight : α → Nat) (s : KeyedStore key) : Nat := (s.items.map weight).sum

@[simp] theorem total_empty (weight : α → Nat) : (empty : KeyedStore key).total weight = 0 := rfl

variable [DecidableEq κ]

/-- The record with the given key. -/
def find (s : KeyedStore key) (k : κ) : Option α :=
  s.items.find? (fun a => key a = k)

def contains (s : KeyedStore key) (k : κ) : Bool := (s.find k).isSome

/-- The store without the record of the given key. -/
def erase (s : KeyedStore key) (k : κ) : KeyedStore key :=
  ⟨s.items.filter (fun a => ¬ key a = k),
    s.nodup.sublist (List.filter_sublist.map key)⟩

theorem key_not_mem_erase (s : KeyedStore key) (k : κ) :
    k ∉ (s.erase k).items.map key := by
  simp [erase]

/-- Store a record under its own key, replacing the one that was there. -/
def insert (s : KeyedStore key) (a : α) : KeyedStore key :=
  ⟨a :: (s.erase (key a)).items,
    List.nodup_cons.mpr ⟨key_not_mem_erase s (key a), (s.erase (key a)).nodup⟩⟩

-- ============================================================================
-- Membership and `find`
-- ============================================================================

theorem find_eq_some {s : KeyedStore key} {k : κ} {a : α} :
    s.find k = some a ↔ a ∈ s.items ∧ key a = k := by
  constructor
  · intro h
    exact ⟨List.mem_of_find?_eq_some h, by simpa using List.find?_some h⟩
  · rintro ⟨hmem, rfl⟩
    cases hf : s.find (key a) with
    | none =>
        have hne := List.find?_eq_none.mp hf a hmem
        simp at hne
    | some b =>
        have hb : b ∈ s.items := List.mem_of_find?_eq_some hf
        have hk : key b = key a := by simpa using List.find?_some hf
        rw [s.eq_of_key_eq hb hmem hk]

theorem find_eq_none {s : KeyedStore key} {k : κ} :
    s.find k = none ↔ ∀ a ∈ s.items, key a ≠ k := by
  simp [find, List.find?_eq_none]

theorem key_of_find {s : KeyedStore key} {k : κ} {a : α} (h : s.find k = some a) :
    key a = k :=
  (find_eq_some.mp h).2

@[simp] theorem find_empty (k : κ) : (empty : KeyedStore key).find k = none := rfl

theorem mem_erase {s : KeyedStore key} {k : κ} {a : α} :
    a ∈ (s.erase k).items ↔ a ∈ s.items ∧ key a ≠ k := by
  simp [erase]

theorem mem_insert {s : KeyedStore key} {a b : α} :
    b ∈ (s.insert a).items ↔ b = a ∨ (b ∈ s.items ∧ key b ≠ key a) := by
  simp [insert, mem_erase]

@[simp] theorem find_erase_self (s : KeyedStore key) (k : κ) : (s.erase k).find k = none := by
  rw [find_eq_none]
  intro a ha
  exact (mem_erase.mp ha).2

theorem find_erase_ne (s : KeyedStore key) {k k' : κ} (h : k' ≠ k) :
    (s.erase k).find k' = s.find k' := by
  apply Option.ext
  intro a
  rw [find_eq_some, find_eq_some, mem_erase]
  constructor
  · rintro ⟨⟨hm, -⟩, hk⟩
    exact ⟨hm, hk⟩
  · rintro ⟨hm, hk⟩
    exact ⟨⟨hm, hk ▸ h⟩, hk⟩

@[simp] theorem find_insert_self (s : KeyedStore key) (a : α) :
    (s.insert a).find (key a) = some a := by
  rw [find_eq_some, mem_insert]
  exact ⟨Or.inl rfl, rfl⟩

theorem find_insert_ne (s : KeyedStore key) (a : α) {k : κ} (h : k ≠ key a) :
    (s.insert a).find k = s.find k := by
  apply Option.ext
  intro b
  rw [find_eq_some, find_eq_some, mem_insert]
  constructor
  · rintro ⟨rfl | ⟨hm, -⟩, hk⟩
    · exact absurd hk.symm h
    · exact ⟨hm, hk⟩
  · rintro ⟨hm, hk⟩
    exact ⟨Or.inr ⟨hm, hk ▸ h⟩, hk⟩

/-- Storing a record takes no key away. -/
theorem exists_find_insert {s : KeyedStore key} {k : κ} (h : ∃ b, s.find k = some b) (a : α) :
    ∃ b, (s.insert a).find k = some b := by
  by_cases hk : k = key a
  · exact ⟨a, by rw [hk]; exact find_insert_self s a⟩
  · rw [find_insert_ne s a hk]
    exact h

/-- Replacing an element keeps the keys. -/
theorem isSome_find_insert {s : KeyedStore key} {a b : α} (h : s.find (key a) = some b) (k : κ) :
    ((s.insert a).find k).isSome ↔ (s.find k).isSome := by
  by_cases heq : k = key a
  · rw [heq, find_insert_self, h]
    exact Iff.rfl
  · rw [find_insert_ne _ _ heq]

/-- Erasing an absent key changes nothing. -/
theorem erase_eq_self {s : KeyedStore key} {k : κ} (h : s.find k = none) : s.erase k = s := by
  apply ext
  simp only [erase]
  rw [List.filter_eq_self]
  intro a ha
  simpa using find_eq_none.mp h a ha

-- ============================================================================
-- Sizes
-- ============================================================================

/-- A resident record can be moved to the front. -/
theorem perm_cons_erase {s : KeyedStore key} {k : κ} {a : α} (h : s.find k = some a) :
    s.items.Perm (a :: (s.erase k).items) := by
  obtain ⟨hmem, hkey⟩ := find_eq_some.mp h
  have hnd : s.items.Nodup := List.Nodup.of_map key s.nodup
  have herase : ∀ b, b ∈ (a :: (s.erase k).items) ↔ b ∈ s.items := by
    intro b
    rw [List.mem_cons, mem_erase]
    constructor
    · rintro (rfl | ⟨hb, -⟩)
      · exact hmem
      · exact hb
    · intro hb
      by_cases hk : key b = k
      · exact Or.inl (s.eq_of_key_eq hb hmem (hk.trans hkey.symm))
      · exact Or.inr ⟨hb, hk⟩
  have hnd' : (a :: (s.erase k).items).Nodup := by
    rw [List.nodup_cons]
    refine ⟨fun ha => (mem_erase.mp ha).2 hkey, List.Nodup.of_map key (s.erase k).nodup⟩
  exact (List.perm_ext_iff_of_nodup hnd hnd').mpr fun b => (herase b).symm

theorem total_erase (weight : α → Nat) {s : KeyedStore key} {k : κ} {a : α}
    (h : s.find k = some a) : s.total weight = weight a + (s.erase k).total weight := by
  have hperm := (perm_cons_erase h).map weight
  simpa [total] using hperm.sum_eq

theorem length_erase {s : KeyedStore key} {k : κ} {a : α} (h : s.find k = some a) :
    s.items.length = (s.erase k).items.length + 1 := by
  simpa using (perm_cons_erase h).length_eq

theorem total_insert (weight : α → Nat) (s : KeyedStore key) (a : α) :
    (s.insert a).total weight = weight a + (s.erase (key a)).total weight := by
  simp [total, insert]

/-- Storing a record in another's place changes the total by their weights. -/
theorem total_replace (weight : α → Nat) {s : KeyedStore key} {k : κ} {a a' : α}
    (h : s.find k = some a) (hkey : key a' = k) :
    (s.insert a').total weight + weight a = s.total weight + weight a' := by
  rw [total_insert, total_erase weight h, hkey]
  omega

theorem total_erase_le (weight : α → Nat) (s : KeyedStore key) (k : κ) :
    (s.erase k).total weight ≤ s.total weight := by
  cases h : s.find k with
  | none => rw [erase_eq_self h]
  | some a => rw [total_erase weight h]; omega

theorem weight_le_total (weight : α → Nat) {s : KeyedStore key} {k : κ} {a : α}
    (h : s.find k = some a) : weight a ≤ s.total weight := by
  rw [total_erase weight h]
  omega

-- ============================================================================
-- Independence of the iteration order
-- ============================================================================

theorem find_perm {s t : KeyedStore key} (h : s.items.Perm t.items) (k : κ) :
    s.find k = t.find k := by
  apply Option.ext
  intro a
  rw [find_eq_some, find_eq_some, h.mem_iff]

theorem erase_perm {s t : KeyedStore key} (h : s.items.Perm t.items) (k : κ) :
    (s.erase k).items.Perm (t.erase k).items :=
  h.filter _

theorem insert_perm {s t : KeyedStore key} (h : s.items.Perm t.items) (a : α) :
    (s.insert a).items.Perm (t.insert a).items :=
  (erase_perm h (key a)).cons a

-- ============================================================================
-- Stores with more keys
-- ============================================================================

theorem find_insert (s : KeyedStore key) (a : α) (k : κ) :
    (s.insert a).find k = if k = key a then some a else s.find k := by
  by_cases h : k = key a
  · rw [if_pos h, h, find_insert_self]
  · rw [if_neg h, find_insert_ne s a h]

theorem find_erase (s : KeyedStore key) (k k' : κ) :
    (s.erase k).find k' = if k' = k then none else s.find k' := by
  by_cases h : k' = k
  · rw [if_pos h, h, find_erase_self]
  · rw [if_neg h, find_erase_ne s h]

/-- Stores with the same keys have the same number of records. -/
theorem length_eq_of_find {β : Type} {key' : β → κ} {s : KeyedStore key} {t : KeyedStore key'}
    (h : ∀ k, (s.find k).isSome ↔ (t.find k).isSome) : s.items.length = t.items.length := by
  have hmem : ∀ {γ : Type} {key'' : γ → κ} (u : KeyedStore key'') (k : κ),
      k ∈ u.items.map key'' ↔ (u.find k).isSome := by
    intro γ key'' u k
    rw [← not_iff_not, Option.not_isSome_iff_eq_none, find_eq_none]
    simp
  have hperm : (s.items.map key).Perm (t.items.map key') :=
    (List.perm_ext_iff_of_nodup s.nodup t.nodup).mpr fun k => by rw [hmem, hmem, h]
  simpa using hperm.length_eq

section Covers

variable {β : Type} {key' : β → κ} {R : α → β → Prop} {s : KeyedStore key} {t : KeyedStore key'}

/-- Every record of `s` has a related record under the same key in `t`. -/
def Covers (R : α → β → Prop) (s : KeyedStore key) (t : KeyedStore key') : Prop :=
  ∀ k a, s.find k = some a → ∃ b, t.find k = some b ∧ R a b

theorem Covers.insert (h : Covers R s t) {a : α} {b : β} (hab : R a b) (hkey : key a = key' b) :
    Covers R (s.insert a) (t.insert b) := by
  intro k c hc
  rw [find_insert] at hc
  rw [find_insert, ← hkey]
  by_cases hk : k = key a
  · rw [if_pos hk] at hc ⊢
    cases hc
    exact ⟨b, rfl, hab⟩
  · rw [if_neg hk] at hc ⊢
    exact h k c hc

theorem Covers.insert_right (h : Covers R s t) {b : β} (hnone : s.find (key' b) = none) :
    Covers R s (t.insert b) := by
  intro k c hc
  rw [find_insert, if_neg]
  · exact h k c hc
  · rintro rfl
    rw [hnone] at hc
    cases hc

theorem Covers.insert_left (h : Covers R s t) {a : α} {b : β} (hfind : t.find (key a) = some b)
    (hab : R a b) : Covers R (s.insert a) t := by
  intro k c hc
  rw [find_insert] at hc
  by_cases hk : k = key a
  · rw [if_pos hk] at hc
    cases hc
    exact ⟨b, by rw [hk, hfind], hab⟩
  · rw [if_neg hk] at hc
    exact h k c hc

theorem Covers.erase_left (h : Covers R s t) (k : κ) : Covers R (s.erase k) t := by
  intro k' c hc
  rw [find_erase] at hc
  split at hc
  · cases hc
  · exact h k' c hc

/-- A key that `s` does not have can be erased from `t`. -/
theorem Covers.erase_right (h : Covers R s t) {k : κ} (hnone : s.find k = none) :
    Covers R s (t.erase k) := by
  intro k' c hc
  rw [find_erase, if_neg]
  · exact h k' c hc
  · rintro rfl
    rw [hnone] at hc
    cases hc

end Covers

-- ============================================================================
-- Stores side by side
-- ============================================================================

section Related

variable {β : Type} {key' : β → κ} {R : α → β → Prop} {s : KeyedStore key} {t : KeyedStore key'}

/-- The records of two stores are related, one by one. -/
def Related (R : α → β → Prop) (s : KeyedStore key) (t : KeyedStore key') : Prop :=
  List.Forall₂ R s.items t.items

/-- Related stores have the same keys, at related records. -/
theorem Related.find (h : Related R s t) (hkey : ∀ a b, R a b → key a = key' b) (k : κ) :
    (s.find k = none ∧ t.find k = none) ∨
      ∃ a b, s.find k = some a ∧ t.find k = some b ∧ R a b := by
  have main : ∀ (l : List α) (l' : List β), List.Forall₂ R l l' →
      (l.find? (fun a => key a = k) = none ∧ l'.find? (fun b => key' b = k) = none) ∨
        ∃ a b, l.find? (fun a => key a = k) = some a ∧ l'.find? (fun b => key' b = k) = some b ∧
          R a b := by
    intro l l' hall
    induction hall with
    | nil => exact Or.inl ⟨rfl, rfl⟩
    | @cons a b as bs hab _ ih =>
        by_cases hk : key a = k
        · refine Or.inr ⟨a, b, ?_, ?_, hab⟩
          · rw [List.find?_cons_of_pos (by simpa using hk)]
          · rw [List.find?_cons_of_pos (by simpa using (hkey a b hab).symm.trans hk)]
        · have hk' : key' b ≠ k := fun heq => hk ((hkey a b hab).trans heq)
          rw [List.find?_cons_of_neg (by simpa using hk),
            List.find?_cons_of_neg (by simpa using hk')]
          exact ih
  exact main s.items t.items h

theorem Related.erase (h : Related R s t) (hkey : ∀ a b, R a b → key a = key' b) (k : κ) :
    Related R (s.erase k) (t.erase k) :=
  List.rel_filter (fun a b hab => by simp [hkey a b hab]) h

theorem Related.insert (h : Related R s t) (hkey : ∀ a b, R a b → key a = key' b) {a : α} {b : β}
    (hab : R a b) : Related R (s.insert a) (t.insert b) := by
  refine List.Forall₂.cons hab ?_
  rw [← hkey a b hab]
  exact h.erase hkey (key a)

end Related

end KeyedStore

end DmSimulator
