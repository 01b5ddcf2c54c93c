/-
  DmSimulator.Lib.LastWins

  A dictionary filled from a list of items under their keys, a later item taking
  the place of an earlier one with the same key.

  What is observed of the item a key finds does not depend on the order of the
  list just where the items with the same key look the same (`Agree`).
-/
import DmSimulator.Lib.UnorderedMap
import Mathlib.Data.List.Induction

namespace DmSimulator

namespace LastWins

variable {α κ β : Type} [DecidableEq κ] (key : α → κ)

/-- The dictionary of the last items. -/
def lastByKey (items : List α) : UnorderedMap κ α :=
  items.foldl (fun dict item => dict.insert (key item) item) ∅

theorem lookup_lastByKey_snoc (items : List α) (item : α) (k : κ) :
    (lastByKey key (items ++ [item])).lookup k =
      if key item = k then some item else (lastByKey key items).lookup k := by
  unfold lastByKey
  rw [List.foldl_append, List.foldl_cons, List.foldl_nil]
  by_cases h : key item = k
  · rw [if_pos h, ← h]
    exact AList.lookup_insert _
  · rw [if_neg h]
    exact AList.lookup_insert_ne (Ne.symm h)

/-- What a key finds is one of its items. -/
theorem of_lookup {items : List α} {k : κ} {item : α}
    (h : (lastByKey key items).lookup k = some item) : item ∈ items ∧ key item = k := by
  induction items using List.reverseRecOn with
  | nil => cases h
  | append_singleton items last ih =>
      rw [lookup_lastByKey_snoc] at h
      by_cases hkey : key last = k
      · rw [if_pos hkey] at h
        obtain rfl := Option.some.inj h
        exact ⟨List.mem_append_right items (List.mem_singleton_self _), hkey⟩
      · rw [if_neg hkey] at h
        exact ⟨List.mem_append_left _ (ih h).1, (ih h).2⟩

/-- A key that some item has finds something. -/
theorem isSome_lookup {items : List α} {item : α} (h : item ∈ items) :
    ∃ found, (lastByKey key items).lookup (key item) = some found := by
  induction items using List.reverseRecOn with
  | nil => cases h
  | append_singleton items last ih =>
      rw [lookup_lastByKey_snoc]
      by_cases hkey : key last = key item
      · exact ⟨last, if_pos hkey⟩
      · rw [if_neg hkey]
        rcases List.mem_append.mp h with hmem | hmem
        · exact ih hmem
        · exact absurd (congrArg key (List.mem_singleton.mp hmem)).symm hkey

/-- Related items with the same keys are found at the same keys. -/
theorem rel_lookup_lastByKey {β : Type} {key' : β → κ} {R : α → β → Prop}
    (hkey : ∀ a b, R a b → key' b = key a) {items : List α} {items' : List β}
    (h : List.Forall₂ R items items') (k : κ) :
    Option.Rel R ((lastByKey key items).lookup k) ((lastByKey key' items').lookup k) := by
  have hinsert : ∀ {dict : UnorderedMap κ α} {dict' : UnorderedMap κ β},
      (∀ k, Option.Rel R (dict.lookup k) (dict'.lookup k)) → ∀ {a b}, R a b → ∀ k,
        Option.Rel R ((dict.insert (key a) a).lookup k) ((dict'.insert (key' b) b).lookup k) := by
    intro dict dict' hdict a b hab k
    rw [hkey a b hab]
    by_cases hk : k = key a
    · rw [hk, AList.lookup_insert, AList.lookup_insert]
      exact .some hab
    · rw [AList.lookup_insert_ne hk, AList.lookup_insert_ne hk]
      exact hdict k
  have hempty : ∀ k, Option.Rel R ((∅ : UnorderedMap κ α).lookup k)
      ((∅ : UnorderedMap κ β).lookup k) := fun _ => .none
  unfold lastByKey
  exact @List.rel_foldl α β _ _ R
    (fun (dict : UnorderedMap κ α) (dict' : UnorderedMap κ β) =>
      ∀ k, Option.Rel R (dict.lookup k) (dict'.lookup k)) _ _
      (fun _ _ hdict _ _ hab => hinsert hdict hab) _ _ hempty _ _ h k

/-- Items with the same key look the same. -/
def Agree (observe : α → β) (items : List α) : Prop :=
  ∀ a ∈ items, ∀ b ∈ items, key a = key b → observe a = observe b

variable {key} {observe : α → β} {items items' : List α}

theorem Agree.observe_lookup (h : Agree key observe items) (hperm : items'.Perm items) (k : κ) :
    ((lastByKey key items').lookup k).map observe =
      ((lastByKey key items).lookup k).map observe := by
  cases hfound : (lastByKey key items).lookup k with
  | none =>
      cases hfound' : (lastByKey key items').lookup k with
      | none => rfl
      | some item =>
          obtain ⟨hmem, rfl⟩ := of_lookup key hfound'
          obtain ⟨found, hsome⟩ := isSome_lookup key (hperm.subset hmem)
          rw [hfound] at hsome
          cases hsome
  | some item =>
      obtain ⟨hmem, rfl⟩ := of_lookup key hfound
      obtain ⟨found, hfound'⟩ := isSome_lookup key (hperm.symm.subset hmem)
      obtain ⟨hmem', hkey⟩ := of_lookup key hfound'
      rw [hfound', Option.map_some, Option.map_some,
        h found (hperm.subset hmem') item hmem hkey]

end LastWins

end DmSimulator
