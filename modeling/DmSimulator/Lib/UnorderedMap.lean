/-
  DmSimulator.Lib.UnorderedMap

  Finite maps with unique keys and an iteration order nobody may rely on
  (`std::unordered_map`).  They are Mathlib's association lists `AList` at a
  constant value type: the entry list is one possible iteration order, and a
  result that is to be independent of that order is stated for two maps whose
  entry lists are permutations of each other.
-/
import Mathlib.Data.List.AList
import Mathlib.Algebra.BigOperators.Group.List.Basic

namespace DmSimulator

variable {κ υ : Type} [DecidableEq κ]

/-- A finite map from `κ` to `υ`. -/
abbrev UnorderedMap (κ υ : Type) : Type := AList (fun _ : κ => υ)

namespace UnorderedMap

/-- The values, in iteration order. -/
def values (m : UnorderedMap κ υ) : List υ := m.entries.map (fun entry => entry.2)

/-- `map[key]`, creating a default value for a key that is absent. -/
def getD (m : UnorderedMap κ υ) (key : κ) (default : υ) : υ :=
  (m.lookup key).getD default

theorem mem_entries {m : UnorderedMap κ υ} {key : κ} {value : υ} :
    (⟨key, value⟩ : Sigma fun _ : κ => υ) ∈ m.entries ↔ m.lookup key = some value :=
  AList.mem_lookup_iff.symm

theorem mem_values {m : UnorderedMap κ υ} {value : υ} :
    value ∈ m.values ↔ ∃ key, m.lookup key = some value := by
  unfold values
  rw [List.mem_map]
  constructor
  · rintro ⟨⟨key, value⟩, hentry, rfl⟩
    exact ⟨key, mem_entries.mp hentry⟩
  · rintro ⟨key, hlookup⟩
    exact ⟨⟨key, value⟩, mem_entries.mpr hlookup, rfl⟩

/-- Copying the entries of a map, mapped, into another map. -/
theorem lookup_foldl_insert {υ' : Type} (f : υ → υ') (m : UnorderedMap κ υ)
    (start : UnorderedMap κ υ') (key : κ) :
    (m.entries.foldl (fun copy entry => copy.insert entry.1 (f entry.2)) start).lookup key =
      (m.lookup key).elim (start.lookup key) (fun value => some (f value)) := by
  induction m using AList.insertRec generalizing start with
  | H0 => rfl
  | IH key' value m hnot ih =>
      rw [AList.entries_insert_of_notMem hnot, List.foldl_cons, ih]
      by_cases heq : key = key'
      · subst heq
        have hnone : m.lookup key = none := AList.lookup_eq_none.mpr hnot
        rw [hnone, AList.lookup_insert m]
        exact AList.lookup_insert start
      · rw [AList.lookup_insert_ne (s := m) heq, AList.lookup_insert_ne (s := start) heq]

end UnorderedMap

end DmSimulator
