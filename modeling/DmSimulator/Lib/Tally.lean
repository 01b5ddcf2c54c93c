/-
  DmSimulator.Lib.Tally

  Totals over finite maps.  `tally op f m` combines `f key value` over the
  entries of `m`, for an operation with identity zero that does not depend on
  the order: a sum or a maximum.

  The rule is `tally_insert`: where the value of a key grows by `x`, so does the
  total.
-/
import DmSimulator.Lib.UnorderedMap
import Mathlib.Order.MinMax
import Mathlib.Order.Lattice.Nat

namespace DmSimulator

namespace UnorderedMap

variable {κ υ : Type} [DecidableEq κ]

theorem getD_empty (key : κ) (default : υ) :
    (∅ : UnorderedMap κ υ).getD key default = default := rfl

theorem getD_insert (m : UnorderedMap κ υ) (key : κ) (value : υ) (key' : κ) (default : υ) :
    getD (m.insert key value) key' default =
      if key' = key then value else m.getD key' default := by
  unfold getD
  by_cases h : key' = key
  · subst h
    rw [if_pos rfl, AList.lookup_insert]
    rfl
  · rw [if_neg h, AList.lookup_insert_ne h]

theorem getD_of_lookup {m : UnorderedMap κ υ} {key : κ} {value : υ}
    (h : m.lookup key = some value) (default : υ) : m.getD key default = value := by
  unfold getD
  rw [h]
  rfl

/-- Combine `f key value` over the entries. -/
def tally (op : Nat → Nat → Nat) (f : κ → υ → Nat) (m : UnorderedMap κ υ) : Nat :=
  (m.entries.map (fun entry => f entry.1 entry.2)).foldr op 0

section Fold

variable (op : Nat → Nat → Nat)

theorem foldr_perm [hc : Std.Commutative op] [ha : Std.Associative op] {l l' : List Nat}
    (h : l.Perm l') : l.foldr op 0 = l'.foldr op 0 := by
  induction h with
  | nil => rfl
  | cons a _ ih => rw [List.foldr_cons, List.foldr_cons, ih]
  | swap a b l =>
      rw [List.foldr_cons, List.foldr_cons, List.foldr_cons, List.foldr_cons, ← ha.assoc,
        hc.comm b a, ha.assoc]
  | trans _ _ ih ih' => exact ih.trans ih'

/-- A total over some of the elements is that of a function that vanishes on the others. -/
theorem foldr_map_filter [hi : Std.LawfulIdentity op 0] {α : Type} (p : α → Bool) (f : α → Nat)
    (l : List α) :
    ((l.filter p).map f).foldr op 0 = (l.map (fun a => if p a then f a else 0)).foldr op 0 := by
  induction l with
  | nil => rfl
  | cons a l ih =>
      rw [List.map_cons, List.foldr_cons, ← ih]
      cases hp : p a with
      | true =>
          rw [List.filter_cons_of_pos hp, List.map_cons, List.foldr_cons]
          rfl
      | false =>
          rw [List.filter_cons_of_neg (by rw [hp]; exact Bool.false_ne_true)]
          exact (hi.left_id _).symm

end Fold

section Tally

variable (op : Nat → Nat → Nat) [hc : Std.Commutative op] [ha : Std.Associative op]
  [hi : Std.LawfulIdentity op 0]

/-- A present key's entry, taken out to the front. -/
theorem entries_perm {m : UnorderedMap κ υ} {key : κ} {value : υ}
    (h : m.lookup key = some value) : m.entries.Perm (⟨key, value⟩ :: m.entries.kerase key) := by
  have hmem : key ∈ m.entries.keys := AList.lookup_isSome.mp (by rw [h]; rfl)
  obtain ⟨value', l₁, l₂, -, hentries, hkerase⟩ := List.exists_of_kerase hmem
  have hin : (⟨key, value'⟩ : Sigma fun _ : κ => υ) ∈ m.entries := by
    rw [hentries]
    exact List.mem_append_right l₁ List.mem_cons_self
  have hvalue : m.lookup key = some value' := AList.mem_lookup_iff.mpr hin
  rw [h] at hvalue
  rw [hkerase, Option.some.inj hvalue, hentries]
  exact List.perm_middle

/-- The total, one entry taken out. -/
theorem tally_eq_op_kerase (f : κ → υ → Nat) (m : UnorderedMap κ υ) (key : κ) (default : υ)
    (hdefault : f key default = 0) :
    tally op f m = op (f key (m.getD key default))
      (((m.entries.kerase key).map (fun entry => f entry.1 entry.2)).foldr op 0) := by
  unfold tally getD
  cases hlookup : m.lookup key with
  | none =>
      have hnot : key ∉ m.entries.keys := AList.lookup_eq_none.mp hlookup
      rw [Option.getD_none, hdefault, hi.left_id, List.kerase_of_notMem_keys hnot]
  | some value =>
      rw [foldr_perm op ((entries_perm hlookup).map _), List.map_cons, List.foldr_cons]
      rfl

/-- The total grows as the value of one key does. -/
theorem tally_insert {f : κ → υ → Nat} {m : UnorderedMap κ υ} {key : κ} {value : υ}
    (default : υ) {x : Nat} (hdefault : f key default = 0)
    (hvalue : f key value = op (f key (m.getD key default)) x) :
    tally op f (m.insert key value) = op (tally op f m) x := by
  rw [tally_eq_op_kerase op f m key default hdefault]
  unfold tally
  rw [AList.entries_insert, List.map_cons, List.foldr_cons, hvalue, ha.assoc, ha.assoc]
  exact congrArg (op _) (hc.comm x _)

end Tally

end UnorderedMap

end DmSimulator
