/-
  DmSimulator.Lib.Segments

  Texts cut into fields by a doubled symbol: `joined u fields` writes `u u` before
  every field.  A field is clean when it holds no two `u` in a row and does not
  end in `u`; then its end can be seen in the text, and a text has one reading as
  clean fields.
-/
import Mathlib.Data.List.Basic

namespace DmSimulator.Segments

variable {α : Type}

/-- No `u u` inside and no `u` at the end. -/
def Clean (u : α) : List α → Prop
  | [] => True
  | [x] => x ≠ u
  | x :: y :: rest => ¬(x = u ∧ y = u) ∧ Clean u (y :: rest)

instance decidableClean [DecidableEq α] (u : α) : (field : List α) → Decidable (Clean u field)
  | [] => inferInstanceAs (Decidable True)
  | [x] => inferInstanceAs (Decidable (x ≠ u))
  | x :: y :: rest =>
      have : Decidable (Clean u (y :: rest)) := decidableClean u (y :: rest)
      inferInstanceAs (Decidable (¬(x = u ∧ y = u) ∧ Clean u (y :: rest)))

theorem Clean.tail {u x : α} {field : List α} (h : Clean u (x :: field)) : Clean u field := by
  cases field with
  | nil => exact trivial
  | cons y rest => exact h.2

theorem clean_of_notMem {u : α} {field : List α} (h : u ∉ field) : Clean u field := by
  induction field with
  | nil => exact trivial
  | cons x field ih =>
      have hx : x ≠ u := (List.ne_of_not_mem_cons h).symm
      have hfield := ih (List.not_mem_of_not_mem_cons h)
      cases field with
      | nil => exact hx
      | cons y rest => exact ⟨fun hxy => hx hxy.1, hfield⟩

/-- Two clean fields with another symbol between them are one clean field. -/
theorem Clean.append_cons {u x : α} {first second : List α} (hfirst : Clean u first)
    (hx : x ≠ u) (hsecond : Clean u second) : Clean u (first ++ x :: second) := by
  induction first with
  | nil =>
      cases second with
      | nil => exact hx
      | cons y rest => exact ⟨fun hxy => hx hxy.1, hsecond⟩
  | cons a first ih =>
      have htail := ih hfirst.tail
      cases first with
      | nil => exact ⟨fun hax => hx hax.2, htail⟩
      | cons b rest => exact ⟨hfirst.1, htail⟩

/-- A part ends at the first occurrence of a symbol that is not in it. -/
theorem append_cons_inj {c : α} {first second text rest : List α} (hfirst : c ∉ first)
    (hsecond : c ∉ second) (h : first ++ c :: text = second ++ c :: rest) :
    first = second ∧ text = rest := by
  induction first generalizing second with
  | nil =>
      cases second with
      | nil => exact ⟨rfl, (List.cons.inj h).2⟩
      | cons y second =>
          have hy : c = y := (List.cons.inj h).1
          exact absurd hy (List.ne_of_not_mem_cons hsecond)
  | cons x first ih =>
      cases second with
      | nil =>
          have hx : x = c := (List.cons.inj h).1
          exact absurd hx.symm (List.ne_of_not_mem_cons hfirst)
      | cons y second =>
          obtain ⟨rfl, htail⟩ := List.cons.inj h
          obtain ⟨hsame, hrest⟩ := ih (List.not_mem_of_not_mem_cons hfirst)
            (List.not_mem_of_not_mem_cons hsecond) htail
          exact ⟨by rw [hsame], hrest⟩

/-- Every field with `u u` before it. -/
def joined (u : α) (fields : List (List α)) : List α :=
  fields.flatMap (fun field => u :: u :: field)

@[simp]
theorem joined_nil (u : α) : joined u [] = [] := rfl

@[simp]
theorem joined_cons (u : α) (field : List α) (fields : List (List α)) :
    joined u (field :: fields) = u :: u :: (field ++ joined u fields) := rfl

theorem joined_append (u : α) (first second : List (List α)) :
    joined u (first ++ second) = joined u first ++ joined u second :=
  List.flatMap_append

/-- What follows the first field is nothing or starts with `u u`. -/
theorem joined_eq_nil_or (u : α) (fields : List (List α)) :
    joined u fields = [] ∨ ∃ text, joined u fields = u :: u :: text := by
  cases fields with
  | nil => exact Or.inl rfl
  | cons field fields => exact Or.inr ⟨_, rfl⟩

/-- A clean field is no part of a clean field followed by `u u`. -/
theorem not_clean_of_append {u : α} {field text rest : List α} (hne : field ≠ [])
    (h : field ++ text = u :: u :: rest) : ¬ Clean u field := by
  intro hclean
  cases field with
  | nil => exact hne rfl
  | cons x field =>
      rw [List.cons_append, List.cons.injEq] at h
      obtain ⟨rfl, h⟩ := h
      cases field with
      | nil => exact hclean rfl
      | cons y field =>
          rw [List.cons_append, List.cons.injEq] at h
          exact hclean.1 ⟨rfl, h.1⟩

/-- The first field of a text can be read off. -/
theorem append_joined_inj {u : α} {first second : List α} {fields others : List (List α)}
    (hfirst : Clean u first) (hsecond : Clean u second)
    (h : first ++ joined u fields = second ++ joined u others) :
    first = second ∧ joined u fields = joined u others := by
  induction first generalizing second with
  | nil =>
      cases second with
      | nil => exact ⟨rfl, h⟩
      | cons y second =>
          rcases joined_eq_nil_or u fields with hnil | ⟨text, htext⟩
          · rw [hnil] at h
            exact absurd h (by simp)
          · rw [List.nil_append, htext] at h
            exact absurd hsecond (not_clean_of_append (List.cons_ne_nil _ _) h.symm)
  | cons x first ih =>
      cases second with
      | nil =>
          rcases joined_eq_nil_or u others with hnil | ⟨text, htext⟩
          · rw [hnil] at h
            exact absurd h (by simp)
          · rw [List.nil_append, htext] at h
            exact absurd hfirst (not_clean_of_append (List.cons_ne_nil _ _) h)
      | cons y second =>
          rw [List.cons_append, List.cons_append, List.cons.injEq] at h
          obtain ⟨rfl, h⟩ := h
          obtain ⟨hsame, hrest⟩ := ih hfirst.tail hsecond.tail h
          exact ⟨by rw [hsame], hrest⟩

/-- A text is read as clean fields in one way. -/
theorem joined_inj {u : α} {fields others : List (List α)}
    (hfields : ∀ field ∈ fields, Clean u field) (hothers : ∀ field ∈ others, Clean u field)
    (h : joined u fields = joined u others) : fields = others := by
  induction fields generalizing others with
  | nil =>
      cases others with
      | nil => rfl
      | cons other others => exact absurd h (by simp)
  | cons field fields ih =>
      cases others with
      | nil => exact absurd h (by simp)
      | cons other others =>
          rw [joined_cons, joined_cons, List.cons.injEq, List.cons.injEq] at h
          obtain ⟨hsame, hrest⟩ := append_joined_inj (hfields field List.mem_cons_self)
            (hothers other List.mem_cons_self) h.2.2
          have hothers' := ih (fun f hf => hfields f (List.mem_cons_of_mem _ hf))
            (fun f hf => hothers f (List.mem_cons_of_mem _ hf)) hrest
          rw [hsame, hothers']

-- Seen through, a statement about a text runs the recursion on the text.
attribute [irreducible] Clean

end DmSimulator.Segments
