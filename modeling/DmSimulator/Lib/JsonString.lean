/-
  DmSimulator.Lib.JsonString

  String literals of JSON: the grammar of the text between double quotes and
  what a reader makes of it.

  A character of the text stands for itself, or a backslash starts an escape of
  one letter or of a 16-bit unit in four hexadecimal digits.  The control
  characters below U+0020 stand for nothing: they have to be escaped.
-/
import Mathlib.Data.List.Basic

namespace DmSimulator.JsonString

-- ============================================================================
-- The grammar
-- ============================================================================

/-- The characters that stand for themselves. -/
def Unescaped (c : Char) : Prop := 0x20 ≤ c.toNat ∧ c ≠ '"' ∧ c ≠ '\\'

instance (c : Char) : Decidable (Unescaped c) :=
  inferInstanceAs (Decidable (0x20 ≤ c.toNat ∧ c ≠ '"' ∧ c ≠ '\\'))

/-- What a backslash and one letter stand for. -/
def escapeValue (e : Char) : Option Char :=
  if e = '"' then some '"'
  else if e = '\\' then some '\\'
  else if e = '/' then some '/'
  else if e = 'b' then some '\x08'
  else if e = 'f' then some '\x0c'
  else if e = 'n' then some '\n'
  else if e = 'r' then some '\r'
  else if e = 't' then some '\t'
  else none

def hexDigit (d : Char) : Option Nat :=
  if '0' ≤ d ∧ d ≤ '9' then some (d.toNat - '0'.toNat)
  else if 'a' ≤ d ∧ d ≤ 'f' then some (d.toNat - 'a'.toNat + 10)
  else if 'A' ≤ d ∧ d ≤ 'F' then some (d.toNat - 'A'.toNat + 10)
  else none

/-- The 16-bit unit of four digits, the most significant first. -/
def hexUnit (d₃ d₂ d₁ d₀ : Char) : Option Nat := do
  let h₃ ← hexDigit d₃
  let h₂ ← hexDigit d₂
  let h₁ ← hexDigit d₁
  let h₀ ← hexDigit d₀
  return ((h₃ * 16 + h₂) * 16 + h₁) * 16 + h₀

/-- The text between the double quotes of a literal. -/
inductive IsBody : List Char → Prop
  | nil : IsBody []
  | unescaped {c : Char} {text : List Char} (hc : Unescaped c) (htext : IsBody text) :
      IsBody (c :: text)
  | escape {e : Char} {text : List Char} (he : (escapeValue e).isSome) (htext : IsBody text) :
      IsBody ('\\' :: e :: text)
  | unit {d₃ d₂ d₁ d₀ : Char} {text : List Char} (hd : (hexUnit d₃ d₂ d₁ d₀).isSome)
      (htext : IsBody text) : IsBody ('\\' :: 'u' :: d₃ :: d₂ :: d₁ :: d₀ :: text)

def IsLiteral (text : List Char) : Prop := ∃ body, IsBody body ∧ text = '"' :: (body ++ ['"'])

theorem le_toNat_of_escapeValue {e : Char} (h : (escapeValue e).isSome) : 0x20 ≤ e.toNat := by
  by_contra hlt
  have hne : ∀ d : Char, 0x20 ≤ d.toNat → e ≠ d := by
    rintro d hd rfl
    exact hlt hd
  simp [escapeValue, hne '"' (by decide), hne '\\' (by decide), hne '/' (by decide),
    hne 'b' (by decide), hne 'f' (by decide), hne 'n' (by decide), hne 'r' (by decide),
    hne 't' (by decide)] at h

theorem le_toNat_of_hexDigit {d : Char} {value : Nat} (h : hexDigit d = some value) :
    0x20 ≤ d.toNat := by
  have hle : ∀ b : Char, b ≤ d → b.toNat ≤ d.toNat := fun b hb => hb
  rw [hexDigit] at h
  split at h
  · next hd => exact Nat.le_trans (by decide) (hle '0' hd.1)
  split at h
  · next hd => exact Nat.le_trans (by decide) (hle 'a' hd.1)
  split at h
  · next hd => exact Nat.le_trans (by decide) (hle 'A' hd.1)
  · exact absurd h (by simp)

theorem le_toNat_of_hexUnit {d₃ d₂ d₁ d₀ : Char} (h : (hexUnit d₃ d₂ d₁ d₀).isSome) :
    ∀ d ∈ [d₃, d₂, d₁, d₀], 0x20 ≤ d.toNat := by
  obtain ⟨unit, h⟩ := Option.isSome_iff_exists.mp h
  simp only [hexUnit, Option.bind_eq_bind, Option.bind_eq_some_iff] at h
  obtain ⟨h₃, hd₃, h₂, hd₂, h₁, hd₁, h₀, hd₀, -⟩ := h
  simp only [List.forall_mem_cons]
  exact ⟨le_toNat_of_hexDigit hd₃, le_toNat_of_hexDigit hd₂, le_toNat_of_hexDigit hd₁,
    le_toNat_of_hexDigit hd₀, by simp⟩

/-- No control character stands in the text of a literal. -/
theorem IsBody.le_toNat {text : List Char} (h : IsBody text) : ∀ c ∈ text, 0x20 ≤ c.toNat := by
  induction h with
  | nil => simp
  | unescaped hc htext ih => exact List.forall_mem_cons.mpr ⟨hc.1, ih⟩
  | escape he htext ih =>
      have hletter := le_toNat_of_escapeValue he
      exact List.forall_mem_cons.mpr ⟨by decide, List.forall_mem_cons.mpr ⟨hletter, ih⟩⟩
  | unit hd htext ih =>
      have hdigits := le_toNat_of_hexUnit hd
      simp only [List.forall_mem_cons] at hdigits ⊢
      obtain ⟨h₃, h₂, h₁, h₀, -⟩ := hdigits
      exact ⟨by decide, by decide, h₃, h₂, h₁, h₀, ih⟩

theorem IsLiteral.le_toNat {text : List Char} (h : IsLiteral text) :
    ∀ c ∈ text, 0x20 ≤ c.toNat := by
  obtain ⟨body, hbody, rfl⟩ := h
  intro c hc
  simp only [List.mem_cons, List.mem_append, List.not_mem_nil, or_false] at hc
  rcases hc with rfl | hc | rfl
  · decide
  · exact hbody.le_toNat c hc
  · decide

-- ============================================================================
-- The reader
-- ============================================================================

/-- The units of a text up to its closing quote, and what follows the quote.  An
    unescaped character is one unit, its code point. -/
def readUnits : List Char → Option (List Nat × List Char)
  | [] => none
  | '"' :: rest => some ([], rest)
  | '\\' :: 'u' :: d₃ :: d₂ :: d₁ :: d₀ :: text => do
      let unit ← hexUnit d₃ d₂ d₁ d₀
      let (units, rest) ← readUnits text
      return (unit :: units, rest)
  | '\\' :: e :: text => do
      let c ← escapeValue e
      let (units, rest) ← readUnits text
      return (c.toNat :: units, rest)
  | c :: text =>
      if Unescaped c then do
        let (units, rest) ← readUnits text
        return (c.toNat :: units, rest)
      else none

/-- The characters of some units.  Two surrogates in the order high, low are one
    character; a surrogate by itself is none. -/
def charsOfUnits : List Nat → Option (List Char)
  | [] => some []
  | unit :: units =>
      if unit.isValidChar then (Char.ofNat unit :: ·) <$> charsOfUnits units
      else
        match units with
        | [] => none
        | low :: units =>
            if 0xD800 ≤ unit ∧ unit < 0xDC00 ∧ 0xDC00 ≤ low ∧ low < 0xE000 then
              (Char.ofNat (0x10000 + (unit - 0xD800) * 0x400 + (low - 0xDC00)) :: ·) <$>
                charsOfUnits units
            else none

/-- The string a text starts with, and the text after it. -/
def readString : List Char → Option (List Char × List Char)
  | '"' :: text => do
      let (units, rest) ← readUnits text
      let value ← charsOfUnits units
      return (value, rest)
  | _ => none

theorem charsOfUnits_map (value : List Char) : charsOfUnits (value.map Char.toNat) = some value := by
  induction value with
  | nil => rfl
  | cons c value ih =>
      have hvalid : c.toNat.isValidChar := c.valid
      rw [List.map_cons, charsOfUnits.eq_def]
      simp [hvalid, ih, Char.ofNat_toNat]

/-- What is read up to a quote is the text of a literal. -/
theorem isBody_of_readUnits {text rest : List Char} {units : List Nat}
    (h : readUnits text = some (units, rest)) :
    ∃ body, IsBody body ∧ text = body ++ '"' :: rest := by
  fun_induction readUnits text generalizing units with
  | case1 => exact absurd h (by simp)
  | case2 rest' =>
      obtain ⟨-, rfl⟩ := Prod.mk.inj (Option.some.inj h)
      exact ⟨[], IsBody.nil, rfl⟩
  | case3 d₃ d₂ d₁ d₀ text ih =>
      simp only [Option.bind_eq_bind, Option.bind_eq_some_iff] at h
      obtain ⟨unit, hunit, ⟨units', rest'⟩, hread, hres⟩ := h
      obtain ⟨-, rfl⟩ := Prod.mk.inj (Option.some.inj hres)
      obtain ⟨body, hbody, rfl⟩ := ih hread
      exact ⟨_, IsBody.unit (Option.isSome_of_mem hunit) hbody, rfl⟩
  | case4 e text _ ih =>
      simp only [Option.bind_eq_bind, Option.bind_eq_some_iff] at h
      obtain ⟨c, hc, ⟨units', rest'⟩, hread, hres⟩ := h
      obtain ⟨-, rfl⟩ := Prod.mk.inj (Option.some.inj hres)
      obtain ⟨body, hbody, rfl⟩ := ih hread
      exact ⟨_, IsBody.escape (Option.isSome_of_mem hc) hbody, rfl⟩
  | case5 c text _ _ _ hc ih =>
      simp only [Option.bind_eq_bind, Option.bind_eq_some_iff] at h
      obtain ⟨⟨units', rest'⟩, hread, hres⟩ := h
      obtain ⟨-, rfl⟩ := Prod.mk.inj (Option.some.inj hres)
      obtain ⟨body, hbody, rfl⟩ := ih hread
      exact ⟨_, IsBody.unescaped hc hbody, rfl⟩
  | case6 => exact absurd h (by simp)

-- ============================================================================
-- Writing character by character
-- ============================================================================

/-- A text that stands for one character. -/
inductive Spells : List Char → Char → Prop
  | unescaped {c : Char} (hc : Unescaped c) : Spells [c] c
  | escape {e c : Char} (he : escapeValue e = some c) : Spells ['\\', e] c

theorem readUnits_spells {piece text rest : List Char} {c : Char} {units : List Nat}
    (h : Spells piece c) (hread : readUnits text = some (units, rest)) :
    readUnits (piece ++ text) = some (c.toNat :: units, rest) := by
  cases h with
  | unescaped hc =>
      rw [List.singleton_append, readUnits, if_pos hc, hread]
      · rfl
      · exact fun h => hc.2.1 h
      · exact fun _ _ _ _ _ h => absurd h hc.2.2
      · exact fun _ _ h => absurd h hc.2.2
  | @escape e _ he =>
      have hu : e ≠ 'u' := by
        rintro rfl
        exact absurd he (by simp [escapeValue])
      rw [List.cons_append, List.singleton_append, readUnits, he, hread]
      · rfl
      · exact fun _ _ _ _ _ h => absurd h hu

theorem readUnits_flatMap {spell : Char → List Char} {value : List Char}
    (h : ∀ c ∈ value, Spells (spell c) c) (rest : List Char) :
    readUnits (value.flatMap spell ++ '"' :: rest) = some (value.map Char.toNat, rest) := by
  induction value with
  | nil => rfl
  | cons c value ih =>
      have hc := List.forall_mem_cons.mp h
      rw [List.flatMap_cons, List.append_assoc]
      exact readUnits_spells hc.1 (ih hc.2)

/-- A string written between quotes by texts that stand for its characters is read
    back, whatever follows the closing quote. -/
theorem readString_flatMap {spell : Char → List Char} {value : List Char}
    (h : ∀ c ∈ value, Spells (spell c) c) (rest : List Char) :
    readString ('"' :: (value.flatMap spell ++ '"' :: rest)) = some (value, rest) := by
  rw [readString, readUnits_flatMap h]
  simp [charsOfUnits_map]

theorem isLiteral_flatMap {spell : Char → List Char} {value : List Char}
    (h : ∀ c ∈ value, Spells (spell c) c) :
    IsLiteral ('"' :: (value.flatMap spell ++ ['"'])) := by
  obtain ⟨body, hbody, htext⟩ := isBody_of_readUnits (readUnits_flatMap h [])
  exact ⟨body, hbody, congrArg ('"' :: ·) htext⟩

end DmSimulator.JsonString
