/-
  DmSimulator.Lib.Decimal

  Numbers written with a given number of significant digits, as C's `%g` and
  Python's `g` format write them: rounded half to even, in fixed or exponent
  notation by the size of the exponent, without zeros at the end of the fraction.

  `Significant k` is what the rounding keeps, `k + 1` digits and an exponent; its
  text determines it.
-/
import Mathlib.Algebra.Order.Field.Power
import Mathlib.Data.Int.Log
import Mathlib.Data.List.Basic
import Mathlib.Data.Rat.Floor
import Mathlib.Tactic.FieldSimp
import Mathlib.Tactic.Ring

namespace DmSimulator.Decimal

-- ============================================================================
-- Rounding
-- ============================================================================

/-- The nearest integer, the even one of two. -/
def roundHalfEven (x : Rat) : Int :=
  let below := ⌊x⌋
  let fraction := x - below
  if fraction < 1 / 2 then below
  else if 1 / 2 < fraction then below + 1
  else if below % 2 = 0 then below
  else below + 1

theorem roundHalfEven_eq_or (x : Rat) :
    roundHalfEven x = ⌊x⌋ ∨ roundHalfEven x = ⌊x⌋ + 1 ∧ (⌊x⌋ : Rat) < x := by
  unfold roundHalfEven
  have hup : ¬ x - ⌊x⌋ < 1 / 2 → (⌊x⌋ : Rat) < x := by
    intro h
    linarith
  dsimp only
  split
  next => exact Or.inl rfl
  next hhalf =>
      split
      next => exact Or.inr ⟨rfl, hup hhalf⟩
      next =>
          split
          next => exact Or.inl rfl
          next => exact Or.inr ⟨rfl, hup hhalf⟩

theorem le_roundHalfEven {x : Rat} {n : Int} (h : (n : Rat) ≤ x) : n ≤ roundHalfEven x := by
  have hfloor : n ≤ ⌊x⌋ := Int.le_floor.mpr h
  rcases roundHalfEven_eq_or x with heq | ⟨heq, -⟩ <;> omega

theorem roundHalfEven_le {x : Rat} {n : Int} (h : x ≤ n) : roundHalfEven x ≤ n := by
  have hfloor : ⌊x⌋ ≤ n := by exact_mod_cast (Int.floor_le x).trans h
  rcases roundHalfEven_eq_or x with heq | ⟨heq, hlt⟩
  · omega
  · have hlt' : ⌊x⌋ < n := by exact_mod_cast hlt.trans_le h
    omega

-- ============================================================================
-- Significant digits
-- ============================================================================

/-- `k + 1` significant digits and the exponent of the first of them; or zero. -/
structure Significant (k : Nat) where
  mantissa : Nat
  exponent : Int
  normal : mantissa = 0 ∧ exponent = 0 ∨ 10 ^ k ≤ mantissa ∧ mantissa < 10 ^ (k + 1)
deriving DecidableEq

/-- `x` with its first digit moved to the place of `10 ^ k`. -/
def scaled (k : Nat) (x : Rat) : Rat := x * 10 ^ ((k : Int) - Int.log 10 x)

theorem le_scaled (k : Nat) {x : Rat} (hx : 0 < x) : (10 : Rat) ^ k ≤ scaled k x := by
  have hlog : (10 : Rat) ^ Int.log 10 x ≤ x := by
    exact_mod_cast Int.zpow_log_le_self (b := 10) (by decide) hx
  have hpow : (10 : Rat) ^ Int.log 10 x * 10 ^ ((k : Int) - Int.log 10 x) = 10 ^ k := by
    rw [← zpow_add₀ (by norm_num), add_sub_cancel, zpow_natCast]
  rw [← hpow]
  exact mul_le_mul_of_nonneg_right hlog (by positivity)

theorem scaled_lt (k : Nat) (x : Rat) : scaled k x < (10 : Rat) ^ (k + 1) := by
  have hlog : x < (10 : Rat) ^ (Int.log 10 x + 1) := by
    exact_mod_cast Int.lt_zpow_succ_log_self (b := 10) (by decide) x
  have hpow : (10 : Rat) ^ (Int.log 10 x + 1) * 10 ^ ((k : Int) - Int.log 10 x) =
      10 ^ (k + 1) := by
    rw [← zpow_add₀ (by norm_num), ← zpow_natCast]
    congr 1
    omega
  rw [← hpow]
  exact mul_lt_mul_of_pos_right hlog (by positivity)

/-- The digits of `x` rounded at the place of `10 ^ 0`. -/
def roundedDigits (k : Nat) (x : Rat) : Nat := (roundHalfEven (scaled k x)).toNat

theorem le_roundedDigits (k : Nat) {x : Rat} (hx : 0 < x) : 10 ^ k ≤ roundedDigits k x := by
  have hle : ((10 ^ k : Nat) : Int) ≤ roundHalfEven (scaled k x) :=
    le_roundHalfEven (by exact_mod_cast le_scaled k hx)
  unfold roundedDigits
  omega

theorem roundedDigits_le (k : Nat) (x : Rat) : roundedDigits k x ≤ 10 ^ (k + 1) := by
  have hle : roundHalfEven (scaled k x) ≤ ((10 ^ (k + 1) : Nat) : Int) :=
    roundHalfEven_le (by exact_mod_cast (scaled_lt k x).le)
  exact Int.toNat_le.mpr hle

/-- `x` rounded to `k + 1` significant digits; a carry out of them moves the exponent. -/
def significant (k : Nat) (x : Rat) : Significant k :=
  if hx : 0 < x then
    if hcarry : roundedDigits k x = 10 ^ (k + 1) then
      { mantissa := 10 ^ k
        exponent := Int.log 10 x + 1
        normal := Or.inr ⟨le_refl _, Nat.pow_lt_pow_right (by decide) (by omega)⟩ }
    else
      { mantissa := roundedDigits k x
        exponent := Int.log 10 x
        normal := Or.inr ⟨le_roundedDigits k hx, lt_of_le_of_ne (roundedDigits_le k x) hcarry⟩ }
  else { mantissa := 0, exponent := 0, normal := Or.inl ⟨rfl, rfl⟩ }

variable {k : Nat}

def Significant.value (s : Significant k) : Rat := s.mantissa * 10 ^ (s.exponent - k)

theorem Significant.ext_iff' {s t : Significant k} :
    s = t ↔ s.mantissa = t.mantissa ∧ s.exponent = t.exponent := by
  cases s
  cases t
  simp

/-- The exponent of a nonzero number is that of its first digit. -/
theorem Significant.exponent_le {s t : Significant k} (hs : s.mantissa ≠ 0)
    (ht : t.mantissa ≠ 0) (h : s.value ≤ t.value) : s.exponent ≤ t.exponent := by
  have hlow : (10 : Rat) ^ s.exponent ≤ s.value := by
    have hmantissa : (10 : Rat) ^ k ≤ s.mantissa := by
      exact_mod_cast (s.normal.resolve_left (fun hzero => hs hzero.1)).1
    have hpow : (10 : Rat) ^ k * 10 ^ (s.exponent - k) = 10 ^ s.exponent := by
      rw [← zpow_natCast, ← zpow_add₀ (by norm_num), add_sub_cancel]
    rw [← hpow]
    exact mul_le_mul_of_nonneg_right hmantissa (by positivity)
  have hhigh : t.value < (10 : Rat) ^ (t.exponent + 1) := by
    have hmantissa : (t.mantissa : Rat) < 10 ^ (k + 1) := by
      exact_mod_cast (t.normal.resolve_left (fun hzero => ht hzero.1)).2
    have hpow : (10 : Rat) ^ (k + 1) * 10 ^ (t.exponent - k) = 10 ^ (t.exponent + 1) := by
      rw [← zpow_natCast, ← zpow_add₀ (by norm_num)]
      congr 1
      push_cast
      ring
    rw [← hpow]
    exact mul_lt_mul_of_pos_right hmantissa (by positivity)
  have hlt : (10 : Rat) ^ s.exponent < 10 ^ (t.exponent + 1) := hlow.trans_lt (h.trans_lt hhigh)
  exact Int.lt_add_one_iff.mp ((zpow_lt_zpow_iff_right₀ (by norm_num)).mp hlt)

theorem Significant.mantissa_eq_zero_iff {s : Significant k} :
    s.mantissa = 0 ↔ s.value = 0 := by
  unfold Significant.value
  have hpow : (10 : Rat) ^ (s.exponent - k) ≠ 0 := by positivity
  rw [mul_eq_zero, Nat.cast_eq_zero, or_iff_left hpow]

/-- The digits of a number are unique. -/
theorem Significant.value_injective {s t : Significant k} (h : s.value = t.value) : s = t := by
  by_cases hs : s.mantissa = 0
  · have ht : t.mantissa = 0 := by
      rw [mantissa_eq_zero_iff, ← h, ← mantissa_eq_zero_iff]
      exact hs
    have hpos : 0 < 10 ^ k := by positivity
    have hse : s.exponent = 0 := by rcases s.normal with ⟨-, h0⟩ | ⟨h0, -⟩ <;> omega
    have hte : t.exponent = 0 := by rcases t.normal with ⟨-, h0⟩ | ⟨h0, -⟩ <;> omega
    rw [ext_iff']
    omega
  · have ht : t.mantissa ≠ 0 := by
      rw [Ne, mantissa_eq_zero_iff, ← h, ← mantissa_eq_zero_iff]
      exact hs
    have hexponent : s.exponent = t.exponent :=
      le_antisymm (exponent_le hs ht h.le) (exponent_le ht hs h.ge)
    unfold Significant.value at h
    rw [hexponent] at h
    have hpow : (10 : Rat) ^ (t.exponent - k) ≠ 0 := by positivity
    have hmantissa : (s.mantissa : Rat) = t.mantissa := mul_right_cancel₀ hpow h
    exact ext_iff'.mpr ⟨by exact_mod_cast hmantissa, hexponent⟩

-- ============================================================================
-- Decimal fractions
-- ============================================================================

/-- The last `j` digits of `n`. -/
def fractionDigits : Nat → Nat → List Char
  | 0, _ => []
  | j + 1, n => Nat.digitChar (n / 10 ^ j % 10) :: fractionDigits j (n % 10 ^ j)

/-- `digits` without the zeros at its end. -/
def stripZeros : List Char → List Char
  | [] => []
  | c :: digits =>
      if stripZeros digits = [] ∧ c = '0' then [] else c :: stripZeros digits

/-- The point and the digits after it, if any remain. -/
def fractionText (j n : Nat) : List Char :=
  if stripZeros (fractionDigits j n) = [] then []
  else '.' :: stripZeros (fractionDigits j n)

/-- `n / 10 ^ j` with a point. -/
def decimalText (n j : Nat) : List Char :=
  Nat.toDigits 10 (n / 10 ^ j) ++ fractionText j (n % 10 ^ j)

/-- The value of digits after the point. -/
def fractionValue : List Char → Rat
  | [] => 0
  | c :: digits => ((c.toNat - '0'.toNat : Nat) + fractionValue digits) / 10

/-- The number that a text with a point stands for. -/
def textValue (text : List Char) : Rat :=
  Nat.ofDigitChars 10 (text.takeWhile Char.isDigit) 0 +
    fractionValue (text.dropWhile Char.isDigit).tail

theorem fractionValue_stripZeros (digits : List Char) :
    fractionValue (stripZeros digits) = fractionValue digits := by
  induction digits with
  | nil => rfl
  | cons c digits ih =>
      unfold stripZeros
      split
      next h =>
          rw [h.1] at ih
          obtain ⟨-, rfl⟩ := h
          rw [fractionValue, fractionValue, ← ih]
          simp [fractionValue]
      next => rw [fractionValue, fractionValue, ih]

theorem fractionValue_fractionDigits {j n : Nat} (h : n < 10 ^ j) :
    fractionValue (fractionDigits j n) = (n : Rat) / 10 ^ j := by
  induction j generalizing n with
  | zero =>
      have hn : n = 0 := by omega
      rw [hn, Nat.cast_zero, zero_div]
      rfl
  | succ j ih =>
      have hpos : 0 < 10 ^ j := by positivity
      have hdigit : n / 10 ^ j < 10 := by
        rw [Nat.div_lt_iff_lt_mul hpos, Nat.mul_comm]
        exact h
      have hsplit : ((10 ^ j * (n / 10 ^ j) + n % 10 ^ j : Nat) : Rat) = n := by
        rw [Nat.div_add_mod]
      have hpow : (10 : Rat) ^ j ≠ 0 := by positivity
      rw [fractionDigits, fractionValue, ih (Nat.mod_lt n hpos), Nat.mod_eq_of_lt hdigit,
        show '0'.toNat = 48 from rfl, Nat.toNat_digitChar_sub_48_of_lt_ten hdigit, ← hsplit]
      push_cast
      field_simp
      ring

theorem isDigit_of_mem_fractionDigits {j n : Nat} {c : Char} (h : c ∈ fractionDigits j n) :
    c.isDigit = true := by
  induction j generalizing n with
  | zero => exact absurd h List.not_mem_nil
  | succ j ih =>
      rcases List.mem_cons.mp h with rfl | h
      · rw [Nat.isDigit_digitChar]
        exact decide_eq_true (Nat.mod_lt _ (by decide))
      · exact ih h

theorem mem_of_mem_stripZeros {digits : List Char} {c : Char} (h : c ∈ stripZeros digits) :
    c ∈ digits := by
  induction digits with
  | nil => exact h
  | cons d digits ih =>
      unfold stripZeros at h
      split at h
      next => exact absurd h List.not_mem_nil
      next =>
          rcases List.mem_cons.mp h with rfl | h
          · exact List.mem_cons_self
          · exact List.mem_cons_of_mem _ (ih h)

theorem mem_fractionText {j n : Nat} {c : Char} (h : c ∈ fractionText j n) :
    c.isDigit = true ∨ c = '.' := by
  unfold fractionText at h
  split at h
  next => exact absurd h List.not_mem_nil
  next =>
      rcases List.mem_cons.mp h with rfl | h
      · exact Or.inr rfl
      · exact Or.inl (isDigit_of_mem_fractionDigits (mem_of_mem_stripZeros h))

theorem mem_decimalText {n j : Nat} {c : Char} (h : c ∈ decimalText n j) :
    c.isDigit = true ∨ c = '.' := by
  rcases List.mem_append.mp h with h | h
  · exact Or.inl (Nat.isDigit_of_mem_toDigits (by decide) (by decide) h)
  · exact mem_fractionText h

/-- The text stands for the number. -/
theorem textValue_decimalText (n j : Nat) : textValue (decimalText n j) = (n : Rat) / 10 ^ j := by
  have hdigits : ∀ c ∈ Nat.toDigits 10 (n / 10 ^ j), c.isDigit = true :=
    fun c hc => Nat.isDigit_of_mem_toDigits (by decide) (by decide) hc
  have hpos : 0 < 10 ^ j := by positivity
  have hfraction : fractionValue (stripZeros (fractionDigits j (n % 10 ^ j))) =
      ((n % 10 ^ j : Nat) : Rat) / 10 ^ j := by
    rw [fractionValue_stripZeros, fractionValue_fractionDigits (Nat.mod_lt n hpos)]
  have hsplit : ((10 ^ j * (n / 10 ^ j) + n % 10 ^ j : Nat) : Rat) = n := by
    rw [Nat.div_add_mod]
  have hpow : (10 : Rat) ^ j ≠ 0 := by positivity
  have hsum : ((n / 10 ^ j : Nat) : Rat) + ((n % 10 ^ j : Nat) : Rat) / 10 ^ j =
      (n : Rat) / 10 ^ j := by
    rw [← hsplit]
    push_cast
    field_simp
  unfold textValue decimalText fractionText
  rw [List.takeWhile_append_of_pos hdigits, List.dropWhile_append_of_pos hdigits]
  split
  next hnil =>
      rw [hnil] at hfraction
      rw [← hsum, ← hfraction, List.takeWhile_nil, List.dropWhile_nil, List.append_nil,
        Nat.ofDigitChars_ten_toDigits]
      rfl
  next =>
      have hpoint : ('.').isDigit = false := rfl
      rw [List.takeWhile_cons, hpoint, List.dropWhile_cons, hpoint]
      simp only [Bool.false_eq_true, if_false, List.append_nil, List.tail_cons]
      rw [Nat.ofDigitChars_ten_toDigits, hfraction, hsum]

-- ============================================================================
-- The text of a number
-- ============================================================================

/-- The sign and at least two digits. -/
def exponentText (e : Int) : List Char :=
  let digits := Nat.toDigits 10 e.natAbs
  (if e < 0 then '-' else '+') :: (if digits.length < 2 then '0' :: digits else digits)

theorem exponentText_injective {e f : Int} (h : exponentText e = exponentText f) : e = f := by
  have hvalue : ∀ n : Nat,
      Nat.ofDigitChars 10 (if (Nat.toDigits 10 n).length < 2 then '0' :: Nat.toDigits 10 n
        else Nat.toDigits 10 n) 0 = n := by
    intro n
    split
    next =>
        rw [Nat.ofDigitChars_cons]
        exact Nat.ofDigitChars_ten_toDigits
    next => exact Nat.ofDigitChars_ten_toDigits
  unfold exponentText at h
  rw [List.cons.injEq] at h
  have habs : e.natAbs = f.natAbs := by
    rw [← hvalue e.natAbs, ← hvalue f.natAbs, h.2]
  have hsign : e < 0 ↔ f < 0 := by
    have hhead := h.1
    by_cases he : e < 0
    · rw [if_pos he] at hhead
      by_contra hne
      rw [if_neg (by omega)] at hhead
      exact absurd hhead (by decide)
    · rw [if_neg he] at hhead
      by_contra hne
      rw [if_pos (by omega)] at hhead
      exact absurd hhead (by decide)
  omega

theorem mem_exponentText {e : Int} {c : Char} (h : c ∈ exponentText e) :
    c.isDigit = true ∨ c = '-' ∨ c = '+' := by
  have hdigit : c ∈ Nat.toDigits 10 e.natAbs → c.isDigit = true :=
    Nat.isDigit_of_mem_toDigits (by decide) (by decide)
  unfold exponentText at h
  rcases List.mem_cons.mp h with hc | h
  · split at hc
    next => exact Or.inr (Or.inl hc)
    next => exact Or.inr (Or.inr hc)
  · split at h
    next =>
        rcases List.mem_cons.mp h with rfl | h
        · exact Or.inl rfl
        · exact Or.inl (hdigit h)
    next => exact Or.inl (hdigit h)

/-- Whether the exponent asks for fixed notation. -/
def Significant.IsFixed (s : Significant k) : Prop := -4 ≤ s.exponent ∧ s.exponent ≤ k

instance (s : Significant k) : Decidable s.IsFixed :=
  inferInstanceAs (Decidable (-4 ≤ s.exponent ∧ s.exponent ≤ k))

def Significant.text (s : Significant k) : List Char :=
  if s.IsFixed then decimalText s.mantissa ((k : Int) - s.exponent).toNat
  else decimalText s.mantissa k ++ 'e' :: exponentText s.exponent

theorem e_notMem_decimalText (n j : Nat) : 'e' ∉ decimalText n j := by
  intro h
  rcases mem_decimalText h with hdigit | hpoint
  · exact absurd hdigit (by decide)
  · exact absurd hpoint (by decide)

theorem e_notMem_exponentText (e : Int) : 'e' ∉ exponentText e := by
  intro h
  rcases mem_exponentText h with hdigit | hminus | hplus
  · exact absurd hdigit (by decide)
  · exact absurd hminus (by decide)
  · exact absurd hplus (by decide)

theorem Significant.textValue_fixed {s : Significant k} (h : s.IsFixed) :
    textValue (decimalText s.mantissa ((k : Int) - s.exponent).toNat) = s.value := by
  have hplaces : (((k : Int) - s.exponent).toNat : Int) = k - s.exponent :=
    Int.toNat_of_nonneg (by have := h.2; omega)
  rw [textValue_decimalText, Significant.value, ← zpow_natCast, hplaces, div_eq_mul_inv,
    ← zpow_neg, neg_sub]

/-- The text of a rounded number determines it. -/
theorem Significant.text_injective {s t : Significant k} (h : s.text = t.text) : s = t := by
  unfold Significant.text at h
  by_cases hs : s.IsFixed <;> by_cases ht : t.IsFixed
  · rw [if_pos hs, if_pos ht] at h
    apply value_injective
    rw [← textValue_fixed hs, ← textValue_fixed ht, h]
  · rw [if_pos hs, if_neg ht] at h
    have hmem : 'e' ∈ decimalText s.mantissa ((k : Int) - s.exponent).toNat := by
      rw [h]
      exact List.mem_append_right _ List.mem_cons_self
    exact absurd hmem (e_notMem_decimalText _ _)
  · rw [if_neg hs, if_pos ht] at h
    have hmem : 'e' ∈ decimalText t.mantissa ((k : Int) - t.exponent).toNat := by
      rw [← h]
      exact List.mem_append_right _ List.mem_cons_self
    exact absurd hmem (e_notMem_decimalText _ _)
  · rw [if_neg hs, if_neg ht] at h
    obtain ⟨hdigits, -, hexponent⟩ := (List.append_cons_inj_of_notMem
      (e_notMem_decimalText _ _) (e_notMem_exponentText _)).mp h
    have hvalue : (s.mantissa : Rat) / 10 ^ k = (t.mantissa : Rat) / 10 ^ k := by
      rw [← textValue_decimalText, ← textValue_decimalText, hdigits]
    have hpow : (10 : Rat) ^ k ≠ 0 := by positivity
    have hmantissa : (s.mantissa : Rat) = t.mantissa := (div_left_inj' hpow).mp hvalue
    exact ext_iff'.mpr ⟨by exact_mod_cast hmantissa, exponentText_injective hexponent⟩

theorem Significant.mem_text {s : Significant k} {c : Char} (h : c ∈ s.text) :
    c.isDigit = true ∨ c ∈ ['.', 'e', '-', '+'] := by
  unfold Significant.text at h
  split at h
  next =>
      rcases mem_decimalText h with hdigit | rfl
      · exact Or.inl hdigit
      · exact Or.inr (by decide)
  next =>
      rcases List.mem_append.mp h with h | h
      · rcases mem_decimalText h with hdigit | rfl
        · exact Or.inl hdigit
        · exact Or.inr (by decide)
      · rcases List.mem_cons.mp h with rfl | h
        · exact Or.inr (by decide)
        · rcases mem_exponentText h with hdigit | rfl | rfl
          · exact Or.inl hdigit
          · exact Or.inr (by decide)
          · exact Or.inr (by decide)

/-- The `g` format with `k + 1` significant digits. -/
def formatGeneral (k : Nat) (x : Rat) : List Char :=
  if x < 0 then '-' :: (significant k (-x)).text else (significant k x).text

theorem mem_formatGeneral {x : Rat} {c : Char} (h : c ∈ formatGeneral k x) :
    c.isDigit = true ∨ c ∈ ['.', 'e', '-', '+'] := by
  unfold formatGeneral at h
  split at h
  next =>
      rcases List.mem_cons.mp h with rfl | h
      · exact Or.inr (by decide)
      · exact Significant.mem_text h
  next => exact Significant.mem_text h

/-- Two numbers have one text exactly when they are rounded to one. -/
theorem formatGeneral_eq_iff {x y : Rat} (hx : 0 ≤ x) (hy : 0 ≤ y) :
    formatGeneral k x = formatGeneral k y ↔ significant k x = significant k y := by
  unfold formatGeneral
  rw [if_neg (not_lt.mpr hx), if_neg (not_lt.mpr hy)]
  exact ⟨Significant.text_injective, fun h => by rw [h]⟩

example : (formatGeneral 5 0, formatGeneral 5 (1 / 4), formatGeneral 5 (1 / 100000),
    formatGeneral 5 (19999995 / 10)) =
      (['0'], "0.25".toList, "1e-05".toList, "2e+06".toList) := by
  decide +kernel

end DmSimulator.Decimal
