/-
  DmSimulator.Lib.DecimalText

  Numbers read from decimal text: digits, a point and a power of ten.  A number in
  the `g` format reads back as the number rounded to the digits of the format.
-/
import DmSimulator.Lib.Decimal

namespace DmSimulator.Decimal

-- ============================================================================
-- Rounded numbers
-- ============================================================================

/-- `x` rounded to `k + 1` significant digits. -/
def rounded (k : Nat) (x : Rat) : Rat :=
  if x < 0 then -(significant k (-x)).value else (significant k x).value

variable {k : Nat} {x : Rat}

theorem rounded_of_nonneg (hx : 0 ≤ x) : rounded k x = (significant k x).value :=
  if_neg (not_lt.mpr hx)

/-- The carry of the digits is that of the exponent. -/
theorem value_significant (hx : 0 < x) :
    (significant k x).value = roundedDigits k x * 10 ^ (Int.log 10 x - k) := by
  unfold significant
  rw [dif_pos hx]
  split
  next hcarry =>
      rw [Significant.value, hcarry]
      push_cast
      rw [show Int.log 10 x + 1 - (k : Int) = 1 + (Int.log 10 x - k) by ring,
        zpow_add₀ (by norm_num), zpow_one, pow_succ]
      ring
  next => rfl

theorem rounded_nonneg (hx : 0 ≤ x) : 0 ≤ rounded k x := by
  rw [rounded_of_nonneg hx, Significant.value]
  positivity

theorem pow_mul_zpow (a : Nat) (e : Int) : (10 : Rat) ^ a * 10 ^ (e - a) = 10 ^ e := by
  rw [← zpow_natCast, ← zpow_add₀ (by norm_num), add_sub_cancel]

/-- Rounding does not move a number past a power of ten. -/
theorem rounded_le_zpow (hx : 0 ≤ x) {e : Int} (h : x ≤ 10 ^ e) : rounded k x ≤ 10 ^ e := by
  rcases hx.eq_or_lt with rfl | hpos
  · rw [rounded_of_nonneg (le_refl 0)]
    have hzero : (significant k 0).value = 0 := by simp [significant, Significant.value]
    rw [hzero]
    positivity
  · rw [rounded_of_nonneg hx, value_significant hpos]
    by_cases hlog : Int.log 10 x < e
    · have hdigits : (roundedDigits k x : Rat) ≤ 10 ^ (k + 1) := by
        exact_mod_cast roundedDigits_le k x
      calc (roundedDigits k x : Rat) * 10 ^ (Int.log 10 x - k)
          ≤ 10 ^ (k + 1) * 10 ^ (Int.log 10 x - k) :=
            mul_le_mul_of_nonneg_right hdigits (by positivity)
        _ = 10 ^ (Int.log 10 x + 1) := by
            rw [← pow_mul_zpow (k + 1) (Int.log 10 x + 1)]
            congr 2
            push_cast
            ring
        _ ≤ 10 ^ e := zpow_le_zpow_right₀ (by norm_num) (by omega)
    · -- Here `x` is the power of ten itself, which has no digits to round.
      have hdigits : roundedDigits k x ≤ 10 ^ k := by
        have hscaled : scaled k x ≤ ((10 ^ k : Nat) : Int) := by
          have hpow : (10 : Rat) ^ e * 10 ^ ((k : Int) - Int.log 10 x) ≤ 10 ^ k := by
            rw [← zpow_add₀ (by norm_num), ← zpow_natCast]
            exact zpow_le_zpow_right₀ (by norm_num) (by omega)
          have hle : scaled k x ≤ 10 ^ e * 10 ^ ((k : Int) - Int.log 10 x) :=
            mul_le_mul_of_nonneg_right h (by positivity)
          push_cast
          exact hle.trans hpow
        exact Int.toNat_le.mpr (roundHalfEven_le hscaled)
      have hle : Int.log 10 x ≤ e := by
        have hlow : (10 : Rat) ^ Int.log 10 x ≤ x := by
          exact_mod_cast Int.zpow_log_le_self (b := 10) (by decide) hpos
        exact (zpow_le_zpow_iff_right₀ (by norm_num : (1 : Rat) < 10)).mp (hlow.trans h)
      have hcast : (roundedDigits k x : Rat) ≤ 10 ^ k := by exact_mod_cast hdigits
      calc (roundedDigits k x : Rat) * 10 ^ (Int.log 10 x - k)
          ≤ 10 ^ k * 10 ^ (Int.log 10 x - k) :=
            mul_le_mul_of_nonneg_right hcast (by positivity)
        _ = 10 ^ Int.log 10 x := pow_mul_zpow k _
        _ ≤ 10 ^ e := zpow_le_zpow_right₀ (by norm_num) hle

theorem rounded_le_one (hx : 0 ≤ x) (h : x ≤ 1) : rounded k x ≤ 1 := by
  have hpow : x ≤ 10 ^ (0 : Int) := by rwa [zpow_zero]
  have hle := rounded_le_zpow (k := k) hx hpow
  rwa [zpow_zero] at hle

-- ============================================================================
-- Reading
-- ============================================================================

/-- The power of ten after the digits. -/
def readExponent : List Char → Option Int
  | [] => some 0
  | ['e', _] => none
  | 'e' :: sign :: digits =>
      if digits.all Char.isDigit then
        if sign = '-' then some (-(Nat.ofDigitChars 10 digits 0 : Int))
        else if sign = '+' then some (Nat.ofDigitChars 10 digits 0)
        else none
      else none
  | _ => none

def isDecimalChar (c : Char) : Bool := c.isDigit || c = '.'

/-- Digits, and perhaps a point and more digits. -/
def IsDecimal (text : List Char) : Prop :=
  text.head?.any Char.isDigit = true ∧ (text.dropWhile Char.isDigit).tail.all Char.isDigit = true

instance (text : List Char) : Decidable (IsDecimal text) :=
  inferInstanceAs (Decidable (_ ∧ _))

def readUnsigned (text : List Char) : Option Rat :=
  let digits := text.takeWhile isDecimalChar
  if IsDecimal digits then
    (readExponent (text.dropWhile isDecimalChar)).map (fun e => textValue digits * 10 ^ e)
  else none

def readNumber : List Char → Option Rat
  | '-' :: text => (readUnsigned text).map (fun value => -value)
  | text => readUnsigned text

theorem toDigits_ne_nil (n : Nat) : Nat.toDigits 10 n ≠ [] := by
  intro hnil
  have hlen := Nat.length_toDigits_pos (b := 10) (n := n)
  rw [hnil] at hlen
  exact absurd hlen (by decide)

theorem isDigit_toDigits (n : Nat) : ∀ c ∈ Nat.toDigits 10 n, c.isDigit = true :=
  fun _ hc => Nat.isDigit_of_mem_toDigits (by decide) (by decide) hc

theorem head?_decimalText (n j : Nat) : (decimalText n j).head?.any Char.isDigit = true := by
  obtain ⟨c, rest, hdigits⟩ := List.exists_cons_of_ne_nil (toDigits_ne_nil (n / 10 ^ j))
  have hc := isDigit_toDigits (n / 10 ^ j) c (by rw [hdigits]; exact List.mem_cons_self)
  rw [decimalText, hdigits]
  simpa using hc

theorem isDigit_of_mem_tail_fractionText {j n : Nat} :
    ∀ c ∈ (fractionText j n).tail, c.isDigit = true := by
  unfold fractionText
  split
  next => exact fun c hc => absurd hc List.not_mem_nil
  next => exact fun c hc => isDigit_of_mem_fractionDigits (mem_of_mem_stripZeros hc)

theorem dropWhile_decimalText (n j : Nat) :
    (decimalText n j).dropWhile Char.isDigit = fractionText j (n % 10 ^ j) := by
  rw [decimalText, List.dropWhile_append_of_pos (isDigit_toDigits _)]
  unfold fractionText
  split
  next => rfl
  next => exact List.dropWhile_cons_of_neg (by decide)

theorem isDecimal_decimalText (n j : Nat) : IsDecimal (decimalText n j) := by
  refine ⟨head?_decimalText n j, ?_⟩
  rw [dropWhile_decimalText]
  exact List.all_eq_true.mpr isDigit_of_mem_tail_fractionText

theorem isDecimalChar_decimalText (n j : Nat) :
    ∀ c ∈ decimalText n j, isDecimalChar c = true := by
  intro c hc
  unfold isDecimalChar
  rcases mem_decimalText hc with hdigit | rfl
  · rw [hdigit, Bool.true_or]
  · rfl

theorem readExponent_digits {sign : Char} {digits : List Char} (hne : digits ≠ [])
    (hall : digits.all Char.isDigit = true) :
    readExponent ('e' :: sign :: digits) =
      if sign = '-' then some (-(Nat.ofDigitChars 10 digits 0 : Int))
      else if sign = '+' then some (Nat.ofDigitChars 10 digits 0 : Int)
      else none := by
  rw [readExponent]
  · exact if_pos hall
  · exact hne

/-- The digits of an exponent: a zero may stand before them. -/
theorem exponentDigits_spec (n : Nat) :
    let digits := if (Nat.toDigits 10 n).length < 2 then '0' :: Nat.toDigits 10 n
      else Nat.toDigits 10 n
    digits ≠ [] ∧ digits.all Char.isDigit = true ∧ Nat.ofDigitChars 10 digits 0 = n := by
  have hall := List.all_eq_true.mpr (isDigit_toDigits n)
  dsimp only
  split
  next =>
      refine ⟨List.cons_ne_nil _ _, ?_, ?_⟩
      · rw [List.all_cons, hall]
        rfl
      · rw [Nat.ofDigitChars_cons]
        exact Nat.ofDigitChars_ten_toDigits
  next => exact ⟨toDigits_ne_nil n, hall, Nat.ofDigitChars_ten_toDigits⟩

theorem readExponent_exponentText (e : Int) : readExponent ('e' :: exponentText e) = some e := by
  obtain ⟨hne, hall, hvalue⟩ := exponentDigits_spec e.natAbs
  rw [exponentText, readExponent_digits hne hall, hvalue]
  by_cases he : e < 0
  · rw [if_pos he, if_pos rfl]
    congr 1
    omega
  · rw [if_neg he, if_neg (by decide), if_pos rfl]
    congr 1
    omega

/-- A decimal with what stands for its power of ten. -/
theorem readUnsigned_append (n j : Nat) (suffix : List Char) {e : Int}
    (hhead : ∀ c ∈ suffix.head?, isDecimalChar c = false) (hsuffix : readExponent suffix = some e) :
    readUnsigned (decimalText n j ++ suffix) = some ((n : Rat) / 10 ^ j * 10 ^ e) := by
  have hchars := isDecimalChar_decimalText n j
  have hsplit : (decimalText n j ++ suffix).takeWhile isDecimalChar = decimalText n j ∧
      (decimalText n j ++ suffix).dropWhile isDecimalChar = suffix := by
    rw [List.takeWhile_append_of_pos hchars, List.dropWhile_append_of_pos hchars]
    cases suffix with
    | nil => exact ⟨List.append_nil _, rfl⟩
    | cons c rest =>
        have hc : ¬ isDecimalChar c = true := by
          rw [hhead c rfl]
          decide
        rw [List.takeWhile_cons_of_neg hc, List.dropWhile_cons_of_neg hc, List.append_nil]
        exact ⟨rfl, rfl⟩
  rw [readUnsigned, hsplit.1, hsplit.2, if_pos (isDecimal_decimalText n j), hsuffix,
    textValue_decimalText]
  rfl

theorem readUnsigned_text (s : Significant k) : readUnsigned s.text = some s.value := by
  unfold Significant.text
  split
  next hfixed =>
      have hread := readUnsigned_append s.mantissa ((k : Int) - s.exponent).toNat []
        (e := 0) (fun c hc => absurd hc (by simp)) rfl
      rw [List.append_nil, zpow_zero, mul_one] at hread
      rw [hread, ← textValue_decimalText, Significant.textValue_fixed hfixed]
  next =>
      have hread := readUnsigned_append s.mantissa k ('e' :: exponentText s.exponent)
        (by
          intro c hc
          cases hc
          rfl) (readExponent_exponentText s.exponent)
      rw [hread, Significant.value]
      congr 1
      rw [zpow_sub₀ (by norm_num), zpow_natCast]
      ring

theorem head?_decimalText_append (n j : Nat) (suffix : List Char) :
    (decimalText n j ++ suffix).head?.any Char.isDigit = true := by
  have hany := head?_decimalText n j
  cases htext : decimalText n j with
  | nil =>
      rw [htext] at hany
      exact absurd hany (by decide)
  | cons c rest =>
      rw [htext] at hany
      exact hany

theorem head?_text (s : Significant k) : s.text.head?.any Char.isDigit = true := by
  unfold Significant.text
  split
  next => exact head?_decimalText _ _
  next => exact head?_decimalText_append _ _ _

/-- A formatted number reads back rounded to the digits of the format. -/
theorem readNumber_formatGeneral (k : Nat) (x : Rat) :
    readNumber (formatGeneral k x) = some (rounded k x) := by
  unfold formatGeneral rounded
  split
  next =>
      rw [readNumber, readUnsigned_text]
      rfl
  next =>
      have hhead := head?_text (significant k x)
      rw [readNumber]
      · exact readUnsigned_text _
      · intro text htext
        rw [htext] at hhead
        exact absurd (show ('-').isDigit = true from hhead) (by decide)

end DmSimulator.Decimal
