/-
  DmSimulator.Experiments.SummaryJson

  The names in `summary.json` (`json_escape` and the first field of
  `write_summary_json` in `experiments/runner.cpp`).

  A `std::string` is a list of bytes and the escape goes over them one by one, so
  a character of several bytes is copied in pieces.  What a reader gets is said on
  the characters that the file's bytes encode.
-/
import DmSimulator.Experiments.Runner
import DmSimulator.Lib.JsonString
import DmSimulator.Lib.Utf8

namespace DmSimulator

open JsonString Utf8

-- ============================================================================
-- The escape
-- ============================================================================

/-- The bytes of a `std::string`. -/
def stringBytes (value : String) : List UInt8 := value.toByteArray.data.toList

/-- One round of the loop of `json_escape`: what it writes for a `char`. -/
def escapeCharacter (character : UInt8) : List UInt8 :=
  if character = '"'.toUInt8 then stringBytes "\\\""
  else if character = '\\'.toUInt8 then stringBytes "\\\\"
  else if character = '\n'.toUInt8 then stringBytes "\\n"
  else if character = '\r'.toUInt8 then stringBytes "\\r"
  else if character = '\t'.toUInt8 then stringBytes "\\t"
  else [character]

def jsonEscape (value : List UInt8) : List UInt8 := value.flatMap escapeCharacter

/-- The value that `write_summary_json` gives the field `experiment_name`, with the
    quotes that stand in the texts before and after it. -/
def experimentNameValue (summary : MetricsSummary) : List UInt8 :=
  stringBytes "\"" ++ jsonEscape (stringBytes summary.experimentName) ++ stringBytes "\""

/-- Some bytes are a literal of JSON, and a reader gets a string from it and goes
    on after it. -/
def ReadsAs (bytes : List UInt8) (value : String) : Prop :=
  ∃ text : List Char, utf8 text = bytes ∧ IsLiteral text ∧
    ∀ rest, readString (text ++ rest) = some (value.toList, rest)

/-- No control character but those that `json_escape` has a case for. -/
def EscapedControls (name : String) : Prop :=
  ∀ c ∈ name.toList, 0x20 ≤ c.toNat ∨ c = '\n' ∨ c = '\r' ∨ c = '\t'

instance (name : String) : Decidable (EscapedControls name) :=
  List.decidableBAll (fun c : Char => 0x20 ≤ c.toNat ∨ c = '\n' ∨ c = '\r' ∨ c = '\t') name.toList

theorem stringBytes_eq_utf8 (value : String) : stringBytes value = utf8 value.toList := by
  rw [stringBytes, ← String.utf8Encode_toList, List.utf8Encode, List.toList_data_toByteArray]
  rfl

-- ============================================================================
-- The escape on characters
-- ============================================================================

def escapeChar (c : Char) : List Char :=
  if c = '"' then ['\\', '"']
  else if c = '\\' then ['\\', '\\']
  else if c = '\n' then ['\\', 'n']
  else if c = '\r' then ['\\', 'r']
  else if c = '\t' then ['\\', 't']
  else [c]

theorem escapeCharacter_ofNat {c : Char} (hc : c.toNat < 0x80) :
    escapeCharacter (UInt8.ofNat c.toNat) = utf8 (escapeChar c) := by
  have hbyte : utf8 [c] = [UInt8.ofNat c.toNat] := by
    rw [utf8_cons, utf8EncodeChar_of_lt hc, utf8_nil, List.append_nil]
  rw [escapeCharacter, escapeChar]
  simp only [ofNat_toNat_eq_toUInt8 hc (by decide : '"'.toNat < 0x80),
    ofNat_toNat_eq_toUInt8 hc (by decide : '\\'.toNat < 0x80),
    ofNat_toNat_eq_toUInt8 hc (by decide : '\n'.toNat < 0x80),
    ofNat_toNat_eq_toUInt8 hc (by decide : '\r'.toNat < 0x80),
    ofNat_toNat_eq_toUInt8 hc (by decide : '\t'.toNat < 0x80),
    stringBytes_eq_utf8, ← hbyte, ← apply_ite utf8]
  rfl

theorem escapeCharacter_of_le {character : UInt8} (h : 0x80 ≤ character.toNat) :
    escapeCharacter character = [character] := by
  have hne : ∀ d : UInt8, d.toNat < 0x80 → character ≠ d := by
    rintro d hd rfl
    omega
  rw [escapeCharacter, if_neg (hne _ (by decide)), if_neg (hne _ (by decide)),
    if_neg (hne _ (by decide)), if_neg (hne _ (by decide)), if_neg (hne _ (by decide))]

theorem escapeChar_of_le {c : Char} (h : 0x80 ≤ c.toNat) : escapeChar c = [c] := by
  have hne : ∀ d : Char, d.toNat < 0x80 → c ≠ d := by
    rintro d hd rfl
    omega
  rw [escapeChar, if_neg (hne _ (by decide)), if_neg (hne _ (by decide)),
    if_neg (hne _ (by decide)), if_neg (hne _ (by decide)), if_neg (hne _ (by decide))]

/-- The bytes that `json_escape` writes are those of the escaped characters. -/
theorem jsonEscape_stringBytes (value : String) :
    jsonEscape (stringBytes value) = utf8 (value.toList.flatMap escapeChar) := by
  rw [stringBytes_eq_utf8]
  exact flatMap_utf8 (fun c hc => escapeCharacter_ofNat hc)
    (fun _ hb => escapeCharacter_of_le hb) (fun _ hc => escapeChar_of_le hc) value.toList

theorem experimentNameValue_eq_utf8 (summary : MetricsSummary) :
    experimentNameValue summary =
      utf8 ('"' :: (summary.experimentName.toList.flatMap escapeChar ++ ['"'])) := by
  rw [experimentNameValue, jsonEscape_stringBytes, stringBytes_eq_utf8, ← utf8_append,
    ← utf8_append]
  rfl

/-- An escaped character stands for itself, a copied control character aside. -/
theorem spells_escapeChar {c : Char}
    (hc : 0x20 ≤ c.toNat ∨ c = '\n' ∨ c = '\r' ∨ c = '\t') : Spells (escapeChar c) c := by
  rw [escapeChar]
  split_ifs with hquote hbackslash hn hr ht
  · exact Spells.escape (by simp [escapeValue, hquote])
  · exact Spells.escape (by simp [escapeValue, hbackslash])
  · exact Spells.escape (by simp [escapeValue, hn])
  · exact Spells.escape (by simp [escapeValue, hr])
  · exact Spells.escape (by simp [escapeValue, ht])
  · have hle : 0x20 ≤ c.toNat := by
      rcases hc with hle | rfl | rfl | rfl
      · exact hle
      · exact absurd rfl hn
      · exact absurd rfl hr
      · exact absurd rfl ht
    exact Spells.unescaped ⟨hle, hquote, hbackslash⟩

/-- The other control characters are copied. -/
theorem escapeChar_of_control {c : Char} (hlt : c.toNat < 0x20)
    (hc : ¬(c = '\n' ∨ c = '\r' ∨ c = '\t')) : escapeChar c = [c] := by
  have hne : ∀ d : Char, 0x20 ≤ d.toNat → c ≠ d := by
    rintro d hd rfl
    omega
  rw [not_or, not_or] at hc
  rw [escapeChar, if_neg (hne _ (by decide)), if_neg (hne _ (by decide)), if_neg hc.1,
    if_neg hc.2.1, if_neg hc.2.2]

-- ============================================================================
-- What a reader gets
-- ============================================================================

/-- A control character that is copied leaves the bytes no literal. -/
theorem escapedControls_of_isLiteral {name : String}
    (h : IsLiteral ('"' :: (name.toList.flatMap escapeChar ++ ['"']))) : EscapedControls name := by
  intro c hc
  by_contra hnot
  rw [not_or] at hnot
  have hlt : c.toNat < 0x20 := Nat.lt_of_not_le hnot.1
  have hmem : c ∈ name.toList.flatMap escapeChar :=
    List.mem_flatMap.mpr ⟨c, hc, by simp [escapeChar_of_control hlt hnot.2]⟩
  exact hnot.1 (h.le_toNat c (List.mem_cons_of_mem _ (List.mem_append_left _ hmem)))

/-- The value of `experiment_name` is a literal that reads as the name if and only
    if the name has no control character other than line feed, carriage return and
    tab. -/
theorem experimentName_readsAs_iff (summary : MetricsSummary) :
    ReadsAs (experimentNameValue summary) summary.experimentName ↔
      EscapedControls summary.experimentName := by
  rw [experimentNameValue_eq_utf8]
  constructor
  · rintro ⟨text, htext, hliteral, -⟩
    obtain rfl := utf8_injective htext
    exact escapedControls_of_isLiteral hliteral
  · intro hname
    have hspells : ∀ c ∈ summary.experimentName.toList, Spells (escapeChar c) c := fun c hc =>
      spells_escapeChar (hname c hc)
    refine ⟨_, rfl, isLiteral_flatMap hspells, fun rest => ?_⟩
    have hread := readString_flatMap hspells rest
    simpa using hread

/-- The name of one character, U+0001, is written as no literal. -/
theorem not_readsAs_of_control :
    ¬ ReadsAs (experimentNameValue { experimentName := "\x01" }) "\x01" := by
  rintro ⟨text, htext, hliteral, -⟩
  rw [experimentNameValue_eq_utf8] at htext
  obtain rfl := utf8_injective htext
  have hname := escapedControls_of_isLiteral hliteral '\x01' (List.mem_singleton_self _)
  simp at hname

end DmSimulator
