/-
  DmSimulator.Lib.Utf8

  Texts as bytes.  The encoding is the core library's, character by character; a
  byte below 0x80 stands for the character of that code and is part of no other
  one, so a program that rewrites such bytes rewrites characters.
-/
import Mathlib.Data.List.Basic

namespace DmSimulator.Utf8

def utf8 (text : List Char) : List UInt8 := text.flatMap String.utf8EncodeChar

@[simp]
theorem utf8_nil : utf8 [] = [] := rfl

@[simp]
theorem utf8_cons (c : Char) (text : List Char) :
    utf8 (c :: text) = String.utf8EncodeChar c ++ utf8 text := rfl

theorem utf8_append (first second : List Char) :
    utf8 (first ++ second) = utf8 first ++ utf8 second :=
  List.flatMap_append

theorem utf8_injective {first second : List Char} (h : utf8 first = utf8 second) :
    first = second := by
  have hbytes : first.utf8Encode = second.utf8Encode := congrArg List.toByteArray h
  apply String.ofList_injective
  apply String.toByteArray_inj.mp
  rw [String.toByteArray_ofList, String.toByteArray_ofList, hbytes]

theorem utf8EncodeChar_of_lt {c : Char} (h : c.toNat < 0x80) :
    String.utf8EncodeChar c = [UInt8.ofNat c.toNat] := by
  have hle : c.val.toNat ≤ 0x7f := Nat.le_of_lt_succ h
  rw [String.utf8EncodeChar, if_pos hle]
  rfl

/-- The first 128 characters are told apart by their bytes. -/
theorem ofNat_toNat_eq_toUInt8 {c d : Char} (hc : c.toNat < 0x80) (hd : d.toNat < 0x80) :
    UInt8.ofNat c.toNat = d.toUInt8 ↔ c = d := by
  constructor
  · intro h
    have hnat : c.toNat % 2 ^ 8 = d.toNat % 2 ^ 8 := by
      have := congrArg UInt8.toNat h
      rwa [UInt8.toNat_ofNat', Char.toUInt8, UInt32.toNat_toUInt8] at this
    rw [← Char.ofNat_toNat c, ← Char.ofNat_toNat d]
    congr 1
    omega
  · rintro rfl
    rfl

theorem le_toNat_ofNat {n m : Nat} (hn : n ≤ m) (hm : m < 256) : n ≤ (UInt8.ofNat m).toNat := by
  rw [UInt8.toNat_ofNat', Nat.mod_eq_of_lt hm]
  exact hn

/-- The bytes of the other characters are none of the first 128. -/
theorem le_toNat_of_mem_utf8EncodeChar {c : Char} (h : 0x80 ≤ c.toNat) {b : UInt8}
    (hb : b ∈ String.utf8EncodeChar c) : 0x80 ≤ b.toNat := by
  have hgt : ¬ c.val.toNat ≤ 0x7f := Nat.not_le_of_lt h
  have hvalid : c.val.toNat < 0x110000 := by
    have := c.valid
    simp only [UInt32.isValidChar, Nat.isValidChar] at this
    omega
  rw [String.utf8EncodeChar, if_neg hgt] at hb
  split at hb
  · simp only [List.mem_cons, List.not_mem_nil, or_false] at hb
    rcases hb with rfl | rfl <;> exact le_toNat_ofNat (by omega) (by omega)
  split at hb
  · simp only [List.mem_cons, List.not_mem_nil, or_false] at hb
    rcases hb with rfl | rfl | rfl <;> exact le_toNat_ofNat (by omega) (by omega)
  · simp only [List.mem_cons, List.not_mem_nil, or_false] at hb
    rcases hb with rfl | rfl | rfl | rfl <;> exact le_toNat_ofNat (by omega) (by omega)

/-- A rewriting of bytes that leaves those from 0x80 on is, on encoded texts, the
    rewriting of characters that it is on the first 128. -/
theorem flatMap_utf8 {bytes : UInt8 → List UInt8} {chars : Char → List Char}
    (hascii : ∀ c : Char, c.toNat < 0x80 → bytes (UInt8.ofNat c.toNat) = utf8 (chars c))
    (hbytes : ∀ b : UInt8, 0x80 ≤ b.toNat → bytes b = [b])
    (hchars : ∀ c : Char, 0x80 ≤ c.toNat → chars c = [c]) (text : List Char) :
    (utf8 text).flatMap bytes = utf8 (text.flatMap chars) := by
  induction text with
  | nil => rfl
  | cons c text ih =>
      have hc : (String.utf8EncodeChar c).flatMap bytes = utf8 (chars c) := by
        rcases Nat.lt_or_ge c.toNat 0x80 with hlt | hge
        · rw [utf8EncodeChar_of_lt hlt, List.flatMap_singleton, hascii c hlt]
        · have hkept : ∀ b ∈ String.utf8EncodeChar c, bytes b = [b] := fun b hb =>
            hbytes b (le_toNat_of_mem_utf8EncodeChar hge hb)
          rw [List.flatMap_congr hkept, hchars c hge]
          simp
      rw [utf8_cons, List.flatMap_append, hc, ih, List.flatMap_cons, utf8_append]

end DmSimulator.Utf8
