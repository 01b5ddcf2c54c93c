/-
  DmSimulator.Lib.Sha1

  The SHA-1 digest of a list of bytes, as hexadecimal text: padding to blocks of
  sixteen words, the schedule of eighty words and the eighty rounds of a block.
-/
import Mathlib.Data.List.Basic

namespace DmSimulator.Sha1

abbrev Word : Type := BitVec 32

/-- The last `count` bytes of `n`, the most significant first. -/
def bytesOf (count n : Nat) : List UInt8 :=
  (List.range count).reverse.map (fun i => UInt8.ofNat (n >>> (8 * i)))

/-- The message, a one bit, zeros and the length in bits, in whole blocks of 64 bytes. -/
def padded (message : List UInt8) : List UInt8 :=
  message ++ 0x80 :: List.replicate ((119 - message.length % 64) % 64) 0 ++
    bytesOf 8 (8 * message.length)

/-- The big-endian words of a list of bytes. -/
def words : List UInt8 → List Word
  | a :: b :: c :: d :: bytes =>
      BitVec.ofNat 32 (((a.toNat * 256 + b.toNat) * 256 + c.toNat) * 256 + d.toNat) :: words bytes
  | _ => []

/-- `count` more words of the schedule; the newest word comes first. -/
def extended : Nat → List Word → List Word
  | 0, schedule => schedule
  | count + 1, schedule =>
      let word := schedule.getD 2 0 ^^^ schedule.getD 7 0 ^^^ schedule.getD 13 0 ^^^
        schedule.getD 15 0
      extended count (word.rotateLeft 1 :: schedule)

structure State where
  a : Word
  b : Word
  c : Word
  d : Word
  e : Word

def initial : State :=
  { a := 0x67452301, b := 0xEFCDAB89, c := 0x98BADCFE, d := 0x10325476, e := 0xC3D2E1F0 }

/-- The function and the constant of round `t`. -/
def mixed (t : Nat) (s : State) : Word :=
  if t < 20 then ((s.b &&& s.c) ||| (~~~s.b &&& s.d)) + 0x5A827999
  else if t < 40 then (s.b ^^^ s.c ^^^ s.d) + 0x6ED9EBA1
  else if t < 60 then ((s.b &&& s.c) ||| (s.b &&& s.d) ||| (s.c &&& s.d)) + 0x8F1BBCDC
  else (s.b ^^^ s.c ^^^ s.d) + 0xCA62C1D6

def round (s : State) (step : Word × Nat) : State :=
  { a := s.a.rotateLeft 5 + mixed step.2 s + s.e + step.1
    b := s.a
    c := s.b.rotateLeft 30
    d := s.c
    e := s.d }

/-- The eighty rounds over one block of sixteen words. -/
def compress (s : State) (block : List Word) : State :=
  let out := (extended 64 block.reverse).reverse.zipIdx.foldl round s
  { a := s.a + out.a, b := s.b + out.b, c := s.c + out.c, d := s.d + out.d, e := s.e + out.e }

def digest (message : List UInt8) : State :=
  let input := words (padded message)
  (List.range (input.length / 16)).foldl
    (fun s i => compress s ((input.drop (16 * i)).take 16)) initial

/-- The last `count` hexadecimal digits of `n`. -/
def hexDigits : Nat → Nat → List Char
  | 0, _ => []
  | count + 1, n => hexDigits count (n / 16) ++ [Nat.digitChar (n % 16)]

/-- The digest of the UTF-8 bytes of a text as 40 hexadecimal digits. -/
def hexdigest (text : String) : List Char :=
  let s := digest text.toUTF8.data.toList
  [s.a, s.b, s.c, s.d, s.e].flatMap (fun word => hexDigits 8 word.toNat)

theorem length_hexDigits (count n : Nat) : (hexDigits count n).length = count := by
  induction count generalizing n with
  | zero => rfl
  | succ count ih => rw [hexDigits, List.length_append, ih, List.length_singleton]

@[simp]
theorem length_hexdigest (text : String) : (hexdigest text).length = 40 := by
  simp [hexdigest, length_hexDigits]

/-- The sixteen digits of a digest. -/
def hexAlphabet : List Char :=
  ['0', '1', '2', '3', '4', '5', '6', '7', '8', '9', 'a', 'b', 'c', 'd', 'e', 'f']

theorem digitChar_mem_hexAlphabet {n : Nat} (h : n < 16) : n.digitChar ∈ hexAlphabet := by
  have hall : ∀ i : Fin 16, Nat.digitChar i ∈ hexAlphabet := by decide
  exact hall ⟨n, h⟩

theorem mem_hexDigits {count n : Nat} {c : Char} (h : c ∈ hexDigits count n) :
    c ∈ hexAlphabet := by
  induction count generalizing n with
  | zero => exact absurd h List.not_mem_nil
  | succ count ih =>
      rcases List.mem_append.mp h with h | h
      · exact ih h
      · rw [List.mem_singleton.mp h]
        exact digitChar_mem_hexAlphabet (Nat.mod_lt _ (by decide))

theorem mem_hexdigest {text : String} {c : Char} (h : c ∈ hexdigest text) : c ∈ hexAlphabet := by
  obtain ⟨word, -, hc⟩ := List.mem_flatMap.mp h
  exact mem_hexDigits hc

example : hexdigest "abc" = "a9993e364706816aba3e25717850c26c9cd0d89d".toList := by
  decide +kernel

end DmSimulator.Sha1
