import Opscript.Code
import Opscript.Total

/-!
# UTF-16

`encode` writes a text as code units. `read` goes the other way, left to right: a high surrogate
directly followed by a low one is one character, and a surrogate without its partner stands alone.
`decode` refuses the first lone surrogate; `lossy` puts U+FFFD in its place, so that it keeps
every position.
-/

namespace Opscript.Utf16

/-- The one or two units of a character. -/
def ofChar (c : Char) : List Code :=
  if c.toNat < 0x10000 then [UInt16.ofNat c.toNat]
  else
    let n := c.toNat - 0x10000
    [UInt16.ofNat (0xD800 + n / 0x400), UInt16.ofNat (0xDC00 + n % 0x400)]

def encode (s : String) : List Code := s.toList.flatMap ofChar

/-- Number of units of a character. -/
def width (c : Char) : Nat := if c.toNat < 0x10000 then 1 else 2

theorem length_ofChar (c : Char) : (ofChar c).length = width c := by
  simp only [ofChar, width]
  split <;> rfl

/-- Number of units of a text. -/
def length (s : String) : Nat := total width s.toList

theorem length_encode (s : String) : (encode s).length = length s := by
  simp only [encode, length, length_flatMap_eq_total, length_ofChar]

/-- What a position of a code list holds. -/
inductive Item where
  | char (c : Char)
  | lone (unit : Code)
  deriving DecidableEq, Repr

/-- The astral character of a surrogate pair. -/
def pair (high low : Code) : Char :=
  Char.ofNat (0x10000 + (high.toNat - 0xD800) * 0x400 + (low.toNat - 0xDC00))

/-- A unit that is no half of a pair. -/
def single (c : Code) : Item :=
  if c.isSurrogate then .lone c else .char (Char.ofNat c.toNat)

/-- Pairs surrogates from left to right. -/
def read : List Code → List Item
  | [] => []
  | [c] => [single c]
  | c :: d :: rest =>
    if c.isHigh && d.isLow then .char (pair c d) :: read rest else single c :: read (d :: rest)

/-- A surrogate without its partner, at a unit position. -/
structure LoneSurrogate where
  index : Nat
  unit : Code
  deriving DecidableEq, Repr

/-- The characters of `items`, whose first unit has position `index`. -/
def strict (index : Nat) : List Item → Except LoneSurrogate (List Char)
  | [] => .ok []
  | .lone u :: _ => .error ⟨index, u⟩
  | .char c :: rest => (strict (index + width c) rest).map (c :: ·)

/-- The text, or its first lone surrogate. -/
def decode (units : List Code) : Except LoneSurrogate String :=
  (strict 0 (read units)).map String.ofList

/-- U+FFFD stands for what has no character. -/
def Item.shown : Item → Char
  | .char c => c
  | .lone _ => '\uFFFD'

/-- The text with U+FFFD at every lone surrogate. -/
def lossy (units : List Code) : String := String.ofList ((read units).map Item.shown)

/-- A character is no surrogate. -/
theorem toNat_char (c : Char) : c.toNat < 0x110000 ∧ ¬ (0xD800 ≤ c.toNat ∧ c.toNat ≤ 0xDFFF) := by
  rcases c.valid with h | h
  · constructor <;> simp only [Char.toNat] <;> omega
  · constructor <;> simp only [Char.toNat] <;> omega

theorem read_ofChar_append (c : Char) (rest : List Code) :
    read (ofChar c ++ rest) = .char c :: read rest := by
  have h := toNat_char c
  by_cases hc : c.toNat < 0x10000
  · have ht : (UInt16.ofNat c.toNat).toNat = c.toNat := by
      simp [Nat.mod_eq_of_lt hc]
    have hs : Code.isSurrogate (UInt16.ofNat c.toNat) = false := by
      rw [Bool.eq_false_iff, ne_eq, Code.isSurrogate_iff, ht]
      exact h.2
    have hh : Code.isHigh (UInt16.ofNat c.toNat) = false := by
      simp only [Code.isSurrogate, Bool.or_eq_false_iff] at hs
      exact hs.1
    have h1 : single (UInt16.ofNat c.toNat) = .char c := by
      simp only [single, hs, Bool.false_eq_true, if_false, ht, Char.ofNat_toNat]
    cases rest with
    | nil => simp [ofChar, hc, read, h1]
    | cons d rest => simp [ofChar, hc, read, hh, h1]
  · have h1 : (UInt16.ofNat (0xD800 + (c.toNat - 0x10000) / 0x400)).toNat =
        0xD800 + (c.toNat - 0x10000) / 0x400 := by
      simp only [UInt16.toNat_ofNat']
      omega
    have h2 : (UInt16.ofNat (0xDC00 + (c.toNat - 0x10000) % 0x400)).toNat =
        0xDC00 + (c.toNat - 0x10000) % 0x400 := by
      simp only [UInt16.toNat_ofNat']
      omega
    have hh : Code.isHigh (UInt16.ofNat (0xD800 + (c.toNat - 0x10000) / 0x400)) = true := by
      simp only [Code.isHigh, Bool.and_eq_true, decide_eq_true_eq, UInt16.le_iff_toNat_le, h1]
      simp only [UInt16.reduceToNat]
      omega
    have hl : Code.isLow (UInt16.ofNat (0xDC00 + (c.toNat - 0x10000) % 0x400)) = true := by
      simp only [Code.isLow, Bool.and_eq_true, decide_eq_true_eq, UInt16.le_iff_toNat_le, h2]
      simp only [UInt16.reduceToNat]
      omega
    have hp : pair (UInt16.ofNat (0xD800 + (c.toNat - 0x10000) / 0x400))
        (UInt16.ofNat (0xDC00 + (c.toNat - 0x10000) % 0x400)) = c := by
      rw [pair, h1, h2, show 0x10000 + (0xD800 + (c.toNat - 0x10000) / 0x400 - 0xD800) * 0x400 +
        (0xDC00 + (c.toNat - 0x10000) % 0x400 - 0xDC00) = c.toNat from by omega, Char.ofNat_toNat]
    simp only [ofChar, if_neg hc, List.cons_append, List.nil_append, read, hh, hl, Bool.and_self,
      if_true, hp]

theorem read_encode (s : String) : read (encode s) = s.toList.map .char := by
  rw [encode]
  induction s.toList with
  | nil => rfl
  | cons c rest ih => rw [List.flatMap_cons, read_ofChar_append, ih, List.map_cons]

theorem strict_map_char (index : Nat) (cs : List Char) : strict index (cs.map .char) = .ok cs := by
  induction cs generalizing index with
  | nil => rfl
  | cons c rest ih => rw [List.map_cons, strict, ih]; rfl

/-- What was written is read. -/
theorem decode_encode (s : String) : decode (encode s) = .ok s := by
  rw [decode, read_encode, strict_map_char]
  exact congrArg Except.ok String.ofList_toList

namespace LoneSurrogate

/-- Four lower-case hexadecimal digits. -/
def hex4 (u : Code) : String :=
  let digits := Nat.toDigits 16 u.toNat
  String.ofList (List.replicate (4 - digits.length) '0' ++ digits)

def message (e : LoneSurrogate) : String :=
  "lone surrogate 0x" ++ hex4 e.unit ++ " at position " ++ toString e.index

end LoneSurrogate

end Opscript.Utf16
