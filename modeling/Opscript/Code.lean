/-!
# Codes

A code names an operation or a value. Codes are the UTF-16 code units, so every list of codes is
a text and every text is a list of codes. `ofInt?` takes an integer that is in range; surrogates
are the codes that are not a character by themselves, and `toChar?` refuses exactly those.
-/

namespace Opscript

/-- A UTF-16 code unit that names an operation or a value. -/
abbrev Code := UInt16

namespace Code

/-- The largest code, as an integer. -/
def maxInt : Int := 65535

/-- The code with this number, if it is in range. -/
def ofInt? (n : Int) : Option Code :=
  if 0 ≤ n ∧ n ≤ maxInt then some (UInt16.ofNat n.toNat) else none

def toInt (c : Code) : Int := c.toNat

/-- The first half of a surrogate pair. -/
def isHigh (c : Code) : Bool := 0xD800 ≤ c && c ≤ 0xDBFF

/-- The second half of a surrogate pair. -/
def isLow (c : Code) : Bool := 0xDC00 ≤ c && c ≤ 0xDFFF

def isSurrogate (c : Code) : Bool := isHigh c || isLow c

/-- The character that this code is by itself. -/
def toChar? (c : Code) : Option Char :=
  if isSurrogate c then none else some (Char.ofNat c.toNat)

/-- Decimal text. -/
def text (c : Code) : String := toString c.toNat

theorem toInt_le (c : Code) : c.toInt ≤ maxInt := by
  have h : c.toNat < 65536 := UInt16.toNat_lt c
  simp only [toInt, maxInt]
  omega

theorem ofInt?_toInt (c : Code) : ofInt? c.toInt = some c := by
  rw [ofInt?, if_pos ⟨Int.natCast_nonneg _, c.toInt_le⟩]
  exact congrArg some (UInt16.ofNat_toNat)

theorem ofInt?_eq_some_iff {n : Int} {c : Code} : ofInt? n = some c ↔ n = c.toInt := by
  constructor
  · intro h
    unfold ofInt? at h
    split at h
    next hn =>
      obtain rfl := Option.some.inj h
      have hlt : n.toNat < 65536 := by
        have := hn.2
        unfold maxInt at this
        omega
      rw [toInt, UInt16.toNat_ofNat', Nat.mod_eq_of_lt hlt, Int.toNat_of_nonneg hn.1]
    next => cases h
  · rintro rfl
    exact ofInt?_toInt c

theorem ofInt?_eq_none_iff {n : Int} : ofInt? n = none ↔ n < 0 ∨ maxInt < n := by
  simp only [ofInt?]
  split <;> simp <;> omega

theorem isHigh_iff (c : Code) : c.isHigh = true ↔ 0xD800 ≤ c.toNat ∧ c.toNat ≤ 0xDBFF := by
  simp only [isHigh, Bool.and_eq_true, decide_eq_true_eq, UInt16.le_iff_toNat_le,
    UInt16.reduceToNat]

theorem isLow_iff (c : Code) : c.isLow = true ↔ 0xDC00 ≤ c.toNat ∧ c.toNat ≤ 0xDFFF := by
  simp only [isLow, Bool.and_eq_true, decide_eq_true_eq, UInt16.le_iff_toNat_le,
    UInt16.reduceToNat]

theorem isSurrogate_iff (c : Code) :
    c.isSurrogate = true ↔ 0xD800 ≤ c.toNat ∧ c.toNat ≤ 0xDFFF := by
  rw [isSurrogate, Bool.or_eq_true, isHigh_iff, isLow_iff]
  omega

theorem not_isHigh_of_isLow {c : Code} (h : c.isLow = true) : c.isHigh = false := by
  rw [isLow_iff] at h
  rw [Bool.eq_false_iff, ne_eq, isHigh_iff]
  omega

end Code

end Opscript
