import Opscript.Decimal.Shortest

/-!
# Decimal layouts

A layout says which numbers are written positionally, how an exponent looks and which of two
equally near decimals is written. A positional number always has a decimal point with a digit after
it.
-/

namespace Opscript.Decimal

structure Layout where
  /-- The least power of ten of a first digit that is written positionally. -/
  least : Int
  /-- The greatest one. -/
  most : Int
  /-- Whether a positive exponent carries its sign. -/
  plus : Bool
  tie : Tie
  deriving DecidableEq, Repr

/-- Data files write positionally from `0.00001` up to sixteen digits; a tie goes to the even
digit. -/
def Layout.data : Layout := ⟨-5, 15, true, .even⟩

/-- Inspection texts write positionally from `0.0001` up to sixteen digits; a tie goes up. -/
def Layout.inspection : Layout := ⟨-4, 15, false, .up⟩

def zeros (n : Nat) : List Char := List.replicate n '0'

/-- Digits whose first one stands for `10 ^ k`, with a decimal point. -/
def positional (digits : List Char) (k : Int) : List Char :=
  if k < 0 then '0' :: '.' :: zeros (-k - 1).toNat ++ digits
  else
    let whole := k.toNat + 1
    if digits.length ≤ whole then digits ++ zeros (whole - digits.length) ++ ['.', '0']
    else digits.take whole ++ '.' :: digits.drop whole

def exponent (plus : Bool) (k : Int) : List Char :=
  let sign := if k < 0 then ['-'] else if plus then ['+'] else []
  sign ++ Nat.toDigits 10 k.natAbs

def scientific (plus : Bool) (digits : List Char) (k : Int) : List Char :=
  digits.take 1 ++ (if digits.length ≤ 1 then [] else '.' :: digits.drop 1) ++
    'e' :: exponent plus k

def Layout.magnitude (l : Layout) (d : Shortest) : List Char :=
  let digits := Nat.toDigits 10 d.coefficient
  let k := d.exponent + digits.length - 1
  if l.least ≤ k ∧ k ≤ l.most then positional digits k else scientific l.plus digits k

/-- The text of a finite float. -/
def Layout.text (l : Layout) (x : Float) : String :=
  let sign := if x.toBits ≥ 0x8000000000000000 then ['-'] else []
  let size := if x == 0 then ['0', '.', '0'] else l.magnitude (shortest l.tie x)
  String.ofList (sign ++ size)

end Opscript.Decimal
