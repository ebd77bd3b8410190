/-!
# Reading decimals

A decimal becomes a float in two steps. The digits are gathered in a 64-bit significand, where a
digit that would overflow it is dropped and raises the power of ten; then the significand is
rounded to a float and scaled by that power, itself a float. The result may differ from the
nearest float in its last digits.
-/

namespace Opscript.Decimal

/-- The greatest significand. -/
def maxSignificand : Nat := UInt64.size - 1

/-- The digit `d` behind `n`, if the result fits. -/
def push? (n d : Nat) : Option Nat :=
  if n * 10 + d ≤ maxSignificand then some (n * 10 + d) else none

/-- The float nearest to `10 ^ n`, for `n` at most 308. -/
def powerOfTen (n : Nat) : Float := Float.ofScientific 1 false n

/-- Scales by a power of ten, `none` past the greatest float. A power out of range is applied in
two pieces; the second argument bounds their number. -/
def scale? (x : Float) : Nat → Int → Option Float
  | 0, _ => some x
  | n + 1, e =>
    if e.natAbs ≤ 308 then
      if 0 ≤ e then
        let y := x * powerOfTen e.natAbs
        if y.isInf then none else some y
      else some (x / powerOfTen e.natAbs)
    else if x == 0 then some x
    else if 0 ≤ e then none
    else scale? (x / powerOfTen 308) n (e + 308)

/-- The float read for `significand · 10 ^ e`, `none` if there is none. -/
def toFloat? (significand : Nat) (e : Int) : Option Float :=
  scale? (UInt64.ofNat significand).toFloat (e.natAbs / 308 + 1) e

end Opscript.Decimal
