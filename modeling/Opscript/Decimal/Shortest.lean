/-!
# Shortest decimals

A finite float stands for the reals that round to it. `shortest` finds the coarsest power of ten
that has a multiple among them, and of its multiples there the one nearest to the float; so no
decimal with fewer digits reads back as the same float. Where two are equally near, a `Tie` says
which is taken. All arithmetic is exact.
-/

namespace Opscript.Decimal

/-- The reals `x · 2 ^ exponent` that round to one float, around its own `value`. -/
structure Interval where
  low : Nat
  value : Nat
  high : Nat
  exponent : Int
  /-- Whether the two ends belong to it. -/
  closed : Bool
  deriving Repr

/-- The interval of the float `m · 2 ^ q`. Below a power of two the neighbour is twice as close. -/
def Interval.ofBinary (m : Nat) (q : Int) (atPower : Bool) : Interval where
  low := if atPower then 4 * m - 1 else 4 * m - 2
  value := 4 * m
  high := 4 * m + 2
  exponent := q - 2
  closed := m % 2 == 0

/-- The interval of the magnitude of a finite float, given by its bits. -/
def Interval.ofBits (bits : UInt64) : Interval :=
  let fraction : Nat := bits.toNat % Nat.pow 2 52
  let biased : Nat := bits.toNat / Nat.pow 2 52 % Nat.pow 2 11
  if biased = 0 then ofBinary fraction (-1074) false
  else ofBinary (Nat.pow 2 52 + fraction) ((biased : Int) - 1075) (fraction == 0 && biased != 1)

/-- The number `coefficient · 10 ^ exponent`. -/
structure Shortest where
  coefficient : Nat
  exponent : Int
  deriving DecidableEq, Repr

/-- Which of two equally near multiples is taken: the even one or the greater one. -/
inductive Tie where
  | even
  | up
  deriving DecidableEq, Repr

/-- Whether a tie goes to the smaller multiple `below`. -/
def Tie.goesDown (t : Tie) (below : Nat) : Bool :=
  match t with
  | even => below % 2 == 0
  | up => false

/-- The multiple of `10 ^ p` in the interval that is nearest to its value. -/
def Interval.nearest? (i : Interval) (t : Tie) (p : Int) : Option Nat :=
  let step := Nat.pow 10 p.toNat * Nat.pow 2 (-i.exponent).toNat
  let unit := Nat.pow 2 i.exponent.toNat * Nat.pow 10 (-p).toNat
  let value := i.value * unit
  let below := value / step
  let above := below + 1
  let inside (d : Nat) : Bool :=
    if i.closed then i.low * unit ≤ d * step && d * step ≤ i.high * unit
    else i.low * unit < d * step && d * step < i.high * unit
  match inside below, inside above with
  | false, false => none
  | true, false => some below
  | false, true => some above
  | true, true =>
    let down := value - below * step
    let up := above * step - value
    if down < up || (down == up && t.goesDown below) then some below else some above

/-- The powers of ten that can matter, from the coarsest on. -/
def exponents : List Int := (List.range 660).map fun (n : Nat) => 310 - (n : Int)

def Interval.shortest (i : Interval) (t : Tie) : Shortest :=
  (exponents.findSome? fun p => (i.nearest? t p).map fun d => ⟨d, p⟩).getD ⟨0, 0⟩

/-- The fewest digits that read back as the magnitude of `x`. -/
def shortest (t : Tie) (x : Float) : Shortest := (Interval.ofBits x.toBits).shortest t

end Opscript.Decimal
