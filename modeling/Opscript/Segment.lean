import Opscript.Registry
import Opscript.Sequence

/-!
# Segments

Read from left to right, a sequence falls into segments. Each one starts at an operation and goes
on over the codes behind it up to the next operation; these are its arguments. The codes before
the first operation belong to no segment. `seek` passes over codes, `next?` finds the segment
behind a position, and `scan` repeats it up to the end.
-/

namespace Opscript

/-- One operation in a sequence. -/
structure Segment where
  operation : Code
  /-- The position of the operation. -/
  start : Nat
  /-- The positions of the arguments. -/
  arguments : Span
  deriving DecidableEq, Repr

/-- The positions of operation and arguments. -/
def Segment.span (s : Segment) : Span := ⟨s.start, s.arguments.stop⟩

/-- The codes at these positions. -/
def slice (units : Array Code) (s : Span) : List Code := (units.extract s.start s.stop).toList

variable (isOperation : Code → Bool)

/-- The number of codes before the first operation. -/
def leading (u : Sequence) : Nat := (u.findIdx? isOperation).getD u.length

/-- The first position from `pos` on that holds an operation, or the end. -/
def seek (units : Array Code) (pos : Nat) : Nat :=
  if h : pos < units.size then
    if isOperation units[pos] then pos else seek units (pos + 1)
  else pos
termination_by units.size - pos

theorem le_seek (units : Array Code) (pos : Nat) : pos ≤ seek isOperation units pos := by
  fun_induction seek with
  | case1 => exact Nat.le_refl _
  | case2 _ _ _ ih => exact Nat.le_of_succ_le ih
  | case3 => exact Nat.le_refl _

/-- The segment behind `pos`, and the position behind the segment. -/
def next? (units : Array Code) (pos : Nat) : Option (Segment × Nat) :=
  let start := seek isOperation units pos
  if h : start < units.size then
    let stop := seek isOperation units (start + 1)
    some (⟨units[start], start, ⟨start + 1, stop⟩⟩, stop)
  else none

theorem lt_of_next? {units : Array Code} {pos : Nat} {s : Segment} {stop : Nat}
    (h : next? isOperation units pos = some (s, stop)) : pos < units.size ∧ pos < stop := by
  simp only [next?, Option.dite_none_right_eq_some, Option.some.injEq, Prod.mk.injEq] at h
  obtain ⟨hlt, -, rfl⟩ := h
  have h1 := le_seek isOperation units pos
  have h2 := le_seek isOperation units (seek isOperation units pos + 1)
  omega

/-- The segments behind `pos`. -/
def scan (units : Array Code) (pos : Nat) : List Segment :=
  match _ : next? isOperation units pos with
  | none => []
  | some (s, stop) => s :: scan units stop
termination_by units.size - pos
decreasing_by
  rename_i h
  have := lt_of_next? isOperation h
  omega

def segments (u : Sequence) : List Segment := scan isOperation u.toArray 0

end Opscript
