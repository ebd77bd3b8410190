import Opscript.Palette
import Opscript.Record
import Opscript.Registry
import Opscript.Text.Characters

/-!
# Listings

The glyph of a code is its character, or `U+` with four hexadecimal digits where the character
would not be visible. A listing shows the length of a sequence and one line for each record, with
the ids in a column and the label of a code behind its glyph.
-/

namespace Opscript

/-- Four upper-case hexadecimal digits. -/
def Code.hex (c : Code) : List Char :=
  let digits := (Nat.toDigits 16 c.toNat).map Char.toUpper
  List.replicate (4 - digits.length) '0' ++ digits

/-- A code in print. -/
def Code.glyph (c : Code) : String :=
  match c.toChar? with
  | some x =>
    if Text.isControl x || Text.isBlank x then String.ofList ('U' :: '+' :: c.hex)
    else String.singleton x
  | none => String.ofList ('U' :: '+' :: c.hex)

namespace Listing

def spaces (n : Nat) : String := String.ofList (List.replicate n ' ')

/-- Fills up with spaces on the right. -/
def padRight (width : Nat) (s : String) : String := s ++ spaces (width - s.length)

/-- Fills up with spaces on the left. -/
def padLeft (width : Nat) (s : String) : String := spaces (width - s.length) ++ s

/-- The glyph of a code, with its label if it has one. -/
def named (labels : Labels) (c : Code) : String :=
  match labels.labelOf? c with
  | some label => c.glyph ++ "(" ++ label ++ ")"
  | none => c.glyph

/-- The width of the column of ids. -/
def idWidth (records : List Record) : Nat :=
  (toString ((records.map fun r => r.id.val).foldl max 1)).length

def argument (labels : Labels) (p : Palette) (c : Code) : String :=
  " " ++ p.green (named labels c)

def line (labels : Labels) (p : Palette) (width : Nat) (r : Record) : String :=
  p.dim ("#" ++ padRight width r.id.text) ++ " " ++ p.blue (named labels r.operation) ++
    String.join (r.arguments.map (argument labels p)) ++ "\n"

def header (length : Nat) : String :=
  "[sequence]\nlength = " ++ toString length ++ "\n\n[records]\n"

/-- The listing of records. -/
def render (records : List Record) (labels : Labels) (p : Palette) : String :=
  header (total Record.size records) ++
    String.join (records.map (line labels p (idWidth records)))

end Listing

end Opscript
