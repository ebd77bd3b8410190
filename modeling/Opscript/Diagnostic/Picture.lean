import Opscript.Text.Characters
import Opscript.Total

/-!
# Pictures of characters

In an excerpt a character that would disturb the terminal is shown by a picture of it. `columns` is
the room that the picture takes.
-/

namespace Opscript.Diagnostic

/-- A character that turns the direction of the text. -/
def isTurn (c : Char) : Bool :=
  (0x202A ≤ c.toNat && c.toNat ≤ 0x202E) || (0x2066 ≤ c.toNat && c.toNat ≤ 0x2069)

/-- The characters that are shown for a character. -/
def picture (c : Char) : List Char :=
  if c = '\t' then [' ', ' ', ' ', ' ']
  else if c = '\n' then [c]
  else if c.toNat < 0x20 then [Char.ofNat (0x2400 + c.toNat)]
  else if c.toNat = 0x7F then ['\u2421']
  else if c.toNat = 0x200D then []
  else if isTurn c then ['\uFFFD']
  else [c]

def pictures (s : List Char) : List Char := s.flatMap picture

/-- The columns of a character. The Khmer sign U+17D8 stands for "and so on" and takes three. -/
def columns (c : Char) : Nat :=
  if c = '\t' then 4
  else if c.toNat ≤ 0x9F || isTurn c then 1
  else if c = '\u17D8' then 3
  else if Text.isWidthless c then 0
  else if Text.isWide c then 2
  else 1

def width (s : List Char) : Nat := total columns s

end Opscript.Diagnostic
