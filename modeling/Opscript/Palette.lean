/-!
# Palettes

Listings and traces are written in three styles. The plain palette adds nothing; the other one
puts the terminal's colour sequences around each piece of text.
-/

namespace Opscript

/-- What a piece of text shows. -/
inductive Style where
  /-- Operations and keys. -/
  | blue
  /-- Values and arguments. -/
  | green
  /-- Numbering, structure and what is absent. -/
  | dim
  deriving DecidableEq, Repr

/-- The sequence that switches a style on. -/
def Style.start : Style → String
  | .blue => "\x1b[34m"
  | .green => "\x1b[32m"
  | .dim => "\x1b[2m"

/-- The sequence that switches every style off. -/
def Style.stop : String := "\x1b[0m"

inductive Palette where
  | plain
  | colored
  deriving DecidableEq, Repr

namespace Palette

def ofBool (colored : Bool) : Palette := if colored then .colored else .plain

def isColored : Palette → Bool
  | plain => false
  | colored => true

def paint : Palette → Style → String → String
  | plain, _, s => s
  | colored, style, s => style.start ++ s ++ Style.stop

def blue (p : Palette) (s : String) : String := p.paint .blue s
def green (p : Palette) (s : String) : String := p.paint .green s
def dim (p : Palette) (s : String) : String := p.paint .dim s

end Palette

end Opscript
