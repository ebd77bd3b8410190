import Opscript.Inspect
import Opscript.Text.Utf16

/-!
# Sequences

A sequence is any list of codes. It need not be well-formed UTF-16, so its text may be lossy;
lengths and positions count codes.
-/

namespace Opscript

abbrev Sequence := List Code

/-- A range of positions: `start` belongs to it, `stop` does not. -/
structure Span where
  start : Nat
  stop : Nat
  deriving DecidableEq, Repr

/-- The number of positions. -/
def Span.length (s : Span) : Nat := s.stop - s.start

def Span.text (s : Span) : String := toString s.start ++ ".." ++ toString s.stop

instance : Inspect Span := ⟨Span.text⟩

namespace Sequence

def ofString (s : String) : Sequence := Utf16.encode s

/-- The text, if every surrogate has its partner. -/
def text? (s : Sequence) : Except Utf16.LoneSurrogate String := Utf16.decode s

/-- The text with U+FFFD at every lone surrogate. -/
def text (s : Sequence) : String := Utf16.lossy s

def inspect (s : Sequence) : String := Inspect.call "Sequence" [Inspect.inspect s.text]

end Sequence

end Opscript
