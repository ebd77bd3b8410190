import Opscript.Sequence

/-!
# Byte ranges of spans

A span counts UTF-16 units; the bytes that it stands for are counted in UTF-8. An end of the span
that is not the offset of a character is taken as the end of the text. A range that would be empty
is widened to the character where it starts.
-/

namespace Opscript.Diagnostic

/-- The bytes that start at the offset `start` and end before `stop`. -/
structure ByteRange where
  start : Nat
  stop : Nat
  deriving DecidableEq, Repr

/-- Number of bytes of these characters. -/
def byteCount (s : List Char) : Nat := total Char.utf8Size s

theorem byteCount_cons (c : Char) (s : List Char) :
    byteCount (c :: s) = c.utf8Size + byteCount s := rfl

theorem byteCount_append (s t : List Char) : byteCount (s ++ t) = byteCount s + byteCount t :=
  total_append Char.utf8Size s t

/-- The characters that lie in the first `n` bytes. -/
def takeBytes : Nat → List Char → List Char
  | _, [] => []
  | n, c :: rest => if c.utf8Size ≤ n then c :: takeBytes (n - c.utf8Size) rest else []

/-- The characters behind the first `n` bytes. -/
def dropBytes : Nat → List Char → List Char
  | _, [] => []
  | n, c :: rest => if c.utf8Size ≤ n then dropBytes (n - c.utf8Size) rest else c :: rest

/-- The byte offsets of the two ends of a span, as far as they are found. The text begins at
`byte` and `unit`, and `start` is what was found before; the search stops at the end of the span. -/
def locate (span : Span) (byte unit : Nat) (start : Option Nat) :
    List Char → Option Nat × Option Nat
  | [] => (start, none)
  | c :: rest =>
    let start := if unit = span.start then some byte else start
    if unit = span.stop then (start, some byte)
    else locate span (byte + c.utf8Size) (unit + Utf16.width c) start rest

/-- The bytes of a span. -/
def byteRange (source : List Char) (span : Span) : ByteRange :=
  let (start, stop) := locate span 0 0 none source
  let start := start.getD (byteCount source)
  let stop := stop.getD (byteCount source)
  if start < stop then ⟨start, stop⟩
  else ⟨start, start + byteCount ((dropBytes start source).take 1)⟩

end Opscript.Diagnostic
