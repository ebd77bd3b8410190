import Opscript.Segment

/-!
# Decoding

Decoding a sequence keeps its segments as drafts, which are records that have no id yet. It also
lists the argument codes that are unknown, each once and in the order in which they first appear,
so that they can be registered as null values and be known from then on.
-/

namespace Opscript

/-- A record before it gets its id. -/
structure Draft where
  operation : Code
  arguments : List Code
  /-- The positions in the decoded sequence. -/
  span : Span
  deriving DecidableEq, Repr

namespace Draft

/-- The operation and the arguments. -/
def content (d : Draft) : Code × List Code := (d.operation, d.arguments)

def codes (d : Draft) : List Code := d.operation :: d.arguments

/-- The draft of a segment of `units`. -/
def ofSegment (units : Array Code) (s : Segment) : Draft :=
  ⟨s.operation, slice units s.arguments, s.span⟩

end Draft

structure Decoding where
  drafts : List Draft
  /-- The unknown argument codes. -/
  unknown : List Code
  /-- The positions of the leading codes, which belong to no draft. -/
  dropped : Span
  deriving DecidableEq, Repr

/-- Reads a sequence in a code space. -/
def decode (space : CodeSpace) (u : Sequence) : Decoding :=
  let drafts := (segments space.isOperation u).map (Draft.ofSegment u.toArray)
  { drafts := drafts
    unknown := ((drafts.flatMap Draft.arguments).filter space.isUnknown).eraseDups
    dropped := ⟨0, leading space.isOperation u⟩ }

/-- The decoded operations with their arguments. -/
def Decoding.contents (d : Decoding) : List (Code × List Code) := d.drafts.map Draft.content

end Opscript
