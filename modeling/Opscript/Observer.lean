import Opscript.Trace

/-!
# Observers

An observer is told of a run while it goes on: of an operation right before its callback is called,
with the arguments that the callback is about to get, of an operation that is skipped, and of the
leading codes of a sequence. It keeps what it makes of that. `watchRecords` and `watchSequence` go
through a run operation by operation with an observer at their side; between two operations there
is a `Progress`. The printing observer keeps the lines of a trace.
-/

namespace Opscript

/-- Someone who is told of a run and keeps something of it. -/
structure Observer (σ : Type) where
  /-- An operation is about to be called with resolved arguments. -/
  invoke (kept : σ) (index : Nat) (operation : Code) (codes : List Code)
    (arguments : List (Option Value)) : σ
  /-- An operation has no callback. -/
  skip (kept : σ) (index : Nat) (operation : Code) : σ
  /-- Leading codes of a sequence belong to no operation. -/
  unowned (kept : σ) (positions : Span) : σ

namespace Observer

variable {σ : Type}

def tell (o : Observer σ) (kept : σ) : Event → σ
  | .invoke index operation codes arguments => o.invoke kept index operation codes arguments
  | .skip index operation => o.skip kept index operation
  | .unowned positions => o.unowned kept positions

/-- Keeps nothing. -/
def silent : Observer Unit where
  invoke _ _ _ _ _ := ()
  skip _ _ _ := ()
  unowned _ _ := ()

/-- Keeps the lines of a trace. -/
def printing (p : Palette) (v : Verbosity) : Observer (List String) where
  invoke lines index operation codes arguments :=
    lines ++ (Trace.line? p v (.invoke index operation codes arguments)).toList
  skip lines index operation := lines ++ (Trace.line? p v (.skip index operation)).toList
  unowned lines positions := lines ++ (Trace.line? p v (.unowned positions)).toList

end Observer

/-- How far a run has come. -/
structure Progress (σ : Type) where
  /-- What the observer keeps. -/
  kept : σ
  /-- The calls so far. -/
  calls : List Call := []
  stats : Stats := ⟨0, 0⟩

namespace Executor

variable {σ : Type}

/-- Looks at one operation. A call is counted when it comes back; the text is that of a callback
that breaks off. -/
def visit (x : Executor) (o : Observer σ) (w : Progress σ) (index : Nat) (operation : Code)
    (codes : List Code) : Progress σ × Option String :=
  if x.operations.contains operation then
    let arguments := x.resolve codes
    let w := { w with kept := o.invoke w.kept index operation codes arguments }
    match x.operations.get? operation with
    | some callback =>
      let w := { w with calls := w.calls ++ [⟨operation, callback, arguments⟩] }
      match callback.failure with
      | some text => (w, some text)
      | none => ({ w with stats.invoked := w.stats.invoked + 1 }, none)
    | none => (w, none)
  else
    ({ w with
      kept := o.skip w.kept index operation
      stats.skipped := w.stats.skipped + 1 }, none)

/-- Looks at operations with their argument codes from `index` on, until a callback breaks off. -/
def visitAll (x : Executor) (o : Observer σ) (w : Progress σ) (index : Nat) :
    List (Code × List Code) → Progress σ × Option String
  | [] => (w, none)
  | (operation, codes) :: rest =>
    match x.visit o w index operation codes with
    | (w, some text) => (w, some text)
    | (w, none) => visitAll x o w (index + 1) rest

/-- Runs records with an observer. -/
def watchRecords (x : Executor) (o : Observer σ) (kept : σ) (records : List Record) :
    Progress σ × Option String :=
  x.visitAll o { kept } 0 (records.map Record.content)

/-- Runs a sequence as it is, with an observer. -/
def watchSequence (x : Executor) (o : Observer σ) (kept : σ) (u : Sequence) :
    Progress σ × Option String :=
  let n := leading x.space.isOperation u
  let kept := if 0 < n then o.unowned kept ⟨0, n⟩ else kept
  x.visitAll o { kept } 0 ((segments x.space.isOperation u).map fun s =>
    (s.operation, slice u.toArray s.arguments))

end Executor

end Opscript
