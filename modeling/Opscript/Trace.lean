import Opscript.Execution
import Opscript.Listing

/-!
# Traces

A trace prints the events of a run, one line for each. A verbose trace also shows the code of every
argument, and the leading codes of a sequence.
-/

namespace Opscript

inductive Verbosity where
  | brief
  | verbose
  deriving DecidableEq, Repr

namespace Trace

/-- An argument with its code, if that is asked for. -/
def argument (p : Palette) (v : Verbosity) (c : Code) (x : Option Value) : String :=
  match v with
  | .brief => Value.formatArgument p x
  | .verbose => p.dim (c.glyph ++ "=") ++ Value.formatArgument p x

def arguments (p : Palette) (v : Verbosity) (codes : List Code) (xs : List (Option Value)) :
    String :=
  String.intercalate ", " (List.zipWith (argument p v) codes xs)

/-- The line of an event, if it has one. -/
def line? (p : Palette) (v : Verbosity) : Event → Option String
  | .invoke index operation codes xs =>
    some (p.dim (Listing.padLeft 3 (toString index)) ++ " " ++ p.blue operation.glyph ++
      "(" ++ arguments p v codes xs ++ ")")
  | .skip index operation =>
    some (p.dim (Listing.padLeft 3 (toString index) ++ " " ++ operation.glyph ++
      " skipped: no callback"))
  | .unowned positions =>
    match v with
    | .brief => none
    | .verbose =>
      some (p.dim ("  - dropped " ++ positions.text ++ " before first operation"))

def lines (p : Palette) (v : Verbosity) (events : List Event) : List String :=
  events.filterMap (line? p v)

/-- Lines with a line break behind each. -/
def join (lines : List String) : String :=
  let text := String.intercalate "\n" lines
  if text.isEmpty then "" else text ++ "\n"

def render (p : Palette) (v : Verbosity) (events : List Event) : String :=
  join (lines p v events)

end Trace

end Opscript
