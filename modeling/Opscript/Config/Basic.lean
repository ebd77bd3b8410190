import Opscript.Resolution
import Opscript.Violation

/-!
# Configurations

What a sequencer is built from. The issues are what was wrong with the document it was read from;
they are reported once there is a sequencer to report to.
-/

namespace Opscript

structure Config where
  sequence : Option Sequence := none
  operations : List (Symbol × Callback) := []
  values : List (Symbol × Value) := []
  labels : List (String × Symbol) := []
  /-- The maximum length, which is not checked yet. -/
  maxLength : Option Nat := none
  ignoreWarnings : Bool := false
  strictMode : Bool := false
  resolution : Resolution := .presence
  issues : List Violation := []

namespace Config

instance : Inhabited Config := ⟨{}⟩

def inspectSequence : Option Sequence → String
  | none => "None"
  | some s => Inspect.call "Some" [s.inspect]

instance : Inspect Config where
  inspect c := Inspect.record "Config"
    [("sequence", inspectSequence c.sequence),
      ("operations", inspect (c.operations.map Prod.fst)),
      ("values", inspect c.values),
      ("labels", inspect c.labels),
      ("max_sequence_length", inspect c.maxLength),
      ("ignore_warnings", inspect c.ignoreWarnings),
      ("strict_mode", inspect c.strictMode),
      ("argument_resolution", inspect c.resolution),
      ("issues", inspect c.issues)]

end Config

end Opscript
