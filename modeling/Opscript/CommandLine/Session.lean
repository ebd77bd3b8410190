import Opscript.CommandLine.Options
import Opscript.Config.Document
import Opscript.Diagnostic.Print
import Opscript.Sequencer.Basic

/-!
# Sessions

A session is a sequencer built from a configuration and the options of the command line, with the
texts that its diagnostics are about. What was reported while it was built is about the sequence of
the configuration; what is reported later is about the sequence that is worked on.
-/

namespace Opscript.CommandLine

structure Session where
  sequencer : Sequencer
  /-- The sequence from the command line. -/
  sequence : Option Sequence
  /-- The text of the sequence that is worked on. -/
  source : String
  /-- The text of the sequence of the configuration. -/
  configSource : String
  configPath : String
  /-- How many diagnostics were reported while the session was built. -/
  setupCount : Nat

namespace Session

/-- A configuration under options: they switch flags on and replace the maximum length. -/
def override (c : Config) (o : Options) : Config :=
  { c with
    strictMode := c.strictMode || o.strict
    ignoreWarnings := c.ignoreWarnings || o.ignoreWarnings
    maxLength := o.maxLength <|> c.maxLength }

def textOf (s : Option Sequence) : String := (s.map Sequence.text).getD ""

def build (c : Config) (o : Options) : Session :=
  let c := override c o
  let sequence := o.sequence.map Sequence.ofString
  let sequencer := Sequencer.ofConfig c
  { sequencer
    sequence
    source := textOf (sequence <|> c.sequence)
    configSource := textOf c.sequence
    configPath := o.config
    setupCount := sequencer.diagnostics.length }

/-- The print of diagnostics, if there are any. -/
def block (draw : Diagnostic.Draw) (source : Diagnostic.Source) : List Diagnostic → List String
  | [] => []
  | ds => [Diagnostic.printAll draw (some source) ds]

/-- Takes the diagnostics out and prints them. -/
def render (draw : Diagnostic.Draw) (x : Session) : (String × List Diagnostic) × Session :=
  let (ds, q) := x.sequencer.takeDiagnostics
  let setup := ds.take x.setupCount
  let later := ds.drop x.setupCount
  let blocks := block draw ⟨x.configSource, some x.configPath⟩ setup ++
    block draw ⟨x.source, some "<sequence>"⟩ later
  ((String.intercalate "\n" blocks, setup ++ later), { x with sequencer := q, setupCount := 0 })

end Session

end Opscript.CommandLine
