import Opscript.Diagnostic.Basic
import Opscript.Diagnostic.Excerpt

/-!
# Printing diagnostics

With a source, a diagnostic that has a span is printed as an excerpt with its hints below;
otherwise it is printed as its line. `printAll` takes the way in which an excerpt is drawn as an
argument; `render` draws it as `Excerpt` does.
-/

namespace Opscript.Diagnostic

/-- A text that diagnostics are about, with the name under which it is shown. -/
structure Source where
  text : String
  path : Option String
  deriving DecidableEq, Repr

/-- How the message of a diagnostic is drawn over a range of a source. -/
abbrev Draw := Diagnostic → Source → ByteRange → String

def title (d : Diagnostic) : String := d.category.name ++ ": " ++ d.message

/-- The terminal's number for the colour of a severity. -/
def colorOf : Severity → String
  | .error => "91"
  | .warning => "33"

/-- Draws an excerpt of the source. -/
def excerpt (colored : Bool) : Draw := fun d source range =>
  Excerpt.Content.render colored {
    level := d.severity.name
    color := colorOf d.severity
    title := d.title
    label := d.message
    path := source.path
    source := source.text.toList
    range := range }

def help (hint : String) : String := "\n  = help: " ++ hint

/-- A diagnostic in print. -/
def print (draw : Draw) (source : Option Source) (d : Diagnostic) : String :=
  match source, d.span with
  | some source, some span =>
    draw d source (byteRange source.text.toList span) ++ String.join (d.hints.map help)
  | _, _ => d.line

/-- Diagnostics in print, one behind the other. -/
def printAll (draw : Draw) (source : Option Source) (ds : List Diagnostic) : String :=
  String.intercalate "\n" (ds.map (print draw source))

def render (colored : Bool) (source : Option Source) (ds : List Diagnostic) : String :=
  printAll (excerpt colored) source ds

/-- Whether any of them is an error. -/
def anyError (ds : List Diagnostic) : Bool := ds.any isError

end Opscript.Diagnostic
