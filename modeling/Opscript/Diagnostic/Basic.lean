import Opscript.Diagnostic.Kind
import Opscript.Sequence

/-!
# Diagnostics

A diagnostic is a condition that was reported, with its severity and its final message. Its line is
the whole of it on one line.
-/

namespace Opscript

inductive Severity where
  | error
  | warning
  deriving DecidableEq, Repr

def Severity.name : Severity → String
  | error => "error"
  | warning => "warning"

structure Diagnostic where
  kind : Diagnostic.Kind
  severity : Severity
  message : String
  /-- The positions of the sequence that it is about. -/
  span : Option Span
  hints : List String
  deriving DecidableEq, Repr

namespace Diagnostic

def category (d : Diagnostic) : Category := d.kind.category

def isError (d : Diagnostic) : Bool := d.severity == .error

def isWarning (d : Diagnostic) : Bool := d.severity == .warning

/-! ## Making a diagnostic -/

/-- A diagnostic of which nothing is known but its kind. -/
def start (kind : Kind) : Diagnostic := ⟨kind, .error, kind.fallback, none, kind.hint?.toList⟩

def withSeverity (d : Diagnostic) (severity : Severity) : Diagnostic :=
  { d with severity := severity }

/-- The message takes in the detail, as the kind has it. -/
def withDetail (d : Diagnostic) (detail : String) : Diagnostic :=
  { d with message := d.kind.message (some detail) }

def withSpan (d : Diagnostic) (span : Span) : Diagnostic := { d with span := some span }

def withHint (d : Diagnostic) (hint : String) : Diagnostic := { d with hints := d.hints ++ [hint] }

/-- A diagnostic with what there is to say, one after the other. -/
def make (kind : Kind) (severity : Severity) (detail : Option String) (span : Option Span)
    (hints : List String) : Diagnostic :=
  let d := (start kind).withSeverity severity
  let d := detail.elim d d.withDetail
  let d := span.elim d d.withSpan
  hints.foldl withHint d

theorem foldl_withHint (d : Diagnostic) (hints : List String) :
    hints.foldl withHint d = { d with hints := d.hints ++ hints } := by
  induction hints generalizing d with
  | nil => rw [List.append_nil]; rfl
  | cons hint rest ih =>
    rw [List.foldl_cons, ih, withHint, List.append_assoc, List.singleton_append]

/-- The hint of the kind comes before the others. -/
theorem make_eq (kind : Kind) (severity : Severity) (detail : Option String) (span : Option Span)
    (hints : List String) :
    make kind severity detail span hints =
      ⟨kind, severity, kind.message detail, span, kind.hint?.toList ++ hints⟩ := by
  unfold make
  rw [foldl_withHint]
  cases detail <;> cases span <;> rfl

/-! ## In print -/

def spanText : Option Span → String
  | none => ""
  | some s => " at " ++ s.text

def hintText (hint : String) : String := " (hint: " ++ hint ++ ")"

/-- The diagnostic on one line. -/
def line (d : Diagnostic) : String :=
  d.severity.name ++ "[" ++ d.category.name ++ "]: " ++ d.message ++ spanText d.span ++
    String.join (d.hints.map hintText)

end Diagnostic

end Opscript
