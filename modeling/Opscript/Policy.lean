import Opscript.Diagnostic.Basic
import Opscript.Log
import Opscript.Violation

/-!
# Policies

A policy turns a violation into a report. A lenient policy warns and lets the caller go on, and can
be told to keep its warnings to itself; a strict one makes every violation an error that stops the
caller.
-/

namespace Opscript

inductive Mode where
  | lenient
  | strict
  deriving DecidableEq, Repr

structure Policy where
  mode : Mode := .lenient
  /-- Whether warnings are dropped. -/
  ignoreWarnings : Bool := false
  deriving DecidableEq, Repr

instance : Inhabited Policy := ⟨{}⟩

/-- What comes of a violation. -/
structure Report where
  /-- The diagnostic to be collected, if any. -/
  diagnostic : Option Diagnostic
  event : Log.Event
  /-- Whether the caller should still act. -/
  proceed : Bool
  deriving DecidableEq, Repr

namespace Policy

def isStrict (p : Policy) : Bool := p.mode == .strict

def severity (p : Policy) : Severity :=
  match p.mode with
  | .lenient => .warning
  | .strict => .error

/-- Whether a violation is noted in the log only. -/
def suppresses (p : Policy) : Bool := p.severity == .warning && p.ignoreWarnings

def level (p : Policy) : Log.Level :=
  match p.severity with
  | .warning => .warn
  | .error => .error

def event (level : Log.Level) (message : String) (v : Violation) : Log.Event :=
  ⟨level, .policy, message, [("kind", v.kind.name), ("category", v.kind.category.name)]⟩

def diagnostic (p : Policy) (v : Violation) : Diagnostic :=
  .make v.kind p.severity v.detail v.span v.hint.toList

theorem diagnostic_eq (p : Policy) (v : Violation) :
    p.diagnostic v =
      ⟨v.kind, p.severity, v.message, v.span, v.kind.hint?.toList ++ v.hint.toList⟩ :=
  Diagnostic.make_eq ..

def report (p : Policy) (v : Violation) : Report :=
  if p.suppresses then
    ⟨none, event .debug ("suppressed: " ++ v.message) v, true⟩
  else
    ⟨some (p.diagnostic v), event p.level v.message v, !p.isStrict⟩

theorem proceed_report (p : Policy) (v : Violation) : (p.report v).proceed = !p.isStrict := by
  obtain ⟨mode, ignore⟩ := p
  cases mode <;> cases ignore <;> rfl

theorem diagnostic_report (p : Policy) (v : Violation) :
    (p.report v).diagnostic = if p.suppresses then none else some (p.diagnostic v) := by
  rw [report]
  split <;> rfl

theorem suppresses_eq (p : Policy) : p.suppresses = (!p.isStrict && p.ignoreWarnings) := by
  obtain ⟨mode, ignore⟩ := p
  cases mode <;> rfl

instance : Inspect Policy where
  inspect p := Inspect.record "Policy"
    [("mode", match p.mode with | .lenient => "Lenient" | .strict => "Strict"),
      ("ignore_warnings", inspect p.ignoreWarnings)]

end Policy

end Opscript
