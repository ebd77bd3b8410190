import Opscript.Record
import Opscript.Resolution
import Opscript.Segment

/-!
# Execution

An executor looks at one operation after the other. If the operation has a callback, its argument
codes are resolved and the callback is called; if not, the operation is skipped. A run is the list
of these steps, and all that can be seen of it is read off the list: the events for an observer,
the calls, the statistics. `Run.made` cuts the run off behind the first call that fails.

Records run with the argument codes they hold. A sequence is cut into segments on the fly, and its
leading codes are an event of their own.
-/

namespace Opscript

/-- A callback called with its arguments. -/
structure Call where
  operation : Code
  callback : Callback
  arguments : List (Option Value)

/-- What an observer of a run is told. -/
inductive Event where
  /-- An operation is about to be called with resolved arguments. -/
  | invoke (index : Nat) (operation : Code) (codes : List Code) (arguments : List (Option Value))
  /-- An operation has no callback. -/
  | skip (index : Nat) (operation : Code)
  /-- Leading codes of a sequence belong to no operation. -/
  | unowned (positions : Span)

/-- What happened to one operation. -/
inductive Step where
  | invoke (index : Nat) (codes : List Code) (call : Call)
  | skip (index : Nat) (operation : Code)

namespace Step

def event : Step → Event
  | invoke index codes call => .invoke index call.operation codes call.arguments
  | skip index operation => .skip index operation

def call? : Step → Option Call
  | invoke _ _ call => some call
  | skip _ _ => none

def isSkip : Step → Bool
  | invoke _ _ _ => false
  | skip _ _ => true

/-- The text with which the step breaks the run off. -/
def failure? (s : Step) : Option String := s.call?.bind fun c => c.callback.failure

end Step

structure Stats where
  invoked : Nat
  skipped : Nat
  deriving DecidableEq, Repr

/-- The steps of an execution, and the number of leading codes before them. -/
structure Run where
  leading : Nat
  steps : List Step

namespace Run

def empty : Run := ⟨0, []⟩

def events (r : Run) : List Event :=
  (if r.leading = 0 then [] else [.unowned ⟨0, r.leading⟩]) ++ r.steps.map Step.event

/-- The calls of the run, in order. -/
def calls (r : Run) : List Call := r.steps.filterMap Step.call?

def stats (r : Run) : Stats := ⟨r.calls.length, r.steps.countP Step.isSkip⟩

/-- The steps up to and with the first call that fails, and its text. -/
def cut : List Step → List Step × Option String
  | [] => ([], none)
  | s :: rest =>
    match s.failure? with
    | some text => ([s], some text)
    | none => (s :: (cut rest).1, (cut rest).2)

/-- The part of the run that comes about. -/
def made (r : Run) : Run := { r with steps := (cut r.steps).1 }

/-- The text of the call that breaks the run off. -/
def failure? (r : Run) : Option String := (cut r.steps).2

/-- A run in which no call fails comes about in full. -/
theorem made_of_no_failure {r : Run} (h : r.failure? = none) : r.made = r := by
  have key : ∀ steps, (cut steps).2 = none → (cut steps).1 = steps := by
    intro steps
    induction steps with
    | nil => intro _; rfl
    | cons s rest ih =>
      intro h
      rw [cut] at h ⊢
      split at h
      · simp at h
      · simp_all
  rw [made, key r.steps h]

end Run

structure Executor where
  operations : Operations
  values : Values
  resolution : Resolution

namespace Executor

def resolve (x : Executor) (codes : List Code) : List (Option Value) :=
  codes.map (x.resolution.resolve x.values)

def step (x : Executor) (index : Nat) (operation : Code) (codes : List Code) : Step :=
  match x.operations.get? operation with
  | some callback => .invoke index codes ⟨operation, callback, x.resolve codes⟩
  | none => .skip index operation

/-- Runs records with the argument codes that they hold. -/
def runRecords (x : Executor) (records : List Record) : Run :=
  ⟨0, records.mapIdx fun i r => x.step i r.operation r.arguments⟩

def space (x : Executor) : CodeSpace := classify x.operations x.values

/-- Runs a sequence as it is. No registry changes, so unknown codes stay missing. -/
def runSequence (x : Executor) (u : Sequence) : Run where
  leading := Opscript.leading x.space.isOperation u
  steps := (segments x.space.isOperation u).mapIdx fun i s =>
    x.step i s.operation (slice u.toArray s.arguments)

end Executor

end Opscript
