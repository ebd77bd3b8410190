import Opscript.Inspect
import Opscript.Value.Text

/-!
# Registries

Operations and values share the codes; only the registries tell them apart. A callback is known by
its name, and one with a `failure` breaks off the execution that calls it. `CodeSpace` says what
each code means, and `classify` reads it off the registries: an operation wins over a value under
the same code.
-/

namespace Opscript

/-- What is called for an operation. -/
structure Callback where
  name : String
  /-- The text with which a call breaks off, if it does. -/
  failure : Option String := none
  deriving DecidableEq, Repr

abbrev Operations := Ordered Code Callback
abbrev Values := Ordered Code Value
abbrev Labels := Ordered String Code

/-- The first code whose value equals `v`. -/
def Values.codeOf? (m : Values) (v : Value) : Option Code := m.keyOf? (· == v)

/-- The first label that points at `c`. -/
def Labels.labelOf? (m : Labels) (c : Code) : Option String := m.keyOf? (· == c)

/-- The codes of the operations, as a set. -/
def Operations.inspect (m : Operations) : String := Inspect.set (m.keys.map Inspect.inspect)

def Values.inspect (m : Values) : String :=
  Inspect.record "ValueRegistry" [("values", Inspect.inspect m)]

def Labels.inspect (m : Labels) : String :=
  Inspect.record "LabelRegistry" [("labels", Inspect.inspect m)]

/-- What a code means. -/
inductive CodeClass where
  | operation
  | value
  | unknown
  deriving DecidableEq, Repr

/-- The meaning of every code. -/
abbrev CodeSpace := Code → CodeClass

namespace CodeSpace

def isOperation (s : CodeSpace) (c : Code) : Bool := s c == .operation

def isUnknown (s : CodeSpace) (c : Code) : Bool := s c == .unknown

@[simp] theorem isOperation_iff {s : CodeSpace} {c : Code} :
    s.isOperation c = true ↔ s c = .operation := by
  simp [isOperation]

@[simp] theorem isOperation_eq_false_iff {s : CodeSpace} {c : Code} :
    s.isOperation c = false ↔ s c ≠ .operation := by
  simp [isOperation]

end CodeSpace

/-- The code space of two registries. -/
def classify (operations : Operations) (values : Values) : CodeSpace := fun c =>
  if operations.contains c then .operation
  else if values.contains c then .value
  else .unknown

@[simp] theorem isOperation_classify (o : Operations) (v : Values) (c : Code) :
    (classify o v).isOperation c = o.contains c := by
  simp only [CodeSpace.isOperation, classify]
  cases o.contains c <;> cases v.contains c <;> rfl

@[simp] theorem isUnknown_classify (o : Operations) (v : Values) (c : Code) :
    (classify o v).isUnknown c = (!o.contains c && !v.contains c) := by
  simp only [CodeSpace.isUnknown, classify]
  cases o.contains c <;> cases v.contains c <;> rfl

/-- A code is unknown if it is neither an operation nor a value. -/
theorem classify_eq_unknown_iff {o : Operations} {values : Values} {c : Code} :
    classify o values c = .unknown ↔ o.contains c = false ∧ values.contains c = false := by
  have h := isUnknown_classify o values c
  rw [CodeSpace.isUnknown] at h
  rw [← beq_iff_eq, h, Bool.and_eq_true, Bool.not_eq_true', Bool.not_eq_true']

end Opscript
