import Opscript.Diagnostic.Kind
import Opscript.Model
import Opscript.Symbol

/-!
# Violations

The checks only detect. Each gives back what it checked in a narrower type, or a violation; what
follows from a violation is the matter of a policy.
-/

namespace Opscript

/-- A detected condition that has not been reported. -/
structure Violation where
  kind : Diagnostic.Kind
  detail : Option String := none
  span : Option Span := none
  hint : Option String := none
  deriving DecidableEq, Repr

namespace Violation

def message (v : Violation) : String := v.kind.message v.detail

def withHint (hint : String) (v : Violation) : Violation := { v with hint := some hint }

/-- What a check found, unless it was passed. -/
def of? {α : Type} : Except Violation α → Option Violation
  | .ok _ => none
  | .error v => some v

instance : Inspect Violation where
  inspect v := Inspect.record "Violation"
    [("kind", v.kind.name), ("detail", inspect v.detail), ("span", inspect v.span),
      ("hint", inspect v.hint)]

end Violation

/-- A maximum length. -/
structure Limit where
  val : Nat
  pos : 0 < val
  deriving Repr

theorem Limit.ext {a b : Limit} (h : a.val = b.val) : a = b := by
  cases a; cases b; congr

instance : DecidableEq Limit := fun _ _ => decidable_of_iff _ ⟨Limit.ext, congrArg Limit.val⟩

/-- The code of a symbol: a number in range, or a text of exactly one unit. -/
def Symbol.code (s : Symbol) : Except Violation Code :=
  match s.shape with
  | .invalid => .error { kind := .invalidSymbolType, detail := some ("got " ++ s.display) }
  | .number =>
    match s.number? with
    | none => .error { kind := .invalidSymbolType }
    | some n =>
      match Code.ofInt? n with
      | some c => .ok c
      | none => .error { kind := .codeOutOfRange, detail := some (toString n) }
  | .character =>
    if s.length? = some 1 then
      match s.number?.bind Code.ofInt? with
      | some c => .ok c
      | none => .error { kind := .symbolNotSingleChar }
    else .error { kind := .symbolNotSingleChar, detail := some s.display }

/-- The codes of symbols that are arguments from position `index` on. The first fault wins. -/
def Symbol.codesFrom (index : Nat) : List Symbol → Except Violation (List Code)
  | [] => .ok []
  | s :: rest =>
    match s.code with
    | .error v => .error (v.withHint ("argument " ++ toString index))
    | .ok c => (codesFrom (index + 1) rest).map (c :: ·)

def Symbol.codes (ss : List Symbol) : Except Violation (List Code) := codesFrom 0 ss

/-- A limit is a positive number. -/
def Limit.check (n : Int) : Except Violation Limit :=
  if h : 0 < n then .ok ⟨n.toNat, by omega⟩
  else .error { kind := .invalidMaxLength, detail := some ("got " ++ toString n) }

/-- A length is within the limit, if there is one. The span covers what is too much. -/
def checkLength (length : Nat) : Option Limit → Except Violation Unit
  | none => .ok ()
  | some limit =>
    if limit.val < length then
      .error {
        kind := .sequenceTooLong
        detail := some ("length " ++ toString length ++ ", maximum " ++ toString limit.val)
        span := some ⟨limit.val, length⟩ }
    else .ok ()

theorem checkLength_eq_ok_iff {n : Nat} {limit : Option Limit} :
    checkLength n limit = .ok () ↔ ∀ l, limit = some l → n ≤ l.val := by
  cases limit with
  | none => simp [checkLength]
  | some l =>
    by_cases h : l.val < n
    · simp [checkLength, h]
    · simpa [checkLength, h] using Nat.le_of_not_lt h

/-- A length is not zero. -/
def checkNonempty (length : Nat) : Except Violation Unit :=
  if length = 0 then .error { kind := .emptySequence } else .ok ()

/-- A record is there. -/
def Model.checkIndex (m : Model) (id : RecordId) : Except Violation Nat :=
  match m.index? id with
  | some i => .ok i
  | none => .error { kind := .recordNotFound, detail := some id.text }

end Opscript
