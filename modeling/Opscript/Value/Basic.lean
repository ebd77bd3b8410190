import Opscript.Json.Basic

/-!
# Values

A value is what a callback receives for an argument code. `null` is a value like any other: it
marks a code that was seen as an argument before anything was registered for it. Equality compares
floats as numbers, so a value that holds a NaN differs from itself.
-/

namespace Opscript

inductive Value where
  | null
  | bool (b : Bool)
  | int (n : Int64)
  | float (x : Float)
  | string (s : String)
  | array (items : List Value)
  | object (fields : List (String × Value))

namespace Value

instance : Inhabited Value := ⟨.null⟩

/-- Whether a value counts as present where emptiness counts as absence. -/
def isTruthy : Value → Bool
  | null => false
  | bool b => b
  | int n => n != 0
  | float x => x != 0 && !x.isNaN
  | string s => !s.isEmpty
  | array _ => true
  | object _ => true

def int? : Value → Option Int64
  | int n => some n
  | _ => none

def string? : Value → Option String
  | string s => some s
  | _ => none

mutual

/-- Equality of values, with floats compared as numbers. -/
def same : Value → Value → Bool
  | null, null => true
  | bool a, bool b => a == b
  | int a, int b => a == b
  | float a, float b => a == b
  | string a, string b => a == b
  | array a, array b => sameItems a b
  | object a, object b => sameFields a b
  | _, _ => false

def sameItems : List Value → List Value → Bool
  | [], [] => true
  | v :: vs, w :: ws => same v w && sameItems vs ws
  | _, _ => false

def sameFields : List (String × Value) → List (String × Value) → Bool
  | [], [] => true
  | (j, v) :: vs, (k, w) :: ws => j == k && same v w && sameFields vs ws
  | _, _ => false

end

instance : BEq Value := ⟨same⟩

mutual

/-- Numbers that are no signed 64-bit integer become floats. -/
def ofJson : Json → Value
  | .null => null
  | .bool b => bool b
  | .number n =>
    match n.int64? with
    | some i => int i
    | none => float n.toFloat
  | .string s => string s
  | .array items => array (ofJsonItems items)
  | .object fields => object (ofJsonFields fields)

def ofJsonItems : List Json → List Value
  | [] => []
  | v :: vs => ofJson v :: ofJsonItems vs

def ofJsonFields : List (String × Json) → List (String × Value)
  | [] => []
  | (k, v) :: vs => (k, ofJson v) :: ofJsonFields vs

end

mutual

/-- The document of a value. -/
def toJson : Value → Json
  | null => .null
  | bool b => .bool b
  | int n => .number (.int n.toInt)
  | float x => .number (.float x)
  | string s => .string s
  | array items => .array (toJsonItems items)
  | object fields => .object (toJsonFields fields)

def toJsonItems : List Value → List Json
  | [] => []
  | v :: vs => toJson v :: toJsonItems vs

def toJsonFields : List (String × Value) → List (String × Json)
  | [] => []
  | (k, v) :: vs => (k, toJson v) :: toJsonFields vs

end

end Value

end Opscript
