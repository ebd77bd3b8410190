import Opscript.Decimal.Layout
import Opscript.Text.Quoted

/-!
# JSON documents

A document tree keeps the fields of an object in order. Integers between `-2^63` and `2^64 - 1`
are exact; every other number is a float. `compact` is the text without any blanks; a float that is
not finite has none and is written as `null`.
-/

namespace Opscript

inductive Json.Number where
  | int (n : Int)
  | float (x : Float)

inductive Json where
  | null
  | bool (b : Bool)
  | number (n : Json.Number)
  | string (s : String)
  | array (items : List Json)
  | object (fields : List (String × Json))

namespace Json

instance : Inhabited Json := ⟨.null⟩

namespace Number

/-- The number as a signed 64-bit integer, if it is one. -/
def int64? : Number → Option Int64
  | int n =>
    if Int64.minValue.toInt ≤ n ∧ n ≤ Int64.maxValue.toInt then some (Int64.ofInt n) else none
  | float _ => none

def toFloat : Number → Float
  | int n => Float.ofInt n
  | float x => x

end Number

/-- The text of a float. -/
def floatText (x : Float) : String :=
  if x.isFinite then Decimal.Layout.data.text x else "null"

def Number.text : Number → String
  | int n => toString n
  | float x => floatText x

mutual

/-- The text without blanks. -/
def compact : Json → String
  | null => "null"
  | bool true => "true"
  | bool false => "false"
  | number n => n.text
  | string s => Text.quote s
  | array items => "[" ++ String.intercalate "," (compactItems items) ++ "]"
  | object fields => "\x7b" ++ String.intercalate "," (compactFields fields) ++ "\x7d"

def compactItems : List Json → List String
  | [] => []
  | v :: rest => compact v :: compactItems rest

def compactFields : List (String × Json) → List String
  | [] => []
  | (k, v) :: rest => (Text.quote k ++ ":" ++ compact v) :: compactFields rest

end

/-- What a document is, in a message. -/
def describe : Json → String
  | null => "null"
  | bool _ => "a boolean"
  | number _ => "a number"
  | string _ => "a string"
  | array _ => "an array"
  | object _ => "an object"

end Json

end Opscript
