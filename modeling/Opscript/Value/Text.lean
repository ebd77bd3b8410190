import Opscript.Inspect
import Opscript.Json.Writer
import Opscript.Palette
import Opscript.Value.Basic

/-!
# Texts of values

`format` is the JSON text of a value in a palette: strings green, keys blue, `null` and structure
dim, each sign by itself. `written` is the text that a writer makes of the pieces of a value.
`inspect` shows how the value is built.
-/

namespace Opscript.Value

mutual

/-- The text of a value on one line. -/
def format (p : Palette) : Value → String
  | null => p.dim "null"
  | bool true => "true"
  | bool false => "false"
  | int n => toString n.toInt
  | float x => Json.floatText x
  | string s => p.green (Text.quote s)
  | array items =>
    p.dim "[" ++ String.intercalate (p.dim ",") (formatItems p items) ++ p.dim "]"
  | object fields =>
    p.dim "\x7b" ++ String.intercalate (p.dim ",") (formatFields p fields) ++ p.dim "\x7d"

def formatItems (p : Palette) : List Value → List String
  | [] => []
  | v :: vs => format p v :: formatItems p vs

def formatFields (p : Palette) : List (String × Value) → List String
  | [] => []
  | (k, v) :: vs => (p.blue (Text.quote k) ++ p.dim ":" ++ format p v) :: formatFields p vs

end

/-- An argument of a callback; a dash stands for one that is missing. -/
def formatArgument (p : Palette) : Option Value → String
  | some v => v.format p
  | none => p.dim "-"

section

variable {σ : Type} (sink : Json.Sink σ)

mutual

/-- Hands a value to a sink. -/
def pour : Value → σ → σ
  | null, kept => sink.null kept
  | bool b, kept => sink.bool b kept
  | int n, kept => sink.int n kept
  | float x, kept => sink.float x kept
  | string s, kept => sink.string s kept
  | array items, kept => sink.endArray (pourItems items (sink.beginArray items.length kept))
  | object fields, kept =>
    sink.endObject (pourFields fields (sink.beginObject fields.length kept))

def pourItems : List Value → σ → σ
  | [], kept => kept
  | v :: vs, kept => pourItems vs (pour v (sink.item kept))

def pourFields : List (String × Value) → σ → σ
  | [], kept => kept
  | (k, v) :: vs, kept => pourFields vs (pour v (sink.key k kept))

end

end

/-- The text of a value, written piece by piece. -/
def written (v : Value) : String := (v.pour (Json.Writer.compact Json.floatText) {}).text

/-- A float with the names of those that are not finite. -/
def inspectFloat (x : Float) : String :=
  if x.isNaN then "NaN"
  else if x.isInf then (if x < 0 then "-inf" else "inf")
  else Decimal.Layout.inspection.text x

mutual

def inspectValue : Value → String
  | null => "Null"
  | bool b => Inspect.call "Bool" [inspect b]
  | int n => Inspect.call "Int" [toString n.toInt]
  | float x => Inspect.call "Float" [inspectFloat x]
  | string s => Inspect.call "String" [inspect s]
  | array items => Inspect.call "Array" [Inspect.list (inspectItems items)]
  | object fields => Inspect.call "Object" [Inspect.list (inspectFields fields)]

def inspectItems : List Value → List String
  | [] => []
  | v :: vs => inspectValue v :: inspectItems vs

def inspectFields : List (String × Value) → List String
  | [] => []
  | (k, v) :: vs => ("(" ++ inspect k ++ ", " ++ inspectValue v ++ ")") :: inspectFields vs

end

instance : Inspect Value := ⟨inspectValue⟩

end Opscript.Value
