import Opscript.Config.Basic
import Opscript.Json.Read

/-!
# Configuration documents

A configuration is written as a JSON object. Reading it fails only if the text is no JSON. A field
that is malformed, or has an unknown key, leaves the configuration as it was and adds an issue; the
fields are looked at in document order, and so are the entries in them. The document gives
operations by name, and `bind` gives each name its callback.
-/

namespace Opscript.Config

/-- Gives a name its callback. The first argument are the names that it was asked for before, on
which the answer may depend. -/
abbrev Binding := List String → String → Option Callback

/-- The fields of a document. -/
inductive Key where
  | sequence
  | operations
  | values
  | labels
  | maxSequenceLength
  | ignoreWarnings
  | strictMode
  | argumentResolution
  deriving DecidableEq, Repr

namespace Key

def all : List Key :=
  [sequence, operations, values, labels, maxSequenceLength, ignoreWarnings, strictMode,
    argumentResolution]

def name : Key → String
  | sequence => "sequence"
  | operations => "operations"
  | values => "values"
  | labels => "labels"
  | maxSequenceLength => "maxSequenceLength"
  | ignoreWarnings => "ignoreWarnings"
  | strictMode => "strictMode"
  | argumentResolution => "argumentResolution"

def ofName? (s : String) : Option Key := all.find? fun k => k.name == s

/-- What the value of a field must be, in a message. -/
def expected : Key → String
  | sequence => "a string"
  | operations | values | labels => "an object"
  | maxSequenceLength => "a positive integer"
  | ignoreWarnings | strictMode => "a boolean"
  | argumentResolution => "\"presence\" or \"truthiness\""

end Key

/-- A configuration that is being read, and the names that were looked up for it so far. -/
structure Loading where
  config : Config := {}
  asked : List String := []

namespace Loading

instance : Inhabited Loading := ⟨{}⟩

def addIssue (l : Loading) (v : Violation) : Loading :=
  { l with config.issues := l.config.issues ++ [v] }

def malformed (key : Key) (got : Json) : Violation where
  kind := .invalidConfigField
  detail := some ("`" ++ key.name ++ "` must be " ++ key.expected ++ ", got " ++ got.describe)

def missingCallback (symbol : String) (hint : String) : Violation where
  kind := .missingCallback
  detail := some (Text.spell symbol)
  hint := some hint

/-- Adds an operation, given by the name of its callback. -/
def operation (bind : Binding) (l : Loading) (entry : String × Json) : Loading :=
  match entry.2 with
  | .string name =>
    let answer := bind l.asked name
    let l := { l with asked := l.asked ++ [name] }
    match answer with
    | some callback =>
      { l with config.operations := l.config.operations ++ [(.text entry.1, callback)] }
    | none => l.addIssue (missingCallback entry.1 ("no callback named `" ++ name ++ "`"))
  | v =>
    l.addIssue (missingCallback entry.1 ("expected an operation name, got " ++ v.describe))

/-- The resolution that a value stands for: its name, or an object that holds the name only. -/
def resolution? : Json → Option Resolution
  | .string name => Resolution.ofName? name
  | .object [(name, .null)] => Resolution.ofName? name
  | _ => none

/-- Takes a number as the maximum length. -/
def maxLength (l : Loading) (v : Json) (n : Json.Number) : Loading :=
  match n.int64? with
  | none => l.addIssue (malformed .maxSequenceLength v)
  | some i =>
    match Limit.check i.toInt with
    | .ok limit => { l with config.maxLength := some limit.val }
    | .error violation => l.addIssue violation

/-- Takes the value of a known field. -/
def known (bind : Binding) (l : Loading) (key : Key) (v : Json) : Loading :=
  match key, v with
  | .sequence, .string s => { l with config.sequence := some (Sequence.ofString s) }
  | .operations, .object entries => entries.foldl (operation bind) l
  | .values, .object entries =>
    let values := entries.map fun e => (Symbol.text e.1, Value.ofJson e.2)
    { l with config.values := l.config.values ++ values }
  | .labels, .object entries =>
    let labels := entries.map fun e => (e.1, Symbol.ofJson e.2)
    { l with config.labels := l.config.labels ++ labels }
  | .maxSequenceLength, .number n => l.maxLength v n
  | .ignoreWarnings, .bool b => { l with config.ignoreWarnings := b }
  | .strictMode, .bool b => { l with config.strictMode := b }
  | .argumentResolution, v =>
    match resolution? v with
    | some r => { l with config.resolution := r }
    | none => l.addIssue (malformed .argumentResolution v)
  | key, v => l.addIssue (malformed key v)

def unknownKey (name : String) : Violation where
  kind := .unknownConfigKey
  detail := some name

/-- Takes a field. -/
def field (bind : Binding) (l : Loading) (f : String × Json) : Loading :=
  match Key.ofName? f.1 with
  | some key => l.known bind key f.2
  | none => l.addIssue (unknownKey f.1)

def notAnObject (v : Json) : Violation where
  kind := .invalidConfigField
  detail := some ("config must be an object, got " ++ v.describe)

/-- The configuration of a document. -/
def ofJson (bind : Binding) : Json → Loading
  | .object fields => fields.foldl (field bind) {}
  | v => ({} : Loading).addIssue (notAnObject v)

end Loading

/-- Why a text is no configuration. -/
def faultMessage (e : Json.ReadError) : String := "config is not valid JSON: " ++ e.message

/-- Reads a configuration, with the same callback for a name each time. -/
def read (bind : String → Option Callback) (text : String) : Except Json.ReadError Loading :=
  (Json.read text).map (Loading.ofJson fun _ => bind)

end Opscript.Config
