/-!
# Log

The program notes what it does as events with a level, a topic and fields. `Event.text` is an event
by itself; `Event.line` is the line that a log shows, where signs that could drive the terminal are
spelled out. A filter lets events through by topic and level.
-/

namespace Opscript.Log

inductive Level where
  | error
  | warn
  | info
  | debug
  | trace
  deriving DecidableEq, Repr

namespace Level

def name : Level → String
  | error => "ERROR"
  | warn => "WARN"
  | info => "INFO"
  | debug => "DEBUG"
  | trace => "TRACE"

/-- Larger for what is less urgent. -/
def rank : Level → Nat
  | error => 1
  | warn => 2
  | info => 3
  | debug => 4
  | trace => 5

/-- The level of a name in any case. -/
def ofName? (s : String) : Option Level :=
  [error, warn, info, debug, trace].find? fun l => l.name == s.map Char.toUpper

end Level

/-- The part of the program that an event comes from. -/
inductive Topic where
  | policy
  | codec
  | exec
  | cli
  deriving DecidableEq, Repr

def Topic.name : Topic → String
  | policy => "charseq::policy"
  | codec => "charseq::codec"
  | exec => "charseq::exec"
  | cli => "charseq::cli"

structure Event where
  level : Level
  topic : Topic
  message : String
  fields : List (String × String)
  deriving DecidableEq, Repr

def field (f : String × String) : String := " " ++ f.1 ++ "=" ++ f.2

/-- A sign that could drive the terminal is spelled out. -/
def tame (c : Char) : List Char :=
  if c = '\x1b' then ['\\', 'x', '1', 'b']
  else if c = '\x07' then ['\\', 'x', '0', '7']
  else if c = '\x08' then ['\\', 'x', '0', '8']
  else if c = '\x0c' then ['\\', 'x', '0', 'c']
  else if c = '\x7f' then ['\\', 'x', '7', 'f']
  else if 0x80 ≤ c.toNat && c.toNat ≤ 0x9F then
    ['\\', 'u', '\x7b'] ++ Nat.toDigits 16 c.toNat ++ ['\x7d']
  else [c]

namespace Event

/-- The event with its message in brackets. -/
def text (e : Event) : String :=
  e.level.name ++ " " ++ e.topic.name ++ " [" ++ e.message ++ "]" ++
    String.join (e.fields.map field)

/-- The event as a line of a log. -/
def line (e : Event) : String :=
  String.ofList (List.replicate (5 - e.level.name.length) ' ') ++ e.level.name ++ " " ++
    e.topic.name ++ ": " ++ String.ofList (e.message.toList.flatMap tame) ++
    String.join (e.fields.map field)

end Event

/-- Events of these topics pass down to this level; without a topic, all events. -/
structure Rule where
  topic : Option String
  level : Level
  deriving DecidableEq, Repr

namespace Rule

/-- Reads `level` or `topic=level`. -/
def ofText? (s : String) : Option Rule :=
  match s.splitOn "=" with
  | [level] => (Level.ofName? level).map (⟨none, ·⟩)
  | [topic, level] => (Level.ofName? level).map (⟨some topic, ·⟩)
  | _ => none

def covers (r : Rule) (e : Event) : Bool :=
  match r.topic with
  | none => true
  | some t => t.toList.isPrefixOf e.topic.name.toList

/-- A rule with a longer topic comes before one with a shorter. -/
def weight (r : Rule) : Nat :=
  match r.topic with
  | none => 0
  | some t => t.length + 1

end Rule

abbrev Filter := List Rule

namespace Filter

/-- What is shown if nothing else is asked for. -/
def default : Filter := [⟨some "charseq", .debug⟩, ⟨none, .warn⟩]

/-- Reads rules between commas. -/
def ofText? (s : String) : Option Filter := (s.splitOn ",").mapM Rule.ofText?

/-- The rule with the longest topic decides. -/
def passes (f : Filter) (e : Event) : Bool :=
  let best := (f.filter (·.covers e)).foldl (fun (b : Option Rule) r =>
    match b with
    | some b => if b.weight < r.weight then some r else some b
    | none => some r) none
  match best with
  | some r => decide (e.level.rank ≤ r.level.rank)
  | none => false

end Filter

end Opscript.Log
