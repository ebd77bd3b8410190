/-!
# Options of the command line

`parse` reads the arguments: a command, its options and the path of a configuration. An option may
stand before or behind the path; a value may follow its option or be attached to it, and a value
that is not attached does not begin with a dash unless it is the dash alone. Behind `--` there are
no options. Flags and options are given once, except the one that asks for more detail.
-/

namespace Opscript.CommandLine

inductive Command where
  | dump
  | exec
  | trace
  deriving DecidableEq, Repr

def Command.ofName? (s : String) : Option Command :=
  if s = "dump" then some .dump
  else if s = "exec" then some .exec
  else if s = "trace" then some .trace
  else none

/-- When to write in colours. -/
inductive Color where
  /-- When a terminal shows the output. -/
  | auto
  | always
  | never
  deriving DecidableEq, Repr

def Color.ofName? (s : String) : Option Color :=
  if s = "auto" then some .auto
  else if s = "always" then some .always
  else if s = "never" then some .never
  else none

/-- Whether to write in colours. -/
def Color.applies (terminal : Bool) : Color → Bool
  | auto => terminal
  | always => true
  | never => false

structure Options where
  /-- The path of the configuration; a dash stands for the standard input. -/
  config : String
  sequence : Option String
  strict : Bool
  ignoreWarnings : Bool
  maxLength : Option Nat
  color : Color
  /-- How often more detail was asked for. -/
  verbose : Nat
  deriving DecidableEq, Repr

/-- What the arguments ask for. -/
structure Invocation where
  command : Command
  options : Options
  /-- Whether to show the log. -/
  log : Bool
  deriving DecidableEq, Repr

inductive UsageError where
  | noCommand
  | noConfig
  | unknownCommand (name : String)
  | unknownOption (name : String)
  | missingValue (option : String)
  | unneededValue (option : String)
  | repeated (option : String)
  | badValue (option : String) (value : String)
  | unexpectedArgument (argument : String)
  /-- Not an error but a question. -/
  | help
  deriving DecidableEq, Repr

namespace UsageError

def usage : String := "Usage: charseq [--log] <dump|exec|trace> <CONFIG> [OPTIONS]"

def message : UsageError → String
  | noCommand => "a command is required"
  | noConfig => "a configuration is required"
  | unknownCommand name => "unrecognized command '" ++ name ++ "'"
  | unknownOption name => "unexpected option '" ++ name ++ "'"
  | missingValue option => "a value is required for '" ++ option ++ "'"
  | unneededValue option => "no value is allowed for '" ++ option ++ "'"
  | repeated option => "the option '" ++ option ++ "' cannot be used multiple times"
  | badValue option value => "invalid value '" ++ value ++ "' for '" ++ option ++ "'"
  | unexpectedArgument argument => "unexpected argument '" ++ argument ++ "'"
  | help => usage

end UsageError

/-- Options as far as they were read. -/
structure Draft where
  config : Option String := none
  sequence : Option String := none
  strict : Bool := false
  ignoreWarnings : Bool := false
  maxLength : Option Nat := none
  color : Option Color := none
  verbose : Nat := 0
  log : Bool := false
  deriving DecidableEq, Repr

abbrev Parsed (α : Type) := Except UsageError α

/-- The greatest number that an option takes. -/
def maxSize : Nat := UInt64.size - 1

def sizeOfDigits? (cs : List Char) : Option Nat :=
  if cs.isEmpty || !cs.all Char.isDigit then none
  else
    let n := Nat.ofDigitChars 10 cs 0
    if n ≤ maxSize then some n else none

/-- A number in digits, maybe behind a plus sign. -/
def size? (s : String) : Option Nat :=
  match s.toList with
  | '+' :: digits => sizeOfDigits? digits
  | digits => sizeOfDigits? digits

/-- The options that take a value. -/
inductive Valued where
  | sequence
  | maxLength
  | color
  deriving DecidableEq, Repr

def Valued.name : Valued → String
  | sequence => "--sequence"
  | maxLength => "--max-length"
  | color => "--color"

namespace Draft

/-- Takes the value of an option. -/
def set (d : Draft) (option : Valued) (value : String) : Parsed Draft :=
  match option with
  | .sequence =>
    if d.sequence.isSome then .error (.repeated option.name)
    else .ok { d with sequence := some value }
  | .maxLength =>
    if d.maxLength.isSome then .error (.repeated option.name)
    else
      match size? value with
      | some n => .ok { d with maxLength := some n }
      | none => .error (.badValue option.name value)
  | .color =>
    if d.color.isSome then .error (.repeated option.name)
    else
      match Color.ofName? value with
      | some c => .ok { d with color := some c }
      | none => .error (.badValue option.name value)

/-- Takes an argument that is no option. -/
def positional (d : Draft) (s : String) : Parsed Draft :=
  if s.isEmpty then .error (.badValue "CONFIG" s)
  else
    match d.config with
    | some _ => .error (.unexpectedArgument s)
    | none => .ok { d with config := some s }

def positionals (d : Draft) : List String → Parsed Draft
  | [] => .ok d
  | s :: rest =>
    match d.positional s with
    | .error e => .error e
    | .ok d => d.positionals rest

end Draft

/-- What an argument says. -/
inductive Word where
  /-- Nothing behind it is an option. -/
  | escape
  | long (name : String) (value : Option String)
  | short (letters : List Char)
  | plain

/-- Splits at the first equals sign. -/
def splitValue (cs : List Char) : String × Option String :=
  let name := cs.takeWhile (· != '=')
  match cs.dropWhile (· != '=') with
  | [] => (String.ofList name, none)
  | _ :: value => (String.ofList name, some (String.ofList value))

def Word.ofString (s : String) : Word :=
  match s.toList with
  | ['-', '-'] => .escape
  | '-' :: '-' :: cs => let (name, value) := splitValue cs; .long name value
  | ['-'] => .plain
  | '-' :: cs => .short cs
  | _ => .plain

/-- Whether an argument can be the value of the option before it. -/
def isValue (s : String) : Bool :=
  match Word.ofString s with
  | .plain => true
  | _ => false

/-- What a group of letters says: the draft, or the option that still needs its value. -/
inductive Letters where
  | done (d : Draft)
  | needs (d : Draft) (option : Valued)

def Letters.read (d : Draft) : List Char → Parsed Letters
  | [] => .ok (.done d)
  | 'v' :: rest => read { d with verbose := d.verbose + 1 } rest
  | 's' :: [] => .ok (.needs d .sequence)
  | 's' :: '=' :: rest => (d.set .sequence (String.ofList rest)).map .done
  | 's' :: rest => (d.set .sequence (String.ofList rest)).map .done
  | 'h' :: _ => .error .help
  | c :: _ => .error (.unknownOption ("-" ++ String.singleton c))

/-- Sets a flag that was not set before. -/
def flag (name : String) (value : Option String) (already : Bool) (d : Draft) : Parsed Draft :=
  if value.isSome then .error (.unneededValue name)
  else if already then .error (.repeated name)
  else .ok d

def valued? (name : String) : Option Valued :=
  if name = "sequence" then some .sequence
  else if name = "max-length" then some .maxLength
  else if name = "color" then some .color
  else none

/-- Takes an option without a value. -/
def Draft.setFlag (d : Draft) (name : String) (value : Option String) : Parsed Draft :=
  if name = "strict" then flag "--strict" value d.strict { d with strict := true }
  else if name = "ignore-warnings" then
    flag "--ignore-warnings" value d.ignoreWarnings { d with ignoreWarnings := true }
  else if name = "log" then flag "--log" value d.log { d with log := true }
  else if name = "help" then .error .help
  else .error (.unknownOption ("--" ++ name))

/-- Reads the arguments behind a command. -/
def readOptions (d : Draft) : List String → Parsed Draft
  | [] => .ok d
  | s :: rest =>
    match Word.ofString s with
    | .escape => d.positionals rest
    | .plain =>
      match d.positional s with
      | .error e => .error e
      | .ok d => readOptions d rest
    | .short letters =>
      match Letters.read d letters with
      | .error e => .error e
      | .ok (.done d) => readOptions d rest
      | .ok (.needs d option) =>
        match rest with
        | [] => .error (.missingValue option.name)
        | value :: rest =>
          if isValue value then
            match d.set option value with
            | .error e => .error e
            | .ok d => readOptions d rest
          else .error (.missingValue option.name)
    | .long name value =>
      match valued? name, value with
      | none, value =>
        match d.setFlag name value with
        | .error e => .error e
        | .ok d => readOptions d rest
      | some option, some value =>
        match d.set option value with
        | .error e => .error e
        | .ok d => readOptions d rest
      | some option, none =>
        match rest with
        | [] => .error (.missingValue option.name)
        | value :: rest =>
          if isValue value then
            match d.set option value with
            | .error e => .error e
            | .ok d => readOptions d rest
          else .error (.missingValue option.name)

def Draft.finish (d : Draft) (command : Command) (log : Bool) : Parsed Invocation :=
  match d.config with
  | none => .error .noConfig
  | some config =>
    .ok {
      command
      options := {
        config
        sequence := d.sequence
        strict := d.strict
        ignoreWarnings := d.ignoreWarnings
        maxLength := d.maxLength
        color := d.color.getD .auto
        verbose := d.verbose }
      log := log || d.log }

/-- Reads the arguments from the command on. -/
def readCommand (log : Bool) (s : String) (rest : List String) : Parsed Invocation :=
  match Command.ofName? s with
  | none => .error (.unknownCommand s)
  | some command =>
    match readOptions {} rest with
    | .error e => .error e
    | .ok d => d.finish command log

/-- Reads the arguments of the program. `log` says whether the log was asked for before. -/
def readArguments (log : Bool) : List String → Parsed Invocation
  | [] => .error .noCommand
  | s :: rest =>
    match Word.ofString s with
    | .plain => readCommand log s rest
    | .long name value =>
      if name = "log" then
        match flag "--log" value log {} with
        | .error e => .error e
        | .ok _ => readArguments true rest
      else if name = "help" then .error .help
      else .error (.unknownOption s)
    | .short ('h' :: _) => .error .help
    | _ => .error (.unknownOption s)

def Invocation.parse (arguments : List String) : Parsed Invocation :=
  readArguments false arguments

end Opscript.CommandLine
