import Opscript.CommandLine.Session
import Opscript.Trace

/-!
# The program

What each command writes and with which status it ends, as a function of what it reads. `dump`
lists the records of a sequence, `exec` prints the calls it makes, `trace` its events. The status
is 1 if the configuration cannot be read, if an execution is blocked, or if an error was reported.
-/

namespace Opscript.CommandLine

/-- Why a file cannot be read. -/
inductive FileFault where
  | notFound
  | permissionDenied
  | notDirectory
  | isDirectory
  | nameTooLong
  | notText
  | other (text : String)
  deriving DecidableEq, Repr

def FileFault.message : FileFault → String
  | notFound => "No such file or directory (os error 2)"
  | permissionDenied => "Permission denied (os error 13)"
  | notDirectory => "Not a directory (os error 20)"
  | isDirectory => "Is a directory (os error 21)"
  | nameTooLong => "File name too long (os error 36)"
  | notText => "stream did not contain valid UTF-8"
  | other text => text

/-- What the program leaves behind. -/
structure Output where
  status : Nat
  out : String
  err : String
  deriving DecidableEq, Repr

inductive LoadError where
  | stdin (fault : FileFault)
  | file (path : String) (fault : FileFault)
  | document (path : String) (fault : Json.ReadError)
  deriving DecidableEq, Repr

def LoadError.message : LoadError → String
  | stdin fault => "failed to read stdin: " ++ fault.message
  | file path fault => "failed to read '" ++ path ++ "': " ++ fault.message
  | document path fault => "'" ++ path ++ "': " ++ Config.faultMessage fault

/-- The dash stands for the standard input. -/
def readFault (path : String) (fault : FileFault) : LoadError :=
  if path = "-" then .stdin fault else .file path fault

/-- Every name stands for an operation that does nothing but be called. -/
def bind (name : String) : Option Callback := some { name }

/-- The configuration with the text that was read from `path`. -/
def load (path : String) (text : Except FileFault String) : Except LoadError Config :=
  match text with
  | .error e => .error (readFault path e)
  | .ok text =>
    match Config.read bind text with
    | .error e => .error (.document path e)
    | .ok loading => .ok loading.config

/-- The name of an operation with its arguments. -/
def callText (p : Palette) (name : String) (arguments : List (Option Value)) : String :=
  p.blue name ++ "(" ++ String.intercalate ", " (arguments.map (Value.formatArgument p)) ++ ")"

def callLine (p : Palette) (c : Call) : String := callText p c.callback.name c.arguments ++ "\n"

def loaded (path : String) (c : Config) : Log.Event :=
  ⟨.debug, .cli, "config loaded",
    [("path", path), ("operations", toString c.operations.length),
      ("values", toString c.values.length), ("issues", toString c.issues.length)]⟩

/-- What a command has written when it reports, and whether it was blocked. -/
structure Work where
  session : Session
  /-- Written before the report. -/
  first : String
  /-- Written behind the report unless the command was blocked. -/
  last : String
  blocked : Bool

def summary (p : Palette) (stats : Stats) : String :=
  p.dim ("--- invoked " ++ toString stats.invoked ++ ", skipped " ++ toString stats.skipped) ++ "\n"

def dump (p : Palette) (x : Session) : Work :=
  let q := match x.sequence with
    | some s => (x.sequencer.setSequence s).2
    | none => x.sequencer
  ⟨{ x with sequencer := q }, "", q.listing p, false⟩

def exec (p : Palette) (x : Session) : Work :=
  let (e, q) := x.sequencer.execute x.sequence
  let lines := String.join (e.run.calls.map (callLine p))
  ⟨{ x with sequencer := q }, lines, "", e.outcome == .blocked⟩

def trace (p : Palette) (v : Verbosity) (x : Session) : Work :=
  let (e, q) := x.sequencer.execute x.sequence
  let last := match e.outcome with
    | .finished stats => summary p stats
    | _ => ""
  ⟨{ x with sequencer := q }, Trace.render p v e.run.events, last, e.outcome == .blocked⟩

def verbosity (o : Options) : Verbosity := if o.verbose = 0 then .brief else .verbose

def work (i : Invocation) (p : Palette) (x : Session) : Work :=
  match i.command with
  | .dump => dump p x
  | .exec => exec p x
  | .trace => trace p (verbosity i.options) x

/-- The lines of the events that pass the filter. -/
def logText (filter : Log.Filter) (events : List Log.Event) : String :=
  String.join ((events.filter filter.passes).map fun e => e.line ++ "\n")

/-- Text with a line break behind it, if there is any. -/
def paragraph (s : String) : String := if s.isEmpty then "" else s ++ "\n"

/-- Runs a command on a configuration. -/
def runConfig (i : Invocation) (filter : Log.Filter) (colored : Bool) (c : Config) : Output :=
  let w := work i (.ofBool colored) (Session.build c i.options)
  let ((printed, ds), x) := w.session.render (Diagnostic.excerpt colored)
  let log := if i.log then
      logText filter (loaded i.options.config c :: x.sequencer.log)
    else ""
  { status := if w.blocked || Diagnostic.anyError ds then 1 else 0
    out := w.first ++ if w.blocked then "" else w.last
    err := log ++ paragraph printed }

/-- Runs a command on the text of its configuration, if that could be read. `terminal` says whether
a terminal shows the output. -/
def run (i : Invocation) (filter : Log.Filter) (terminal : Bool)
    (text : Except FileFault String) : Output :=
  match load i.options.config text with
  | .error e => ⟨1, "", "error: " ++ e.message ++ "\n"⟩
  | .ok c => runConfig i filter (i.options.color.applies terminal) c

end Opscript.CommandLine
