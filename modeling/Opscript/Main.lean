import Opscript.CommandLine.Program

/-!
# The command line

Reads the arguments, the configuration and the wish for a log, and writes what `CommandLine.run`
says.
-/

namespace Opscript.CommandLine

/-- Text from bytes. -/
def decodeBytes (bytes : ByteArray) : Except FileFault String :=
  match String.fromUTF8? bytes with
  | some text => .ok text
  | none => .error .notText

/-- Everything that is left on a stream. -/
partial def drain (stream : IO.FS.Stream) (bytes : ByteArray) : IO ByteArray := do
  let more ← stream.read 65536
  if more.isEmpty then return bytes else drain stream (bytes ++ more)

/-- The system's number of the fault that a name is too long; opening a file gives it negated. -/
def nameTooLongCode : UInt32 := 0 - 36

/-- A file where a directory is needed and a directory where a file is needed are of a wrong type;
the second is noticed while reading and has no name. -/
def faultOf : IO.Error → FileFault
  | .noFileOrDirectory .. => .notFound
  | .permissionDenied .. => .permissionDenied
  | .inappropriateType none .. => .isDirectory
  | .inappropriateType (some _) .. => .notDirectory
  | e@(.invalidArgument _ code _) =>
    if code = nameTooLongCode then .nameTooLong else .other (toString e)
  | e => .other (toString e)

/-- The text of a configuration; a dash stands for the standard input. -/
def readConfig (path : String) : IO (Except FileFault String) := do
  try
    if path = "-" then
      return decodeBytes (← drain (← IO.getStdin) .empty)
    else
      return decodeBytes (← IO.FS.readBinFile path)
  catch e => return .error (faultOf e)

/-- The filter of the log that the environment asks for. -/
def readFilter : IO Log.Filter := do
  let asked ← IO.getEnv "RUST_LOG"
  return (asked.bind Log.Filter.ofText?).getD Log.Filter.default

/-- Runs a command; a terminal shows the output if both streams lead to one. -/
def runInvocation (invocation : Invocation) : IO UInt32 := do
  let out ← IO.getStdout
  let err ← IO.getStderr
  let terminal := (← out.isTty) && (← err.isTty)
  let output :=
    run invocation (← readFilter) terminal (← readConfig invocation.options.config)
  out.putStr output.out
  err.putStr output.err
  return UInt32.ofNat output.status

end Opscript.CommandLine

open Opscript.CommandLine

def main (arguments : List String) : IO UInt32 := do
  match Invocation.parse arguments with
  | .ok invocation => runInvocation invocation
  | .error .help =>
    IO.println UsageError.usage
    return 0
  | .error e =>
    IO.eprintln ("error: " ++ e.message ++ "\n\n" ++ UsageError.usage)
    return 2
