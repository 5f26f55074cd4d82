import Avenger.CommandLine
import Std.Time.DateTime.Timestamp

/-!
# The program

Takes the arguments, the environment, files and standard input from the system, and writes
what the command line answers.  The line session answers each line before it waits for the
next one.
-/

namespace Avenger.Main

/-- Why the system has no bytes for a path, in its own words. -/
def reason (error : IO.Error) : String :=
  match error with
  | .noFileOrDirectory .. => "No such file or directory (os error 2)"
  | .permissionDenied .. => "Permission denied (os error 13)"
  | .inappropriateType _ 20 _ => "Not a directory (os error 20)"
  | .inappropriateType .. => "Is a directory (os error 21)"
  | other => toString other

/-- The bytes of the file at a path. -/
def readFile (path : String) : IO (Except String (List UInt8)) := do
  try
    let bytes ← (← IO.FS.Handle.mk path .read).readBinToEnd
    return .ok bytes.toList
  catch error => return .error (reason error)

/-- The readings of this moment. -/
def readings : IO Readings := do
  let now ← Std.Time.Timestamp.now
  let seed ← IO.rand 0 4611686018427387903
  return Readings.seeded (Float.ofInt now.toMillisecondsSinceUnixEpoch.val) seed.toUInt64

/-- The next line of standard input with its newline, or nothing at its end. -/
partial def readLine (input : IO.FS.Stream) (line : List UInt8) : IO (List UInt8) := do
  let bytes ← input.read 1
  match bytes.toList with
  | [] => return line.reverse
  | byte :: _ =>
      if byte == 10 then return (byte :: line).reverse else readLine input (byte :: line)

/-- Writes a text at once. -/
def write (stream : IO.FS.Stream) (text : String) : IO Unit := do
  stream.putStr text
  stream.flush

/-- Answers line after line. -/
partial def converse (noColor : Option String) (session : Session) : IO UInt32 := do
  write (← IO.getStdout) CommandLine.prompt
  let line ← readLine (← IO.getStdin) []
  if line.isEmpty then return 0
  match CommandLine.reply noColor (session.withReadings (← readings)) line with
  | .leave code errors =>
      write (← IO.getStderr) errors
      return code.toUInt32
  | .stay session output errors =>
      write (← IO.getStdout) output
      write (← IO.getStderr) errors
      converse noColor session

/-- Gathers what the program is started with. -/
def invocation (arguments : List String) : IO CommandLine.Invocation := do
  let iterations ← IO.getEnv Limits.Setting.iterations.name
  let callDepth ← IO.getEnv Limits.Setting.callDepth.name
  let path :=
    match arguments with
    | "--tokens" :: path :: _ => path
    | path :: _ => path
    | [] => ""
  let content ← readFile path
  return {
    arguments
    setting := fun
      | .iterations => iterations
      | .callDepth => callDepth
    noColor := ← IO.getEnv "NO_COLOR"
    file := fun _ => content
    input := []
    readings := ← readings }

end Avenger.Main

/-- Runs the program with the given arguments. -/
def main (arguments : List String) : IO UInt32 := do
  let invocation ← Avenger.Main.invocation arguments
  match Avenger.CommandLine.start invocation with
  | .done outcome =>
      Avenger.Main.write (← IO.getStdout) outcome.output
      Avenger.Main.write (← IO.getStderr) outcome.errors
      return outcome.code.toUInt32
  | .talk session =>
      Avenger.Main.write (← IO.getStdout) Avenger.CommandLine.banner
      Avenger.Main.converse invocation.noColor session
