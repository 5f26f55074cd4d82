import Avenger.CommandLine.Listing
import Avenger.CommandLine.Path
import Avenger.Session
import Avenger.Text.Utf8

/-!
# The command line

With a file the program runs it, with `--tokens` and a file it lists the tokens of the file,
and without arguments it reads lines and runs each of them in one session.  Everything that
the program is given is a value here, and so is everything that it writes.
-/

namespace Avenger.CommandLine

/-- What the program is started with. -/
structure Invocation where
  arguments : List String
  /-- The text of a variable of the environment that sets a limit. -/
  setting : Limits.Setting → Option String
  /-- The text of the variable that turns colours off. -/
  noColor : Option String
  /-- The bytes of the file at a path, or why there are none. -/
  file : String → Except String (List UInt8)
  /-- The bytes of standard input. -/
  input : List UInt8
  readings : Readings

/-- What the program writes and the code that it ends with. -/
structure Outcome where
  code : Nat
  output : String
  errors : String

/-- A complaint as it is written to standard error: red, or framed by resets if colours are
turned off by a text that is not empty. -/
def complaint (noColor : Option String) (message : String) : String :=
  if (noColor.getD "").isEmpty then "\x1b[38;5;9m" ++ message ++ "\x1b[39m\n"
  else "\x1b[m" ++ message ++ "\x1b[m\n"

/-- The text of a script, or why the file is not one. -/
def script (invocation : Invocation) (path : String) : Except String String :=
  if Path.extension? path ≠ some "avenger" then .error "File must have .avenger extension"
  else
    let failed (reason : String) : String :=
      "Failed to read file '" ++ path ++ "': " ++ reason
    match invocation.file path with
    | .error reason => .error (failed reason)
    | .ok bytes =>
        match Text.Utf8.decode bytes with
        | .ok text => .ok text
        | .error _ => .error (failed "stream did not contain valid UTF-8")

/-- Runs a script. -/
def runFile (invocation : Invocation) (limits : Limits) (path : String) :
    Except String Unit × String :=
  match script invocation path with
  | .error message => (.error message, "")
  | .ok source =>
      let step := (Session.start limits invocation.readings).run source
      match step.result with
      | .ok _ => (.ok (), printedText step.printed)
      | .error failure => (.error failure.message, printedText step.printed)

/-- Lists the tokens of a script. -/
def listTokens (invocation : Invocation) (path : String) : Except String String := do
  match Token.lex (← script invocation path) with
  | .ok tokens => return Listing.ofTokens tokens
  | .error error => throw error.message

/-- What the line session greets with. -/
def banner : String := "Avenger REPL v0.1.0\n"

/-- What stands before each line. -/
def prompt : String := "> "

/-- Splits bytes after each newline.  The bytes of the line so far and the lines before it
are held in reverse. -/
def linesFrom (line : List UInt8) (done : List (List UInt8)) :
    List UInt8 → List (List UInt8)
  | [] => (if line.isEmpty then done else line.reverse :: done).reverse
  | byte :: rest =>
      if byte == 10 then linesFrom [] ((byte :: line).reverse :: done) rest
      else linesFrom (byte :: line) done rest

/-- The lines of standard input, each with its newline. -/
def lines (bytes : List UInt8) : List (List UInt8) := linesFrom [] [] bytes

/-- What comes of one line. -/
inductive Reply where
  /-- The session ends, with a code and what is written to standard error. -/
  | leave (code : Nat) (errors : String)
  /-- The session goes on. -/
  | stay (session : Session) (output errors : String)

/-- Runs a line without the blanks at its ends.  An empty one does nothing, and `exit` ends
the session, as does a line that is not text. -/
def reply (noColor : Option String) (session : Session) (line : List UInt8) : Reply :=
  match Text.Utf8.decode line with
  | .error defect => .leave 1 (complaint noColor defect.message)
  | .ok line =>
      let source := Text.trim line
      if source == "exit" then .leave 0 ""
      else if source.isEmpty then .stay session "" ""
      else
        let step := session.run source
        let errors :=
          match step.result with
          | .ok _ => ""
          | .error failure => complaint noColor failure.message
        .stay { session with world := step.world } (printedText step.printed) errors

/-- Runs lines in turn, after a prompt each, and adds what they write to what has been
written. -/
def converse (noColor : Option String) (session : Session) (written : Outcome) :
    List (List UInt8) → Outcome
  | [] => { written with output := written.output ++ prompt }
  | line :: rest =>
      match reply noColor session line with
      | .leave code errors =>
          { code, output := written.output ++ prompt, errors := written.errors ++ errors }
      | .stay session output errors =>
          converse noColor session
            { written with
              output := written.output ++ prompt ++ output
              errors := written.errors ++ errors } rest

/-- The outcome of a task that writes its output and may end in a complaint. -/
def finish (noColor : Option String) (result : Except String Unit) (output : String) :
    Outcome :=
  match result with
  | .ok _ => { code := 0, output, errors := "" }
  | .error message => { code := 1, output, errors := complaint noColor message }

/-- What the program does once it is started: it is done, or it talks in a session. -/
inductive Task where
  | done (outcome : Outcome)
  | talk (session : Session)

/-- Starts the program.  Limits that are not valid come before everything else. -/
def start (invocation : Invocation) : Task :=
  let noColor := invocation.noColor
  match Limits.ofEnvironment (invocation.setting .iterations)
      (invocation.setting .callDepth) with
  | .error invalid => .done (finish noColor (.error invalid.message) "")
  | .ok limits =>
      match invocation.arguments with
      | [] => .talk (Session.start limits invocation.readings)
      | "--tokens" :: [] =>
          .done (finish noColor (.error "Usage: avenger --tokens <file.avenger>") "")
      | "--tokens" :: path :: _ =>
          match listTokens invocation path with
          | .ok listing => .done (finish noColor (.ok ()) listing)
          | .error message => .done (finish noColor (.error message) "")
      | path :: _ =>
          let (result, output) := runFile invocation limits path
          .done (finish noColor result output)

/-- Runs the program on all of its input. -/
def run (invocation : Invocation) : Outcome :=
  match start invocation with
  | .done outcome => outcome
  | .talk session =>
      converse invocation.noColor session { code := 0, output := banner, errors := "" }
        (lines invocation.input)

end Avenger.CommandLine
