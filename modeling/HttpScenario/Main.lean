import HttpScenario.CommandLine.Perform
import Std.Time.DateTime.Timestamp
/-!
# The program

Reads what a command asks for, has the command carried out, and does what the response says: prints,
saves and ends.  The command itself is decided elsewhere and knows no files and no network but the
ones it is given.
-/

namespace HttpScenario.Program

open CommandLine

/-- How the program is used. -/
def usage : String :=
  linesText
    ["Usage: restify <COMMAND>", "", "Commands:",
      "  run <PATH> [--evaluator script|rules] [--json] [--config <CONFIG>]",
      "  check <PATH>",
      "  convert <PATH> --to json|yaml [-o <OUTPUT>]"]

/-- What the system says, by the number of the error. -/
def systemTexts : List (UInt32 × String) :=
  [(1, "Operation not permitted"), (2, "No such file or directory"), (13, "Permission denied"),
    (20, "Not a directory"), (21, "Is a directory"), (28, "No space left on device"),
    (30, "Read-only file system"), (36, "File name too long")]

/-- The number of an error. -/
def errorNumber? : IO.Error → Option UInt32
  | .noFileOrDirectory _ code _ => some code
  | .permissionDenied _ code _ => some code
  | .inappropriateType _ code _ => some code
  | .invalidArgument _ code _ => some code
  | .resourceExhausted _ code _ => some code
  | .unsupportedOperation code _ => some code
  | .otherError code _ => some code
  | _ => none

/-- The text of an error. -/
def errorMessage (error : IO.Error) : String :=
  match errorNumber? error with
  | some code =>
    match systemTexts.lookup code with
    | some text => text ++ " (os error " ++ toString code ++ ")"
    | none => toString error
  | none => toString error

/-- Reads a file as text. -/
def readText (path : String) : IO (Except String String) := do
  try
    let octets ← IO.FS.readBinFile path
    match Utf8.decode? octets.toList with
    | some text => return .ok text
    | none => return .error "stream did not contain valid UTF-8"
  catch error => return .error (errorMessage error)

/-- Saves a text in a file. -/
def saveText (path text : String) : IO (Except String Unit) := do
  try
    IO.FS.writeFile path text
    return .ok ()
  catch error => return .error (errorMessage error)

/-- The path of the usual configuration. -/
def usualConfigPath : IO (Option String) := do
  let folder ← match ← IO.getEnv "XDG_CONFIG_HOME" with
    | some folder =>
      if folder.startsWith "/" then pure (some folder)
      else pure ((← IO.getEnv "HOME").map (· ++ "/.config"))
    | none => pure ((← IO.getEnv "HOME").map (· ++ "/.config"))
  return folder.map (· ++ "/restify/config.toml")

/-- What a command sees of the files that have been read, and of a network. -/
def surroundings (read : List (String × Except String String)) (network : Network)
    (configPath : Option String) (colors : Bool) (now : Int64) : Surroundings :=
  { read := fun path =>
      match read.lookup path with
      | some result => result
      | none => .error "No such file or directory (os error 2)"
    isThere := fun path =>
      match read.lookup path with
      | some (.ok _) => true
      | some (.error message) => message.startsWith "Is a directory"
      | none => false
    network := network
    configPath := configPath
    colors := colors
    clock := fun _ => now }

/-- Carries out a command over a network and gives the code to end with. -/
def carryOut (network : Network) (command : Command) : IO UInt32 := do
  let configPath ← usualConfigPath
  let paths := command.inputs configPath
  let read ← paths.mapM fun path => do return (path, ← readText path)
  let stdout ← IO.getStdout
  let colors := (← stdout.isTty) && (← IO.getEnv "NO_COLOR").isNone
  let now := Int64.ofInt (← Std.Time.Timestamp.now).toNanosecondsSinceUnixEpoch.val
  let response := command.perform (surroundings read network configPath colors now)
  let response ← match response.save with
    | some (path, text) => pure (response.afterSaving (← saveText path text))
    | none => pure response
  IO.print response.stdout
  stdout.flush
  IO.eprint response.stderr
  match response.result with
  | .ok true => return 0
  | .ok false => return 1
  | .error error =>
    IO.eprintln ("Error: " ++ error.message)
    return 1

end HttpScenario.Program

/-- The program, where it is given no network. -/
def main (args : List String) : IO UInt32 :=
  match HttpScenario.Command.parse? args with
  | some command => HttpScenario.Program.carryOut .absent command
  | none => do
    IO.eprint HttpScenario.Program.usage
    return 2
