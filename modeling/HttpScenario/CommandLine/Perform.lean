import HttpScenario.CommandLine.Command
import HttpScenario.CommandLine.Report
import HttpScenario.Http.Client
import HttpScenario.Scenario.Document
/-!
# Carrying out commands

What a command does is worked out from what it can see of the files and the network around it.  A response is what
goes to the two outputs, a file that is to be saved, and whether all is well.  Nothing of a response
that saves a file is shown before the file is saved.
-/

namespace HttpScenario.CommandLine

/-- What a command sees around it. -/
structure Surroundings where
  /-- The text of a file, or what the system says against reading it. -/
  read : String → Except String String
  isThere : String → Bool
  network : Network
  /-- The path of the configuration that is used if no other is given and it is there. -/
  configPath : Option String := none
  /-- Whether texts are coloured. -/
  colors : Bool := false
  /-- When the case at a position is started, in nanoseconds since 1970. -/
  clock : Nat → Int64

/-- What comes of a command. -/
structure Response where
  stdout : String := ""
  stderr : String := ""
  /-- The path and the text of a file to save. -/
  save : Option (String × String) := none
  /-- Whether all is well, or the error that ended the command. -/
  result : Except Error Bool

/-- The response to a command that an error ended. -/
def Response.ofError (error : Error) : Response :=
  { result := .error error }

/-- What is left of a response once its file has been saved, or could not be. -/
def Response.afterSaving (response : Response) (saved : Except String Unit) : Response :=
  match saved with
  | .ok () => response
  | .error message => .ofError (.io message)

namespace Surroundings

/-- The text of a file. -/
def load (around : Surroundings) (path : String) : Except Error String :=
  match around.read path with
  | .ok text => .ok text
  | .error message => .error (.fileRead path message)

/-- The scenario of a file. -/
def loadScenario (around : Surroundings) (path : String) : Except Error Scenario := do
  let text ← around.load path
  Scenario.parse (.ofPath path) text

/-- The configuration of a file: the one that is given, or else the usual one if it is there. -/
def loadConfig (around : Surroundings) (given : Option String) : Except Error Config :=
  match given with
  | some path => around.load path >>= Config.parse
  | none =>
    match around.configPath with
    | some path => if around.isThere path then around.load path >>= Config.parse else .ok {}
    | none => .ok {}

end Surroundings

/-- A text with a line end, unless it has one. -/
def endLine (text : String) : String :=
  if text.toList.getLast? = some '\n' then text else text ++ "\n"

/-- The response to a finished run: the progress goes before the report, or to the other output if
the outcome is wanted as a document. -/
def runResponse (colors json : Bool) (total : Nat) (progress : String) (outcome : RunOutcome) :
    Response :=
  if json then
    { stdout := outcome.toJson.pretty ++ "\n", stderr := progress,
      result := .ok outcome.isSuccess }
  else
    { stdout := progress ++ linesText (outcomeLines colors total outcome),
      result := .ok outcome.isSuccess }

/-- Runs the scenario of a file. -/
def performRun (around : Surroundings) (path : String) (evaluator : Option EvaluatorKind)
    (json : Bool) (configPath : Option String) : Except Error Response := do
  let config ← around.loadConfig configPath
  let scenario ← around.loadScenario path
  let client ← HttpClient.ofConfig config.http around.network
  let ended :=
    scenario.run (evaluator.getD config.evaluator) around.clock client.transport .reliable
  .ok (runResponse around.colors json scenario.cases.length
    (Utf8.decodeLossy ended.progress.octets) ended.outcome)

/-- Describes the scenario of a file; all is well if one evaluator can check all its cases. -/
def performCheck (around : Surroundings) (path : String) : Except Error Response := do
  let scenario ← around.loadScenario path
  .ok { stdout := linesText (scenarioLines around.colors scenario),
        result := .ok (decide (scenario.expressionKinds.length ≤ 1)) }

/-- Writes the scenario of a file in a format. -/
def performConvert (around : Surroundings) (path : String) (format : Format)
    (output : Option String) : Except Error Response := do
  let scenario ← around.loadScenario path
  let text := scenario.encode format
  match output with
  | some target =>
    .ok { stderr := "Wrote " ++ target ++ " (" ++ format.name ++ ")\n", save := some (target, text),
          result := .ok true }
  | none => .ok { stdout := endLine text, result := .ok true }

end HttpScenario.CommandLine

namespace HttpScenario

open CommandLine

namespace Command

/-- The files that a command may read, where the usual configuration has some path. -/
def inputs (command : Command) (configPath : Option String) : List String :=
  match command with
  | .run path _ _ config => path :: (config <|> configPath).toList
  | .check path => [path]
  | .convert path _ _ => [path]

/-- The response to a command. -/
def perform (command : Command) (around : Surroundings) : Response :=
  let response := match command with
    | .run path evaluator json config => performRun around path evaluator json config
    | .check path => performCheck around path
    | .convert path format output => performConvert around path format output
  match response with
  | .ok response => response
  | .error error => .ofError error

end Command

end HttpScenario
