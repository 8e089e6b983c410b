import HttpScenario.CommandLine.Style
import HttpScenario.Scenario.Run
/-!
# Reports

What a user is shown of a scenario and of a run.  A report is a list of lines.
-/

namespace HttpScenario.CommandLine

/-- The text of some lines. -/
def linesText (lines : List String) : String :=
  String.join (lines.map (· ++ "\n"))

/-! ## A scenario -/

/-- What is said about a case besides its name and its request. -/
def caseDetails (case : TestCase) : String :=
  ", ".intercalate
    (["expect " ++ toString case.expect.statusCode.toNat]
      ++ (if case.expect.evaluate.isEmpty then []
        else [toString case.expect.evaluate.length ++ " expressions"])
      ++ (if case.pipeline.cache then ["cache as '" ++ case.pipeline.cacheAs ++ "'"] else [])
      ++ ["on failure: " ++ case.pipeline.onFailure.name])

/-- The lines for the case at a position. -/
def caseLines (colors : Bool) (position : Nat) (case : TestCase) : List String :=
  let target := case.request.effectiveMethod ++ " " ++ case.request.url
  ["  " ++ toString position ++ ". [order " ++ toString case.order.toNat ++ "] " ++ case.name ++ " "
      ++ styled colors [.dimmed] target,
    "     " ++ caseDetails case]

/-- The lines for cases, the first of which is at a position. -/
def casesLines (colors : Bool) (position : Nat) : List TestCase → List String
  | [] => []
  | case :: cases => caseLines colors position case ++ casesLines colors (position + 1) cases

/-- The line that says which evaluator can check all cases. -/
def kindsLine (colors : Bool) : List EvaluatorKind → String
  | [] => "No body assertions"
  | [kind] => "Expressions: " ++ kind.name
  | _ => styled colors [.bold, .yellow] "warning:"
      ++ " cases mix rule and script expressions; no single evaluator can run them all"

/-- The lines for a scenario. -/
def scenarioLines (colors : Bool) (scenario : Scenario) : List String :=
  [styled colors [.bold, .blue] "Scenario:" ++ " "
      ++ styled colors [.bold, .white] scenario.name]
    ++ (if scenario.description.isEmpty then []
      else ["  " ++ styled colors [.dimmed] scenario.description])
    ++ (if scenario.environment.isEmpty then [] else ["  Environment: " ++ scenario.environment])
    ++ ["", styled colors [.cyan] "Cases:"]
    ++ casesLines colors 1 scenario.cases
    ++ ["", kindsLine colors scenario.expressionKinds]

/-! ## A run -/

/-- The line for a result. -/
def resultLine (colors : Bool) (result : TestResult) : String :=
  let mark := if result.success then styled colors [.green] "✓" else styled colors [.red] "✗"
  let target := result.requestMethod ++ " " ++ result.requestUrl
  let time := result.timing.total.onePlace ++ " ms"
  "  " ++ " ".intercalate
    [mark, result.testCaseName, styled colors [.dimmed] target,
      toString result.responseCode.toNat, styled colors [.dimmed] time]

/-- The line that counts the cases of a run of so many. -/
def countsLine (total : Nat) (outcome : RunOutcome) : String :=
  "  " ++ toString outcome.passed ++ " passed, " ++ toString outcome.failed ++ " failed, "
    ++ toString (total - outcome.results.length) ++ " not run"

/-- The line that says how a run ended. -/
def verdictLine (colors : Bool) (outcome : RunOutcome) : String :=
  let (color, mark, words) :=
    if outcome.isSuccess then (Style.green, "✓", "Scenario Passed")
    else (Style.red, "✗", "Scenario Failed")
  styled colors [.bold, color] mark ++ " " ++ styled colors [.bold, color] words

/-- The lines for a run of so many cases. -/
def outcomeLines (colors : Bool) (total : Nat) (outcome : RunOutcome) : List String :=
  ["", styled colors [.cyan] "Results:"]
    ++ outcome.results.map (resultLine colors)
    ++ (match outcome.aborted with
      | some reason => ["", "  " ++ styled colors [.bold, .yellow] "Stopped:" ++ " " ++ reason]
      | none => [])
    ++ ["", countsLine total outcome, "", verdictLine colors outcome, ""]

end HttpScenario.CommandLine
