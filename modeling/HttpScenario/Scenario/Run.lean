import HttpScenario.Case.Run
import HttpScenario.Scenario.Basic
/-!
# Running a scenario

The cases of a scenario are run one after the other.  A case that fails stops the run if it says so;
otherwise the next one follows.  The cache is kept when the run is over, so that a further run finds
in it what this one has stored.
-/

namespace HttpScenario

/-- What a run has come to. -/
structure RunOutcome where
  /-- One result for each case that was run, in order. -/
  results : List TestResult := []
  /-- Why the run was stopped before its end, if it was. -/
  aborted : Option String := none
  deriving DecidableEq, Repr, Inhabited

namespace RunOutcome

/-- How many cases succeeded. -/
def passed (outcome : RunOutcome) : Nat :=
  (outcome.results.filter fun result => result.success).length

/-- How many cases failed. -/
def failed (outcome : RunOutcome) : Nat :=
  outcome.results.length - outcome.passed

/-- Whether every case was run and succeeded. -/
def isSuccess (outcome : RunOutcome) : Bool :=
  outcome.aborted.isNone && outcome.failed == 0

/-- The document of an outcome. -/
def toJson (outcome : RunOutcome) : Json :=
  .obj [("results", .arr (outcome.results.map TestResult.toJson)),
    ("aborted", match outcome.aborted with
      | some reason => .str reason
      | none => .null)]

end RunOutcome

/-- What the cases of a run have in common. -/
structure RunContext where
  scenarioName : String
  evaluator : EvaluatorKind
  /-- When the case at a position is started, in nanoseconds since 1970. -/
  clock : Nat → Int64

/-- The context of the case at a position. -/
def RunContext.case (context : RunContext) (position : Nat) : CaseContext :=
  { scenarioName := context.scenarioName
    position := position
    evaluator := context.evaluator
    startedAt := context.clock position }

/-- Why a failed case stops a run. -/
def abortReason (position : Nat) (case : TestCase) (failure : CaseFailure) : String :=
  "Test case " ++ toString position ++ " (" ++ case.name ++ ") failed: " ++ failure.error.message

/-- Goes on after the case at a position has left a report and a session: the run is stopped, or
the other cases follow. -/
def CaseReport.goOn (report : CaseReport) (position : Nat) (case : TestCase) (session : Session)
    (others : Session → RunOutcome × Session) : RunOutcome × Session :=
  match report.failure, case.pipeline.onFailure with
  | some failure, .exit =>
    ({ results := [report.result], aborted := some (abortReason position case failure) }, session)
  | _, _ =>
    let (outcome, session) := others session
    ({ outcome with results := report.result :: outcome.results }, session)

/-- Runs cases, the first of which is at a position. -/
def runCases (context : RunContext) (position : Nat) :
    List TestCase → Session → RunOutcome × Session
  | [], session => ({}, session)
  | case :: cases, session =>
    let (report, session) := case.run (context.case position) session
    report.goOn position case session (runCases context (position + 1) cases)

namespace Scenario

/-- The first line of progress. -/
def headline (scenario : Scenario) : List String :=
  ["Start running test scenario: name=", scenario.name, " env=", scenario.environment, " desc=",
    scenario.description, " cases=", toString scenario.cases.length]

/-- What a run leaves behind: its outcome, the scenario with the cache as it is now, and the
transport and the progress as they are now. -/
structure RunEnd where
  outcome : RunOutcome
  scenario : Scenario
  transport : Transport
  progress : Progress

/-- Runs a scenario. -/
def run (scenario : Scenario) (evaluator : EvaluatorKind) (clock : Nat → Int64)
    (transport : Transport) (sink : Sink) : RunEnd :=
  let session : Session := ⟨scenario.cache, transport, { sink := sink }⟩
  let (outcome, session) :=
    runCases ⟨scenario.name, evaluator, clock⟩ 1 scenario.cases (session.line scenario.headline)
  { outcome := outcome
    scenario := { scenario with cache := session.cache }
    transport := session.transport
    progress := session.progress }

end Scenario

end HttpScenario
