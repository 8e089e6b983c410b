import HttpScenario.Assertion.Evaluator
import HttpScenario.Case.Result
import HttpScenario.Progress
/-!
# Running one case

A case goes through stages and stops at the first that fails: its request is built and sent, the
status is checked, the body is read, and the expressions are checked against the body or an object
inside it.  The body has to be an object even if there is nothing to check.

Whatever happens, there is one result, and the last line of progress carries its message.  A body is
cached only if all stages succeed and the case asks for it; until then the cache is only read.
-/

namespace HttpScenario

/-- The stages of a case. -/
inductive Stage where
  | build
  | dispatch
  | assertStatus
  | readBody
  | assertBody
  deriving DecidableEq, Repr

/-- The name of a stage. -/
def Stage.name : Stage → String
  | .build => "build"
  | .dispatch => "dispatch"
  | .assertStatus => "assert-status"
  | .readBody => "read-body"
  | .assertBody => "assert-body"

/-- Why a case failed. -/
structure CaseFailure where
  stage : Stage
  error : Error
  deriving DecidableEq, Repr

/-- The result of a case, and why it failed if it did. -/
structure CaseReport where
  result : TestResult
  failure : Option CaseFailure

/-- What cases share and change while they run. -/
structure Session where
  cache : Cache
  transport : Transport
  progress : Progress

/-- Writes a line of progress. -/
def Session.line (pieces : List String) (session : Session) : Session :=
  { session with progress := session.progress.line pieces }

/-- Where a case stands in a run, and how its expressions are checked. -/
structure CaseContext where
  scenarioName : String
  /-- The place of the case among the ones that are run, counted from one. -/
  position : Nat
  evaluator : EvaluatorKind
  /-- When the case is started, in nanoseconds since 1970. -/
  startedAt : Int64

/-- How far the stages of a case came: the result and the session by then, and the body or what
failed. -/
structure Course where
  result : TestResult
  session : Session
  outcome : Except CaseFailure Octets

/-! ## The body -/

/-- The object of a body that expressions are checked against. -/
def bodyObject (body : Octets) (path? : Option String) : Except Error Json.Object := do
  let root ←
    match Json.parse body with
    | .ok root => .ok root
    | .error fault => .error (.parse fault.message)
  let target ←
    match path? with
    | none => .ok root
    | some path =>
      match root.valueAt? (.ofText path) with
      | some target => .ok target
      | none =>
        .error (.parse ("evaluation object '" ++ path ++ "' not found in response body"))
  match target with
  | .obj members => .ok members
  | other => .error (.parse ("expected a JSON object, got " ++ other.kindName))

/-- Checks a body against an expectation. -/
def Expectation.checkBody (expect : Expectation) (evaluator : EvaluatorKind) (cache : Cache)
    (body : Octets) : Except Error Unit := do
  let object ← bodyObject body expect.projection
  let verdict ← evaluateAll evaluator expect.evaluate object cache
  match verdict with
  | .pass => .ok ()
  | .fail index expression =>
    .error (.expectation ("Expression " ++ toString (index + 1) ++ " evaluated to false: "
      ++ expression))

/-! ## The stages -/

/-- The size of a body: what the head says, or else how much was read. -/
def sizeOfBody (head : ReplyHead) (body : Octets) : UInt64 :=
  head.contentLength.getD (UInt64.ofNat body.length)

namespace TestCase

/-- The stages after the body has been read. -/
def afterBody (case : TestCase) (context : CaseContext) (body : Octets) (result : TestResult)
    (session : Session) : Course :=
  let session := session.line
    [toString context.position, ". Got response body: ", Utf8.decodeLossy body]
  match case.expect.checkBody context.evaluator session.cache body with
  | .error error => ⟨result, session, .error ⟨.assertBody, error⟩⟩
  | .ok () => ⟨result, session, .ok body⟩

/-- The stages after the head of an answer has come. -/
def afterHead (case : TestCase) (context : CaseContext) (head : ReplyHead)
    (body : Except Error Octets) (elapsed : Double) (result : TestResult) (session : Session) :
    Course :=
  let result := { result with
    responseCode := head.status
    responseSize := head.contentLength.getD 0
    timing := head.timing }
  if head.status ≠ case.expect.statusCode then
    ⟨result, session,
      .error ⟨.assertStatus, .statusMismatch case.expect.statusCode head.status⟩⟩
  else
    let result := { result with timing := { head.timing with total := elapsed } }
    match body with
    | .error error => ⟨result, session, .error ⟨.readBody, error⟩⟩
    | .ok body =>
      case.afterBody context body { result with responseSize := sizeOfBody head body } session

/-- The stages after the request has been built. -/
def afterBuild (case : TestCase) (context : CaseContext) (request : OutboundRequest)
    (result : TestResult) (session : Session) : Course :=
  let result := { result with requestMethod := request.method, requestUrl := request.url }
  let session := session.line
    [toString context.position, ". Request: ", request.method, " ", request.url]
  let (reply, transport) := session.transport.send request
  let session := { session with transport := transport }
  match reply with
  | .refused error elapsed =>
    ⟨{ result with timing := { result.timing with total := elapsed } }, session,
      .error ⟨.dispatch, error⟩⟩
  | .answered head body elapsed =>
    case.afterHead context head body elapsed result session

/-- All stages. -/
def stages (case : TestCase) (context : CaseContext) (result : TestResult) (session : Session) :
    Course :=
  match case.request.build session.cache with
  | .error error => ⟨result, session, .error ⟨.build, error⟩⟩
  | .ok request => case.afterBuild context request result session

/-! ## The whole case -/

/-- The cache after a case has succeeded. -/
def cacheAfter (case : TestCase) (body : Octets) (cache : Cache) : Cache :=
  if case.pipeline.cache then cache.insert case.pipeline.cacheAs body else cache

/-- Runs a case. -/
def run (case : TestCase) (context : CaseContext) (session : Session) : CaseReport × Session :=
  let number := toString context.position
  let session := session.line [number, ". Test case: name=", case.name, " desc=",
    case.description, " onfail=", case.pipeline.onFailure.name]
  let course :=
    case.stages context (TestResult.begin context.startedAt context.scenarioName case) session
  match course.outcome with
  | .ok body =>
    let message := number ++ ". Success"
    let session := { course.session with cache := case.cacheAfter body course.session.cache }
    (⟨course.result.succeed message, none⟩, session.line [message])
  | .error failure =>
    let message := number ++ ". " ++ failure.error.message
    (⟨course.result.fail message, some failure⟩, course.session.line [message])

end TestCase

end HttpScenario
