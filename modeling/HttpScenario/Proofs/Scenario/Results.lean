import HttpScenario.Proofs.Case.Conditions
import HttpScenario.Proofs.Scenario.Transcript
/-!
# What a result tells

A result is filled in while the case runs: the request once it is built, what the head of an answer
says once it has come, the size of the body once it is read.  The case may end in between, and what
has not been filled in by then stays as it was at the start.

`Trial.Fills` lists the three ways in which the stages can leave a result, and `fills_stages` finds
one of them for every case.  `Trial.Tells` says the same of each field on its own, in terms of the
request, the answer and the body that is read, and `Trial.Recounted` adds what a result says
whatever has become of the case.  The main statement is `results_recounted`.
-/

namespace HttpScenario

/-- How long the phases of an exchange took until the first octet of the answer. -/
def Timing.phases (timing : Timing) : Double × Double × Double × Double :=
  (timing.dns, timing.connect, timing.tlsHandshake, timing.firstByte)

namespace Trial

/-- The size of an answer: what the head says, or else how much is read of its body. -/
def sizeOfAnswer (t : Trial) (head : ReplyHead) (read : Except Error Octets) : UInt64 :=
  head.contentLength.getD
    (match t.bodyOfAnswer? head read with
      | some body => UInt64.ofNat body.length
      | none => 0)

/-- What the stages make of the result that they are given.  Only the time until the end depends on
more than the request and the reply. -/
inductive Fills (t : Trial) (start : TestResult) : TestResult → Prop
  | unbuilt (hbuild : ∀ request, ¬ t.Builds request) : Fills t start start
  | refused {request : OutboundRequest} {error : Error} {elapsed : Double}
      (hbuilds : t.Builds request)
      (hsend : (t.transport.send request).1 = .refused error elapsed) :
      Fills t start { start with
        requestMethod := request.method
        requestUrl := request.url
        timing := { start.timing with total := elapsed } }
  | answered {request : OutboundRequest} {head : ReplyHead} {read : Except Error Octets}
      {elapsed : Double} (total : Double) (hbuilds : t.Builds request)
      (hsend : (t.transport.send request).1 = .answered head read elapsed) :
      Fills t start { start with
        requestMethod := request.method
        requestUrl := request.url
        responseCode := head.status
        responseSize := t.sizeOfAnswer head read
        timing := { head.timing with total := total } }

end Trial

/-! ### The stages -/

namespace TestCase

variable (case : TestCase) (context : CaseContext) (result : TestResult) (session : Session)

/-- Once the body is read, the result is left alone. -/
theorem result_afterBody (body : Octets) :
    (case.afterBody context body result session).result = result := by
  unfold afterBody
  dsimp only
  split <;> rfl

/-- The head of an answer and the body that is read of it decide the status and the size, and the
head the time of all phases; only the time until the end is another one once the body is read. -/
theorem result_afterHead (head : ReplyHead) (read : Except Error Octets) (elapsed : Double) :
    ∃ total, (case.afterHead context head read elapsed result session).result =
      { result with
        responseCode := head.status
        responseSize := (case.trial context.evaluator session).sizeOfAnswer head read
        timing := { head.timing with total := total } } := by
  unfold afterHead Trial.sizeOfAnswer Trial.bodyOfAnswer?
  rw [case_trial]
  by_cases hstatus : head.status = case.expect.statusCode
  · refine ⟨elapsed, ?_⟩
    simp only [if_neg (not_not_intro hstatus)]
    cases read with
    | error error => rfl
    | ok body => exact case.result_afterBody context _ session body
  · refine ⟨head.timing.total, ?_⟩
    simp only [if_pos hstatus]

/-- The stages fill in the result. -/
theorem fills_stages :
    (case.trial context.evaluator session).Fills result
      (case.stages context result session).result := by
  unfold stages
  cases hbuild : case.request.build session.cache with
  | error error =>
    apply Trial.Fills.unbuilt
    intro request hbuilds
    cases hbuild.symm.trans hbuilds
  | ok request =>
    have hbuilds : (case.trial context.evaluator session).Builds request := hbuild
    simp only [afterBuild, Session.transport_line]
    cases hreply : (session.transport.send request).1 with
    | refused error elapsed => exact .refused hbuilds hreply
    | answered head read elapsed =>
      obtain ⟨total, htotal⟩ := case.result_afterHead context
        { result with requestMethod := request.method, requestUrl := request.url }
        { session.line [toString context.position, ". Request: ", request.method, " ",
            request.url] with transport := (session.transport.send request).2 } head read elapsed
      rw [htotal]
      exact .answered total hbuilds hreply

end TestCase

/-! ### The fields of a result -/

namespace Trial

/-- What a result tells of an answer with a head. -/
structure TellsAnswer (t : Trial) (head : ReplyHead) (result : TestResult) : Prop where
  code : result.responseCode = head.status
  phases : result.timing.phases = head.timing.phases
  declared : ∀ size, head.contentLength = some size → result.responseSize = size
  counted : ∀ body, head.contentLength = none → t.readBody? = some body →
    result.responseSize = UInt64.ofNat body.length
  uncounted : head.contentLength = none → t.readBody? = none → result.responseSize = 0

/-- What a result tells of how far its case has come. -/
structure Tells (t : Trial) (result : TestResult) : Prop where
  built : ∀ request, t.Builds request →
    result.requestMethod = request.method ∧ result.requestUrl = request.url
  unbuilt : (∀ request, ¬ t.Builds request) →
    result.requestMethod = t.case.request.method ∧ result.requestUrl = t.case.request.url
  answered : ∀ head read, t.Answered head read → t.TellsAnswer head result
  unanswered : (∀ head read, ¬ t.Answered head read) →
    result.responseCode = 0 ∧ result.responseSize = 0 ∧
      result.timing.phases = (.zero, .zero, .zero, .zero)

/-- What the report on a case that is run in a context says: how far the case has come, and,
whatever has become of it, its number, its name, its scenario, the status it expects, and whether
and why it failed. -/
structure Recounted (t : Trial) (context : CaseContext) (report : CaseReport) : Prop
    extends t.Tells report.result where
  order : report.result.testCaseOrder = t.case.order
  name : report.result.testCaseName = t.case.name
  scenarioName : report.result.scenarioName = context.scenarioName
  expectedCode : report.result.expectedCode = t.case.expect.statusCode
  success : report.result.success = true ↔ report.failure = none
  succeeded : report.failure = none →
    report.result.message = toString context.position ++ ". Success"
  failed : ∀ failure, report.failure = some failure →
    report.result.message = toString context.position ++ ". " ++ failure.error.message

variable {t : Trial}

/-- The body that is read is that of the answer. -/
theorem Answered.readBody?_eq {head : ReplyHead} {read : Except Error Octets}
    (h : t.Answered head read) : t.readBody? = t.bodyOfAnswer? head read := by
  obtain ⟨request, elapsed, hbuilds, hsend⟩ := h
  rw [readBody?, request?_eq_some_iff.mpr hbuilds, Option.bind_some, hsend]

/-- A result tells of the answer if its status, its size and its phases are filled in from it. -/
theorem Answered.tellsAnswer {head : ReplyHead} {read : Except Error Octets} {result : TestResult}
    (h : t.Answered head read) (hcode : result.responseCode = head.status)
    (hphases : result.timing.phases = head.timing.phases)
    (hsize : result.responseSize = t.sizeOfAnswer head read) : t.TellsAnswer head result := by
  unfold sizeOfAnswer at hsize
  rw [← h.readBody?_eq] at hsize
  refine ⟨hcode, hphases, ?declared, ?counted, ?uncounted⟩
  case declared =>
    intro size hlength
    rw [hsize, hlength, Option.getD_some]
  case counted =>
    intro body hlength hbody
    rw [hsize, hlength, Option.getD_none, hbody]
  case uncounted =>
    intro hlength hbody
    rw [hsize, hlength, Option.getD_none, hbody]

/-- A result that the stages have filled in tells how far the case has come. -/
theorem Fills.tells {startedAt : Int64} {scenarioName : String} {result : TestResult}
    (h : t.Fills (TestResult.begin startedAt scenarioName t.case) result) : t.Tells result := by
  cases h with
  | unbuilt hbuild =>
    have hanswer : ∀ head read, ¬ t.Answered head read := by
      rintro head read ⟨request, -, hbuilds, -⟩
      exact hbuild request hbuilds
    exact {
      built := fun request hbuilds => absurd hbuilds (hbuild request)
      unbuilt := fun _ => ⟨rfl, rfl⟩
      answered := fun head read hanswered => absurd hanswered (hanswer head read)
      unanswered := fun _ => ⟨rfl, rfl, rfl⟩ }
  | refused hbuilds hsend =>
    have hanswer := not_answered_of_refused hbuilds hsend
    exact {
      built := fun request h => hbuilds.unique h ▸ ⟨rfl, rfl⟩
      unbuilt := fun hbuild => absurd hbuilds (hbuild _)
      answered := fun head read hanswered => absurd hanswered (hanswer head read)
      unanswered := fun _ => ⟨rfl, rfl, rfl⟩ }
  | answered total hbuilds hsend =>
    have hanswered : t.Answered _ _ := ⟨_, _, hbuilds, hsend⟩
    exact {
      built := fun request h => hbuilds.unique h ▸ ⟨rfl, rfl⟩
      unbuilt := fun hbuild => absurd hbuilds (hbuild _)
      answered := fun head read h => (hanswered.unique h).1 ▸ hanswered.tellsAnswer rfl rfl rfl
      unanswered := fun hanswer => absurd hanswered (hanswer _ _) }

/-- How a case ends makes no difference to how far it came. -/
theorem Tells.ending {result : TestResult} (h : t.Tells result) (success : Bool)
    (message : String) : t.Tells { result with success := success, message := message } where
  built := h.built
  unbuilt := h.unbuilt
  answered head read hanswered :=
    have hanswer := h.answered head read hanswered
    ⟨hanswer.code, hanswer.phases, hanswer.declared, hanswer.counted, hanswer.uncounted⟩
  unanswered := h.unanswered

/-- What a case leaves behind besides says which case it was, and whether and why it failed. -/
theorem Leaves.recounted {context : CaseContext} {report : CaseReport} {session : Session}
    (h : t.Leaves context report session) (htells : t.Tells report.result) :
    t.Recounted context report where
  toTells := htells
  order := h.order_name.1
  name := h.order_name.2
  scenarioName := congrArg (fun heading => heading.2.1) h.heading
  expectedCode := congrArg (fun heading => heading.2.2.2.2) h.heading
  success := by rw [h.success, h.failure, Option.isNone_iff_eq_none]
  succeeded hnone := by
    rw [h.failure] at hnone
    rw [h.message, text_of_none hnone, message_of_success]
  failed failure hfailure := by
    rw [h.failure] at hfailure
    rw [h.message, text_of_some hfailure]

end Trial

/-! ### The result of a case -/

namespace TestCase

variable (case : TestCase) (context : CaseContext) (session : Session)

theorem fills_course :
    (case.trial context.evaluator session).Fills
      (TestResult.begin context.startedAt context.scenarioName case)
      (case.course context session).result := by
  unfold course
  rw [← trial_line]
  exact case.fills_stages context _ _

theorem tells_run :
    (case.trial context.evaluator session).Tells (case.run context session).1.result := by
  have htells : (case.trial context.evaluator session).Tells
      (case.course context session).result :=
    (case.fills_course context session).tells
  cases houtcome : (case.course context session).outcome with
  | ok body =>
    rw [run_of_ok houtcome]
    generalize case.course context session = course at htells
    exact htells.ending true _
  | error failure =>
    rw [run_of_error houtcome]
    generalize case.course context session = course at htells
    exact htells.ending false _

/-- The report on a case recounts what has become of it. -/
theorem recounted_run :
    (case.trial context.evaluator session).Recounted context (case.run context session).1 :=
  (case.leaves_run context session).recounted (case.tells_run context session)

end TestCase

theorem Turn.recounted (turn : Turn) : turn.trial.Recounted turn.context turn.report :=
  turn.case.recounted_run turn.context turn.session

/-- For every case that is run, by itself or in its turn, the result agrees with how far the case
has come and says which case it was and whether and why it failed.  The results of a run are those
of its turns, in order, each with its place and the name of the scenario. -/
theorem results_recounted :
    (∀ (case : TestCase) (context : CaseContext) (session : Session),
      (case.trial context.evaluator session).Recounted context (case.run context session).1) ∧
    ∀ (scenario : Scenario) (evaluator : EvaluatorKind) (clock : Nat → Int64)
      (transport : Transport) (sink : Sink),
      let turns := scenario.turns evaluator clock transport sink
      (scenario.run evaluator clock transport sink).outcome.results =
          turns.map (·.report.result) ∧
        ∀ k turn, turns[k]? = some turn →
          turn.context.position = k + 1 ∧ turn.context.scenarioName = scenario.name ∧
            turn.trial.Recounted turn.context turn.report := by
  refine ⟨TestCase.recounted_run, ?_⟩
  intro scenario evaluator clock transport sink turns
  have hruns := scenario.runs_run evaluator clock transport sink
  refine ⟨hruns.results_eq, ?_⟩
  intro k turn hturn
  have hcontext := hruns.context_getElem hturn
  refine ⟨?_, ?_, turn.recounted⟩
  · rw [hcontext, RunContext.position_case, Nat.add_comm]
  · rw [hcontext]
    rfl

/-- The head of the answer does not say how long the body is, and the body is read before the case
fails over it: its octets are counted, and the message says what is wrong with them. -/
theorem results_recounted_of_ping :
    let turn := sampleTurn [] .script [0x6F, 0xFF]
    (Scenario.run { cases := [samplePing []] } .script (fun _ => 0) (samplePong [0x6F, 0xFF])
        .reliable).outcome.results = [turn.report.result] ∧
      turn.report.result.requestMethod = "GET" ∧ turn.report.result.requestUrl = "x:y" ∧
      turn.report.result.responseCode = 200 ∧ turn.report.result.responseSize = 2 ∧
      turn.report.result.success = false ∧ turn.report.result.message =
        "1. Failed to parse response body into map: expected value at line 1 column 1" := by
  intro turn
  have hbuilds : turn.trial.Builds { method := "GET", url := "x:y", headers := [], body := none } :=
    build_samplePing []
  have hanswered : turn.trial.Answered { status := 200 } (.ok [0x6F, 0xFF]) :=
    ⟨_, _, hbuilds, rfl⟩
  have hread : turn.trial.readBody? = some [0x6F, 0xFF] :=
    Trial.readBody?_eq_some_iff.mpr ⟨_, _, _, hbuilds, rfl, rfl⟩
  have hfailure : turn.report.failure =
      some ⟨.assertBody, .parse "expected value at line 1 column 1"⟩ := by
    rw [turn.leaves.failure]
    apply Trial.failure_of_error
    rw [outcome_sampleTurn]
    cbv
  obtain ⟨hresults, hturns⟩ := results_recounted.2 { cases := [samplePing []] } .script
    (fun _ => 0) (samplePong [0x6F, 0xFF]) .reliable
  rw [turns_samplePing] at hresults hturns
  obtain ⟨-, -, hrecounted⟩ := hturns 0 turn rfl
  have hanswer := hrecounted.answered _ _ hanswered
  obtain ⟨hmethod, hurl⟩ := hrecounted.built _ hbuilds
  have hfails : turn.report.result.success = false := by
    rw [Bool.eq_false_iff, Ne, hrecounted.success, hfailure]
    exact Option.some_ne_none _
  have hmessage := hrecounted.failed _ hfailure
  have hposition : turn.context.position = 1 := rfl
  rw [hposition] at hmessage
  exact ⟨hresults, hmethod, hurl, hanswer.code, hanswer.counted _ rfl hread, hfails, hmessage⟩

end HttpScenario
