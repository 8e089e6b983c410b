import HttpScenario.Proofs.Scenario.Turns
/-!
# The lines of a run

A run writes lines for a reader, and reads nothing of them: what has been written, and whether the
sink has failed, decides nothing.  So a session may be given another progress
(`Session.withProgress`), and each stage of a case does the same with it, and writes the same lines
to it (`TestCase.stages_over`, `TestCase.run_over`).

Which lines these are depends on the trial of the case and on its place only.  `Trial.lines` says it
without the stages: a line that announces the case, one for its request if that can be built, one for
its body if that is read, and its message.  The lines of a run are the headline and those of its
turns, in order (`Scenario.progress_run`), and the sink has no other part in a run
(`Scenario.run_over`).
-/

namespace HttpScenario

/-- Writes lines, in order. -/
def Progress.lines (texts : List (List String)) (progress : Progress) : Progress :=
  texts.foldl (fun progress pieces => progress.line pieces) progress

theorem Progress.lines_cons (pieces : List String) (texts : List (List String))
    (progress : Progress) :
    progress.lines (pieces :: texts) = (progress.line pieces).lines texts := rfl

theorem Progress.lines_singleton (pieces : List String) (progress : Progress) :
    progress.lines [pieces] = progress.line pieces := rfl

theorem Progress.lines_append (texts others : List (List String)) (progress : Progress) :
    progress.lines (texts ++ others) = (progress.lines texts).lines others :=
  List.foldl_append

/-! ### The lines of a case -/

namespace Trial

variable (t : Trial)

/-- The body that is read: that of an answer with the expected status, unless reading it fails. -/
def bodyOfAnswer? (head : ReplyHead) (body : Except Error Octets) : Option Octets :=
  if head.status ≠ t.case.expect.statusCode then none else body.toOption

/-- The body that is read, if the case gets so far. -/
def readBody? : Option Octets :=
  t.request?.bind fun request =>
    match (t.transport.send request).1 with
    | .refused _ _ => none
    | .answered head body _ => t.bodyOfAnswer? head body

theorem bodyOfAnswer?_eq_some_iff {t : Trial} {head : ReplyHead} {read : Except Error Octets}
    {body : Octets} :
    t.bodyOfAnswer? head read = some body ↔
      read = .ok body ∧ head.status = t.case.expect.statusCode := by
  unfold bodyOfAnswer?
  by_cases hstatus : head.status = t.case.expect.statusCode
  · rw [if_neg (not_not_intro hstatus), and_iff_left hstatus]
    cases read with
    | error error => exact ⟨nofun, nofun⟩
    | ok octets => exact ⟨fun h => congrArg _ (Option.some.inj h), fun h => congrArg _ h⟩
  · rw [if_pos hstatus]
    exact ⟨nofun, fun h => absurd h.2 hstatus⟩

/-- A body is read if the request is built and answered, with the expected status and a body that
can be read. -/
theorem readBody?_eq_some_iff {t : Trial} {body : Octets} :
    t.readBody? = some body ↔ ∃ request head elapsed,
      t.case.request.build t.cache = .ok request ∧
        (t.transport.send request).1 = .answered head (.ok body) elapsed ∧
        head.status = t.case.expect.statusCode := by
  unfold readBody?
  rw [Option.bind_eq_some_iff]
  constructor
  · rintro ⟨request, hrequest, hbody⟩
    split at hbody
    · cases hbody
    · rename_i head read elapsed hreply
      obtain ⟨rfl, hstatus⟩ := bodyOfAnswer?_eq_some_iff.mp hbody
      exact ⟨request, head, elapsed, request?_eq_some_iff.mp hrequest, hreply, hstatus⟩
  · rintro ⟨request, head, elapsed, hrequest, hreply, hstatus⟩
    refine ⟨request, request?_eq_some_iff.mpr hrequest, ?_⟩
    rw [hreply]
    exact bodyOfAnswer?_eq_some_iff.mpr ⟨rfl, hstatus⟩

/-- The line for a body. -/
def bodyLine (position : Nat) (body : Octets) : List String :=
  [toString position, ". Got response body: ", Utf8.decodeLossy body]

/-- The line for a request. -/
def requestLine (position : Nat) (request : OutboundRequest) : List String :=
  [toString position, ". Request: ", request.method, " ", request.url]

/-- The line that announces the case. -/
def announcement (position : Nat) : List String :=
  [toString position, ". Test case: name=", t.case.name, " desc=", t.case.description, " onfail=",
    t.case.pipeline.onFailure.name]

/-- The lines that the stages write. -/
def stageLines (position : Nat) : List (List String) :=
  t.request?.toList.map (requestLine position) ++ t.readBody?.toList.map (bodyLine position)

/-- The lines that the case writes. -/
def lines (position : Nat) : List (List String) :=
  t.announcement position :: t.stageLines position ++ [[toString position ++ ". " ++ t.text]]

end Trial

/-! ### Sessions with another progress -/

namespace Session

/-- The session with another progress. -/
def withProgress (session : Session) (progress : Progress) : Session :=
  { session with progress := progress }

variable (session : Session) (progress : Progress)

@[simp] theorem cache_over : (session.withProgress progress).cache = session.cache := rfl

@[simp] theorem transport_over :
    (session.withProgress progress).transport = session.transport := rfl

@[simp] theorem line_over (texts : List String) :
    (session.withProgress progress).line texts =
      (session.line texts).withProgress (progress.line texts) := rfl

end Session

/-- The course with another progress. -/
def Course.withProgress (course : Course) (progress : Progress) : Course :=
  { course with session := course.session.withProgress progress }

@[simp] theorem Course.outcome_over (course : Course) (progress : Progress) :
    (course.withProgress progress).outcome = course.outcome := rfl

namespace TestCase

variable (case : TestCase) (context : CaseContext) (session : Session) (progress : Progress)

theorem afterBody_over (body : Octets) (result : TestResult) :
    case.afterBody context body result (session.withProgress progress) =
      (case.afterBody context body result session).withProgress
        (progress.lines [Trial.bodyLine context.position body]) := by
  unfold afterBody
  simp only [Session.line_over, Session.cache_over, Session.cache_line, Progress.lines_singleton,
    Trial.bodyLine]
  cases case.expect.checkBody context.evaluator session.cache body with
  | error error => rfl
  | ok _ => rfl

theorem afterHead_over (head : ReplyHead) (body : Except Error Octets) (elapsed : Double)
    (result : TestResult) :
    case.afterHead context head body elapsed result (session.withProgress progress) =
      (case.afterHead context head body elapsed result session).withProgress
        (progress.lines (((case.trial context.evaluator session).bodyOfAnswer? head body).toList.map
          (Trial.bodyLine context.position))) := by
  unfold afterHead Trial.bodyOfAnswer?
  rw [case_trial]
  by_cases hstatus : head.status = case.expect.statusCode
  · simp only [if_neg (not_not_intro hstatus)]
    cases body with
    | error error => rfl
    | ok body => exact case.afterBody_over context session progress body _
  · simp only [if_pos hstatus]
    rfl

/-- The stages read nothing of the progress, and write the same lines to any. -/
theorem stages_over (result : TestResult) :
    case.stages context result (session.withProgress progress) =
      (case.stages context result session).withProgress
        (progress.lines ((case.trial context.evaluator session).stageLines context.position)) := by
  unfold stages Trial.stageLines Trial.readBody? Trial.request?
  simp only [Session.cache_over, case_trial, cache_trial, transport_trial]
  cases case.request.build session.cache with
  | error error => rfl
  | ok request =>
    simp only [afterBuild, Session.line_over, Session.transport_over, Session.transport_line,
      Except.toOption, Option.bind_some]
    cases hreply : (session.transport.send request).1 with
    | refused error elapsed => rfl
    | answered head body elapsed =>
      exact case.afterHead_over context
        { session.line [toString context.position, ". Request: ", request.method, " ",
            request.url] with transport := (session.transport.send request).2 }
        (progress.line (Trial.requestLine context.position request)) head body elapsed
        { result with requestMethod := request.method, requestUrl := request.url }

/-- The announcement changes nothing that a trial is made of. -/
theorem trial_line (evaluator : EvaluatorKind) (pieces : List String) :
    case.trial evaluator (session.line pieces) = case.trial evaluator session := rfl

theorem course_over :
    case.course context (session.withProgress progress) =
      (case.course context session).withProgress
        (progress.lines
          ((case.trial context.evaluator session).announcement context.position ::
            (case.trial context.evaluator session).stageLines context.position)) := by
  unfold course
  rw [Session.line_over, stages_over, trial_line, Progress.lines_cons, Trial.announcement,
    case_trial]

/-- A case reads nothing of the progress, and writes the same lines to any. -/
theorem run_over :
    case.run context (session.withProgress progress) =
      ((case.run context session).1,
        (case.run context session).2.withProgress
          (progress.lines ((case.trial context.evaluator session).lines context.position))) := by
  have hcourse := case.course_over context session progress
  have htrial : (case.course context session).outcome =
      (case.trial context.evaluator session).outcome :=
    (case.leaves_stages context _ _).outcome
  generalize case.trial context.evaluator session = t at hcourse htrial ⊢
  cases houtcome : (case.course context session).outcome with
  | ok body =>
    have hover : (case.course context (session.withProgress progress)).outcome = .ok body := by
      rw [hcourse, Course.outcome_over, houtcome]
    rw [run_of_ok houtcome, run_of_ok hover, hcourse, Trial.lines, Progress.lines_append,
      Progress.lines_singleton,
      Trial.text_of_none (Trial.failure_of_ok (htrial.symm.trans houtcome)),
      Trial.message_of_success]
    generalize case.course context session = course
    generalize progress.lines (t.announcement context.position :: t.stageLines context.position) =
      written
    rfl
  | error failure =>
    have hover :
        (case.course context (session.withProgress progress)).outcome = .error failure := by
      rw [hcourse, Course.outcome_over, houtcome]
    rw [run_of_error houtcome, run_of_error hover, hcourse, Trial.lines, Progress.lines_append,
      Progress.lines_singleton,
      Trial.text_of_some (Trial.failure_of_error (htrial.symm.trans houtcome))]
    generalize case.course context session = course
    generalize progress.lines (t.announcement context.position :: t.stageLines context.position) =
      written
    rfl

end TestCase

/-! ### The lines of a run -/

/-- The lines that a turn writes. -/
def Turn.lines (turn : Turn) : List (List String) :=
  turn.trial.lines turn.context.position

/-- The lines of turns are those of the first one, and those of the others unless it stops the
run. -/
theorem flatMap_lines_turns {context : RunContext} {position : Nat} {case : TestCase}
    {session : Session} {turn : Turn} (hturn : context.turn position case session = turn)
    (cases : List TestCase) :
    (turns context position (case :: cases) session).flatMap Turn.lines =
      turn.lines ++ if turn.Stops then []
        else (turns context (position + 1) cases turn.after).flatMap Turn.lines := by
  by_cases hstops : turn.Stops
  · rw [turns_cons_of_stops hturn hstops, if_pos hstops, List.flatMap_singleton, List.append_nil]
  · rw [turns_cons_of_not_stops hturn hstops, if_neg hstops, List.flatMap_cons]

/-- If the other cases write the same lines to any progress, so does what follows a turn. -/
theorem Turn.goOn_over (turn : Turn) {session : Session}
    {others : Session → RunOutcome × Session} {later : List (List String)}
    (hothers : ∀ progress, others (session.withProgress progress) =
      ((others session).1, (others session).2.withProgress (progress.lines later)))
    (progress : Progress) :
    turn.report.goOn turn.context.position turn.case (session.withProgress progress) others =
      ((turn.report.goOn turn.context.position turn.case session others).1,
        (turn.report.goOn turn.context.position turn.case session others).2.withProgress
          (progress.lines (if turn.Stops then [] else later))) := by
  by_cases hstops : turn.Stops
  · rw [goOn_of_stops hstops, goOn_of_stops hstops, if_pos hstops]
    rfl
  · rw [goOn_of_not_stops hstops, goOn_of_not_stops hstops, if_neg hstops, hothers]

/-- The cases of a run read nothing of the progress, and write the same lines to any. -/
theorem runCases_over (context : RunContext) (position : Nat) (cases : List TestCase)
    (session : Session) (progress : Progress) :
    runCases context position cases (session.withProgress progress) =
      ((runCases context position cases session).1,
        (runCases context position cases session).2.withProgress
          (progress.lines ((turns context position cases session).flatMap Turn.lines))) := by
  induction cases generalizing position session progress with
  | nil => rfl
  | cons case cases ih =>
    obtain ⟨turn, hturn⟩ : ∃ turn, context.turn position case session = turn := ⟨_, rfl⟩
    have hover : case.run (context.case position) (session.withProgress progress) =
        (turn.report, turn.after.withProgress (progress.lines turn.lines)) := by
      rw [case.run_over, ← hturn]
      rfl
    rw [runCases_cons hturn, flatMap_lines_turns hturn, Progress.lines_append,
      ← turn.goOn_over (ih (position + 1) turn.after), runCases, hover, ← hturn]
    rfl

namespace Scenario

variable (scenario : Scenario) (evaluator : EvaluatorKind) (clock : Nat → Int64)
  (transport : Transport) (sink : Sink)

/-- A run over some sink is a run over another, but for the progress: what is written to the sink are
the headline and the lines of the turns. -/
theorem run_over (other : Sink) :
    scenario.run evaluator clock transport sink =
      { scenario.run evaluator clock transport other with
        progress := ({ sink := sink } : Progress).lines (scenario.headline ::
          (scenario.turns evaluator clock transport other).flatMap Turn.lines) } := by
  -- the sessions that the first case starts with are the same but for their progress
  have hopening : scenario.opening transport sink =
      (scenario.opening transport other).withProgress
        (({ sink := sink } : Progress).line scenario.headline) := rfl
  rw [run_eq, run_eq, closing, closing, hopening, runCases_over]
  rfl

theorem progress_run :
    (scenario.run evaluator clock transport sink).progress =
      ({ sink := sink } : Progress).lines (scenario.headline ::
        (scenario.turns evaluator clock transport sink).flatMap Turn.lines) :=
  congrArg RunEnd.progress (scenario.run_over evaluator clock transport sink sink)

end Scenario

end HttpScenario
