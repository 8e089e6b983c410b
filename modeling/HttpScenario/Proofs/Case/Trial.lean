import HttpScenario.Case.Run
/-!
# What a case comes to

A case passes through its stages with a session in hand, and the stages write progress and fill in a
result as they go.  What the case comes to depends on none of that: `Trial` collects what does
matter — the case, the evaluator, the cache and the transport it starts with — and `Trial.outcome`
is what the stages come to as a function of it (`leaves_stages`).

`leaves_run` then says what a whole case leaves behind, each part in terms of the trial: what its
report says, the cache and the transport.  Later modules use it and do not unfold the stages.
-/

namespace HttpScenario

/-- What decides what a case comes to.  The place of the case in a run, the time and the sink are
no part of it. -/
structure Trial where
  case : TestCase
  evaluator : EvaluatorKind
  /-- The cache when the case is started. -/
  cache : Cache
  transport : Transport

/-- The trial of a case that is started with a session. -/
def TestCase.trial (case : TestCase) (evaluator : EvaluatorKind) (session : Session) : Trial :=
  ⟨case, evaluator, session.cache, session.transport⟩

section trial

variable (case : TestCase) (evaluator : EvaluatorKind) (session : Session)

@[simp] theorem TestCase.case_trial : (case.trial evaluator session).case = case := rfl

@[simp] theorem TestCase.evaluator_trial :
    (case.trial evaluator session).evaluator = evaluator := rfl

@[simp] theorem TestCase.cache_trial : (case.trial evaluator session).cache = session.cache := rfl

@[simp] theorem TestCase.transport_trial :
    (case.trial evaluator session).transport = session.transport := rfl

end trial

namespace Trial

/-- What a body that has been read comes to. -/
def outcomeOfBody (t : Trial) (body : Octets) : Except CaseFailure Octets :=
  match t.case.expect.checkBody t.evaluator t.cache body with
  | .error error => .error ⟨.assertBody, error⟩
  | .ok () => .ok body

/-- What an answer comes to. -/
def outcomeOfAnswer (t : Trial) (head : ReplyHead) (body : Except Error Octets) :
    Except CaseFailure Octets :=
  if head.status ≠ t.case.expect.statusCode then
    .error ⟨.assertStatus, .statusMismatch t.case.expect.statusCode head.status⟩
  else
    match body with
    | .error error => .error ⟨.readBody, error⟩
    | .ok body => t.outcomeOfBody body

theorem outcomeOfAnswer_of_ne {t : Trial} {head : ReplyHead}
    (h : head.status ≠ t.case.expect.statusCode) (body : Except Error Octets) :
    t.outcomeOfAnswer head body =
      .error ⟨.assertStatus, .statusMismatch t.case.expect.statusCode head.status⟩ :=
  if_pos h

theorem outcomeOfAnswer_of_broken {t : Trial} {head : ReplyHead}
    (h : head.status = t.case.expect.statusCode) (error : Error) :
    t.outcomeOfAnswer head (.error error) = .error ⟨.readBody, error⟩ :=
  if_neg (not_not_intro h)

theorem outcomeOfAnswer_of_read {t : Trial} {head : ReplyHead}
    (h : head.status = t.case.expect.statusCode) (body : Octets) :
    t.outcomeOfAnswer head (.ok body) = t.outcomeOfBody body :=
  if_neg (not_not_intro h)

theorem read_of_outcomeOfAnswer_eq_ok {t : Trial} {head : ReplyHead} {read : Except Error Octets}
    {body : Octets} (h : t.outcomeOfAnswer head read = .ok body) : read = .ok body := by
  by_cases hstatus : head.status = t.case.expect.statusCode
  · cases read with
    | error error =>
      rw [outcomeOfAnswer_of_broken hstatus] at h
      cases h
    | ok body' =>
      rw [outcomeOfAnswer_of_read hstatus, outcomeOfBody] at h
      split at h
      · cases h
      · rw [Except.ok.inj h]
  · rw [outcomeOfAnswer_of_ne hstatus] at h
    cases h

/-- The body of the answer if all stages succeed, or else what fails first. -/
def outcome (t : Trial) : Except CaseFailure Octets :=
  match t.case.request.build t.cache with
  | .error error => .error ⟨.build, error⟩
  | .ok request =>
    match (t.transport.send request).1 with
    | .refused error _ => .error ⟨.dispatch, error⟩
    | .answered head body _ => t.outcomeOfAnswer head body

/-- What failed, if anything did. -/
def failure (t : Trial) : Option CaseFailure :=
  match t.outcome with
  | .ok _ => none
  | .error failure => some failure

theorem failure_of_ok {t : Trial} {body : Octets} (h : t.outcome = .ok body) :
    t.failure = none := by
  unfold Trial.failure
  rw [h]

theorem failure_of_error {t : Trial} {failure : CaseFailure} (h : t.outcome = .error failure) :
    t.failure = some failure := by
  unfold Trial.failure
  rw [h]

theorem outcome_of_failure_eq_none {t : Trial} (h : t.failure = none) :
    ∃ body, t.outcome = .ok body := by
  cases houtcome : t.outcome with
  | ok body => exact ⟨body, rfl⟩
  | error failure =>
    rw [failure_of_error houtcome] at h
    cases h

theorem outcome_of_failure_eq_some {t : Trial} {failure : CaseFailure}
    (h : t.failure = some failure) : t.outcome = .error failure := by
  unfold Trial.failure at h
  cases houtcome : t.outcome with
  | ok body =>
    rw [houtcome] at h
    cases h
  | error other =>
    rw [houtcome] at h
    rw [Option.some.inj h]

/-- What the message of the result says after the place of the case. -/
def text (t : Trial) : String :=
  match t.failure with
  | none => "Success"
  | some failure => failure.error.message

theorem text_of_none {t : Trial} (h : t.failure = none) : t.text = "Success" := by
  unfold text
  rw [h]

theorem text_of_some {t : Trial} {failure : CaseFailure} (h : t.failure = some failure) :
    t.text = failure.error.message := by
  unfold text
  rw [h]

/-- The message of a success is put together like that of a failure. -/
theorem message_of_success (number : String) :
    number ++ ". Success" = number ++ ". " ++ "Success" := by
  rw [String.append_assoc]
  rfl

/-- The request that is sent, if there is one. -/
def request? (t : Trial) : Option OutboundRequest :=
  (t.case.request.build t.cache).toOption

theorem request?_eq_some_iff {t : Trial} {request : OutboundRequest} :
    t.request? = some request ↔ t.case.request.build t.cache = .ok request := by
  unfold request?
  cases t.case.request.build t.cache with
  | error error => exact ⟨nofun, nofun⟩
  | ok built => exact ⟨fun h => congrArg _ (Option.some.inj h), fun h => congrArg _ h⟩

/-- The body that a successful trial comes to is the one that its request was answered with. -/
theorem answered_of_outcome_eq_ok {t : Trial} {body : Octets} (h : t.outcome = .ok body) :
    ∃ request head elapsed, t.request? = some request ∧
      (t.transport.send request).1 = .answered head (.ok body) elapsed := by
  unfold outcome at h
  unfold request?
  cases hbuild : t.case.request.build t.cache with
  | error error =>
    rw [hbuild] at h
    cases h
  | ok request =>
    simp only [hbuild] at h
    cases hreply : (t.transport.send request).1 with
    | refused error elapsed =>
      simp only [hreply] at h
      cases h
    | answered head read elapsed =>
      simp only [hreply] at h
      obtain rfl := read_of_outcomeOfAnswer_eq_ok h
      exact ⟨request, head, elapsed, rfl, hreply⟩

/-- The cache when the case is over. -/
def cacheAfter (t : Trial) : Cache :=
  match t.outcome with
  | .ok body => t.case.cacheAfter body t.cache
  | .error _ => t.cache

theorem cacheAfter_of_ok {t : Trial} {body : Octets} (h : t.outcome = .ok body) :
    t.cacheAfter = t.case.cacheAfter body t.cache := by
  unfold cacheAfter
  rw [h]

theorem cacheAfter_of_failure_ne_none {t : Trial} (h : t.failure ≠ none) :
    t.cacheAfter = t.cache := by
  unfold cacheAfter
  cases houtcome : t.outcome with
  | ok body => exact absurd (failure_of_ok houtcome) h
  | error failure => rfl

/-- The transport when the case is over. -/
def transportAfter (t : Trial) : Transport :=
  match t.request? with
  | some request => (t.transport.send request).2
  | none => t.transport

theorem transportAfter_of_some {t : Trial} {request : OutboundRequest}
    (h : t.request? = some request) : t.transportAfter = (t.transport.send request).2 := by
  unfold transportAfter
  rw [h]

theorem transportAfter_of_none {t : Trial} (h : t.request? = none) :
    t.transportAfter = t.transport := by
  unfold transportAfter
  rw [h]

end Trial

/-! ### The stages -/

@[simp] theorem Session.cache_line (pieces : List String) (session : Session) :
    (session.line pieces).cache = session.cache := rfl

@[simp] theorem Session.transport_line (pieces : List String) (session : Session) :
    (session.line pieces).transport = session.transport := rfl

/-- What a result says about its case whatever becomes of it: when it was started, in which
scenario, its number, its name and the status it expects. -/
def TestResult.heading (result : TestResult) : Int64 × String × UInt32 × String × UInt16 :=
  (result.timestamp, result.scenarioName, result.testCaseOrder, result.testCaseName,
    result.expectedCode)

/-- What stages that are given a result and a session leave of them, and what they come to. -/
structure Course.Leaves (course : Course) (result : TestResult) (cache : Cache)
    (transport : Transport) (outcome : Except CaseFailure Octets) : Prop where
  heading : course.result.heading = result.heading
  cache : course.session.cache = cache
  transport : course.session.transport = transport
  outcome : course.outcome = outcome

namespace TestCase

variable (case : TestCase) (context : CaseContext)

theorem leaves_afterBody (body : Octets) (result : TestResult) (session : Session) :
    (case.afterBody context body result session).Leaves result session.cache session.transport
      ((case.trial context.evaluator session).outcomeOfBody body) := by
  unfold afterBody Trial.outcomeOfBody
  simp only [Session.cache_line, case_trial, evaluator_trial, cache_trial]
  cases hcheck : case.expect.checkBody context.evaluator session.cache body with
  | error error => exact ⟨rfl, rfl, rfl, rfl⟩
  | ok _ => exact ⟨rfl, rfl, rfl, rfl⟩

theorem leaves_afterHead (head : ReplyHead) (body : Except Error Octets) (elapsed : Double)
    (result : TestResult) (session : Session) :
    (case.afterHead context head body elapsed result session).Leaves result session.cache
      session.transport ((case.trial context.evaluator session).outcomeOfAnswer head body) := by
  unfold afterHead
  by_cases hstatus : head.status = case.expect.statusCode
  · rw [if_neg (not_not_intro hstatus)]
    cases body with
    | error error =>
      rw [Trial.outcomeOfAnswer_of_broken (t := case.trial context.evaluator session) hstatus]
      exact ⟨rfl, rfl, rfl, rfl⟩
    | ok body =>
      rw [Trial.outcomeOfAnswer_of_read (t := case.trial context.evaluator session) hstatus]
      have h := case.leaves_afterBody context body { result with
        responseCode := head.status
        responseSize := sizeOfBody head body
        timing := { head.timing with total := elapsed } } session
      exact ⟨h.heading, h.cache, h.transport, h.outcome⟩
  · rw [if_pos hstatus,
      Trial.outcomeOfAnswer_of_ne (t := case.trial context.evaluator session) hstatus]
    exact ⟨rfl, rfl, rfl, rfl⟩

/-- The stages come to the outcome of the trial, leave the cache alone, and send its request. -/
theorem leaves_stages (result : TestResult) (session : Session) :
    (case.stages context result session).Leaves result session.cache
      (case.trial context.evaluator session).transportAfter
      (case.trial context.evaluator session).outcome := by
  unfold stages Trial.outcome Trial.transportAfter Trial.request?
  simp only [case_trial, cache_trial, transport_trial]
  cases hbuild : case.request.build session.cache with
  | error error => exact ⟨rfl, rfl, rfl, rfl⟩
  | ok request =>
    simp only [afterBuild, Session.transport_line, Except.toOption]
    cases hreply : (session.transport.send request).1 with
    | refused error elapsed => exact ⟨rfl, rfl, rfl, rfl⟩
    | answered head body elapsed =>
      have h := case.leaves_afterHead context head body elapsed
        { result with requestMethod := request.method, requestUrl := request.url }
        { session.line [toString context.position, ". Request: ", request.method, " ",
            request.url] with transport := (session.transport.send request).2 }
      exact ⟨h.heading, h.cache, h.transport, h.outcome⟩

end TestCase

/-! ### The whole case -/

/-- The course of the stages when a case is run: the case has been announced by a line of progress,
and its result is a fresh one. -/
def TestCase.course (case : TestCase) (context : CaseContext) (session : Session) : Course :=
  case.stages context (TestResult.begin context.startedAt context.scenarioName case)
    (session.line [toString context.position, ". Test case: name=", case.name, " desc=",
      case.description, " onfail=", case.pipeline.onFailure.name])

theorem TestCase.run_of_ok {case : TestCase} {context : CaseContext} {session : Session}
    {body : Octets} (h : (case.course context session).outcome = .ok body) :
    case.run context session =
      (⟨(case.course context session).result.succeed (toString context.position ++ ". Success"),
          none⟩,
        ({ (case.course context session).session with
          cache := case.cacheAfter body (case.course context session).session.cache }).line
            [toString context.position ++ ". Success"]) := by
  unfold run
  unfold course at h ⊢
  simp only [h]

theorem TestCase.run_of_error {case : TestCase} {context : CaseContext} {session : Session}
    {failure : CaseFailure} (h : (case.course context session).outcome = .error failure) :
    case.run context session =
      (⟨(case.course context session).result.fail
            (toString context.position ++ ". " ++ failure.error.message),
          some failure⟩,
        (case.course context session).session.line
          [toString context.position ++ ". " ++ failure.error.message]) := by
  unfold run
  unfold course at h ⊢
  simp only [h]

/-- What a case leaves behind that is run in a context: what its report says, and the session. -/
structure Trial.Leaves (t : Trial) (context : CaseContext) (report : CaseReport)
    (session : Session) : Prop where
  failure : report.failure = t.failure
  success : report.result.success = t.failure.isNone
  message : report.result.message = toString context.position ++ ". " ++ t.text
  heading : report.result.heading =
    (TestResult.begin context.startedAt context.scenarioName t.case).heading
  cache : session.cache = t.cacheAfter
  transport : session.transport = t.transportAfter

/-- A result bears the number and the name of its case. -/
theorem Trial.Leaves.order_name {t : Trial} {context : CaseContext} {report : CaseReport}
    {session : Session} (h : t.Leaves context report session) :
    report.result.testCaseOrder = t.case.order ∧ report.result.testCaseName = t.case.name :=
  ⟨congrArg (fun heading => heading.2.2.1) h.heading,
    congrArg (fun heading => heading.2.2.2.1) h.heading⟩

/-- What running a case leaves behind is told by its trial. -/
theorem TestCase.leaves_run (case : TestCase) (context : CaseContext) (session : Session) :
    (case.trial context.evaluator session).Leaves context (case.run context session).1
      (case.run context session).2 := by
  -- the announcement changes nothing that the trial is made of
  have h : (case.course context session).Leaves _ session.cache
      (case.trial context.evaluator session).transportAfter
      (case.trial context.evaluator session).outcome :=
    case.leaves_stages context _ _
  cases houtcome : (case.course context session).outcome with
  | ok body =>
    have htrial : (case.trial context.evaluator session).outcome = .ok body := by
      rw [← h.outcome, houtcome]
    have hfailure := Trial.failure_of_ok htrial
    rw [run_of_ok houtcome]
    generalize case.course context session = course at h
    refine ⟨hfailure.symm, ?_, ?_, h.heading, ?_, h.transport⟩
    · rw [hfailure]
      rfl
    · rw [Trial.text_of_none hfailure, ← Trial.message_of_success]
      rfl
    · rw [Trial.cacheAfter_of_ok htrial]
      exact congrArg (case.cacheAfter body) h.cache
  | error failure =>
    have htrial : (case.trial context.evaluator session).outcome = .error failure := by
      rw [← h.outcome, houtcome]
    have hfailure := Trial.failure_of_error htrial
    rw [run_of_error houtcome]
    generalize case.course context session = course at h
    refine ⟨hfailure.symm, ?_, ?_, h.heading, ?_, h.transport⟩
    · rw [hfailure]
      rfl
    · unfold Trial.text
      rw [hfailure]
      rfl
    · rw [Trial.cacheAfter_of_failure_ne_none (by rw [hfailure]; exact Option.some_ne_none _)]
      exact h.cache

end HttpScenario
