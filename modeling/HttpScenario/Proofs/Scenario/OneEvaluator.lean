import HttpScenario.Proofs.Assertion.Kinds
import HttpScenario.Proofs.Case.Conditions
import HttpScenario.Proofs.CommandLine.Verdict
import HttpScenario.Proofs.Scenario.Record
import HttpScenario.Proofs.Scenario.RoundTrip
import HttpScenario.Proofs.Scenario.Transcript
/-!
# One evaluator for all cases

Whether some evaluator can check all cases of a scenario can be told without running it, from the
kinds of its expressions.  The main statement, `Scenario.kinds_decide_evaluation`, says what the
answer is worth.  An evaluator that fits the kind refuses no expression; if all expressions are
scripts, no case can fail with an error of the evaluator any more, and if all are rules, only a case
with a rule that cannot be compiled can.

Errors are told apart by their class, and the other side could report one of any class.  So the
statement is about transports that report nothing but errors of an exchange
(`Transport.Ordinary`), which no turn changes (`Relay.ordinary`).  What is left of the conditions of
a case are then the expressions: an error of the evaluator is that of one of them
(`Trial.exists_check_eq_error`).
-/

namespace HttpScenario

/-! ### Transports that report errors of an exchange -/

/-- An error of an exchange: there is no answer, or its body cannot be read. -/
def Error.OfExchange : Error → Prop
  | .transport _ => True
  | .bodyRead _ => True
  | _ => False

theorem Error.OfExchange.kind_ne_evaluator {error : Error} (h : error.OfExchange) :
    error.kind ≠ .evaluator := by
  cases error with
  | transport message => exact nofun
  | bodyRead message => exact nofun
  | _ => exact False.elim h

/-- A reply reports no error but that of an exchange. -/
def Reply.Ordinary : Reply → Prop
  | .refused error _ => error.OfExchange
  | .answered _ (.error error) _ => error.OfExchange
  | .answered _ (.ok _) _ => True

/-- All replies that a transport is going to give are ordinary. -/
structure Transport.Ordinary (transport : Transport) : Prop where
  replies : ∀ reply ∈ transport.replies, reply.Ordinary
  afterwards : ∀ request, (transport.afterwards request).Ordinary

theorem Transport.Ordinary.reply {transport : Transport} (h : transport.Ordinary)
    (request : OutboundRequest) : (transport.send request).1.Ordinary := by
  rw [transport.reply_send]
  cases hfirst : transport.replies[0]? with
  | none => exact h.afterwards request
  | some reply => exact h.replies reply (List.mem_of_getElem? hfirst)

theorem Transport.Ordinary.send {transport : Transport} (h : transport.Ordinary)
    (request : OutboundRequest) : (transport.send request).2.Ordinary where
  replies := by
    intro reply hreply
    rw [transport.replies_send] at hreply
    exact h.replies reply (List.mem_of_mem_drop hreply)
  afterwards := by
    rw [transport.afterwards_send]
    exact h.afterwards

/-- A turn does not make replies any less ordinary. -/
theorem Turn.ordinary_after {turn : Turn} (h : turn.session.transport.Ordinary) :
    turn.after.transport.Ordinary := by
  rw [turn.leaves.transport]
  cases hrequest : turn.trial.request? with
  | none =>
    rw [Trial.transportAfter_of_none hrequest]
    exact h
  | some request =>
    rw [Trial.transportAfter_of_some hrequest]
    exact h.send request

/-- Along turns that are passed a session, the transport stays ordinary. -/
theorem Relay.ordinary {session final : Session} {turns : List Turn}
    (h : Relay session turns final) (hstart : session.transport.Ordinary) :
    final.transport.Ordinary :=
  h.invariant (P := fun _ session => session.transport.Ordinary)
    (fun _ _ hbefore => Turn.ordinary_after hbefore) [] hstart

/-! ### Where an error of the evaluator comes from -/

namespace Trial

variable {t : Trial}

/-- If the other side reports errors of an exchange only, an error of the evaluator is that of an
expression. -/
theorem exists_check_eq_error (hordinary : t.transport.Ordinary) {failure : CaseFailure}
    (h : t.failure = some failure) (hkind : failure.error.kind = .evaluator) :
    ∃ object, ∃ e ∈ t.case.expect.evaluate, t.check object e = .error failure.error := by
  have houtcome := outcome_of_failure_eq_some h
  rcases t.decided with ⟨-, body, hok⟩ | ⟨condition, error, -, hexplains, herror⟩
  · cases hok.symm.trans houtcome
  · obtain rfl : failure = ⟨condition.stage, error⟩ := Except.error.inj (houtcome.symm.trans herror)
    -- of the conditions that are not about expressions, each has errors of another class
    cases condition with
    | requestBuilt => cases hexplains.symm.trans hkind
    | requestAnswered =>
      obtain ⟨request, elapsed, -, hreply⟩ := hexplains
      have hreported := hordinary.reply request
      rw [hreply] at hreported
      exact absurd hkind (Error.OfExchange.kind_ne_evaluator hreported)
    | statusExpected => cases hexplains.symm.trans hkind
    | bodyRead =>
      obtain ⟨head, request, elapsed, -, hreply⟩ := hexplains
      have hreported := hordinary.reply request
      rw [hreply] at hreported
      exact absurd hkind (Error.OfExchange.kind_ne_evaluator hreported)
    | objectFound => cases hexplains.symm.trans hkind
    | expressionsTrue =>
      obtain ⟨object, before, e, rest, -, hsplit, -, hfirst⟩ := hexplains
      rcases hfirst with ⟨-, hexpectation⟩ | ⟨hcheck, -⟩
      · cases hexpectation.symm.trans hkind
      · refine ⟨object, e, ?_, hcheck⟩
        rw [hsplit]
        exact List.mem_append_cons_self

end Trial

namespace Scenario

variable {scenario : Scenario} {transport : Transport}

/-- The turns of a run are about expressions of the scenario. -/
theorem mem_expressions_of_mem_turns {evaluator : EvaluatorKind} {clock : Nat → Int64}
    {sink : Sink} {turn : Turn} (hturn : turn ∈ scenario.turns evaluator clock transport sink)
    {e : Expression} (he : e ∈ turn.case.expect.evaluate) : e ∈ scenario.expressions :=
  List.mem_flatMap_of_mem
    ((scenario.runs_run evaluator clock transport sink).mem_cases hturn) he

/-- If a case fails with an error of the evaluator, the evaluator has met an expression of the case
that it cannot check, with the cache that the case has been started with. -/
theorem exists_check_eq_error (hordinary : transport.Ordinary) {evaluator : EvaluatorKind}
    {clock : Nat → Int64} {sink : Sink} {turn : Turn}
    (hturn : turn ∈ scenario.turns evaluator clock transport sink) {failure : CaseFailure}
    (hfailure : turn.report.failure = some failure) (hkind : failure.error.kind = .evaluator) :
    ∃ object, ∃ e ∈ turn.case.expect.evaluate,
      evaluator.check e object turn.session.cache = .error failure.error := by
  have hruns := scenario.runs_run evaluator clock transport sink
  obtain ⟨before, rest, hsplit⟩ := List.append_of_mem hturn
  have hbefore : turn.session.transport.Ordinary :=
    (hruns.relay.before hsplit).ordinary hordinary
  rw [turn.leaves.failure] at hfailure
  obtain ⟨object, e, he, hcheck⟩ := Trial.exists_check_eq_error hbefore hfailure hkind
  have hevaluator : turn.trial.evaluator = evaluator := hruns.evaluator_eq hturn
  rw [Trial.check, hevaluator] at hcheck
  exact ⟨object, e, he, hcheck⟩

/-- What the kinds of expressions in a scenario say about runs of it. -/
structure KindsDecide (scenario : Scenario) (clock : Nat → Int64) (transport : Transport)
    (sink : Sink) : Prop where
  /-- Each kind that occurs is listed once, in the order in which the kinds are first met. -/
  gathered : FirstSeen (scenario.expressions.map Expression.kind) scenario.expressionKinds
  /-- There is at most one kind exactly if some evaluator refuses no expression. -/
  verdict : scenario.expressionKinds.length ≤ 1 ↔ ∃ kind, scenario.Suits kind
  /-- The command that describes the scenario of a file says whether there is such an evaluator. -/
  command : ∀ (around : CommandLine.Surroundings) (path : String),
    around.loadScenario path = .ok scenario →
      ∃ verdict, ((Command.check path).perform around).result = .ok verdict ∧
        (verdict = true ↔ ∃ kind, scenario.Suits kind)
  /-- The turns of a run are those of its results. -/
  results : ∀ evaluator, (scenario.run evaluator clock transport sink).outcome.results =
    (scenario.turns evaluator clock transport sink).map (·.report.result)
  /-- If all expressions are scripts, no case fails with an error of their evaluator. -/
  scripts : (∀ e ∈ scenario.expressions, e.kind = .script) →
    ∀ turn ∈ scenario.turns .script clock transport sink,
      ∀ failure, turn.report.failure = some failure → failure.error.kind ≠ .evaluator
  /-- If all expressions are rules, a case fails with an error of their evaluator only if one of its
  rules names no operator, or names `matches` with a value that is no pattern once it is resolved. -/
  rules : (∀ e ∈ scenario.expressions, e.kind = .rules) →
    ∀ turn ∈ scenario.turns .rules clock transport sink,
      ∀ failure, turn.report.failure = some failure → failure.error.kind = .evaluator →
        ∃ rule, .rule rule ∈ turn.case.expect.evaluate ∧ rule.Unfit turn.session.cache

/-- The kinds of expressions decide whether one evaluator can check a scenario; over a transport that
reports errors of an exchange only, it then does, but for rules that cannot be compiled. -/
theorem kinds_decide_evaluation (hordinary : transport.Ordinary) (scenario : Scenario)
    (clock : Nat → Int64) (sink : Sink) : scenario.KindsDecide clock transport sink where
  gathered := scenario.firstSeen_expressionKinds
  verdict := scenario.length_expressionKinds_le_one_iff
  command := by
    intro around path hload
    refine ⟨decide (scenario.expressionKinds.length ≤ 1),
      Command.result_check_eq_ok_iff.mpr ⟨scenario, hload, rfl⟩, ?_⟩
    rw [decide_eq_true_eq]
    exact scenario.length_expressionKinds_le_one_iff
  results := fun evaluator => (scenario.runs_run evaluator clock transport sink).results_eq
  scripts := by
    intro hscripts turn hturn failure hfailure hkind
    obtain ⟨object, e, he, hcheck⟩ := exists_check_eq_error hordinary hturn hfailure hkind
    have hscript := hscripts e (mem_expressions_of_mem_turns hturn he)
    cases e with
    | script source => cases hcheck
    | rule rule => cases hscript
  rules := by
    intro hrules turn hturn failure hfailure hkind
    obtain ⟨object, e, he, hcheck⟩ := exists_check_eq_error hordinary hturn hfailure hkind
    have hrule := hrules e (mem_expressions_of_mem_turns hturn he)
    cases e with
    | script source => cases hrule
    | rule rule => exact ⟨rule, he, Rule.unfit_of_check_eq_error hcheck⟩

/-! ### Scenarios of one case -/

/-- A rule that names no operator. -/
def sampleRule : Rule :=
  { prop := "a", operator := "~" }

/-- A file with a scenario of one case. -/
def sampleFile (expressions : List Expression) : CommandLine.Surroundings where
  read := fun _ => .ok (({ cases := [samplePing expressions] } : Scenario).encode .json)
  isThere := fun _ => true
  network := .absent
  clock := fun _ => 0

theorem ordinary_samplePong (body : Octets) : (samplePong body).Ordinary :=
  ⟨List.forall_mem_singleton.mpr trivial, fun _ => trivial⟩

theorem load_sampleFile (expressions : List Expression)
    (h : ({ cases := [samplePing expressions] } : Scenario).toJson.depth ≤ Json.maxLevels) :
    (sampleFile expressions).loadScenario "ping.json" =
      .ok { cases := [samplePing expressions] } := by
  have hrestores := restores { cases := [samplePing expressions] } h (List.pairwise_singleton _ _)
    (List.forall_mem_singleton.mpr ⟨.nil, nofun⟩) (List.forall_mem_singleton.mpr nofun)
  have hformat : Format.ofPath "ping.json" = .json := by decide
  refine bind_eq_ok_iff.mpr ⟨_, rfl, ?_⟩
  rw [hformat]
  exact read_write_of_restores hrestores

theorem mem_turns_samplePing (expressions : List Expression) (evaluator : EvaluatorKind)
    (body : Octets) : sampleTurn expressions evaluator body ∈
      Scenario.turns { cases := [samplePing expressions] } evaluator (fun _ => 0) (samplePong body)
        .reliable := by
  rw [turns_samplePing]
  exact List.mem_singleton_self _

theorem failure_sampleTurn {expressions : List Expression} {evaluator : EvaluatorKind}
    {body : Octets} {failure : CaseFailure}
    (h : (sampleTurn expressions evaluator body).trial.outcomeOfBody body = .error failure) :
    (sampleTurn expressions evaluator body).report.failure = some failure := by
  rw [(sampleTurn expressions evaluator body).leaves.failure]
  exact Trial.failure_of_error ((outcome_sampleTurn expressions evaluator body).trans h)

/-- No evaluator can check a case with expressions of both kinds, and the command says so.  A script
that is none is false, and a rule that names no operator is an error of its evaluator. -/
theorem kinds_decide_evaluation_of_pings :
    (samplePong [0x7B, 0x7D]).Ordinary ∧
      (sampleFile [.script "a =", .rule sampleRule]).loadScenario "ping.json" =
        .ok { cases := [samplePing [.script "a =", .rule sampleRule]] } ∧
      ((Command.check "ping.json").perform (sampleFile [.script "a =", .rule sampleRule])).result =
        .ok false ∧
      (∃ failure,
        (sampleTurn [.script "a ="] .script [0x7B, 0x7D]).report.failure = some failure ∧
          failure.error.kind ≠ .evaluator) ∧
      (∃ failure,
        (sampleTurn [.rule sampleRule] .rules [0x7B, 0x7D]).report.failure = some failure ∧
          failure.error.kind = .evaluator) ∧
      sampleRule.Unfit .empty := by
  have hordinary := ordinary_samplePong [0x7B, 0x7D]
  have hload := load_sampleFile [.script "a =", .rule sampleRule] (by decide)
  have hboth := kinds_decide_evaluation hordinary
    { cases := [samplePing [.script "a =", .rule sampleRule]] } (fun _ => 0) .reliable
  have hscript := kinds_decide_evaluation hordinary { cases := [samplePing [.script "a ="]] }
    (fun _ => 0) .reliable
  have hrule := kinds_decide_evaluation hordinary { cases := [samplePing [.rule sampleRule]] }
    (fun _ => 0) .reliable
  obtain ⟨verdict, hresult, hverdict⟩ := hboth.command _ _ hload
  obtain rfl : verdict = false := by
    rw [← hboth.verdict] at hverdict
    exact Bool.eq_false_iff.mpr (mt hverdict.mp (by decide))
  have hfalse : (sampleTurn [.script "a ="] .script [0x7B, 0x7D]).report.failure =
      some ⟨.assertBody, .expectation "Expression 1 evaluated to false: a ="⟩ :=
    failure_sampleTurn (by cbv)
  have hunknown : (sampleTurn [.rule sampleRule] .rules [0x7B, 0x7D]).report.failure =
      some ⟨.assertBody, .evaluator "unknown operator '~'"⟩ :=
    failure_sampleTurn (by cbv)
  obtain ⟨rule, hmem, hunfit⟩ := hrule.rules (by decide) _
    (mem_turns_samplePing [.rule sampleRule] .rules [0x7B, 0x7D]) _ hunknown rfl
  obtain rfl : rule = sampleRule := Expression.rule.inj (List.mem_singleton.mp hmem)
  exact ⟨hordinary, hload, hresult, ⟨_, hfalse, hscript.scripts (by decide) _
    (mem_turns_samplePing [.script "a ="] .script [0x7B, 0x7D]) _ hfalse⟩, ⟨_, hunknown, rfl⟩,
    hunfit⟩

end Scenario

end HttpScenario
