import HttpScenario.Proofs.Assertion.Evaluation
import HttpScenario.Proofs.Case.Trial
import HttpScenario.Proofs.Http.Build
/-!
# When a case succeeds

A case succeeds if six conditions are met, and they are looked at in one order: the request can be
built, it is answered, the status is the expected one, the body can be read, the object that the
expressions are about is in it, and each expression is true of that object.  `Condition.Met` says
what each of them asks in terms of the request, the answer, the document and the expressions, and
not of the stages.

The main statement is `run_decided_by_conditions`.  A case is reported as a success exactly if all
conditions are met; otherwise the first one that is not decides the stage at which the case is
reported to have failed (`Condition.stage`) and the error (`Condition.Explains`).  No condition asks
for the place of the case, the time or the sink.

The proof follows the answer inwards: `Trial.Answered.decided_of_read` for a body that has been
read, `Trial.Answered.decided` for any answer, and `Trial.decided` for every trial.  Each step
names the first condition that is not met, and there is only one (`Condition.first_unmet_unique`).
-/

namespace HttpScenario

/-! ### What is looked at -/

/-- The value of a document that an expectation is about: the whole document unless a path is
given that is not empty. -/
def Expectation.target? (expect : Expectation) (root : Json) : Option Json :=
  match expect.evaluationObject with
  | none => some root
  | some path => if path = "" then some root else root.valueAt? (.ofText path)

/-- The octets are a document, and the object is what the expectation is about in it. -/
def Expectation.Finds (expect : Expectation) (body : Octets) (object : Json.Object) : Prop :=
  ∃ root, Json.parse body = .ok root ∧ expect.target? root = some (.obj object)

namespace Trial

variable (t : Trial)

/-- The template gives the request, and it can be sent. -/
def Builds (request : OutboundRequest) : Prop :=
  t.case.request.build t.cache = .ok request

/-- The request is refused. -/
def Refused (error : Error) : Prop :=
  ∃ request elapsed, t.Builds request ∧
    (t.transport.send request).1 = .refused error elapsed

/-- The request is answered, with a body that can be read or not. -/
def Answered (head : ReplyHead) (body : Except Error Octets) : Prop :=
  ∃ request elapsed, t.Builds request ∧
    (t.transport.send request).1 = .answered head body elapsed

/-- The answer has a body, and the object is in it. -/
def Checks (object : Json.Object) : Prop :=
  ∃ head body, t.Answered head (.ok body) ∧ t.case.expect.Finds body object

/-- What checking an expression against the object comes to; its placeholders are read from the
cache that the case has been started with. -/
def check (object : Json.Object) (e : Expression) : Except Error Bool :=
  t.evaluator.check e object t.cache

end Trial

/-! ### The conditions -/

/-- What has to hold for a case to succeed, in the order in which it is looked at. -/
inductive Condition where
  | requestBuilt
  | requestAnswered
  | statusExpected
  | bodyRead
  | objectFound
  | expressionsTrue
  deriving DecidableEq, Repr

namespace Condition

/-- The place of a condition in the order. -/
def place : Condition → Nat
  | requestBuilt => 0
  | requestAnswered => 1
  | statusExpected => 2
  | bodyRead => 3
  | objectFound => 4
  | expressionsTrue => 5

/-- The stage that fails if a condition is the first that is not met. -/
def stage : Condition → Stage
  | requestBuilt => .build
  | requestAnswered => .dispatch
  | statusExpected => .assertStatus
  | bodyRead => .readBody
  | objectFound => .assertBody
  | expressionsTrue => .assertBody

/-- What a condition asks. -/
def Met (t : Trial) : Condition → Prop
  | requestBuilt => ∃ request, t.Builds request
  | requestAnswered => ∃ head body, t.Answered head body
  | statusExpected => ∃ head body, t.Answered head body ∧ head.status = t.case.expect.statusCode
  | bodyRead => ∃ head body, t.Answered head (.ok body)
  | objectFound => ∃ object, t.Checks object
  | expressionsTrue => ∃ object, t.Checks object ∧
      ∀ e ∈ t.case.expect.evaluate, t.check object e = .ok true

/-- A condition is not met, and all before it are. -/
def FirstUnmet (t : Trial) (condition : Condition) : Prop :=
  ¬ condition.Met t ∧ ∀ earlier : Condition, earlier.place < condition.place → earlier.Met t

/-- The error that a condition stands for if it is the first that is not met.  What the other side
has reported is passed on as it is. -/
def Explains (t : Trial) (error : Error) : Condition → Prop
  | requestBuilt => error.kind = .build
  | requestAnswered => t.Refused error
  | statusExpected => error.kind = .expectation
  | bodyRead => ∃ head, t.Answered head (.error error)
  | objectFound => error.kind = .parse
  | expressionsTrue => ∃ object before e rest, t.Checks object ∧
      t.case.expect.evaluate = before ++ e :: rest ∧
      (∀ e' ∈ before, t.check object e' = .ok true) ∧
      (t.check object e = .ok false ∧ error.kind = .expectation ∨
        t.check object e = .error error ∧ error.kind = .evaluator)

theorem place_injective {a b : Condition} (h : a.place = b.place) : a = b := by
  cases a <;> cases b <;> first | rfl | cases h

/-- At most one condition is the first that is not met. -/
theorem first_unmet_unique {t : Trial} {a b : Condition} (ha : a.FirstUnmet t)
    (hb : b.FirstUnmet t) : a = b := by
  apply place_injective
  rcases Nat.lt_trichotomy a.place b.place with h | h | h
  · exact absurd (hb.2 a h) ha.1
  · exact h
  · exact absurd (ha.2 b h) hb.1

end Condition

/-! ### The object of a body -/

theorem Expectation.target?_eq_of_projection (expect : Expectation) (root : Json) :
    expect.target? root =
      match expect.projection with
      | none => some root
      | some path => root.valueAt? (.ofText path) := by
  unfold target? projection
  cases expect.evaluationObject with
  | none => rfl
  | some path =>
    by_cases hpath : path = ""
    · subst hpath
      rfl
    · simp [Option.filter, hpath]

/-- A body has at most one object that an expectation is about. -/
theorem Expectation.Finds.unique {expect : Expectation} {body : Octets}
    {object object' : Json.Object} (h : expect.Finds body object)
    (h' : expect.Finds body object') : object = object' := by
  obtain ⟨root, hroot, htarget⟩ := h
  obtain ⟨root', hroot', htarget'⟩ := h'
  cases hroot.symm.trans hroot'
  cases htarget.symm.trans htarget'
  rfl

/-- Either an object is found, or the body is refused as not the one that was expected. -/
theorem bodyObject_cases (expect : Expectation) (body : Octets) :
    (∃ object, expect.Finds body object ∧ bodyObject body expect.projection = .ok object) ∨
      ((¬ ∃ object, expect.Finds body object) ∧
        ∃ message, bodyObject body expect.projection = .error (.parse message)) := by
  unfold bodyObject
  cases hparse : Json.parse body with
  | error fault =>
    refine Or.inr ⟨?_, fault.message, rfl⟩
    rintro ⟨object, root, hroot, -⟩
    rw [hparse] at hroot
    cases hroot
  | ok root =>
    have htarget := expect.target?_eq_of_projection root
    have hfinds : ∀ object, expect.Finds body object ↔
        expect.target? root = some (.obj object) := by
      intro object
      constructor
      · rintro ⟨root', hroot', h⟩
        rw [hparse] at hroot'
        cases hroot'
        exact h
      · exact fun h => ⟨root, hparse, h⟩
    simp only [hfinds, htarget, bind, Except.bind]
    cases expect.projection with
    | none =>
      cases root with
      | obj members => exact Or.inl ⟨members, rfl, rfl⟩
      | null | bool | num | str | arr =>
        refine Or.inr ⟨?_, _, rfl⟩
        rintro ⟨object, h⟩
        cases h
    | some path =>
      simp only
      cases root.valueAt? (.ofText path) with
      | none =>
        refine Or.inr ⟨?_, _, rfl⟩
        rintro ⟨object, h⟩
        cases h
      | some target =>
        cases target with
        | obj members => exact Or.inl ⟨members, rfl, rfl⟩
        | null | bool | num | str | arr =>
          refine Or.inr ⟨?_, _, rfl⟩
          rintro ⟨object, h⟩
          cases h

/-! ### What a trial comes to -/

namespace Trial

variable {t : Trial}

/-- An object is found and every expression is true of it, or there is none, or a first expression
is not true of it. -/
theorem outcomeOfBody_cases (t : Trial) (body : Octets) :
    (∃ object, t.case.expect.Finds body object ∧
        (∀ e ∈ t.case.expect.evaluate, t.check object e = .ok true) ∧
        t.outcomeOfBody body = .ok body) ∨
      ((¬ ∃ object, t.case.expect.Finds body object) ∧
        ∃ error : Error, error.kind = .parse ∧
          t.outcomeOfBody body = .error ⟨.assertBody, error⟩) ∨
      ∃ object before e rest, ∃ error : Error, t.case.expect.Finds body object ∧
        t.case.expect.evaluate = before ++ e :: rest ∧
        (∀ e' ∈ before, t.check object e' = .ok true) ∧
        (t.check object e = .ok false ∧ error.kind = .expectation ∨
          t.check object e = .error error ∧ error.kind = .evaluator) ∧
        t.outcomeOfBody body = .error ⟨.assertBody, error⟩ := by
  unfold outcomeOfBody Expectation.checkBody
  rcases bodyObject_cases t.case.expect body with ⟨object, hfinds, hobject⟩ | ⟨hnone, text, hobject⟩
  · rw [hobject]
    have hcases := evaluateFrom_cases t.evaluator object t.cache 0 t.case.expect.evaluate
    rcases hcases with ⟨hall, hpass⟩ | ⟨before, e, rest, hsplit, hbefore, hfirst⟩
    · refine Or.inl ⟨object, hfinds, hall, ?_⟩
      simp only [bind, Except.bind, evaluateAll, hpass]
    · refine Or.inr (Or.inr ?_)
      rcases hfirst with ⟨hfalse, hfail⟩ | ⟨error, herror, hfail⟩
      · refine ⟨object, before, e, rest,
          .expectation ("Expression " ++ toString (0 + before.length + 1) ++
            " evaluated to false: " ++ e.display),
          hfinds, hsplit, hbefore, Or.inl ⟨hfalse, rfl⟩, ?_⟩
        simp only [bind, Except.bind, evaluateAll, hfail]
      · refine ⟨object, before, e, rest, error, hfinds, hsplit, hbefore,
          Or.inr ⟨herror, EvaluatorKind.kind_of_check_eq_error herror⟩, ?_⟩
        simp only [bind, Except.bind, evaluateAll, hfail]
  · refine Or.inr (Or.inl ⟨hnone, .parse text, rfl, ?_⟩)
    rw [hobject]
    rfl

theorem Builds.unique {request request' : OutboundRequest} (h : t.Builds request)
    (h' : t.Builds request') : request = request' :=
  Except.ok.inj (h.symm.trans h')

/-- A request meets one reply only. -/
theorem Answered.unique {head head' : ReplyHead} {body body' : Except Error Octets}
    (h : t.Answered head body) (h' : t.Answered head' body') : head = head' ∧ body = body' := by
  obtain ⟨request, elapsed, hbuilds, hsend⟩ := h
  obtain ⟨request', elapsed', hbuilds', hsend'⟩ := h'
  obtain rfl := hbuilds.unique hbuilds'
  rw [hsend] at hsend'
  cases hsend'
  exact ⟨rfl, rfl⟩

/-- A request that is refused is not answered. -/
theorem not_answered_of_refused {request : OutboundRequest} {error : Error} {elapsed : Double}
    (hbuilds : t.Builds request) (hsend : (t.transport.send request).1 = .refused error elapsed)
    (head : ReplyHead) (body : Except Error Octets) : ¬ t.Answered head body := by
  rintro ⟨request', elapsed', hbuilds', hsend'⟩
  obtain rfl := hbuilds.unique hbuilds'
  cases hsend.symm.trans hsend'

/-- The outcome of a trial whose request is answered is that of the answer. -/
theorem Answered.outcome_eq {head : ReplyHead} {body : Except Error Octets}
    (h : t.Answered head body) : t.outcome = t.outcomeOfAnswer head body := by
  obtain ⟨request, elapsed, hbuilds, hsend⟩ := h
  unfold outcome
  rw [show t.case.request.build t.cache = .ok request from hbuilds]
  simp only [hsend]

/-- What a trial can come to: all conditions are met and it succeeds, or there is a first that is
not, and it fails at the stage of that one with an error that is explained by it. -/
def Decided (t : Trial) : Prop :=
  ((∀ condition : Condition, condition.Met t) ∧ ∃ body, t.outcome = .ok body) ∨
    ∃ condition : Condition, ∃ error, condition.FirstUnmet t ∧ condition.Explains t error ∧
      t.outcome = .error ⟨condition.stage, error⟩

/-- A trial is decided once the body has been read: what is left are the object in it and the
expressions. -/
theorem Answered.decided_of_read {head : ReplyHead} {body : Octets}
    (h : t.Answered head (.ok body)) (hstatus : head.status = t.case.expect.statusCode) :
    t.Decided := by
  have hbuilt : Condition.requestBuilt.Met t := by
    obtain ⟨request, -, hbuilds, -⟩ := h
    exact ⟨request, hbuilds⟩
  have hanswered : Condition.requestAnswered.Met t := ⟨head, _, h⟩
  have hexpected : Condition.statusExpected.Met t := ⟨head, _, h, hstatus⟩
  have hread : Condition.bodyRead.Met t := ⟨head, body, h⟩
  have houtcome : t.outcome = t.outcomeOfBody body := by
    rw [h.outcome_eq, outcomeOfAnswer_of_read hstatus]
  have hchecks : ∀ object, t.Checks object ↔ t.case.expect.Finds body object := by
    intro object
    constructor
    · rintro ⟨head', body', h', hfinds⟩
      cases (h.unique h').2
      exact hfinds
    · exact fun hfinds => ⟨head, body, h, hfinds⟩
  rcases t.outcomeOfBody_cases body with ⟨object, hfinds, hall, hok⟩ |
    ⟨hnone, error, hkind, herror⟩ |
    ⟨object, before, e, rest, error, hfinds, hsplit, hbefore, hfirst, herror⟩
  · refine Or.inl ⟨fun condition => ?_, body, houtcome.trans hok⟩
    have hfound : Condition.objectFound.Met t := ⟨object, (hchecks object).mpr hfinds⟩
    have htrue : Condition.expressionsTrue.Met t := ⟨object, (hchecks object).mpr hfinds, hall⟩
    cases condition <;> assumption
  · refine Or.inr ⟨.objectFound, error, ⟨?_, ?_⟩, hkind, houtcome.trans herror⟩
    · rintro ⟨object, hobject⟩
      exact hnone ⟨object, (hchecks object).mp hobject⟩
    · intro earlier hearlier
      cases earlier <;> first | assumption | exact absurd hearlier (by decide)
  · have hobject := (hchecks object).mpr hfinds
    have hfound : Condition.objectFound.Met t := ⟨object, hobject⟩
    refine Or.inr ⟨.expressionsTrue, error, ⟨?_, ?_⟩,
      ⟨object, before, e, rest, hobject, hsplit, hbefore, hfirst⟩, houtcome.trans herror⟩
    · rintro ⟨object', hobject', hall⟩
      -- the body has one object only, and `e` is not true of it
      have hsame := ((hchecks object').mp hobject').unique hfinds
      subst hsame
      have htrue : t.check object' e = .ok true :=
        hall e (by rw [hsplit]; exact List.mem_append_cons_self)
      rcases hfirst with ⟨hfalse, -⟩ | ⟨herror, -⟩
      · cases htrue.symm.trans hfalse
      · cases htrue.symm.trans herror
    · intro earlier hearlier
      cases earlier <;> first | assumption | exact absurd hearlier (by decide)

/-- A trial whose request is answered is decided. -/
theorem Answered.decided {head : ReplyHead} {body : Except Error Octets}
    (h : t.Answered head body) : t.Decided := by
  have hbuilt : Condition.requestBuilt.Met t := by
    obtain ⟨request, -, hbuilds, -⟩ := h
    exact ⟨request, hbuilds⟩
  have hanswered : Condition.requestAnswered.Met t := ⟨head, body, h⟩
  by_cases hstatus : head.status = t.case.expect.statusCode
  · cases body with
    | ok body => exact h.decided_of_read hstatus
    | error error =>
      have hexpected : Condition.statusExpected.Met t := ⟨head, _, h, hstatus⟩
      refine Or.inr ⟨.bodyRead, error, ⟨?_, ?_⟩, ⟨head, h⟩, ?_⟩
      · rintro ⟨head', body, h'⟩
        cases (h.unique h').2
      · intro earlier hearlier
        cases earlier <;> first | assumption | exact absurd hearlier (by decide)
      · rw [h.outcome_eq, outcomeOfAnswer_of_broken hstatus]
        rfl
  · refine Or.inr ⟨.statusExpected, .statusMismatch t.case.expect.statusCode head.status,
      ⟨?_, ?_⟩, rfl, ?_⟩
    · rintro ⟨head', body', h', hstatus'⟩
      rw [← (h.unique h').1] at hstatus'
      exact hstatus hstatus'
    · intro earlier hearlier
      cases earlier <;> first | assumption | exact absurd hearlier (by decide)
    · rw [h.outcome_eq, outcomeOfAnswer_of_ne hstatus]
      rfl

/-- Every trial is decided. -/
theorem decided (t : Trial) : t.Decided := by
  cases hbuild : t.case.request.build t.cache with
  | error error =>
    refine Or.inr ⟨.requestBuilt, error, ⟨?_, ?_⟩, Request.kind_of_build_eq_error hbuild, ?_⟩
    · rintro ⟨request, hbuilds⟩
      cases hbuild.symm.trans hbuilds
    · intro earlier hearlier
      cases hearlier
    · unfold outcome
      rw [hbuild]
      rfl
  | ok request =>
    cases hsend : (t.transport.send request).1 with
    | answered head body elapsed =>
      have hanswered : t.Answered head body := ⟨request, elapsed, hbuild, hsend⟩
      exact hanswered.decided
    | refused error elapsed =>
      have hbuilt : Condition.requestBuilt.Met t := ⟨request, hbuild⟩
      refine Or.inr ⟨.requestAnswered, error, ⟨?_, ?_⟩, ⟨request, elapsed, hbuild, hsend⟩, ?_⟩
      · rintro ⟨head, body, hanswered⟩
        exact not_answered_of_refused hbuild hsend head body hanswered
      · intro earlier hearlier
        cases earlier <;> first | assumption | exact absurd hearlier (by decide)
      · unfold outcome
        rw [hbuild]
        simp only [hsend]
        rfl

end Trial

/-! ### What a case is reported as -/

/-- A case is reported as a success exactly if all conditions are met.  If one is not, the first
that is not gives the stage at which the case is reported to have failed, and explains the error;
and a case is not reported to have failed for any other reason. -/
theorem run_decided_by_conditions (case : TestCase) (context : CaseContext) (session : Session) :
    let t := case.trial context.evaluator session
    let report := (case.run context session).1
    (report.failure = none ↔ ∀ condition : Condition, condition.Met t) ∧
      (report.result.success = true ↔ ∀ condition : Condition, condition.Met t) ∧
      (∀ condition : Condition, condition.FirstUnmet t →
        ∃ error, report.failure = some ⟨condition.stage, error⟩ ∧ condition.Explains t error) ∧
      ∀ failure, report.failure = some failure → ∃ condition : Condition, condition.FirstUnmet t ∧
        failure.stage = condition.stage ∧ condition.Explains t failure.error := by
  intro t report
  have hleaves : t.Leaves context report _ := case.leaves_run context session
  rw [hleaves.failure, hleaves.success, Option.isNone_iff_eq_none]
  rcases t.decided with ⟨hall, body, hok⟩ | ⟨first, error, hfirst, hexplains, herror⟩
  · have hnone := Trial.failure_of_ok hok
    refine ⟨⟨fun _ => hall, fun _ => hnone⟩, ⟨fun _ => hall, fun _ => hnone⟩, ?_, ?_⟩
    · intro condition hcondition
      exact absurd (hall condition) hcondition.1
    · intro failure hfailure
      cases hnone.symm.trans hfailure
  · have hsome := Trial.failure_of_error herror
    have hnone : t.failure = none ↔ ∀ condition : Condition, condition.Met t := by
      constructor
      · intro h
        cases hsome.symm.trans h
      · intro hall
        exact absurd (hall first) hfirst.1
    refine ⟨hnone, hnone, ?_, ?_⟩
    · intro condition hcondition
      rw [Condition.first_unmet_unique hcondition hfirst]
      exact ⟨error, hsome, hexplains⟩
    · intro failure hfailure
      cases hsome.symm.trans hfailure
      exact ⟨first, hfirst, rfl, hexplains⟩

end HttpScenario
