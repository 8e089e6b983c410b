import HttpScenario.Proofs.Case.Trial
import HttpScenario.Scenario.Run
/-!
# The turns of a run

A run gives one case after the other its turn, until there are no more cases or one of them stops
it.  `turns` lists them, each with the session that its case starts with; that session is the one
the turn before has left behind.  This is what a run does as a list, so that statements about "the
k-th case that was run" or "the start of each case" have something to speak of.

`Runs` is a run as a derivation, with one rule for the end of the cases, one for a turn that stops
the run, and one for a turn that is followed by others.  `runs` derives every run so, and what a run
comes to is then read off the derivation by induction: its cases, its results, the reason why it was
stopped.  `Relay` keeps of this only how the session is passed on.  What is kept by every turn holds
at the start of each turn and at the end (`Relay.invariant`, `Relay.before`).
-/

namespace HttpScenario

/-- The body that a reply brings, if it brings one that can be read. -/
def Reply.body? : Reply → Option Octets
  | .answered _ (.ok body) _ => some body
  | .answered _ (.error _) _ => none
  | .refused _ _ => none

/-- The turn of a case in a run: where the case stands and what it starts with. -/
structure Turn where
  context : CaseContext
  case : TestCase
  session : Session

namespace Turn

variable (turn : Turn)

/-- What the case reports. -/
def report : CaseReport :=
  (turn.case.run turn.context turn.session).1

/-- The session that the case leaves behind. -/
def after : Session :=
  (turn.case.run turn.context turn.session).2

/-- What decides what the turn comes to. -/
def trial : Trial :=
  turn.case.trial turn.context.evaluator turn.session

@[simp] theorem case_trial : turn.trial.case = turn.case := rfl

@[simp] theorem cache_trial : turn.trial.cache = turn.session.cache := rfl

@[simp] theorem transport_trial : turn.trial.transport = turn.session.transport := rfl

/-- The request that is sent and the reply to it.  There is none if the request cannot be built. -/
def exchange? : Option (OutboundRequest × Reply) :=
  turn.trial.request?.map fun request => (request, (turn.session.transport.send request).1)

/-- The body of the answer, if there is one and it can be read. -/
def body? : Option Octets :=
  turn.exchange?.bind fun exchange => exchange.2.body?

theorem exchange?_of_request?_eq_some {turn : Turn} {request : OutboundRequest}
    (h : turn.trial.request? = some request) :
    turn.exchange? = some (request, (turn.session.transport.send request).1) := by
  rw [exchange?, h, Option.map_some]

theorem exchange?_of_request?_eq_none {turn : Turn} (h : turn.trial.request? = none) :
    turn.exchange? = none := by
  rw [exchange?, h, Option.map_none]

/-- A body that the stages come to is the one of the answer. -/
theorem body?_of_outcome_eq_ok {turn : Turn} {body : Octets} (h : turn.trial.outcome = .ok body) :
    turn.body? = some body := by
  obtain ⟨request, head, elapsed, hrequest, hreply⟩ := Trial.answered_of_outcome_eq_ok h
  rw [transport_trial] at hreply
  rw [body?, exchange?_of_request?_eq_some hrequest, Option.bind_some, hreply]
  rfl

/-- The case has not failed. -/
def Succeeds : Prop :=
  turn.report.failure = none

instance : Decidable turn.Succeeds :=
  inferInstanceAs (Decidable (_ = _))

/-- The case has failed, and asks for the run to be stopped then. -/
def Stops : Prop :=
  ¬ turn.Succeeds ∧ turn.case.pipeline.onFailure = .exit

instance : Decidable turn.Stops :=
  inferInstanceAs (Decidable (_ ∧ _))

/-- Why the turn stops its run, if it does. -/
def reason : String :=
  "Test case " ++ toString turn.context.position ++ " (" ++ turn.case.name ++ ") failed: " ++
    turn.trial.text

theorem run_eq : turn.case.run turn.context turn.session = (turn.report, turn.after) :=
  (Prod.eta _).symm

theorem leaves : turn.trial.Leaves turn.context turn.report turn.after :=
  turn.case.leaves_run turn.context turn.session

end Turn

section context

variable (context : RunContext) (position : Nat) (case : TestCase) (session : Session)

/-- The turn of a case at a position. -/
def RunContext.turn : Turn :=
  ⟨context.case position, case, session⟩

@[simp] theorem RunContext.position_case : (context.case position).position = position := rfl

@[simp] theorem RunContext.context_turn :
    (context.turn position case session).context = context.case position := rfl

@[simp] theorem RunContext.case_turn : (context.turn position case session).case = case := rfl

@[simp] theorem RunContext.session_turn :
    (context.turn position case session).session = session := rfl

end context

/-- The turns of cases, the first of which is at a position. -/
def turns (context : RunContext) (position : Nat) : List TestCase → Session → List Turn
  | [], _ => []
  | case :: cases, session =>
    let turn := context.turn position case session
    turn :: if turn.Stops then [] else turns context (position + 1) cases turn.after

theorem turns_singleton (context : RunContext) (position : Nat) (case : TestCase)
    (session : Session) :
    turns context position [case] session = [context.turn position case session] := by
  rw [turns, turns]
  exact congrArg _ (ite_self [])

/-! ### One turn and the rest -/

theorem Turn.text_of_failure {turn : Turn} {failure : CaseFailure}
    (h : turn.report.failure = some failure) : turn.trial.text = failure.error.message := by
  unfold Trial.text
  rw [← turn.leaves.failure, h]

theorem abortReason_eq_reason {turn : Turn} {failure : CaseFailure}
    (h : turn.report.failure = some failure) :
    abortReason turn.context.position turn.case failure = turn.reason := by
  unfold abortReason Turn.reason
  rw [Turn.text_of_failure h]

section rows

variable {context : RunContext} {position : Nat} {case : TestCase} {session : Session}
  {turn : Turn}

theorem turns_cons_of_stops (hturn : context.turn position case session = turn)
    (h : turn.Stops) (cases : List TestCase) :
    turns context position (case :: cases) session = [turn] := by
  rw [turns]
  simp only [hturn, if_pos h]

theorem turns_cons_of_not_stops (hturn : context.turn position case session = turn)
    (h : ¬ turn.Stops) (cases : List TestCase) :
    turns context position (case :: cases) session =
      turn :: turns context (position + 1) cases turn.after := by
  rw [turns]
  simp only [hturn, if_neg h]

/-- A run of some cases is the first one's turn, and then what follows from its report. -/
theorem runCases_cons (hturn : context.turn position case session = turn)
    (cases : List TestCase) :
    runCases context position (case :: cases) session =
      turn.report.goOn turn.context.position turn.case turn.after
        (runCases context (position + 1) cases) := by
  have hrun : case.run (context.case position) session = (turn.report, turn.after) := by
    rw [← hturn]
    exact (context.turn position case session).run_eq
  have hplace : turn.context.position = position := by
    rw [← hturn]
    rfl
  have hcase : turn.case = case := by
    rw [← hturn, RunContext.case_turn]
  rw [runCases, hrun, hplace, hcase]

theorem goOn_of_stops (h : turn.Stops) (session : Session)
    (others : Session → RunOutcome × Session) :
    turn.report.goOn turn.context.position turn.case session others =
      ({ results := [turn.report.result], aborted := some turn.reason }, session) := by
  obtain ⟨failure, hfailure⟩ := Option.ne_none_iff_exists'.mp h.1
  rw [CaseReport.goOn, hfailure, h.2, ← abortReason_eq_reason hfailure]

theorem goOn_of_not_stops (h : ¬ turn.Stops) (session : Session)
    (others : Session → RunOutcome × Session) :
    turn.report.goOn turn.context.position turn.case session others =
      ({ (others session).1 with
          results := turn.report.result :: (others session).1.results },
        (others session).2) := by
  rw [CaseReport.goOn]
  split
  · rename_i hfailure hexit
    refine absurd ⟨?_, hexit⟩ h
    rw [Turn.Succeeds, hfailure]
    exact Option.some_ne_none _
  · rfl

end rows

/-! ### Runs as derivations -/

/-- Running cases from a position and a session takes the turns, and comes to an outcome and a
session. -/
inductive Runs (context : RunContext) :
    Nat → List TestCase → Session → List Turn → RunOutcome → Session → Prop
  | finish (position : Nat) (session : Session) : Runs context position [] session [] {} session
  | stop (position : Nat) (turn : Turn) (cases : List TestCase)
      (hcontext : turn.context = context.case position) (hstops : turn.Stops) :
      Runs context position (turn.case :: cases) turn.session [turn]
        { results := [turn.report.result], aborted := some turn.reason } turn.after
  | next (position : Nat) (turn : Turn) (cases : List TestCase) (later : List Turn)
      (outcome : RunOutcome) (session : Session)
      (hcontext : turn.context = context.case position) (hstops : ¬ turn.Stops)
      (hlater : Runs context (position + 1) cases turn.after later outcome session) :
      Runs context position (turn.case :: cases) turn.session (turn :: later)
        { outcome with results := turn.report.result :: outcome.results } session

/-- Every run is derived. -/
theorem runs (context : RunContext) (position : Nat) (cases : List TestCase) (session : Session) :
    Runs context position cases session (turns context position cases session)
      (runCases context position cases session).1
      (runCases context position cases session).2 := by
  induction cases generalizing position session with
  | nil => exact .finish position session
  | cons case cases ih =>
    -- the turn is kept apart from its parts, which are only unfolded in the two equations
    obtain ⟨turn, hturn⟩ : ∃ turn, context.turn position case session = turn := ⟨_, rfl⟩
    have hcontext : turn.context = context.case position := by
      rw [← hturn, RunContext.context_turn]
    have hcase : case = turn.case := by
      rw [← hturn, RunContext.case_turn]
    have hsession : session = turn.session := by
      rw [← hturn, RunContext.session_turn]
    rw [runCases_cons hturn]
    by_cases hstops : turn.Stops
    · rw [turns_cons_of_stops hturn hstops, goOn_of_stops hstops, hcase, hsession]
      dsimp only
      exact .stop position turn cases hcontext hstops
    · rw [turns_cons_of_not_stops hturn hstops, goOn_of_not_stops hstops, hcase, hsession]
      dsimp only
      exact .next position turn cases _ _ _ hcontext hstops (ih (position + 1) turn.after)

namespace Runs

variable {context : RunContext} {position : Nat} {cases : List TestCase} {session final : Session}
  {turns : List Turn} {outcome : RunOutcome}

/-- There is one result for each turn, in order. -/
theorem results_eq (h : Runs context position cases session turns outcome final) :
    outcome.results = turns.map (·.report.result) := by
  induction h with
  | finish position session => rfl
  | stop position turn cases hcontext hstops => rfl
  | next position turn cases later outcome session hcontext hstops hlater ih =>
    rw [List.map_cons, ← ih]

/-- The cases that get their turn are the first ones. -/
theorem cases_eq_take (h : Runs context position cases session turns outcome final) :
    turns.map (·.case) = cases.take turns.length := by
  induction h with
  | finish position session => rfl
  | stop position turn cases hcontext hstops =>
    rw [List.length_singleton, List.take_succ_cons, List.take_zero]
    rfl
  | next position turn cases later outcome session hcontext hstops hlater ih =>
    rw [List.map_cons, List.length_cons, List.take_succ_cons, ih]

/-- If no turn stops the run, all cases get theirs. -/
theorem cases_eq (h : Runs context position cases session turns outcome final)
    (hgoes : ∀ turn ∈ turns, ¬ turn.Stops) : turns.map (·.case) = cases := by
  induction h with
  | finish position session => rfl
  | stop position turn cases hcontext hstops =>
    exact absurd hstops (hgoes turn (List.mem_singleton_self turn))
  | next position turn cases later outcome session hcontext hstops hlater ih =>
    rw [List.map_cons, ih fun other hother => hgoes other (List.mem_cons_of_mem turn hother)]

/-- Nothing follows a turn that stops the run. -/
theorem eq_nil_of_stops (h : Runs context position cases session turns outcome final)
    {before rest : List Turn} {turn : Turn} (hsplit : turns = before ++ turn :: rest)
    (hturn : turn.Stops) : rest = [] := by
  induction h generalizing before with
  | finish position session => simp at hsplit
  | stop position first cases hcontext hstops =>
    rcases List.cons_eq_append_iff.mp hsplit with ⟨rfl, hcons⟩ | ⟨others, rfl, hothers⟩
    · exact (List.cons.inj hcons).2
    · simp at hothers
  | next position first cases later outcome session hcontext hstops hlater ih =>
    rcases List.cons_eq_append_iff.mp hsplit with ⟨rfl, hcons⟩ | ⟨others, rfl, hothers⟩
    · rw [(List.cons.inj hcons).1] at hturn
      exact absurd hturn hstops
    · exact ih hothers

/-- The k-th turn has the k-th place. -/
theorem context_getElem (h : Runs context position cases session turns outcome final) {k : Nat}
    {turn : Turn} (hk : turns[k]? = some turn) : turn.context = context.case (position + k) := by
  induction h generalizing k with
  | finish position session => simp at hk
  | stop position first cases hcontext hstops =>
    cases k with
    | zero =>
      obtain rfl : first = turn := by simpa using hk
      exact hcontext
    | succ k => simp at hk
  | next position first cases later outcome session hcontext hstops hlater ih =>
    cases k with
    | zero =>
      obtain rfl : first = turn := by simpa using hk
      exact hcontext
    | succ k =>
      rw [List.getElem?_cons_succ] at hk
      rw [ih hk, Nat.add_assoc, Nat.add_comm 1 k]

/-- A turn is that of one of the cases. -/
theorem mem_cases (h : Runs context position cases session turns outcome final) {turn : Turn}
    (hturn : turn ∈ turns) : turn.case ∈ cases := by
  have hcase : turn.case ∈ turns.map (·.case) := List.mem_map_of_mem hturn
  rw [h.cases_eq_take] at hcase
  exact List.mem_of_mem_take hcase

/-- All turns have the evaluator of the run. -/
theorem evaluator_eq (h : Runs context position cases session turns outcome final) {turn : Turn}
    (hturn : turn ∈ turns) : turn.context.evaluator = context.evaluator := by
  obtain ⟨k, hk⟩ := List.getElem?_of_mem hturn
  rw [h.context_getElem hk]
  rfl

/-- A run is stopped for the reason of its last turn, if that turn stops it, and otherwise not. -/
theorem aborted_eq (h : Runs context position cases session turns outcome final) :
    outcome.aborted = (turns.find? fun turn => turn.Stops).map Turn.reason := by
  induction h with
  | finish position session => rfl
  | stop position turn cases hcontext hstops =>
    rw [List.find?_cons_of_pos (by simpa using hstops), Option.map_some]
  | next position turn cases later outcome session hcontext hstops hlater ih =>
    rw [List.find?_cons_of_neg (by simpa using hstops)]
    exact ih

end Runs

/-! ### What is passed on -/

/-- The first turn starts with one session, each of the others with what the turn before has left
behind, and the last one leaves the other session behind. -/
inductive Relay : Session → List Turn → Session → Prop
  | nil (session : Session) : Relay session [] session
  | cons (turn : Turn) {later : List Turn} {final : Session}
      (hlater : Relay turn.after later final) : Relay turn.session (turn :: later) final

theorem Runs.relay {context : RunContext} {position : Nat} {cases : List TestCase}
    {session final : Session} {turns : List Turn} {outcome : RunOutcome}
    (h : Runs context position cases session turns outcome final) :
    Relay session turns final := by
  induction h with
  | finish position session => exact .nil session
  | stop position turn cases hcontext hstops => exact .cons turn (.nil turn.after)
  | next position turn cases later outcome session hcontext hstops hlater ih => exact .cons turn ih

namespace Relay

variable {session final : Session}

/-- The turns before a turn lead to the session that it starts with. -/
theorem before {turns before rest : List Turn} {turn : Turn} (h : Relay session turns final)
    (hsplit : turns = before ++ turn :: rest) : Relay session before turn.session := by
  induction h generalizing before with
  | nil session => simp at hsplit
  | cons first hlater ih =>
    rcases List.cons_eq_append_iff.mp hsplit with ⟨rfl, hcons⟩ | ⟨others, rfl, hothers⟩
    · rw [(List.cons.inj hcons).1]
      exact .nil first.session
    · exact .cons first (ih hothers)

/-- What holds at the start of some turns and is kept by each turn holds after them. -/
theorem invariant {turns : List Turn} (h : Relay session turns final)
    {P : List Turn → Session → Prop}
    (hstep : ∀ before turn, P before turn.session → P (before ++ [turn]) turn.after)
    (done : List Turn) (hstart : P done session) : P (done ++ turns) final := by
  induction h generalizing done with
  | nil session =>
    rw [List.append_nil]
    exact hstart
  | cons turn hlater ih =>
    rw [List.append_cons]
    exact ih (done ++ [turn]) (hstep done turn hstart)

end Relay

/-! ### The run of a scenario -/

namespace Scenario

variable (scenario : Scenario) (evaluator : EvaluatorKind) (clock : Nat → Int64)
  (transport : Transport) (sink : Sink)

/-- The session that the first case of a run starts with. -/
def opening : Session :=
  (⟨scenario.cache, transport, { sink := sink }⟩ : Session).line scenario.headline

/-- The turns of a run of a scenario. -/
def turns : List Turn :=
  HttpScenario.turns ⟨scenario.name, evaluator, clock⟩ 1 scenario.cases
    (scenario.opening transport sink)

/-- The session that the last case of a run leaves behind. -/
def closing : Session :=
  (runCases ⟨scenario.name, evaluator, clock⟩ 1 scenario.cases
    (scenario.opening transport sink)).2

theorem run_eq :
    scenario.run evaluator clock transport sink =
      { outcome := (runCases ⟨scenario.name, evaluator, clock⟩ 1 scenario.cases
          (scenario.opening transport sink)).1
        scenario :=
          { scenario with cache := (scenario.closing evaluator clock transport sink).cache }
        transport := (scenario.closing evaluator clock transport sink).transport
        progress := (scenario.closing evaluator clock transport sink).progress } := rfl

theorem runs_run :
    Runs ⟨scenario.name, evaluator, clock⟩ 1 scenario.cases (scenario.opening transport sink)
      (scenario.turns evaluator clock transport sink)
      (scenario.run evaluator clock transport sink).outcome
      (scenario.closing evaluator clock transport sink) :=
  runs _ _ _ _

theorem relay_run :
    Relay (scenario.opening transport sink) (scenario.turns evaluator clock transport sink)
      (scenario.closing evaluator clock transport sink) :=
  (scenario.runs_run evaluator clock transport sink).relay

@[simp] theorem cache_run :
    (scenario.run evaluator clock transport sink).scenario.cache =
      (scenario.closing evaluator clock transport sink).cache := by
  rw [run_eq]

@[simp] theorem transport_run :
    (scenario.run evaluator clock transport sink).transport =
      (scenario.closing evaluator clock transport sink).transport := by
  rw [run_eq]

end Scenario

end HttpScenario
