import HttpScenario.Proofs.Http.Exchange
import HttpScenario.Proofs.Scenario.Turns
/-!
# What a run records

A run leaves three records: its results, the reason why it was stopped, and what the transport has
seen.  The main statement, `run_recorded`, says that they agree with each other and with the cases.

The cases that get their turn are the first ones, up to the first that fails and asks for the run to
be stopped, or all of them.  There is a result for each, in order, and its message starts with the
place of its case.  The run is stopped exactly if there is such a case, and the reason repeats what
the last message says.  Each case whose request can be built makes one exchange, and each other one
none, so that the k-th reply goes to the k-th case that has got so far.

Where a run ends and which cases it has come to is read off its derivation (`Runs`).  The exchanges
are an invariant along the session that is passed on (`Relay.exchanged`).
-/

namespace HttpScenario

/-! ### One turn -/

namespace Turn

variable (turn : Turn)

/-- The request of an exchange is the one that the case builds from the cache it starts with. -/
theorem request_exchange? :
    turn.exchange?.map (·.1) = (turn.case.request.build turn.session.cache).toOption := by
  rw [exchange?, Option.map_map]
  exact Option.map_id'

/-- A turn makes its exchange, if it has one, and otherwise leaves the transport alone. -/
theorem exchanged_after {transport : Transport} {exchanges : List (OutboundRequest × Reply)}
    (h : transport.Exchanged exchanges turn.session.transport) :
    transport.Exchanged (exchanges ++ turn.exchange?.toList) turn.after.transport := by
  rw [turn.leaves.transport]
  cases hrequest : turn.trial.request? with
  | none =>
    rw [exchange?_of_request?_eq_none hrequest, Trial.transportAfter_of_none hrequest,
      Option.toList_none, List.append_nil]
    exact h
  | some request =>
    rw [exchange?_of_request?_eq_some hrequest, Trial.transportAfter_of_some hrequest]
    exact h.send request

end Turn

/-! ### A run -/

/-- Along turns that are passed a session, the transport sees their exchanges. -/
theorem Relay.exchanged {session final : Session} {turns : List Turn}
    (h : Relay session turns final) :
    session.transport.Exchanged (turns.filterMap Turn.exchange?) final.transport := by
  refine h.invariant
    (P := fun before now => session.transport.Exchanged (before.filterMap Turn.exchange?)
      now.transport)
    ?_ [] session.transport.exchanged_nil
  intro before turn hbefore
  have hstep := turn.exchanged_after hbefore
  rw [List.filterMap_append]
  cases hexchange : turn.exchange? with
  | none =>
    rw [List.filterMap_cons_none hexchange, List.filterMap_nil]
    rw [hexchange] at hstep
    exact hstep
  | some exchange =>
    rw [List.filterMap_cons_some hexchange, List.filterMap_nil]
    rw [hexchange] at hstep
    exact hstep

/-- How the records of a run of a scenario agree with its turns. -/
structure Scenario.Recorded (scenario : Scenario) (evaluator : EvaluatorKind)
    (clock : Nat → Int64) (transport : Transport) (sink : Sink) (turns : List Turn)
    (finish : RunEnd) : Prop where
  /-- The first turn starts with the cache and the transport of the run, and each of the others with
  what the one before has left behind. -/
  relay : Relay (scenario.opening transport sink) turns
    (scenario.closing evaluator clock transport sink)
  /-- The first cases get their turn, in order. -/
  cases : turns.map (·.case) = scenario.cases.take turns.length
  /-- The turns end with the first that stops the run, or with the last case. -/
  ending :
    (∃ before turn, turns = before ++ [turn] ∧ turn.Stops ∧ ∀ other ∈ before, ¬ other.Stops) ∨
      (∀ turn ∈ turns, ¬ turn.Stops) ∧ turns.length = scenario.cases.length
  /-- There is one result for each turn, in order. -/
  results : finish.outcome.results = turns.map (·.report.result)
  /-- The k-th turn has the k-th place, in the context of the run. -/
  context : ∀ (k : Nat) (turn : Turn), turns[k]? = some turn →
    turn.context = RunContext.case ⟨scenario.name, evaluator, clock⟩ (k + 1)
  /-- The k-th result bears the number and the name of the k-th case, and k; it says whether the
  case has failed, and why. -/
  entry : ∀ (k : Nat) (turn : Turn), turns[k]? = some turn →
    turn.report.result.success = turn.report.failure.isNone ∧
      turn.report.result.testCaseOrder = turn.case.order ∧
      turn.report.result.testCaseName = turn.case.name ∧
      ∃ text, turn.report.result.message = toString (k + 1) ++ ". " ++ text ∧
        ∀ failure, turn.report.failure = some failure → text = failure.error.message
  /-- There is a reason exactly if a turn stops the run. -/
  aborted : finish.outcome.aborted.isSome ↔ ∃ turn ∈ turns, turn.Stops
  /-- The reason tells the place, the name and the text of the last result. -/
  reason : ∀ reason, finish.outcome.aborted = some reason →
    ∃ last text, finish.outcome.results.getLast? = some last ∧
      last.message = toString turns.length ++ ". " ++ text ∧
      reason = "Test case " ++ toString turns.length ++ " (" ++ last.testCaseName ++ ") failed: " ++
        text
  /-- A case that can build its request exchanges that request, and any other none. -/
  request : ∀ turn ∈ turns, turn.exchange?.map (·.1) =
    (turn.case.request.build turn.session.cache).toOption
  /-- The transport sees the exchanges of the turns, in order. -/
  exchanged : transport.Exchanged (turns.filterMap Turn.exchange?) finish.transport

namespace Runs

variable {context : RunContext} {position : Nat} {cases : List TestCase} {session final : Session}
  {turns : List Turn} {outcome : RunOutcome}

/-- A turn that stops the run is the last one, and the only one. -/
theorem stops_last (h : Runs context position cases session turns outcome final) {turn : Turn}
    (hfirst : turns.find? (fun turn => turn.Stops) = some turn) :
    ∃ before, turns = before ++ [turn] ∧ turn.Stops ∧ ∀ other ∈ before, ¬ other.Stops := by
  obtain ⟨hstops, before, rest, hsplit, hbefore⟩ := List.find?_eq_some_iff_append.mp hfirst
  have hturn : turn.Stops := of_decide_eq_true hstops
  obtain rfl := h.eq_nil_of_stops hsplit hturn
  refine ⟨before, hsplit, hturn, ?_⟩
  intro other hother
  simpa using hbefore other hother

theorem ending (h : Runs context position cases session turns outcome final) :
    (∃ before turn, turns = before ++ [turn] ∧ turn.Stops ∧ ∀ other ∈ before, ¬ other.Stops) ∨
      (∀ turn ∈ turns, ¬ turn.Stops) ∧ turns.length = cases.length := by
  cases hfirst : turns.find? (fun turn => turn.Stops) with
  | some turn =>
    obtain ⟨before, hlast⟩ := h.stops_last hfirst
    exact Or.inl ⟨before, turn, hlast⟩
  | none =>
    have hgoes : ∀ turn ∈ turns, ¬ turn.Stops := by
      intro turn hturn
      simpa using List.find?_eq_none.mp hfirst turn hturn
    refine Or.inr ⟨hgoes, ?_⟩
    rw [← h.cases_eq hgoes, List.length_map]

theorem aborted_iff (h : Runs context position cases session turns outcome final) :
    outcome.aborted.isSome ↔ ∃ turn ∈ turns, turn.Stops := by
  rw [h.aborted_eq, Option.isSome_map, List.find?_isSome]
  simp only [decide_eq_true_eq]

theorem context_eq (h : Runs context 1 cases session turns outcome final) {k : Nat} {turn : Turn}
    (hk : turns[k]? = some turn) : turn.context = context.case (k + 1) := by
  rw [h.context_getElem hk, Nat.add_comm 1 k]

/-- The message of the k-th turn starts with its place. -/
theorem message_getElem (h : Runs context 1 cases session turns outcome final) {k : Nat}
    {turn : Turn} (hk : turns[k]? = some turn) :
    turn.report.result.message = toString (k + 1) ++ ". " ++ turn.trial.text := by
  rw [turn.leaves.message, h.context_eq hk, RunContext.position_case]

theorem reason_of_aborted (h : Runs context 1 cases session turns outcome final) {reason : String}
    (haborted : outcome.aborted = some reason) :
    ∃ last text, outcome.results.getLast? = some last ∧
      last.message = toString turns.length ++ ". " ++ text ∧
      reason = "Test case " ++ toString turns.length ++ " (" ++ last.testCaseName ++ ") failed: " ++
        text := by
  rw [h.aborted_eq] at haborted
  obtain ⟨turn, hfirst, hreason⟩ := Option.map_eq_some_iff.mp haborted
  obtain ⟨before, hsplit, -, -⟩ := h.stops_last hfirst
  have hlength : turns.length = before.length + 1 := by
    rw [hsplit, List.length_append, List.length_singleton]
  have hlast : turns[before.length]? = some turn := by
    rw [hsplit, List.getElem?_concat_length]
  refine ⟨turn.report.result, turn.trial.text, ?_, ?_, ?_⟩
  · rw [h.results_eq, hsplit, List.map_append, List.map_singleton, List.getLast?_concat]
  · rw [h.message_getElem hlast, hlength]
  · rw [← hreason, turn.leaves.order_name.2, Turn.case_trial, hlength]
    unfold Turn.reason
    rw [h.context_eq hlast, RunContext.position_case]

end Runs

/-- The results, the reason and the exchanges of a run are those of its turns. -/
theorem run_recorded (scenario : Scenario) (evaluator : EvaluatorKind) (clock : Nat → Int64)
    (transport : Transport) (sink : Sink) :
    scenario.Recorded evaluator clock transport sink
      (scenario.turns evaluator clock transport sink)
      (scenario.run evaluator clock transport sink) := by
  have hruns := scenario.runs_run evaluator clock transport sink
  have hrelay := scenario.relay_run evaluator clock transport sink
  refine
    { relay := hrelay
      cases := hruns.cases_eq_take
      ending := hruns.ending
      results := hruns.results_eq
      context := fun k turn hk => hruns.context_eq hk
      entry := ?_
      aborted := hruns.aborted_iff
      reason := fun reason haborted => hruns.reason_of_aborted haborted
      request := fun turn _ => turn.request_exchange?
      exchanged := ?_ }
  · intro k turn hk
    obtain ⟨horder, hname⟩ := turn.leaves.order_name
    have hsuccess : turn.report.result.success = turn.report.failure.isNone := by
      rw [turn.leaves.success, turn.leaves.failure]
    exact ⟨hsuccess, horder, hname, turn.trial.text, hruns.message_getElem hk,
      fun failure hfailure => turn.text_of_failure hfailure⟩
  · rw [Scenario.transport_run]
    exact hrelay.exchanged

end HttpScenario
