import HttpScenario.Proofs.CommandLine.Verdict
import HttpScenario.Proofs.Scenario.OneEvaluator
import HttpScenario.Proofs.Scenario.Record
/-!
# What a run counts

An outcome counts the results that are successes, takes the others for failures, and calls itself a
success if none is a failure and nothing has stopped the run.  It does not know how many cases there
are.  The main statement, `run_counted`, says that its counts are right all the same: successes,
failures and the cases that had no turn add up to the number of cases, no number is taken from a
smaller one, and an outcome is a success exactly if every case had its turn and succeeded.  The
command that runs a scenario ends well exactly then, whatever transport its network gives.

A run that is cut short cannot pass for a success because only a failure cuts it short, and it says
so (`Runs.isSuccess_iff`).
-/

namespace HttpScenario

/-! ### Outcomes -/

namespace RunOutcome

variable (outcome : RunOutcome)

theorem passed_le_length : outcome.passed ≤ outcome.results.length :=
  List.length_filter_le _ _

/-- Each result is that of a success or of a failure. -/
theorem passed_add_failed : outcome.passed + outcome.failed = outcome.results.length :=
  Nat.add_sub_of_le outcome.passed_le_length

theorem failed_eq_zero_iff :
    outcome.failed = 0 ↔ ∀ result ∈ outcome.results, result.success = true := by
  unfold failed
  rw [Nat.sub_eq_zero_iff_le]
  constructor
  · intro hle
    exact List.length_filter_eq_length_iff.mp (Nat.le_antisymm outcome.passed_le_length hle)
  · intro hall
    exact Nat.le_of_eq (List.length_filter_eq_length_iff.mpr hall).symm

theorem isSuccess_eq_true_iff : outcome.isSuccess = true ↔
    outcome.aborted = none ∧ ∀ result ∈ outcome.results, result.success = true := by
  unfold isSuccess
  rw [Bool.and_eq_true, beq_iff_eq, failed_eq_zero_iff, Option.isNone_iff_eq_none]

end RunOutcome

/-! ### Turns -/

/-- A result says that the case is a success if it has not failed. -/
theorem Turn.success_iff (turn : Turn) : turn.report.result.success = true ↔ turn.Succeeds := by
  rw [turn.leaves.success, Option.isNone_iff_eq_none, ← turn.leaves.failure]
  rfl

namespace Runs

variable {context : RunContext} {position : Nat} {cases : List TestCase} {session final : Session}
  {turns : List Turn} {outcome : RunOutcome}

theorem length_turns_le (h : Runs context position cases session turns outcome final) :
    turns.length ≤ cases.length := by
  have hlength := congrArg List.length h.cases_eq_take
  rw [List.length_map, List.length_take] at hlength
  omega

theorem forall_success_iff (h : Runs context position cases session turns outcome final) :
    (∀ result ∈ outcome.results, result.success = true) ↔ ∀ turn ∈ turns, turn.Succeeds := by
  rw [h.results_eq, List.forall_mem_map]
  simp only [Turn.success_iff]

/-- The successes that are counted are the turns that succeed. -/
theorem passed_eq (h : Runs context position cases session turns outcome final) :
    outcome.passed = turns.countP fun turn => turn.Succeeds := by
  unfold RunOutcome.passed
  rw [h.results_eq, ← List.countP_eq_length_filter, List.countP_map]
  refine List.countP_congr fun turn _ => ?_
  rw [decide_eq_true_eq, Function.comp_apply]
  exact turn.success_iff

/-- An outcome is a success exactly if all cases have had their turn and succeeded: a turn that stops
the run is one that fails, so that no case is left without a turn if all turns succeed. -/
theorem isSuccess_iff (h : Runs context position cases session turns outcome final) :
    outcome.isSuccess = true ↔
      turns.map (·.case) = cases ∧ ∀ turn ∈ turns, turn.Succeeds := by
  rw [outcome.isSuccess_eq_true_iff, h.forall_success_iff]
  have hgoes : (∀ turn ∈ turns, turn.Succeeds) → ∀ turn ∈ turns, ¬ turn.Stops :=
    fun hall turn hturn hstops => hstops.1 (hall turn hturn)
  constructor
  · rintro ⟨-, hall⟩
    exact ⟨h.cases_eq (hgoes hall), hall⟩
  · rintro ⟨-, hall⟩
    refine ⟨Option.not_isSome_iff_eq_none.mp ?_, hall⟩
    rw [h.aborted_iff]
    rintro ⟨turn, hturn, hstops⟩
    exact hgoes hall turn hturn hstops

/-- The turns have the places from the first on, so that no place exceeds the number of cases. -/
theorem place_le (h : Runs context 1 cases session turns outcome final) {turn : Turn}
    (hturn : turn ∈ turns) :
    1 ≤ turn.context.position ∧ turn.context.position ≤ cases.length := by
  obtain ⟨k, hk⟩ := List.getElem?_of_mem hturn
  have hlt : k < turns.length := (List.getElem?_eq_some_iff.mp hk).1
  rw [h.context_eq hk, RunContext.position_case]
  exact ⟨Nat.le_add_left 1 k, Nat.le_trans hlt h.length_turns_le⟩

/-- A turn that stops the run has the last place. -/
theorem place_of_stops (h : Runs context 1 cases session turns outcome final) {turn : Turn}
    (hturn : turn ∈ turns) (hstops : turn.Stops) :
    turn.context.position = outcome.results.length := by
  obtain ⟨before, rest, hsplit⟩ := List.append_of_mem hturn
  obtain rfl := h.eq_nil_of_stops hsplit hstops
  have hlast : turns[before.length]? = some turn := by
    rw [hsplit, List.getElem?_concat_length]
  rw [h.context_eq hlast, RunContext.position_case, h.results_eq, List.length_map, hsplit,
    List.length_append, List.length_singleton]

end Runs

/-! ### A run -/

namespace Scenario

/-- Every case has had its turn, and succeeded. -/
def AllPass (scenario : Scenario) (turns : List Turn) : Prop :=
  turns.map (·.case) = scenario.cases ∧ ∀ turn ∈ turns, turn.Succeeds

/-- What the counts of an outcome say about the turns of a run. -/
structure Counted (scenario : Scenario) (turns : List Turn) (outcome : RunOutcome) : Prop where
  /-- The first cases get their turn, in order. -/
  cases : turns.map (·.case) = scenario.cases.take turns.length
  /-- There is one result for each turn, in order. -/
  results : outcome.results = turns.map (·.report.result)
  /-- There are no more results than cases. -/
  results_le : outcome.results.length ≤ scenario.cases.length
  /-- There are no more successes than results. -/
  passed_le : outcome.passed ≤ outcome.results.length
  /-- The successes are the turns that succeed. -/
  passed : outcome.passed = turns.countP fun turn => turn.Succeeds
  /-- The failures are the turns that do not. -/
  failed : outcome.failed = turns.countP fun turn => ¬ turn.Succeeds
  /-- The place of a turn is between one and the number of cases. -/
  place : ∀ turn ∈ turns,
    1 ≤ turn.context.position ∧ turn.context.position ≤ scenario.cases.length
  /-- The cases after the turn that stops a run are those without a result. -/
  stopped : ∀ turn ∈ turns, turn.Stops → turn.context.position = outcome.results.length
  /-- Successes, failures and the cases without a result are all cases. -/
  total : outcome.passed + outcome.failed + (scenario.cases.length - outcome.results.length) =
    scenario.cases.length
  /-- The outcome is a success exactly if every case has had its turn, and succeeded. -/
  success : outcome.isSuccess = true ↔ scenario.AllPass turns
  /-- That can be told from the results and the number of cases. -/
  told : scenario.AllPass turns ↔ outcome.results.length = scenario.cases.length ∧
    ∀ result ∈ outcome.results, result.success = true

theorem counted_run (scenario : Scenario) (evaluator : EvaluatorKind) (clock : Nat → Int64)
    (transport : Transport) (sink : Sink) :
    scenario.Counted (scenario.turns evaluator clock transport sink)
      (scenario.run evaluator clock transport sink).outcome := by
  have hruns := scenario.runs_run evaluator clock transport sink
  generalize scenario.turns evaluator clock transport sink = turns at hruns ⊢
  generalize (scenario.run evaluator clock transport sink).outcome = outcome at hruns ⊢
  have hresults : outcome.results.length = turns.length := by
    rw [hruns.results_eq, List.length_map]
  have hle : outcome.results.length ≤ scenario.cases.length := by
    rw [hresults]
    exact hruns.length_turns_le
  refine
    { cases := hruns.cases_eq_take
      results := hruns.results_eq
      results_le := hle
      passed_le := outcome.passed_le_length
      passed := hruns.passed_eq
      failed := ?_
      place := fun turn hturn => hruns.place_le hturn
      stopped := fun turn hturn hstops => hruns.place_of_stops hturn hstops
      total := ?_
      success := hruns.isSuccess_iff
      told := ?_ }
  · have hall : turns.length = (turns.countP fun turn => turn.Succeeds) +
        turns.countP fun turn => ¬ turn.Succeeds := by
      simpa using turns.length_eq_countP_add_countP fun turn => decide turn.Succeeds
    have hsum := outcome.passed_add_failed
    rw [hruns.passed_eq] at hsum
    omega
  · rw [outcome.passed_add_failed]
    exact Nat.add_sub_of_le hle
  · unfold AllPass
    rw [hruns.forall_success_iff, hresults]
    refine and_congr_left fun _ => ?_
    constructor
    · intro hcases
      rw [← hcases, List.length_map]
    · intro hlength
      rw [hruns.cases_eq_take, hlength, List.take_length]

end Scenario

/-- Whatever becomes of a run, its counts are right, and its outcome is a success exactly if every
case has had its turn and succeeded.  The command that runs the scenario of a file ends well exactly
then, over whatever transport its network gives. -/
theorem run_counted :
    (∀ (scenario : Scenario) (evaluator : EvaluatorKind) (clock : Nat → Int64)
        (transport : Transport) (sink : Sink),
      scenario.Counted (scenario.turns evaluator clock transport sink)
        (scenario.run evaluator clock transport sink).outcome) ∧
      ∀ (around : CommandLine.Surroundings) (path : String) (evaluator : Option EvaluatorKind)
        (json : Bool) (configPath : Option String),
        ((Command.run path evaluator json configPath).perform around).result = .ok true ↔
          ∃ config scenario transport, around.loadConfig configPath = .ok config ∧
            around.loadScenario path = .ok scenario ∧ around.network config.http = .ok transport ∧
            scenario.AllPass (scenario.turns (evaluator.getD config.evaluator) around.clock
              transport .reliable) := by
  refine ⟨Scenario.counted_run, ?_⟩
  intro around path evaluator json configPath
  rw [Command.result_run_eq_ok_iff]
  simp only [Command.ended, (Scenario.counted_run _ _ _ _ _).success]

/-- The command ends well over a network that answers the one case of a file. -/
theorem run_counted_of_pong :
    ((Command.run "ping.json" (some .script) false none).perform
      { Scenario.sampleFile [] with
        network := fun _ => .ok (samplePong [0x7B, 0x7D]) }).result = .ok true := by
  have hload := Scenario.load_sampleFile [] (by decide)
  have houtcome : (sampleTurn [] .script [0x7B, 0x7D]).trial.outcome = .ok [0x7B, 0x7D] := by
    rw [outcome_sampleTurn]
    cbv
  have hsucceeds : (sampleTurn [] .script [0x7B, 0x7D]).Succeeds := by
    rw [Turn.Succeeds, (sampleTurn [] .script [0x7B, 0x7D]).leaves.failure,
      Trial.failure_of_ok houtcome]
  refine (run_counted.2 _ "ping.json" (some .script) false none).mpr
    ⟨{}, { cases := [samplePing []] }, samplePong [0x7B, 0x7D], rfl, hload, rfl, ?_⟩
  show Scenario.AllPass _
    (Scenario.turns _ .script (fun _ => 0) (samplePong [0x7B, 0x7D]) .reliable)
  rw [turns_samplePing]
  exact ⟨rfl, List.forall_mem_singleton.mpr hsucceeds⟩

end HttpScenario
