import HttpScenario.CommandLine.Perform
import HttpScenario.Proofs.Sequence
/-!
# Verdicts of commands

A command that comes to an end says whether all is well.  What it says is told here by what the
command is about, and not by its outputs: the command that describes the scenario of a file goes by
the kinds of its expressions (`Command.result_check_eq_ok_iff`), and the one that runs it by the
outcome of the run (`Command.result_run_eq_ok_iff`), whether or not that is shown as a document.
There is no verdict if a file or a client cannot be had.
-/

namespace HttpScenario

open CommandLine

theorem CommandLine.Response.result_eq_ok_iff (made : Except Error Response) {verdict : Bool} :
    (match made with
      | .ok response => response
      | .error error => .ofError error).result = .ok verdict ↔
      ∃ response, made = .ok response ∧ response.result = .ok verdict := by
  cases made with
  | error error =>
    constructor
    · intro h
      cases h
    · rintro ⟨response, hmade, -⟩
      cases hmade
  | ok made =>
    constructor
    · intro h
      exact ⟨made, rfl, h⟩
    · rintro ⟨response, hmade, h⟩
      cases hmade
      exact h

@[simp] theorem CommandLine.result_runResponse (colors json : Bool) (total : Nat)
    (progress : String) (outcome : RunOutcome) :
    (runResponse colors json total progress outcome).result = .ok outcome.isSuccess := by
  cases json <;> rfl

/-- There is a client if there is a transport, and it is the one that requests meet. -/
theorem HttpClient.ofConfig_eq_ok_iff {config : HttpConfig} {network : Network}
    {client : HttpClient} :
    HttpClient.ofConfig config network = .ok client ↔ network config = .ok client.transport := by
  unfold HttpClient.ofConfig
  cases network config with
  | error message => exact ⟨nofun, nofun⟩
  | ok transport =>
    constructor
    · rintro ⟨⟩
      rfl
    · rintro ⟨⟩
      rfl

namespace Command

variable {around : Surroundings} {path : String} {verdict : Bool}

/-- A scenario is described as one where all is well if its expressions are of one kind at most. -/
theorem result_check_eq_ok_iff :
    ((Command.check path).perform around).result = .ok verdict ↔
      ∃ scenario, around.loadScenario path = .ok scenario ∧
        decide (scenario.expressionKinds.length ≤ 1) = verdict := by
  refine (Response.result_eq_ok_iff (performCheck around path)).trans ?_
  unfold performCheck
  constructor
  · rintro ⟨response, hresponse, hresult⟩
    obtain ⟨scenario, hload, hok⟩ := bind_eq_ok_iff.mp hresponse
    cases hok
    exact ⟨scenario, hload, Except.ok.inj hresult⟩
  · rintro ⟨scenario, hload, rfl⟩
    exact ⟨_, bind_eq_ok_iff.mpr ⟨scenario, hload, rfl⟩, rfl⟩

/-- The run that a command makes of a scenario, with a configuration and over a transport. -/
def ended (around : Surroundings) (config : Config) (scenario : Scenario) (transport : Transport)
    (evaluator : Option EvaluatorKind) : Scenario.RunEnd :=
  scenario.run (evaluator.getD config.evaluator) around.clock transport .reliable

/-- All is well with a run of a scenario if its outcome is a success, over whatever transport the
network gives. -/
theorem result_run_eq_ok_iff {evaluator : Option EvaluatorKind} {json : Bool}
    {configPath : Option String} :
    ((Command.run path evaluator json configPath).perform around).result = .ok verdict ↔
      ∃ config scenario transport, around.loadConfig configPath = .ok config ∧
        around.loadScenario path = .ok scenario ∧ around.network config.http = .ok transport ∧
        (ended around config scenario transport evaluator).outcome.isSuccess = verdict := by
  refine (Response.result_eq_ok_iff (performRun around path evaluator json configPath)).trans ?_
  unfold performRun
  constructor
  · rintro ⟨response, hresponse, hresult⟩
    obtain ⟨config, hconfig, hresponse⟩ := bind_eq_ok_iff.mp hresponse
    obtain ⟨scenario, hload, hresponse⟩ := bind_eq_ok_iff.mp hresponse
    obtain ⟨client, hclient, hok⟩ := bind_eq_ok_iff.mp hresponse
    rw [← Except.ok.inj hok, result_runResponse] at hresult
    exact ⟨config, scenario, client.transport, hconfig, hload,
      HttpClient.ofConfig_eq_ok_iff.mp hclient, Except.ok.inj hresult⟩
  · rintro ⟨config, scenario, transport, hconfig, hload, hnetwork, hsuccess⟩
    have hclient : HttpClient.ofConfig config.http around.network = .ok ⟨transport⟩ :=
      HttpClient.ofConfig_eq_ok_iff.mpr hnetwork
    refine ⟨_, bind_eq_ok_iff.mpr ⟨config, hconfig, bind_eq_ok_iff.mpr ⟨scenario, hload,
      bind_eq_ok_iff.mpr ⟨_, hclient, rfl⟩⟩⟩, ?_⟩
    rw [result_runResponse, ← hsuccess]
    rfl

end Command

end HttpScenario
