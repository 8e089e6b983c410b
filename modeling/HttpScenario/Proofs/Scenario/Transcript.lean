import HttpScenario.CommandLine.Report
import HttpScenario.Proofs.Case.Conditions
import HttpScenario.Proofs.Http.Build
import HttpScenario.Proofs.Scenario.AnySink
import HttpScenario.Proofs.Scenario.Record
import HttpScenario.Proofs.Sequence
import HttpScenario.Proofs.Text.Utf8
import Mathlib
/-!
# The transcript of a run

What a run writes to a sink that never fails is a text, and the main statement, `run_transcribed`,
says which: the headline, and then a block of lines for each case that has got its turn, in order.
A block (`Turn.block`) announces its case, shows the request if it could be built and the body if it
was read, and ends with the message of the result.  Each line ends with one line end, and nothing
else is written.

The lines are handed to the sink in pieces.  That they are these lines is known from the lines of a
run (`Scenario.progress_run`); what is left is that such a sink takes all pieces
(`Sink.takes_reliable`), and that the pieces of lines make up their text (`Progress.flatten_piecesOf`).
-/

namespace HttpScenario

open CommandLine (linesText)

/-! ### Pieces and texts -/

/-- The pieces of lines make up the text of the lines. -/
theorem Progress.flatten_piecesOf (texts : List (List String)) :
    (piecesOf texts).flatten = Utf8.encode (linesText (texts.map String.join)) := by
  unfold piecesOf linesText
  rw [List.flatten_filter_not_isEmpty]
  induction texts with
  | nil => rfl
  | cons pieces texts ih =>
    have hline : Utf8.encode (String.join pieces ++ "\n") =
        (pieces.map Utf8.encode ++ [lineEnd]).flatten := by
      rw [Utf8.encode_append, Utf8.encode_join, List.flatten_append]
      rfl
    rw [List.flatMap_cons, List.flatten_append, ih, List.map_cons, List.map_cons, String.join_cons,
      Utf8.encode_append, hline]

theorem Sink.eq_reliable {sink : Sink}
    (h : ∀ before piece, sink.failsAfter before piece = none) : sink = .reliable := by
  cases sink with
  | mk failsAfter =>
    have hnone : failsAfter = fun _ _ => none := funext fun before => funext fun piece => h before piece
    rw [hnone]
    rfl

/-! ### Blocks -/

namespace Turn

variable (turn : Turn)

/-- The lines in which a turn is told. -/
def block : List String :=
  [toString turn.context.position ++ ". Test case: name=" ++ turn.case.name ++ " desc=" ++
      turn.case.description ++ " onfail=" ++ turn.case.pipeline.onFailure.name] ++
    (turn.trial.request?.toList.map fun request =>
      toString turn.context.position ++ ". Request: " ++ request.method ++ " " ++ request.url) ++
    (turn.trial.readBody?.toList.map fun body =>
      toString turn.context.position ++ ". Got response body: " ++ Utf8.decodeLossy body) ++
    [turn.report.result.message]

/-- The lines of a turn are written in pieces, which make up its block. -/
theorem map_join_lines : turn.lines.map String.join = turn.block := by
  unfold lines Trial.lines Trial.stageLines block
  rw [turn.leaves.message]
  simp only [List.map_cons, List.map_append, List.map_map, List.map_nil, Function.comp_def,
    Trial.announcement, Trial.requestLine, Trial.bodyLine, String.join, List.foldl_cons,
    List.foldl_nil, String.empty_append, case_trial, List.cons_append, List.nil_append,
    List.append_assoc]

end Turn

/-! ### The transcript -/

/-- What a run over a sink that never fails has written, told by its turns. -/
structure Scenario.Transcribed (scenario : Scenario) (evaluator : EvaluatorKind)
    (clock : Nat → Int64) (transport : Transport) (sink : Sink) (turns : List Turn)
    (finish : RunEnd) : Prop where
  /-- The first turn starts with the cache and the transport of the run, and each of the others with
  what the one before has left behind. -/
  relay : Relay (scenario.opening transport sink) turns
    (scenario.closing evaluator clock transport sink)
  /-- The first cases get their turn, in order. -/
  cases : turns.map (·.case) = scenario.cases.take turns.length
  /-- There is one result for each turn, in order. -/
  results : finish.outcome.results = turns.map (·.report.result)
  /-- The headline is written, and then a block for each turn, in order; each line has its end. -/
  text : finish.progress.octets =
    Utf8.encode (linesText (String.join scenario.headline :: turns.flatMap Turn.block))
  /-- The block of the k-th turn bears the number k, and ends with the message of the k-th result. -/
  numbered : ∀ (k : Nat) (turn : Turn), turns[k]? = some turn →
    turn.context.position = k + 1 ∧ finish.outcome.results[k]? = some turn.report.result
  /-- There is a line for the request if it is built. -/
  request : ∀ turn ∈ turns, ∀ request, turn.trial.request? = some request ↔
    turn.case.request.build turn.session.cache = .ok request
  /-- The method and the address of a request that is built are those of the template, resolved. -/
  resolved : ∀ turn ∈ turns, ∀ request, turn.trial.request? = some request →
    request.method = turn.case.request.effectiveMethod ∧
      request.url = Template.resolve turn.case.request.url turn.session.cache
  /-- There is a line for the body if the request is answered with the expected status and a body
  that can be read. -/
  body : ∀ turn ∈ turns, ∀ body, turn.trial.readBody? = some body ↔
    ∃ request head elapsed, turn.case.request.build turn.session.cache = .ok request ∧
      (turn.session.transport.send request).1 = .answered head (.ok body) elapsed ∧
      head.status = turn.case.expect.statusCode

/-- A run over a sink that never fails writes the headline and the blocks of its turns, and nothing
else. -/
theorem run_transcribed {sink : Sink} (hsink : ∀ before piece, sink.failsAfter before piece = none)
    (scenario : Scenario) (evaluator : EvaluatorKind) (clock : Nat → Int64)
    (transport : Transport) :
    scenario.Transcribed evaluator clock transport sink
      (scenario.turns evaluator clock transport sink)
      (scenario.run evaluator clock transport sink) := by
  have hruns := scenario.runs_run evaluator clock transport sink
  refine
    { relay := scenario.relay_run evaluator clock transport sink
      cases := hruns.cases_eq_take
      results := hruns.results_eq
      text := ?_
      numbered := ?_
      request := fun turn _ request => Trial.request?_eq_some_iff
      resolved := ?_
      body := fun turn _ body => Trial.readBody?_eq_some_iff }
  · obtain rfl := Sink.eq_reliable hsink
    have hwritten := Sink.takes_reliable
      ((Progress.tracks_nil .reliable).lines (scenario.headline ::
        (scenario.turns evaluator clock transport .reliable).flatMap Turn.lines)).takes
    rw [Progress.octets, Scenario.progress_run, hwritten, List.nil_append, Progress.flatten_piecesOf,
      List.map_cons, List.map_flatMap]
    simp only [Turn.map_join_lines]
  · intro k turn hk
    refine ⟨?_, ?_⟩
    · rw [hruns.context_eq hk, RunContext.position_case]
    · rw [hruns.results_eq, List.getElem?_map, hk, Option.map_some]
  · intro turn _ request hrequest
    have houtbound := Request.eq_outbound_of_build (Trial.request?_eq_some_iff.mp hrequest)
    simp only [houtbound, Request.outbound, Turn.case_trial, Turn.cache_trial, and_self]

/-! ### A run of one case -/

/-- A case that expects a status and some expressions. -/
def samplePing (expressions : List Expression) : TestCase where
  order := 1
  name := "ping"
  request := { url := "x:y" }
  expect := { statusCode := 200, evaluate := expressions }

/-- A transport that gives the status with a body, once. -/
def samplePong (body : Octets) : Transport :=
  { replies := [.answered { status := 200 } (.ok body) .zero] }

/-- The turn of the case in a run of its own. -/
def sampleTurn (expressions : List Expression) (evaluator : EvaluatorKind) (body : Octets) : Turn :=
  RunContext.turn ⟨"", evaluator, fun _ => 0⟩ 1 (samplePing expressions)
    (Scenario.opening { cases := [samplePing expressions] } (samplePong body) .reliable)

section sample

variable (expressions : List Expression) (evaluator : EvaluatorKind) (body : Octets)

theorem turns_samplePing :
    Scenario.turns { cases := [samplePing expressions] } evaluator (fun _ => 0) (samplePong body)
      .reliable = [sampleTurn expressions evaluator body] :=
  turns_singleton _ _ _ _

theorem build_samplePing :
    (samplePing expressions).request.build .empty =
      .ok { method := "GET", url := "x:y", headers := [], body := none } := by
  show Request.build { url := "x:y" } .empty = _
  cbv

theorem outcome_sampleTurn :
    (sampleTurn expressions evaluator body).trial.outcome =
      (sampleTurn expressions evaluator body).trial.outcomeOfBody body := by
  have hanswered : (sampleTurn expressions evaluator body).trial.Answered { status := 200 }
      (.ok body) := ⟨_, _, build_samplePing expressions, rfl⟩
  rw [hanswered.outcome_eq, Trial.outcomeOfAnswer_of_read rfl]

end sample

/-- A body that is no document is shown, with the octet that is no text replaced, before the case
fails over it. -/
theorem run_transcribed_of_ping :
    (∀ before piece, Sink.reliable.failsAfter before piece = none) ∧
      (Scenario.run { cases := [samplePing []] } .script (fun _ => 0) (samplePong [0x6F, 0xFF])
          .reliable).progress.octets =
        Utf8.encode (linesText
          ["Start running test scenario: name= env= desc= cases=1",
            "1. Test case: name=ping desc= onfail=exit",
            "1. Request: GET x:y",
            "1. Got response body: o\uFFFD",
            "1. Failed to parse response body into map: expected value at line 1 column 1"]) := by
  have htranscribed := @run_transcribed .reliable (fun _ _ => rfl)
    { cases := [samplePing []] } .script (fun _ => 0) (samplePong [0x6F, 0xFF])
  refine ⟨fun _ _ => rfl, ?_⟩
  have hbuild := build_samplePing []
  have houtcome : (sampleTurn [] .script [0x6F, 0xFF]).trial.outcome =
      .error ⟨.assertBody, .parse "expected value at line 1 column 1"⟩ := by
    rw [outcome_sampleTurn]
    cbv
  have hmessage := (sampleTurn [] .script [0x6F, 0xFF]).leaves.message
  rw [Trial.text_of_some (Trial.failure_of_error houtcome)] at hmessage
  have hrequest : (sampleTurn [] .script [0x6F, 0xFF]).trial.request? = some _ :=
    Trial.request?_eq_some_iff.mpr hbuild
  have hbody : (sampleTurn [] .script [0x6F, 0xFF]).trial.readBody? = some [0x6F, 0xFF] :=
    Trial.readBody?_eq_some_iff.mpr ⟨_, _, _, hbuild, rfl, rfl⟩
  have hshown : Utf8.decodeLossy [0x6F, 0xFF] = "o\uFFFD" := by cbv
  rw [htranscribed.text, turns_samplePing, List.flatMap_singleton, Turn.block, hmessage, hrequest,
    hbody, Option.toList_some, Option.toList_some, List.map_singleton, List.map_singleton, hshown]
  rfl

end HttpScenario
