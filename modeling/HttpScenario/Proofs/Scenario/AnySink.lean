import HttpScenario.Proofs.Scenario.Lines
/-!
# A run over any sink

The lines of progress are for a reader only.  The main statement is `run_over_any_sink`: over
whatever sink, a run comes to the outcome, the cache and the requests that it comes to over one that
never fails, and the sink has taken what that one has up to the first piece at which it fails
(`Sink.Takes`).  What the sink would do with a later piece does not matter, for there is none.

A run reads nothing of its progress, so that two runs that differ in their sinks only write the same
pieces (`Scenario.run_over`, `Scenario.progress_run`).  What becomes of pieces that are written to a
sink is one induction over them (`Progress.Tracks.writeAll`).
-/

namespace HttpScenario

/-! ### What a sink takes -/

namespace Sink

/-- A sink fails at none of some pieces, which come one after the other. -/
inductive Accepts (sink : Sink) : List Octets → Prop
  | nil : sink.Accepts []
  | concat {pieces : List Octets} {piece : Octets} (hpieces : sink.Accepts pieces)
      (hpiece : sink.failsAfter pieces piece = none) : sink.Accepts (pieces ++ [piece])

/-- What a sink takes of some pieces, and whether it fails: it takes all of them, or those before the
first at which it fails and as much of that one as it takes before it fails. -/
inductive Takes (sink : Sink) : (pieces written : List Octets) → (failed : Bool) → Prop
  | all {pieces : List Octets} (haccepts : sink.Accepts pieces) : sink.Takes pieces pieces false
  | cut {before : List Octets} {piece : Octets} {count : Nat} (rest : List Octets)
      (haccepts : sink.Accepts before) (hfails : sink.failsAfter before piece = some count) :
      sink.Takes (before ++ piece :: rest) (before ++ [piece.take count]) true

namespace Takes

variable {sink : Sink} {pieces written : List Octets} {failed : Bool}

/-- A piece that comes after a failure changes nothing. -/
theorem append_of_failed (h : sink.Takes pieces written true) (others : List Octets) :
    sink.Takes (pieces ++ others) written true := by
  cases h with
  | cut rest haccepts hfails =>
    rw [List.append_assoc, List.cons_append]
    exact .cut (rest ++ others) haccepts hfails

/-- As long as a sink has not failed, it has taken all pieces, and none made it fail. -/
theorem of_not_failed (h : sink.Takes pieces written false) :
    written = pieces ∧ sink.Accepts pieces := by
  cases h with
  | all haccepts => exact ⟨rfl, haccepts⟩

/-- What is taken is the front of what there is. -/
theorem flatten_prefix (h : sink.Takes pieces written failed) :
    written.flatten <+: pieces.flatten := by
  cases h with
  | all haccepts => exact List.prefix_refl _
  | @cut before piece count rest haccepts hfails =>
    refine ⟨piece.drop count ++ rest.flatten, ?_⟩
    rw [List.flatten_append, List.flatten_append, List.flatten_singleton, List.flatten_cons,
      List.append_assoc, ← List.append_assoc (piece.take count), List.take_append_drop]

end Takes

/-- A sink that never fails takes all pieces. -/
theorem takes_reliable {pieces written : List Octets} {failed : Bool}
    (h : reliable.Takes pieces written failed) : written = pieces := by
  cases h with
  | all haccepts => rfl
  | cut rest haccepts hfails => cases hfails

end Sink

/-! ### Lines that are written -/

namespace Progress

/-- Writes pieces, in order. -/
def writeAll (pieces : List Octets) (progress : Progress) : Progress :=
  pieces.foldl (fun progress piece => progress.write piece) progress

/-- The pieces of lines, those that are empty left out. -/
def piecesOf (texts : List (List String)) : List Octets :=
  (texts.flatMap fun pieces => pieces.map Utf8.encode ++ [lineEnd]).filter (!·.isEmpty)

/-- A progress is about a sink and says what that has taken of some pieces. -/
structure Tracks (progress : Progress) (sink : Sink) (pieces : List Octets) : Prop where
  sink_eq : progress.sink = sink
  takes : sink.Takes pieces progress.written progress.failed

theorem tracks_nil (sink : Sink) : ({ sink := sink } : Progress).Tracks sink [] :=
  ⟨rfl, .all .nil⟩

variable {progress : Progress} {sink : Sink} {pieces : List Octets}

/-- A piece that is written is one more piece that the sink is offered. -/
theorem Tracks.write (h : progress.Tracks sink pieces) {piece : Octets}
    (hpiece : piece.isEmpty = false) : (progress.write piece).Tracks sink (pieces ++ [piece]) := by
  obtain ⟨rfl, htakes⟩ := h
  unfold Progress.write
  cases hfailed : progress.failed with
  | true =>
    rw [hfailed] at htakes
    rw [Bool.true_or, if_pos rfl]
    exact ⟨rfl, hfailed ▸ htakes.append_of_failed [piece]⟩
  | false =>
    rw [hfailed] at htakes
    obtain ⟨hwritten, haccepts⟩ := htakes.of_not_failed
    rw [hpiece, Bool.or_false, if_neg Bool.false_ne_true, hwritten]
    cases hnow : progress.sink.failsAfter pieces piece with
    | none => exact ⟨rfl, hfailed ▸ .all (haccepts.concat hnow)⟩
    | some count => exact ⟨rfl, .cut [] haccepts hnow⟩

theorem write_of_isEmpty {piece : Octets} (h : piece.isEmpty = true) (progress : Progress) :
    progress.write piece = progress := by
  unfold Progress.write
  rw [h, Bool.or_true, if_pos rfl]

theorem Tracks.writeAll (h : progress.Tracks sink pieces) (others : List Octets) :
    (progress.writeAll others).Tracks sink (pieces ++ others.filter (!·.isEmpty)) := by
  induction others generalizing progress pieces with
  | nil =>
    rw [List.filter_nil, List.append_nil]
    exact h
  | cons piece others ih =>
    unfold Progress.writeAll at ih ⊢
    rw [List.foldl_cons]
    cases hpiece : piece.isEmpty with
    | true =>
      rw [write_of_isEmpty hpiece, List.filter_cons_of_neg (by rw [hpiece]; decide)]
      exact ih h
    | false =>
      rw [List.filter_cons_of_pos (by rw [hpiece]; decide), List.append_cons]
      exact ih (h.write hpiece)

theorem Tracks.lines (h : progress.Tracks sink pieces) (texts : List (List String)) :
    (progress.lines texts).Tracks sink (pieces ++ piecesOf texts) := by
  induction texts generalizing progress pieces with
  | nil =>
    rw [piecesOf, List.flatMap_nil, List.filter_nil, List.append_nil]
    exact h
  | cons line texts ih =>
    have hline : (progress.line line).Tracks sink
        (pieces ++ (line.map Utf8.encode ++ [lineEnd]).filter (!·.isEmpty)) := h.writeAll _
    rw [piecesOf, List.flatMap_cons, List.filter_append, ← List.append_assoc]
    exact ih hline

end Progress

/-! ### Runs -/

namespace Scenario

/-- What a run over some sink has in common with one over a sink that never fails, and what the sink
has taken. -/
structure Unhindered (sink : Sink) (run whole : RunEnd) : Prop where
  outcome : run.outcome = whole.outcome
  /-- The cache is part of the scenario that a run leaves behind. -/
  scenario : run.scenario = whole.scenario
  /-- The requests that were sent are part of the transport. -/
  transport : run.transport = whole.transport
  /-- The sink has taken the pieces of the whole run, or those up to the first at which it fails. -/
  takes : sink.Takes whole.progress.written run.progress.written run.progress.failed
  /-- The octets that it has taken are the first of those of the whole run. -/
  front : run.progress.octets <+: whole.progress.octets

variable (scenario : Scenario) (evaluator : EvaluatorKind) (clock : Nat → Int64)
  (transport : Transport)

/-- Over any two sinks a run is the same but for the progress, to which it writes the same lines. -/
theorem exists_lines_run :
    ∃ texts, ∀ sink,
      (scenario.run evaluator clock transport sink).progress =
          ({ sink := sink } : Progress).lines texts ∧
        ∀ other, scenario.run evaluator clock transport sink =
          { scenario.run evaluator clock transport other with
            progress := (scenario.run evaluator clock transport sink).progress } := by
  refine ⟨scenario.headline ::
    (scenario.turns evaluator clock transport .reliable).flatMap Turn.lines, fun sink => ⟨?_, ?_⟩⟩
  · rw [scenario.run_over evaluator clock transport sink .reliable]
  · intro other
    rw [scenario.run_over evaluator clock transport sink other]

/-- A sink has no influence on a run, and nothing is written to it after it has failed. -/
theorem run_over_any_sink (sink : Sink) :
    Unhindered sink (scenario.run evaluator clock transport sink)
      (scenario.run evaluator clock transport .reliable) := by
  obtain ⟨texts, htexts⟩ := scenario.exists_lines_run evaluator clock transport
  obtain ⟨hprogress, hsame⟩ := htexts sink
  obtain ⟨hwhole, -⟩ := htexts .reliable
  have htakes : sink.Takes (Progress.piecesOf texts)
      (scenario.run evaluator clock transport sink).progress.written
      (scenario.run evaluator clock transport sink).progress.failed := by
    rw [hprogress]
    exact ((Progress.tracks_nil sink).lines texts).takes
  have hpieces : (scenario.run evaluator clock transport .reliable).progress.written =
      Progress.piecesOf texts := by
    rw [hwhole]
    exact Sink.takes_reliable ((Progress.tracks_nil .reliable).lines texts).takes
  rw [← hpieces] at htakes
  exact
    { outcome := by rw [hsame .reliable]
      scenario := by rw [hsame .reliable]
      transport := by rw [hsame .reliable]
      takes := htakes
      front := htakes.flatten_prefix }

end Scenario

end HttpScenario
