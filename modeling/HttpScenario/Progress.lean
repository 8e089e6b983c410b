import HttpScenario.Text.Utf8
/-!
# Progress

While a scenario runs, it writes lines for a reader to a sink.  A line is written piece by piece,
and its end last.  A sink may fail at any piece; what it has taken by then stays, and nothing more
is written to it.  A failing sink has no other consequence.
-/

namespace HttpScenario

/-- What takes the pieces of lines. -/
structure Sink where
  /-- After the pieces that were written before, how many octets of the next piece are taken before
  the sink fails; `none` if all of them are taken. -/
  failsAfter : (before : List Octets) → (piece : Octets) → Option Nat

namespace Sink

/-- A sink that takes everything. -/
def reliable : Sink :=
  ⟨fun _ _ => none⟩

/-- A sink that fails at the first piece that comes after so many line ends. -/
def failingAfterLines (count : Nat) : Sink :=
  ⟨fun before _ => if count ≤ before.flatten.count 10 then some 0 else none⟩

end Sink

/-- A sink and what has been written to it. -/
structure Progress where
  sink : Sink
  /-- The pieces that were taken, in order; the last one may be cut short by a failure. -/
  written : List Octets := []
  /-- Whether the sink has failed. -/
  failed : Bool := false

namespace Progress

/-- Writes a piece. -/
def write (piece : Octets) (progress : Progress) : Progress :=
  if progress.failed || piece.isEmpty then progress
  else
    match progress.sink.failsAfter progress.written piece with
    | none => { progress with written := progress.written ++ [piece] }
    | some count =>
      { progress with written := progress.written ++ [piece.take count], failed := true }

/-- The end of a line. -/
def lineEnd : Octets := [10]

/-- Writes a line, given by its pieces. -/
def line (pieces : List String) (progress : Progress) : Progress :=
  (pieces.map Utf8.encode ++ [lineEnd]).foldl (fun progress piece => progress.write piece) progress

/-- All that the sink has taken. -/
def octets (progress : Progress) : Octets :=
  progress.written.flatten

end Progress

end HttpScenario
