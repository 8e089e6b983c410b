import HttpScenario.Pattern.Program
import HttpScenario.Pattern.Reader
/-!
# Matching

A pattern matches a text if some part of the text is among what it describes.  Matching works on
sets of places: the places of a text are the gaps between its characters, both ends included, and a
set of them is a list of truth values.  `advance` sends the set of places where a part of the
pattern may begin to the set of places where it may end.  A repetition is taken round by round until
nothing changes, which is after no more rounds than there are places.
-/

namespace HttpScenario.Pattern

/-- A set of places of a text, as a truth value for each. -/
abbrev Places := List Bool

namespace Place

/-- Whether a character belongs to words. -/
def isWordChar (ascii : Bool) : Option Char → Bool
  | some c => if ascii then c.toNat < 0x80 && isAsciiWord c else isWord c
  | none => false

/-- Whether a condition holds between two neighbours; an end of the text has none. -/
def holds (condition : Place) (before after : Option Char) : Bool :=
  match condition with
  | .textStart => before.isNone
  | .textEnd => after.isNone
  | .lineStart => before.isNone || before == some '\n'
  | .lineEnd => after.isNone || after == some '\n'
  | .lineStartCrlf =>
    before.isNone || before == some '\n' || (before == some '\r' && after != some '\n')
  | .lineEndCrlf =>
    after.isNone || after == some '\r' || (after == some '\n' && before != some '\r')
  | .boundary ascii => isWordChar ascii before != isWordChar ascii after
  | .notBoundary ascii => isWordChar ascii before == isWordChar ascii after
  | .wordStart ascii => !isWordChar ascii before && isWordChar ascii after
  | .wordEnd ascii => isWordChar ascii before && !isWordChar ascii after
  | .noWordBefore ascii => !isWordChar ascii before
  | .noWordAfter ascii => !isWordChar ascii after

/-- Keeps the places of a text where a condition holds. -/
def keep (condition : Place) (before : Option Char) : List Char → Places → Places
  | [], here :: _ => [here && condition.holds before none]
  | [], [] => []
  | c :: text, here :: places =>
    (here && condition.holds before (some c)) :: keep condition (some c) text places
  | _ :: _, [] => []

end Place

/-- The places after the members of a set of characters that stand at some places. -/
def stepSet (chars : Charset) (text : List Char) (places : Places) : Places :=
  false :: List.zipWith (fun c here => here && chars.contains c) text places

/-- The places in either of two sets. -/
def unite (a b : Places) : Places :=
  List.zipWith (· || ·) a b

/-- Applies a function so many times, or until nothing changes. -/
def iterate (f : Places → Places) : Nat → Places → Places
  | 0, places => places
  | n + 1, places =>
    let next := f places
    if next == places then places else iterate f n next

/-- The places where a program may end when it begins at some places. -/
def advance (text : List Char) : Program → Places → Places
  | .empty, places => places
  | .set chars, places => stepSet chars text places
  | .place condition, places => condition.keep none text places
  | .seq a b, places => advance text b (advance text a places)
  | .choice a b, places => unite (advance text a places) (advance text b places)
  | .rep low high body, places =>
    let started := iterate (advance text body) low places
    let more (current : Places) : Places := unite current (advance text body current)
    match high with
    | none => iterate more (text.length + 1) started
    | some h => iterate more (h - low) started

/-- A pattern that can be matched. -/
structure Compiled where
  program : Program
  deriving Repr

/-- Makes a pattern from its text. -/
def compile (text : String) : Except Fault Compiled := do
  let tree ← readPattern text
  if maxNesting < treeDepth tree then .error .nestedTooDeep
  else
    let (program, _) ← compileTree {} tree
    if maxSize < programSize program then .error .tooLarge else .ok ⟨program⟩

/-- Whether some part of a text is among what a pattern describes. -/
def Compiled.isMatch (pattern : Compiled) (text : String) : Bool :=
  let cs := text.toList
  (advance cs pattern.program (List.replicate (cs.length + 1) true)).any id

end HttpScenario.Pattern
