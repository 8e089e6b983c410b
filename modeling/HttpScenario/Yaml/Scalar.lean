import HttpScenario.Text.Hex
import HttpScenario.Yaml.Spot
/-!
# Scalars

The three ways to write a text in YAML: plain, between quotes, and as a block of lines.  Readers
take as many tries as the whole text has characters, since each round uses up at least one.  A text
that goes over several lines is folded: a single break becomes a space, and of more breaks the first
is left out.  Spaces and tabs around the breaks do not count.  A literal block keeps its lines; a
folded block folds those that start with no further blank.
-/

namespace HttpScenario.Yaml

/-! ## Gaps between words -/

/-- A run of spaces, tabs and breaks. -/
structure Gap where
  /-- The spaces and tabs before the first break. -/
  blanks : List Char := []
  breaks : List Char := []
  /-- Whether a line ends in the gap. -/
  broken : Bool := false

/-- Breaks after folding. -/
def fold : List Char → List Char
  | [] => []
  | '\n' :: rest => if rest.isEmpty then [' '] else rest
  | breaks => breaks

/-- The text that a gap stands for between two words. -/
def Gap.text (gap : Gap) : List Char :=
  if gap.broken then fold gap.breaks else gap.blanks

/-- Reads a gap.  After a break no tab may stand left of a column. -/
def readGap (least : Nat) (broken : Bool) : List Spot → Except Fault (Gap × List Spot)
  | [] => .ok ({ broken := broken }, [])
  | s :: rest =>
    if isBreak s.char then do
      let (gap, rest) ← readGap least true rest
      .ok ({ gap with breaks := s.char :: gap.breaks, broken := true }, rest)
    else if isBlank s.char then
      if broken && s.char == '\t' && s.mark.column < least then .error .indentation
      else do
        let (gap, rest) ← readGap least broken rest
        .ok ({ gap with blanks := s.char :: gap.blanks }, rest)
    else .ok ({ broken := broken }, s :: rest)

/-! ## Plain scalars -/

/-- The characters that end a plain scalar between brackets. -/
def flowMarks : List Char := [',', '[', ']', '{', '}']

/-- Reads characters up to the next gap or mark. -/
def plainRun (inFlow : Bool) : List Spot → Except Fault (List Char × List Spot)
  | [] => .ok ([], [])
  | s :: rest =>
    if nextIsGap (s :: rest) then .ok ([], s :: rest)
    else if inFlow && s.char == ':' && nextAmong ('?' :: flowMarks) rest then .error .scalar
    else if (s.char == ':' && nextIsOpen rest) || (inFlow && flowMarks.contains s.char) then
      .ok ([], s :: rest)
    else (plainRun inFlow rest).map fun (run, after) => (s.char :: run, after)

/-- Reads on after a gap.  The last part of the answer says whether a line has ended since the last
character. -/
def plainFrom (inFlow : Bool) (least : Nat) (last : Mark) :
    (tries : Nat) → (gap : Gap) → List Spot → Except Fault (List Char × List Spot × Bool)
  | 0, gap, spots => .ok ([], spots, gap.broken)
  | tries + 1, gap, spots =>
    if isDocumentBorder spots || nextIs '#' spots then .ok ([], spots, gap.broken)
    else do
      let (run, rest) ← plainRun inFlow spots
      let read := if run.isEmpty then [] else gap.text ++ run
      if !nextIsGap rest then .ok (read, rest, gap.broken && run.isEmpty)
      else do
        let (next, rest) ← readGap least false rest
        if !inFlow && columnOf last rest < least then .ok (read, rest, next.broken)
        else do
          let (more, rest, broken) ← plainFrom inFlow least last tries next rest
          .ok (read ++ more, rest, broken)

/-- Reads a plain scalar; in a block its further lines start at a column at least. -/
def readPlain (inFlow : Bool) (least : Nat) (last : Mark) (spots : List Spot) :
    Except Fault (String × List Spot × Bool) :=
  (plainFrom inFlow least last (last.index + 1) {} spots).map
    fun (read, rest, broken) => (String.ofList read, rest, broken)

/-! ## Quoted scalars -/

/-- The character that a letter after a backslash stands for. -/
def simpleEscape? : Char → Option Char
  | '0' => some '\x00'
  | 'a' => some '\x07'
  | 'b' => some '\x08'
  | 't' => some '\t'
  | '\t' => some '\t'
  | 'n' => some '\n'
  | 'v' => some '\x0b'
  | 'f' => some '\x0c'
  | 'r' => some '\r'
  | 'e' => some '\x1b'
  | ' ' => some ' '
  | '"' => some '"'
  | '/' => some '/'
  | '\\' => some '\\'
  | 'N' => some '\u0085'
  | '_' => some '\u00a0'
  | 'L' => some '\u2028'
  | 'P' => some '\u2029'
  | _ => none

/-- How many hexadecimal digits follow a letter after a backslash. -/
def escapeWidth? : Char → Option Nat
  | 'x' => some 2
  | 'u' => some 4
  | 'U' => some 8
  | _ => none

/-- Reads what follows a backslash, unless it is a break. -/
def readEscape : List Spot → Except Fault (Char × List Spot)
  | [] => .error .escape
  | s :: rest =>
    match simpleEscape? s.char, escapeWidth? s.char with
    | some c, _ => .ok (c, rest)
    | none, some width =>
      let digits := (rest.take width).map (·.char)
      match Text.hexNumber? digits with
      | some n =>
        if digits.length = width ∧ n.isValidChar then .ok (Char.ofNat n, rest.drop width)
        else .error .escape
      | none => .error .escape
    | none, none => .error .escape

/-- Reads characters up to the next gap or quote.  The last part of the answer says whether they end
in an escaped break. -/
def quotedRun (quote : Char) : (tries : Nat) → List Spot →
    Except Fault (List Char × List Spot × Bool)
  | 0, spots => .ok ([], spots, false)
  | _ + 1, [] => .ok ([], [], false)
  | tries + 1, s :: rest =>
    let goOn (c : Char) (rest : List Spot) : Except Fault (List Char × List Spot × Bool) :=
      (quotedRun quote tries rest).map fun (run, after, escaped) => (c :: run, after, escaped)
    if nextIsGap (s :: rest) then .ok ([], s :: rest, false)
    else if quote == '\'' && s.char == '\'' && nextIs '\'' rest then goOn '\'' (rest.drop 1)
    else if s.char == quote then .ok ([], s :: rest, false)
    else if quote == '"' && s.char == '\\' then
      if !rest.isEmpty && nextIsLineEnd rest then .ok ([], rest.drop 1, true)
      else do
        let (c, rest) ← readEscape rest
        goOn c rest
    else goOn s.char rest

/-- Reads on up to the closing quote.  No document may start or end in between. -/
def quotedFrom (quote : Char) (last : Mark) :
    (tries : Nat) → List Spot → Except Fault (List Char × List Spot)
  | 0, _ => .error .scalar
  | tries + 1, spots =>
    if isDocumentBorder spots || spots.isEmpty then .error .scalar
    else do
      let (run, rest, escaped) ← quotedRun quote (last.index + 1) spots
      if nextIs quote rest then .ok (run, rest.drop 1)
      else do
        let (gap, rest) ← readGap 0 escaped rest
        let (more, rest) ← quotedFrom quote last tries rest
        .ok (run ++ (if escaped then gap.breaks else gap.text) ++ more, rest)

/-- Reads a scalar whose opening quote has been read. -/
def readQuoted (quote : Char) (last : Mark) (spots : List Spot) :
    Except Fault (String × List Spot) :=
  (quotedFrom quote last (last.index + 1) spots).map fun (read, rest) => (String.ofList read, rest)

/-! ## Blocks of lines -/

/-- What becomes of the breaks at the end of a block. -/
inductive Chomping where
  /-- None stays. -/
  | strip
  /-- One stays. -/
  | clip
  /-- All stay. -/
  | keep
  deriving DecidableEq, Repr

/-- The head of a block: chomping and an indentation, in either order. -/
structure BlockHead where
  chomping : Chomping := .clip
  /-- The further indentation of the lines; none if it is to be found out. -/
  increment : Option Nat := none

/-- Reads a mark for chomping. -/
def readChomping : List Spot → Option Chomping × List Spot
  | [] => (none, [])
  | s :: rest =>
    if s.char = '+' then (some .keep, rest)
    else if s.char = '-' then (some .strip, rest)
    else (none, s :: rest)

/-- Reads a digit for the indentation; it must not be zero. -/
def readIncrement : List Spot → Except Fault (Option Nat × List Spot)
  | [] => .ok (none, [])
  | s :: rest =>
    if s.char = '0' then .error .indentation
    else if s.char.isDigit then .ok (some (s.char.toNat - 48), rest)
    else .ok (none, s :: rest)

/-- Reads the head of a block. -/
def readBlockHead (spots : List Spot) : Except Fault (BlockHead × List Spot) := do
  match readChomping spots with
  | (some chomping, rest) =>
    let (increment, rest) ← readIncrement rest
    .ok (⟨chomping, increment⟩, rest)
  | (none, rest) =>
    let (increment, rest) ← readIncrement rest
    match increment with
    | none => .ok ({}, rest)
    | some n =>
      let (chomping, rest) := readChomping rest
      .ok (⟨chomping.getD .clip, some n⟩, rest)

/-- Reads breaks and the indentation after them.  With no indentation given, the deepest one met is
reported.  A tab must not stand where a space is needed. -/
def blockGap (indent : Option Nat) (last : Mark) (deepest : Nat) :
    List Spot → Except Fault (List Char × Nat × List Spot)
  | [] => .ok ([], max deepest last.column, [])
  | s :: rest =>
    let inside := match indent with
      | some indent => s.mark.column < indent
      | none => true
    if inside && s.char == ' ' then blockGap indent last deepest rest
    else if inside && s.char == '\t' then .error .indentation
    else if isBreak s.char then do
      let (breaks, deepest, rest) ← blockGap indent last (max deepest s.mark.column) rest
      .ok (s.char :: breaks, deepest, rest)
    else .ok ([], max deepest s.mark.column, s :: rest)

/-- What stands between two lines of a block: `breaks` holds the break of the upper line and then
those of empty lines.  Lines are only folded if neither starts with a blank. -/
def blockJoin (literal afterBlank beforeBlank : Bool) : (breaks : List Char) → List Char
  | [] => []
  | '\n' :: rest =>
    if literal || afterBlank || beforeBlank then '\n' :: rest
    else if rest.isEmpty then [' '] else rest
  | breaks => breaks

/-- Reads the lines of a block; `breaks` are the ones before the next line, and `afterBlank` says
whether the line before it started with a blank.  Also gives the breaks at the end: that of the last
line, and those of the empty lines after it. -/
def blockLines (literal : Bool) (indent : Nat) (last : Mark) :
    (tries : Nat) → (afterBlank : Bool) → (lineBreak breaks : List Char) → List Spot →
    Except Fault (List Char × List Char × List Char × List Spot)
  | 0, _, lineBreak, breaks, spots => .ok ([], lineBreak, breaks, spots)
  | _ + 1, _, lineBreak, breaks, [] => .ok ([], lineBreak, breaks, [])
  | tries + 1, afterBlank, lineBreak, breaks, s :: rest =>
    if s.mark.column ≠ indent then .ok ([], lineBreak, breaks, s :: rest)
    else
      let blank := isBlank s.char
      let line := (s :: rest).takeWhile fun t => !isBreak t.char
      let after := (s :: rest).dropWhile fun t => !isBreak t.char
      let joined :=
        if lineBreak.isEmpty then breaks
        else blockJoin literal afterBlank blank (lineBreak ++ breaks)
      do
        let (next, _, rest) ← blockGap (some indent) last 0 (after.drop 1)
        let (more, lineBreak, breaks, rest) ←
          blockLines literal indent last tries blank ((after.take 1).map (·.char)) next rest
        .ok (joined ++ line.map (·.char) ++ more, lineBreak, breaks, rest)

/-- Reads a block whose mark has been read, below an indentation. -/
def readBlock (literal : Bool) (parent : Int) (last : Mark) (spots : List Spot) :
    Except Fault (String × List Spot) := do
  let (head, rest) ← readBlockHead spots
  let lines ← match endLine? rest with
    | some lines => .ok lines
    | none => .error .scalar
  let given := head.increment.map fun n => if 0 ≤ parent then parent.toNat + n else n
  let (breaks, deepest, lines) ← blockGap given last 0 lines
  let indent := given.getD (max (max deepest (parent + 1).toNat) 1)
  let (content, lineBreak, breaks, rest) ←
    blockLines literal indent last (last.index + 1) false [] breaks lines
  let tail := match head.chomping with
    | .strip => []
    | .clip => lineBreak
    | .keep => lineBreak ++ breaks
  .ok (String.ofList (content ++ tail), rest)

end HttpScenario.Yaml
