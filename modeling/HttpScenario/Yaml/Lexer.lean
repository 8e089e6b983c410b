import HttpScenario.Yaml.Scalar
import HttpScenario.Yaml.Token
/-!
# Cutting a text into tokens

Tokens are read from the front of a text to its end.  Two things make this more than a matter of
characters.  Blocks are opened and closed by indentation, so the columns of the open blocks are
kept.  And whether something is a key only shows at the colon behind it: wherever a key may start, a
slot is left open among the tokens, which stays empty unless the colon comes on the same line and
before long.
-/

namespace HttpScenario.Yaml

/-- A token, or a slot that is filled if a key turns out to start there. -/
inductive Entry where
  | token (token : Token)
  | slot (number : Nat)

/-- A place where a key may start. -/
structure Candidate where
  /-- The slot left open for it. -/
  slot : Nat
  mark : Mark
  /-- Whether nothing but a key can start there. -/
  required : Bool

/-- How far a text has been cut. -/
structure Scan where
  rest : List Spot
  /-- Where the text ends. -/
  last : Mark
  /-- What has been read, the latest first. -/
  entries : List Entry := []
  /-- How many slots have been left open. -/
  slots : Nat := 0
  /-- What has been put into slots. -/
  filled : List (Nat × List Token) := []
  /-- The column of the innermost block; before the first one it is -1. -/
  indent : Int := -1
  /-- The columns of the blocks around it, the innermost first. -/
  outerIndents : List Int := []
  /-- The last place where a key may start on this level of brackets. -/
  candidate : Option Candidate := none
  /-- The same for the levels around it, the innermost first. -/
  outerCandidates : List (Option Candidate) := []
  /-- Whether a key may start here. -/
  keyAllowed : Bool := true

namespace Scan

/-- Whether the text is between brackets here. -/
def inFlow (s : Scan) : Bool :=
  !s.outerCandidates.isEmpty

/-- The place that has been reached. -/
def mark (s : Scan) : Mark :=
  match s.rest with
  | [] => s.last
  | spot :: _ => spot.mark

/-- Adds a token. -/
def push (token : Token) (s : Scan) : Scan :=
  { s with entries := .token token :: s.entries }

/-- Adds a token that takes up a number of characters. -/
def pushPast (token : Token) (width : Nat) (s : Scan) : Scan :=
  { s.push token with rest := s.rest.drop width }

/-! ## Keys -/

/-- Gives up a candidate; where a key is required, that is a fault. -/
def giveUp : Option Candidate → Except Fault Unit
  | some candidate => if candidate.required then .error .key else .ok ()
  | none => .ok ()

/-- Gives up the candidate of this level. -/
def dropCandidate (s : Scan) : Except Fault Scan := do
  giveUp s.candidate
  .ok { s with candidate := none }

/-- The greatest distance of a colon from the start of its key. -/
def maxKeyLength : Nat := 1024

/-- Gives up a candidate that is on an earlier line or too far away. -/
def refresh (mark : Mark) (candidate : Option Candidate) : Except Fault (Option Candidate) :=
  match candidate with
  | none => .ok none
  | some c =>
    if c.mark.line < mark.line || c.mark.index + maxKeyLength < mark.index then do
      giveUp candidate
      .ok none
    else .ok (some c)

/-- Gives up the candidates that are out of reach. -/
def refreshAll (s : Scan) : Except Fault Scan := do
  let candidate ← refresh s.mark s.candidate
  let outer ← s.outerCandidates.mapM (refresh s.mark)
  .ok { s with candidate := candidate, outerCandidates := outer }

/-- Takes this place as one where a key may start, if one may. -/
def offerKey (s : Scan) : Except Fault Scan :=
  if s.keyAllowed then do
    let s ← s.dropCandidate
    let required := !s.inFlow && s.indent == s.mark.column
    .ok { s with
      entries := .slot s.slots :: s.entries
      slots := s.slots + 1
      candidate := some ⟨s.slots, s.mark, required⟩ }
  else .ok s

/-! ## Blocks -/

/-- Opens a block at a column, unless the innermost one is there already; gives the token for it. -/
def openBlock (column : Nat) (token : Token) (s : Scan) : List Token × Scan :=
  if s.inFlow || column ≤ s.indent then ([], s)
  else ([token], { s with indent := column, outerIndents := s.indent :: s.outerIndents })

/-- Opens a block here. -/
def openBlockHere (token : Token) (s : Scan) : Scan :=
  let (tokens, s) := s.openBlock s.mark.column token
  tokens.foldl (fun s token => s.push token) s

/-- Closes the blocks that start right of a column. -/
def closeBlocks (column : Int) (s : Scan) : Scan :=
  if s.inFlow then s
  else
    let closed := (s.indent :: s.outerIndents).takeWhile (column < ·)
    let left := (s.indent :: s.outerIndents).dropWhile (column < ·)
    { s with
      entries := closed.map (fun _ => .token .blockEnd) ++ s.entries
      indent := left.head?.getD (-1)
      outerIndents := left.drop 1 }

/-! ## Single tokens -/

/-- Leaves out blanks, comments and line ends.  Where a key may start in a block, tabs are not left
out. -/
def skipGap : (tries : Nat) → Scan → Scan
  | 0, s => s
  | tries + 1, s =>
    let tabs := s.inFlow || !s.keyAllowed
    let rest := skipComment (s.rest.dropWhile fun t => t.char == ' ' || (tabs && t.char == '\t'))
    match rest with
    | [] => { s with rest := [] }
    | t :: after =>
      if isBreak t.char then
        skipGap tries { s with rest := after, keyAllowed := s.keyAllowed || !s.inFlow }
      else { s with rest := rest }

/-- Starts something that stands outside of all blocks. -/
def leaveBlocks (s : Scan) : Except Fault Scan := do
  let s ← (s.closeBlocks (-1)).dropCandidate
  .ok { s with keyAllowed := false }

/-- Reads the start of a collection in brackets. -/
def openFlow (token : Token) (s : Scan) : Except Fault Scan := do
  let s ← s.offerKey
  .ok { s.pushPast token 1 with
    candidate := none, outerCandidates := s.candidate :: s.outerCandidates, keyAllowed := true }

/-- Reads the end of a collection in brackets. -/
def closeFlow (token : Token) (s : Scan) : Except Fault Scan := do
  let s ← s.dropCandidate
  let s := match s.outerCandidates with
    | [] => s
    | candidate :: outer => { s with candidate := candidate, outerCandidates := outer }
  .ok { s.pushPast token 1 with keyAllowed := false }

/-- Reads a comma between brackets. -/
def flowEntry (s : Scan) : Except Fault Scan := do
  let s ← s.dropCandidate
  .ok { s.pushPast .flowEntry 1 with keyAllowed := true }

/-- Reads the mark of an item.  Between brackets it is a token that fits nowhere. -/
def blockEntry (s : Scan) : Except Fault Scan :=
  if !s.inFlow && !s.keyAllowed then .error .context
  else do
    let s ← (s.openBlockHere .blockSequenceStart).dropCandidate
    .ok { s.pushPast .blockEntry 1 with keyAllowed := true }

/-- Reads the mark of a key. -/
def explicitKey (s : Scan) : Except Fault Scan :=
  if !s.inFlow && !s.keyAllowed then .error .context
  else do
    let s ← (s.openBlockHere .blockMappingStart).dropCandidate
    .ok { s.pushPast .key 1 with keyAllowed := !s.inFlow }

/-- Reads a colon.  What stands at the last candidate is then a key; without a candidate the key is
an empty one or has a mark of its own. -/
def colon (s : Scan) : Except Fault Scan :=
  match s.candidate with
  | some c =>
    let (tokens, s) := s.openBlock c.mark.column .blockMappingStart
    .ok { s.pushPast .value 1 with
      filled := (c.slot, tokens ++ [.key]) :: s.filled, candidate := none, keyAllowed := false }
  | none =>
    if s.inFlow then .ok { s.pushPast .value 1 with keyAllowed := false }
    else if !s.keyAllowed then .error .context
    else .ok { (s.openBlockHere .blockMappingStart).pushPast .value 1 with keyAllowed := true }

/-- Reads something that may be a key, and after which none may start. -/
def keyLike (read : List Spot → Except Fault (Token × List Spot)) (s : Scan) :
    Except Fault Scan := do
  let s ← s.offerKey
  let (token, rest) ← read s.rest
  .ok { s.push token with rest := rest, keyAllowed := false }

/-- Reads an anchor or an alias. -/
def named (token : String → Token) : Scan → Except Fault Scan :=
  keyLike fun spots => (readAnchor (spots.drop 1)).map fun (name, rest) => (token name, rest)

/-- Reads a scalar between quotes. -/
def quoted (quote : Char) (style : Style) (s : Scan) : Except Fault Scan :=
  s.keyLike fun spots =>
    (readQuoted quote s.last (spots.drop 1)).map fun (text, rest) => (.scalar style text, rest)

/-- Reads a plain scalar.  After its last line a key may start. -/
def plain (s : Scan) : Except Fault Scan := do
  let s ← s.offerKey
  let (text, rest, broken) ← readPlain s.inFlow (s.indent + 1).toNat s.last s.rest
  .ok { s.push (.scalar .plain text) with rest := rest, keyAllowed := broken }

/-- Reads a block of lines. -/
def block (literal : Bool) (style : Style) (s : Scan) : Except Fault Scan := do
  let s ← s.dropCandidate
  let (text, rest) ← readBlock literal s.indent s.last (s.rest.drop 1)
  .ok { s.push (.scalar style text) with rest := rest, keyAllowed := true }

/-- Reads a directive. -/
def directive (s : Scan) : Except Fault Scan := do
  let s ← s.leaveBlocks
  let (token, rest) ← readDirective (s.rest.drop 1)
  .ok { s.push token with rest := rest }

/-- Reads the start or the end of a document. -/
def documentBorder (token : Token) (s : Scan) : Except Fault Scan := do
  let s ← s.leaveBlocks
  .ok (s.pushPast token 3)

/-- The characters that no plain scalar starts with; some may if no gap follows. -/
def indicators : List Char :=
  ['-', '?', ':', ',', '[', ']', '{', '}', '#', '&', '*', '!', '|', '>', '\'', '"', '%', '@',
    '\x60']

/-- Whether a plain scalar starts with a character, given what follows it. -/
def startsPlain (inFlow : Bool) (c : Char) (after : List Spot) : Bool :=
  !(isBlank c || isBreak c || indicators.contains c)
    || (c == '-' && !nextAmong [' ', '\t'] after)
    || (!inFlow && (c == '?' || c == ':') && !nextIsOpen after)

/-- Reads a token, whose first character is given. -/
def token (c : Char) (after : List Spot) (s : Scan) : Except Fault Scan :=
  if s.mark.column = 0 ∧ c = '%' then s.directive
  else if isDocumentMark '-' s.rest then s.documentBorder .documentStart
  else if isDocumentMark '.' s.rest then s.documentBorder .documentEnd
  else if c = '[' then s.openFlow .flowSequenceStart
  else if c = '{' then s.openFlow .flowMappingStart
  else if c = ']' then s.closeFlow .flowSequenceEnd
  else if c = '}' then s.closeFlow .flowMappingEnd
  else if c = ',' then s.flowEntry
  else if c = '-' ∧ nextIsOpen after then s.blockEntry
  else if c = '?' ∧ (s.inFlow || nextIsOpen after) then s.explicitKey
  else if c = ':' ∧ (s.inFlow || nextIsOpen after) then s.colon
  else if c = '*' then s.named .reference
  else if c = '&' then s.named .anchor
  else if c = '!' then s.keyLike (readTag s.inFlow)
  else if c = '|' ∧ !s.inFlow then s.block true .literal
  else if c = '>' ∧ !s.inFlow then s.block false .folded
  else if c = '\'' then s.quoted '\'' .singleQuoted
  else if c = '"' then s.quoted '"' .doubleQuoted
  else if startsPlain s.inFlow c after then s.plain
  else .error .start

/-- Reads tokens to the end of the text. -/
def run : (tries : Nat) → Scan → Except Fault Scan
  | 0, _ => .error .start
  | tries + 1, s => do
    let s ← (s.skipGap (tries + 1)).refreshAll
    let s := s.closeBlocks s.mark.column
    match s.rest with
    | [] => s.leaveBlocks
    | c :: after => run tries (← s.token c.char after)

/-- The tokens that have been read, the slots filled or left out. -/
def tokens (s : Scan) : List Token :=
  s.entries.reverse.flatMap fun
    | .token token => [token]
    | .slot number => (s.filled.lookup number).getD []

end Scan

/-- The tokens of a text. -/
def tokensOf (text : String) : Except Fault (List Token) := do
  let (spots, last) ← spotsOf text
  let s ← Scan.run (spots.length + 2) { rest := spots, last := last }
  .ok s.tokens

end HttpScenario.Yaml
