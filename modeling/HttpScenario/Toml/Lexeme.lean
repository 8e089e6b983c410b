import HttpScenario.Text.Hex
import HttpScenario.Toml.Value
/-!
# Blanks, texts and keys

The parts of a TOML text below values.  A text stands between quotes of one of two kinds: single
ones take every character as it is, double ones know escapes.  Three quotes in place of one allow
line ends inside.

Loops get as many tries as there are characters, which is more than enough since each round uses up
at least one.
-/

namespace HttpScenario.Toml

/-! ## Blanks -/

/-- Whether a character is a blank inside a line. -/
def isBlank (c : Char) : Bool :=
  c == ' ' || c == '\t'

/-- Whether a character may stand in a comment or a text. -/
def isVisible (c : Char) : Bool :=
  c == '\t' || (0x20 ≤ c.toNat && c.toNat != 0x7F)

/-- Passes over blanks inside a line. -/
def skipBlanks (s : List Char) : List Char :=
  s.dropWhile isBlank

/-- Passes over blanks, comments and line ends. -/
def skipLines : (comment : Bool) → List Char → Except Fault (List Char)
  | _, [] => .ok []
  | _, '\n' :: rest => skipLines false rest
  | _, '\r' :: '\n' :: rest => skipLines false rest
  | true, c :: rest => if isVisible c then skipLines true rest else .error .malformed
  | false, c :: rest =>
    if isBlank c then skipLines false rest
    else if c = '#' then skipLines true rest
    else .ok (c :: rest)

/-- Passes over the rest of a line, on which nothing but a comment may follow. -/
def skipLineRest (s : List Char) : Except Fault (List Char) :=
  let rest := match skipBlanks s with
    | '#' :: rest => rest.dropWhile isVisible
    | rest => rest
  match rest with
  | [] => .ok []
  | '\n' :: rest => .ok rest
  | '\r' :: '\n' :: rest => .ok rest
  | _ => .error .malformed

/-- Reads a mark. -/
def readMark (mark : Char) (s : List Char) : Except Fault (List Char) :=
  match s with
  | c :: rest => if c = mark then .ok rest else .error .malformed
  | [] => .error .malformed

/-! ## Texts -/

/-- How a text is quoted. -/
structure Quoting where
  quote : Char
  /-- Whether a backslash starts an escape. -/
  escapes : Bool
  /-- Whether a text can have several lines. -/
  lines : Bool
  deriving DecidableEq, Repr

/-- The character of a number written with so many hexadecimal digits. -/
def readCodePoint (width : Nat) : Reader Char := fun s =>
  let digits := s.take width
  match Text.hexNumber? digits with
  | some n =>
    if digits.length = width ∧ n.isValidChar then .ok (Char.ofNat n, s.drop width)
    else .error .malformed
  | none => .error .malformed

/-- Reads an escape whose backslash has been read. -/
def readEscape : Reader Char
  | 'b' :: rest => .ok ('\x08', rest)
  | 'f' :: rest => .ok ('\x0c', rest)
  | 'n' :: rest => .ok ('\n', rest)
  | 'r' :: rest => .ok ('\r', rest)
  | 't' :: rest => .ok ('\t', rest)
  | '"' :: rest => .ok ('"', rest)
  | '\\' :: rest => .ok ('\\', rest)
  | 'u' :: rest => readCodePoint 4 rest
  | 'U' :: rest => readCodePoint 8 rest
  | _ => .error .malformed

/-- Passes over line ends and the blanks between them. -/
def skipBreaks : List Char → List Char
  | '\n' :: rest => skipBreaks rest
  | '\r' :: '\n' :: rest => skipBreaks rest
  | c :: rest => if isBlank c then skipBreaks rest else c :: rest
  | [] => []

/-- What follows a line end that a backslash takes out of the text, together with all blanks and
line ends behind it. -/
def foldedBreak? (s : List Char) : Option (List Char) :=
  match skipBlanks s with
  | '\n' :: rest => some (skipBreaks rest)
  | '\r' :: '\n' :: rest => some (skipBreaks rest)
  | _ => none

/-- The quotes that still belong to a text whose end comes next, and what follows the end.  Up to
two quotes may stand directly before the three that end a text of several lines. -/
def closing? (q : Quoting) : List Char → Option (List Char × List Char)
  | a :: rest =>
    if a ≠ q.quote then none
    else if !q.lines then some ([], rest)
    else match rest with
      | b :: c :: rest =>
        if b ≠ q.quote ∨ c ≠ q.quote then none
        else
          let spare := (rest.take 2).takeWhile (· == q.quote)
          some (spare, rest.drop spare.length)
      | _ => none
  | [] => none

/-- Reads the next characters of a text. -/
def readPiece (q : Quoting) : Reader (List Char)
  | '\n' :: rest => if q.lines then .ok (['\n'], rest) else .error .malformed
  | '\r' :: '\n' :: rest => if q.lines then .ok (['\n'], rest) else .error .malformed
  | c :: rest =>
    if q.escapes ∧ c = '\\' then
      match if q.lines then foldedBreak? rest else none with
      | some rest => .ok ([], rest)
      | none => (readEscape rest).map fun (c, rest) => ([c], rest)
    else if isVisible c then .ok ([c], rest)
    else .error .malformed
  | [] => .error .malformed

/-- Reads a text whose opening quotes have been read, up to the quotes that end it. -/
def readBody (q : Quoting) : (tries : Nat) → Reader (List Char)
  | 0, _ => .error .malformed
  | tries + 1, s =>
    match closing? q s with
    | some found => .ok found
    | none => do
      let (piece, s) ← readPiece q s
      let (more, s) ← readBody q tries s
      .ok (piece ++ more, s)

/-- Reads a text whose opening quotes have been read. -/
def readQuoted (q : Quoting) : Reader String := fun s => do
  let (cs, s) ← readBody q (s.length + 1) s
  .ok (String.ofList cs, s)

/-- A line end directly behind three quotes is no part of a text. -/
def skipFirstBreak : List Char → List Char
  | '\n' :: rest => rest
  | '\r' :: '\n' :: rest => rest
  | s => s

/-- Reads a text of one line, its first quote included. -/
def readLine : Reader String
  | '"' :: rest => readQuoted ⟨'"', true, false⟩ rest
  | '\'' :: rest => readQuoted ⟨'\'', false, false⟩ rest
  | _ => .error .malformed

/-- Reads a text, its first quotes included. -/
def readText : Reader String
  | '"' :: '"' :: '"' :: rest => readQuoted ⟨'"', true, true⟩ (skipFirstBreak rest)
  | '\'' :: '\'' :: '\'' :: rest => readQuoted ⟨'\'', false, true⟩ (skipFirstBreak rest)
  | s => readLine s

/-! ## Keys -/

/-- Whether a character may stand in a key without quotes. -/
def isKeyChar (c : Char) : Bool :=
  c.isAlpha || c.isDigit || c == '-' || c == '_'

/-- Reads one part of a key. -/
def readKeyPart (s : List Char) : Except Fault (String × List Char) :=
  if s.head? = some '"' ∨ s.head? = some '\'' then readLine s
  else
    let word := s.takeWhile isKeyChar
    if word.isEmpty then .error .malformed
    else .ok (String.ofList word, s.drop word.length)

/-- Reads the parts of a key, with the dots and the blanks around them. -/
def readKeyParts : (tries : Nat) → Reader (List String)
  | 0, _ => .error .malformed
  | tries + 1, s => do
    let (part, s) ← readKeyPart (skipBlanks s)
    match skipBlanks s with
    | '.' :: s =>
      let (parts, s) ← readKeyParts tries s
      .ok (part :: parts, s)
    | s => .ok ([part], s)

/-- The greatest number of parts of a key, and the levels of nesting that a value may have. -/
def maxLevels : Nat := 79

/-- Reads a key: the path before its last part, and that part. -/
def readKey : Reader (List String × String) := fun s => do
  let (parts, s) ← readKeyParts (s.length + 1) s
  if maxLevels < parts.length then .error .tooDeep
  else .ok ((parts.dropLast, parts.getLast?.getD ""), s)

end HttpScenario.Toml
