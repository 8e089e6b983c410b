import HttpScenario.Json.Basic
import HttpScenario.Json.Number
import HttpScenario.Yaml.Plain
import HttpScenario.Yaml.Token
/-!
# Writing YAML

A document is written in blocks, two columns further in for each level; the items of a list that is
the value of a key start in the column of the key.  Lines are never wrapped.

A text is written plain if it would be read back as the same text, with no character in it that has
a meaning there.  A text of several lines becomes a literal block.  What neither way can hold goes
between quotes: single ones where nothing has to be escaped, double ones otherwise.
-/

namespace HttpScenario.Yaml

/-! ## What a text is like -/

/-- Whether a character breaks a line. -/
def breaksLine (c : Char) : Bool :=
  c == '\n' || c == '\r' || c == '\u0085' || c == '\u2028' || c == '\u2029'

/-- Whether a character can be written as it is. -/
def isPrintable (c : Char) : Bool :=
  let n := c.toNat
  n == 0x0A || (0x20 ≤ n && n ≤ 0x7E) || (0xA0 ≤ n && n ≤ 0xFFFD && n != 0xFEFF) || 0x10000 ≤ n

/-- Whether the end, or a character that separates words, comes next. -/
def endsWord : List Char → Bool
  | [] => true
  | c :: _ => isBlank c || breaksLine c || c == '\x00'

/-- Whether a character is directly followed by another, both of some kind. -/
def hasPair (first second : Char → Bool) : List Char → Bool
  | a :: b :: rest => (first a && second b) || hasPair first second (b :: rest)
  | _ => false

/-- The characters that no plain text starts with. -/
def startMarks : List Char :=
  ['#', ',', '[', ']', '{', '}', '&', '*', '!', '|', '>', '\'', '"', '%', '@', '\x60']

/-- Whether the start of a text would have a meaning. -/
def startsAsMark : List Char → Bool
  | [] => false
  | c :: rest =>
    startMarks.contains c || ((c == '?' || c == ':' || c == '-') && endsWord rest)
      || (c :: rest).take 3 == ['-', '-', '-'] || (c :: rest).take 3 == ['.', '.', '.']

/-- Whether a colon ends a word, or a number sign starts one, after the first character. -/
def hasInnerMark : List Char → Bool
  | a :: b :: rest =>
    (b == ':' && endsWord rest) || (b == '#' && endsWord [a]) || hasInnerMark (b :: rest)
  | _ => false

/-- Whether a text holds a break. -/
def isMultiline (cs : List Char) : Bool :=
  cs.any breaksLine

/-- Whether a character is a space. -/
def isSpace (c : Char) : Bool :=
  c == ' '

/-- Whether a text needs escapes: it holds a character that is not printable, or a line of it ends
in a space. -/
def needsEscapes (cs : List Char) : Bool :=
  cs.any (!isPrintable ·) || hasPair isSpace breaksLine cs

/-- Whether a text can be written plain. -/
def allowsPlain (cs : List Char) : Bool :=
  !(needsEscapes cs || isMultiline cs || startsAsMark cs || hasInnerMark cs
    || cs.head?.any isSpace || cs.getLast?.any isSpace)

/-- Whether a text can stand between single quotes. -/
def allowsSingleQuotes (cs : List Char) : Bool :=
  !(needsEscapes cs || hasPair breaksLine isSpace cs)

/-- Whether a text can be written as a block of lines. -/
def allowsBlock (cs : List Char) : Bool :=
  !(cs.isEmpty || needsEscapes cs || cs.getLast?.any isSpace)

/-- Whether a plain scalar would be taken for something else than a text, or might be by another
reader. -/
def looksLikeOther (s : String) : Bool :=
  s.isEmpty || isNull s || (flag? s).isSome || hasLeadingZero s.toList || (real? s).isSome
    || match whole? s with
      | some n => fitsWords n
      | none => false

/-- How a text is written; a key that stands on one line with its value is never a block. -/
def styleOf (s : String) : Style :=
  let cs := s.toList
  let quoted := if allowsSingleQuotes cs then .singleQuoted else .doubleQuoted
  if cs.contains '\n' then (if allowsBlock cs then .literal else .doubleQuoted)
  else if !looksLikeOther s && allowsPlain cs then .plain
  else quoted

/-! ## Scalars -/

/-- Where the next thing is written. -/
inductive Place where
  /-- At the start of a line. -/
  | lineStart
  /-- Behind a mark, on whose line a block may start. -/
  | afterMark
  /-- Behind something that fills its line. -/
  | midLine
  deriving DecidableEq, Repr

/-- So many spaces. -/
def spaces (count : Nat) : List Char :=
  List.replicate count ' '

/-- Goes to a column of a line of its own; behind a mark the line goes on. -/
def startLine (place : Place) (column : Nat) : List Char :=
  match place with
  | .lineStart => spaces column
  | .afterMark => [' ']
  | .midLine => '\n' :: spaces column

/-- Lines, each but the first brought to a column once something is written on it; `fresh` says
whether the next character starts a line. -/
def indentLines (column : Nat) (write : Char → List Char) : (fresh : Bool) → List Char → List Char
  | _, [] => []
  | fresh, c :: rest =>
    if breaksLine c then c :: indentLines column write true rest
    else (if fresh then spaces column else []) ++ write c ++ indentLines column write false rest

/-- Whether a text ends in a break. -/
def endsInBreak (cs : List Char) : Bool :=
  cs.getLast?.any breaksLine

/-- A text between single quotes. -/
def singleQuoted (column : Nat) (cs : List Char) : List Char :=
  '\'' :: indentLines column (fun c => if c = '\'' then ['\'', '\''] else [c]) false cs
    ++ (if endsInBreak cs then spaces column else []) ++ ['\'']

/-- So many hexadecimal digits in capitals. -/
def hexDigits (width n : Nat) : List Char :=
  let digits := (Nat.toDigits 16 n).map Char.toUpper
  List.replicate (width - digits.length) '0' ++ digits

/-- A character between double quotes. -/
def escapeChar (c : Char) : List Char :=
  match c with
  | '\x00' => ['\\', '0']
  | '\x07' => ['\\', 'a']
  | '\x08' => ['\\', 'b']
  | '\t' => ['\\', 't']
  | '\n' => ['\\', 'n']
  | '\x0b' => ['\\', 'v']
  | '\x0c' => ['\\', 'f']
  | '\r' => ['\\', 'r']
  | '\x1b' => ['\\', 'e']
  | '"' => ['\\', '"']
  | '\\' => ['\\', '\\']
  | '\u0085' => ['\\', 'N']
  | '\u2028' => ['\\', 'L']
  | '\u2029' => ['\\', 'P']
  | c =>
    if isPrintable c then [c]
    else if c.toNat ≤ 0xFF then '\\' :: 'x' :: hexDigits 2 c.toNat
    else if c.toNat ≤ 0xFFFF then '\\' :: 'u' :: hexDigits 4 c.toNat
    else '\\' :: 'U' :: hexDigits 8 c.toNat

/-- A text between double quotes. -/
def doubleQuoted (cs : List Char) : List Char :=
  '"' :: cs.flatMap escapeChar ++ ['"']

/-- What the head of a block says about its start and its end: an indentation if it starts with a
blank or an empty line, and what becomes of the breaks at its end. -/
def blockHints (cs : List Char) : List Char :=
  (if cs.head?.any fun c => isSpace c || breaksLine c then ['2'] else [])
    ++ match cs.reverse with
      | a :: rest =>
        if !breaksLine a then ['-']
        else if rest.isEmpty || rest.head?.any breaksLine then ['+']
        else []
      | [] => ['-']

/-- A text as a block of lines. -/
def literalBlock (column : Nat) (cs : List Char) : List Char :=
  '|' :: blockHints cs ++ '\n' :: indentLines column (fun c => [c]) true cs

/-- A text inside a block at some column, and where the next thing is written. -/
def textScalar (column : Nat) (s : String) : List Char × Place :=
  let cs := s.toList
  match styleOf s with
  | .plain => (cs, .midLine)
  | .singleQuoted => (singleQuoted (column + 2) cs, .midLine)
  | .literal | .folded =>
    (literalBlock (column + 2) cs, if endsInBreak cs then .lineStart else .midLine)
  | .doubleQuoted => (doubleQuoted cs, .midLine)

/-- Doubles are written as in other documents, but without a plus in the exponent. -/
def numberLayout : Double.Layout :=
  { Json.Number.layout with plus := "" }

/-- The text of a number. -/
def numberText : Json.Number → List Char
  | .whole n => (Json.Number.whole n).text.toList
  | .real .nan => ".nan".toList
  | .real (.infinite negative) => if negative then "-.inf".toList else ".inf".toList
  | .real d => (d.text numberLayout).toList

/-! ## Collections -/

/-- The greatest number of octets of a key that stands on one line with its value. -/
def maxSimpleKey : Nat := 128

/-- Whether a key stands on one line with its value. -/
def isSimpleKey (key : String) : Bool :=
  !isMultiline key.toList && decide (key.utf8ByteSize ≤ maxSimpleKey)

/-- A key at a column, up to the place of its value. -/
def keyChars (column : Nat) (key : String) : List Char × Place :=
  if isSimpleKey key then ((textScalar column key).1 ++ [':'], .midLine)
  else
    let (chars, place) := textScalar column key
    ('?' :: ' ' :: chars ++ startLine place column ++ [':'], .afterMark)

mutual

/-- A value behind a key or a mark, inside a block at a column. -/
def valueChars (column : Nat) (place : Place) : Json → List Char × Place
  | .null => (" null".toList, .midLine)
  | .bool true => (" true".toList, .midLine)
  | .bool false => (" false".toList, .midLine)
  | .num n => (' ' :: numberText n, .midLine)
  | .str s =>
    let (chars, place) := textScalar column s
    (' ' :: chars, place)
  | .arr [] => (" []".toList, .midLine)
  | .arr (item :: items) =>
    let inner := if place = .midLine then column else column + 2
    let (chars, next) := valueChars inner .afterMark item
    let (more, last) := itemChars inner next items
    (startLine place inner ++ '-' :: chars ++ more, last)
  | .obj [] => ([' ', '{', '}'], .midLine)
  | .obj ((key, value) :: members) =>
    let inner := column + 2
    let (keyText, behind) := keyChars inner key
    let (chars, next) := valueChars inner behind value
    let (more, last) := memberChars inner next members
    (startLine place inner ++ keyText ++ chars ++ more, last)

/-- Items at a column. -/
def itemChars (column : Nat) (place : Place) : List Json → List Char × Place
  | [] => ([], place)
  | item :: items =>
    let (chars, next) := valueChars column .afterMark item
    let (more, last) := itemChars column next items
    (startLine place column ++ '-' :: chars ++ more, last)

/-- Members at a column. -/
def memberChars (column : Nat) (place : Place) : List (String × Json) → List Char × Place
  | [] => ([], place)
  | (key, value) :: members =>
    let (keyText, behind) := keyChars column key
    let (chars, next) := valueChars column behind value
    let (more, last) := memberChars column next members
    (startLine place column ++ keyText ++ chars ++ more, last)

end

/-- A whole document; it ends with a line end. -/
def render (value : Json) : String :=
  let (chars, place) :=
    match value with
    | .obj (member :: members) => memberChars 0 .lineStart (member :: members)
    | .arr (item :: items) => itemChars 0 .lineStart (item :: items)
    | value =>
      let (chars, place) := valueChars 0 .afterMark value
      (chars.drop 1, place)
  String.ofList (chars ++ startLine place 0)

end HttpScenario.Yaml
