/-!
# Texts with places

In a YAML text it matters where a character stands: indentation shows structure, and a key has to
stand on one line.  So a text is first turned into spots, characters with their places.  All line
breaks that mean the same become the one character `\n` on the way; the line and the paragraph
separator stay what they are.

Not every character may occur in a text.  A byte order mark may, but only in front of it.
-/

namespace HttpScenario.Yaml

/-- What can be wrong with a YAML text. -/
inductive Fault where
  /-- A character that may not occur. -/
  | character
  /-- A character that cannot start anything. -/
  | start
  /-- An item or key where none is allowed. -/
  | context
  /-- A key without a colon. -/
  | key
  | indentation
  | scalar
  | escape
  | tag
  | anchor
  | directive
  /-- Tokens in an order that makes no sense. -/
  | nesting
  /-- A reference to something that has no such name. -/
  | unknownAnchor
  /-- Further documents after the first. -/
  | documents
  | depth
  | repetition
  /-- A value that is not of the shape asked for. -/
  | misfit
  deriving DecidableEq, Repr

/-- The text of a fault. -/
def Fault.message : Fault → String
  | .character => "control characters are not allowed"
  | .start => "found character that cannot start any token"
  | .context => "not allowed in this context"
  | .key => "could not find expected ':'"
  | .indentation => "invalid indentation"
  | .scalar => "unexpected end of a scalar"
  | .escape => "invalid escape"
  | .tag => "invalid tag"
  | .anchor => "invalid anchor"
  | .directive => "invalid directive"
  | .nesting => "unexpected token"
  | .unknownAnchor => "unknown anchor"
  | .documents => "more than one document"
  | .depth => "recursion limit exceeded"
  | .repetition => "repetition limit exceeded"
  | .misfit => "value of the wrong shape"

/-- A place in a text: how many characters stand before it, its line, and its column, all counted
from zero. -/
structure Mark where
  index : Nat
  line : Nat
  column : Nat
  deriving DecidableEq, Repr, Inhabited

/-- The place after a character. -/
def Mark.next (mark : Mark) : Mark :=
  { mark with index := mark.index + 1, column := mark.column + 1 }

/-- The start of the line after a break of so many characters. -/
def Mark.nextLine (mark : Mark) (width : Nat) : Mark :=
  ⟨mark.index + width, mark.line + 1, 0⟩

/-- A character and its place. -/
structure Spot where
  char : Char
  mark : Mark
  deriving DecidableEq, Repr

/-- Whether a character may occur in a text. -/
def isAllowed (c : Char) : Bool :=
  let n := c.toNat
  n == 0x09 || n == 0x0A || n == 0x0D || (0x20 ≤ n && n ≤ 0x7E) || n == 0x85
    || (0xA0 ≤ n && n ≤ 0xFFFD && n != 0xFEFF) || 0x10000 ≤ n

/-- Whether a character, as a spot holds it, breaks a line. -/
def isBreak (c : Char) : Bool :=
  c == '\n' || c == '\u2028' || c == '\u2029'

/-- Whether a character is a space or a tab. -/
def isBlank (c : Char) : Bool :=
  c == ' ' || c == '\t'

/-- Whether a character may stand in a name. -/
def isNameChar (c : Char) : Bool :=
  c.isAlpha || c.isDigit || c == '_' || c == '-'

/-- The spots of a text whose first character stands at a place, and where the text ends. -/
def spotsFrom (mark : Mark) : List Char → List Spot × Mark
  | [] => ([], mark)
  | '\r' :: '\n' :: rest =>
    let (spots, last) := spotsFrom (mark.nextLine 2) rest
    (⟨'\n', mark⟩ :: spots, last)
  | c :: rest =>
    let c := if c = '\r' ∨ c = '\u0085' then '\n' else c
    let (spots, last) := spotsFrom (if isBreak c then mark.nextLine 1 else mark.next) rest
    (⟨c, mark⟩ :: spots, last)

/-- The spots of a whole text, and where it ends. -/
def spotsOf (text : String) : Except Fault (List Spot × Mark) :=
  let cs :=
    match text.toList with
    | '\uFEFF' :: rest => rest
    | cs => cs
  if cs.all isAllowed then .ok (spotsFrom ⟨0, 0, 0⟩ cs) else .error .character

/-! ## Looking ahead -/

/-- Whether the next character is a given one. -/
def nextIs (c : Char) : List Spot → Bool
  | [] => false
  | s :: _ => s.char == c

/-- Whether the next character is one of some. -/
def nextAmong (cs : List Char) : List Spot → Bool
  | [] => false
  | s :: _ => cs.contains s.char

/-- Whether the next character is a space, a tab or a break. -/
def nextIsGap : List Spot → Bool
  | [] => false
  | s :: _ => isBlank s.char || isBreak s.char

/-- Whether a space, a tab, a break or the end comes next. -/
def nextIsOpen (spots : List Spot) : Bool :=
  spots.isEmpty || nextIsGap spots

/-- Whether a break or the end comes next. -/
def nextIsLineEnd : List Spot → Bool
  | [] => true
  | s :: _ => isBreak s.char

/-- The column of the next character; at the end of a text, the column of that end. -/
def columnOf (last : Mark) : List Spot → Nat
  | [] => last.column
  | s :: _ => s.mark.column

/-- Whether three equal marks and then a gap or the end come next, at the start of a line. -/
def isDocumentMark (mark : Char) : List Spot → Bool
  | a :: b :: c :: rest =>
    a.mark.column == 0 && a.char == mark && b.char == mark && c.char == mark && nextIsOpen rest
  | _ => false

/-- Whether a document starts or ends here. -/
def isDocumentBorder (spots : List Spot) : Bool :=
  isDocumentMark '-' spots || isDocumentMark '.' spots

/-- Leaves out a comment. -/
def skipComment (spots : List Spot) : List Spot :=
  if nextIs '#' spots then spots.dropWhile fun s => !isBreak s.char else spots

/-- Leaves out spaces, tabs and a comment up to the end of the line, and its break; nothing else may
stand there. -/
def endLine? (spots : List Spot) : Option (List Spot) :=
  match skipComment (spots.dropWhile fun s => isBlank s.char) with
  | [] => some []
  | s :: rest => if isBreak s.char then some rest else none

end HttpScenario.Yaml
