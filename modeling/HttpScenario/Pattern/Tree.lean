import HttpScenario.Pattern.Charset
/-!
# Patterns as they are written

The tree of a pattern before flags are taken into account, and what can be wrong with a pattern.
-/

namespace HttpScenario.Pattern

/-- What can be wrong with a pattern. -/
inductive Fault where
  | classEscape
  | classRange
  | classRangeOrder
  | classUnclosed
  | countEmpty
  | countTooGreat
  | countOrder
  | countUnclosed
  | escapeAtEnd
  | escapeDigit
  | escapeEmpty
  | escapeNumber
  | escapeUnknown
  | backreference
  | flagDangling
  | flagDuplicate
  | flagRepeatedMinus
  | flagUnknown
  | flagAtEnd
  | groupNameDuplicate
  | groupNameEmpty
  | groupNameChar
  | groupNameAtEnd
  | groupUnclosed
  | groupUnopened
  | lookAround
  | nothingToRepeat
  | nestedTooDeep
  | propertySyntax
  | propertyUnknown
  | boundaryUnclosed
  | boundaryUnknown
  | unicodeRequired
  | invalidUtf8
  /-- The pattern is well formed but its automaton would be too large. -/
  | tooLarge
  deriving DecidableEq, Repr

/-- How many levels of groups, classes and repetitions a pattern may have. -/
def maxNesting : Nat := 250

/-- What is wrong with a pattern that is ill formed. -/
def Fault.reason : Fault → String
  | .classEscape => "invalid escape sequence found in character class"
  | .classRange => "invalid range boundary, must be a literal"
  | .classRangeOrder => "invalid character class range, the start must be <= the end"
  | .classUnclosed => "unclosed character class"
  | .countEmpty => "repetition quantifier expects a valid decimal"
  | .countTooGreat => "decimal literal invalid"
  | .countOrder => "invalid repetition count range, the start must be <= the end"
  | .countUnclosed => "unclosed counted repetition"
  | .escapeAtEnd => "incomplete escape sequence, reached end of pattern prematurely"
  | .escapeDigit => "invalid hexadecimal digit"
  | .escapeEmpty => "hexadecimal literal empty"
  | .escapeNumber => "hexadecimal literal is not a Unicode scalar value"
  | .escapeUnknown => "unrecognized escape sequence"
  | .backreference => "backreferences are not supported"
  | .flagDangling => "dangling flag negation operator"
  | .flagDuplicate => "duplicate flag"
  | .flagRepeatedMinus => "flag negation operator repeated"
  | .flagUnknown => "unrecognized flag"
  | .flagAtEnd => "expected flag but got end of regex"
  | .groupNameDuplicate => "duplicate capture group name"
  | .groupNameEmpty => "empty capture group name"
  | .groupNameChar => "invalid capture group character"
  | .groupNameAtEnd => "unclosed capture group name"
  | .groupUnclosed => "unclosed group"
  | .groupUnopened => "unopened group"
  | .lookAround => "look-around, including look-ahead and look-behind, is not supported"
  | .nothingToRepeat => "repetition operator missing expression"
  | .nestedTooDeep =>
    "exceed the maximum number of nested parentheses/brackets (" ++ toString maxNesting ++ ")"
  | .propertySyntax => "invalid Unicode character class"
  | .propertyUnknown => "Unicode property not found"
  | .boundaryUnclosed =>
    "special word boundary assertion is either unclosed or contains an invalid character"
  | .boundaryUnknown => "unrecognized special word boundary assertion, valid choices are: "
    ++ "start, end, start-half or end-half"
  | .unicodeRequired => "Unicode not allowed here"
  | .invalidUtf8 => "pattern can match invalid UTF-8"
  | .tooLarge => "compiled pattern too large"

/-- The text of a fault. -/
def Fault.message : Fault → String
  | .tooLarge => "Compiled regex exceeds size limit of 10485760 bytes."
  | fault => "regex parse error: " ++ fault.reason

/-- The flags that a pattern can set for a part of itself. -/
inductive Flag where
  /-- Letters match in either case. -/
  | ignoreCase
  /-- `^` and `$` match at line breaks. -/
  | lines
  /-- A dot matches line feeds too. -/
  | dotAll
  /-- Repetitions prefer few rounds; of no effect on whether there is a match. -/
  | swapGreed
  /-- Classes know all scripts. -/
  | unicode
  /-- A carriage return ends a line too. -/
  | crlf
  /-- Blanks and comments in the pattern are left out. -/
  | verbose
  deriving DecidableEq, Repr

/-- Flags as they are set and cleared, in order. -/
abbrev FlagChange := List (Flag × Bool)

/-- The classes that a backslash and a letter write. -/
inductive ShortClass where
  | digit
  | space
  | word
  deriving DecidableEq, Repr

/-- A place between characters. -/
inductive Anchor where
  /-- `^` and `$`, whose meaning depends on flags. -/
  | lineStart
  | lineEnd
  | textStart
  | textEnd
  | boundary
  | notBoundary
  | wordStart
  | wordEnd
  | wordStartHalf
  | wordEndHalf
  deriving DecidableEq, Repr

/-- A class as it is written between brackets. -/
inductive ClassTree where
  /-- A character, and whether it was written as a number of one octet. -/
  | char (n : Nat) (asOctet : Bool)
  | range (first last : Nat)
  | short (kind : ShortClass) (negated : Bool)
  /-- A class with a name between colons. -/
  | named (ranges : List (Nat × Nat)) (negated : Bool)
  /-- A property of characters. -/
  | property (set : Charset) (negated : Bool)
  | bracket (negated : Bool) (body : ClassTree)
  | union (items : List ClassTree)
  | inter (a b : ClassTree)
  | diff (a b : ClassTree)
  | symmDiff (a b : ClassTree)
  deriving Repr, Inhabited

/-- A pattern as it is written. -/
inductive Tree where
  | empty
  /-- Flags for the rest of the group. -/
  | flags (change : FlagChange)
  /-- A character, and whether it was written as a number of one octet. -/
  | char (n : Nat) (asOctet : Bool)
  | dot
  | anchor (kind : Anchor)
  | short (kind : ShortClass) (negated : Bool)
  | property (set : Charset) (negated : Bool)
  | bracket (body : ClassTree)
  | rep (low : Nat) (high : Option Nat) (body : Tree)
  | group (change : FlagChange) (body : Tree)
  | alt (branches : List Tree)
  | cat (items : List Tree)
  deriving Repr, Inhabited

/-- The items of a sequence as one tree. -/
def Tree.ofItems : List Tree → Tree
  | [] => .empty
  | [t] => t
  | ts => .cat ts

/-- Branches as one tree. -/
def Tree.ofBranches : List Tree → Tree
  | [] => .empty
  | [t] => t
  | ts => .alt ts

/-- The items of a union as one class. -/
def ClassTree.ofItems : List ClassTree → ClassTree
  | [t] => t
  | ts => .union ts

end HttpScenario.Pattern
