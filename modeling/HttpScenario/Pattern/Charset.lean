import HttpScenario.Pattern.Fold
import HttpScenario.Pattern.Word
/-!
# Sets of characters

The sets that a pattern can name: ranges, the classes of digits, blanks and word characters, and
what is made of sets by union, intersection, difference, complement, and by adding the characters
that differ from a member in case only.  A set is data; `contains` says what is in it.
-/

namespace HttpScenario.Pattern

/-- A set of characters. -/
inductive Charset where
  /-- Characters whose numbers lie in one of some closed ranges. -/
  | ranges (ranges : List (Nat × Nat))
  /-- Decimal digits of any script. -/
  | decimal
  /-- Blanks of any script. -/
  | blank
  /-- Word characters of any script. -/
  | word
  | union (a b : Charset)
  | inter (a b : Charset)
  | diff (a b : Charset)
  | symmDiff (a b : Charset)
  | compl (a : Charset)
  /-- The members, and all characters that differ from one of them in case only. -/
  | folded (a : Charset)
  /-- The members, and the ASCII letters that differ from one of them in case only. -/
  | asciiFolded (a : Charset)
  deriving Repr, Inhabited

/-- The ASCII letter that differs from a letter in case only, and the letter itself. -/
def asciiFamily (c : Char) : List Char :=
  if c.isLower then [c, c.toUpper] else if c.isUpper then [c, c.toLower] else [c]

namespace Charset

/-- Whether a character is in a set. -/
def contains : Charset → Char → Bool
  | .ranges rs, c => Text.inRanges rs c.toNat
  | .decimal, c => isDecimal c
  | .blank, c => Text.isBlank c
  | .word, c => isWord c
  | .union a b, c => a.contains c || b.contains c
  | .inter a b, c => a.contains c && b.contains c
  | .diff a b, c => a.contains c && !b.contains c
  | .symmDiff a b, c => a.contains c != b.contains c
  | .compl a, c => !a.contains c
  | .folded a, c => (family c.toNat).any fun n => a.contains (Char.ofNat n)
  | .asciiFolded a, c => (asciiFamily c).any a.contains

/-- The set of one character. -/
def single (n : Nat) : Charset :=
  .ranges [(n, n)]

/-- The set of no character. -/
def none : Charset :=
  .ranges []

/-- The complement if asked for. -/
def negateIf (negated : Bool) (a : Charset) : Charset :=
  if negated then .compl a else a

end Charset

end HttpScenario.Pattern
