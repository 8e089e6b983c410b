/-!
# Blank characters

The characters that count as white space when text is trimmed, when a script is cut into tokens
and when a pattern asks for `\s`: those with the Unicode property `White_Space`.  It is a larger
set than core's `Char.isWhitespace`, which knows four ASCII characters only.
-/

namespace HttpScenario.Text

/-- Holds of the characters with the property `White_Space`. -/
def isBlank (c : Char) : Bool :=
  let n := c.toNat
  (9 ≤ n && n ≤ 13) || n == 0x20 || n == 0x85 || n == 0xA0 || n == 0x1680
    || (0x2000 ≤ n && n ≤ 0x200A) || n == 0x2028 || n == 0x2029 || n == 0x202F
    || n == 0x205F || n == 0x3000

/-- The characters without the blanks at either end. -/
def trimChars (cs : List Char) : List Char :=
  ((cs.dropWhile isBlank).reverse.dropWhile isBlank).reverse

/-- The text without the blanks at either end. -/
def trim (s : String) : String :=
  String.ofList (trimChars s.toList)

end HttpScenario.Text
