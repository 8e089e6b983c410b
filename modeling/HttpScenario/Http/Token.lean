/-!
# Words and values of a request

A method and the name of a header are tokens: one or more letters, digits and marks from a fixed
list.  The value of a header may hold any octet but the controls, of which only the tab is allowed.
-/

namespace HttpScenario.Http

/-- The marks that may stand in a token. -/
def tokenMarks : List Char :=
  ['!', '#', '$', '%', '&', '\'', '*', '+', '-', '.', '^', '_', '\x60', '|', '~']

/-- Whether a character may stand in a token. -/
def isTokenChar (c : Char) : Bool :=
  c.isAlpha || c.isDigit || tokenMarks.contains c

/-- Whether a text is a token. -/
def isToken (s : String) : Bool :=
  !s.isEmpty && s.toList.all isTokenChar

/-- The greatest length of the name of a header. -/
def maxNameLength : Nat := 65535

/-- Whether a text can be the name of a header. -/
def isHeaderName (s : String) : Bool :=
  isToken s && decide (s.length ≤ maxNameLength)

/-- Whether a character may stand in the value of a header.  Characters from U+0080 on are written
as octets that are no controls. -/
def isValueChar (c : Char) : Bool :=
  c == '\t' || (0x20 ≤ c.toNat && c.toNat != 0x7F)

/-- Whether a text can be the value of a header. -/
def isHeaderValue (s : String) : Bool :=
  s.toList.all isValueChar

end HttpScenario.Http
