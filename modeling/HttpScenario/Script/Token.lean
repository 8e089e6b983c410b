import HttpScenario.Double.Shortest
/-!
# Tokens of a script

The tokens that a script is cut into, and what can go wrong from the text to the value.  A fault is
a cause; its wording is `Fault.message`.
-/

namespace HttpScenario.Script

/-- A token. -/
inductive Token where
  | number (value : Double)
  | text (value : String)
  | ident (name : String)
  | dot
  | openBracket
  | closeBracket
  | openParen
  | closeParen
  | not
  | minus
  | and
  | or
  | equal
  | strictEqual
  | notEqual
  | strictNotEqual
  | less
  | lessEqual
  | greater
  | greaterEqual
  deriving DecidableEq, Repr, Inhabited

/-- How a message names a token. -/
def Token.describe : Token → String
  | .number value => value.text Double.plainLayout
  | .text value => "'" ++ value ++ "'"
  | .ident name => name
  | .dot => "Dot"
  | .openBracket => "LBracket"
  | .closeBracket => "RBracket"
  | .openParen => "LParen"
  | .closeParen => "RParen"
  | .not => "Not"
  | .minus => "Minus"
  | .and => "And"
  | .or => "Or"
  | .equal => "Eq"
  | .strictEqual => "StrictEq"
  | .notEqual => "Ne"
  | .strictNotEqual => "StrictNe"
  | .less => "Lt"
  | .lessEqual => "Le"
  | .greater => "Gt"
  | .greaterEqual => "Ge"

/-- The nesting limit for parentheses, brackets and unary operators together. -/
def maxDepth : Nat := 128

/-- The greatest number of tokens in a script. -/
def maxTokens : Nat := 4096

/-- Why a script has no value. -/
inductive Fault where
  /-- A character that starts no token, and how many characters stand before it. -/
  | unexpectedChar (c : Char) (offset : Nat)
  | unterminatedText
  /-- A token that cannot stand where it does, as a message names it. -/
  | unexpectedToken (description : String)
  | unexpectedEnd
  /-- A name that is no key of the body. -/
  | undefined (name : String)
  /-- A property of null was asked for. -/
  | nullAccess (property : String)
  /-- A value that is no number was negated. -/
  | badNegation (value : String)
  | tooDeep
  | tooLong
  deriving DecidableEq, Repr

/-- The text of a fault. -/
def Fault.message : Fault → String
  | .unexpectedChar c offset =>
    "unexpected character '" ++ String.singleton c ++ "' at offset " ++ toString offset
  | .unterminatedText => "unterminated string literal"
  | .unexpectedToken description => "unexpected token " ++ description
  | .unexpectedEnd => "unexpected end of expression"
  | .undefined name => name ++ " is not defined"
  | .nullAccess property => "cannot read property '" ++ property ++ "' of null"
  | .badNegation value => "cannot negate " ++ value
  | .tooDeep => "expression nests deeper than " ++ toString maxDepth ++ " levels"
  | .tooLong => "expression has more than " ++ toString maxTokens ++ " tokens"

end HttpScenario.Script
