import HttpScenario.Json.Basic
/-!
# Script expressions

The tree that a script is read into.  Literals are values of documents; a variable is a key of the
body that the script is checked against.
-/

namespace HttpScenario.Script

/-- The eight comparison operators. -/
inductive Comparison where
  | equal
  | strictEqual
  | notEqual
  | strictNotEqual
  | less
  | lessEqual
  | greater
  | greaterEqual
  deriving DecidableEq, Repr

/-- An expression. -/
inductive Expr where
  | literal (value : Json)
  | variable (name : String)
  | member (target : Expr) (name : String)
  | index (target key : Expr)
  | not (operand : Expr)
  | neg (operand : Expr)
  | and (left right : Expr)
  | or (left right : Expr)
  | compare (op : Comparison) (left right : Expr)
  deriving Repr, Inhabited

/-- A whole double below 2⁶³ in magnitude becomes a whole number; a double that is not finite
becomes null. -/
def numberValue (d : Double) : Json :=
  match d.truncate? with
  | some whole =>
    if d.isWhole && decide (whole.natAbs < 9223372036854775808) then .num (.whole whole)
    else .num (.real d)
  | none => .null

end HttpScenario.Script
