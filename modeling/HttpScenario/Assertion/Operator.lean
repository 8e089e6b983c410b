import HttpScenario.Error
import HttpScenario.Text.Blank
/-!
# Rule operators

The operators that a rule can name.  A name is read without the blanks around it and without regard
to case; several names stand for one operator.
-/

namespace HttpScenario

/-- An operator of a rule. -/
inductive Operator where
  | eq
  | ne
  | gt
  | gte
  | lt
  | lte
  | contains
  | notContains
  | exists
  | notExists
  | matches
  deriving DecidableEq, Repr

namespace Operator

/-- The operator with a name in small letters. -/
def ofName? (name : String) : Option Operator :=
  if name = "eq" ∨ name = "=" ∨ name = "==" ∨ name = "===" then some .eq
  else if name = "ne" ∨ name = "!=" ∨ name = "!==" then some .ne
  else if name = "gt" ∨ name = ">" then some .gt
  else if name = "gte" ∨ name = ">=" then some .gte
  else if name = "lt" ∨ name = "<" then some .lt
  else if name = "lte" ∨ name = "<=" then some .lte
  else if name = "contains" then some .contains
  else if name = "not_contains" then some .notContains
  else if name = "exists" then some .exists
  else if name = "not_exists" then some .notExists
  else if name = "matches" then some .matches
  else none

/-- The operator that a text names. -/
def parse (text : String) : Except Error Operator :=
  let name := (Text.trim text).toLower
  match ofName? name with
  | some op => .ok op
  | none => .error (.evaluator ("unknown operator '" ++ name ++ "'"))

end Operator

end HttpScenario
