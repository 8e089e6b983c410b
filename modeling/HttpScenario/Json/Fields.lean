import HttpScenario.Json.Basic
/-!
# Taking a document apart

Total ways to look into a document that was read by a shape: the field of a record, and a value as
a text, a truth value, a number, a list.  What the shape already rules out reads as the empty value
of the kind asked for.
-/

namespace HttpScenario.Json

/-- The member of an object under a key, or null. -/
def field (value : Json) (key : String) : Json :=
  match value with
  | .obj members => (members.lookup key).getD .null
  | _ => .null

/-- A text. -/
def toText : Json → String
  | .str s => s
  | _ => ""

/-- A truth value. -/
def toFlag : Json → Bool
  | .bool b => b
  | _ => false

/-- A whole number. -/
def toInt : Json → Int
  | .num (.whole n) => n
  | _ => 0

/-- A whole number that is not negative. -/
def toNat (value : Json) : Nat :=
  value.toInt.toNat

/-- A double. -/
def toReal : Json → Double
  | .num n => n.toDouble
  | _ => Double.zero

/-- The items of a list. -/
def toItems : Json → List Json
  | .arr items => items
  | _ => []

/-- The members of an object. -/
def toMembers : Json → List (String × Json)
  | .obj members => members
  | _ => []

/-- A text, or nothing for null. -/
def toText? : Json → Option String
  | .str s => some s
  | _ => none

end HttpScenario.Json
