import HttpScenario.Json.Number
import HttpScenario.Table
/-!
# Documents

`Json` is the value of a document: null, a truth value, a number, a text, a list, or an object.
An object is a list of members.  Objects that are read as plain data are tables, sorted by key;
objects that a record of fixed fields is written to keep the order in which the fields are
declared.

Equality of documents (`same`) is equality of their parts, with numbers compared as parts of a
document.
-/

namespace HttpScenario

/-- A document. -/
inductive Json where
  | null
  | bool (value : Bool)
  | num (value : Json.Number)
  | str (value : String)
  | arr (items : List Json)
  | obj (members : List (String × Json))
  deriving Repr, Inhabited

namespace Json

/-- A top-level object: what expressions are checked against. -/
abbrev Object := Table Json

/-- A whole number as a document. -/
def int (value : Int) : Json :=
  .num (.whole value)

mutual

/-- Whether two documents have equal parts. -/
def same : Json → Json → Bool
  | .null, .null => true
  | .bool a, .bool b => a == b
  | .num a, .num b => a.same b
  | .str a, .str b => a == b
  | .arr a, .arr b => sameItems a b
  | .obj a, .obj b => sameMembers a b
  | _, _ => false

/-- Whether two lists hold equal documents in the same order. -/
def sameItems : List Json → List Json → Bool
  | [], [] => true
  | a :: as, b :: bs => same a b && sameItems as bs
  | _, _ => false

/-- Whether two objects have the same keys with equal documents. -/
def sameMembers : List (String × Json) → List (String × Json) → Bool
  | [], [] => true
  | (k, a) :: as, (l, b) :: bs => k == l && same a b && sameMembers as bs
  | _, _ => false

end

/-- What a message calls the kind of a document. -/
def kindName : Json → String
  | .null => "null"
  | .bool _ => "a boolean"
  | .num _ => "a number"
  | .str _ => "a string"
  | .arr _ => "an array"
  | .obj _ => "an object"

end Json

end HttpScenario
