import HttpScenario.Double.Basic
import HttpScenario.Table
/-!
# Values of a configuration text

The values that a TOML text can hold, and what can be wrong with such a text.  A point in time is
kept as it is written, since nothing here computes with it.
-/

namespace HttpScenario.Toml

/-- A value. -/
inductive Value where
  | text (s : String)
  | whole (n : Int)
  | real (d : Double)
  | flag (b : Bool)
  /-- A date, a time of day, or both. -/
  | moment (s : String)
  | list (items : List Value)
  | table (entries : List (String × Value))
  deriving Repr, Inhabited

/-- What can be wrong with a text. -/
inductive Fault where
  /-- It is no TOML. -/
  | malformed
  /-- A number that is too great, or a date that does not exist. -/
  | outOfRange
  /-- It is nested too deeply. -/
  | tooDeep
  /-- A key is given a value twice, or a table is opened twice. -/
  | duplicate (key : String)
  /-- Something below a key that does not stand for a table. -/
  | noTable (key : String)
  /-- A value is not of the kind that is wanted. -/
  | misfit
  deriving DecidableEq, Repr

/-- The text of a fault. -/
def Fault.message : Fault → String
  | .malformed => "malformed text"
  | .outOfRange => "value out of range"
  | .tooDeep => "recursion limit exceeded"
  | .duplicate key => "duplicate key '" ++ key ++ "'"
  | .noTable key => "key '" ++ key ++ "' is no table"
  | .misfit => "invalid type"

/-- Reads something from the front of some characters. -/
abbrev Reader (α : Type) := List Char → Except Fault (α × List Char)

end HttpScenario.Toml
