import HttpScenario.Double.Shortest
/-!
# Numbers of a document

A number of a document is a whole number or a double.  The two kinds are kept apart: `1` and `1.0`
are different numbers as parts of a document, and they are written differently.  Where numbers are
compared by magnitude, both are read as doubles first (`toDouble`).
-/

namespace HttpScenario.Json

/-- A number as a document holds it. -/
inductive Number where
  | whole (value : Int)
  | real (value : Double)
  deriving DecidableEq, Repr, Inhabited

namespace Number

/-- The least whole number that is kept exactly. -/
def least : Int := -9223372036854775808

/-- The first whole number above the ones that are kept exactly. -/
def limit : Int := 18446744073709551616

/-- Equality of two parts of a document: a whole number never equals a double, and doubles are
equal as numbers are. -/
def same : Number → Number → Bool
  | .whole a, .whole b => a == b
  | .real a, .real b => a.same b
  | _, _ => false

/-- The nearest double. -/
def toDouble : Number → Double
  | .whole value => Double.ofInt value
  | .real value => value

/-- The number as a place in a list, when it is a whole number that is kept as one. -/
def toNat? : Number → Option Nat
  | .whole value => if value < 0 then none else some value.toNat
  | .real _ => none

/-- Documents write doubles positionally from 10⁻⁵ to below 10¹⁶, always with a point, and put a
plus before an exponent that is not negative. -/
def layout : Double.Layout :=
  { tie := .toEven, positional := fun first => -5 ≤ first && first ≤ 15, keepsPoint := true,
    plus := "+" }

/-- The text of a number; there is none for an infinity or a NaN, which are written as null. -/
def text : Number → String
  | .whole value =>
    if value < 0 then String.ofList ('-' :: Double.decimalDigits value.natAbs)
    else String.ofList (Double.decimalDigits value.toNat)
  | .real value => if value.isFinite then value.text layout else "null"

end Number

end HttpScenario.Json
