import HttpScenario.Json.Basic
import HttpScenario.Double.Decimal
import HttpScenario.Script.Expr
import HttpScenario.Text.Blank
/-!
# Comparing values in scripts

Strict equality compares numbers by magnitude and everything else as parts of a document.  Loose
equality also compares a number with a text or a truth value, by reading both as numbers.  The
orders compare two texts by their characters, and all else by reading both sides as numbers; where
one side is no number, no order holds.
-/

namespace HttpScenario.Script

/-- The order of two texts, character by character. -/
def textOrder (a b : String) : Ordering :=
  if a < b then .lt else if a = b then .eq else .gt

/-- A value read as a number: truth values are one and zero, null and blank text are zero, other
text is what it writes.  Lists and objects are no numbers. -/
def toNumber? : Json → Option Double
  | .num n => some n.toDouble
  | .bool true => some (Double.ofInt 1)
  | .bool false => some Double.zero
  | .null => some Double.zero
  | .str s => if (Text.trim s).isEmpty then some Double.zero else Double.read? (Text.trim s)
  | .arr _ => none
  | .obj _ => none

/-- Equality of two values read as numbers; two values that are no numbers count as equal. -/
def sameNumber (a b : Json) : Bool :=
  match toNumber? a, toNumber? b with
  | some x, some y => x.same y
  | none, none => true
  | _, _ => false

/-- Strict equality. -/
def strictEquals : Json → Json → Bool
  | .num a, .num b => a.toDouble.same b.toDouble
  | a, b => a.same b

/-- Loose equality. -/
def looseEquals (a b : Json) : Bool :=
  match a, b with
  | .num _, .str _ => sameNumber a b
  | .str _, .num _ => sameNumber a b
  | .num _, .bool _ => sameNumber a b
  | .bool _, .num _ => sameNumber a b
  | _, _ => strictEquals a b

/-- The order of two values, where there is one. -/
def order? (a b : Json) : Option Ordering :=
  match a, b with
  | .str x, .str y => some (textOrder x y)
  | a, b =>
    match toNumber? a, toNumber? b with
    | some x, some y => x.compare? y
    | _, _ => none

/-- What an order operator needs of the order of its sides. -/
def orderHolds : Comparison → Ordering → Bool
  | .less, o => o == .lt
  | .lessEqual, o => o != .gt
  | .greater, o => o == .gt
  | .greaterEqual, o => o != .lt
  | _, _ => false

/-- Whether a comparison holds between two values. -/
def Comparison.holds (op : Comparison) (a b : Json) : Bool :=
  match op with
  | .strictEqual => strictEquals a b
  | .strictNotEqual => !strictEquals a b
  | .equal => looseEquals a b
  | .notEqual => !looseEquals a b
  | op =>
    match order? a b with
    | some o => orderHolds op o
    | none => false

/-- Whether a value counts as true: not null, false, zero or the empty text. -/
def truthy : Json → Bool
  | .null => false
  | .bool value => value
  | .num n => !n.toDouble.same Double.zero && n.toDouble != .nan
  | .str s => !s.isEmpty
  | .arr _ => true
  | .obj _ => true

end HttpScenario.Script
