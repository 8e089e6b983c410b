import HttpScenario.Json.Printer
import HttpScenario.Script.Compare
import HttpScenario.Script.Lexer
import HttpScenario.Script.Parser
/-!
# The value of a script

A script is evaluated with every key of a body as a variable.  `&&` and `||` give one of their
operands and evaluate the right one only if it is needed.  A property that a value does not have is
null, and so is an item that a list does not have; only null itself has no properties at all.
-/

namespace HttpScenario.Script

/-- The place in a list that a number stands for: a whole number that is not negative. -/
def placeOf? (n : Json.Number) : Option Nat :=
  match n.toNat? with
  | some place => some place
  | none =>
    match n.toDouble.truncate? with
    | some whole => if n.toDouble.isWhole && decide (0 ≤ whole) then some whole.toNat else none
    | none => none

/-- The property of a value under a name. -/
def property (target : Json) (name : String) : Except Fault Json :=
  match target with
  | .null => .error (.nullAccess name)
  | .obj members => .ok ((Table.find? name members).getD .null)
  | .arr items => .ok (if name = "length" then .int items.length else .null)
  | .str s => .ok (if name = "length" then .int s.length else .null)
  | .bool _ => .ok .null
  | .num _ => .ok .null

/-- What stands in a value at a key between brackets. -/
def itemAt (target key : Json) : Except Fault Json :=
  match target, key with
  | .arr items, .num n => .ok (((placeOf? n).bind fun place => items[place]?).getD .null)
  | target, .str name => property target name
  | .null, key => .error (.nullAccess key.compact)
  | _, _ => .ok .null

/-- The negative of a number. -/
def negate : Json → Except Fault Json
  | .num n => .ok (numberValue n.toDouble.neg)
  | value => .error (.badNegation value.compact)

/-- The value of an expression over the keys of a body. -/
def eval (body : Json.Object) : Expr → Except Fault Json
  | .literal value => .ok value
  | .variable name =>
    match body.find? name with
    | some value => .ok value
    | none => .error (.undefined name)
  | .member target name => do
    let target ← eval body target
    property target name
  | .index target key => do
    let target ← eval body target
    let key ← eval body key
    itemAt target key
  | .not operand => do
    let value ← eval body operand
    .ok (.bool (!truthy value))
  | .neg operand => do
    let value ← eval body operand
    negate value
  | .and left right => do
    let value ← eval body left
    if truthy value then eval body right else .ok value
  | .or left right => do
    let value ← eval body left
    if truthy value then .ok value else eval body right
  | .compare op left right => do
    let a ← eval body left
    let b ← eval body right
    .ok (.bool (op.holds a b))

/-- The value of a script over the keys of a body. -/
def evaluate (source : String) (body : Json.Object) : Except Fault Json := do
  let tokens ← tokenize source
  let e ← parse tokens
  eval body e

end HttpScenario.Script
