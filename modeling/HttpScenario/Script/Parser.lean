import HttpScenario.Script.Expr
import HttpScenario.Script.Token
/-!
# Reading an expression from tokens

Eight levels, each built from the next: `||`, `&&`, the four equalities, the four orders, the unary
operators, the steps `.name` and `[…]`, and the primaries.  The binary levels are left-associative
and share one loop (`chain`).

Parentheses, brackets and unary operators open a new nesting level.  What may stand inside them is
handed to the levels as a pair of readers (`Inner`); `inner` builds the pair for a remaining depth
from the pair for one less, and at depth zero both readers refuse.  Recursion is therefore on the
remaining depth, and the loops are bounded by the number of tokens.
-/

namespace HttpScenario.Script

/-- Reads an expression from the front of some tokens. -/
abbrev Parse := List Token → Except Fault (Expr × List Token)

/-- The readers for what stands one nesting level further in. -/
structure Inner where
  /-- An operand of a unary operator. -/
  unary : Parse
  /-- What stands between parentheses or brackets. -/
  expression : Parse

/-- Reads one given token. -/
def expectToken (token : Token) : List Token → Except Fault (List Token)
  | [] => .error .unexpectedEnd
  | t :: rest => if t = token then .ok rest else .error (.unexpectedToken t.describe)

/-- The expression that a name stands for. -/
def nameExpr (name : String) : Expr :=
  if name = "true" then .literal (.bool true)
  else if name = "false" then .literal (.bool false)
  else if name = "null" ∨ name = "undefined" then .literal .null
  else .variable name

/-- A literal, a name, or an expression between parentheses. -/
def primary (inner : Inner) : Parse
  | [] => .error .unexpectedEnd
  | .number value :: rest => .ok (.literal (numberValue value), rest)
  | .text value :: rest => .ok (.literal (.str value), rest)
  | .ident name :: rest => .ok (nameExpr name, rest)
  | .openParen :: rest => do
    let (e, rest) ← inner.expression rest
    let rest ← expectToken .closeParen rest
    .ok (e, rest)
  | t :: _ => .error (.unexpectedToken t.describe)

/-- The steps that follow a target, for at most so many tokens. -/
def steps (inner : Inner) : (tries : Nat) → Expr → Parse
  | 0, target, ts => .ok (target, ts)
  | tries + 1, target, ts =>
    match ts with
    | .dot :: .ident name :: rest => steps inner tries (.member target name) rest
    | .dot :: t :: _ => .error (.unexpectedToken t.describe)
    | .dot :: [] => .error .unexpectedEnd
    | .openBracket :: rest => do
      let (key, rest) ← inner.expression rest
      let rest ← expectToken .closeBracket rest
      steps inner tries (.index target key) rest
    | ts => .ok (target, ts)

/-- A primary and its steps. -/
def withSteps (inner : Inner) : Parse := fun ts => do
  let (target, rest) ← primary inner ts
  steps inner rest.length target rest

/-- A unary operator and its operand, or a primary with its steps. -/
def unary (inner : Inner) : Parse
  | .not :: rest => do
    let (operand, rest) ← inner.unary rest
    .ok (.not operand, rest)
  | .minus :: rest => do
    let (operand, rest) ← inner.unary rest
    .ok (.neg operand, rest)
  | ts => withSteps inner ts

/-- Operators of one level and their right operands, taken from the left for at most so many
tokens. -/
def chain (operator? : Token → Option (Expr → Expr → Expr)) (operand : Parse) :
    (tries : Nat) → Expr → Parse
  | 0, left, ts => .ok (left, ts)
  | tries + 1, left, ts =>
    match ts with
    | [] => .ok (left, [])
    | t :: rest =>
      match operator? t with
      | none => .ok (left, t :: rest)
      | some build => do
        let (right, rest) ← operand rest
        chain operator? operand tries (build left right) rest

/-- One operand and the chain that follows it. -/
def level (operator? : Token → Option (Expr → Expr → Expr)) (operand : Parse) : Parse :=
  fun ts => do
    let (left, rest) ← operand ts
    chain operator? operand rest.length left rest

/-- The orders. -/
def orderOperator? : Token → Option (Expr → Expr → Expr)
  | .less => some (.compare .less)
  | .lessEqual => some (.compare .lessEqual)
  | .greater => some (.compare .greater)
  | .greaterEqual => some (.compare .greaterEqual)
  | _ => none

/-- The equalities. -/
def equalityOperator? : Token → Option (Expr → Expr → Expr)
  | .equal => some (.compare .equal)
  | .strictEqual => some (.compare .strictEqual)
  | .notEqual => some (.compare .notEqual)
  | .strictNotEqual => some (.compare .strictNotEqual)
  | _ => none

/-- Conjunction. -/
def andOperator? : Token → Option (Expr → Expr → Expr)
  | .and => some .and
  | _ => none

/-- Disjunction. -/
def orOperator? : Token → Option (Expr → Expr → Expr)
  | .or => some .or
  | _ => none

/-- A whole expression. -/
def expression (inner : Inner) : Parse :=
  level orOperator? (level andOperator? (level equalityOperator? (level orderOperator?
    (unary inner))))

/-- The readers for what stands inside, when so many further levels may be opened. -/
def inner : (depth : Nat) → Inner
  | 0 => { unary := fun _ => .error .tooDeep, expression := fun _ => .error .tooDeep }
  | depth + 1 => { unary := unary (inner depth), expression := expression (inner depth) }

/-- The expression that all of some tokens write. -/
def parse (ts : List Token) : Except Fault Expr :=
  match expression (inner maxDepth) ts with
  | .error fault => .error fault
  | .ok (e, []) => .ok e
  | .ok (_, t :: _) => .error (.unexpectedToken t.describe)

end HttpScenario.Script
