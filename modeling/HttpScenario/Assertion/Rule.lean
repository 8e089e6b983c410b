import HttpScenario.Assertion.Operator
import HttpScenario.Case.Expectation
import HttpScenario.Json.Path
import HttpScenario.Json.Reader
import HttpScenario.Pattern.Match
import HttpScenario.Script.Compare
/-!
# Checking rules

A rule is compiled before it is checked: its operator has to be known, and the value of `matches`
has to be a pattern.  Its value is kept twice, as the text it is and as the document it writes, if
it writes one.

A rule looks at what stands at its path in a body.  The first segment is a key of the body as it
stands, brackets and all; the other segments are steps of a path.  Where nothing stands, every
operator but `not_exists` is false, and so is `not_exists` when the path has no segment at all.
-/

namespace HttpScenario

/-- A rule that is ready to be checked. -/
structure CompiledRule where
  path : Json.Path
  operator : Operator
  /-- The value as text. -/
  raw : String
  /-- The document that the value writes, or else the text itself. -/
  expected : Json
  /-- The pattern of a `matches` rule. -/
  pattern : Option Pattern.Compiled

namespace CompiledRule

/-- The document that a value writes, or else the text itself. -/
def expectedOf (value : String) : Json :=
  match Json.parseText value with
  | .ok document => document
  | .error _ => .str value

/-- The pattern that an operator needs of its value. -/
def patternOf (operator : Operator) (value : String) : Except Error (Option Pattern.Compiled) :=
  match operator with
  | .matches =>
    match Pattern.compile value with
    | .ok pattern => .ok (some pattern)
    | .error fault =>
      .error (.evaluator ("invalid pattern '" ++ value ++ "': " ++ fault.message))
  | _ => .ok none

/-- Compiles a rule. -/
def compile (prop operator value : String) : Except Error CompiledRule := do
  let op ← Operator.parse operator
  let pattern ← patternOf op value
  .ok { path := .ofText prop, operator := op, raw := value, expected := expectedOf value,
        pattern := pattern }

/-- What stands at a path in a body: the first segment is a key of the body as it stands. -/
def subject? (body : Json.Object) : Json.Path → Option Json
  | [] => none
  | first :: rest =>
    match body.find? first with
    | some root => root.valueAt? rest
    | none => none

/-- A number as a double. -/
def asDouble? : Json → Option Double
  | .num n => some n.toDouble
  | _ => none

/-- Whether a value equals the one of the rule.  A text is compared as text, a number by magnitude,
anything else as part of a document. -/
def equals (rule : CompiledRule) (actual : Json) : Bool :=
  match actual with
  | .str s => s == rule.raw || actual.same rule.expected
  | .num n =>
    match asDouble? rule.expected with
    | some expected => n.toDouble.same expected
    | none => false
  | _ => actual.same rule.expected

/-- The order of a value and the one of the rule: of two texts by their characters, of two numbers
by magnitude. -/
def order? (rule : CompiledRule) (actual : Json) : Option Ordering :=
  match actual, rule.expected with
  | .str a, .str b => some (Script.textOrder a b)
  | a, b =>
    match asDouble? a, asDouble? b with
    | some x, some y => x.compare? y
    | _, _ => none

/-- Whether an item of a list is the value of the rule. -/
def isItem (rule : CompiledRule) (item : Json) : Bool :=
  item.same rule.expected ||
    match item with
    | .str s => s == rule.raw
    | _ => false

/-- Whether a value holds the one of the rule: a text as a part, a list as an item, an object as a
key. -/
def holds (rule : CompiledRule) (actual : Json) : Bool :=
  match actual with
  | .str s => Text.occurs rule.raw.toList s.toList
  | .arr items => items.any rule.isItem
  | .obj members => Table.contains rule.raw members
  | _ => false

/-- Whether the pattern of the rule matches the text of a value. -/
def patternMatches (rule : CompiledRule) (actual : Json) : Bool :=
  match rule.pattern, actual.scalarText? with
  | some pattern, some text => pattern.isMatch text
  | _, _ => false

/-- Whether the rule holds of a value. -/
def holdsOf (rule : CompiledRule) (actual : Json) : Bool :=
  match rule.operator with
  | .exists => true
  | .notExists => false
  | .eq => rule.equals actual
  | .ne => !rule.equals actual
  | .gt => rule.order? actual == some .gt
  | .gte => rule.order? actual == some .gt || rule.order? actual == some .eq
  | .lt => rule.order? actual == some .lt
  | .lte => rule.order? actual == some .lt || rule.order? actual == some .eq
  | .contains => rule.holds actual
  | .notContains => !rule.holds actual
  | .matches => rule.patternMatches actual

/-- Whether the rule holds of a body. -/
def evaluate (rule : CompiledRule) (body : Json.Object) : Bool :=
  match rule.path with
  | [] => false
  | path =>
    match subject? body path with
    | some actual => rule.holdsOf actual
    | none => rule.operator == .notExists

end CompiledRule

end HttpScenario
