import HttpScenario.Json.Fields
import HttpScenario.Shape.Basic
/-!
# Expectations

What a case asks of the answer: a status, and expressions that hold of the body or of an object
inside it.  An expression is a script, or a rule about one place in the body.  The two kinds are
checked by two evaluators, and a run uses one of them for all cases.
-/

namespace HttpScenario

/-- The two ways to write an expression, and the evaluator that belongs to each. -/
inductive EvaluatorKind where
  | script
  | rules
  deriving DecidableEq, Repr, Inhabited

namespace EvaluatorKind

/-- The word for an evaluator. -/
def name : EvaluatorKind → String
  | .script => "script"
  | .rules => "rules"

/-- The evaluator that a word stands for. -/
def ofName? (word : String) : Option EvaluatorKind :=
  if word = "script" then some .script else if word = "rules" then some .rules else none

end EvaluatorKind

/-- A rule: an operator between what stands at a path and a value. -/
structure Rule where
  /-- The path of the subject. -/
  prop : String
  operator : String
  /-- What the subject is compared with; may hold placeholders. -/
  value : String := ""
  description : String := ""
  deriving DecidableEq, Repr, Inhabited

namespace Rule

/-- The fields of a rule; a value of any kind is read as a text. -/
def shape : Shape :=
  .record "Rule" [
    ("prop", .text, none),
    ("operator", .text, none),
    ("value", .anyAsText, some (.str "")),
    ("description", .text, some (.str ""))]

/-- The rule that a document read by the shape stands for. -/
def ofJson (value : Json) : Rule :=
  { prop := (value.field "prop").toText
    operator := (value.field "operator").toText
    value := (value.field "value").toText
    description := (value.field "description").toText }

/-- The document of a rule. -/
def toJson (r : Rule) : Json :=
  .obj [("prop", .str r.prop), ("operator", .str r.operator), ("value", .str r.value),
    ("description", .str r.description)]

/-- How messages show a rule. -/
def display (r : Rule) : String :=
  r.prop ++ " " ++ r.operator ++ " " ++ r.value
    ++ (if r.description.isEmpty then "" else " (" ++ r.description ++ ")")

end Rule

/-- One assertion about a body. -/
inductive Expression where
  | script (source : String)
  | rule (rule : Rule)
  deriving DecidableEq, Repr, Inhabited

namespace Expression

/-- An expression is a text, which is a script, or a rule. -/
def shape : Shape :=
  .firstOf "Expression" [.text, Rule.shape]

/-- The expression that a document read by the shape stands for. -/
def ofJson : Json → Expression
  | .str source => .script source
  | value => .rule (Rule.ofJson value)

/-- The document of an expression. -/
def toJson : Expression → Json
  | .script source => .str source
  | .rule r => r.toJson

/-- The evaluator that an expression is written for. -/
def kind : Expression → EvaluatorKind
  | .script _ => .script
  | .rule _ => .rules

/-- How messages show an expression. -/
def display : Expression → String
  | .script source => source
  | .rule r => r.display

end Expression

/-- What is expected of an answer. -/
structure Expectation where
  statusCode : UInt16
  /-- The path of the object that the expressions are about; none, or the empty path, is the whole
  body. -/
  evaluationObject : Option String := none
  evaluate : List Expression := []
  deriving DecidableEq, Repr, Inhabited

namespace Expectation

/-- The fields of an expectation. -/
def shape : Shape :=
  .record "Expect" [
    ("status_code", .word16, none),
    ("evaluation_object", .optional .text, some .null),
    ("evaluate", .list Expression.shape, some (.arr []))]

/-- The expectation that a document read by the shape stands for. -/
def ofJson (value : Json) : Expectation :=
  { statusCode := UInt16.ofNat (value.field "status_code").toNat
    evaluationObject := (value.field "evaluation_object").toText?
    evaluate := (value.field "evaluate").toItems.map Expression.ofJson }

/-- The document of an expectation; a missing path is left out. -/
def toJson (e : Expectation) : Json :=
  .obj ([("status_code", .int e.statusCode.toNat)]
    ++ (match e.evaluationObject with
      | some path => [("evaluation_object", .str path)]
      | none => [])
    ++ [("evaluate", .arr (e.evaluate.map Expression.toJson))])

/-- The path of the object that the expressions are about, unless it is the whole body. -/
def projection (e : Expectation) : Option String :=
  e.evaluationObject.filter fun path => !path.isEmpty

end Expectation

end HttpScenario
