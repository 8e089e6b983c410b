import HttpScenario.Assertion.Evaluator
import HttpScenario.Case.Basic
/-!
# Scenarios

A scenario is a list of test cases, some words about it, and the cache that its cases share.  The
cases are kept in ascending order of their numbers; cases of one number stay in the order in which
they came.  The cache is no part of the document of a scenario.
-/

namespace HttpScenario

/-- Cases in ascending order of their numbers; those of one number keep their order. -/
def sortCases (cases : List TestCase) : List TestCase :=
  cases.mergeSort fun a b => a.order ≤ b.order

/-- A scenario. -/
structure Scenario where
  id : String := ""
  name : String := ""
  description : String := ""
  environment : String := ""
  /-- The cases in the order in which they are run. -/
  cases : List TestCase := []
  cache : Cache := .empty
  deriving Repr, Inhabited

namespace Scenario

/-- Adds a case. -/
def addCase (case : TestCase) (scenario : Scenario) : Scenario :=
  { scenario with cases := sortCases (scenario.cases ++ [case]) }

/-- Puts a body into the cache. -/
def seed (key : String) (body : Octets) (scenario : Scenario) : Scenario :=
  { scenario with cache := scenario.cache.insert key body }

/-- Empties the cache. -/
def resetCache (scenario : Scenario) : Scenario :=
  { scenario with cache := .empty }

/-- The expressions of all cases in the order in which they are checked. -/
def expressions (scenario : Scenario) : List Expression :=
  scenario.cases.flatMap fun case => case.expect.evaluate

/-- The kinds of expressions that occur, each once, in the order in which they are first met.  With
more than one of them no evaluator can check all cases. -/
def expressionKinds (scenario : Scenario) : List EvaluatorKind :=
  scenario.expressions.foldl
    (fun kinds e => if kinds.contains e.kind then kinds else kinds ++ [e.kind]) []

/-! ## Documents -/

/-- The fields of a scenario. -/
def shape : Shape :=
  .record "ScenarioDocument" [
    ("id", .text, some (.str "")),
    ("name", .text, some (.str "")),
    ("description", .text, some (.str "")),
    ("environment", .text, some (.str "")),
    ("cases", .list TestCase.shape, some (.arr []))]

/-- The scenario that a document read by the shape stands for; its cases may come in any order. -/
def ofJson (value : Json) : Scenario :=
  { id := (value.field "id").toText
    name := (value.field "name").toText
    description := (value.field "description").toText
    environment := (value.field "environment").toText
    cases := sortCases ((value.field "cases").toItems.map TestCase.ofJson) }

/-- The document of a scenario. -/
def toJson (s : Scenario) : Json :=
  .obj [("id", .str s.id), ("name", .str s.name), ("description", .str s.description),
    ("environment", .str s.environment), ("cases", .arr (s.cases.map TestCase.toJson))]

end Scenario

end HttpScenario
