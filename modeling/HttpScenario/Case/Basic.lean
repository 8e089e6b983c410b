import HttpScenario.Case.Expectation
import HttpScenario.Case.Request
/-!
# Test cases

A test case is a request, what is expected of the answer, and what to do with it afterwards: keep
the body in the cache under a name, and stop the scenario or go on if the case fails.  Cases are run
in ascending order of their number.
-/

namespace HttpScenario

/-- What happens to the rest of a scenario after a case fails. -/
inductive OnFailure where
  /-- The scenario stops. -/
  | exit
  /-- The next case is run. -/
  | fallthrough
  deriving DecidableEq, Repr, Inhabited

namespace OnFailure

/-- The word for what happens. -/
def name : OnFailure → String
  | .exit => "exit"
  | .fallthrough => "fallthrough"

/-- What a word stands for. -/
def ofName (word : String) : OnFailure :=
  if word = "fallthrough" then .fallthrough else .exit

/-- One of the two words. -/
def shape : Shape :=
  .word ["exit", "fallthrough"]

theorem ofName_name (policy : OnFailure) : ofName policy.name = policy := by
  cases policy <;> rfl

end OnFailure

/-- What is done after a case. -/
structure Pipeline where
  /-- Whether the body is kept when the case succeeds. -/
  cache : Bool := false
  /-- The name it is kept under. -/
  cacheAs : String := ""
  onFailure : OnFailure := .exit
  deriving DecidableEq, Repr, Inhabited

namespace Pipeline

/-- The fields of a pipeline. -/
def shape : Shape :=
  .record "Pipeline" [
    ("cache", .flag, some (.bool false)),
    ("cache_as", .text, some (.str "")),
    ("on_failure", OnFailure.shape, some (.str "exit"))]

/-- The pipeline that a document read by the shape stands for. -/
def ofJson (value : Json) : Pipeline :=
  { cache := (value.field "cache").toFlag
    cacheAs := (value.field "cache_as").toText
    onFailure := OnFailure.ofName (value.field "on_failure").toText }

/-- The document of a pipeline. -/
def toJson (p : Pipeline) : Json :=
  .obj [("cache", .bool p.cache), ("cache_as", .str p.cacheAs),
    ("on_failure", .str p.onFailure.name)]

end Pipeline

/-- A test case. -/
structure TestCase where
  /-- The place of the case in its scenario; cases of one number stay in the order they came. -/
  order : UInt32
  name : String := ""
  description : String := ""
  request : Request
  expect : Expectation
  pipeline : Pipeline := {}
  deriving Repr, Inhabited

namespace TestCase

/-- The fields of a test case. -/
def shape : Shape :=
  .record "TestCase" [
    ("order", .word32, none),
    ("name", .text, some (.str "")),
    ("description", .text, some (.str "")),
    ("request", Request.shape, none),
    ("expect", Expectation.shape, none),
    ("pipeline", Pipeline.shape, some (Pipeline.toJson {}))]

/-- The test case that a document read by the shape stands for. -/
def ofJson (value : Json) : TestCase :=
  { order := UInt32.ofNat (value.field "order").toNat
    name := (value.field "name").toText
    description := (value.field "description").toText
    request := Request.ofJson (value.field "request")
    expect := Expectation.ofJson (value.field "expect")
    pipeline := Pipeline.ofJson (value.field "pipeline") }

/-- The document of a test case. -/
def toJson (c : TestCase) : Json :=
  .obj [("order", .int c.order.toNat), ("name", .str c.name), ("description", .str c.description),
    ("request", c.request.toJson), ("expect", c.expect.toJson), ("pipeline", c.pipeline.toJson)]

end TestCase

end HttpScenario
