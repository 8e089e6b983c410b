import HttpScenario.Case.Expectation
import HttpScenario.Error
import HttpScenario.Toml.Reader
/-!
# Configuration

How requests are sent and which kind of expressions is checked.  A configuration is a TOML text;
what it leaves out has a default, and what it says beyond is passed over.

A record is a table of its fields.  It may also be a list of them in order.  A point in time is read
as a record without fields, and so gives the defaults.
-/

namespace HttpScenario

/-- How requests are sent. -/
structure HttpConfig where
  /-- After how many seconds a request is given up, if ever. -/
  timeoutSecs : Option UInt64 := none
  userAgent : String := "restify/0.1.0"
  /-- How many redirects are followed. -/
  maxRedirects : UInt64 := 10
  /-- Whether certificates go unchecked. -/
  acceptInvalidCerts : Bool := false
  deriving DecidableEq, Repr, Inhabited

/-- A configuration. -/
structure Config where
  http : HttpConfig := {}
  /-- The kind of expressions that are checked. -/
  evaluator : EvaluatorKind := .script
  deriving DecidableEq, Repr, Inhabited

namespace Toml.Value

/-- The fields of a record. -/
def fields (names : List String) : Value → Except Fault (List (String × Value))
  | .table entries => .ok entries
  | .list items => .ok (names.zip items)
  | .moment _ => .ok []
  | _ => .error .misfit

/-- A field read in some way, or its default. -/
def fieldOr {α : Type} (record : List (String × Value)) (name : String) (default : α)
    (read : Value → Except Fault α) : Except Fault α :=
  match record.lookup name with
  | some value => read value
  | none => .ok default

/-- A text. -/
def asText : Value → Except Fault String
  | .text s => .ok s
  | _ => .error .misfit

/-- A truth value. -/
def asFlag : Value → Except Fault Bool
  | .flag b => .ok b
  | _ => .error .misfit

/-- A whole number that is not negative. -/
def asCount : Value → Except Fault UInt64
  | .whole n => if 0 ≤ n then .ok (UInt64.ofNat n.toNat) else .error .misfit
  | _ => .error .misfit

/-- Whether a value is a list or a table with nothing in it. -/
def isHollow : Value → Bool
  | .list items => items.isEmpty
  | .table entries => entries.isEmpty
  | _ => false

/-- A kind of expressions: its name, or a table that holds nothing but something hollow under that
name. -/
def asEvaluator (value : Value) : Except Fault EvaluatorKind :=
  let name? := match value with
    | .text s => some s
    | .table [(name, inner)] => if inner.isHollow then some name else none
    | _ => none
  match name?.bind EvaluatorKind.ofName? with
  | some kind => .ok kind
  | none => .error .misfit

end Toml.Value

namespace HttpConfig

/-- The settings that a value writes. -/
def ofToml (value : Toml.Value) : Except Toml.Fault HttpConfig := do
  let fields ←
    value.fields ["timeout_secs", "user_agent", "max_redirects", "accept_invalid_certs"]
  let timeoutSecs ← Toml.Value.fieldOr fields "timeout_secs" none fun v => (v.asCount).map some
  let userAgent ← Toml.Value.fieldOr fields "user_agent" "restify/0.1.0" Toml.Value.asText
  let maxRedirects ← Toml.Value.fieldOr fields "max_redirects" 10 Toml.Value.asCount
  let acceptInvalidCerts ←
    Toml.Value.fieldOr fields "accept_invalid_certs" false Toml.Value.asFlag
  .ok { timeoutSecs, userAgent, maxRedirects, acceptInvalidCerts }

end HttpConfig

namespace Config

/-- The configuration that a value writes. -/
def ofToml (value : Toml.Value) : Except Toml.Fault Config := do
  let fields ← value.fields ["http", "engine"]
  let http ← Toml.Value.fieldOr fields "http" {} HttpConfig.ofToml
  let evaluator ← Toml.Value.fieldOr fields "engine" .script fun engine => do
    let fields ← engine.fields ["evaluator"]
    Toml.Value.fieldOr fields "evaluator" .script Toml.Value.asEvaluator
  .ok { http, evaluator }

/-- The configuration that a text writes. -/
def parse (text : String) : Except Error Config :=
  match Toml.parse text >>= ofToml with
  | .ok config => .ok config
  | .error fault => .error (.configParse fault.message)

end Config

end HttpScenario
