import HttpScenario.Assertion.Rule
import HttpScenario.Script.Eval
import HttpScenario.Template
/-!
# Checking expressions

An evaluator checks expressions of its own kind and refuses those of the other.  Placeholders in a
script, and in the value of a rule, are resolved first.  A script passes if its value is exactly
true: any other value, and anything that goes wrong with it, counts as false.

A list of expressions passes if all of them do.  Checking stops at the first that does not.
-/

namespace HttpScenario

/-- Whether a script gives exactly true. -/
def scriptPasses (source : String) (body : Json.Object) : Bool :=
  match Script.evaluate source body with
  | .ok (.bool value) => value
  | .ok _ => false
  | .error _ => false

/-- Checks one expression against a body. -/
def EvaluatorKind.check (kind : EvaluatorKind) (e : Expression) (body : Json.Object)
    (cache : Cache) : Except Error Bool :=
  match kind, e with
  | .script, .script source => .ok (scriptPasses (Template.resolve source cache) body)
  | .script, .rule rule =>
    .error (.evaluator ("rule '" ++ rule.display ++ "' given to the script evaluator"))
  | .rules, .rule rule => do
    let compiled ← CompiledRule.compile rule.prop rule.operator
      (Template.resolve rule.value cache)
    .ok (compiled.evaluate body)
  | .rules, .script source =>
    .error (.evaluator ("script expression '" ++ source ++ "' given to the rule evaluator"))

/-- What checking a list of expressions comes to. -/
inductive Verdict where
  | pass
  /-- The place of the first expression that is false, counted from zero, and how it is shown. -/
  | fail (index : Nat) (expression : String)
  deriving DecidableEq, Repr

/-- Checks expressions in order, the first of them being at place `index`. -/
def evaluateFrom (kind : EvaluatorKind) (body : Json.Object) (cache : Cache) (index : Nat) :
    List Expression → Except Error Verdict
  | [] => .ok .pass
  | e :: rest =>
    match kind.check e body cache with
    | .error error => .error error
    | .ok false => .ok (.fail index e.display)
    | .ok true => evaluateFrom kind body cache (index + 1) rest

/-- Checks expressions in order. -/
def evaluateAll (kind : EvaluatorKind) (expressions : List Expression) (body : Json.Object)
    (cache : Cache) : Except Error Verdict :=
  evaluateFrom kind body cache 0 expressions

end HttpScenario
