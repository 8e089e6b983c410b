import HttpScenario.Assertion.Evaluator
import HttpScenario.Proofs.Sequence
/-!
# What checking expressions comes to

Checking a list of expressions stops at the first that is not exactly true.  `evaluateFrom_cases`
says all that it can come to: either every expression is true and the verdict is `pass`, or there is
a first one that is not, with only true ones before it, and the verdict is about that one — `fail`
at its place if it is false, its own error if it cannot be checked.

An expression can only be unfit for its evaluator: whatever goes wrong in one check is of the
evaluator's class of errors (`kind_of_check_eq_error`), so that a caller can tell it from an
expectation that is not met.  With an expression of its own kind, it is a rule that cannot be
compiled (`check_rule_eq_error_iff`).
-/

namespace HttpScenario

/-! ### One expression -/

/-- The operator that a rule names. -/
def Rule.operator? (rule : Rule) : Option Operator :=
  Operator.ofName? (Text.trim rule.operator).toLower

theorem Operator.parse_eq_error_iff {text : String} {error : Error} :
    Operator.parse text = .error error ↔ Operator.ofName? (Text.trim text).toLower = none ∧
      error = .evaluator ("unknown operator '" ++ (Text.trim text).toLower ++ "'") := by
  unfold Operator.parse
  simp only
  cases Operator.ofName? (Text.trim text).toLower with
  | none => simp [eq_comm]
  | some operator => simp

theorem Operator.parse_eq_ok_iff {text : String} {operator : Operator} :
    Operator.parse text = .ok operator ↔
      Operator.ofName? (Text.trim text).toLower = some operator := by
  unfold Operator.parse
  simp only
  cases Operator.ofName? (Text.trim text).toLower with
  | none => simp
  | some operator => simp

theorem Operator.parse_eq : Operator.parse "eq" = .ok .eq :=
  parse_eq_ok_iff.mpr (by decide +kernel)

theorem CompiledRule.patternOf_eq_error_iff {operator : Operator} {value : String} {error : Error} :
    CompiledRule.patternOf operator value = .error error ↔
      operator = .matches ∧ ∃ fault, Pattern.compile value = .error fault ∧
        error = .evaluator ("invalid pattern '" ++ value ++ "': " ++ fault.message) := by
  cases operator with
  | «matches» =>
    unfold CompiledRule.patternOf
    cases Pattern.compile value with
    | ok pattern => simp
    | error fault => simp [eq_comm]
  | _ => simp [CompiledRule.patternOf]

/-- A rule cannot be checked if it names no operator, or names `matches` with a value that is no
pattern once it is resolved.  Nothing else keeps it from being checked. -/
theorem EvaluatorKind.check_rule_eq_error_iff {rule : Rule} {body : Json.Object} {cache : Cache}
    {error : Error} :
    EvaluatorKind.rules.check (.rule rule) body cache = .error error ↔
      rule.operator? = none ∧
          error = .evaluator ("unknown operator '" ++ (Text.trim rule.operator).toLower ++ "'") ∨
        rule.operator? = some .matches ∧
          ∃ fault, Pattern.compile (Template.resolve rule.value cache) = .error fault ∧
            error = .evaluator ("invalid pattern '" ++ Template.resolve rule.value cache ++ "': " ++
              fault.message) := by
  unfold EvaluatorKind.check CompiledRule.compile Rule.operator?
  simp only [bind_eq_error_iff, Operator.parse_eq_error_iff, Operator.parse_eq_ok_iff,
    CompiledRule.patternOf_eq_error_iff, reduceCtorEq, and_false, exists_false, or_false]
  constructor
  · rintro (hname | ⟨operator, hname, rfl, hpattern⟩)
    · exact Or.inl hname
    · exact Or.inr ⟨hname, hpattern⟩
  · rintro (hname | ⟨hname, hpattern⟩)
    · exact Or.inl hname
    · exact Or.inr ⟨.matches, hname, rfl, hpattern⟩

/-- Whatever keeps an expression from being checked is an error of the evaluator. -/
theorem EvaluatorKind.kind_of_check_eq_error {kind : EvaluatorKind} {e : Expression}
    {body : Json.Object} {cache : Cache} {error : Error}
    (h : kind.check e body cache = .error error) : error.kind = .evaluator := by
  match kind, e with
  | .script, .script source => cases h
  | .script, .rule rule =>
    cases h
    rfl
  | .rules, .script source =>
    cases h
    rfl
  | .rules, .rule rule =>
    rcases check_rule_eq_error_iff.mp h with ⟨-, rfl⟩ | ⟨-, fault, -, rfl⟩
    · rfl
    · rfl

/-! ### A list of expressions -/

variable (kind : EvaluatorKind) (body : Json.Object) (cache : Cache)

theorem evaluateFrom_cons_of_true {e : Expression} (h : kind.check e body cache = .ok true)
    (index : Nat) (rest : List Expression) :
    evaluateFrom kind body cache index (e :: rest) =
      evaluateFrom kind body cache (index + 1) rest := by
  rw [evaluateFrom, h]

theorem evaluateFrom_cons_of_false {e : Expression} (h : kind.check e body cache = .ok false)
    (index : Nat) (rest : List Expression) :
    evaluateFrom kind body cache index (e :: rest) = .ok (.fail index e.display) := by
  rw [evaluateFrom, h]

theorem evaluateFrom_cons_of_error {e : Expression} {error : Error}
    (h : kind.check e body cache = .error error) (index : Nat) (rest : List Expression) :
    evaluateFrom kind body cache index (e :: rest) = .error error := by
  rw [evaluateFrom, h]

/-- Expressions are all true, or there is a first one that is not, which alone decides what
checking them comes to. -/
theorem evaluateFrom_cases (index : Nat) (expressions : List Expression) :
    ((∀ e ∈ expressions, kind.check e body cache = .ok true) ∧
      evaluateFrom kind body cache index expressions = .ok .pass) ∨
    ∃ before e rest, expressions = before ++ e :: rest ∧
      (∀ e' ∈ before, kind.check e' body cache = .ok true) ∧
      ((kind.check e body cache = .ok false ∧
          evaluateFrom kind body cache index expressions =
            .ok (.fail (index + before.length) e.display)) ∨
        ∃ error, kind.check e body cache = .error error ∧
          evaluateFrom kind body cache index expressions = .error error) := by
  induction expressions generalizing index with
  | nil => exact Or.inl ⟨fun e he => absurd he List.not_mem_nil, rfl⟩
  | cons e rest ih =>
    rcases h : kind.check e body cache with error | value
    · refine Or.inr ⟨[], e, rest, rfl, fun e' he' => absurd he' List.not_mem_nil, Or.inr ?_⟩
      exact ⟨error, h, evaluateFrom_cons_of_error kind body cache h index rest⟩
    · cases value with
      | false =>
        refine Or.inr ⟨[], e, rest, rfl, fun e' he' => absurd he' List.not_mem_nil, Or.inl ?_⟩
        exact ⟨h, evaluateFrom_cons_of_false kind body cache h index rest⟩
      | true =>
        rw [evaluateFrom_cons_of_true kind body cache h]
        -- what is first among the rest is one place further on in the whole list
        rcases ih (index + 1) with ⟨hall, hpass⟩ | ⟨before, e₁, rest₁, rfl, hbefore, hfirst⟩
        · refine Or.inl ⟨?_, hpass⟩
          intro e' he'
          rcases List.mem_cons.mp he' with rfl | he'
          · exact h
          · exact hall e' he'
        · refine Or.inr ⟨e :: before, e₁, rest₁, rfl, ?_, ?_⟩
          · intro e' he'
            rcases List.mem_cons.mp he' with rfl | he'
            · exact h
            · exact hbefore e' he'
          · rw [List.length_cons, Nat.add_comm before.length 1, ← Nat.add_assoc]
            exact hfirst

end HttpScenario
