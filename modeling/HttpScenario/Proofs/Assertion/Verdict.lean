import HttpScenario.Proofs.Assertion.Kinds
/-!
# The verdict on a list of expressions

Checking goes through a list up to the first expression that is not exactly true, and it is that
expression alone that decides (`evaluateAll_decided`).  Whether it is false or cannot be checked
makes no difference to where checking ends, so that neither is looked for behind the other.

The place in a verdict is counted from the start of the list.  Of a list that is put together from
two, the second is only looked at if the first passes, and its places then come after those of the
first.
-/

namespace HttpScenario

/-- The verdict on expressions that have so many others before them. -/
def Verdict.shift (count : Nat) : Verdict → Verdict
  | .pass => .pass
  | .fail index expression => .fail (index + count) expression

section checking

variable (kind : EvaluatorKind) (body : Json.Object) (cache : Cache)

/-- All expressions before a place are true, and this one stands there. -/
structure Reached (expressions : List Expression) (index : Nat) (e : Expression) : Prop where
  at_index : expressions[index]? = some e
  before_true : ∀ other ∈ expressions.take index, kind.check other body cache = .ok true

/-- Expressions that are true are passed over. -/
theorem evaluateFrom_append {before : List Expression}
    (h : ∀ e ∈ before, kind.check e body cache = .ok true) (index : Nat)
    (rest : List Expression) :
    evaluateFrom kind body cache index (before ++ rest) =
      evaluateFrom kind body cache (index + before.length) rest := by
  induction before generalizing index with
  | nil => rfl
  | cons e before ih =>
    obtain ⟨hfirst, hothers⟩ := List.forall_mem_cons.mp h
    rw [List.cons_append, evaluateFrom_cons_of_true kind body cache hfirst, ih hothers,
      List.length_cons, Nat.add_assoc, Nat.add_comm 1]

/-- Where a list starts matters to the place in its verdict alone. -/
theorem evaluateFrom_add (index count : Nat) (expressions : List Expression) :
    evaluateFrom kind body cache (index + count) expressions =
      (evaluateFrom kind body cache index expressions).map (Verdict.shift count) := by
  induction expressions generalizing index with
  | nil => rfl
  | cons e rest ih =>
    cases h : kind.check e body cache with
    | error error =>
      rw [evaluateFrom_cons_of_error kind body cache h,
        evaluateFrom_cons_of_error kind body cache h]
      rfl
    | ok value =>
      cases value with
      | false =>
        rw [evaluateFrom_cons_of_false kind body cache h,
          evaluateFrom_cons_of_false kind body cache h]
        rfl
      | true =>
        rw [evaluateFrom_cons_of_true kind body cache h,
          evaluateFrom_cons_of_true kind body cache h, ← ih, Nat.add_right_comm]

variable {kind body cache} {expressions : List Expression} {index : Nat} {e : Expression}

namespace Reached

theorem of_append {before rest : List Expression}
    (h : ∀ other ∈ before, kind.check other body cache = .ok true) :
    Reached kind body cache (before ++ e :: rest) before.length e where
  at_index := by
    rw [List.getElem?_append_right (Nat.le_refl _), Nat.sub_self]
    rfl
  before_true := by
    rw [List.take_left]
    exact h

/-- Checking a list comes to what checking goes on with from an expression that is reached. -/
theorem evaluateAll_eq (h : Reached kind body cache expressions index e) :
    evaluateAll kind expressions body cache =
      evaluateFrom kind body cache index (e :: expressions.drop (index + 1)) := by
  obtain ⟨hlt, rfl⟩ := List.getElem?_eq_some_iff.mp h.at_index
  have hsplit : expressions =
      expressions.take index ++ expressions[index] :: expressions.drop (index + 1) := by
    rw [← List.drop_eq_getElem_cons hlt, List.take_append_drop]
  have hfront := evaluateFrom_append kind body cache h.before_true 0
    (expressions[index] :: expressions.drop (index + 1))
  rw [← hsplit, List.length_take_of_le (Nat.le_of_lt hlt), Nat.zero_add] at hfront
  exact hfront

theorem evaluateAll_of_false (h : Reached kind body cache expressions index e)
    (hfalse : kind.check e body cache = .ok false) :
    evaluateAll kind expressions body cache = .ok (.fail index e.display) := by
  rw [h.evaluateAll_eq, evaluateFrom_cons_of_false kind body cache hfalse]

theorem evaluateAll_of_error (h : Reached kind body cache expressions index e) {error : Error}
    (herror : kind.check e body cache = .error error) :
    evaluateAll kind expressions body cache = .error error := by
  rw [h.evaluateAll_eq, evaluateFrom_cons_of_error kind body cache herror]

/-- Another list that is the same up to an expression reaches it too. -/
theorem of_take_eq (h : Reached kind body cache expressions index e) {others : List Expression}
    (hothers : others.take (index + 1) = expressions.take (index + 1)) :
    Reached kind body cache others index e where
  at_index := by
    rw [← List.getElem?_take_of_succ, hothers, List.getElem?_take_of_succ, h.at_index]
  before_true := by
    have htake : others.take index = expressions.take index := by
      have hagain := congrArg (List.take index) hothers
      rwa [List.take_take, List.take_take, Nat.min_eq_left (Nat.le_succ index)] at hagain
    rw [htake]
    exact h.before_true

end Reached

variable (kind body cache expressions) in
/-- Either all expressions are true, or one that is not is reached and decides. -/
theorem evaluateAll_cases :
    ((∀ e ∈ expressions, kind.check e body cache = .ok true) ∧
      evaluateAll kind expressions body cache = .ok .pass) ∨
    ∃ index e, Reached kind body cache expressions index e ∧
      ((kind.check e body cache = .ok false ∧
          evaluateAll kind expressions body cache = .ok (.fail index e.display)) ∨
        ∃ error, kind.check e body cache = .error error ∧
          evaluateAll kind expressions body cache = .error error) := by
  rcases evaluateFrom_cases kind body cache 0 expressions with
    hpass | ⟨before, e, rest, rfl, hbefore, hfirst⟩
  · exact Or.inl hpass
  · rw [Nat.zero_add] at hfirst
    exact Or.inr ⟨before.length, e, .of_append hbefore, hfirst⟩

/-- Checking passes if all expressions are true. -/
theorem evaluateAll_eq_pass_iff :
    evaluateAll kind expressions body cache = .ok .pass ↔
      ∀ e ∈ expressions, kind.check e body cache = .ok true := by
  constructor
  · intro hpass
    rcases evaluateAll_cases kind body cache expressions with
      ⟨hall, -⟩ | ⟨index, e, -, ⟨-, hfail⟩ | ⟨error, -, herror⟩⟩
    · exact hall
    · rw [hpass] at hfail
      cases hfail
    · rw [hpass] at herror
      cases herror
  · intro hall
    have hpass := evaluateFrom_append kind body cache hall 0 []
    rw [List.append_nil] at hpass
    exact hpass

/-- Checking fails at an expression that is reached and false. -/
theorem evaluateAll_eq_fail_iff {shown : String} :
    evaluateAll kind expressions body cache = .ok (.fail index shown) ↔
      ∃ e, Reached kind body cache expressions index e ∧ kind.check e body cache = .ok false ∧
        shown = e.display := by
  constructor
  · intro h
    rcases evaluateAll_cases kind body cache expressions with
      ⟨-, hpass⟩ | ⟨found, e, hreached, ⟨hfalse, hfail⟩ | ⟨error, -, herror⟩⟩
    · rw [h] at hpass
      cases hpass
    · rw [h] at hfail
      obtain ⟨rfl, rfl⟩ := Verdict.fail.inj (Except.ok.inj hfail)
      exact ⟨e, hreached, hfalse, rfl⟩
    · rw [h] at herror
      cases herror
  · rintro ⟨e, hreached, hfalse, rfl⟩
    exact hreached.evaluateAll_of_false hfalse

/-- Checking comes to the error of an expression that is reached and cannot be checked. -/
theorem evaluateAll_eq_error_iff {error : Error} :
    evaluateAll kind expressions body cache = .error error ↔
      ∃ index e, Reached kind body cache expressions index e ∧
        kind.check e body cache = .error error := by
  constructor
  · intro h
    rcases evaluateAll_cases kind body cache expressions with
      ⟨-, hpass⟩ | ⟨index, e, hreached, ⟨-, hfail⟩ | ⟨other, hother, herror⟩⟩
    · rw [h] at hpass
      cases hpass
    · rw [h] at hfail
      cases hfail
    · rw [h] at herror
      obtain rfl := Except.error.inj herror
      exact ⟨index, e, hreached, hother⟩
  · rintro ⟨index, e, hreached, herror⟩
    exact hreached.evaluateAll_of_error herror

/-- Nothing after an expression that is reached and not true is looked at. -/
theorem Reached.evaluateAll_of_take_eq (h : Reached kind body cache expressions index e)
    (hne : kind.check e body cache ≠ .ok true) {others : List Expression}
    (hothers : others.take (index + 1) = expressions.take (index + 1)) :
    evaluateAll kind others body cache = evaluateAll kind expressions body cache := by
  have hreached := h.of_take_eq hothers
  rcases hcheck : kind.check e body cache with error | value
  · rw [hreached.evaluateAll_of_error hcheck, h.evaluateAll_of_error hcheck]
  · cases value with
    | false => rw [hreached.evaluateAll_of_false hcheck, h.evaluateAll_of_false hcheck]
    | true => exact absurd hcheck hne

/-- If the first of two lists passes, the second is checked, from a later place on. -/
theorem evaluateAll_append_of_pass (h : evaluateAll kind expressions body cache = .ok .pass)
    (later : List Expression) :
    evaluateAll kind (expressions ++ later) body cache =
      (evaluateAll kind later body cache).map (Verdict.shift expressions.length) := by
  unfold evaluateAll
  rw [evaluateFrom_append kind body cache (evaluateAll_eq_pass_iff.mp h),
    evaluateFrom_add]

/-- If the first of two lists does not pass, the second is not looked at. -/
theorem evaluateAll_append_of_not_pass (h : evaluateAll kind expressions body cache ≠ .ok .pass)
    (later : List Expression) :
    evaluateAll kind (expressions ++ later) body cache =
      evaluateAll kind expressions body cache := by
  rcases evaluateAll_cases kind body cache expressions with
    ⟨-, hpass⟩ | ⟨index, e, hreached, hdecides⟩
  · exact absurd hpass h
  · obtain ⟨hlt, -⟩ := List.getElem?_eq_some_iff.mp hreached.at_index
    refine hreached.evaluateAll_of_take_eq ?_ (List.take_append_of_le_length hlt)
    rcases hdecides with ⟨hfalse, -⟩ | ⟨error, herror, -⟩
    · rw [hfalse]
      exact nofun
    · rw [herror]
      exact nofun

end checking

/-- Checking a list passes if all expressions are true, and is otherwise decided by the first that
is not: it fails there if that one is false, and comes to its error if it cannot be checked.
Nothing behind it is looked at.  Two lists one after the other come to what the first comes to, and
if that passes to what the second comes to, at places counted from the start of the first. -/
theorem evaluateAll_decided (kind : EvaluatorKind) (body : Json.Object) (cache : Cache)
    (expressions : List Expression) :
    (evaluateAll kind expressions body cache = .ok .pass ↔
      ∀ e ∈ expressions, kind.check e body cache = .ok true) ∧
    (∀ index shown, evaluateAll kind expressions body cache = .ok (.fail index shown) ↔
      ∃ e, Reached kind body cache expressions index e ∧ kind.check e body cache = .ok false ∧
        shown = e.display) ∧
    (∀ error, evaluateAll kind expressions body cache = .error error ↔
      ∃ index e, Reached kind body cache expressions index e ∧
        kind.check e body cache = .error error) ∧
    (∀ index e, Reached kind body cache expressions index e →
      kind.check e body cache ≠ .ok true →
      ∀ others : List Expression, others.take (index + 1) = expressions.take (index + 1) →
        evaluateAll kind others body cache = evaluateAll kind expressions body cache) ∧
    ∀ later : List Expression,
      (evaluateAll kind expressions body cache = .ok .pass →
        evaluateAll kind (expressions ++ later) body cache =
          (evaluateAll kind later body cache).map (Verdict.shift expressions.length)) ∧
      (evaluateAll kind expressions body cache ≠ .ok .pass →
        evaluateAll kind (expressions ++ later) body cache =
          evaluateAll kind expressions body cache) :=
  ⟨evaluateAll_eq_pass_iff, fun _ _ => evaluateAll_eq_fail_iff, fun _ => evaluateAll_eq_error_iff,
    fun _ _ h hne _ hothers => h.evaluateAll_of_take_eq hne hothers,
    fun later => ⟨fun h => evaluateAll_append_of_pass h later,
      fun h => evaluateAll_append_of_not_pass h later⟩⟩

/-- A rule, which the evaluator of scripts refuses. -/
def Expression.refusedRule : Expression :=
  .rule ⟨"a", "eq", "1", ""⟩

/-- A rule that is refused comes before what is false, so that its error decides whatever follows
it.  Put in front, a script that is true moves the place of one that is false. -/
theorem evaluateAll_decided_of_mixed :
    Reached .script [("a", .int 1)] Cache.empty
        [.script "a === 1", .refusedRule, .script "a"] 1 .refusedRule ∧
      evaluateAll .script [.script "a === 1", .refusedRule, .script "a"] [("a", .int 1)]
        Cache.empty = .error Expression.refusedRule.refusal ∧
      evaluateAll .script [.script "a === 1", .refusedRule, .script ")"] [("a", .int 1)]
        Cache.empty = .error Expression.refusedRule.refusal ∧
      evaluateAll .script ([.script "a === 1"] ++ [.script "a", .refusedRule]) [("a", .int 1)]
        Cache.empty = .ok (.fail 1 "a") := by
  have hpasses : scriptPasses (Template.resolve "a === 1" Cache.empty) [("a", .int 1)] = true := by
    decide +kernel
  have hnumber : scriptPasses (Template.resolve "a" Cache.empty) [("a", .int 1)] = false := by
    decide +kernel
  have htrue : EvaluatorKind.script.check (.script "a === 1") [("a", .int 1)] Cache.empty =
      .ok true := congrArg Except.ok hpasses
  have hfalse : EvaluatorKind.script.check (.script "a") [("a", .int 1)] Cache.empty =
      .ok false := congrArg Except.ok hnumber
  have hrefused : EvaluatorKind.script.check .refusedRule [("a", .int 1)] Cache.empty =
      .error Expression.refusedRule.refusal := rfl
  have hreached : Reached .script [("a", .int 1)] Cache.empty
      [.script "a === 1", .refusedRule, .script "a"] 1 .refusedRule :=
    ⟨rfl, List.forall_mem_singleton.mpr htrue⟩
  obtain ⟨-, -, herror, hafter, -⟩ := evaluateAll_decided .script [("a", .int 1)] Cache.empty
    [.script "a === 1", .refusedRule, .script "a"]
  have hdecided := (herror _).mpr ⟨1, .refusedRule, hreached, hrefused⟩
  have hothers := hafter 1 .refusedRule hreached (by rw [hrefused]; exact nofun)
    [.script "a === 1", .refusedRule, .script ")"] rfl
  obtain ⟨hpass, -, -, -, hlists⟩ := evaluateAll_decided .script [("a", .int 1)] Cache.empty
    [.script "a === 1"]
  have hlater := (hlists [.script "a", .refusedRule]).1
    (hpass.mpr (List.forall_mem_singleton.mpr htrue))
  rw [show evaluateAll .script [.script "a", .refusedRule] [("a", .int 1)] Cache.empty =
    .ok (.fail 0 "a") from evaluateFrom_cons_of_false _ _ _ hfalse 0 _] at hlater
  exact ⟨hreached, hdecided, hothers.trans hdecided, hlater⟩

end HttpScenario
