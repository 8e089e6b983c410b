import HttpScenario.Proofs.Assertion.Evaluation
import HttpScenario.Scenario.Basic
/-!
# Kinds of expressions

An evaluator that is given an expression of the other kind refuses it for its kind alone, whatever
the body and the cache; an expression of its own kind is never refused for that
(`EvaluatorKind.refuses_iff`).  So there is an evaluator that refuses none of some expressions
exactly if they are of one kind.  The kinds that occur in a scenario are gathered in the order in
which they are first met (`Scenario.firstSeen_expressionKinds`), and counting them tells whether
there is such an evaluator (`Scenario.length_expressionKinds_le_one_iff`).

What is left to go wrong is a rule that cannot be compiled (`Rule.Unfit`): scripts always come to a
truth value.
-/

namespace HttpScenario

/-! ### First seen -/

section seen

variable {α : Type} [BEq α] [LawfulBEq α]

/-- A list has what some items are, each once, in the order in which they first occur. -/
structure FirstSeen (items seen : List α) : Prop where
  nodup : seen.Nodup
  mem_iff : ∀ a, a ∈ seen ↔ a ∈ items
  ordered : seen.Pairwise fun a b => items.idxOf a < items.idxOf b

namespace FirstSeen

variable {items seen : List α}

omit [LawfulBEq α] in
theorem nil : FirstSeen ([] : List α) [] where
  nodup := List.nodup_nil
  mem_iff := fun _ => Iff.rfl
  ordered := List.Pairwise.nil

/-- What has been seen stays in its order when items follow. -/
theorem ordered_append (h : FirstSeen items seen) (later : List α) :
    seen.Pairwise fun a b => (items ++ later).idxOf a < (items ++ later).idxOf b := by
  refine List.Pairwise.imp_of_mem ?_ h.ordered
  intro a b ha hb hlt
  rw [List.idxOf_append, List.idxOf_append, if_pos ((h.mem_iff a).mp ha),
    if_pos ((h.mem_iff b).mp hb)]
  exact hlt

/-- One more item is put at the end, unless it has been seen. -/
theorem concat (h : FirstSeen items seen) (a : α) :
    FirstSeen (items ++ [a]) (if seen.contains a then seen else seen ++ [a]) := by
  by_cases ha : a ∈ seen
  · rw [if_pos (List.contains_iff_mem.mpr ha)]
    refine ⟨h.nodup, ?_, h.ordered_append [a]⟩
    intro b
    rw [List.mem_append, List.mem_singleton, h.mem_iff]
    constructor
    · exact Or.inl
    · rintro (hb | rfl)
      · exact hb
      · exact (h.mem_iff b).mp ha
  · have hitems : a ∉ items := fun hmem => ha ((h.mem_iff a).mpr hmem)
    rw [if_neg (mt List.contains_iff_mem.mp ha)]
    refine ⟨List.nodup_append.mpr ⟨h.nodup, List.pairwise_singleton _ a, ?_⟩, ?_,
      List.pairwise_append.mpr ⟨h.ordered_append [a], List.pairwise_singleton _ a, ?_⟩⟩
    · intro b hb c hc
      rw [List.mem_singleton.mp hc]
      rintro rfl
      exact ha hb
    · intro b
      rw [List.mem_append, List.mem_append, h.mem_iff]
    · -- what has been seen occurs among the items, and the new one only after all of them
      intro b hb c hc
      have hmem := (h.mem_iff b).mp hb
      rw [List.mem_singleton.mp hc, List.idxOf_append, List.idxOf_append, if_pos hmem,
        if_neg hitems, Nat.add_comm]
      exact Nat.lt_add_right _ (List.idxOf_lt_length_iff.mpr hmem)

/-- Items that are looked at one after the other are gathered. -/
theorem foldl (h : FirstSeen items seen) (later : List α) :
    FirstSeen (items ++ later)
      (later.foldl (fun seen a => if seen.contains a then seen else seen ++ [a]) seen) := by
  induction later generalizing items seen with
  | nil =>
    rw [List.append_nil]
    exact h
  | cons a later ih =>
    rw [List.append_cons]
    exact ih (h.concat a)

omit [LawfulBEq α] in
/-- At most one thing has been seen exactly if all items are the same. -/
theorem length_le_one_iff [Inhabited α] (h : FirstSeen items seen) :
    seen.length ≤ 1 ↔ ∃ a, ∀ b ∈ items, b = a := by
  constructor
  · intro hlength
    match seen, hlength with
    | [], _ =>
      refine ⟨default, fun b hb => ?_⟩
      exact absurd ((h.mem_iff b).mpr hb) List.not_mem_nil
    | [a], _ => exact ⟨a, fun b hb => List.mem_singleton.mp ((h.mem_iff b).mpr hb)⟩
  · rintro ⟨a, hall⟩
    match seen, h with
    | [], _ => exact Nat.zero_le 1
    | [b], _ => exact Nat.le_refl 1
    | b :: c :: rest, h =>
      have hb : b = a := hall b ((h.mem_iff b).mp (List.mem_cons_self))
      have hc : c = a := hall c ((h.mem_iff c).mp (List.mem_cons_of_mem b List.mem_cons_self))
      have hne : b ≠ c := (List.nodup_cons.mp h.nodup).1 ∘ fun heq => heq ▸ List.mem_cons_self
      exact absurd (hb.trans hc.symm) hne

end FirstSeen

end seen

/-! ### Refusals -/

/-- The error with which the evaluator of the other kind refuses an expression. -/
def Expression.refusal : Expression → Error
  | .script source =>
    .evaluator ("script expression '" ++ source ++ "' given to the rule evaluator")
  | .rule r => .evaluator ("rule '" ++ r.display ++ "' given to the script evaluator")

/-- An evaluator refuses an expression for the way it is written. -/
def EvaluatorKind.Refuses (kind : EvaluatorKind) (e : Expression) (body : Json.Object)
    (cache : Cache) : Prop :=
  kind.check e body cache = .error e.refusal

/-- A rule names no operator, or it names `matches` and its value is no pattern once it is
resolved. -/
def Rule.Unfit (rule : Rule) (cache : Cache) : Prop :=
  rule.operator? = none ∨
    rule.operator? = some .matches ∧
      ∃ fault, Pattern.compile (Template.resolve rule.value cache) = .error fault

/-- A rule that cannot be checked is unfit. -/
theorem Rule.unfit_of_check_eq_error {rule : Rule} {body : Json.Object} {cache : Cache}
    {error : Error} (h : EvaluatorKind.rules.check (.rule rule) body cache = .error error) :
    rule.Unfit cache := by
  rcases EvaluatorKind.check_rule_eq_error_iff.mp h with ⟨hname, -⟩ | ⟨hname, fault, hfault, -⟩
  · exact Or.inl hname
  · exact Or.inr ⟨hname, fault, hfault⟩

/-- Texts that start with different characters are not the same. -/
theorem ne_of_head?_ne {s t : String} (h : s.toList.head? ≠ t.toList.head?) : s ≠ t :=
  fun heq => h (congrArg (fun text => text.toList.head?) heq)

/-- An evaluator refuses the expressions of the other kind, and no others. -/
theorem EvaluatorKind.refuses_iff {kind : EvaluatorKind} {e : Expression} {body : Json.Object}
    {cache : Cache} : kind.Refuses e body cache ↔ e.kind ≠ kind := by
  unfold Refuses
  match kind, e with
  | .script, .script source => simp [check, Expression.kind]
  | .script, .rule rule => simp [check, Expression.kind, Expression.refusal]
  | .rules, .script source => simp [check, Expression.kind, Expression.refusal]
  | .rules, .rule rule =>
    rw [check_rule_eq_error_iff]
    refine ⟨?_, fun hne => absurd rfl hne⟩
    rintro (⟨-, herror⟩ | ⟨-, fault, -, herror⟩)
    · exact absurd (Error.evaluator.inj herror) (ne_of_head?_ne (by simp))
    · exact absurd (Error.evaluator.inj herror) (ne_of_head?_ne (by simp))

/-! ### The kinds of a scenario -/

namespace Scenario

variable (scenario : Scenario)

/-- The kinds are gathered in the order in which they are first met. -/
theorem firstSeen_expressionKinds :
    FirstSeen (scenario.expressions.map Expression.kind) scenario.expressionKinds := by
  have hgathered := FirstSeen.nil.foldl (scenario.expressions.map Expression.kind)
  rw [List.nil_append, List.foldl_map] at hgathered
  exact hgathered

/-- An evaluator refuses no expression of the scenario, whatever the body and the cache. -/
def Suits (kind : EvaluatorKind) : Prop :=
  ∀ e ∈ scenario.expressions, ∀ body cache, ¬ kind.Refuses e body cache

theorem suits_iff (kind : EvaluatorKind) :
    scenario.Suits kind ↔ ∀ e ∈ scenario.expressions, e.kind = kind := by
  simp only [Suits, EvaluatorKind.refuses_iff, Classical.not_not, forall_const]

/-- There is at most one kind exactly if the scenario suits some evaluator. -/
theorem length_expressionKinds_le_one_iff :
    scenario.expressionKinds.length ≤ 1 ↔ ∃ kind, scenario.Suits kind := by
  rw [scenario.firstSeen_expressionKinds.length_le_one_iff]
  simp only [List.forall_mem_map, suits_iff]

end Scenario

end HttpScenario
