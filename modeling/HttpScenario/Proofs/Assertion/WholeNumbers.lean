import HttpScenario.Proofs.Assertion.Subject
import HttpScenario.Proofs.Double.Order
import HttpScenario.Proofs.Json.Compact
import HttpScenario.Proofs.Template.Compact
/-!
# Rules about whole numbers

A rule reads the decimal text of a whole number as that number, and compares it with the number in
a body through the doubles nearest to the two.  So its operators say what they say of the numbers
themselves, except that different numbers with one nearest double count as equal
(`EvaluatorKind.compares_whole_numbers`).  That happens only where both are 2⁵³ or more in
magnitude, as 2⁵³ and its successor are (`EvaluatorKind.equates_whole_numbers`).
-/

namespace HttpScenario

namespace Json

/-! ### The text of a whole number -/

/-- A whole number is written as its decimal text. -/
theorem compact_int (n : Int) : (int n).compact = toString n := by
  have hcompact : (int n).compact = (Number.whole n).text := String.ofList_toList
  rw [hcompact]
  cases n with
  | ofNat m =>
    have hsign : ¬ Int.ofNat m < 0 := by simp
    unfold Number.text
    dsimp only
    rw [if_neg hsign]
    rfl
  | negSucc m =>
    have hsign : Int.negSucc m < 0 := Int.negSucc_lt_zero m
    unfold Number.text
    dsimp only
    rw [if_pos hsign, ← List.singleton_append, String.ofList_append]
    rfl

theorem brace_not_mem_toString {n : Int} (h : (Number.whole n).Kept) :
    '\x7b' ∉ (toString n).toList := by
  rw [← compact_int, compact, String.toList_ofList]
  exact brace_not_mem_compactChars (int n) h trivial trivial

theorem Number.Kept.natAbs_le {n : Int} (h : (Number.whole n).Kept) :
    n.natAbs ≤ 18446744073709551616 := by
  obtain ⟨hleast, hlimit⟩ := h
  unfold least at hleast
  unfold limit at hlimit
  omega

end Json

/-- What an operator that compares says of an order; the other operators do not compare. -/
def Operator.onOrder? : Operator → Option (Ordering → Bool)
  | .eq => some Ordering.isEq
  | .ne => some Ordering.isNe
  | .gt => some Ordering.isGT
  | .gte => some Ordering.isGE
  | .lt => some Ordering.isLT
  | .lte => some Ordering.isLE
  | _ => none

theorem Operator.ne_matches_of_onOrder? {op : Operator} {holds : Ordering → Bool}
    (h : op.onOrder? = some holds) : op ≠ .matches := by
  rintro rfl
  cases h

namespace CompiledRule

/-- The compact form of a document writes that document. -/
theorem expectedOf_compact {v : Json} (htables : v.Tables) (hexact : v.Exact)
    (hdepth : v.depth ≤ Json.maxLevels) : expectedOf v.compact = v := by
  rw [expectedOf, Json.parseText_compact htables hexact hdepth]

section numbers

variable {rule : CompiledRule} {a b : Int} (hexpected : rule.expected = .int b)
  (ha : (Json.Number.whole a).Kept) (hb : (Json.Number.whole b).Kept)

include hexpected ha hb

theorem equals_int : rule.equals (.int a) = (Double.nearOrder a b).isEq := by
  have hdouble : asDouble? rule.expected = some (Double.ofInt b) := by
    rw [hexpected]
    rfl
  rw [Double.isEq_nearOrder, ← Double.same_ofInt ha.natAbs_le hb.natAbs_le]
  unfold equals Json.int
  simp only [hdouble, Json.Number.toDouble]

theorem order?_int : rule.order? (.int a) = some (Double.nearOrder a b) := by
  rw [← Double.compare?_ofInt ha.natAbs_le hb.natAbs_le]
  unfold order?
  rw [hexpected]
  simp only [Json.int, asDouble?, Json.Number.toDouble]

/-- An operator that compares says of a whole number what it says of the order in which it stands
to that of the rule. -/
theorem holdsOf_int {holds : Ordering → Bool} (hop : rule.operator.onOrder? = some holds) :
    rule.holdsOf (.int a) = holds (Double.nearOrder a b) := by
  have hequals := equals_int hexpected ha hb
  have horder := order?_int hexpected ha hb
  unfold holdsOf
  cases hoperator : rule.operator with
  | eq | ne | gt | gte | lt | lte =>
    rw [hoperator] at hop
    obtain rfl := Option.some.inj hop
    cases hnear : Double.nearOrder a b <;> simp only [hequals, horder, hnear] <;> rfl
  | contains | notContains | «exists» | notExists | «matches» =>
    simp [hoperator, Operator.onOrder?] at hop

end numbers

end CompiledRule

/-- A rule with the text of a whole number, of a body with a whole number at its key, says what its
operator says of the order of the two.  Different numbers count as equal if the nearest double is
the same, which it is not if one of them is below 2⁵³ in magnitude. -/
theorem EvaluatorKind.compares_whole_numbers {operator : String} {op : Operator}
    {holds : Ordering → Bool} (hoperator : Operator.parse operator = .ok op)
    (hop : op.onOrder? = some holds) {key : String} (hkey : key ≠ "") (hdots : '.' ∉ key.toList)
    {a b : Int} (ha : (Json.Number.whole a).Kept) (hb : (Json.Number.whole b).Kept)
    {body : Json.Object} (hbody : body.find? key = some (.int a)) (description : String)
    (cache : Cache) :
    EvaluatorKind.rules.check (.rule ⟨key, operator, toString b, description⟩) body cache =
        .ok (holds (Double.nearOrder a b)) ∧
      (a.natAbs < 9007199254740992 ∨ b.natAbs < 9007199254740992 →
        Double.nearOrder a b = compare a b) := by
  refine ⟨?_, Double.nearOrder_eq ha.natAbs_le hb.natAbs_le⟩
  have hresolve : Template.resolve (toString b) cache = toString b :=
    Template.resolve_of_not_mem (Json.brace_not_mem_toString hb) cache
  have hexpected : CompiledRule.expectedOf (toString b) = .int b := by
    rw [← Json.compact_int]
    exact CompiledRule.expectedOf_compact trivial hb (Nat.zero_le _)
  rw [check_of_key hoperator (Operator.ne_matches_of_onOrder? hop) hkey hdots hbody, hresolve,
    hexpected]
  exact congrArg Except.ok (CompiledRule.holdsOf_int rfl ha hb hop)

/-- The numbers on both sides of 2⁶³ have one nearest double, so that the less counts as no less. -/
theorem EvaluatorKind.compares_whole_numbers_of_adjacent :
    EvaluatorKind.rules.check (.rule ⟨"count", " GTE ", toString (9223372036854775808 : Int), ""⟩)
        [("count", .int 9223372036854775807)] Cache.empty = .ok true ∧
      (9223372036854775807 : Int) < 9223372036854775808 := by
  have hoperator : Operator.parse " GTE " = .ok .gte :=
    Operator.parse_eq_ok_iff.mpr (by decide +kernel)
  have hbody : Table.find? "count" [("count", Json.int 9223372036854775807)] =
      some (.int 9223372036854775807) := rfl
  have hcheck := compares_whole_numbers (b := 9223372036854775808) hoperator rfl
    (by decide : "count" ≠ "") (by decide) ⟨by decide, by decide⟩ ⟨by decide, by decide⟩ hbody ""
    Cache.empty
  have horder : Double.nearOrder 9223372036854775807 9223372036854775808 = .eq := by
    decide +kernel
  rw [horder] at hcheck
  exact ⟨hcheck.1, by decide⟩

/-- Two different numbers count as equal. -/
theorem EvaluatorKind.equates_whole_numbers :
    EvaluatorKind.rules.check (.rule ⟨"id", "eq", "9007199254740993", ""⟩)
        [("id", .int 9007199254740992)] Cache.empty = .ok true ∧
      (9007199254740992 : Int) ≠ 9007199254740993 := by
  refine ⟨bind_eq_ok_iff.mpr
    ⟨_, CompiledRule.compile_of_parse Operator.parse_eq (by decide) _ _, ?_⟩, by decide⟩
  decide +kernel

end HttpScenario
