import HttpScenario.Assertion.Rule
import HttpScenario.Cache
import HttpScenario.Proofs.Assertion.Evaluation
import HttpScenario.Proofs.Json.Path
/-!
# What a rule looks at

A rule takes the first segment of its path as a key of the body as it stands, and walks only the
rest of the path.  A segment without brackets is a key in either way, so that the rule then looks at
what its path addresses in the body.  A segment with brackets is a key and places in a list where a
path is walked, but one long key to the rule (`CompiledRule.reads_addressed_iff`).

The empty segments that a rule leaves out make no difference (`Json.valueAt?_ofTextKeepingEmpty`), so
that placeholders, which keep them, address the same values with the same text.
-/

namespace HttpScenario

namespace CompiledRule

/-! ### Compiling -/

/-- A rule with an operator that needs no pattern is compiled, whatever its path and its value. -/
theorem compile_of_parse {operator : String} {op : Operator} (h : Operator.parse operator = .ok op)
    (hop : op ≠ .matches) (prop value : String) :
    compile prop operator value =
      .ok ⟨.ofText prop, op, value, expectedOf value, none⟩ := by
  have hpattern : patternOf op value = .ok none := by
    cases op with
    | «matches» => exact absurd rfl hop
    | _ => rfl
  exact bind_eq_ok_iff.mpr ⟨op, h, bind_eq_ok_iff.mpr ⟨none, hpattern, rfl⟩⟩

/-- A compiled rule has the path that its text writes. -/
theorem path_of_compile {prop operator value : String} {rule : CompiledRule}
    (h : compile prop operator value = .ok rule) : rule.path = .ofText prop := by
  obtain ⟨op, -, hpattern⟩ := bind_eq_ok_iff.mp h
  obtain ⟨pattern, -, hrule⟩ := bind_eq_ok_iff.mp hpattern
  obtain rfl := Except.ok.inj hrule
  rfl

/-! ### The subject -/

/-- What a rule comes to about what it has found. -/
def verdictOn (rule : CompiledRule) (found : Option Json) : Bool :=
  match found with
  | some actual => rule.holdsOf actual
  | none => rule.operator == .notExists

/-- A rule with a path is about what stands there to it. -/
theorem evaluate_of_path {rule : CompiledRule} {first : String} {rest : Json.Path}
    (h : rule.path = first :: rest) (body : Json.Object) :
    rule.evaluate body = rule.verdictOn ((body.find? first).bind (Json.valueAt? rest)) := by
  unfold evaluate verdictOn
  rw [h]
  dsimp only [subject?]
  cases body.find? first <;> rfl

/-- The rules with a path look at what the path addresses in a body, whatever their operator and
their value are, exactly if its first segment has no brackets, unless its other segments lead
nowhere from any value.  What the path addresses does not depend on its empty segments. -/
theorem reads_addressed_iff {prop first : String} {rest : Json.Path}
    (hpath : Json.Path.ofText prop = first :: rest) :
    ((∀ operator value rule, compile prop operator value = .ok rule → ∀ body : Json.Object,
        rule.evaluate body = rule.verdictOn (Json.valueAt? (.ofText prop) (.obj body))) ↔
      '[' ∉ first.toList ∨ ∀ value, Json.valueAt? rest value = none) ∧
    ∀ value, Json.valueAt? (.ofTextKeepingEmpty prop) value =
      Json.valueAt? (.ofText prop) value := by
  refine ⟨⟨?_, ?_⟩, Json.valueAt?_ofTextKeepingEmpty prop⟩
  · intro hreads
    refine Decidable.or_iff_not_imp_left.mpr fun hmem value => ?_
    rw [Decidable.not_not] at hmem
    -- the rule that only asks whether there is something, of a body with just that key
    have hparse : Operator.parse "exists" = .ok .exists :=
      Operator.parse_eq_ok_iff.mpr (by decide +kernel)
    have hrule := compile_of_parse hparse (by decide) prop ""
    have hfound := hreads _ _ _ hrule [(first, value)]
    rw [evaluate_of_path ((path_of_compile hrule).trans hpath), hpath,
      Json.valueAt?_cons_singleton hmem, Table.find?, if_pos rfl, Option.bind_some] at hfound
    cases hvalue : Json.valueAt? rest value with
    | none => rfl
    | some found =>
      rw [hvalue] at hfound
      cases hfound
  · intro h operator value rule hrule body
    have hrulepath := (path_of_compile hrule).trans hpath
    rw [evaluate_of_path hrulepath, hpath]
    rcases h with hplain | hnowhere
    · have hne : first ≠ "" := Json.Path.ne_empty_of_mem_ofText (hpath ▸ List.mem_cons_self)
      rw [Json.valueAt?_cons_obj hne hplain]
    · have haddressed : Json.valueAt? (first :: rest) (.obj body) = none := by
        rw [Json.valueAt?]
        cases Json.step? first (.obj body) with
        | none => rfl
        | some next => exact hnowhere next
      rw [haddressed]
      cases body.find? first with
      | none => rfl
      | some root => rw [Option.bind_some, hnowhere root]

/-- A path whose list index stands in a segment of its own. -/
theorem reads_addressed_iff_of_tags :
    Json.Path.ofText "person..tags.[0]" = ["person", "tags", "[0]"] ∧
      ((∀ operator value rule, compile "person..tags.[0]" operator value = .ok rule →
          ∀ body : Json.Object, rule.evaluate body =
            rule.verdictOn (Json.valueAt? (.ofText "person..tags.[0]") (.obj body))) ∧
        ∀ value, Json.valueAt? (.ofTextKeepingEmpty "person..tags.[0]") value =
          Json.valueAt? (.ofText "person..tags.[0]") value) := by
  have hpath : Json.Path.ofText "person..tags.[0]" = ["person", "tags", "[0]"] := by
    decide +kernel
  have hreads := reads_addressed_iff hpath
  exact ⟨hpath, hreads.1.mpr (Or.inl (by decide)), hreads.2⟩

/-- With the index at the end of the first key, a rule misses a value that its path addresses and
that equals its own. -/
theorem misses_indexed_key :
    ∃ rule, compile "data[0].id" "eq" "1" = .ok rule ∧
      Json.valueAt? (.ofText "data[0].id") (.obj [("data", .arr [.obj [("id", .int 1)]])]) =
        some (.int 1) ∧
      rule.holdsOf (.int 1) = true ∧
      rule.evaluate [("data", .arr [.obj [("id", .int 1)]])] = false := by
  refine ⟨_, compile_of_parse Operator.parse_eq (by decide) _ _, ?_, ?_, ?_⟩
  · rfl
  · decide +kernel
  · decide +kernel

end CompiledRule

/-- A rule about a plain key, of a body that has it, is about what stands there.  Only its value is
resolved first. -/
theorem EvaluatorKind.check_of_key {operator : String} {op : Operator}
    (hoperator : Operator.parse operator = .ok op) (hop : op ≠ .matches) {key : String}
    (hkey : key ≠ "") (hdots : '.' ∉ key.toList) {body : Json.Object} {actual : Json}
    (hbody : body.find? key = some actual) (value description : String) (cache : Cache) :
    EvaluatorKind.rules.check (.rule ⟨key, operator, value, description⟩) body cache =
      .ok (CompiledRule.holdsOf ⟨[key], op, Template.resolve value cache,
        CompiledRule.expectedOf (Template.resolve value cache), none⟩ actual) := by
  have hcompile := CompiledRule.compile_of_parse hoperator hop key (Template.resolve value cache)
  rw [Json.Path.ofText_of_not_mem hkey hdots] at hcompile
  refine bind_eq_ok_iff.mpr ⟨_, hcompile, ?_⟩
  rw [CompiledRule.evaluate_of_path rfl, hbody, Option.bind_some, Json.valueAt?_nil]
  rfl

end HttpScenario
