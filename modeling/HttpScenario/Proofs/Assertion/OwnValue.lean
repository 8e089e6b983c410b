import HttpScenario.Proofs.Assertion.WholeNumbers
import HttpScenario.Proofs.Json.Equality
import HttpScenario.Proofs.Json.ObjectFree
import HttpScenario.Proofs.Shape.TooDeep
import HttpScenario.Proofs.Shape.Written
/-!
# A value equals itself

The value of a rule goes a long way from the document to the comparison: it is read as a text, its
placeholders are replaced, and the text is read as a document again.  Yet a rule that asks whether a
body has the value that the rule was written with says yes (`EvaluatorKind.accepts_own_value`), with
two exceptions.  Null is read as the empty text, which is not null again.  And the braces of an
object are taken for those of a placeholder, wherever the object stands in the value; without cached
bodies none is left, and a text without braces is not read as a document with an object in it.

The rule is one more level around the value, so that a value that takes all the levels a document can
have is not read as part of a rule (`Rule.not_parse_document`).
-/

namespace HttpScenario

/-! ### Reading the rule -/

/-- A rule about a key, as a document whose value is any document. -/
def Rule.document (key operator : String) (v : Json) : Json :=
  .obj [("prop", .str key), ("operator", .str operator), ("value", v)]

/-- A document that is kept fits a field that is read as a text. -/
theorem Shape.ofContent?_anyAsText {v : Json} (htables : v.Tables) (hexact : v.Exact) :
    ofContent? .anyAsText (.ofJson v) = some (.str (asText v)) := by
  show (Content.toJson? (.ofJson v)).map _ = _
  rw [Content.toJson?_ofJson v htables hexact]
  rfl

/-- The document of a rule is no text, and fits the shape of a rule with the text of the value. -/
theorem Rule.firstOfContent?_document {v : Json} (htables : v.Tables) (hexact : v.Exact)
    (key operator : String) :
    Shape.firstOfContent? [.text, shape] (.ofJson (document key operator v)) =
      some (.obj [("prop", .str key), ("operator", .str operator),
        ("value", .str (Shape.asText v)), ("description", .str "")]) := by
  have hvalue := Shape.ofContent?_anyAsText htables hexact
  show Shape.firstOfContent? [shape] _ = _
  apply Shape.firstOfContent?_of_fits
  show Shape.recordOfContent? (Shape.fieldsOfContent [("prop", .text, none),
      ("operator", .text, none), ("value", .anyAsText, some (.str "")),
      ("description", .text, some (.str ""))])
    (.map [(.str "prop", .str key), (.str "operator", .str operator),
      (.str "value", .ofJson v)]) = _
  rw [Shape.recordOfContent?, Shape.fieldsOfMembers?_cons rfl rfl rfl rfl,
    Shape.fieldsOfMembers?_cons rfl rfl rfl rfl, Shape.fieldsOfMembers?_cons rfl rfl rfl hvalue]
  rfl

/-- The document of a rule is read as the rule that has the text of the value. -/
theorem Rule.parse_document {v : Json} (htables : v.Tables) (hexact : v.Exact)
    (hdepth : v.depth < Json.maxLevels) (key operator : String) :
    (Shape.parseText Expression.shape (document key operator v).pretty).map Expression.ofJson =
      .ok (.rule ⟨key, operator, Shape.asText v, ""⟩) := by
  have hlevels : (document key operator v).depth ≤ Json.maxLevels := by
    simp only [document, Json.depth, Json.membersDepth]
    omega
  have hkept := Content.reads_ofJson (document key operator v) Json.maxLevels
    ⟨trivial, trivial, trivial, hexact, trivial⟩ hlevels
  have hread := Shape.reads_firstOf Json.maxLevels "Expression" hkept
    (firstOfContent?_document htables hexact key operator)
  exact map_eq_ok_iff.mpr ⟨_, Shape.parseText_of_reads hread, rfl⟩

/-- If the value nests so deep that no level is left for the rule around it, the document is not
read. -/
theorem Rule.not_parse_document {v : Json} (hexact : v.Exact) (hdepth : Json.maxLevels ≤ v.depth)
    (key operator : String) :
    ∃ fault, Shape.parseText Expression.shape (document key operator v).pretty = .error fault := by
  have hlevels : Json.maxLevels < (document key operator v).depth := by
    simp only [document, Json.depth, Json.membersDepth]
    omega
  have hfails := Content.fails_of_depth (document key operator v) Json.maxLevels
    ⟨trivial, trivial, trivial, hexact, trivial⟩ hlevels
  exact Shape.exists_fault_of_fails (Shape.fails_firstOf hfails)

/-! ### Resolving the value -/

section braces

variable {v : Json} (hexact : v.Exact) (hbraces : v.Braceless)

include hexact hbraces

theorem Shape.brace_not_mem_asText (hfree : v.ObjectFree) : '\x7b' ∉ (asText v).toList := by
  have hcompact : '\x7b' ∉ v.compact.toList := by
    rw [Json.compact, String.toList_ofList]
    exact Json.brace_not_mem_compactChars v hexact hbraces hfree
  cases v with
  | null => exact List.not_mem_nil
  | str s => exact hbraces
  | bool | num | arr | obj => exact hcompact

theorem Template.brace_not_mem_resolve_asText (hfree : ¬ v.ObjectFree) :
    '\x7b' ∉ (resolve (Shape.asText v) Cache.empty).toList := by
  have hshut : Shut v.compact.toList := by
    rw [Json.compact, String.toList_ofList]
    exact Json.shut_compactChars v hexact hbraces
  cases v with
  | arr | obj => exact not_mem_resolve_empty hshut
  | null | bool | num | str => exact absurd trivial hfree

end braces

/-! ### Comparing the value -/

namespace CompiledRule

/-- A value that is written without an opening brace has no object in it. -/
theorem objectFree_expectedOf {value : String} (h : '\x7b' ∉ value.toList) :
    (expectedOf value).ObjectFree := by
  unfold expectedOf
  split
  · rename_i document hparse
    exact Json.objectFree_of_parseText h hparse
  · trivial

section own

variable {rule : CompiledRule} {v : Json}

theorem holdsOf_of_eq (h : rule.operator = .eq) : rule.holdsOf v = rule.equals v := by
  rw [holdsOf, h]

/-- A value that is not null equals what its text is read as. -/
theorem equals_of_asText (htables : v.Tables) (hexact : v.Exact) (hdepth : v.depth ≤ Json.maxLevels)
    (hnull : v ≠ .null) (hraw : rule.raw = Shape.asText v)
    (hexpected : rule.expected = expectedOf (Shape.asText v)) : rule.equals v = true := by
  have hcompact := expectedOf_compact htables hexact hdepth
  have hsame := Json.same_self hexact.nanFree
  cases v with
  | null => exact absurd rfl hnull
  | str s =>
    unfold equals
    rw [hraw]
    simp [Shape.asText]
  | num n =>
    cases n with
    | real value => exact hexact.elim
    | whole n =>
      have hequals := equals_int (hexpected.trans hcompact) hexact hexact
      rw [Double.isEq_nearOrder, decide_eq_true rfl] at hequals
      exact hequals
  | bool value =>
    show Json.same (.bool value) rule.expected = true
    rw [hexpected.trans hcompact]
    exact hsame
  | arr items =>
    show Json.same (.arr items) rule.expected = true
    rw [hexpected.trans hcompact]
    exact hsame
  | obj members =>
    show Json.same (.obj members) rule.expected = true
    rw [hexpected.trans hcompact]
    exact hsame

/-- Null does not equal what the empty text is read as. -/
theorem equals_null (hexpected : rule.expected = expectedOf "") : rule.equals .null = false := by
  have hempty : expectedOf "" = .str "" := rfl
  show Json.same .null rule.expected = false
  rw [hexpected, hempty]
  rfl

/-- A value with an object in it does not equal what a text without an opening brace is read as. -/
theorem equals_of_not_objectFree (hv : ¬ v.ObjectFree) {value : String}
    (hvalue : '\x7b' ∉ value.toList) (hexpected : rule.expected = expectedOf value) :
    rule.equals v = false := by
  have hfree : rule.expected.ObjectFree := hexpected ▸ objectFree_expectedOf hvalue
  have hsame : v.same rule.expected = false :=
    Bool.eq_false_iff.mpr fun h => hv (Json.objectFree_of_same h hfree)
  cases v with
  | arr items => exact hsame
  | obj members => exact hsame
  | null | bool | num | str => exact absurd trivial hv

end own

end CompiledRule

/-! ### The whole way -/

/-- A rule that is written with a value and asks whether a body has it is read, unless the value
nests too deep.  It says yes of the body that has just that value, unless the value is null or there
is an object in it; of null it says no, and of an object as well if nothing is cached.  No text in the
value has an opening brace. -/
theorem EvaluatorKind.accepts_own_value {operator : String}
    (hoperator : Operator.parse operator = .ok .eq) {key : String} (hkey : key ≠ "")
    (hdots : '.' ∉ key.toList) {v : Json} (htables : v.Tables) (hexact : v.Exact)
    (hbraces : v.Braceless) :
    (Json.maxLevels ≤ v.depth → ∃ fault,
      Shape.parseText Expression.shape (Rule.document key operator v).pretty = .error fault) ∧
    (v.depth < Json.maxLevels → ∃ e,
      (Shape.parseText Expression.shape (Rule.document key operator v).pretty).map
        Expression.ofJson = .ok e ∧
      (v ≠ .null → v.ObjectFree → ∀ cache,
        EvaluatorKind.rules.check e [(key, v)] cache = .ok true) ∧
      (v = .null → ∀ cache, EvaluatorKind.rules.check e [(key, v)] cache = .ok false) ∧
      (¬ v.ObjectFree → EvaluatorKind.rules.check e [(key, v)] Cache.empty = .ok false)) := by
  refine ⟨fun hdepth => Rule.not_parse_document hexact hdepth key operator, ?_⟩
  intro hdepth
  have hbody : Table.find? key [(key, v)] = some v := if_pos rfl
  have hcheck := check_of_key hoperator (by decide) hkey hdots hbody (Shape.asText v) ""
  refine ⟨_, Rule.parse_document htables hexact hdepth key operator, ?_, ?_, ?_⟩
  · -- there is nothing to resolve, and the text is read as the value again
    intro hnull hfree cache
    rw [hcheck, Template.resolve_of_not_mem (Shape.brace_not_mem_asText hexact hbraces hfree),
      CompiledRule.holdsOf_of_eq rfl,
      CompiledRule.equals_of_asText htables hexact (Nat.le_of_lt hdepth) hnull rfl rfl]
  · rintro rfl cache
    rw [hcheck, Template.resolve_of_not_mem (Shape.brace_not_mem_asText hexact hbraces trivial),
      CompiledRule.holdsOf_of_eq rfl, CompiledRule.equals_null rfl]
  · -- each brace starts a placeholder, and nothing is put in its place
    intro hfree
    have hopen := Template.brace_not_mem_resolve_asText hexact hbraces hfree
    rw [hcheck, CompiledRule.holdsOf_of_eq rfl,
      CompiledRule.equals_of_not_objectFree hfree hopen rfl]

/-- A list in a list, with a text that has to be escaped. -/
theorem EvaluatorKind.accepts_own_value_of_nested :
    ∃ e, (Shape.parseText Expression.shape
        (Rule.document "p" "eq" (.arr [.arr [.str "a \"b\"\n"], .int (-3), .null])).pretty).map
          Expression.ofJson = .ok e ∧
      ∀ cache, EvaluatorKind.rules.check e
        [("p", .arr [.arr [.str "a \"b\"\n"], .int (-3), .null])] cache = .ok true := by
  have hbrace : '\x7b' ∉ "a \"b\"\n".toList := by decide
  obtain ⟨e, he, haccepts, -⟩ := (accepts_own_value Operator.parse_eq (by decide : "p" ≠ "") (by decide)
    (v := .arr [.arr [.str "a \"b\"\n"], .int (-3), .null])
    ⟨⟨trivial, trivial⟩, trivial, trivial, trivial⟩
    ⟨⟨trivial, trivial⟩, ⟨by decide, by decide⟩, trivial, trivial⟩
    ⟨⟨hbrace, trivial⟩, trivial, trivial, trivial⟩).2 (by decide)
  exact ⟨e, he, haccepts nofun ⟨⟨trivial, trivial⟩, trivial, trivial, trivial⟩⟩

/-- A rule that is written with null, or with an object, does not hold of that value. -/
theorem EvaluatorKind.denies_own_null_and_object :
    ((Shape.parseText Expression.shape (Rule.document "p" "eq" .null).pretty).map
        Expression.ofJson = .ok (.rule ⟨"p", "eq", "", ""⟩) ∧
      EvaluatorKind.rules.check (.rule ⟨"p", "eq", "", ""⟩) [("p", .null)] Cache.empty =
        .ok false) ∧
    ((Shape.parseText Expression.shape
        (Rule.document "p" "eq" (.arr [.obj [("a", .int 1)]])).pretty).map Expression.ofJson =
        .ok (.rule ⟨"p", "eq", "[\x7b\"a\":1\x7d]", ""⟩) ∧
      EvaluatorKind.rules.check (.rule ⟨"p", "eq", "[\x7b\"a\":1\x7d]", ""⟩)
        [("p", .arr [.obj [("a", .int 1)]])] Cache.empty = .ok false) := by
  refine ⟨⟨?_, ?_⟩, ?_, ?_⟩
  · have hparse := Rule.parse_document (v := .null) trivial trivial (by decide) "p" "eq"
    exact hparse
  · have hbody : Table.find? "p" [("p", Json.null)] = some .null := rfl
    rw [check_of_key Operator.parse_eq (by decide) (by decide) (by decide) hbody,
      Template.resolve_of_not_mem (by decide), CompiledRule.holdsOf_of_eq rfl,
      CompiledRule.equals_null rfl]
  · have hparse := Rule.parse_document (v := .arr [.obj [("a", .int 1)]])
      ⟨⟨List.pairwise_singleton _ _, trivial, trivial⟩, trivial⟩
      ⟨⟨trivial, ⟨by decide, by decide⟩, trivial⟩, trivial⟩ (by decide) "p" "eq"
    exact hparse
  · have hbody : Table.find? "p" [("p", Json.arr [.obj [("a", .int 1)]])] =
        some (.arr [.obj [("a", .int 1)]]) := rfl
    have hfree : ¬ (Json.arr [.obj [("a", .int 1)]]).ObjectFree := fun h => h.1.1
    have hopen := Template.brace_not_mem_resolve_asText
      (v := .arr [.obj [("a", .int 1)]]) ⟨⟨trivial, ⟨by decide, by decide⟩, trivial⟩, trivial⟩
      ⟨⟨by decide, trivial, trivial⟩, trivial⟩ hfree
    rw [check_of_key Operator.parse_eq (by decide) (by decide) (by decide) hbody,
      CompiledRule.holdsOf_of_eq rfl, CompiledRule.equals_of_not_objectFree hfree hopen rfl]

end HttpScenario
