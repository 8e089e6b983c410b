import HttpScenario.Proofs.Assertion.Subject
import HttpScenario.Proofs.Script.Comparing
/-!
# How the operators of a rule stand to each other

Rules with the same path and the same value say things about a body that hang together.  The pairs
of an operator and its opposite are opposed as long as the rule finds something to compare
(`CompiledRule.exists_or_not_exists`).  The orders include equality, and exclude each other
(`CompiledRule.order_includes_equality_iff`).

Both have one exception.  A path without a segment leads nowhere, and yet no rule says that there is
nothing: every operator is false of it.  And a text in a body equals the value of a rule if it is
the same text, even where that text is read as another document; but only that document is what it
is ordered with.

An operator has several names.  The statements are about any choice of a name for each
(`Operator.Naming`).
-/

namespace HttpScenario

/-- A choice of one name for each operator. -/
structure Operator.Naming where
  name : Operator → String
  parse_name : ∀ op, parse (name op) = .ok op

/-- The word for an operator. -/
def Operator.word : Operator → String
  | .eq => "eq"
  | .ne => "ne"
  | .gt => "gt"
  | .gte => "gte"
  | .lt => "lt"
  | .lte => "lte"
  | .contains => "contains"
  | .notContains => "not_contains"
  | .exists => "exists"
  | .notExists => "not_exists"
  | .matches => "matches"

theorem Operator.parse_word (op : Operator) : parse op.word = .ok op :=
  parse_eq_ok_iff.mpr (by cases op <;> decide +kernel)

/-- The operators by the words for them. -/
def Operator.words : Naming where
  name := word
  parse_name := parse_word

/-- A path has no segment if its text is dots and nothing else. -/
theorem Json.Path.ofText_eq_nil_iff {text : String} :
    ofText text = [] ↔ ∀ c ∈ text.toList, c = '.' := by
  have hpieces : ∀ cs : List Char,
      (∀ piece ∈ Text.pieces '.' cs, piece = []) ↔ ∀ c ∈ cs, c = '.' := by
    intro cs
    induction cs with
    | nil => simp [Text.pieces]
    | cons c rest ih =>
      rw [Text.pieces, List.forall_mem_cons]
      split
      · rename_i hc
        rw [List.forall_mem_cons, ih]
        simp [hc]
      · rename_i hc
        -- the first piece has the character in it
        split <;> simp [hc]
  rw [ofText, List.map_eq_nil_iff, List.filter_eq_nil_iff, ← hpieces]
  simp

namespace CompiledRule

/-! ### What a rule says -/

/-- What the rule with a path, an operator and a value says of a body, if it can be compiled. -/
def judge (prop operator value : String) (body : Json.Object) : Except Error Bool :=
  (compile prop operator value).map fun rule => rule.evaluate body

/-- A rule that can be compiled and says yes. -/
def Holds (prop operator value : String) (body : Json.Object) : Prop :=
  judge prop operator value body = .ok true

/-- Two rules can both be compiled, and exactly one of them says yes. -/
def Opposed (x y : Except Error Bool) : Prop :=
  ∃ verdict, x = .ok verdict ∧ y = .ok (!verdict)

/-- A rule without a pattern. -/
def plain (prop value : String) (op : Operator) : CompiledRule :=
  ⟨.ofText prop, op, value, expectedOf value, none⟩

/-- Checking a rule is judging by it once its value is resolved. -/
theorem check_eq_judge (rule : Rule) (body : Json.Object) (cache : Cache) :
    EvaluatorKind.rules.check (.rule rule) body cache =
      judge rule.prop rule.operator (Template.resolve rule.value cache) body := by
  show (compile rule.prop rule.operator (Template.resolve rule.value cache) >>= fun compiled =>
    .ok (compiled.evaluate body)) = _
  unfold judge
  cases compile rule.prop rule.operator (Template.resolve rule.value cache) <;> rfl

theorem not_opposed_of_not_holds {prop other operator operator' value : String}
    {body : Json.Object} (h : ¬ Holds prop operator value body)
    (hother : ¬ Holds other operator' value body) :
    ¬ Opposed (judge prop operator value body) (judge other operator' value body) := by
  rintro ⟨verdict, hfirst, hsecond⟩
  cases verdict with
  | true => exact h hfirst
  | false => exact hother hsecond

/-- A path that has a segment leads to something or not, and that is all that a rule looks at. -/
theorem evaluate_of_ne_nil {rule : CompiledRule} (h : rule.path ≠ []) (body : Json.Object) :
    rule.evaluate body = rule.verdictOn (subject? body rule.path) := by
  obtain ⟨first, rest, hpath⟩ := List.exists_cons_of_ne_nil h
  rw [evaluate_of_path hpath, hpath, subject?]
  cases body.find? first <;> rfl

theorem evaluate_of_eq_nil {rule : CompiledRule} (h : rule.path = []) (body : Json.Object) :
    rule.evaluate body = false := by
  rw [evaluate, h]

/-- A plain key leads to what stands at it. -/
theorem subject?_of_key {key : String} (hkey : key ≠ "") (hdots : '.' ∉ key.toList)
    {body : Json.Object} {actual : Json} (hbody : body.find? key = some actual) :
    subject? body (.ofText key) = some actual := by
  rw [Json.Path.ofText_of_not_mem hkey hdots, subject?, hbody]
  rfl

section names

variable (names : Operator.Naming) {op : Operator} {prop value : String} {body : Json.Object}

/-- A rule whose operator needs no pattern can be compiled. -/
theorem judge_eq (hop : op ≠ .matches) :
    judge prop (names.name op) value body = .ok ((plain prop value op).evaluate body) := by
  rw [judge, compile_of_parse (names.parse_name op) hop]
  rfl

theorem exists_rule_of_holds (h : Holds prop (names.name op) value body) :
    ∃ rule : CompiledRule, rule.path = .ofText prop ∧ rule.operator = op ∧
      rule.evaluate body = true := by
  obtain ⟨rule, hrule, hverdict⟩ := map_eq_ok_iff.mp h
  refine ⟨rule, path_of_compile hrule, ?_, hverdict⟩
  obtain ⟨parsed, hparsed, hpattern⟩ := bind_eq_ok_iff.mp hrule
  obtain ⟨pattern, -, hmade⟩ := bind_eq_ok_iff.mp hpattern
  obtain rfl := Except.ok.inj hmade
  exact Except.ok.inj (hparsed.symm.trans (names.parse_name op))

/-- Of something, a rule says what its operator says of that. -/
theorem judge_of_subject {actual : Json} (hop : op ≠ .matches)
    (hsubject : subject? body (.ofText prop) = some actual) :
    judge prop (names.name op) value body = .ok ((plain prop value op).holdsOf actual) := by
  have hne : (plain prop value op).path ≠ [] := by
    intro hnil
    rw [show Json.Path.ofText prop = [] from hnil] at hsubject
    cases hsubject
  rw [judge_eq names hop, evaluate_of_ne_nil hne]
  exact congrArg (fun found => Except.ok (verdictOn _ found)) hsubject

theorem holds_iff_of_subject {actual : Json} (hop : op ≠ .matches)
    (hsubject : subject? body (.ofText prop) = some actual) :
    Holds prop (names.name op) value body ↔ (plain prop value op).holdsOf actual = true := by
  rw [Holds, judge_of_subject names hop hsubject, Except.ok.injEq]

/-! ### Opposites -/

theorem not_holds_of_eq_nil (h : Json.Path.ofText prop = []) :
    ¬ Holds prop (names.name op) value body := by
  intro hholds
  obtain ⟨rule, hpath, -, hverdict⟩ := exists_rule_of_holds names hholds
  rw [evaluate_of_eq_nil (hpath.trans h)] at hverdict
  cases hverdict

/-- Of nothing, only the rule that says so holds. -/
theorem eq_notExists_of_holds (h : Holds prop (names.name op) value body)
    (hsubject : subject? body (.ofText prop) = none) : op = .notExists := by
  obtain ⟨rule, hpath, rfl, hverdict⟩ := exists_rule_of_holds names h
  have hne : rule.path ≠ [] := by
    intro hnil
    rw [evaluate_of_eq_nil hnil] at hverdict
    cases hverdict
  rw [evaluate_of_ne_nil hne, hpath, hsubject] at hverdict
  exact beq_iff_eq.mp hverdict

theorem judge_exists (h : Json.Path.ofText prop ≠ []) :
    judge prop (names.name .exists) value body =
      .ok (subject? body (.ofText prop)).isSome := by
  rw [judge_eq names (by decide), evaluate_of_ne_nil h]
  unfold plain
  cases subject? body (.ofText prop) <;> rfl

theorem judge_notExists (h : Json.Path.ofText prop ≠ []) :
    judge prop (names.name .notExists) value body =
      .ok !(subject? body (.ofText prop)).isSome := by
  rw [judge_eq names (by decide), evaluate_of_ne_nil h]
  unfold plain
  cases subject? body (.ofText prop) <;> rfl

end names

/-- What a rule is about exists or does not, unless its path has no segment, and then no rule holds.
What exists equals the value of the rule or does not, and contains it or does not; of what does not
exist no other operator holds. -/
theorem exists_or_not_exists (names : Operator.Naming) (prop value : String)
    (body : Json.Object) :
    (∀ op, op ≠ .matches → ∃ verdict, judge prop (names.name op) value body = .ok verdict) ∧
    (Opposed (judge prop (names.name .exists) value body)
        (judge prop (names.name .notExists) value body) ↔ ∃ c ∈ prop.toList, c ≠ '.') ∧
    (Holds prop (names.name .exists) value body →
      Opposed (judge prop (names.name .eq) value body) (judge prop (names.name .ne) value body) ∧
      Opposed (judge prop (names.name .contains) value body)
        (judge prop (names.name .notContains) value body)) ∧
    (Holds prop (names.name .notExists) value body →
      ∀ op, op ≠ .notExists → ¬ Holds prop (names.name op) value body) ∧
    ((∀ c ∈ prop.toList, c = '.') → ∀ op, ¬ Holds prop (names.name op) value body) := by
  have hdots : (∃ c ∈ prop.toList, c ≠ '.') ↔ Json.Path.ofText prop ≠ [] := by
    rw [ne_eq, Json.Path.ofText_eq_nil_iff]
    simp
  refine ⟨fun op hop => ⟨_, judge_eq names hop⟩, ?_, ?_, ?_, ?_⟩
  · rw [hdots]
    constructor
    · intro hopposed hnil
      exact not_opposed_of_not_holds (not_holds_of_eq_nil names hnil)
        (not_holds_of_eq_nil names hnil) hopposed
    · intro hpath
      exact ⟨_, judge_exists names hpath, judge_notExists names hpath⟩
  · intro hexists
    cases hsubject : subject? body (.ofText prop) with
    | none => cases eq_notExists_of_holds names hexists hsubject
    | some actual =>
      exact ⟨⟨_, judge_of_subject names (by decide) hsubject,
          judge_of_subject names (by decide) hsubject⟩,
        ⟨_, judge_of_subject names (by decide) hsubject,
          judge_of_subject names (by decide) hsubject⟩⟩
  · intro hnot op hop hholds
    cases hsubject : subject? body (.ofText prop) with
    | none => exact hop (eq_notExists_of_holds names hholds hsubject)
    | some actual =>
      rw [Holds, judge_of_subject names (by decide) hsubject] at hnot
      cases hnot
  · intro hall op
    exact not_holds_of_eq_nil names (Json.Path.ofText_eq_nil_iff.mpr hall)

/-- An item of a list that is null is something, and does not equal the empty text. -/
theorem exists_or_not_exists_of_null :
    (∃ c ∈ "a..[0]".toList, c ≠ '.') ∧
      Holds "a..[0]" (Operator.words.name .exists) "" [("a", .arr [.null])] ∧
      Opposed (judge "a..[0]" (Operator.words.name .exists) "" [("a", .arr [.null])])
        (judge "a..[0]" (Operator.words.name .notExists) "" [("a", .arr [.null])]) ∧
      Opposed (judge "a..[0]" (Operator.words.name .eq) "" [("a", .arr [.null])])
        (judge "a..[0]" (Operator.words.name .ne) "" [("a", .arr [.null])]) := by
  have hsegment : ∃ c ∈ "a..[0]".toList, c ≠ '.' := ⟨'a', by decide, by decide⟩
  have hpath : Json.Path.ofText "a..[0]" ≠ [] := by decide +kernel
  have hexists : Holds "a..[0]" (Operator.words.name .exists) "" [("a", .arr [.null])] := by
    rw [Holds, judge_exists Operator.words hpath]
    decide +kernel
  obtain ⟨-, hpair, hcompared, -, -⟩ :=
    exists_or_not_exists Operator.words "a..[0]" "" [("a", .arr [.null])]
  exact ⟨hsegment, hexists, hpair.mpr hsegment, (hcompared hexists).1⟩

/-- A path that is only a dot neither exists nor does not exist. -/
theorem neither_exists_nor_not :
    judge "." "exists" "" [("a", .null)] = .ok false ∧
      judge "." "not_exists" "" [("a", .null)] = .ok false := by
  have hnil : Json.Path.ofText "." = [] := by decide +kernel
  have hfalse : ∀ op, op ≠ .matches →
      judge "." (Operator.words.name op) "" [("a", .null)] = .ok false := by
    intro op hop
    rw [judge_eq Operator.words hop, evaluate_of_eq_nil hnil]
  exact ⟨hfalse .exists (by decide), hfalse .notExists (by decide)⟩

/-! ### Orders and equality -/

/-- The operators that compare hang together as orders and equality do. -/
structure Ordered (holds : Operator → Prop) : Prop where
  gte_iff : holds .gte ↔ holds .gt ∨ holds .eq
  lte_iff : holds .lte ↔ holds .lt ∨ holds .eq
  not_lt_eq : ¬ (holds .lt ∧ holds .eq)
  not_lt_gt : ¬ (holds .lt ∧ holds .gt)
  not_eq_gt : ¬ (holds .eq ∧ holds .gt)

section compared

variable (prop value : String) (actual : Json)

/-- Each order that includes equality holds if that order or equality does, so that all depends on
whether equality itself says the same as the order does. -/
theorem ordered_iff {holds : Operator → Prop}
    (h : ∀ op, op ≠ .matches → (holds op ↔ (plain prop value op).holdsOf actual = true)) :
    Ordered holds ↔ ((plain prop value .eq).equals actual = true ↔
      (plain prop value .eq).order? actual = some .eq) := by
  have heither : ∀ (o : Option Ordering) (x y : Ordering),
      (o == some x || o == some y) = true ↔ o = some x ∨ o = some y := by
    intro o x y
    rw [Bool.or_eq_true, beq_iff_eq, beq_iff_eq]
  have heq : holds .eq ↔ (plain prop value .eq).equals actual = true := h .eq (by decide)
  have hgt : holds .gt ↔ (plain prop value .eq).order? actual = some .gt :=
    (h .gt (by decide)).trans beq_iff_eq
  have hlt : holds .lt ↔ (plain prop value .eq).order? actual = some .lt :=
    (h .lt (by decide)).trans beq_iff_eq
  have hgte : holds .gte ↔ (plain prop value .eq).order? actual = some .gt ∨
      (plain prop value .eq).order? actual = some .eq :=
    (h .gte (by decide)).trans (heither _ _ _)
  have hlte : holds .lte ↔ (plain prop value .eq).order? actual = some .lt ∨
      (plain prop value .eq).order? actual = some .eq :=
    (h .lte (by decide)).trans (heither _ _ _)
  constructor
  · rintro ⟨hge, hle, -, -, -⟩
    rw [hgte, hgt, heq] at hge
    rw [hlte, hlt, heq] at hle
    grind
  · intro hequals
    constructor <;> grind

/-- A number or a text stands in the order of equality to the value of a rule exactly if it equals
it, unless it is that value as a text and the value is read as something else. -/
theorem equals_iff_order?_eq (hactual : (∃ n, actual = .num n) ∨ ∃ s, actual = .str s) :
    ((plain prop value .eq).equals actual = true ↔
      (plain prop value .eq).order? actual = some .eq) ↔
      ¬ (actual = .str value ∧ expectedOf value ≠ .str value) := by
  rcases hactual with ⟨n, rfl⟩ | ⟨s, rfl⟩
  · -- numbers are equal exactly if neither is the greater
    refine iff_of_true ?_ nofun
    unfold equals order? plain
    cases expectedOf value with
    | num m =>
      simp only [asDouble?]
      exact Double.same_iff_compare?_eq n.toDouble m.toDouble
    | null | bool | str | arr | obj => simp [asDouble?]
  · unfold equals order? plain
    cases expectedOf value with
    | str t =>
      simp only [Json.same, Bool.or_eq_true, beq_iff_eq, Option.some.injEq,
        Script.textOrder_eq_iff, Json.str.injEq, ne_eq]
      grind
    | null | bool | num | arr | obj =>
      -- there is no order to what is not a text, but the text is still compared as it is written
      simp [Json.same, asDouble?]

end compared

/-- The orders of rules about a number or a text include equality and exclude each other, unless the
text is the value of the rule and that value is read as another document. -/
theorem order_includes_equality_iff (names : Operator.Naming) {key : String} (hkey : key ≠ "")
    (hdots : '.' ∉ key.toList) {body : Json.Object} {actual : Json}
    (hbody : body.find? key = some actual)
    (hactual : (∃ n, actual = .num n) ∨ ∃ s, actual = .str s) (value : String) :
    (∀ op, op ≠ .matches → ∃ verdict, judge key (names.name op) value body = .ok verdict) ∧
    (Ordered (fun op => Holds key (names.name op) value body) ↔
      ¬ (actual = .str value ∧ expectedOf value ≠ .str value)) := by
  have hsubject := subject?_of_key hkey hdots hbody
  refine ⟨fun op hop => ⟨_, judge_of_subject names hop hsubject⟩, ?_⟩
  rw [← equals_iff_order?_eq key value actual hactual]
  exact ordered_iff key value actual fun op hop => holds_iff_of_subject names hop hsubject

/-- A text is not ordered with a number, and does not equal it either. -/
theorem order_includes_equality_iff_of_letter :
    Table.find? "code" [("code", Json.str "b")] = some (.str "b") ∧
      Ordered fun op => Holds "code" (Operator.words.name op) "10" [("code", .str "b")] := by
  have hbody : Table.find? "code" [("code", Json.str "b")] = some (.str "b") := rfl
  have hordered := order_includes_equality_iff Operator.words (by decide : "code" ≠ "")
    (by decide) hbody (Or.inr ⟨"b", rfl⟩) "10"
  exact ⟨hbody, hordered.2.mpr fun h => absurd (Json.str.inj h.1) (by decide)⟩

/-- A text of digits equals the value of a rule that is written with the same digits, and is not
greater or equal.  A text in quotes equals the value that is written like it, and is less as well. -/
theorem equal_but_not_ordered :
    (judge "a" "eq" "10" [("a", .str "10")] = .ok true ∧
      judge "a" "gte" "10" [("a", .str "10")] = .ok false) ∧
    (judge "a" "eq" "\"b\"" [("a", .str "\"b\"")] = .ok true ∧
      judge "a" "lt" "\"b\"" [("a", .str "\"b\"")] = .ok true) := by
  decide +kernel

end CompiledRule

end HttpScenario
