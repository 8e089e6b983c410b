import HttpScenario.Proofs.Assertion.WholeNumbers
import HttpScenario.Proofs.Script.Access
/-!
# Where the two evaluators agree

A rule is shown as its path, its operator and its value, one after the other, and this can be a
script.  If the rule is a comparison of a member of the body with a whole number, and the member is
a number, then the rule evaluator says of the rule what the script evaluator says of that script
(`EvaluatorKind.agree_on_numbers`).

The two ways lead through different numbers.  The rule reads its value as a document, and compares
with the double nearest to the whole number it finds.  The script reads the digits as a double, turns
that back into a whole number if it is small enough, and takes the negative of this if there is a
minus in front.  But the double of what comes of it is the same (`Script.eval_wholeExpr`), because a
double that is a whole number is the double nearest to it.
-/

namespace HttpScenario

namespace Script

/-! ### Whole numbers in scripts -/

/-- A finite double stands for a number that has this double, be it kept as a whole number or as the
double itself. -/
theorem exists_numberValue {d : Double} {whole : Int} (htruncate : d.truncate? = some whole)
    (hwhole : d.isWhole = true → Double.ofInt whole = d) :
    ∃ number : Json.Number, numberValue d = .num number ∧ number.toDouble = d := by
  unfold numberValue
  rw [htruncate]
  dsimp only
  split
  · rename_i hsmall
    exact ⟨.whole whole, rfl, hwhole (Bool.and_eq_true_iff.mp hsmall).1⟩
  · exact ⟨.real d, rfl, rfl⟩

theorem exists_numberValue_ofInt {n : Int} (h : n.natAbs ≤ 18446744073709551616) :
    ∃ number : Json.Number,
      numberValue (Double.ofInt n) = .num number ∧ number.toDouble = Double.ofInt n := by
  obtain ⟨negative, units, hfinite⟩ :
      ∃ negative units, Double.ofInt n = .finite negative units := ⟨_, _, Double.ofInt_of_le h⟩
  obtain ⟨whole, htruncate⟩ : ∃ whole, (Double.ofInt n).truncate? = some whole := by
    rw [hfinite]
    exact ⟨_, rfl⟩
  exact exists_numberValue htruncate fun hwhole => Double.ofInt_of_truncate? h hwhole htruncate

/-- The tokens of the decimal text of a whole number. -/
def wholeTokens : Int → List Token
  | .ofNat n => [.number (Double.ofInt n)]
  | .negSucc n => [.minus, .number (Double.ofInt (n + 1 : Nat))]

/-- The expression that the decimal text of a whole number writes. -/
def wholeExpr : Int → Expr
  | .ofNat n => .literal (numberValue (Double.ofInt n))
  | .negSucc n => .neg (.literal (numberValue (Double.ofInt (n + 1 : Nat))))

theorem spaced_wholeTokens (n : Int) :
    Spaced [] (' ' :: (toString n).toList) (wholeTokens n) := by
  have hspace : Blanks [' '] := by decide
  have hend : Spaced [] [] [] := .nil nofun
  cases n with
  | ofNat n =>
    have hchars : ' ' :: (toString (Int.ofNat n)).toList =
        [' '] ++ (Double.decimalDigits n ++ []) := by
      rw [List.append_nil]
      exact congrArg (' ' :: ·) String.toList_ofList
    rw [hchars]
    exact .cons hspace (writtenAs_decimalDigits n) (Token.keptApart_nil _) hend
  | negSucc n =>
    have hminus : Token.minus.WrittenAs ['-'] := .mark (fun _ => .double) trivial
    have hchars : ' ' :: (toString (Int.negSucc n)).toList =
        [' '] ++ (['-'] ++ (Double.decimalDigits (n + 1) ++ [])) := by
      rw [List.append_nil]
      show ' ' :: ("-" ++ toString (n + 1)).toList = _
      rw [String.toList_append]
      exact congrArg (fun digits => ' ' :: '-' :: digits) String.toList_ofList
    have hdigits := Spaced.flush (writtenAs_decimalDigits (n + 1)) (Token.keptApart_nil _) hend
    rw [hchars]
    exact .cons hspace hminus (Or.inr id) hdigits

theorem derives_wholeTokens (n : Int) : Derives 1 .unary (wholeTokens n) (wholeExpr n) := by
  cases n with
  | ofNat n => exact (Derives.number 1 _).loosen (by decide)
  | negSucc n => exact .neg ((Derives.number 0 _).loosen (by decide))

theorem eval_neg_literal (body : Json.Object) (value : Json) :
    eval body (.neg (.literal value)) = negate value := rfl

/-- The decimal text of a whole number is a script for a number with the same double. -/
theorem eval_wholeExpr {n : Int} (h : n.natAbs ≤ 18446744073709551616) (body : Json.Object) :
    ∃ number : Json.Number,
      eval body (wholeExpr n) = .ok (.num number) ∧ number.toDouble = Double.ofInt n := by
  cases n with
  | ofNat n =>
    obtain ⟨number, hvalue, hdouble⟩ := exists_numberValue_ofInt h
    exact ⟨number, congrArg Except.ok hvalue, hdouble⟩
  | negSucc n =>
    have hcast : Int.negSucc n = -((n + 1 : Nat) : Int) := Int.negSucc_eq n
    have hpositive : ((n + 1 : Nat) : Int).natAbs ≤ 18446744073709551616 := by
      rwa [hcast, Int.natAbs_neg] at h
    obtain ⟨number, hvalue, hdouble⟩ := exists_numberValue_ofInt hpositive
    obtain ⟨negative, hnegative, hresult⟩ := exists_numberValue_ofInt h
    have hneg : number.toDouble.neg = Double.ofInt (Int.negSucc n) := by
      rw [hdouble, Double.neg_ofInt hpositive (by omega), hcast]
    refine ⟨negative, ?_, hresult⟩
    rw [wholeExpr, eval_neg_literal, hvalue, negate, hneg, hnegative]

/-! ### Comparisons -/

namespace Comparison

/-- How a comparison is written. -/
def symbol : Comparison → String
  | .equal => "=="
  | .strictEqual => "==="
  | .notEqual => "!="
  | .strictNotEqual => "!=="
  | .less => "<"
  | .lessEqual => "<="
  | .greater => ">"
  | .greaterEqual => ">="

theorem writtenAs_symbol (op : Comparison) : op.token.WrittenAs op.symbol.toList := by
  have hmark : op.token.IsMark := by cases op <;> trivial
  have hspelling : op.token.spelling (fun _ => .double) = op.symbol.toList := by
    cases op <;> rfl
  rw [← hspelling]
  exact .mark _ hmark

/-- The operator of rules that goes by the same symbol. -/
def ruleOperator : Comparison → HttpScenario.Operator
  | .equal => .eq
  | .strictEqual => .eq
  | .notEqual => .ne
  | .strictNotEqual => .ne
  | .less => .lt
  | .lessEqual => .lte
  | .greater => .gt
  | .greaterEqual => .gte

theorem parse_symbol (op : Comparison) :
    HttpScenario.Operator.parse op.symbol = .ok op.ruleOperator :=
  Operator.parse_eq_ok_iff.mpr (by cases op <;> decide +kernel)

/-- Between numbers, only their doubles matter. -/
theorem holds_congr (op : Comparison) (n : Json.Number) {m m' : Json.Number}
    (h : m.toDouble = m'.toDouble) : op.holds (.num n) (.num m) = op.holds (.num n) (.num m') := by
  have hequal : strictEquals (.num n) (.num m) = strictEquals (.num n) (.num m') := by
    simp only [strictEquals, h]
  have horder : order? (.num n) (.num m) = order? (.num n) (.num m') := by
    simp only [order?, toNumber?, h]
  cases op <;> simp only [holds, looseEquals, hequal, horder]

/-- A rule says of a number what the comparison with the number of the rule says. -/
theorem holdsOf_eq_holds (op : Comparison) {rule : CompiledRule} {m : Json.Number}
    (hop : rule.operator = op.ruleOperator) (hexpected : rule.expected = .num m)
    (n : Json.Number) : rule.holdsOf (.num n) = op.holds (.num n) (.num m) := by
  have hequals : rule.equals (.num n) = n.toDouble.same m.toDouble := by
    unfold CompiledRule.equals
    rw [hexpected]
    rfl
  have horder : rule.order? (.num n) = n.toDouble.compare? m.toDouble := by
    unfold CompiledRule.order?
    rw [hexpected]
    rfl
  unfold CompiledRule.holdsOf
  cases op with
  | equal | strictEqual | notEqual | strictNotEqual =>
    simp only [hop, ruleOperator, hequals]
    rfl
  | less | lessEqual | greater | greaterEqual =>
    simp only [hop, ruleOperator, horder, holds, order?, toNumber?]
    cases n.toDouble.compare? m.toDouble with
    | none => rfl
    | some order => cases order <;> rfl

end Comparison

/-! ### Accesses compared with whole numbers -/

namespace Access

/-- The first segment of an access is a key and has no places. -/
def StartsWithKey (access : Access) : Prop :=
  ∀ place rest, access.steps ≠ .item place :: rest

theorem exists_ofText_text {access : Access} (h : access.StartsWithKey) :
    ∃ rest, Json.Path.ofText access.text = access.root.text :: rest := by
  have hdots : '.' ∉ access.root.chars := access.root.not_mem_chars (by decide)
  have hpieces : ∃ more, Text.pieces '.' access.text.toList = access.root.chars :: more := by
    rw [text, String.toList_ofList, chars]
    cases hsteps : access.steps with
    | nil =>
      rw [List.flatMap_nil, List.append_nil, Text.pieces_of_not_mem hdots]
      exact ⟨[], rfl⟩
    | cons step steps =>
      cases step with
      | item place => exact absurd hsteps (h place steps)
      | member name => exact ⟨_, Text.pieces_append hdots _⟩
  obtain ⟨more, hmore⟩ := hpieces
  rw [Json.Path.ofText, hmore, List.filter_cons_of_pos rfl]
  exact ⟨_, rfl⟩

theorem brace_not_mem_chars (access : Access) : '\x7b' ∉ access.chars := by
  have hname : ∀ name : Name, '\x7b' ∉ name.chars := fun name => name.not_mem_chars (by decide)
  intro hmem
  rcases List.mem_append.mp hmem with hroot | hsteps
  · exact hname access.root hroot
  · obtain ⟨step, -, hstep⟩ := List.mem_flatMap.mp hsteps
    cases step with
    | member name => simp [Step.chars, hname name] at hstep
    | item place =>
      have hdigits := place.isDigits.not_mem (by decide : '\x7b'.isDigit = false)
      simp [Step.chars, Json.bracketed, hdigits] at hstep

end Access

/-- The tokens of a comparison of an access with a whole number. -/
def comparisonTokens (access : Access) (op : Comparison) (n : Int) : List Token :=
  access.tokens ++ op.token :: wholeTokens n

/-- An access, a comparison and a whole number, with a space between any two, are a script. -/
theorem evaluate_comparison (access : Access) (op : Comparison) {n : Int}
    (hlimit : (comparisonTokens access op n).length ≤ maxTokens) {source : String}
    (hsource : source.toList =
      access.chars ++ ' ' :: (op.symbol.toList ++ ' ' :: (toString n).toList))
    (body : Json.Object) :
    evaluate source body = eval body (.compare op access.expr (wholeExpr n)) := by
  have hspace : Blanks [' '] := by decide
  have hspaced : Spaced [] source.toList (comparisonTokens access op n) := by
    rw [hsource]
    apply access.spaced
    · exact .cons hspace op.writtenAs_symbol (Or.inl ⟨' ', rfl, by decide⟩) (spaced_wholeTokens n)
    · intro name
      exact Or.inl ⟨' ', rfl, by decide⟩
  have hderives : Derives 1 op.level (comparisonTokens access op n)
      (.compare op access.expr (wholeExpr n)) := by
    have hleft : op.level.rank ≤ Level.steps.rank := by cases op <;> decide
    have hright : op.rightLevel.rank ≤ Level.unary.rank := by cases op <;> decide
    exact .binary op.operator op.next?_level (access.derives.loosen hleft)
      ((derives_wholeTokens n).loosen hright)
  exact evaluate_of_spaced hspaced hlimit (hderives.loosen (Nat.zero_le _)) (by decide) body

end Script

namespace Rule

/-- The rule that compares what an access stands for with a whole number. -/
def comparison (access : Script.Access) (op : Script.Comparison) (b : Int) : Rule where
  prop := access.text
  operator := op.symbol
  value := toString b

variable (access : Script.Access) (op : Script.Comparison)

theorem toList_display_comparison (b : Int) :
    (comparison access op b).display.toList =
      access.chars ++ ' ' :: (op.symbol.toList ++ ' ' :: (toString b).toList) := by
  have hdisplay : (comparison access op b).display =
      access.text ++ " " ++ op.symbol ++ " " ++ toString b ++ "" := rfl
  rw [hdisplay]
  simp only [String.toList_append, Script.Access.text, String.toList_ofList]
  simp

/-- Nothing in the script that shows the rule is a placeholder. -/
theorem resolve_display_comparison {b : Int} (hb : (Json.Number.whole b).Kept) (cache : Cache) :
    Template.resolve (comparison access op b).display cache =
      (comparison access op b).display := by
  have hsymbol : '\x7b' ∉ op.symbol.toList := by cases op <;> decide
  have hvalue := Json.brace_not_mem_toString hb
  apply Template.resolve_of_not_mem
  rw [toList_display_comparison]
  simp only [List.mem_append, List.mem_cons, not_or]
  exact ⟨access.brace_not_mem_chars, by decide, hsymbol, by decide, hvalue⟩

end Rule

section comparison

variable {access : Script.Access} (op : Script.Comparison) {b : Int}
  (hb : (Json.Number.whole b).Kept) {body : Json.Object} {n : Json.Number}
  (hsubject : Json.valueAt? (.ofText access.text) (.obj body) = some (.num n)) (cache : Cache)

include hb hsubject

theorem EvaluatorKind.check_comparison (haccess : access.StartsWithKey) :
    EvaluatorKind.rules.check (.rule (.comparison access op b)) body cache =
      .ok (op.holds (.num n) (.int b)) := by
  have hresolve : Template.resolve (toString b) cache = toString b :=
    Template.resolve_of_not_mem (Json.brace_not_mem_toString hb) cache
  have hexpected : CompiledRule.expectedOf (toString b) = .int b := by
    rw [← Json.compact_int]
    exact CompiledRule.expectedOf_compact trivial hb (Nat.zero_le _)
  have hmatches : op.ruleOperator ≠ .matches := by cases op <;> decide
  have hcompile := CompiledRule.compile_of_parse op.parse_symbol hmatches access.text
    (Template.resolve (toString b) cache)
  obtain ⟨rest, hpath⟩ := Script.Access.exists_ofText_text haccess
  have hbracket : '[' ∉ access.root.text.toList := by
    rw [Script.Name.text, String.toList_ofList]
    exact access.root.not_mem_chars (by decide)
  rw [hpath, Json.valueAt?_cons_obj access.root.text_ne_empty hbracket] at hsubject
  refine bind_eq_ok_iff.mpr ⟨_, hcompile, congrArg Except.ok ?_⟩
  rw [CompiledRule.evaluate_of_path hpath]
  show CompiledRule.verdictOn _ ((Table.find? access.root.text body).bind _) = _
  rw [hsubject, hresolve, hexpected]
  exact op.holdsOf_eq_holds rfl rfl n

end comparison

/-- About a number in the body, the rule that compares it with a whole number and the script that
shows this rule say the same: what the comparison says of the two numbers. -/
theorem EvaluatorKind.agree_on_numbers {access : Script.Access} (haccess : access.StartsWithKey)
    (op : Script.Comparison) {b : Int} (hb : (Json.Number.whole b).Kept)
    (hlimit : (Script.comparisonTokens access op b).length ≤ Script.maxTokens)
    {body : Json.Object} {n : Json.Number}
    (hsubject : Json.valueAt? (.ofText access.text) (.obj body) = some (.num n)) (cache : Cache) :
    EvaluatorKind.rules.check (.rule (.comparison access op b)) body cache =
        .ok (op.holds (.num n) (.int b)) ∧
      Script.evaluate (Rule.comparison access op b).display body =
        .ok (.bool (op.holds (.num n) (.int b))) ∧
      EvaluatorKind.script.check (.script (Rule.comparison access op b).display) body cache =
        .ok (op.holds (.num n) (.int b)) := by
  have hvalue := (access.eval_expr body).1 _ hsubject
  obtain ⟨number, hnumber, hdouble⟩ := Script.eval_wholeExpr hb.natAbs_le body
  have hscript : Script.evaluate (Rule.comparison access op b).display body =
      .ok (.bool (op.holds (.num n) (.int b))) := by
    rw [Script.evaluate_comparison access op hlimit (Rule.toList_display_comparison access op b)]
    have hholds : op.holds (.num n) (.num number) = op.holds (.num n) (.int b) :=
      op.holds_congr n hdouble
    rw [Script.eval, hvalue, hnumber, ← hholds]
    rfl
  refine ⟨check_comparison op hb hsubject cache haccess, hscript, ?_⟩
  show Except.ok (scriptPasses (Template.resolve _ cache) body) = _
  rw [Rule.resolve_display_comparison access op hb, scriptPasses, hscript]

/-- A member of an object under a key. -/
def Script.Access.memberOfObject : Script.Access where
  root := .ofAscii 'a' [] (by decide) (by decide)
  isVariable := by decide
  steps := [.member (.ofAscii 'b' [] (by decide) (by decide))]

/-- Two numbers below −2⁵³ that have one double are the same to either evaluator. -/
theorem EvaluatorKind.agree_on_numbers_of_negative :
    EvaluatorKind.rules.check (.rule ⟨"a.b", "===", "-9007199254740993", ""⟩)
        [("a", .obj [("b", .int (-9007199254740992))])] Cache.empty = .ok true ∧
      EvaluatorKind.script.check (.script "a.b === -9007199254740993")
        [("a", .obj [("b", .int (-9007199254740992))])] Cache.empty = .ok true := by
  have haccess : Script.Access.memberOfObject.StartsWithKey := by
    intro place rest h
    cases h
  have hb : (Json.Number.whole (-9007199254740993)).Kept := ⟨by decide, by decide⟩
  have hlimit : (Script.comparisonTokens .memberOfObject .strictEqual
      (-9007199254740993)).length ≤ Script.maxTokens := by decide
  have hsubject : Json.valueAt? (.ofText Script.Access.memberOfObject.text)
      (.obj [("a", .obj [("b", .int (-9007199254740992))])]) =
        some (.num (.whole (-9007199254740992))) := by
    rw [Script.Access.valueAt?_text]
    rfl
  have hagree := agree_on_numbers haccess .strictEqual hb hlimit hsubject Cache.empty
  have hholds : Script.Comparison.strictEqual.holds (.num (.whole (-9007199254740992)))
      (.int (-9007199254740993)) = true := by
    decide +kernel
  rw [hholds] at hagree
  exact ⟨hagree.1, hagree.2.2⟩

end HttpScenario
