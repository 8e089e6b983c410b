import HttpScenario.Proofs.Assertion.Subject
import HttpScenario.Proofs.Script.Parsing
/-!
# What is read of the body

A script has the keys of a body as its variables, and a rule starts at one key.  Nothing else of the
body is read: neither a name after a dot nor a text between brackets leads back to the body itself.
So what an expression comes to depends on what stands under the keys that it mentions
(`Expression.Mentions`), and other members can be added, changed and removed without a difference
(`decided_by_mentioned_keys`).

For a script this is followed from the tokens to the value.  A variable of an expression is a name
among the tokens that write it (`Script.Derives.ident_mem`), and the value of an expression, or what
is wrong with it, depends on its variables (`Script.eval_congr`).  The keys that a script mentions
are those of its text with all placeholders replaced.
-/

namespace HttpScenario

/-! ### Tables that agree -/

namespace Table

variable {α : Type}

/-- Two tables have the same value under each of some keys, or both have none there. -/
def AgreeOn (keys : String → Prop) (table other : Table α) : Prop :=
  ∀ key, keys key → table.find? key = other.find? key

theorem AgreeOn.mono {keys fewer : String → Prop} {table other : Table α}
    (h : AgreeOn keys table other) (hfewer : ∀ key, fewer key → keys key) :
    AgreeOn fewer table other := by
  intro key hkey
  exact h key (hfewer key hkey)

/-- Takes the value under a key out of a table. -/
def erase (key : String) (table : Table α) : Table α :=
  table.filter fun entry => entry.1 ≠ key

theorem find?_erase_of_ne {key other : String} (h : other ≠ key) (table : Table α) :
    find? other (erase key table) = find? other table := by
  induction table with
  | nil => rfl
  | cons entry rest ih =>
    obtain ⟨k, v⟩ := entry
    rw [erase] at ih ⊢
    by_cases hk : k = key
    · rw [List.filter_cons_of_neg (by simpa using hk), ih, find?, if_neg (by rw [hk]; exact h.symm)]
    · rw [List.filter_cons_of_pos (by simpa using hk), find?, find?, ih]

section unmentioned

variable {keys : String → Prop} {key : String} (h : ¬ keys key) (table : Table α)

include h

theorem agreeOn_insert (value : α) : AgreeOn keys (insert key value table) table := by
  intro other hother
  refine find?_insert_of_ne ?_ value table
  rintro rfl
  exact h hother

theorem agreeOn_erase : AgreeOn keys (erase key table) table := by
  intro other hother
  refine find?_erase_of_ne ?_ table
  rintro rfl
  exact h hother

end unmentioned

end Table

/-! ### Scripts -/

namespace Script

/-- The variables of an expression, from left to right. -/
def Expr.variables : Expr → List String
  | .literal _ => []
  | .variable name => [name]
  | .member target _ => target.variables
  | .index target key => target.variables ++ key.variables
  | .not operand => operand.variables
  | .neg operand => operand.variables
  | .and left right => left.variables ++ right.variables
  | .or left right => left.variables ++ right.variables
  | .compare _ left right => left.variables ++ right.variables

theorem Operator.variables_build {place : Level} {t : Token} {build : Expr → Expr → Expr}
    (h : Operator place t build) (left right : Expr) :
    (build left right).variables = left.variables ++ right.variables := by
  cases h <;> rfl

/-- The variables of an expression are names among the tokens that write it. -/
theorem Derives.ident_mem {n : Nat} {place : Level} {ts : List Token} {e : Expr}
    (h : Derives n place ts e) {name : String} (hname : name ∈ e.variables) :
    .ident name ∈ ts := by
  induction h with
  | tighter _ _ ih => exact ih hname
  | binary hop _ _ _ ihleft ihright =>
    rw [hop.variables_build] at hname
    rcases List.mem_append.mp hname with hleft | hright
    · exact List.mem_append_left _ (ihleft hleft)
    · exact List.mem_append_right _ (List.mem_cons_of_mem _ (ihright hright))
  | not _ ih => exact List.mem_cons_of_mem _ (ih hname)
  | neg _ ih => exact List.mem_cons_of_mem _ (ih hname)
  | member _ _ ih => exact List.mem_append_left _ (ih hname)
  | index _ _ ihtarget ihkey =>
    rcases List.mem_append.mp hname with htarget | hkey
    · exact List.mem_append_left _ (ihtarget htarget)
    · have hinside := List.mem_append_left [Token.closeBracket] (ihkey hkey)
      exact List.mem_append_right _ (List.mem_cons_of_mem _ hinside)
  | number | text | trueName | falseName | nullName | undefinedName =>
    exact absurd hname List.not_mem_nil
  | otherName n _ =>
    obtain rfl := List.mem_singleton.mp hname
    exact List.mem_singleton.mpr rfl
  | parens _ ih => exact List.mem_cons_of_mem _ (List.mem_append_left _ (ih hname))

/-- What an expression comes to depends on its variables. -/
theorem eval_congr {e : Expr} {body other : Json.Object}
    (h : Table.AgreeOn (· ∈ e.variables) body other) : eval body e = eval other e := by
  induction e with
  | literal value => rfl
  | «variable» name => rw [eval, eval, h name (List.mem_singleton.mpr rfl)]
  | member target name ih => rw [eval, eval, ih h]
  | not operand ih => rw [eval, eval, ih h]
  | neg operand ih => rw [eval, eval, ih h]
  | index left right ihleft ihright
  | and left right ihleft ihright
  | or left right ihleft ihright
  | compare _ left right ihleft ihright =>
    have hleft := ihleft (h.mono fun _ => List.mem_append_left _)
    have hright := ihright (h.mono fun _ => List.mem_append_right _)
    rw [eval, eval, hleft, hright]

/-- The key is a name among the tokens of a source. -/
def Mentions (source key : String) : Prop :=
  ∃ ts, tokenize source = .ok ts ∧ .ident key ∈ ts

/-- What a source comes to, or what is wrong with it, depends on the keys that it mentions. -/
theorem evaluate_congr {source : String} {body other : Json.Object}
    (h : Table.AgreeOn (Mentions source) body other) :
    evaluate source body = evaluate source other := by
  unfold evaluate
  cases htokens : tokenize source with
  | error fault => rfl
  | ok ts =>
    show (parse ts >>= eval body) = (parse ts >>= eval other)
    cases hparse : parse ts with
    | error fault => rfl
    | ok e =>
      refine eval_congr (h.mono ?_)
      intro name hname
      exact ⟨ts, htokens, (parse_eq_ok_iff.mp hparse).ident_mem hname⟩

end Script

/-! ### Rules -/

namespace CompiledRule

/-- Of a body, a rule reads what stands under the first segment of its path. -/
theorem evaluate_congr {rule : CompiledRule} {body other : Json.Object}
    (h : Table.AgreeOn (fun key => rule.path.head? = some key) body other) :
    rule.evaluate body = rule.evaluate other := by
  unfold evaluate
  cases hpath : rule.path with
  | nil => rfl
  | cons first rest =>
    have hfirst : body.find? first = other.find? first := h first (congrArg List.head? hpath)
    dsimp only [subject?]
    rw [hfirst]

end CompiledRule

/-! ### Expressions -/

/-- The key is a name among the tokens of a script once its placeholders are resolved, or the first
segment of the path of a rule. -/
def Expression.Mentions (cache : Cache) : Expression → String → Prop
  | .script source, key => Script.Mentions (Template.resolve source cache) key
  | .rule r, key => (Json.Path.ofText r.prop).head? = some key

theorem EvaluatorKind.check_congr_body {e : Expression} {cache : Cache} {body other : Json.Object}
    (h : Table.AgreeOn (e.Mentions cache) body other) (kind : EvaluatorKind) :
    kind.check e body cache = kind.check e other cache := by
  match kind, e with
  | .script, .script source =>
    rw [check, check, scriptPasses, scriptPasses, Script.evaluate_congr h]
  | .script, .rule rule => rfl
  | .rules, .script source => rfl
  | .rules, .rule rule =>
    rw [check, check]
    cases hrule : CompiledRule.compile rule.prop rule.operator
      (Template.resolve rule.value cache) with
    | error error => rfl
    | ok compiled =>
      refine congrArg Except.ok (CompiledRule.evaluate_congr ?_)
      rw [CompiledRule.path_of_compile hrule]
      exact h

/-- What an expression comes to, be it a truth value or an error, depends on the keys of the body
that it mentions.  Under any other key a value can be put in, changed or taken out. -/
theorem decided_by_mentioned_keys (kind : EvaluatorKind) (e : Expression) (cache : Cache) :
    (∀ body other : Json.Object, Table.AgreeOn (e.Mentions cache) body other →
      kind.check e body cache = kind.check e other cache) ∧
    ∀ key, ¬ e.Mentions cache key → ∀ body : Json.Object,
      (∀ value, kind.check e (body.insert key value) cache = kind.check e body cache) ∧
        kind.check e (Table.erase key body) cache = kind.check e body cache := by
  refine ⟨fun body other h => kind.check_congr_body h, ?_⟩
  intro key hkey body
  exact ⟨fun value => kind.check_congr_body (Table.agreeOn_insert hkey body value),
    kind.check_congr_body (Table.agreeOn_erase hkey body)⟩

/-- A script that reads a member under a name that is also a key of the body. -/
def Expression.readingMember : Expression :=
  .script "o['k'] === 'v'"

theorem Expression.mentions_readingMember {key : String}
    (h : readingMember.Mentions Cache.empty key) : key = "o" := by
  have htokens : Script.tokenize (Template.resolve "o['k'] === 'v'" Cache.empty) =
      .ok [.ident "o", .openBracket, .text "k", .closeBracket, .strictEqual, .text "v"] := by
    decide +kernel
  obtain ⟨ts, hts, hmem⟩ := h
  obtain rfl := Except.ok.inj (htokens.symm.trans hts)
  simpa using hmem

/-- What stands under the same name in the body itself makes no difference, be it there, missing, or
put in. -/
theorem decided_by_mentioned_keys_of_member :
    Table.AgreeOn (Expression.readingMember.Mentions Cache.empty)
        [("k", Json.str "w"), ("o", .obj [("k", .str "v")])] [("o", .obj [("k", .str "v")])] ∧
      EvaluatorKind.script.check .readingMember
        [("k", .str "w"), ("o", .obj [("k", .str "v")])] Cache.empty = .ok true ∧
      ¬ Expression.readingMember.Mentions Cache.empty "k" ∧
      EvaluatorKind.script.check .readingMember
        (Table.insert "k" .null [("o", .obj [("k", .str "v")])]) Cache.empty = .ok true := by
  have hagree : Table.AgreeOn (Expression.readingMember.Mentions Cache.empty)
      [("k", Json.str "w"), ("o", .obj [("k", .str "v")])] [("o", .obj [("k", .str "v")])] := by
    intro key hkey
    rw [Expression.mentions_readingMember hkey]
    rfl
  have hunmentioned : ¬ Expression.readingMember.Mentions Cache.empty "k" :=
    fun h => absurd (Expression.mentions_readingMember h) (by decide)
  have hcheck : EvaluatorKind.script.check .readingMember [("o", .obj [("k", .str "v")])]
      Cache.empty = .ok true := by
    decide +kernel
  obtain ⟨hdecided, hothers⟩ := decided_by_mentioned_keys .script .readingMember Cache.empty
  exact ⟨hagree, (hdecided _ _ hagree).trans hcheck, hunmentioned,
    ((hothers "k" hunmentioned _).1 .null).trans hcheck⟩

end HttpScenario
