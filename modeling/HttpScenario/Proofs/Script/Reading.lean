import HttpScenario.Proofs.Script.Grammar
import HttpScenario.Proofs.Sequence
import HttpScenario.Script.Parser
/-!
# What the readers of a script read

Each level of the grammar has its reader (`Level.reader`), and what follows the first operand of a
level is read by a loop (`Level.loop`).  This module says two things about them, whatever the tokens
are.

What is read is derived (`Level.reads_reader`): a reader takes tokens from the front, and those
write the expression at its level.  For a loop this is an induction over its rounds, in which the
expression that has been put together so far is derived from the tokens taken so far
(`derives_of_steps`, `derives_of_chain`); for the nesting it is one over the depth that is left
(`reads_inner`).

No loop is ended by its bound (`Level.loop_of_le`): a round takes at least one token, so as many
rounds as there are tokens are as good as any greater number of them.
-/

namespace HttpScenario.Script

/-! ### The readers of the levels -/

namespace Level

/-- The binary operators of a level. -/
def operator? : Level → Token → Option (Expr → Expr → Expr)
  | or => orOperator?
  | and => andOperator?
  | equality => equalityOperator?
  | order => orderOperator?
  | unary | steps | primary => fun _ => none

/-- The reader of a level. -/
def reader (inner : Inner) : Level → Parse
  | primary => Script.primary inner
  | steps => withSteps inner
  | unary => Script.unary inner
  | order => level orderOperator? (Script.unary inner)
  | equality => level equalityOperator? (level orderOperator? (Script.unary inner))
  | and =>
    level andOperator? (level equalityOperator? (level orderOperator? (Script.unary inner)))
  | or => expression inner

/-- What goes on with an expression of a level, for at most so many tokens. -/
def loop (inner : Inner) : Level → (tries : Nat) → Expr → Parse
  | or => chain orOperator? (reader inner and)
  | and => chain andOperator? (reader inner equality)
  | equality => chain equalityOperator? (reader inner order)
  | order => chain orderOperator? (reader inner unary)
  | unary => chain (fun _ => none) (reader inner steps)
  | steps => Script.steps inner
  | primary => chain (fun _ => none) (reader inner primary)

theorem operator?_eq_some_iff {level : Level} {t : Token} {build : Expr → Expr → Expr} :
    level.operator? t = some build ↔ Operator level t build := by
  constructor
  · intro h
    cases level <;> cases t <;> cases h <;> constructor
  · rintro ⟨⟩ <;> rfl

end Level

/-! ### What is read is derived -/

/-- What a reader reads from the front of some tokens is written by them. -/
def Reads (read : Parse) (writes : List Token → Expr → Prop) : Prop :=
  ∀ (ts : List Token) (e : Expr) (rest : List Token), read ts = .ok (e, rest) →
    ∃ us, ts = us ++ rest ∧ writes us e

/-- The readers for what stands inside read what is derived one level less deep. -/
structure Inner.Reads (inner : Inner) (n : Nat) : Prop where
  unary : Script.Reads inner.unary fun us e => ∃ m, n = m + 1 ∧ Derives m .unary us e
  expression : Script.Reads inner.expression fun us e => ∃ m, n = m + 1 ∧ Derives m .or us e

theorem eq_cons_of_expectToken {t : Token} {ts rest : List Token}
    (h : expectToken t ts = .ok rest) : ts = t :: rest := by
  cases ts with
  | nil => cases h
  | cons u us =>
    rw [expectToken] at h
    by_cases hu : u = t
    · rw [if_pos hu] at h
      rw [hu, Except.ok.inj h]
    · rw [if_neg hu] at h
      cases h

theorem derives_nameExpr (n : Nat) (name : String) :
    Derives n .primary [.ident name] (nameExpr name) := by
  unfold nameExpr
  by_cases htrue : name = "true"
  · rw [if_pos htrue, htrue]
    exact .trueName n
  by_cases hfalse : name = "false"
  · rw [if_neg htrue, if_pos hfalse, hfalse]
    exact .falseName n
  by_cases hnull : name = "null"
  · rw [if_neg htrue, if_neg hfalse, if_pos (Or.inl hnull), hnull]
    exact .nullName n
  by_cases hundefined : name = "undefined"
  · rw [if_neg htrue, if_neg hfalse, if_pos (Or.inr hundefined), hundefined]
    exact .undefinedName n
  · rw [if_neg htrue, if_neg hfalse, if_neg (not_or.mpr ⟨hnull, hundefined⟩)]
    refine .otherName n ?_
    simp [reservedNames, htrue, hfalse, hnull, hundefined]

theorem nameExpr_of_not_mem {name : String} (h : name ∉ reservedNames) :
    nameExpr name = .variable name := by
  simp only [reservedNames, List.mem_cons, List.not_mem_nil, or_false, not_or] at h
  obtain ⟨htrue, hfalse, hnull, hundefined⟩ := h
  rw [nameExpr, if_neg htrue, if_neg hfalse, if_neg (not_or.mpr ⟨hnull, hundefined⟩)]

section reads

variable {inner : Inner} {n : Nat}

theorem reads_primary (hinner : inner.Reads n) : Reads (primary inner) (Derives n .primary) := by
  intro ts e rest h
  unfold primary at h
  split at h
  · cases h
  · cases h
    exact ⟨_, rfl, .number n _⟩
  · cases h
    exact ⟨_, rfl, .text n _⟩
  · cases h
    exact ⟨_, rfl, derives_nameExpr n _⟩
  · obtain ⟨⟨content, after⟩, hcontent, h⟩ := bind_eq_ok_iff.mp h
    obtain ⟨left, hclosed, h⟩ := bind_eq_ok_iff.mp h
    cases h
    obtain ⟨us, rfl, m, rfl, hus⟩ := hinner.expression _ _ _ hcontent
    obtain rfl := eq_cons_of_expectToken hclosed
    exact ⟨.openParen :: (us ++ [.closeParen]), by simp, .parens hus⟩
  · cases h

/-- The steps that are read belong to the target. -/
theorem derives_of_steps (hinner : inner.Reads n) {tries : Nat} {done ts rest : List Token}
    {target e : Expr} (hdone : Derives n .steps done target)
    (h : steps inner tries target ts = .ok (e, rest)) :
    ∃ us, ts = us ++ rest ∧ Derives n .steps (done ++ us) e := by
  induction tries generalizing done ts target with
  | zero =>
    cases h
    exact ⟨[], rfl, by rwa [List.append_nil]⟩
  | succ tries ih =>
    rw [steps.eq_def] at h
    dsimp only at h
    split at h
    · rename_i name after
      obtain ⟨us, rfl, hus⟩ := ih (.member name hdone) h
      exact ⟨.dot :: .ident name :: us, rfl, by simpa using hus⟩
    · cases h
    · cases h
    · obtain ⟨⟨key, after⟩, hkey, hrest⟩ := bind_eq_ok_iff.mp h
      obtain ⟨left, hclosed, hsteps⟩ := bind_eq_ok_iff.mp hrest
      obtain ⟨ks, rfl, m, rfl, hks⟩ := hinner.expression _ _ _ hkey
      obtain rfl := eq_cons_of_expectToken hclosed
      obtain ⟨us, rfl, hus⟩ := ih (.index hdone hks) hsteps
      exact ⟨.openBracket :: (ks ++ .closeBracket :: us), by simp, by simpa using hus⟩
    · cases h
      exact ⟨[], rfl, by rwa [List.append_nil]⟩

theorem reads_withSteps (hinner : inner.Reads n) : Reads (withSteps inner) (Derives n .steps) := by
  intro ts e rest h
  obtain ⟨⟨target, after⟩, htarget, hsteps⟩ := bind_eq_ok_iff.mp h
  obtain ⟨ps, rfl, hps⟩ := reads_primary hinner _ _ _ htarget
  obtain ⟨us, rfl, hus⟩ := derives_of_steps hinner (.tighter rfl hps) hsteps
  exact ⟨ps ++ us, (List.append_assoc ..).symm, hus⟩

theorem reads_unary (hinner : inner.Reads n) : Reads (unary inner) (Derives n .unary) := by
  intro ts e rest h
  unfold unary at h
  split at h
  · obtain ⟨⟨operand, after⟩, hoperand, h⟩ := bind_eq_ok_iff.mp h
    cases h
    obtain ⟨us, rfl, m, rfl, hus⟩ := hinner.unary _ _ _ hoperand
    exact ⟨.not :: us, rfl, .not hus⟩
  · obtain ⟨⟨operand, after⟩, hoperand, h⟩ := bind_eq_ok_iff.mp h
    cases h
    obtain ⟨us, rfl, m, rfl, hus⟩ := hinner.unary _ _ _ hoperand
    exact ⟨.minus :: us, rfl, .neg hus⟩
  · obtain ⟨us, rfl, hus⟩ := reads_withSteps hinner _ _ _ h
    exact ⟨us, rfl, .tighter rfl hus⟩

variable {place tighter : Level} {operand : Parse}

/-- The operators and operands that are read belong to what stands to the left of them. -/
theorem derives_of_chain (hnext : place.next? = some tighter)
    (hoperand : Reads operand (Derives n tighter)) {tries : Nat} {done ts rest : List Token}
    {left e : Expr} (hdone : Derives n place done left)
    (h : chain place.operator? operand tries left ts = .ok (e, rest)) :
    ∃ us, ts = us ++ rest ∧ Derives n place (done ++ us) e := by
  induction tries generalizing done ts left with
  | zero =>
    cases h
    exact ⟨[], rfl, by rwa [List.append_nil]⟩
  | succ tries ih =>
    rw [chain.eq_def] at h
    dsimp only at h
    split at h
    · cases h
      exact ⟨[], rfl, by rwa [List.append_nil]⟩
    · split at h
      · cases h
        exact ⟨[], rfl, by rwa [List.append_nil]⟩
      · rename_i t _ _ build hop
        obtain ⟨⟨right, after⟩, hright, hchain⟩ := bind_eq_ok_iff.mp h
        obtain ⟨rs, rfl, hrs⟩ := hoperand _ _ _ hright
        obtain ⟨us, rfl, hus⟩ :=
          ih (.binary (Level.operator?_eq_some_iff.mp hop) hnext hdone hrs) hchain
        exact ⟨t :: (rs ++ us), by simp, by simpa using hus⟩

theorem reads_level (place : Level) (hnext : place.next? = some tighter)
    (hoperand : Reads operand (Derives n tighter)) :
    Reads (level place.operator? operand) (Derives n place) := by
  intro ts e rest h
  obtain ⟨⟨left, after⟩, hleft, hchain⟩ := bind_eq_ok_iff.mp h
  obtain ⟨ls, rfl, hls⟩ := hoperand _ _ _ hleft
  obtain ⟨us, rfl, hus⟩ := derives_of_chain hnext hoperand (.tighter hnext hls) hchain
  exact ⟨ls ++ us, (List.append_assoc ..).symm, hus⟩

/-- The reader of a level reads what is derived at that level. -/
theorem Level.reads_reader (hinner : inner.Reads n) (place : Level) :
    Reads (place.reader inner) (Derives n place) := by
  have hunary := reads_unary hinner
  have horder := reads_level .order rfl hunary
  have hequality := reads_level .equality rfl horder
  have hand := reads_level .and rfl hequality
  cases place with
  | or => exact reads_level .or rfl hand
  | and => exact hand
  | equality => exact hequality
  | order => exact horder
  | unary => exact hunary
  | steps => exact reads_withSteps hinner
  | primary => exact reads_primary hinner

end reads

theorem reads_inner (n : Nat) : (inner n).Reads n := by
  induction n with
  | zero => exact ⟨fun _ _ _ h => (nomatch h), fun _ _ _ h => (nomatch h)⟩
  | succ n ih =>
    refine ⟨?_, ?_⟩
    · intro ts e rest h
      obtain ⟨us, hus, hderives⟩ := reads_unary ih ts e rest h
      exact ⟨us, hus, n, rfl, hderives⟩
    · intro ts e rest h
      obtain ⟨us, hus, hderives⟩ := Level.or.reads_reader ih ts e rest h
      exact ⟨us, hus, n, rfl, hderives⟩

/-! ### The bounds of the loops -/

/-- What is left when a reader has read is not more than there was. -/
theorem Reads.length_le {read : Parse} {writes : List Token → Expr → Prop} (h : Reads read writes)
    {ts rest : List Token} {e : Expr} (hread : read ts = .ok (e, rest)) :
    rest.length ≤ ts.length := by
  obtain ⟨us, rfl, -⟩ := h ts e rest hread
  rw [List.length_append]
  exact Nat.le_add_left _ _

section bounds

variable {operator? : Token → Option (Expr → Expr → Expr)} {operand : Parse} {inner : Inner}

/-- A chain ends before its bound does. -/
theorem chain_of_le (hoperand : ∀ {ts e rest}, operand ts = .ok (e, rest) →
    rest.length ≤ ts.length) {tries others : Nat} {left : Expr} {ts : List Token}
    (htries : ts.length ≤ tries) (hothers : ts.length ≤ others) :
    chain operator? operand tries left ts = chain operator? operand others left ts := by
  induction tries generalizing others left ts with
  | zero =>
    obtain rfl := List.eq_nil_of_length_eq_zero (Nat.le_zero.mp htries)
    cases others <;> rfl
  | succ tries ih =>
    cases ts with
    | nil => cases others <;> rfl
    | cons t ts =>
      obtain ⟨others, rfl⟩ : ∃ k, others = k + 1 := ⟨others - 1, by simp at hothers; omega⟩
      simp only [List.length_cons, Nat.add_le_add_iff_right] at htries hothers
      simp only [chain]
      cases operator? t with
      | none => rfl
      | some build =>
        cases hright : operand ts with
        | error fault => rfl
        | ok read =>
          have hle := hoperand hright
          exact ih (by omega) (by omega)

/-- Steps end before their bound does. -/
theorem steps_of_le (hinner : ∀ {ts e rest}, inner.expression ts = .ok (e, rest) →
    rest.length ≤ ts.length) {tries others : Nat} {target : Expr} {ts : List Token}
    (htries : ts.length ≤ tries) (hothers : ts.length ≤ others) :
    steps inner tries target ts = steps inner others target ts := by
  induction tries generalizing others target ts with
  | zero =>
    obtain rfl := List.eq_nil_of_length_eq_zero (Nat.le_zero.mp htries)
    cases others <;> rfl
  | succ tries ih =>
    cases others with
    | zero =>
      obtain rfl := List.eq_nil_of_length_eq_zero (Nat.le_zero.mp hothers)
      rfl
    | succ others =>
      rw [steps.eq_def, steps.eq_def inner (others + 1)]
      dsimp only
      split
      · simp only [List.length_cons] at htries hothers
        exact ih (by omega) (by omega)
      · rfl
      · rfl
      · rename_i after
        simp only [List.length_cons, Nat.add_le_add_iff_right] at htries hothers
        cases hkey : inner.expression after with
        | error fault => rfl
        | ok read =>
          have hle := hinner hkey
          cases hclosed : expectToken .closeBracket read.2 with
          | error fault => simp only [hclosed, bind, Except.bind]
          | ok rest =>
            have hrest := congrArg List.length (eq_cons_of_expectToken hclosed)
            rw [List.length_cons] at hrest
            simp only [hclosed, bind, Except.bind]
            exact ih (by omega) (by omega)
      · rfl

end bounds

namespace Level

variable {n : Nat}

/-- No loop is ended by its bound. -/
theorem loop_of_le (n : Nat) (place : Level) {tries : Nat} (e : Expr) {ts : List Token}
    (h : ts.length ≤ tries) :
    place.loop (inner n) tries e ts = place.loop (inner n) ts.length e ts := by
  have hreader : ∀ {tighter : Level} {ts : List Token} {e : Expr} {rest : List Token},
      tighter.reader (inner n) ts = .ok (e, rest) → rest.length ≤ ts.length :=
    fun hread => (reads_reader (reads_inner n) _).length_le hread
  cases place with
  | steps => exact steps_of_le (fun hread => (reads_inner n).expression.length_le hread) h (Nat.le_refl _)
  | or | and | equality | order | unary | primary => exact chain_of_le hreader h (Nat.le_refl _)

end Level

end HttpScenario.Script
