import HttpScenario.Proofs.Script.Reading
/-!
# Parsing and the grammar

The main statement is `parse_iff_derives`: parsing gives an expression exactly if the tokens write it
within the greatest depth, tokens never write two expressions, and no loop of the parser is ended by
its bound.

That what is read is derived was said before (`Level.reads_reader`).  The other direction is an
induction over derivations (`Derives.reader_append`).  Binary operators and steps are
left-associative, so a derivation ends with the last operator, whereas a reader starts with the first
operand.  The statement therefore says what becomes of the tokens of an expression and whatever
follows them: the reader of the level comes to where its loop goes on with that expression
(`Level.goOn`).  It is enough that what follows does not go on with a tighter part of the expression
(`Level.Ends`).
-/

namespace HttpScenario.Script

/-- The level whose expressions a token goes on with, if it goes on with any. -/
def Token.level? : Token → Option Level
  | .or => some .or
  | .and => some .and
  | .equal | .strictEqual | .notEqual | .strictNotEqual => some .equality
  | .less | .lessEqual | .greater | .greaterEqual => some .order
  | .dot | .openBracket => some .steps
  | _ => none

theorem Operator.level?_eq {place : Level} {t : Token} {build : Expr → Expr → Expr}
    (h : Operator place t build) : t.level? = some place := by
  cases h <;> rfl

namespace Level

/-- What follows an expression of a level does not go on with a tighter part of it. -/
def Ends (place : Level) (rest : List Token) : Prop :=
  ∀ t found, rest.head? = some t → t.level? = some found → found.rank ≤ place.rank

theorem Ends.mono {place tighter : Level} {rest : List Token} (h : place.Ends rest)
    (hle : place.rank ≤ tighter.rank) : tighter.Ends rest :=
  fun t found ht hfound => Nat.le_trans (h t found ht hfound) hle

theorem ends_nil (place : Level) : place.Ends [] :=
  fun _ _ h => nomatch h

theorem ends_cons {place : Level} {t : Token} (h : t.level? = none ∨ t.level? = some place)
    (rest : List Token) : place.Ends (t :: rest) := by
  intro u found hu hfound
  obtain rfl := Option.some.inj hu
  rcases h with h | h
  · rw [h] at hfound
    cases hfound
  · rw [h] at hfound
    exact Nat.le_of_eq (congrArg rank (Option.some.inj hfound).symm)

/-- Goes on with an expression of a level. -/
def goOn (inner : Inner) (place : Level) (e : Expr) : Parse :=
  fun ts => place.loop inner ts.length e ts

theorem goOn_of_level?_ne {inner : Inner} {place : Level} {rest : List Token} (e : Expr)
    (h : ∀ t, rest.head? = some t → t.level? ≠ some place) :
    place.goOn inner e rest = .ok (e, rest) := by
  unfold goOn
  cases rest with
  | nil => cases place <;> rfl
  | cons t rest =>
    have ht := h t rfl
    cases place <;> cases t <;> first | rfl | exact absurd rfl ht

theorem level_of_ok {operator? : Token → Option (Expr → Expr → Expr)} {operand : Parse}
    {ts rest : List Token} {e : Expr} (h : operand ts = .ok (e, rest)) :
    Script.level operator? operand ts = chain operator? operand rest.length e rest := by
  unfold Script.level
  rw [h]
  rfl

/-- A level goes on with what a tighter one has read. -/
theorem reader_of_next? {inner : Inner} {place tighter : Level}
    (hnext : place.next? = some tighter) {ts rest : List Token} {e : Expr}
    (h : tighter.reader inner ts = .ok (e, rest)) :
    place.reader inner ts = place.goOn inner e rest := by
  cases place with
  | primary => cases hnext
  | unary =>
    obtain rfl := Option.some.inj hnext
    rw [goOn_of_level?_ne e (by intro t _; cases t <;> exact nofun), ← h]
    -- a primary does not start with an operator
    cases ts with
    | nil => cases h
    | cons t ts => cases t <;> first | rfl | cases h
  | steps =>
    obtain rfl := Option.some.inj hnext
    change (Script.primary inner ts >>= _) = _
    rw [show Script.primary inner ts = _ from h]
    rfl
  | or | and | equality | order =>
    obtain rfl := Option.some.inj hnext
    exact level_of_ok h

section goOn

variable {n : Nat} {place tighter : Level} {left target key e : Expr} {ts rest : List Token}

/-- An operator is taken, and then its right operand is read. -/
theorem goOn_operator_eq {t : Token} {build : Expr → Expr → Expr} (hop : Operator place t build)
    (hnext : place.next? = some tighter) :
    place.goOn (inner n) left (t :: ts) =
      tighter.reader (inner n) ts >>= fun read =>
        place.loop (inner n) ts.length (build left read.1) read.2 := by
  cases hop <;> obtain rfl := Option.some.inj hnext <;> rfl

/-- An operator and its right operand are taken, and then what goes on with both. -/
theorem goOn_operator {t : Token} {build : Expr → Expr → Expr} {right : Expr}
    (hop : Operator place t build) (hnext : place.next? = some tighter)
    (hright : tighter.reader (inner n) ts = .ok (right, rest)) :
    place.goOn (inner n) left (t :: ts) = place.goOn (inner n) (build left right) rest := by
  have hle := (reads_reader (reads_inner n) tighter).length_le hright
  rw [goOn_operator_eq hop hnext, hright]
  exact loop_of_le n place (build left right) hle

theorem goOn_member (name : String) :
    steps.goOn (inner n) target (.dot :: .ident name :: ts) =
      steps.goOn (inner n) (.member target name) ts :=
  loop_of_le n steps (.member target name) (Nat.le_succ ts.length)

/-- A bracket is taken, and then what stands behind it is read. -/
theorem goOn_index_eq :
    steps.goOn (inner n) target (.openBracket :: ts) =
      (inner n).expression ts >>= fun read => expectToken .closeBracket read.2 >>= fun after =>
        steps.loop (inner n) ts.length (.index target read.1) after :=
  rfl

theorem goOn_index (hkey : (inner n).expression ts = .ok (key, .closeBracket :: rest)) :
    steps.goOn (inner n) target (.openBracket :: ts) =
      steps.goOn (inner n) (.index target key) rest := by
  have hle := (reads_inner n).expression.length_le hkey
  rw [goOn_index_eq, hkey]
  exact loop_of_le n steps (.index target key) (Nat.le_trans (Nat.le_succ _) hle)

end goOn

end Level

section complete

variable {n : Nat} {place tighter : Level} {us rest : List Token} {e : Expr}

/-- Nothing goes on with a tighter expression than the one that has ended. -/
theorem Level.Ends.goOn_tighter (h : place.Ends rest) (hnext : place.next? = some tighter) :
    tighter.goOn (inner n) e rest = .ok (e, rest) := by
  refine tighter.goOn_of_level?_ne e ?_
  intro t ht hlevel
  have hle := h t tighter ht hlevel
  rw [rank_of_next? hnext] at hle
  exact Nat.not_succ_le_self _ hle

theorem Level.Ends.next (h : place.Ends rest) (hnext : place.next? = some tighter) :
    tighter.Ends rest :=
  h.mono (rank_of_next? hnext ▸ Nat.le_succ place.rank)

theorem Level.goOn_unary : Level.unary.goOn (inner n) e rest = .ok (e, rest) :=
  goOn_of_level?_ne e fun t _ => by cases t <;> exact nofun

theorem Level.goOn_primary : Level.primary.goOn (inner n) e rest = .ok (e, rest) :=
  goOn_of_level?_ne e fun t _ => by cases t <;> exact nofun

/-- What is derived at a level is read there, up to what goes on with it. -/
theorem Derives.reader_append (h : Derives n place us e) (hends : place.Ends rest) :
    place.reader (inner n) (us ++ rest) = place.goOn (inner n) e rest := by
  induction h generalizing rest with
  | tighter hnext _ ih =>
    refine Level.reader_of_next? hnext ?_
    rw [ih (hends.next hnext), hends.goOn_tighter hnext]
  | binary hop hnext _ _ ihleft ihright =>
    have hright := ihright (hends.next hnext)
    rw [hends.goOn_tighter hnext] at hright
    rw [List.append_assoc, List.cons_append, ihleft (Level.ends_cons (Or.inr hop.level?_eq) _),
      Level.goOn_operator hop hnext hright]
  | @not n ts operand _ ih =>
    have hoperand := ih hends
    rw [Level.goOn_unary] at hoperand ⊢
    change ((Level.unary.reader (inner n) (ts ++ rest)) >>= _) = _
    rw [hoperand]
    rfl
  | @neg n ts operand _ ih =>
    have hoperand := ih hends
    rw [Level.goOn_unary] at hoperand ⊢
    change ((Level.unary.reader (inner n) (ts ++ rest)) >>= _) = _
    rw [hoperand]
    rfl
  | member name _ ih =>
    rw [List.append_assoc, List.cons_append, List.singleton_append,
      ih (Level.ends_cons (Or.inr rfl) _)]
    exact Level.goOn_member name
  | @index n ts us target key _ _ ihtarget ihkey =>
    have hends : Level.or.Ends (.closeBracket :: rest) := Level.ends_cons (Or.inl rfl) rest
    have hkey := ihkey hends
    rw [Level.goOn_of_level?_ne key (by rintro t ⟨⟩; exact nofun)] at hkey
    rw [List.append_assoc, List.cons_append, List.append_assoc, List.singleton_append,
      ihtarget (Level.ends_cons (Or.inr rfl) _)]
    exact Level.goOn_index hkey
  | number n value => exact Level.goOn_primary.symm
  | text n value => exact Level.goOn_primary.symm
  | trueName n => exact Level.goOn_primary.symm
  | falseName n => exact Level.goOn_primary.symm
  | nullName n => exact Level.goOn_primary.symm
  | undefinedName n => exact Level.goOn_primary.symm
  | @otherName n name hname =>
    rw [Level.goOn_primary, ← nameExpr_of_not_mem hname]
    rfl
  | @parens n ts e _ ih =>
    have hends : Level.or.Ends (.closeParen :: rest) := Level.ends_cons (Or.inl rfl) rest
    have hcontent := ih hends
    rw [Level.goOn_of_level?_ne e (by rintro t ⟨⟩; exact nofun)] at hcontent
    rw [Level.goOn_primary, List.cons_append, List.append_assoc]
    change (Level.or.reader (inner n) (ts ++ .closeParen :: rest) >>= _) = _
    rw [hcontent]
    rfl

end complete

/-! ### Parsing -/

/-- A derivation of whatever depth is read by the reader for that depth. -/
theorem Derives.expression_eq {n : Nat} {ts : List Token} {e : Expr} (h : Derives n .or ts e) :
    expression (inner n) ts = .ok (e, []) := by
  have hread := h.reader_append (Level.ends_nil _)
  rw [List.append_nil] at hread
  exact hread

theorem Derives.unique {n m : Nat} {ts : List Token} {e f : Expr} (h : Derives n .or ts e)
    (h' : Derives m .or ts f) : e = f := by
  have he := (h.mono (Nat.le_max_left n m)).expression_eq
  rw [(h'.mono (Nat.le_max_right n m)).expression_eq] at he
  exact (congrArg Prod.fst (Except.ok.inj he)).symm

/-- The whole of some tokens is parsed exactly if they write an expression within the greatest
depth. -/
theorem parse_eq_ok_iff {ts : List Token} {e : Expr} :
    parse ts = .ok e ↔ Derives maxDepth .or ts e := by
  unfold parse
  constructor
  · intro h
    cases hread : expression (inner maxDepth) ts with
    | error fault =>
      rw [hread] at h
      cases h
    | ok read =>
      obtain ⟨e', rest⟩ := read
      rw [hread] at h
      cases rest with
      | nil =>
        obtain rfl := Except.ok.inj h
        obtain ⟨us, rfl, hus⟩ := Level.or.reads_reader (reads_inner maxDepth) ts e' [] hread
        rw [List.append_nil]
        exact hus
      | cons t rest => cases h
  · intro h
    rw [h.expression_eq]

/-- Parsing finds the one expression that tokens write within the greatest depth, if there is one;
tokens write at most one expression at whatever depth; and each loop of the parser ends of itself,
so that a greater bound changes nothing. -/
theorem parse_iff_derives (ts : List Token) :
    (∀ e, parse ts = .ok e ↔ Derives maxDepth .or ts e) ∧
      (∀ n m e f, Derives n .or ts e → Derives m .or ts f → e = f) ∧
      ∀ n (place : Level) tries e, ts.length ≤ tries →
        place.loop (inner n) tries e ts = place.loop (inner n) ts.length e ts :=
  ⟨fun _ => parse_eq_ok_iff, fun _ _ _ _ he hf => he.unique hf,
    fun n place _ e hle => place.loop_of_le n e hle⟩

end HttpScenario.Script
