import HttpScenario.Proofs.Script.Ending
/-!
# Where parsing fails

Tokens are viable (`Viable`) if an expression starts with them.  Parsing fails at the earliest place
it could (`parse_fails_earliest`): what stands before the token that a fault is about is viable
within the greatest depth, and with that token it is not, either at no depth at all
(`unexpectedToken`) or within the greatest depth only (`tooDeep`).  The end of the tokens is a fault
if they are viable.

What a fault of a reader says is put together in `Fails`, for each level and depth: what stands before
the place of the fault is viable, and the fault is the same whatever follows that place.  The second
half is how it is known that nothing viable was refused, since an expression that did start so would
be read (`Derives.expression_eq`).  Both halves go with the parts of an expression to the whole
(`Fails.within`), and `fails_reader` is an induction over the depth with one step for each level.

Where a reader ends without a fault, nothing goes on with what it has read (`Level.stops_reader`); so
a token that stands there instead of a closing one, or of the end, is a fault whatever follows it.
-/

namespace HttpScenario.Script

/-! ### Viable tokens -/

/-- An expression of a level starts with some tokens, or is all of them. -/
def Viable (n : Nat) (place : Level) (ts : List Token) : Prop :=
  ∃ us e, Derives n place (ts ++ us) e

theorem Derives.viable {n : Nat} {place : Level} {ts : List Token} {e : Expr}
    (h : Derives n place ts e) : Viable n place ts :=
  ⟨[], e, by rwa [List.append_nil]⟩

section viable

variable {n m : Nat} {place tighter : Level} {ts us : List Token}

theorem Viable.mono (h : Viable n place ts) (hle : n ≤ m) : Viable m place ts := by
  obtain ⟨us, e, hderives⟩ := h
  exact ⟨us, e, hderives.mono hle⟩

theorem Viable.of_append (h : Viable n place (ts ++ us)) : Viable n place ts := by
  obtain ⟨vs, e, hderives⟩ := h
  rw [List.append_assoc] at hderives
  exact ⟨us ++ vs, e, hderives⟩

theorem Viable.of_prefix (h : Viable n place ts) (hfront : us <+: ts) : Viable n place us := by
  obtain ⟨vs, rfl⟩ := hfront
  exact h.of_append

theorem derives_text (n : Nat) (place : Level) :
    Derives n place [.text ""] (.literal (.str "")) := by
  apply (Derives.text n "").loosen
  cases place <;> decide

theorem viable_nil (n : Nat) (place : Level) : Viable n place [] :=
  ⟨_, _, derives_text n place⟩

theorem Viable.looser (hnext : place.next? = some tighter) (h : Viable n tighter ts) :
    Viable n place ts := by
  obtain ⟨us, e, hderives⟩ := h
  exact ⟨us, e, .tighter hnext hderives⟩

/-- A right operand goes on with what stands before it. -/
theorem Viable.operand {left : Expr} {t : Token} {build : Expr → Expr → Expr}
    (hop : Operator place t build) (hnext : place.next? = some tighter)
    (hleft : Derives n place ts left) (h : Viable n tighter us) :
    Viable n place (ts ++ t :: us) := by
  obtain ⟨vs, e, hderives⟩ := h
  refine ⟨vs, build left e, ?_⟩
  rw [List.append_assoc, List.cons_append]
  exact .binary hop hnext hleft hderives

theorem Viable.parens (h : Viable n .or ts) : Viable (n + 1) .primary (.openParen :: ts) := by
  obtain ⟨us, e, hderives⟩ := h
  refine ⟨us ++ [.closeParen], e, ?_⟩
  rw [List.cons_append, ← List.append_assoc]
  exact .parens hderives

theorem Viable.brackets {target : Expr} (htarget : Derives (n + 1) .steps ts target)
    (h : Viable n .or us) : Viable (n + 1) .steps (ts ++ .openBracket :: us) := by
  obtain ⟨vs, key, hderives⟩ := h
  refine ⟨vs ++ [.closeBracket], .index target key, ?_⟩
  rw [List.append_assoc, List.cons_append, ← List.append_assoc]
  exact .index htarget hderives

theorem Viable.unary {t : Token} {build : Expr → Expr} (hop : UnaryOperator t build)
    (h : Viable n .unary ts) :
    Viable (n + 1) .unary (t :: ts) := by
  obtain ⟨us, e, hderives⟩ := h
  cases hop with
  | not => exact ⟨us, _, .not hderives⟩
  | neg => exact ⟨us, _, .neg hderives⟩

end viable

/-! ### Faults and what stands around them -/

/-- How the reader of a level fails for a depth: what stands before the place of the fault is
viable, and there is the same fault whatever follows that place, for a greater depth too unless the
fault is the depth itself. -/
inductive Fails (n : Nat) (place : Level) : List Token → Fault → Prop
  | atEnd {ts : List Token} (h : Viable n place ts) : Fails n place ts .unexpectedEnd
  | atToken {us rest : List Token} {t : Token} (h : Viable n place us)
      (hany : ∀ more others, place.reader (inner (n + more)) (us ++ t :: others) =
        .error (.unexpectedToken t.describe)) :
      Fails n place (us ++ t :: rest) (.unexpectedToken t.describe)
  | tooDeep {us rest : List Token} {t : Token} (h : Viable n place us)
      (hany : ∀ others, place.reader (inner n) (us ++ t :: others) = .error .tooDeep)
      (hdeeper : Viable (n + 1) place (us ++ [t])) : Fails n place (us ++ t :: rest) .tooDeep

section fails

variable {n : Nat} {place tighter : Level} {done ts : List Token} {target left : Expr}
  {fault : Fault}

/-- A fault in a part of an expression is one of the whole, if what is viable in the part is so in
the whole, and the reader of the whole fails where that of the part does.  What the part starts
with may matter to the reader of the whole. -/
theorem Fails.within {m : Nat} {outer : Level} {front : List Token} (h : Fails n place ts fault)
    (hviable : ∀ more us, Viable (n + more) place us → Viable (m + more) outer (front ++ us))
    (hfails : ∀ more us fault, us.head? = ts.head? →
      place.reader (inner (n + more)) us = .error fault →
        outer.reader (inner (m + more)) (front ++ us) = .error fault) :
    Fails m outer (front ++ ts) fault := by
  have hhead : ∀ us (t : Token) rest others,
      (us ++ t :: others).head? = (us ++ t :: rest).head? := by
    intro us t rest others
    cases us <;> rfl
  cases h with
  | atEnd h => exact .atEnd (hviable 0 ts h)
  | @atToken us rest t h hany =>
    rw [← List.append_assoc]
    refine .atToken (hviable 0 us h) ?_
    intro more others
    rw [List.append_assoc]
    exact hfails more _ _ (hhead us t rest others) (hany more others)
  | @tooDeep us rest t h hany hdeeper =>
    rw [← List.append_assoc]
    refine .tooDeep (hviable 0 us h) ?_ ?_
    · intro others
      rw [List.append_assoc]
      exact hfails 0 _ _ (hhead us t rest others) (hany others)
    · rw [List.append_assoc]
      exact hviable 1 _ hdeeper

theorem Fails.looser (h : Fails n tighter ts fault) (hnext : place.next? = some tighter)
    (hplain : place = .unary → ∀ t build, UnaryOperator t build → ts.head? ≠ some t) :
    Fails n place ts fault := by
  show Fails n place ([] ++ ts) fault
  apply h.within
  · intro more us hus
    exact hus.looser hnext
  · intro more us fault hhead hread
    rw [List.nil_append]
    cases place with
    | primary => cases hnext
    | unary =>
      obtain rfl := Option.some.inj hnext
      refine (unary_eq_withSteps _ ?_).trans hread
      rw [hhead]
      exact hplain rfl
    | or | and | equality | order | steps =>
      obtain rfl := Option.some.inj hnext
      exact bind_eq_error_iff.mpr (Or.inl hread)

theorem Fails.operand {t : Token} {build : Expr → Expr → Expr} (h : Fails n tighter ts fault)
    (hop : Operator place t build) (hnext : place.next? = some tighter)
    (hleft : Derives n place done left) : Fails n place (done ++ t :: ts) fault := by
  rw [List.append_cons]
  apply h.within
  · intro more us hus
    rw [← List.append_cons]
    exact .operand hop hnext (hleft.mono (Nat.le_add_right n more)) hus
  · intro more us fault _ hread
    rw [← List.append_cons, (hleft.mono (Nat.le_add_right n more)).reader_append
      (Level.ends_cons (Or.inr hop.level?_eq) us), Level.goOn_operator_eq hop hnext]
    exact bind_eq_error_iff.mpr (Or.inl hread)

theorem Fails.unary {t : Token} {build : Expr → Expr} (h : Fails n .unary ts fault)
    (hop : UnaryOperator t build) : Fails (n + 1) .unary (t :: ts) fault := by
  show Fails (n + 1) .unary ([t] ++ ts) fault
  apply h.within
  · intro more us hus
    rw [Nat.add_right_comm]
    exact hus.unary hop
  · intro more us fault _ hread
    rw [Nat.add_right_comm]
    exact (hop.unary_eq _ us).trans (bind_eq_error_iff.mpr (Or.inl hread))

theorem Fails.parens (h : Fails n .or ts fault) :
    Fails (n + 1) .primary (.openParen :: ts) fault := by
  show Fails (n + 1) .primary ([.openParen] ++ ts) fault
  apply h.within
  · intro more us hus
    rw [Nat.add_right_comm]
    exact hus.parens
  · intro more us fault _ hread
    rw [Nat.add_right_comm]
    exact bind_eq_error_iff.mpr (Or.inl hread)

theorem Fails.brackets (h : Fails n .or ts fault) (htarget : Derives (n + 1) .steps done target) :
    Fails (n + 1) .steps (done ++ .openBracket :: ts) fault := by
  rw [List.append_cons]
  apply h.within
  · intro more us hus
    rw [← List.append_cons, Nat.add_right_comm]
    exact hus.brackets (htarget.mono (by omega))
  · intro more us fault _ hread
    have hmore : Derives (n + more + 1) .steps done target := htarget.mono (by omega)
    rw [← List.append_cons, Nat.add_right_comm,
      hmore.reader_append (Level.ends_cons (Or.inr rfl) us), Level.goOn_index_eq]
    exact bind_eq_error_iff.mpr (Or.inl hread)

/-- What stands where a closing token should is a fault, and so is the end. -/
theorem fails_of_expectToken {front rest : List Token} {close : Token}
    (hviable : Viable n place front)
    (hread : ∀ more rest fault, Level.or.Stops rest → expectToken close rest = .error fault →
      place.reader (inner (n + more)) (front ++ rest) = .error fault)
    (hstops : Level.or.Stops rest) (h : expectToken close rest = .error fault) :
    Fails n place (front ++ rest) fault := by
  cases rest with
  | nil =>
    cases h
    rw [List.append_nil]
    exact .atEnd hviable
  | cons t rest =>
    by_cases ht : t = close
    · rw [expectToken, if_pos ht] at h
      cases h
    · have hfault : ∀ others,
          expectToken close (t :: others) = .error (.unexpectedToken t.describe) :=
        fun others => if_neg ht
      rw [hfault] at h
      cases h
      refine .atToken hviable ?_
      intro more others
      exact hread more _ _ (hstops.of_head others) (hfault others)

end fails

/-! ### The readers of the levels -/

/-- Each reader for a depth fails as said. -/
def AllFail (n : Nat) : Prop :=
  ∀ (place : Level) {ts : List Token} {fault : Fault}, place.reader (inner n) ts = .error fault →
    Fails n place ts fault

section readers

variable {n : Nat} {place tighter : Level} {done ts : List Token} {target left : Expr}
  {fault : Fault} (hinner : ∀ {m}, n = m + 1 → AllFail m)

include hinner

theorem fails_parens (h : primary (inner n) (.openParen :: ts) = .error fault) :
    Fails n .primary (.openParen :: ts) fault := by
  cases n with
  | zero =>
    cases h
    show Fails 0 .primary ([] ++ .openParen :: ts) .tooDeep
    exact .tooDeep (viable_nil 0 .primary) (fun _ => rfl) (viable_nil 0 .or).parens
  | succ n =>
    rcases bind_eq_error_iff.mp h with hcontent | ⟨⟨e, rest⟩, hcontent, hclose⟩
    · exact (hinner rfl .or hcontent).parens
    · obtain ⟨us, rfl, hus⟩ := Level.or.reads_reader (reads_inner n) _ _ _ hcontent
      have hclosed : expectToken .closeParen rest = .error fault := by
        rcases bind_eq_error_iff.mp hclose with hclosed | ⟨after, _, hok⟩
        · exact hclosed
        · cases hok
      show Fails (n + 1) .primary ((.openParen :: us) ++ rest) fault
      refine fails_of_expectToken hus.viable.parens ?_ (Level.stops_reader n hcontent) hclosed
      intro more rest fault hstops hfault
      have hread := (hus.mono (Nat.le_add_right n more)).reader_of_stops hstops
      rw [Nat.add_right_comm]
      exact bind_eq_error_iff.mpr (Or.inr ⟨_, hread, bind_eq_error_iff.mpr (Or.inl hfault)⟩)

theorem fails_primary (h : primary (inner n) ts = .error fault) : Fails n .primary ts fault := by
  cases ts with
  | nil =>
    cases h
    exact .atEnd (viable_nil n .primary)
  | cons t ts =>
    cases t with
    | number | text | ident => cases h
    | openParen => exact fails_parens hinner h
    | _ =>
      cases h
      show Fails n .primary ([] ++ _ :: ts) _
      exact .atToken (viable_nil n .primary) fun _ _ => rfl

theorem fails_brackets {tries : Nat} (hdone : Derives n .steps done target)
    (hsteps : ∀ {us rest key}, Derives n .steps us (.index target key) →
      steps (inner n) tries (.index target key) rest = .error fault →
        Fails n .steps (us ++ rest) fault)
    (h : steps (inner n) (tries + 1) target (.openBracket :: ts) = .error fault) :
    Fails n .steps (done ++ .openBracket :: ts) fault := by
  cases n with
  | zero =>
    cases h
    refine .tooDeep hdone.viable ?_ ((viable_nil 0 .or).brackets hdone.succ)
    intro others
    rw [hdone.reader_append (Level.ends_cons (Or.inr rfl) others)]
    rfl
  | succ n =>
    rcases bind_eq_error_iff.mp h with hkey | ⟨⟨key, rest⟩, hkey, hclose⟩
    · exact (hinner rfl .or hkey).brackets hdone
    · obtain ⟨us, rfl, hus⟩ := Level.or.reads_reader (reads_inner n) _ _ _ hkey
      rcases bind_eq_error_iff.mp hclose with hclosed | ⟨after, hclosed, hafter⟩
      · rw [← List.cons_append, ← List.append_assoc]
        refine fails_of_expectToken (hus.viable.brackets hdone) ?_ (Level.stops_reader n hkey) hclosed
        intro more rest fault hstops hfault
        have hread := (hus.mono (Nat.le_add_right n more)).reader_of_stops hstops
        have hmore : Derives (n + more + 1) .steps done target := hdone.mono (by omega)
        rw [Nat.add_right_comm, List.append_assoc, List.cons_append,
          hmore.reader_append (Level.ends_cons (Or.inr rfl) _), Level.goOn_index_eq]
        exact bind_eq_error_iff.mpr (Or.inr ⟨_, hread, bind_eq_error_iff.mpr (Or.inl hfault)⟩)
      · obtain rfl := eq_cons_of_expectToken hclosed
        have hwhole := hsteps (.index hdone hus) hafter
        simpa using hwhole

omit hinner in
theorem fails_dot {t : Token} (hname : ∀ name, t ≠ .ident name)
    (hdone : Derives n .steps done target) :
    Fails n .steps (done ++ .dot :: t :: ts) (.unexpectedToken t.describe) := by
  have hmember := (Derives.member "" hdone).viable
  rw [List.append_cons]
  rw [List.append_cons] at hmember
  refine .atToken hmember.of_append ?_
  intro more others
  have hmore : Derives (n + more) .steps done target := hdone.mono (Nat.le_add_right n more)
  rw [← List.append_cons, hmore.reader_append (Level.ends_cons (Or.inr rfl) _)]
  cases t with
  | ident name => exact absurd rfl (hname name)
  | _ => rfl

theorem fails_steps {tries : Nat} (hdone : Derives n .steps done target)
    (h : steps (inner n) tries target ts = .error fault) : Fails n .steps (done ++ ts) fault := by
  induction tries generalizing done ts target with
  | zero => cases h
  | succ tries ih =>
    cases ts with
    | nil => cases h
    | cons t ts =>
      cases t with
      | dot =>
        cases ts with
        | nil =>
          cases h
          have hmember := (Derives.member "" hdone).viable
          rw [List.append_cons] at hmember
          exact .atEnd hmember.of_append
        | cons u ts =>
          by_cases hname : ∃ name, u = .ident name
          · obtain ⟨name, rfl⟩ := hname
            have hwhole := ih (.member name hdone) h
            simpa using hwhole
          · have hfault : fault = .unexpectedToken u.describe := by
              cases u with
              | ident name => exact absurd ⟨name, rfl⟩ hname
              | _ =>
                cases h
                rfl
            rw [hfault]
            exact fails_dot (fun name hu => hname ⟨name, hu⟩) hdone
      | openBracket => exact fails_brackets hinner hdone ih h
      | _ => cases h

theorem fails_withSteps (h : withSteps (inner n) ts = .error fault) : Fails n .steps ts fault := by
  rcases bind_eq_error_iff.mp h with hprimary | ⟨⟨target, rest⟩, hprimary, hsteps⟩
  · exact (fails_primary hinner hprimary).looser rfl nofun
  · obtain ⟨us, rfl, hus⟩ := Level.primary.reads_reader (reads_inner n) _ _ _ hprimary
    exact fails_steps hinner (.tighter rfl hus) hsteps

theorem fails_unary (h : unary (inner n) ts = .error fault) : Fails n .unary ts fault := by
  rcases UnaryOperator.starts_or ts with ⟨t, build, ts, hop, rfl⟩ | hplain
  · rw [hop.unary_eq] at h
    rcases bind_eq_error_iff.mp h with hoperand | ⟨read, _, hok⟩
    · cases n with
      | zero =>
        cases hoperand
        show Fails 0 .unary ([] ++ t :: ts) .tooDeep
        refine .tooDeep (viable_nil 0 .unary) ?_ ((viable_nil 0 .unary).unary hop)
        intro others
        exact hop.unary_eq _ others
      | succ n => exact (hinner rfl .unary hoperand).unary hop
    · cases hok
  · rw [unary_eq_withSteps _ hplain] at h
    exact (fails_withSteps hinner h).looser rfl fun _ => hplain

omit hinner in
theorem fails_chain (hnext : place.next? = some tighter)
    (hoperand : ∀ {ts fault}, tighter.reader (inner n) ts = .error fault → Fails n tighter ts fault)
    {tries : Nat} (hdone : Derives n place done left)
    (h : chain place.operator? (tighter.reader (inner n)) tries left ts = .error fault) :
    Fails n place (done ++ ts) fault := by
  induction tries generalizing done ts left with
  | zero => cases h
  | succ tries ih =>
    rw [chain.eq_def] at h
    dsimp only at h
    split at h
    · cases h
    · split at h
      · cases h
      · rename_i build hop
        have hop := Level.operator?_eq_some_iff.mp hop
        rcases bind_eq_error_iff.mp h with hright | ⟨⟨right, after⟩, hright, hchain⟩
        · exact (hoperand hright).operand hop hnext hdone
        · obtain ⟨us, rfl, hus⟩ := tighter.reads_reader (reads_inner n) _ _ _ hright
          have hwhole := ih (.binary hop hnext hdone hus) hchain
          simpa using hwhole

omit hinner in
theorem fails_level (hnext : place.next? = some tighter) (hplace : place ≠ .unary)
    (hoperand : ∀ {ts fault}, tighter.reader (inner n) ts = .error fault → Fails n tighter ts fault)
    (h : level place.operator? (tighter.reader (inner n)) ts = .error fault) :
    Fails n place ts fault := by
  rcases bind_eq_error_iff.mp h with hleft | ⟨⟨left, rest⟩, hleft, hchain⟩
  · exact (hoperand hleft).looser hnext fun heq => absurd heq hplace
  · obtain ⟨us, rfl, hus⟩ := tighter.reads_reader (reads_inner n) _ _ _ hleft
    exact fails_chain hnext hoperand (.tighter hnext hus) hchain

theorem allFail_of_inner : AllFail n := by
  have hunary : ∀ {ts fault}, Level.unary.reader (inner n) ts = .error fault →
      Fails n .unary ts fault := fun h => fails_unary hinner h
  have horder : ∀ {ts fault}, Level.order.reader (inner n) ts = .error fault →
      Fails n .order ts fault := fun h => fails_level rfl nofun hunary h
  have hequality : ∀ {ts fault}, Level.equality.reader (inner n) ts = .error fault →
      Fails n .equality ts fault := fun h => fails_level rfl nofun horder h
  have hand : ∀ {ts fault}, Level.and.reader (inner n) ts = .error fault →
      Fails n .and ts fault := fun h => fails_level rfl nofun hequality h
  intro place ts fault h
  cases place with
  | or => exact fails_level rfl nofun hand h
  | and => exact hand h
  | equality => exact hequality h
  | order => exact horder h
  | unary => exact hunary h
  | steps => exact fails_withSteps hinner h
  | primary => exact fails_primary hinner h

end readers

/-- Every fault of a reader is at the earliest place. -/
theorem allFail (n : Nat) : AllFail n := by
  induction n with
  | zero => exact allFail_of_inner fun hm => absurd hm.symm (Nat.succ_ne_zero _)
  | succ n ih =>
    refine allFail_of_inner ?_
    intro m hm
    obtain rfl := Nat.succ.inj hm
    exact ih

/-! ### Parsing -/

/-- Why tokens are refused.  The place of the fault is that of the first token with which they are
not viable within the greatest depth. -/
inductive Refused (ts : List Token) : Fault → Prop
  | atEnd (h : Viable maxDepth .or ts) : Refused ts .unexpectedEnd
  | atToken {i : Nat} {t : Token} (ht : ts[i]? = some t) (h : Viable maxDepth .or (ts.take i))
      (hnone : ∀ n, ¬ Viable n .or (ts.take (i + 1))) : Refused ts (.unexpectedToken t.describe)
  | tooDeep {i : Nat} (hi : i < ts.length) (h : Viable maxDepth .or (ts.take i))
      (hnone : ¬ Viable maxDepth .or (ts.take (i + 1)))
      (hdeeper : ∃ n, Viable n .or (ts.take (i + 1))) : Refused ts .tooDeep

section refused

variable {n : Nat} {ts us rest : List Token} {t : Token} {fault other : Fault}

theorem not_viable_of_expression
    (h : ∀ others e, expression (inner n) (us ++ t :: others) ≠ .ok (e, [])) :
    ¬ Viable n .or (us ++ [t]) := by
  rintro ⟨others, e, hderives⟩
  rw [← List.append_cons] at hderives
  exact h others e hderives.expression_eq

/-- What is read to its end at no depth from some depth on is not viable at any depth. -/
theorem not_viable_of_expression_add (n : Nat) (h : ∀ more others e,
    expression (inner (n + more)) (us ++ t :: others) ≠ .ok (e, [])) (m : Nat) :
    ¬ Viable m .or (us ++ [t]) := by
  intro hviable
  have hmore : Viable (n + m) .or (us ++ [t]) := hviable.mono (Nat.le_add_left m n)
  exact not_viable_of_expression (h m) hmore

theorem take_length_succ : (us ++ t :: rest).take (us.length + 1) = us ++ [t] := by
  rw [List.append_cons, List.take_left' (by simp)]

theorem Refused.of_token (h : Viable maxDepth .or us)
    (hnone : ∀ n, ¬ Viable n .or (us ++ [t])) :
    Refused (us ++ t :: rest) (.unexpectedToken t.describe) := by
  refine .atToken (i := us.length) (by simp) ?_ ?_
  · rwa [List.take_left]
  · rwa [take_length_succ]

/-- Tokens that are not parsed are refused for a reason. -/
theorem refused_of_parse (h : parse ts = .error fault) : Refused ts fault := by
  unfold parse at h
  split at h
  · rename_i hread
    cases h
    have hfails : Fails maxDepth .or ts fault := allFail maxDepth .or hread
    cases hfails with
    | atEnd h => exact .atEnd h
    | atToken h hany =>
      refine .of_token h (not_viable_of_expression_add maxDepth ?_)
      intro more others e hok
      cases (hany more others).symm.trans hok
    | @tooDeep us rest t h hany hdeeper =>
      have hnone : ¬ Viable maxDepth .or (us ++ [t]) := by
        apply not_viable_of_expression
        intro others e hok
        cases (hany others).symm.trans hok
      rw [← take_length_succ] at hnone hdeeper
      refine .tooDeep (by simp) ?_ hnone ⟨_, hdeeper⟩
      rwa [List.take_left]
  · cases h
  · -- a token follows the expression
    rename_i e t rest hread
    cases h
    change Level.or.reader (inner maxDepth) ts = _ at hread
    obtain ⟨us, rfl, hus⟩ := Level.or.reads_reader (reads_inner maxDepth) _ _ _ hread
    have hstops := Level.stops_reader maxDepth hread
    refine .of_token hus.viable (not_viable_of_expression_add maxDepth ?_)
    intro more others e' hok
    have hmore := (hus.mono (Nat.le_add_right maxDepth more)).reader_of_stops (hstops.of_head others)
    cases hmore.symm.trans hok

theorem le_of_viable_take {i j : Nat} (hi : Viable n .or (ts.take i))
    (hj : ¬ Viable n .or (ts.take (j + 1))) : i ≤ j := by
  refine Nat.le_of_not_lt fun hlt => hj ?_
  exact hi.of_prefix (List.take_prefix_take_left hlt)

/-- There is one reason at most. -/
theorem Refused.unique (h : Refused ts fault) (h' : Refused ts other) : fault = other := by
  have hend : ∀ {j}, Viable maxDepth .or ts → ¬ Viable maxDepth .or (ts.take (j + 1)) → False :=
    fun hts hj => hj (hts.of_prefix (List.take_prefix ..))
  cases h with
  | atEnd h =>
    cases h' with
    | atEnd => rfl
    | atToken _ _ hnone => exact (hend h (hnone maxDepth)).elim
    | tooDeep _ _ hnone _ => exact (hend h hnone).elim
  | @atToken i t ht h hnone =>
    cases h' with
    | atEnd h' => exact (hend h' (hnone maxDepth)).elim
    | @atToken j u hu h' hnone' =>
      obtain rfl : i = j := Nat.le_antisymm (le_of_viable_take h (hnone' maxDepth))
        (le_of_viable_take h' (hnone maxDepth))
      rw [ht] at hu
      rw [Option.some.inj hu]
    | @tooDeep j _ h' hnone' hdeeper =>
      obtain rfl : i = j := Nat.le_antisymm (le_of_viable_take h hnone')
        (le_of_viable_take h' (hnone maxDepth))
      obtain ⟨m, hm⟩ := hdeeper
      exact absurd hm (hnone m)
  | @tooDeep i _ h hnone hdeeper =>
    cases h' with
    | atEnd h' => exact (hend h' hnone).elim
    | @atToken j u _ h' hnone' =>
      obtain rfl : i = j := Nat.le_antisymm (le_of_viable_take h (hnone' maxDepth))
        (le_of_viable_take h' hnone)
      obtain ⟨m, hm⟩ := hdeeper
      exact absurd hm (hnone' m)
    | tooDeep => rfl

/-- Tokens that write no expression within the greatest depth are refused, for the reason there is. -/
theorem parse_eq_error_iff (hts : ∀ e, ¬ Derives maxDepth .or ts e) :
    parse ts = .error fault ↔ Refused ts fault := by
  constructor
  · exact refused_of_parse
  · intro h
    cases hparse : parse ts with
    | ok e => exact absurd (parse_eq_ok_iff.mp hparse) (hts e)
    | error other => rw [h.unique (refused_of_parse hparse)]

end refused

/-- Parsing tokens that write no expression within the greatest depth fails at the earliest place:
at their end exactly if there is a way to go on with them; at a token exactly if there is one before
it and, together with it, none at whatever depth; and for the depth exactly if, with the first token
with which there is no way to go on within the greatest depth, there is one at a greater depth. -/
theorem parse_fails_earliest (ts : List Token) (hts : ∀ e, ¬ Derives maxDepth .or ts e) :
    (parse ts = .error .unexpectedEnd ↔ ∃ us e, us ≠ [] ∧ Derives maxDepth .or (ts ++ us) e) ∧
      (∀ description, parse ts = .error (.unexpectedToken description) ↔
        ∃ i t, ts[i]? = some t ∧ description = t.describe ∧ Viable maxDepth .or (ts.take i) ∧
          ∀ n, ¬ Viable n .or (ts.take (i + 1))) ∧
      (parse ts = .error .tooDeep ↔
        ∃ i, i < ts.length ∧ Viable maxDepth .or (ts.take i) ∧
          ¬ Viable maxDepth .or (ts.take (i + 1)) ∧ ∃ n, Viable n .or (ts.take (i + 1))) := by
  refine ⟨?_, ?_, ?_⟩
  · rw [parse_eq_error_iff hts]
    constructor
    · rintro ⟨us, e, hderives⟩
      refine ⟨us, e, ?_, hderives⟩
      rintro rfl
      rw [List.append_nil] at hderives
      exact hts e hderives
    · rintro ⟨us, e, -, hderives⟩
      exact .atEnd ⟨us, e, hderives⟩
  · intro description
    rw [parse_eq_error_iff hts]
    constructor
    · intro h
      cases h with
      | atToken ht hviable hnone => exact ⟨_, _, ht, rfl, hviable, hnone⟩
    · rintro ⟨i, t, ht, rfl, hviable, hnone⟩
      exact .atToken ht hviable hnone
  · rw [parse_eq_error_iff hts]
    constructor
    · intro h
      cases h with
      | tooDeep hi hviable hnone hdeeper => exact ⟨_, hi, hviable, hnone, hdeeper⟩
    · rintro ⟨i, hi, hviable, hnone, hdeeper⟩
      exact .tooDeep hi hviable hnone hdeeper

/-- An operand is missing. -/
theorem parse_fails_earliest_of_operand :
    (∀ e, ¬ Derives maxDepth .or [.ident "id", .strictEqual] e) ∧
      parse [.ident "id", .strictEqual] = .error .unexpectedEnd := by
  have hts : ∀ e, ¬ Derives maxDepth .or [.ident "id", .strictEqual] e := by
    intro e h
    cases h.expression_eq
  have hname : Derives maxDepth .equality [.ident "id"] (.variable "id") :=
    (Derives.otherName maxDepth (by decide)).loosen (by decide)
  have hwhole : Derives maxDepth .or [.ident "id", .strictEqual, .text ""] _ :=
    (Derives.binary .strictEqual rfl hname (derives_text maxDepth .order)).loosen (by decide)
  exact ⟨hts, (parse_fails_earliest _ hts).1.mpr ⟨[.text ""], _, List.cons_ne_nil _ _, hwhole⟩⟩

end HttpScenario.Script
