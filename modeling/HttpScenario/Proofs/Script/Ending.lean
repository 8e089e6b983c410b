import HttpScenario.Proofs.Script.Parsing
/-!
# Where a reader of a script ends

A reader that comes to a result stops where nothing goes on with what it has read
(`Level.stops_reader`): the token that follows, if there is one, goes on with a looser expression or
with none.  For a chain this holds of its operands first, and then its own operators are what it
stops at the lack of (`Level.stops_of_chain`).

So what is derived is read up to there, whatever else follows (`Derives.reader_of_stops`).
-/

namespace HttpScenario.Script

/-! ### Unary operators -/

/-- The unary operators. -/
inductive UnaryOperator : Token → (Expr → Expr) → Prop
  | not : UnaryOperator .not .not
  | neg : UnaryOperator .minus .neg

namespace UnaryOperator

variable {t : Token} {build : Expr → Expr} {n : Nat} {ts : List Token}

theorem unary_eq (h : UnaryOperator t build) (inner : Inner) (ts : List Token) :
    unary inner (t :: ts) = inner.unary ts >>= fun read => .ok (build read.1, read.2) := by
  cases h <;> rfl

theorem starts_or (ts : List Token) :
    (∃ t build more, UnaryOperator t build ∧ ts = t :: more) ∨
      ∀ t build, UnaryOperator t build → ts.head? ≠ some t := by
  by_cases h : ∃ t build, UnaryOperator t build ∧ ts.head? = some t
  · obtain ⟨t, build, hop, ht⟩ := h
    obtain ⟨more, hmore⟩ := List.head?_eq_some_iff.mp ht
    exact Or.inl ⟨t, build, more, hop, hmore⟩
  · exact Or.inr fun t build hop ht => h ⟨t, build, hop, ht⟩

end UnaryOperator

/-- What does not start with a unary operator is read as a primary with its steps. -/
theorem unary_eq_withSteps (inner : Inner) {ts : List Token}
    (h : ∀ t build, UnaryOperator t build → ts.head? ≠ some t) :
    unary inner ts = withSteps inner ts := by
  cases ts with
  | nil => rfl
  | cons t ts =>
    cases t with
    | not => exact absurd rfl (h _ _ .not)
    | minus => exact absurd rfl (h _ _ .neg)
    | _ => rfl

/-! ### Where a reader ends -/

namespace Level

/-- What follows does not go on with an expression of a level. -/
def Stops (place : Level) (rest : List Token) : Prop :=
  ∀ t found, rest.head? = some t → t.level? = some found → found.rank < place.rank

section stops

variable {place tighter : Level} {ts rest : List Token} {e : Expr} {n : Nat}

theorem Stops.ends (h : place.Stops rest) : place.Ends rest :=
  fun t found ht hfound => Nat.le_of_lt (h t found ht hfound)

theorem stops_nil (place : Level) : place.Stops [] :=
  fun _ _ h => nomatch h

/-- Only the token that follows matters. -/
theorem Stops.of_head {t : Token} (h : place.Stops (t :: rest)) (others : List Token) :
    place.Stops (t :: others) :=
  h

theorem Stops.goOn (h : place.Stops rest) : place.goOn (inner n) e rest = .ok (e, rest) := by
  apply goOn_of_level?_ne
  intro t ht hlevel
  exact Nat.lt_irrefl _ (h t place ht hlevel)

/-- Nothing goes on with a primary but the steps, which are of a looser level. -/
theorem stops_primary (rest : List Token) : primary.Stops rest := by
  intro t found _ hfound
  cases t <;> cases hfound <;> decide

/-- What goes on with no tighter part of an expression, nor with itself, has come to its end. -/
theorem Stops.looser (hnext : place.next? = some tighter) (h : tighter.Stops rest)
    (hne : ∀ t, rest.head? = some t → t.level? ≠ some place) : place.Stops rest := by
  intro t found ht hfound
  have hlt := h t found ht hfound
  rw [rank_of_next? hnext] at hlt
  refine Nat.lt_of_le_of_ne (Nat.le_of_lt_succ hlt) ?_
  intro heq
  obtain rfl := eq_of_rank_eq heq
  exact hne t ht hfound

theorem level?_ne_of_operator? {t : Token} (hplace : place ≠ steps)
    (h : place.operator? t = none) : t.level? ≠ some place := by
  intro hlevel
  cases place with
  | steps => exact hplace rfl
  | or | and | equality | order | unary | primary => cases t <;> cases hlevel <;> cases h

/-- A chain ends where nothing goes on with it. -/
theorem stops_of_chain (hnext : place.next? = some tighter) (hplace : place ≠ steps)
    {operand : Parse} (hle : ∀ {ts e rest}, operand ts = .ok (e, rest) → rest.length ≤ ts.length)
    (hoperand : ∀ {ts e rest}, operand ts = .ok (e, rest) → tighter.Stops rest)
    {tries : Nat} {left : Expr} (htries : ts.length ≤ tries) (hts : tighter.Stops ts)
    (h : chain place.operator? operand tries left ts = .ok (e, rest)) : place.Stops rest := by
  induction tries generalizing left ts with
  | zero =>
    obtain rfl := List.eq_nil_of_length_eq_zero (Nat.le_zero.mp htries)
    cases h
    exact stops_nil place
  | succ tries ih =>
    rw [chain.eq_def] at h
    dsimp only at h
    split at h
    · cases h
      exact stops_nil place
    · split at h
      · rename_i t _ _ hnone
        cases h
        refine hts.looser hnext ?_
        intro u hu
        obtain rfl := Option.some.inj hu
        exact level?_ne_of_operator? hplace hnone
      · obtain ⟨⟨right, after⟩, hright, hchain⟩ := bind_eq_ok_iff.mp h
        have hless := hle hright
        simp only [List.length_cons] at htries
        exact ih (by omega) (hoperand hright) hchain

/-- Steps end where there is no further one. -/
theorem stops_of_steps {inner : Inner}
    (hle : ∀ {ts e rest}, inner.expression ts = .ok (e, rest) → rest.length ≤ ts.length)
    {tries : Nat} {target : Expr} (htries : ts.length ≤ tries)
    (h : Script.steps inner tries target ts = .ok (e, rest)) : steps.Stops rest := by
  induction tries generalizing target ts with
  | zero =>
    obtain rfl := List.eq_nil_of_length_eq_zero (Nat.le_zero.mp htries)
    cases h
    exact stops_nil steps
  | succ tries ih =>
    rw [Script.steps.eq_def] at h
    dsimp only at h
    split at h
    · simp only [List.length_cons] at htries
      exact ih (by omega) h
    · cases h
    · cases h
    · obtain ⟨⟨key, after⟩, hkey, hrest⟩ := bind_eq_ok_iff.mp h
      obtain ⟨left, hclosed, hsteps⟩ := bind_eq_ok_iff.mp hrest
      have hless := hle hkey
      have hleft := congrArg List.length (eq_cons_of_expectToken hclosed)
      simp only [List.length_cons] at htries hleft
      exact ih (by omega) hsteps
    · rename_i hdot hend hbracket
      cases h
      refine (stops_primary rest).looser rfl ?_
      intro t ht hlevel
      obtain ⟨more, rfl⟩ := List.head?_eq_some_iff.mp ht
      cases t <;> cases hlevel
      · cases more with
        | nil => exact hend rfl
        | cons u more => exact hdot u more rfl
      · exact hbracket more rfl

theorem length_le_of_reader {place : Level} (h : place.reader (inner n) ts = .ok (e, rest)) :
    rest.length ≤ ts.length :=
  (reads_reader (reads_inner n) place).length_le h

theorem stops_withSteps (h : withSteps (inner n) ts = .ok (e, rest)) : steps.Stops rest := by
  obtain ⟨⟨target, after⟩, _, hsteps⟩ := bind_eq_ok_iff.mp h
  exact stops_of_steps (fun hread => (reads_inner n).expression.length_le hread) (Nat.le_refl _) hsteps

theorem stops_unary (hinner : ∀ {m ts e rest}, n = m + 1 →
    unary.reader (inner m) ts = .ok (e, rest) → unary.Stops rest)
    (h : Script.unary (inner n) ts = .ok (e, rest)) : unary.Stops rest := by
  rcases UnaryOperator.starts_or ts with ⟨t, build, more, hop, rfl⟩ | hplain
  · rw [hop.unary_eq] at h
    obtain ⟨⟨operand, after⟩, hoperand, h⟩ := bind_eq_ok_iff.mp h
    cases h
    cases n with
    | zero => cases hoperand
    | succ m => exact hinner rfl hoperand
  · rw [unary_eq_withSteps _ hplain] at h
    apply (stops_withSteps h).looser rfl
    intro t _
    cases t <;> exact nofun

theorem stops_level (hnext : place.next? = some tighter) (hplace : place ≠ steps)
    (hoperand : ∀ {ts e rest}, tighter.reader (inner n) ts = .ok (e, rest) → tighter.Stops rest)
    (h : level place.operator? (tighter.reader (inner n)) ts = .ok (e, rest)) :
    place.Stops rest := by
  obtain ⟨⟨left, after⟩, hleft, hchain⟩ := bind_eq_ok_iff.mp h
  exact stops_of_chain hnext hplace length_le_of_reader hoperand (Nat.le_refl _) (hoperand hleft) hchain

theorem stops_reader_of_inner (hinner : ∀ {m ts e rest}, n = m + 1 →
    unary.reader (inner m) ts = .ok (e, rest) → unary.Stops rest)
    (h : place.reader (inner n) ts = .ok (e, rest)) : place.Stops rest := by
  have hunary : ∀ {ts e rest}, unary.reader (inner n) ts = .ok (e, rest) → unary.Stops rest :=
    fun h => stops_unary hinner h
  have horder : ∀ {ts e rest}, order.reader (inner n) ts = .ok (e, rest) → order.Stops rest :=
    fun h => stops_level rfl nofun hunary h
  have hequality : ∀ {ts e rest}, equality.reader (inner n) ts = .ok (e, rest) →
      equality.Stops rest :=
    fun h => stops_level rfl nofun horder h
  have hand : ∀ {ts e rest}, and.reader (inner n) ts = .ok (e, rest) → and.Stops rest :=
    fun h => stops_level rfl nofun hequality h
  cases place with
  | or => exact stops_level rfl nofun hand h
  | and => exact hand h
  | equality => exact hequality h
  | order => exact horder h
  | unary => exact hunary h
  | steps => exact stops_withSteps h
  | primary => exact stops_primary rest

/-- Where a reader ends, nothing goes on with what it has read. -/
theorem stops_reader (n : Nat) {place : Level} {ts rest : List Token} {e : Expr}
    (h : place.reader (inner n) ts = .ok (e, rest)) : place.Stops rest := by
  induction n generalizing place ts rest e with
  | zero => exact stops_reader_of_inner (fun hm => absurd hm.symm (Nat.succ_ne_zero _)) h
  | succ n ih =>
    refine stops_reader_of_inner ?_ h
    intro m ts e rest hm
    obtain rfl := Nat.succ.inj hm
    exact ih

end stops

end Level

/-- What is derived is read, if nothing that follows goes on with it. -/
theorem Derives.reader_of_stops {n : Nat} {place : Level} {us rest : List Token} {e : Expr}
    (h : Derives n place us e) (hstops : place.Stops rest) :
    place.reader (inner n) (us ++ rest) = .ok (e, rest) := by
  rw [h.reader_append hstops.ends, hstops.goOn]

end HttpScenario.Script
