import HttpScenario.Proofs.Script.Ending
/-!
# The counters of the parser

The readers of a script take tokens from the front of a list, and hand down how many further levels
may be opened.  This module runs the same steps over the tokens as they are, with two counters: the
position of the next token, and the depth, which goes up where a level is opened and down again where
it is closed.  A run keeps on record all values of the counters and all parts of the parser that came
to a result (`Trail`).

The main statement is `parse_trail`: the run with counters comes to the same result as the readers,
and what is kept on record is in order (`Trail.Kept`).  One rule for each kind of step (`ends_ok`,
`ends_fail`, `ends_bind`, `ends_advance`, `ends_eat`, `ends_expect`) says how it moves the counters and
what the readers do meanwhile (`Ends`).  The parts of the parser are put together from these, one
lemma for each part (`Mirrors`), by an induction over the depth that is left (`mirrors_inner`).

The recursion is over `levels`, more than can be opened: it is the counter at which the parser
refuses to go deeper.
-/

namespace HttpScenario.Script.Counting

/-! ### Counters -/

/-- The two counters. -/
structure Cursor where
  /-- The place of the next token. -/
  position : Nat
  /-- How many levels have been opened and not been closed. -/
  depth : Nat
  deriving DecidableEq, Repr

/-- A part of the parser that came to a result: the counters before it and after it. -/
structure Call where
  before : Cursor
  after : Cursor
  deriving DecidableEq, Repr

/-- The counters, the values that they had before, and the parts that came to a result; what is
latest comes first. -/
structure Trail where
  now : Cursor
  past : List Cursor
  calls : List Call
  deriving DecidableEq, Repr

namespace Trail

/-- Before anything is read. -/
def start : Trail :=
  { now := { position := 0, depth := 0 }, past := [], calls := [] }

/-- All values of the counters. -/
def cursors (trail : Trail) : List Cursor :=
  trail.now :: trail.past

/-- The counters are set. -/
def goTo (trail : Trail) (cursor : Cursor) : Trail :=
  { trail with now := cursor, past := trail.cursors }

/-- One token further. -/
def next (trail : Trail) : Trail :=
  trail.goTo { trail.now with position := trail.now.position + 1 }

/-- One level further in. -/
def enter (trail : Trail) : Trail :=
  trail.goTo { trail.now with depth := trail.now.depth + 1 }

/-- One level further out. -/
def leave (trail : Trail) : Trail :=
  trail.goTo { trail.now with depth := trail.now.depth - 1 }

/-- A part that started at some values of the counters has come to a result. -/
def record (trail : Trail) (before : Cursor) : Trail :=
  { trail with calls := { before := before, after := trail.now } :: trail.calls }

end Trail

/-- Part of the parser: it moves the counters, and comes to a result or to a fault. -/
def Walk (α : Type) : Type :=
  Trail → Except Fault α × Trail

instance : Monad Walk where
  pure a := fun trail => (.ok a, trail)
  bind walk more := fun trail =>
    match walk trail with
    | (.ok a, after) => more a after
    | (.error fault, after) => (.error fault, after)

/-! ### The parser with counters -/

/-- Comes to a fault. -/
def fail {α : Type} (fault : Fault) : Walk α :=
  fun trail => (.error fault, trail)

/-- Puts a part on record if it comes to a result. -/
def call (walk : Walk Expr) : Walk Expr := fun trail =>
  match walk trail with
  | (.ok e, after) => (.ok e, after.record trail.now)
  | (.error fault, after) => (.error fault, after)

/-- Runs a part one level further in.  The level is closed after a fault, too. -/
def nested (walk : Walk Expr) : Walk Expr := fun trail =>
  if maxDepth ≤ trail.now.depth then (.error .tooDeep, trail)
  else ((walk trail.enter).1, (walk trail.enter).2.leave)

/-- The parts for what stands one level further in. -/
structure Inner where
  unary : Walk Expr
  expression : Walk Expr

section parser

variable (tokens : List Token)

/-- The next token, if there is one. -/
def peek : Walk (Option Token) :=
  fun trail => (.ok tokens[trail.now.position]?, trail)

/-- Goes past a token. -/
def skip : Walk Unit :=
  fun trail => (.ok (), trail.next)

/-- Takes the next token.  The position goes on at the end of the tokens, too. -/
def advance : Walk (Option Token) := do
  let t ← peek tokens
  skip
  pure t

/-- Takes the next token if it is the one that is given. -/
def eat (token : Token) : Walk Bool := do
  let t ← peek tokens
  if t = some token then do
    skip
    pure true
  else pure false

/-- Takes a token that has to stand here. -/
def expect (token : Token) : Walk Unit := do
  match ← advance tokens with
  | some t => if t = token then pure () else fail (.unexpectedToken t.describe)
  | none => fail .unexpectedEnd

/-- A literal, a name, or an expression between parentheses. -/
def primary (inner : Inner) : Walk Expr := call do
  match ← advance tokens with
  | some (.number value) => pure (.literal (numberValue value))
  | some (.text value) => pure (.literal (.str value))
  | some (.ident name) => pure (nameExpr name)
  | some .openParen =>
    let e ← inner.expression
    expect tokens .closeParen
    pure e
  | some t => fail (.unexpectedToken t.describe)
  | none => fail .unexpectedEnd

/-- The steps that follow a target, for at most so many rounds. -/
def steps (inner : Inner) : (rounds : Nat) → Expr → Walk Expr
  | 0, target => pure target
  | rounds + 1, target => do
    if ← eat tokens .dot then
      match ← advance tokens with
      | some (.ident name) => steps inner rounds (.member target name)
      | some t => fail (.unexpectedToken t.describe)
      | none => fail .unexpectedEnd
    else if ← eat tokens .openBracket then
      let key ← inner.expression
      expect tokens .closeBracket
      steps inner rounds (.index target key)
    else pure target

/-- A primary and its steps. -/
def withSteps (inner : Inner) : Walk Expr := call do
  let target ← primary tokens inner
  steps tokens inner tokens.length target

/-- A unary operator and its operand, or a primary with its steps. -/
def unary (inner : Inner) : Walk Expr := call do
  if ← eat tokens .not then
    let operand ← inner.unary
    pure (.not operand)
  else if ← eat tokens .minus then
    let operand ← inner.unary
    pure (.neg operand)
  else withSteps tokens inner

/-- Operators of one level and their right operands, for at most so many rounds. -/
def chain (operator? : Token → Option (Expr → Expr → Expr)) (operand : Walk Expr) :
    (rounds : Nat) → Expr → Walk Expr
  | 0, left => pure left
  | rounds + 1, left => do
    match (← peek tokens).bind operator? with
    | some build =>
      skip
      let right ← operand
      chain operator? operand rounds (build left right)
    | none => pure left

/-- One operand and the chain that follows it. -/
def level (operator? : Token → Option (Expr → Expr → Expr)) (operand : Walk Expr) : Walk Expr :=
  call do
    let left ← operand
    chain tokens operator? operand tokens.length left

/-- A whole expression. -/
def expression (inner : Inner) : Walk Expr :=
  level tokens orOperator? (level tokens andOperator? (level tokens equalityOperator?
    (level tokens orderOperator? (unary tokens inner))))

/-- The parts for what stands inside. -/
def inner : (levels : Nat) → Inner
  | 0 => { unary := fail .tooDeep, expression := fail .tooDeep }
  | levels + 1 =>
    { unary := call (nested (unary tokens (inner levels)))
      expression := call (nested (expression tokens (inner levels))) }

/-- The expression that all of the tokens write. -/
def parse : Walk Expr := do
  let e ← expression tokens (inner tokens (maxDepth + 1))
  match ← peek tokens with
  | some t => fail (.unexpectedToken t.describe)
  | none => pure e

end parser

/-! ### What is on record -/

namespace Trail

/-- What is on record is in order: the depth was never above the limit, the position never went back
and never further than one past the end, and each part that came to a result left the depth as it
was. -/
structure Kept (tokens : List Token) (trail : Trail) : Prop where
  depth_le : ∀ cursor ∈ trail.cursors, cursor.depth ≤ maxDepth
  position_le : ∀ cursor ∈ trail.cursors, cursor.position ≤ tokens.length + 1
  forward : trail.cursors.Pairwise fun later earlier => earlier.position ≤ later.position
  restored : ∀ done ∈ trail.calls, done.after.depth = done.before.depth

/-- The position is not past the end. -/
structure Ready (tokens : List Token) (trail : Trail) : Prop extends trail.Kept tokens where
  inside : trail.now.position ≤ tokens.length

variable {tokens : List Token} {trail : Trail}

theorem ready_start (tokens : List Token) : start.Ready tokens where
  depth_le := by simp [start, cursors]
  position_le := by simp [start, cursors]
  forward := List.pairwise_singleton _ _
  restored := nofun
  inside := Nat.zero_le _

theorem Kept.goTo (h : trail.Kept tokens) {cursor : Cursor} (hdepth : cursor.depth ≤ maxDepth)
    (hposition : cursor.position ≤ tokens.length + 1)
    (hforward : trail.now.position ≤ cursor.position) : (trail.goTo cursor).Kept tokens where
  depth_le := List.forall_mem_cons.mpr ⟨hdepth, h.depth_le⟩
  position_le := List.forall_mem_cons.mpr ⟨hposition, h.position_le⟩
  forward := by
    refine List.pairwise_cons.mpr ⟨?_, h.forward⟩
    intro earlier hmem
    rcases List.mem_cons.mp hmem with rfl | hpast
    · exact hforward
    · exact Nat.le_trans ((List.pairwise_cons.mp h.forward).1 earlier hpast) hforward
  restored := h.restored

theorem Kept.now_depth_le (h : trail.Kept tokens) : trail.now.depth ≤ maxDepth :=
  h.depth_le _ List.mem_cons_self

theorem Kept.now_position_le (h : trail.Kept tokens) : trail.now.position ≤ tokens.length + 1 :=
  h.position_le _ List.mem_cons_self

theorem Ready.next (h : trail.Ready tokens) : trail.next.Kept tokens :=
  h.goTo h.now_depth_le (Nat.succ_le_succ h.inside) (Nat.le_succ _)

theorem Ready.enter (h : trail.Ready tokens) (hless : trail.now.depth < maxDepth) :
    trail.enter.Ready tokens where
  toKept := h.goTo hless (Nat.le_succ_of_le h.inside) (Nat.le_refl _)
  inside := h.inside

theorem Kept.leave (h : trail.Kept tokens) : trail.leave.Kept tokens :=
  h.goTo (Nat.le_trans (Nat.sub_le _ _) h.now_depth_le) h.now_position_le (Nat.le_refl _)

theorem Kept.record (h : trail.Kept tokens) {before : Cursor}
    (hdepth : trail.now.depth = before.depth) : (trail.record before).Kept tokens where
  depth_le := h.depth_le
  position_le := h.position_le
  forward := h.forward
  restored := List.forall_mem_cons.mpr ⟨hdepth, h.restored⟩

/-- Past a token that there is, the position is not past the end. -/
theorem Ready.past (h : trail.Ready tokens) {t : Token} {rest : List Token}
    (hdrop : tokens.drop trail.now.position = t :: rest) :
    trail.next.Ready tokens ∧ tokens.drop trail.next.now.position = rest := by
  have hless : trail.now.position < tokens.length := by
    have hlength := congrArg List.length hdrop
    rw [List.length_drop, List.length_cons] at hlength
    omega
  refine ⟨⟨h.next, hless⟩, ?_⟩
  have htail := congrArg List.tail hdrop
  rwa [List.tail_drop] at htail

end Trail

/-! ### How a part ends -/

section ends

variable {α β : Type} {tokens : List Token} {trail : Trail}

/-- A part ends as a reader does: with its result, if that is one, and before the tokens that the
reader leaves, or with its fault.  The depth is what it was before. -/
structure Ends (tokens : List Token) (trail : Trail) (read : Except Fault (α × List Token))
    (walked : Except Fault α × Trail) : Prop where
  result : walked.1.map (fun a => (a, tokens.drop walked.2.now.position)) = read
  depth : walked.2.now.depth = trail.now.depth
  kept : walked.2.Kept tokens
  inside : ∀ a, walked.1 = .ok a → walked.2.now.position ≤ tokens.length

/-- A part ends as a reader does wherever it starts at a depth. -/
def Mirrors (tokens : List Token) (depth : Nat) (walk : Walk α)
    (read : List Token → Except Fault (α × List Token)) : Prop :=
  ∀ trail : Trail, trail.Ready tokens → trail.now.depth = depth →
    Ends tokens trail (read (tokens.drop trail.now.position)) (walk trail)

theorem ends_ok (h : trail.Ready tokens) (a : α) :
    Ends tokens trail (.ok (a, tokens.drop trail.now.position)) ((pure a : Walk α) trail) where
  result := rfl
  depth := rfl
  kept := h.toKept
  inside _ _ := h.inside

theorem ends_fail (h : trail.Kept tokens) (fault : Fault) :
    Ends tokens trail (.error fault) ((fail fault : Walk α) trail) where
  result := rfl
  depth := rfl
  kept := h
  inside := nofun

theorem Ends.of_depth {other : Trail} {read : Except Fault (α × List Token)}
    {walked : Except Fault α × Trail} (h : Ends tokens other read walked)
    (hdepth : other.now.depth = trail.now.depth) : Ends tokens trail read walked :=
  { h with depth := h.depth.trans hdepth }

theorem bind_of_ok {walk : Walk α} {more : α → Walk β} {a : α} {after : Trail}
    (h : walk trail = (.ok a, after)) : (walk >>= more) trail = more a after := by
  show (match walk trail with
    | (.ok a, after) => more a after
    | (.error fault, after) => (.error fault, after)) = more a after
  rw [h]

theorem bind_of_error {walk : Walk α} {more : α → Walk β} {fault : Fault} {after : Trail}
    (h : walk trail = (.error fault, after)) : (walk >>= more) trail = (.error fault, after) := by
  show (match walk trail with
    | (.ok a, after) => more a after
    | (.error fault, after) => (.error fault, after)) = (.error fault, after)
  rw [h]

theorem ends_bind {walk : Walk α} {more : α → Walk β} {read : Except Fault (α × List Token)}
    {rest : α × List Token → Except Fault (β × List Token)}
    (hwalk : Ends tokens trail read (walk trail))
    (hmore : ∀ a after, after.Ready tokens → after.now.depth = trail.now.depth →
      Ends tokens after (rest (a, tokens.drop after.now.position)) (more a after)) :
    Ends tokens trail (read >>= rest) ((walk >>= more) trail) := by
  obtain ⟨hresult, hdepth, hkept, hinside⟩ := hwalk
  rcases hwalked : walk trail with ⟨fault | a, after⟩
  · rw [hwalked] at hresult hdepth hkept
    rw [bind_of_error hwalked, ← hresult]
    exact ⟨rfl, hdepth, hkept, nofun⟩
  · rw [hwalked] at hresult hdepth hkept hinside
    rw [bind_of_ok hwalked, ← hresult]
    exact (hmore a after ⟨hkept, hinside a rfl⟩ hdepth).of_depth hdepth

theorem getElem?_of_drop {t : Token} {rest : List Token} {i : Nat} (h : tokens.drop i = t :: rest) :
    tokens[i]? = some t := by
  rw [← List.head?_drop, h]
  rfl

theorem getElem?_of_drop_nil {i : Nat} (h : tokens.drop i = []) : tokens[i]? = none := by
  rw [← List.head?_drop, h]
  rfl

/-- A part that takes the next token goes on past it. -/
theorem ends_advance {more : Option Token → Walk β} {read : Except Fault (β × List Token)}
    (hready : trail.Ready tokens)
    (hend : tokens.drop trail.now.position = [] → ∀ after, after.Kept tokens →
      Ends tokens after read (more none after))
    (hmore : ∀ t rest, tokens.drop trail.now.position = t :: rest → ∀ after,
      after.Ready tokens → after.now.depth = trail.now.depth →
      tokens.drop after.now.position = rest → Ends tokens after read (more (some t) after)) :
    Ends tokens trail read ((advance tokens >>= more) trail) := by
  have hadvance : advance tokens trail = (.ok tokens[trail.now.position]?, trail.next) := rfl
  rw [bind_of_ok hadvance]
  cases hdrop : tokens.drop trail.now.position with
  | nil =>
    rw [getElem?_of_drop_nil hdrop]
    exact (hend hdrop trail.next hready.next).of_depth rfl
  | cons t rest =>
    obtain ⟨hnext, hrest⟩ := hready.past hdrop
    rw [getElem?_of_drop hdrop]
    exact (hmore t rest hdrop trail.next hnext rfl hrest).of_depth rfl

/-- A part that takes one given token goes on past it or where it was. -/
theorem ends_eat {token : Token} {more : Bool → Walk β} {read : Except Fault (β × List Token)}
    (hready : trail.Ready tokens)
    (htaken : ∀ rest, tokens.drop trail.now.position = token :: rest → ∀ after,
      after.Ready tokens → after.now.depth = trail.now.depth →
      tokens.drop after.now.position = rest → Ends tokens after read (more true after))
    (hleft : (tokens.drop trail.now.position).head? ≠ some token →
      Ends tokens trail read (more false trail)) :
    Ends tokens trail read ((eat tokens token >>= more) trail) := by
  have heat : eat tokens token trail = if tokens[trail.now.position]? = some token
      then (.ok true, trail.next) else (.ok false, trail) := by
    show (if tokens[trail.now.position]? = some token then _ else _ : Walk Bool) trail = _
    split <;> rfl
  by_cases ht : tokens[trail.now.position]? = some token
  · rw [if_pos ht] at heat
    rw [bind_of_ok heat]
    rw [← List.head?_drop] at ht
    obtain ⟨rest, hdrop⟩ := List.head?_eq_some_iff.mp ht
    obtain ⟨hnext, hrest⟩ := hready.past hdrop
    exact (htaken rest hdrop trail.next hnext rfl hrest).of_depth rfl
  · rw [if_neg ht] at heat
    rw [bind_of_ok heat]
    rw [← List.head?_drop] at ht
    exact hleft ht

/-- A part that takes a token that has to stand here ends there if it does not. -/
theorem ends_expect {token : Token} {more : Unit → Walk β}
    {rest : List Token → Except Fault (β × List Token)} (hready : trail.Ready tokens)
    (hmore : ∀ after, after.Ready tokens → after.now.depth = trail.now.depth →
      Ends tokens after (rest (tokens.drop after.now.position)) (more () after)) :
    Ends tokens trail (expectToken token (tokens.drop trail.now.position) >>= rest)
      ((expect tokens token >>= more) trail) := by
  have hexpect : Ends tokens trail
      ((expectToken token (tokens.drop trail.now.position)).map fun left => ((), left))
      (expect tokens token trail) := by
    refine ends_advance hready ?_ ?_
    · intro hdrop after hafter
      rw [hdrop]
      exact ends_fail hafter .unexpectedEnd
    · intro t left hdrop after hafter _ hleft
      rw [hdrop, expectToken, ← hleft]
      by_cases ht : t = token
      · simp only [if_pos ht]
        exact ends_ok hafter ()
      · simp only [if_neg ht]
        exact ends_fail hafter.toKept _
  have hends : Ends tokens trail
      ((expectToken token (tokens.drop trail.now.position)).map (fun left => ((), left)) >>=
        fun read => rest read.2) ((expect tokens token >>= more) trail) :=
    ends_bind hexpect fun _ => hmore
  cases hread : expectToken token (tokens.drop trail.now.position) <;> rw [hread] at hends <;>
    exact hends

end ends

/-! ### The parts of the parser -/

section parts

variable {tokens : List Token} {depth : Nat}

theorem mirrors_call {walk : Walk Expr} {read : Parse} (h : Mirrors tokens depth walk read) :
    Mirrors tokens depth (call walk) read := by
  intro trail hready hdepth
  obtain ⟨hresult, hrestored, hkept, hinside⟩ := h trail hready hdepth
  unfold call
  rcases hwalked : walk trail with ⟨fault | e, after⟩
  · rw [hwalked] at hresult hrestored hkept
    exact ⟨hresult, hrestored, hkept, nofun⟩
  · rw [hwalked] at hresult hrestored hkept hinside
    exact ⟨hresult, hrestored, hkept.record hrestored, hinside⟩

theorem mirrors_nested {walk : Walk Expr} {read : Parse} (hless : depth < maxDepth)
    (h : Mirrors tokens (depth + 1) walk read) : Mirrors tokens depth (nested walk) read := by
  intro trail hready hdepth
  have hopen : trail.now.depth < maxDepth := hdepth ▸ hless
  obtain ⟨hresult, hrestored, hkept, hinside⟩ :=
    h trail.enter (hready.enter hopen) (congrArg Nat.succ hdepth)
  unfold nested
  rw [if_neg (Nat.not_le_of_lt hopen)]
  exact ⟨hresult, congrArg Nat.pred hrestored, hkept.leave, hinside⟩

/-- At the greatest depth no further level is opened. -/
theorem mirrors_nested_of_full (walk : Walk Expr) :
    Mirrors tokens maxDepth (nested walk) fun _ => .error .tooDeep := by
  intro trail hready hdepth
  unfold nested
  rw [if_pos (Nat.le_of_eq hdepth.symm)]
  exact ends_fail hready.toKept .tooDeep

/-- Both parts for what stands inside end as the readers do. -/
structure Inner.Mirrors (tokens : List Token) (depth : Nat) (inner : Inner)
    (reads : Script.Inner) : Prop where
  unary : Counting.Mirrors tokens depth inner.unary reads.unary
  expression : Counting.Mirrors tokens depth inner.expression reads.expression

variable {inner : Inner} {reads : Script.Inner}

theorem mirrors_primary (hinner : inner.Mirrors tokens depth reads) :
    Mirrors tokens depth (primary tokens inner) (Script.primary reads) := by
  refine mirrors_call ?_
  intro trail hready hdepth
  refine ends_advance hready ?_ ?_
  · intro hdrop after hafter
    rw [hdrop]
    exact ends_fail hafter .unexpectedEnd
  · intro t rest hdrop after hafter hafterDepth hrest
    rw [hdrop, ← hrest]
    cases t with
    | number value => exact ends_ok hafter _
    | text value => exact ends_ok hafter _
    | ident name => exact ends_ok hafter _
    | openParen =>
      refine ends_bind (hinner.expression after hafter (hafterDepth.trans hdepth)) ?_
      intro e left hleft _
      exact ends_expect hleft fun closed hclosed _ => ends_ok hclosed e
    | _ => exact ends_fail hafter.toKept _

/-- Neither a step nor anything else follows a target. -/
theorem steps_of_head? {rounds : Nat} {target : Expr} {ts : List Token}
    (hdot : ts.head? ≠ some .dot) (hbracket : ts.head? ≠ some .openBracket) :
    Script.steps reads rounds target ts = .ok (target, ts) := by
  cases rounds with
  | zero => rfl
  | succ rounds =>
    cases ts with
    | nil => rfl
    | cons t rest => cases t <;> first | rfl | exact absurd rfl hdot | exact absurd rfl hbracket

/-- Each round starts at the same depth, as what is between brackets is left again. -/
theorem mirrors_steps (hinner : inner.Mirrors tokens depth reads) (rounds : Nat) (target : Expr) :
    Mirrors tokens depth (steps tokens inner rounds target) (Script.steps reads rounds target) := by
  induction rounds generalizing target with
  | zero =>
    intro trail hready _
    exact ends_ok hready target
  | succ rounds ih =>
    intro trail hready hdepth
    refine ends_eat hready ?_ fun hdot => ends_eat hready ?_ fun hbracket => ?_
    · intro rest hdrop after hafter hafterDepth hrest
      rw [hdrop]
      refine ends_advance hafter ?_ ?_
      · intro hnone ended hended
        rw [← hrest, hnone]
        exact ends_fail hended .unexpectedEnd
      · intro t left hsome named hnamed hnamedDepth hleft
        rw [← hrest, hsome, ← hleft]
        cases t with
        | ident name =>
          exact ih (.member target name) named hnamed (hnamedDepth.trans (hafterDepth.trans hdepth))
        | _ => exact ends_fail hnamed.toKept _
    · intro rest hdrop after hafter hafterDepth hrest
      rw [hdrop, ← hrest]
      have hopened := hafterDepth.trans hdepth
      refine ends_bind (hinner.expression after hafter hopened) ?_
      intro key left hleft hleftDepth
      refine ends_expect hleft ?_
      intro closed hclosed hclosedDepth
      exact ih (.index target key) closed hclosed (hclosedDepth.trans (hleftDepth.trans hopened))
    · rw [steps_of_head? hdot hbracket]
      exact ends_ok hready target

theorem mirrors_chain (operator? : Token → Option (Expr → Expr → Expr)) {operand : Walk Expr}
    {read : Parse} (hoperand : Mirrors tokens depth operand read) (rounds : Nat) (left : Expr) :
    Mirrors tokens depth (chain tokens operator? operand rounds left)
      (Script.chain operator? read rounds left) := by
  induction rounds generalizing left with
  | zero =>
    intro trail hready _
    exact ends_ok hready left
  | succ rounds ih =>
    intro trail hready hdepth
    have hpeek : peek tokens trail = (.ok tokens[trail.now.position]?, trail) := rfl
    have hstay := ends_ok hready left
    rw [chain, bind_of_ok hpeek]
    cases hdrop : tokens.drop trail.now.position with
    | nil =>
      rw [hdrop] at hstay
      rw [getElem?_of_drop_nil hdrop]
      exact hstay
    | cons t rest =>
      obtain ⟨hnext, hrest⟩ := hready.past hdrop
      rw [hdrop] at hstay
      rw [getElem?_of_drop hdrop]
      simp only [Script.chain, Option.bind_some]
      cases operator? t with
      | none => exact hstay
      | some build =>
        have hskip : skip trail = (.ok (), trail.next) := rfl
        simp only [bind_of_ok hskip, ← hrest]
        refine (ends_bind (hoperand trail.next hnext hdepth) ?_).of_depth rfl
        intro right after hafter hafterDepth
        exact ih (build left right) after hafter (hafterDepth.trans hdepth)

end parts

/-! ### The whole parser -/

section whole

variable {tokens : List Token} {depth n : Nat} {inner : Inner}

theorem mirrors_withSteps (hinner : inner.Mirrors tokens depth (Script.inner n)) :
    Mirrors tokens depth (withSteps tokens inner) (Script.withSteps (Script.inner n)) := by
  refine mirrors_call ?_
  intro trail hready hdepth
  refine ends_bind (mirrors_primary hinner trail hready hdepth) ?_
  intro target after hafter hafterDepth
  -- the two loops are bounded by different numbers, and neither is ended by its bound
  have hsteps := mirrors_steps hinner tokens.length target after hafter (hafterDepth.trans hdepth)
  rwa [steps_of_le (reads_inner n).expression.length_le
    (List.drop_sublist after.now.position tokens).length_le (Nat.le_refl _)] at hsteps

theorem mirrors_unary (hinner : inner.Mirrors tokens depth (Script.inner n)) :
    Mirrors tokens depth (unary tokens inner) (Script.unary (Script.inner n)) := by
  refine mirrors_call ?_
  intro trail hready hdepth
  refine ends_eat hready ?_ fun hnot => ends_eat hready ?_ fun hminus => ?_
  · intro rest hdrop after hafter hafterDepth hrest
    rw [hdrop, ← hrest]
    exact ends_bind (hinner.unary after hafter (hafterDepth.trans hdepth))
      fun operand done hdone _ => ends_ok hdone (Expr.not operand)
  · intro rest hdrop after hafter hafterDepth hrest
    rw [hdrop, ← hrest]
    exact ends_bind (hinner.unary after hafter (hafterDepth.trans hdepth))
      fun operand done hdone _ => ends_ok hdone (Expr.neg operand)
  · rw [unary_eq_withSteps]
    · exact mirrors_withSteps hinner trail hready hdepth
    · rintro _ _ (_ | _)
      · exact hnot
      · exact hminus

theorem mirrors_level {operator? : Token → Option (Expr → Expr → Expr)} {operand : Walk Expr}
    (tighter : Level) (hoperand : Mirrors tokens depth operand (tighter.reader (Script.inner n))) :
    Mirrors tokens depth (level tokens operator? operand)
      (Script.level operator? (tighter.reader (Script.inner n))) := by
  refine mirrors_call ?_
  intro trail hready hdepth
  refine ends_bind (hoperand trail hready hdepth) ?_
  intro left after hafter hafterDepth
  have hchain := mirrors_chain operator? hoperand tokens.length left after hafter
    (hafterDepth.trans hdepth)
  rwa [chain_of_le (Level.reads_reader (reads_inner n) tighter).length_le
    (List.drop_sublist after.now.position tokens).length_le (Nat.le_refl _)] at hchain

theorem mirrors_expression (hinner : inner.Mirrors tokens depth (Script.inner n)) :
    Mirrors tokens depth (expression tokens inner) (Script.expression (Script.inner n)) :=
  mirrors_level .and (mirrors_level .equality (mirrors_level .order (mirrors_level .unary
    (mirrors_unary hinner))))

/-- With more levels than may be opened, the parts for what stands inside end as the readers do. -/
theorem mirrors_inner {levels : Nat} (hdepth : n + depth = maxDepth) (hlevels : n < levels) :
    (Counting.inner tokens levels).Mirrors tokens depth (Script.inner n) := by
  induction n generalizing levels depth with
  | zero =>
    obtain ⟨levels, rfl⟩ := Nat.exists_eq_add_one_of_ne_zero (Nat.ne_zero_of_lt hlevels)
    obtain rfl : depth = maxDepth := (Nat.zero_add depth).symm.trans hdepth
    exact ⟨mirrors_call (mirrors_nested_of_full _), mirrors_call (mirrors_nested_of_full _)⟩
  | succ n ih =>
    obtain ⟨levels, rfl⟩ := Nat.exists_eq_add_one_of_ne_zero (Nat.ne_zero_of_lt hlevels)
    have hless : depth < maxDepth := by omega
    have hinner : (Counting.inner tokens levels).Mirrors tokens (depth + 1) (Script.inner n) :=
      ih (by omega) (by omega)
    exact ⟨mirrors_call (mirrors_nested hless (mirrors_unary hinner)),
      mirrors_call (mirrors_nested hless (mirrors_expression hinner))⟩

/-- Counting changes no result, and what is on record at the end is in order. -/
theorem parse_trail (tokens : List Token) :
    (parse tokens .start).1 = Script.parse tokens ∧ (parse tokens .start).2.Kept tokens := by
  have hinner : (Counting.inner tokens (maxDepth + 1)).Mirrors tokens 0 (Script.inner maxDepth) :=
    mirrors_inner rfl (Nat.lt_succ_self _)
  have hends := mirrors_expression hinner .start (Trail.ready_start tokens) rfl
  obtain ⟨hresult, -, hkept, -⟩ := hends
  rw [show tokens.drop Trail.start.now.position = tokens from rfl] at hresult
  rcases hwalked : expression tokens (Counting.inner tokens (maxDepth + 1)) .start
    with ⟨fault | e, after⟩
  · rw [hwalked] at hresult hkept
    rw [parse, bind_of_error hwalked, Script.parse, ← hresult]
    exact ⟨rfl, hkept⟩
  · have hpeek : peek tokens after = (.ok tokens[after.now.position]?, after) := rfl
    rw [hwalked] at hresult hkept
    rw [parse, bind_of_ok hwalked, bind_of_ok hpeek, Script.parse, ← hresult]
    simp only [Except.map]
    cases hdrop : tokens.drop after.now.position with
    | nil =>
      rw [getElem?_of_drop_nil hdrop]
      exact ⟨rfl, hkept⟩
    | cons t rest =>
      rw [getElem?_of_drop hdrop]
      exact ⟨rfl, hkept⟩

end whole

end HttpScenario.Script.Counting
