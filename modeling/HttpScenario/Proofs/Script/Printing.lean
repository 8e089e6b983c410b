import HttpScenario.Proofs.Double.Whole
import HttpScenario.Proofs.Script.Grammar
/-!
# The tokens of an expression

An expression is written with as few parentheses as its operators allow: around an operand whose
operator is looser than the place where it stands (`enclosed`).  The left operand of a binary
operator may be of the operator's own level, the right one has to be tighter, because the operators
of a level are left-associative.

The main statement is `Expr.Printable.derives`: the tokens that an expression is written with derive
it, with as many parentheses, brackets and unary operators around a point as `Expr.nesting` counts.
The proof is an induction over the expression; what it needs of the levels is that an expression of
a tight level is one of every looser level (`Derives.loosen`).

That no parentheses can be left out is `Derives.length_enclosed_le`: whatever else derives an
expression has at least as many tokens.

Which expressions can be written is `Expr.Printable`.  A list, an object or a negative number has no
literal, and only ASCII names are written.
-/

namespace HttpScenario.Script

/-! ### Names -/

/-- Whether a character starts an ASCII name. -/
def startsAsciiName (c : Char) : Bool :=
  c.isAlpha || c == '_' || c == '$'

/-- Whether a character goes on with an ASCII name. -/
def continuesAsciiName (c : Char) : Bool :=
  c.isAlphanum || c == '_' || c == '$'

/-- Whether a text is an ASCII name. -/
def isAsciiName (name : String) : Bool :=
  match name.toList with
  | [] => false
  | c :: rest => startsAsciiName c && rest.all continuesAsciiName

/-! ### The expressions that are written -/

/-- An expression that can be written down. -/
inductive Expr.Printable : Expr → Prop
  | null : Printable (.literal .null)
  | bool (value : Bool) : Printable (.literal (.bool value))
  /-- A whole number below 2⁵³, up to where doubles keep every whole number. -/
  | whole {n : Nat} (h : n < 9007199254740992) : Printable (.literal (.int n))
  | text (value : String) : Printable (.literal (.str value))
  | name {name : String} (hname : isAsciiName name = true) (hfree : name ∉ reservedNames) :
      Printable (.variable name)
  | member {target : Expr} {name : String} (htarget : Printable target)
      (hname : isAsciiName name = true) : Printable (.member target name)
  | index {target key : Expr} (htarget : Printable target) (hkey : Printable key) :
      Printable (.index target key)
  | not {operand : Expr} (h : Printable operand) : Printable (.not operand)
  | neg {operand : Expr} (h : Printable operand) : Printable (.neg operand)
  | and {left right : Expr} (hleft : Printable left) (hright : Printable right) :
      Printable (.and left right)
  | or {left right : Expr} (hleft : Printable left) (hright : Printable right) :
      Printable (.or left right)
  | compare (op : Comparison) {left right : Expr} (hleft : Printable left)
      (hright : Printable right) : Printable (.compare op left right)

/-! ### Levels and operators -/

/-- The level of a comparison. -/
def Comparison.level : Comparison → Level
  | .equal | .strictEqual | .notEqual | .strictNotEqual => .equality
  | .less | .lessEqual | .greater | .greaterEqual => .order

/-- The level of the right operand of a comparison. -/
def Comparison.rightLevel : Comparison → Level
  | .equal | .strictEqual | .notEqual | .strictNotEqual => .order
  | .less | .lessEqual | .greater | .greaterEqual => .unary

/-- The token of a comparison. -/
def Comparison.token : Comparison → Token
  | .equal => .equal
  | .strictEqual => .strictEqual
  | .notEqual => .notEqual
  | .strictNotEqual => .strictNotEqual
  | .less => .less
  | .lessEqual => .lessEqual
  | .greater => .greater
  | .greaterEqual => .greaterEqual

theorem Comparison.next?_level (op : Comparison) : op.level.next? = some op.rightLevel := by
  cases op <;> rfl

theorem Comparison.operator (op : Comparison) : Operator op.level op.token (.compare op) := by
  cases op <;> constructor

/-- The level of an expression that is written without parentheses around it. -/
def Expr.level : Expr → Level
  | .literal _ => .primary
  | .variable _ => .primary
  | .member _ _ => .steps
  | .index _ _ => .steps
  | .not _ => .unary
  | .neg _ => .unary
  | .and _ _ => .and
  | .or _ _ => .or
  | .compare op _ _ => op.level

/-- Whether an expression needs parentheses where one of a level is wanted. -/
def Expr.looserThan (e : Expr) (wanted : Level) : Bool :=
  e.level.rank < wanted.rank

/-! ### Writing -/

/-- The token of a literal; a list or an object has none. -/
def literalTokens : Json → List Token
  | .null => [.ident "null"]
  | .bool true => [.ident "true"]
  | .bool false => [.ident "false"]
  | .num n => [.number n.toDouble]
  | .str s => [.text s]
  | .arr _ => []
  | .obj _ => []

/-- The tokens of an expression where one of a level is wanted, given the tokens of the expression
by itself. -/
def enclosed (wanted : Level) (e : Expr) (ts : List Token) : List Token :=
  if e.looserThan wanted then .openParen :: (ts ++ [.closeParen]) else ts

/-- The tokens that an expression is written with. -/
def Expr.tokens : Expr → List Token
  | .literal value => literalTokens value
  | .variable name => [.ident name]
  | .member target name => enclosed .steps target target.tokens ++ [.dot, .ident name]
  | .index target key =>
    enclosed .steps target target.tokens ++ .openBracket :: (key.tokens ++ [.closeBracket])
  | .not operand => .not :: enclosed .unary operand operand.tokens
  | .neg operand => .minus :: enclosed .unary operand operand.tokens
  | .and left right =>
    enclosed .and left left.tokens ++ .and :: enclosed .equality right right.tokens
  | .or left right => enclosed .or left left.tokens ++ .or :: enclosed .and right right.tokens
  | .compare op left right =>
    enclosed op.level left left.tokens ++ op.token :: enclosed op.rightLevel right right.tokens

/-- How deep an expression nests where one of a level is wanted, given how deep it nests by
itself. -/
def enclosedNesting (wanted : Level) (e : Expr) (n : Nat) : Nat :=
  if e.looserThan wanted then n + 1 else n

/-- How many parentheses, brackets and unary operators stand around the innermost point of an
expression as it is written. -/
def Expr.nesting : Expr → Nat
  | .literal _ => 0
  | .variable _ => 0
  | .member target _ => enclosedNesting .steps target target.nesting
  | .index target key => max (enclosedNesting .steps target target.nesting) (key.nesting + 1)
  | .not operand => enclosedNesting .unary operand operand.nesting + 1
  | .neg operand => enclosedNesting .unary operand operand.nesting + 1
  | .and left right =>
    max (enclosedNesting .and left left.nesting) (enclosedNesting .equality right right.nesting)
  | .or left right =>
    max (enclosedNesting .or left left.nesting) (enclosedNesting .and right right.nesting)
  | .compare op left right =>
    max (enclosedNesting op.level left left.nesting)
      (enclosedNesting op.rightLevel right right.nesting)

/-! ### What is written derives the expression -/

/-- The tokens of an expression, with parentheses around them where these are needed, derive it at
the level that is wanted. -/
theorem Derives.enclosed {n : Nat} {wanted : Level} {ts : List Token} {e : Expr}
    (h : Derives n e.level ts e) :
    Derives (enclosedNesting wanted e n) wanted (enclosed wanted e ts) e := by
  unfold Script.enclosed enclosedNesting
  by_cases hloose : e.looserThan wanted = true
  · rw [if_pos hloose, if_pos hloose]
    have hor : Derives n .or ts e := h.loosen (Nat.zero_le _)
    refine (Derives.parens hor).loosen ?_
    cases wanted <;> decide
  · rw [if_neg hloose, if_neg hloose]
    apply h.loosen
    simpa [Expr.looserThan] using hloose

/-- Two operands on either side of an operator. -/
theorem Derives.operands {n m : Nat} {place tighter : Level} {ts us : List Token}
    {left right : Expr} {t : Token} {build : Expr → Expr → Expr} (hop : Operator place t build)
    (hnext : place.next? = some tighter) (hleft : Derives n place ts left)
    (hright : Derives m tighter us right) :
    Derives (max n m) place (ts ++ t :: us) (build left right) :=
  .binary hop hnext (hleft.mono (Nat.le_max_left n m)) (hright.mono (Nat.le_max_right n m))

/-- A whole number below 2⁵³ is read as the number that it is. -/
theorem numberValue_ofInt {n : Nat} (h : n < 9007199254740992) :
    numberValue (Double.ofInt n) = .int n := by
  have hquotient : n * Double.unit / Double.unit = n := Nat.mul_div_cancel n Double.unit_pos
  have hrest : n * Double.unit % Double.unit = 0 := Nat.mul_mod_left ..
  have hsmall : n < 9223372036854775808 := by omega
  rw [Double.ofInt_of_lt h]
  unfold numberValue Double.truncate? Double.isWhole
  simp [hquotient, hrest, hsmall, Json.int]

/-- The tokens of an expression derive it at its own level. -/
theorem Expr.Printable.derives_level {e : Expr} (h : e.Printable) :
    Derives e.nesting e.level e.tokens e := by
  induction h with
  | null => exact .nullName 0
  | bool value =>
    cases value with
    | true => exact .trueName 0
    | false => exact .falseName 0
  | @whole n hn =>
    have hnumber := Derives.number 0 (Double.ofInt n)
    rw [numberValue_ofInt hn] at hnumber
    exact hnumber
  | text value => exact .text 0 value
  | name _ hfree => exact .otherName 0 hfree
  | @member target name _ _ ih => exact .member name ih.enclosed
  | @index target key _ _ ihtarget ihkey =>
    have hkey : Derives key.nesting .or key.tokens key := ihkey.loosen (Nat.zero_le _)
    have htarget : Derives (enclosedNesting .steps target target.nesting) .steps _ target :=
      ihtarget.enclosed
    -- the brackets count for the key alone
    obtain ⟨depth, hdepth⟩ : ∃ depth, (Expr.index target key).nesting = depth + 1 :=
      Nat.exists_eq_succ_of_ne_zero (by unfold nesting; omega)
    have hbound : enclosedNesting .steps target target.nesting ≤ depth + 1 := by
      rw [← hdepth]
      exact Nat.le_max_left ..
    have hkeybound : key.nesting + 1 ≤ depth + 1 := by
      rw [← hdepth]
      exact Nat.le_max_right ..
    rw [hdepth]
    exact .index (htarget.mono hbound) (hkey.mono (Nat.le_of_succ_le_succ hkeybound))
  | not _ ih => exact .not ih.enclosed
  | neg _ ih => exact .neg ih.enclosed
  | and _ _ ihleft ihright => exact .operands .and rfl ihleft.enclosed ihright.enclosed
  | or _ _ ihleft ihright => exact .operands .or rfl ihleft.enclosed ihright.enclosed
  | compare op _ _ ihleft ihright =>
    exact .operands op.operator op.next?_level ihleft.enclosed ihright.enclosed

/-- The tokens that an expression is written with derive it. -/
theorem Expr.Printable.derives {e : Expr} (h : e.Printable) :
    Derives e.nesting .or e.tokens e :=
  h.derives_level.loosen (Nat.zero_le _)

/-! ### No parentheses more than needed -/

theorem length_literalTokens_numberValue (value : Double) :
    (literalTokens (numberValue value)).length = 1 := by
  unfold numberValue
  split
  · split <;> rfl
  · rfl

theorem length_enclosed_le_of_rank_le {loose tight : Level} (h : loose.rank ≤ tight.rank) (e : Expr)
    (ts : List Token) : (enclosed loose e ts).length ≤ (enclosed tight e ts).length := by
  unfold enclosed Expr.looserThan
  by_cases hloose : e.level.rank < loose.rank
  · have htight : e.level.rank < tight.rank := Nat.lt_of_lt_of_le hloose h
    simp [hloose, htight]
  · rw [if_neg (by simpa using hloose)]
    split <;> simp; omega

/-- Where an expression of its level is wanted, two operands are written without parentheses around
them. -/
theorem Operator.enclosed_tokens {place tighter : Level} {t : Token} {build : Expr → Expr → Expr}
    (hop : Operator place t build) (hnext : place.next? = some tighter) (left right : Expr) :
    enclosed place (build left right) (build left right).tokens =
      enclosed place left left.tokens ++ t :: enclosed tighter right right.tokens := by
  cases hop <;> obtain rfl := Option.some.inj hnext <;> rfl

/-- What an expression is written with is the shortest of all that derives it where an expression
of the same level is wanted: no parentheses can be left out. -/
theorem Derives.length_enclosed_le {n : Nat} {wanted : Level} {ts : List Token} {e : Expr}
    (h : Derives n wanted ts e) : (Script.enclosed wanted e e.tokens).length ≤ ts.length := by
  induction h with
  | tighter hnext _ ih =>
    refine Nat.le_trans (length_enclosed_le_of_rank_le ?_ _ _) ih
    rw [Level.rank_of_next? hnext]
    exact Nat.le_succ _
  | @binary n place tighter ts us left right t build hop hnext _ _ ihleft ihright =>
    rw [hop.enclosed_tokens hnext]
    simp only [List.length_append, List.length_cons]
    omega
  | @not n ts operand _ ih =>
    show (Script.enclosed .unary operand operand.tokens).length + 1 ≤ ts.length + 1
    omega
  | @neg n ts operand _ ih =>
    show (Script.enclosed .unary operand operand.tokens).length + 1 ≤ ts.length + 1
    omega
  | @member n ts target name _ ih =>
    show (Script.enclosed .steps target target.tokens ++ [Token.dot, .ident name]).length ≤ _
    simp only [List.length_append]
    omega
  | @index n ts us target key _ _ ihtarget ihkey =>
    show (Script.enclosed .steps target target.tokens ++
      Token.openBracket :: (key.tokens ++ [.closeBracket])).length ≤ _
    change key.tokens.length ≤ us.length at ihkey
    simp only [List.length_append, List.length_cons]
    omega
  | number n value => exact Nat.le_of_eq (length_literalTokens_numberValue value)
  | text n value => exact Nat.le_refl _
  | trueName n => exact Nat.le_refl _
  | falseName n => exact Nat.le_refl _
  | nullName n => exact Nat.le_refl _
  | undefinedName n => exact Nat.le_refl _
  | otherName n hname => exact Nat.le_refl _
  | @parens n ts e _ ih =>
    change e.tokens.length ≤ ts.length at ih
    unfold Script.enclosed
    split <;> simp only [List.length_append, List.length_cons, List.length_nil] <;> omega

end HttpScenario.Script
