import HttpScenario.Script.Expr
import HttpScenario.Script.Token
/-!
# The grammar of scripts

What it means for tokens to write an expression:

```text
or       := and ( "||" and )*
and      := equality ( "&&" equality )*
equality := order ( ( "==" | "===" | "!=" | "!==" ) order )*
order    := unary ( ( "<" | "<=" | ">" | ">=" ) unary )*
unary    := ( "!" | "-" ) unary | steps
steps    := primary ( "." name | "[" or "]" )*
primary  := number | text | true | false | null | undefined | name | "(" or ")"
```

The binary operators of a level are left-associative, and so are the steps.  `Derives n` is about
derivations in which no point lies inside more than `n` parentheses, brackets and unary operators
together; a derivation of whatever depth is one for some `n`.

The relation says nothing about how a derivation is found, and its rules mention no reader.
-/

namespace HttpScenario.Script

/-- The levels of expressions, from the loosest to the tightest. -/
inductive Level where
  | or
  | and
  | equality
  | order
  | unary
  | steps
  | primary
  deriving DecidableEq, Repr

namespace Level

/-- The level that is tighter by one. -/
def next? : Level → Option Level
  | or => some and
  | and => some equality
  | equality => some order
  | order => some unary
  | unary => some steps
  | steps => some primary
  | primary => none

/-- How tight a level is. -/
def rank : Level → Nat
  | or => 0
  | and => 1
  | equality => 2
  | order => 3
  | unary => 4
  | steps => 5
  | primary => 6

theorem rank_of_next? {level tighter : Level} (h : level.next? = some tighter) :
    tighter.rank = level.rank + 1 := by
  cases level <;> cases h <;> rfl

theorem eq_of_rank_eq {place other : Level} (h : place.rank = other.rank) :
    place = other := by
  cases place <;> cases other <;> first | rfl | cases h

/-- Every level but the tightest has a tighter one next to it. -/
theorem exists_next? {place tight : Level} (h : place.rank < tight.rank) :
    ∃ tighter, place.next? = some tighter := by
  cases place with
  | primary => cases tight <;> exact absurd h (by decide)
  | or | and | equality | order | unary | steps => exact ⟨_, rfl⟩

end Level

/-- The binary operators: at which level a token joins two expressions, and to what. -/
inductive Operator : Level → Token → (Expr → Expr → Expr) → Prop
  | or : Operator .or .or .or
  | and : Operator .and .and .and
  | equal : Operator .equality .equal (.compare .equal)
  | strictEqual : Operator .equality .strictEqual (.compare .strictEqual)
  | notEqual : Operator .equality .notEqual (.compare .notEqual)
  | strictNotEqual : Operator .equality .strictNotEqual (.compare .strictNotEqual)
  | less : Operator .order .less (.compare .less)
  | lessEqual : Operator .order .lessEqual (.compare .lessEqual)
  | greater : Operator .order .greater (.compare .greater)
  | greaterEqual : Operator .order .greaterEqual (.compare .greaterEqual)

/-- The names that stand for a value and not for a variable. -/
def reservedNames : List String :=
  ["true", "false", "null", "undefined"]

/-- Tokens write an expression at a level, with at most so many parentheses, brackets and unary
operators around any point. -/
inductive Derives : Nat → Level → List Token → Expr → Prop
  /-- What is written at a level is written at the looser ones. -/
  | tighter {n : Nat} {level tighter : Level} {ts : List Token} {e : Expr}
      (hnext : level.next? = some tighter) (h : Derives n tighter ts e) : Derives n level ts e
  | binary {n : Nat} {level tighter : Level} {ts us : List Token} {left right : Expr}
      {t : Token} {build : Expr → Expr → Expr} (hop : Operator level t build)
      (hnext : level.next? = some tighter) (hleft : Derives n level ts left)
      (hright : Derives n tighter us right) : Derives n level (ts ++ t :: us) (build left right)
  | not {n : Nat} {ts : List Token} {operand : Expr} (h : Derives n .unary ts operand) :
      Derives (n + 1) .unary (.not :: ts) (.not operand)
  | neg {n : Nat} {ts : List Token} {operand : Expr} (h : Derives n .unary ts operand) :
      Derives (n + 1) .unary (.minus :: ts) (.neg operand)
  /-- Any name may follow a dot. -/
  | member {n : Nat} {ts : List Token} {target : Expr} (name : String)
      (htarget : Derives n .steps ts target) :
      Derives n .steps (ts ++ [.dot, .ident name]) (.member target name)
  | index {n : Nat} {ts us : List Token} {target key : Expr}
      (htarget : Derives (n + 1) .steps ts target) (hkey : Derives n .or us key) :
      Derives (n + 1) .steps (ts ++ .openBracket :: (us ++ [.closeBracket])) (.index target key)
  | number (n : Nat) (value : Double) :
      Derives n .primary [.number value] (.literal (numberValue value))
  | text (n : Nat) (value : String) : Derives n .primary [.text value] (.literal (.str value))
  | trueName (n : Nat) : Derives n .primary [.ident "true"] (.literal (.bool true))
  | falseName (n : Nat) : Derives n .primary [.ident "false"] (.literal (.bool false))
  | nullName (n : Nat) : Derives n .primary [.ident "null"] (.literal .null)
  | undefinedName (n : Nat) : Derives n .primary [.ident "undefined"] (.literal .null)
  | otherName (n : Nat) {name : String} (hname : name ∉ reservedNames) :
      Derives n .primary [.ident name] (.variable name)
  | parens {n : Nat} {ts : List Token} {e : Expr} (h : Derives n .or ts e) :
      Derives (n + 1) .primary (.openParen :: (ts ++ [.closeParen])) e

/-- A derivation is one for every greater depth. -/
theorem Derives.succ {n : Nat} {level : Level} {ts : List Token} {e : Expr}
    (h : Derives n level ts e) : Derives (n + 1) level ts e := by
  induction h with
  | tighter hnext _ ih => exact .tighter hnext ih
  | binary hop hnext _ _ ihleft ihright => exact .binary hop hnext ihleft ihright
  | not _ ih => exact .not ih
  | neg _ ih => exact .neg ih
  | member name _ ih => exact .member name ih
  | index _ _ ihtarget ihkey => exact .index ihtarget ihkey
  | number n value => exact .number (n + 1) value
  | text n value => exact .text (n + 1) value
  | trueName n => exact .trueName (n + 1)
  | falseName n => exact .falseName (n + 1)
  | nullName n => exact .nullName (n + 1)
  | undefinedName n => exact .undefinedName (n + 1)
  | otherName n hname => exact .otherName (n + 1) hname
  | parens _ ih => exact .parens ih

theorem Derives.mono {n m : Nat} {level : Level} {ts : List Token} {e : Expr}
    (h : Derives n level ts e) (hle : n ≤ m) : Derives m level ts e := by
  induction hle with
  | refl => exact h
  | step _ ih => exact ih.succ

/-- What is written at a level is written at every looser one. -/
theorem Derives.loosen {n : Nat} {tight : Level} {ts : List Token} {e : Expr}
    (h : Derives n tight ts e) {loose : Level} (hle : loose.rank ≤ tight.rank) :
    Derives n loose ts e := by
  obtain ⟨gap, hgap⟩ := Nat.exists_eq_add_of_le hle
  induction gap generalizing loose with
  | zero =>
    obtain rfl := Level.eq_of_rank_eq hgap
    exact h
  | succ gap ih =>
    obtain ⟨tighter, hnext⟩ := Level.exists_next? (show loose.rank < tight.rank by omega)
    have hrank := Level.rank_of_next? hnext
    exact .tighter hnext (ih (by omega) (by omega))

end HttpScenario.Script
