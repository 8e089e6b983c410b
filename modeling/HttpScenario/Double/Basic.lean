/-!
# Double-precision numbers, exactly

Every finite double is a whole number of the same tiny unit, 2⁻¹⁰⁷⁴.  A finite double is therefore
kept as a sign and a natural number of units, and all arithmetic on doubles is exact arithmetic on
naturals followed by one rounding (`roundUnits`): to the nearest multiple of a power of two that
leaves 53 significant bits, a tie going to the even neighbour.

Comparing doubles is comparing whole numbers: `rank` sends each double that is not a NaN to an
integer, infinities beyond all finite ones, and the two zeros to the same place.
-/

namespace HttpScenario

/-- A double-precision number.  A finite one is `units` times 2⁻¹⁰⁷⁴, with a sign that also tells
the two zeros apart. -/
inductive Double where
  | finite (negative : Bool) (units : Nat)
  | infinite (negative : Bool)
  | nan
  deriving DecidableEq, Repr, Inhabited

namespace Double

/-- The exponent of the unit: one is 2¹⁰⁷⁴ units. -/
def unitBits : Nat := 1074

/-- How many units one is. -/
def unit : Nat := Nat.pow 2 unitBits

/-- Units from which on a magnitude is infinite: 2¹⁰²⁴. -/
def ceiling : Nat := Nat.pow 2 2098

/-- The quotient to the nearest natural number, a tie going to the even one. -/
def divideHalfEven (num den : Nat) : Nat :=
  let quotient := num / den
  let rest := num % den
  if 2 * rest < den then quotient
  else if den < 2 * rest then quotient + 1
  else quotient + quotient % 2

/-- The units of `num / den` units after rounding to 53 significant bits. -/
def roundUnits (num den : Nat) : Nat :=
  let spare := (num / den).log2 - 52
  divideHalfEven num (den * Nat.pow 2 spare) * Nat.pow 2 spare

/-- The double nearest to a quotient of units. -/
def ofUnits (negative : Bool) (num den : Nat) : Double :=
  let units := roundUnits num den
  if units < ceiling then .finite negative units else .infinite negative

/-- The double nearest to `num / den`. -/
def ofQuotient (negative : Bool) (num den : Nat) : Double :=
  ofUnits negative (num * unit) den

/-- The double nearest to a whole number. -/
def ofInt (value : Int) : Double :=
  ofQuotient (value < 0) value.natAbs 1

/-- Positive zero. -/
def zero : Double := .finite false 0

/-- Changes the sign. -/
def neg : Double → Double
  | .finite negative units => .finite (!negative) units
  | .infinite negative => .infinite (!negative)
  | .nan => .nan

/-- The place of a double among the integers, in units; a NaN has none. -/
def rank : Double → Option Int
  | .finite negative units => some (if negative then -(units : Int) else units)
  | .infinite negative => some (if negative then -(ceiling : Int) else ceiling)
  | .nan => none

/-- The order of two doubles; a NaN stands in no order to anything. -/
def compare? (a b : Double) : Option Ordering :=
  match a.rank, b.rank with
  | some x, some y => some (compare x y)
  | _, _ => none

/-- Equality as numbers: the zeros are equal, and a NaN equals nothing. -/
def same (a b : Double) : Bool :=
  match a.rank, b.rank with
  | some x, some y => x == y
  | _, _ => false

/-- The sum, rounded once. -/
def add : Double → Double → Double
  | .finite n u, .finite m v =>
    let sum : Int := (if n then -(u : Int) else u) + (if m then -(v : Int) else v)
    if sum = 0 then .finite (n && m) 0 else ofUnits (sum < 0) sum.natAbs 1
  | .infinite n, .infinite m => if n = m then .infinite n else .nan
  | .infinite n, .finite _ _ => .infinite n
  | .finite _ _, .infinite m => .infinite m
  | .nan, _ => .nan
  | _, .nan => .nan

/-- The product, rounded once. -/
def mul : Double → Double → Double
  | .finite n u, .finite m v => ofUnits (n != m) (u * v) unit
  | .infinite n, .infinite m => .infinite (n != m)
  | .infinite n, .finite m v => if v = 0 then .nan else .infinite (n != m)
  | .finite n u, .infinite m => if u = 0 then .nan else .infinite (n != m)
  | .nan, _ => .nan
  | _, .nan => .nan

/-- The quotient, rounded once. -/
def div : Double → Double → Double
  | .finite n u, .finite m v =>
    if v = 0 then (if u = 0 then .nan else .infinite (n != m))
    else ofUnits (n != m) (u * unit) v
  | .infinite _, .infinite _ => .nan
  | .infinite n, .finite m _ => .infinite (n != m)
  | .finite n _, .infinite m => .finite (n != m) 0
  | .nan, _ => .nan
  | _, .nan => .nan

/-- Whether the number is finite and has no fraction. -/
def isWhole : Double → Bool
  | .finite _ units => units % unit == 0
  | _ => false

/-- The number without its fraction; what is not finite has no whole part. -/
def truncate? : Double → Option Int
  | .finite negative units =>
    let magnitude : Int := (units / unit : Nat)
    some (if negative then -magnitude else magnitude)
  | _ => none

/-- Whether the number is finite. -/
def isFinite : Double → Bool
  | .finite _ _ => true
  | _ => false

/-- Comparing for equality is looking at the ranks. -/
theorem same_iff {a b : Double} : a.same b = true ↔ ∃ x, a.rank = some x ∧ b.rank = some x := by
  unfold same
  cases ha : a.rank <;> cases hb : b.rank <;> simp
  exact ⟨fun h => h.symm, fun h => h.symm⟩

theorem same_comm (a b : Double) : a.same b = b.same a := by
  unfold same
  cases a.rank <;> cases b.rank <;> simp [Bool.beq_comm]

end Double

end HttpScenario
