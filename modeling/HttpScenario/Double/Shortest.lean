import HttpScenario.Double.Basic
/-!
# Shortest digits and their layout

A double stands for every real number that rounds to it.  Its shortest digits are the fewest
decimal digits that name a real in that interval; of two candidates with the same number of digits
the nearer one is taken, and where both are equally near the layout decides.

The interval and the candidates are kept in quarters of a unit, so that the borders of the interval
are whole numbers.  `Decimal` is a number of digits times a power of ten; a `Layout` says how such a
decimal is written: which exponents are positional, whether a whole number gets a `.0`, and how an
exponent is marked.
-/

namespace HttpScenario.Double

/-- `digits` times ten to the `exponent`. -/
structure Decimal where
  digits : Nat
  exponent : Int
  deriving DecidableEq, Repr

/-- Which way a tie between two equally near and equally short decimals goes. -/
inductive TieRule where
  | toEven
  | up
  deriving DecidableEq, Repr

/-- Ten to a signed power as a pair of a numerator and a denominator. -/
def powerOfTen (exponent : Int) : Nat × Nat :=
  if 0 ≤ exponent then (Nat.pow 10 exponent.toNat, 1) else (1, Nat.pow 10 (-exponent).toNat)

/-- How many decimal digits a number has. -/
def digitCount (n : Nat) : Nat :=
  (Nat.toDigits 10 n).length

/-- The candidates of one grid: the multiples of ten to the `exponent` at or just below a positive
number of units, and just above it. -/
def neighbours (units : Nat) (exponent : Int) : Nat × Nat :=
  let (num, den) := powerOfTen exponent
  let low := units * den / (num * unit)
  (low, low + 1)

/-- The distance, in a common scale, of a candidate on a grid from a number of units. -/
def gridDistance (units : Nat) (exponent : Int) (candidate : Nat) : Nat :=
  let (num, den) := powerOfTen exponent
  ((candidate * num * unit : Nat) - (units * den : Nat) : Int).natAbs

/-- Whether a candidate on a grid lies among the reals that round to a number of units. -/
def roundsTo (units : Nat) (exponent : Int) (candidate : Nat) : Bool :=
  let (num, den) := powerOfTen exponent
  let spacing := Nat.pow 2 (units.log2 - 52)
  let below := if units = Nat.pow 2 units.log2 && 1 < spacing then spacing else 2 * spacing
  let low := (4 * units - below) * den
  let high := (4 * units + 2 * spacing) * den
  let point := 4 * candidate * num * unit
  if units / spacing % 2 = 0 then low ≤ point && point ≤ high else low < point && point < high

/-- The better of the two candidates of a grid, if one of them lies in the interval. -/
def pick? (tie : TieRule) (units : Nat) (exponent : Int) : Option Nat :=
  let (low, high) := neighbours units exponent
  match roundsTo units exponent low && 0 < low, roundsTo units exponent high with
  | true, false => some low
  | false, true => some high
  | false, false => none
  | true, true =>
    let lowDistance := gridDistance units exponent low
    let highDistance := gridDistance units exponent high
    if lowDistance < highDistance then some low
    else if highDistance < lowDistance then some high
    else
      match tie with
      | .up => some high
      | .toEven => some (if low % 2 = 0 then low else high)

/-- Tries grids from coarse to fine. -/
def shortestFrom (tie : TieRule) (units : Nat) (exponent : Int) : Nat → Decimal
  | 0 => ⟨(neighbours units exponent).1, exponent⟩
  | tries + 1 =>
    match pick? tie units exponent with
    | some digits => ⟨digits, exponent⟩
    | none => shortestFrom tie units (exponent - 1) tries

/-- The exponent of the coarsest grid worth trying: that of the first digit, or one above it. -/
def leadingExponent (units : Nat) : Int :=
  if unit ≤ units then digitCount (units / unit)
  else 1 - (digitCount (unit / units) : Int)

/-- Drops zeros at the end of the digits. -/
def dropZeros (digits : Nat) (exponent : Int) : Nat → Decimal
  | 0 => ⟨digits, exponent⟩
  | tries + 1 =>
    if digits % 10 = 0 ∧ digits ≠ 0 then dropZeros (digits / 10) (exponent + 1) tries
    else ⟨digits, exponent⟩

/-- The shortest decimal for a positive number of units. -/
def shortest (tie : TieRule) (units : Nat) : Decimal :=
  let found := shortestFrom tie units (leadingExponent units) 20
  dropZeros found.digits found.exponent 20

/-- How a finite number is written. -/
structure Layout where
  /-- Which of two equally near shortest decimals is taken. -/
  tie : TieRule
  /-- The exponents of the first digit for which the number is written without an exponent. -/
  positional : Int → Bool
  /-- Whether a whole number written without an exponent ends in `.0`. -/
  keepsPoint : Bool
  /-- The sign written before an exponent that is not negative. -/
  plus : String

/-- The digits of a number in base ten. -/
def decimalDigits (n : Nat) : List Char :=
  Nat.toDigits 10 n

/-- A decimal without an exponent. -/
def positionalText (keepsPoint : Bool) (d : Decimal) : List Char :=
  let digits := decimalDigits d.digits
  if 0 ≤ d.exponent then
    digits ++ List.replicate d.exponent.toNat '0' ++ (if keepsPoint then ['.', '0'] else [])
  else
    let places := (-d.exponent).toNat
    if digits.length ≤ places then
      ['0', '.'] ++ List.replicate (places - digits.length) '0' ++ digits
    else digits.take (digits.length - places) ++ '.' :: digits.drop (digits.length - places)

/-- A decimal with one digit before the point and an exponent. -/
def exponentText (plus : String) (first : Int) (d : Decimal) : List Char :=
  let mantissa :=
    match decimalDigits d.digits with
    | [] => []
    | [c] => [c]
    | c :: rest => c :: '.' :: rest
  let exponent :=
    if first < 0 then '-' :: decimalDigits (-first).toNat
    else plus.toList ++ decimalDigits first.toNat
  mantissa ++ 'e' :: exponent

/-- The text of a positive number of units. -/
def magnitudeText (layout : Layout) (units : Nat) : List Char :=
  if units = 0 then if layout.keepsPoint then ['0', '.', '0'] else ['0']
  else
    let d := shortest layout.tie units
    let first : Int := d.exponent + (digitCount d.digits : Int) - 1
    if layout.positional first then positionalText layout.keepsPoint d
    else exponentText layout.plus first d

/-- The text of a double; the words for infinity and NaN are those of a plain number. -/
def text (layout : Layout) : Double → String
  | .finite negative units =>
    String.ofList ((if negative then ['-'] else []) ++ magnitudeText layout units)
  | .infinite negative => if negative then "-inf" else "inf"
  | .nan => "NaN"

/-- Numbers in messages about scripts: never an exponent, no point after a whole number, and a tie
goes up. -/
def plainLayout : Layout :=
  { tie := .up, positional := fun _ => true, keepsPoint := false, plus := "" }

/-- The text of a finite number with one place after the point, a tie going to the even digit. -/
def onePlace : Double → String
  | .finite negative units =>
    let tenths := divideHalfEven (units * 10) unit
    String.ofList ((if negative then ['-'] else []) ++ decimalDigits (tenths / 10)
      ++ '.' :: decimalDigits (tenths % 10))
  | d => text plainLayout d

end HttpScenario.Double
