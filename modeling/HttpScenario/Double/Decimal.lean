import HttpScenario.Double.Basic
/-!
# Reading decimals

A decimal is a whole number of digits times a power of ten.  `ofDecimal` gives the double nearest
to it, rounding once.  `read?` reads the texts that stand for a number: an optional sign, digits
with at most one point among them, and an optional exponent, or a word for infinity or for a NaN in
any case of letters.
-/

namespace HttpScenario.Double

/-- The double nearest to `digits · 10^exponent`.  Exponents that are too far out for any rounding
to matter are answered at once, so that no huge power is formed. -/
def ofDecimal (negative : Bool) (digits : Nat) (exponent : Int) : Double :=
  if digits = 0 then .finite negative 0
  else if 310 < exponent then .infinite negative
  else if exponent < -(340 + (digits.log2 : Int)) then .finite negative 0
  else if 0 ≤ exponent then ofQuotient negative (digits * Nat.pow 10 exponent.toNat) 1
  else ofQuotient negative digits (Nat.pow 10 (-exponent).toNat)

/-- The value of an ASCII digit. -/
def digitValue (c : Char) : Nat :=
  c.toNat - '0'.toNat

/-- The number that a run of digits writes in base ten. -/
def digitsValue (cs : List Char) : Nat :=
  cs.foldl (fun n c => n * 10 + digitValue c) 0

/-- A whole number with an optional sign, as in an exponent. -/
def signedDigits? : List Char → Option Int
  | '-' :: cs => if !cs.isEmpty && cs.all Char.isDigit then some (-(digitsValue cs : Int)) else none
  | '+' :: cs => if !cs.isEmpty && cs.all Char.isDigit then some (digitsValue cs) else none
  | cs => if !cs.isEmpty && cs.all Char.isDigit then some (digitsValue cs) else none

/-- The digits and the exponent of an unsigned decimal text; at least one digit stands before the
exponent. -/
def decimalParts? (cs : List Char) : Option (Nat × Int) :=
  let whole := cs.takeWhile Char.isDigit
  let afterWhole := cs.dropWhile Char.isDigit
  let (fraction, afterFraction) :=
    match afterWhole with
    | '.' :: rest => (rest.takeWhile Char.isDigit, rest.dropWhile Char.isDigit)
    | rest => ([], rest)
  if whole.isEmpty && fraction.isEmpty then none
  else
    let digits := digitsValue (whole ++ fraction)
    let shift : Int := -(fraction.length : Int)
    match afterFraction with
    | [] => some (digits, shift)
    | c :: rest =>
      if c == 'e' || c == 'E' then (signedDigits? rest).map fun e => (digits, shift + e) else none

/-- The magnitude of an unsigned text for a number. -/
def readUnsigned? (negative : Bool) (cs : List Char) : Option Double :=
  match decimalParts? cs with
  | some (digits, exponent) => some (ofDecimal negative digits exponent)
  | none =>
    let word := cs.map Char.toLower
    if word == "inf".toList || word == "infinity".toList then some (.infinite negative)
    else if word == "nan".toList then some .nan
    else none

/-- The double nearest to the number a text writes, if it writes one. -/
def read? (s : String) : Option Double :=
  match s.toList with
  | '-' :: cs => readUnsigned? true cs
  | '+' :: cs => readUnsigned? false cs
  | cs => readUnsigned? false cs

end HttpScenario.Double
