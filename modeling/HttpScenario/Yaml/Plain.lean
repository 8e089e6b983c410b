import HttpScenario.Double.Decimal
import HttpScenario.Text.Hex
import HttpScenario.Text.Pieces
/-!
# What plain scalars stand for

A plain scalar can stand for null, a truth value or a number; otherwise it is a text.  Numbers may
be written in base sixteen, eight or two.  A number with a needless zero in front is a text, since
other readers take it for octal.
-/

namespace HttpScenario.Yaml

/-- Whether a text stands for null. -/
def isNull (s : String) : Bool :=
  s == "null" || s == "Null" || s == "NULL" || s == "~"

/-- The truth value that a text stands for. -/
def flag? (s : String) : Option Bool :=
  if s = "true" ∨ s = "True" ∨ s = "TRUE" then some true
  else if s = "false" ∨ s = "False" ∨ s = "FALSE" then some false
  else none

/-- Whether a text is digits with a needless zero in front. -/
def hasLeadingZero (cs : List Char) : Bool :=
  let digits := match cs with
    | '-' :: rest => rest
    | '+' :: rest => rest
    | cs => cs
  match digits with
  | '0' :: d :: rest => (d :: rest).all Char.isDigit
  | _ => false

/-- A number without a sign in a base, digits only. -/
def digits? (base : Nat) (cs : List Char) : Option Nat :=
  if cs.isEmpty then none else Text.digitsNumber? base cs

/-- The base that a prefix of a number names, and what follows it. -/
def basePrefix? : List Char → Option (Nat × List Char)
  | '0' :: 'x' :: rest => some (16, rest)
  | '0' :: 'o' :: rest => some (8, rest)
  | '0' :: 'b' :: rest => some (2, rest)
  | _ => none

/-- A number in a base that its prefix names. -/
def prefixed? (cs : List Char) : Option Nat :=
  (basePrefix? cs).bind fun (base, rest) => digits? base rest

/-- A number without a sign: in a base that its prefix names, or in base ten. -/
def magnitude? (cs : List Char) : Option Nat :=
  match prefixed? cs with
  | some n => some n
  | none => digits? 10 cs

/-- The whole number that a text stands for. -/
def whole? (s : String) : Option Int :=
  let cs := s.toList
  match cs with
  | '-' :: rest =>
    match prefixed? rest with
    | some n => some (-(n : Int))
    | none => if hasLeadingZero cs then none else (digits? 10 rest).map fun n => -(n : Int)
  | '+' :: rest => if hasLeadingZero cs then none else (magnitude? rest).map fun n => (n : Int)
  | _ => if hasLeadingZero cs then none else (magnitude? cs).map fun n => (n : Int)

/-- Whether a whole number fits into 128 bits, with a sign or without. -/
def fitsWords (n : Int) : Bool :=
  decide (-(Nat.pow 2 127 : Nat) ≤ n) && decide (n < (Nat.pow 2 128 : Nat))

/-- The double that a text stands for. -/
def real? (s : String) : Option Double :=
  let cs := s.toList
  let unsigned := match cs with
    | '+' :: rest => rest
    | cs => cs
  let word := String.ofList unsigned
  if word = ".inf" ∨ word = ".Inf" ∨ word = ".INF" then some (.infinite false)
  else if s = "-.inf" ∨ s = "-.Inf" ∨ s = "-.INF" then some (.infinite true)
  else if s = ".nan" ∨ s = ".NaN" ∨ s = ".NAN" then some .nan
  else if cs.head? = some '+' ∧ (unsigned.head? = some '+' ∨ unsigned.head? = some '-') then none
  else (Double.read? word).filter Double.isFinite

end HttpScenario.Yaml
