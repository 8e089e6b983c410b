/-!
# Hexadecimal digits

The values of hexadecimal digits in either case, and of runs of them.
-/

namespace HttpScenario.Text

/-- The value of a hexadecimal digit. -/
def hexDigit? (c : Char) : Option Nat :=
  if c.isDigit then some (c.toNat - 48)
  else if 'a' ≤ c ∧ c ≤ 'f' then some (c.toNat - 87)
  else if 'A' ≤ c ∧ c ≤ 'F' then some (c.toNat - 55)
  else none

/-- The number that some digits write in a base of at most sixteen, all digits below the base. -/
def digitsNumber? (base : Nat) (digits : List Char) : Option Nat :=
  digits.foldl
    (fun n? c =>
      match n?, hexDigit? c with
      | some n, some d => if d < base then some (n * base + d) else none
      | _, _ => none)
    (some 0)

/-- The number that hexadecimal digits write. -/
def hexNumber? (digits : List Char) : Option Nat :=
  digitsNumber? 16 digits

end HttpScenario.Text
