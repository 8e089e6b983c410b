/-!
# Punycode

Labels of a domain name that hold other characters than ASCII are written with ASCII alone: the
ASCII characters first, then, after a hyphen, where to insert which others.  The insertions are a
sequence of numbers in a variable-length base 36; each number says how many places and characters
to pass over since the last insertion.
-/

namespace HttpScenario.Url.Punycode

/-- The base of the digits. -/
def base : Nat := 36

/-- The least threshold of a digit. -/
def lowThreshold : Nat := 1

/-- The greatest threshold of a digit. -/
def highThreshold : Nat := 26

/-- The value of a digit. -/
def digit? (c : Char) : Option Nat :=
  if 'a' ≤ c ∧ c ≤ 'z' then some (c.toNat - 97)
  else if 'A' ≤ c ∧ c ≤ 'Z' then some (c.toNat - 65)
  else if '0' ≤ c ∧ c ≤ '9' then some (c.toNat - 48 + 26)
  else none

/-- Brings a distance into the range of the thresholds, and counts the digits that this saves. -/
def reduce : (tries : Nat) → (delta count : Nat) → Nat
  | 0, delta, count => count + base * delta / (delta + 38)
  | tries + 1, delta, count =>
    if (base - lowThreshold) * highThreshold / 2 < delta then
      reduce tries (delta / (base - lowThreshold)) (count + base)
    else count + base * delta / (delta + 38)

/-- The bias for the next number. -/
def adapt (delta points : Nat) (first : Bool) : Nat :=
  let delta := if first then delta / 700 else delta / 2
  reduce 64 (delta + delta / points) 0

/-- The threshold of the digit at a place. -/
def threshold (k bias : Nat) : Nat :=
  if k ≤ bias then lowThreshold
  else if bias + highThreshold ≤ k then highThreshold
  else k - bias

/-- Reads one number: what it adds, and what follows it. -/
def readNumber : List Char → (k bias weight total : Nat) → Option (Nat × List Char)
  | [], _, _, _, _ => none
  | c :: rest, k, bias, weight, total =>
    match digit? c with
    | none => none
    | some d =>
      let total := total + d * weight
      let t := threshold k bias
      if 4294967296 ≤ total then none
      else if d < t then some (total, rest)
      else readNumber rest (k + base) bias (weight * (base - t)) total

/-- Makes the insertions that some digits write. -/
def insertAll : (tries : Nat) → List Char → (n i bias : Nat) → List Nat → Option (List Nat)
  | 0, _, _, _, _, _ => none
  | _ + 1, [], _, _, _, output => some output
  | tries + 1, c :: cs, n, i, bias, output =>
    match readNumber (c :: cs) base bias 1 i with
    | none => none
    | some (next, rest) =>
      let points := output.length + 1
      let bias := adapt (next - i) points (i == 0 && output.length == points - 1 && n == 128)
      let n := n + next / points
      let place := next % points
      if 0x110000 ≤ n ∨ (0xD800 ≤ n ∧ n ≤ 0xDFFF) then none
      else insertAll tries rest n (place + 1) bias (output.take place ++ n :: output.drop place)

/-- What stands before the last hyphen, if there is one, and what follows it. -/
def splitLast (cs : List Char) : List Char × List Char :=
  match cs.reverse.span (· != '-') with
  | (after, _ :: before) => (before.reverse, after.reverse)
  | (after, []) => ([], after.reverse)

/-- The characters that a label stands for, given what follows its prefix. -/
def decode? (cs : List Char) : Option (List Nat) :=
  let (plain, digits) := splitLast cs
  insertAll (digits.length + 1) digits 128 0 72 (plain.map Char.toNat)

end HttpScenario.Url.Punycode
