import HttpScenario.Double.Decimal
import HttpScenario.Text.Hex
import HttpScenario.Text.Pieces
import HttpScenario.Toml.Value
/-!
# Numbers and points in time

Numbers are whole ones in base ten, sixteen, eight or two, or decimals; single underscores may stand
between digits.  A date or a time of day is told from a number by its first hyphen or colon, and has
to exist in the calendar.
-/

namespace HttpScenario.Toml

/-! ## Digits -/

/-- Reads further digits, with single underscores between digits. -/
def readMoreDigits (isDigit : Char → Bool) : Reader (List Char)
  | [] => .ok ([], [])
  | '_' :: c :: rest =>
    if isDigit c then
      (readMoreDigits isDigit rest).map fun (digits, rest) => (c :: digits, rest)
    else .error .malformed
  | c :: rest =>
    if isDigit c then
      (readMoreDigits isDigit rest).map fun (digits, rest) => (c :: digits, rest)
    else if c = '_' then .error .malformed
    else .ok ([], c :: rest)

/-- Reads one or more digits. -/
def readDigits (isDigit : Char → Bool) : Reader (List Char)
  | c :: rest =>
    if isDigit c then
      (readMoreDigits isDigit rest).map fun (digits, rest) => (c :: digits, rest)
    else .error .malformed
  | [] => .error .malformed

/-- Reads the digits of a number in base ten, in which no zero is needlessly in front. -/
def readDecimal : Reader (List Char)
  | '0' :: rest => .ok (['0'], rest)
  | s => readDigits Char.isDigit s

/-- A sign, if one comes next: whether it is a minus, and what follows. -/
def splitSign : List Char → Bool × List Char
  | '-' :: rest => (true, rest)
  | '+' :: rest => (false, rest)
  | s => (false, s)

/-! ## Numbers -/

/-- A whole number, which has to fit into 64 bits. -/
def wholeValue (n : Int) : Except Fault Value :=
  if -9223372036854775808 ≤ n ∧ n ≤ 9223372036854775807 then .ok (.whole n)
  else .error .outOfRange

/-- A decimal.  It must not be so great that only infinity is near; a negative one may. -/
def realValue (negative : Bool) (digits : List Char) (exponent : Int) : Except Fault Value :=
  match Double.ofDecimal negative (Double.digitsValue digits) exponent with
  | .infinite false => .error .outOfRange
  | d => .ok (.real d)

/-- Reads a whole number whose base is named by a prefix that has been read. -/
def readInBase (base : Nat) : Reader Value := fun s => do
  let (digits, s) ← readDigits (fun c => (Text.hexDigit? c).any (· < base)) s
  let value ← wholeValue ((Text.digitsNumber? base digits).getD 0 : Nat)
  .ok (value, s)

/-- Reads an exponent whose letter has been read. -/
def readExponent : Reader Int := fun s => do
  let (negative, s) := splitSign s
  let (digits, s) ← readDigits Char.isDigit s
  let n : Int := Double.digitsValue digits
  .ok (if negative then -n else n, s)

/-- Whether a letter starts an exponent. -/
def isExponentMark (c : Char) : Bool :=
  c == 'e' || c == 'E'

/-- Reads an exponent, if there is one. -/
def readExponentIfAny : Reader Int
  | c :: rest => if isExponentMark c then readExponent rest else .ok (0, c :: rest)
  | [] => .ok (0, [])

/-- Reads what may follow the first digits of a number in base ten. -/
def readAfterDigits (negative : Bool) (digits : List Char) : Reader Value
  | '.' :: rest => do
    let (fraction, rest) ← readDigits Char.isDigit rest
    let (exponent, rest) ← readExponentIfAny rest
    let value ← realValue negative (digits ++ fraction) (exponent - fraction.length)
    .ok (value, rest)
  | s => do
    if s.head?.any isExponentMark then
      let (exponent, s) ← readExponentIfAny s
      let value ← realValue negative digits exponent
      .ok (value, s)
    else
      let n : Int := Double.digitsValue digits
      let value ← wholeValue (if negative then -n else n)
      .ok (value, s)

/-- Reads a number. -/
def readNumber : Reader Value
  | '0' :: 'x' :: rest => readInBase 16 rest
  | '0' :: 'o' :: rest => readInBase 8 rest
  | '0' :: 'b' :: rest => readInBase 2 rest
  | s =>
    let (negative, s) := splitSign s
    match s with
    | 'i' :: 'n' :: 'f' :: rest => .ok (.real (.infinite negative), rest)
    | 'n' :: 'a' :: 'n' :: rest => .ok (.real .nan, rest)
    | s => do
      let (digits, s) ← readDecimal s
      readAfterDigits negative digits s

/-! ## Points in time -/

/-- So many digits from the front, and what follows them. -/
def takeDigits? (count : Nat) (s : List Char) : Option (Nat × List Char) :=
  let digits := s.take count
  if digits.length = count ∧ digits.all Char.isDigit then
    some (Double.digitsValue digits, s.drop count)
  else none

/-- Two digits that write a number between two bounds, and what follows them. -/
def twoDigits? (low high : Nat) (s : List Char) : Option (Nat × List Char) :=
  (takeDigits? 2 s).filter fun (n, _) => low ≤ n ∧ n ≤ high

/-- The days of a month. -/
def daysIn (year month : Nat) : Nat :=
  if month = 2 then
    if year % 4 = 0 ∧ (year % 100 ≠ 0 ∨ year % 400 = 0) then 29 else 28
  else if month = 4 ∨ month = 6 ∨ month = 9 ∨ month = 11 then 30
  else 31

/-- What follows a date. -/
def skipDate? (s : List Char) : Option (List Char) := do
  let (year, s) ← takeDigits? 4 s
  let s ← Text.strip? ['-'] s
  let (month, s) ← twoDigits? 1 12 s
  let s ← Text.strip? ['-'] s
  let (_, s) ← twoDigits? 1 (daysIn year month) s
  some s

/-- What follows a fraction of a second, if there is one. -/
def skipFraction : List Char → List Char
  | '.' :: c :: rest => if c.isDigit then rest.dropWhile Char.isDigit else '.' :: c :: rest
  | s => s

/-- What follows hours and minutes. -/
def skipHours? (s : List Char) : Option (List Char) := do
  let (_, s) ← twoDigits? 0 23 s
  let s ← Text.strip? [':'] s
  let (_, s) ← twoDigits? 0 59 s
  some s

/-- What follows a time of day. -/
def skipTime? (s : List Char) : Option (List Char) := do
  let s ← skipHours? s
  let s ← Text.strip? [':'] s
  let (_, s) ← twoDigits? 0 60 s
  some (skipFraction s)

/-- What follows a distance from universal time, if there is one. -/
def skipOffset? : List Char → Option (List Char)
  | 'Z' :: rest => some rest
  | 'z' :: rest => some rest
  | '+' :: rest => skipHours? rest
  | '-' :: rest => skipHours? rest
  | s => some s

/-- Whether a time of day has started: hours and a colon. -/
def startsTime (s : List Char) : Bool :=
  (twoDigits? 0 23 s).any fun (_, rest) => rest.head? == some ':'

/-- Whether a date has started: a year and a hyphen. -/
def startsDate (s : List Char) : Bool :=
  (takeDigits? 4 s).any fun (_, rest) => rest.head? == some '-'

/-- What follows the time of day that may come with a date. -/
def skipTimeOfDate? : List Char → Option (List Char)
  | c :: rest =>
    if (c == 'T' || c == 't' || c == ' ') && startsTime rest then
      (skipTime? rest).bind skipOffset?
    else some (c :: rest)
  | [] => some []

/-- What follows a point in time. -/
def skipMoment? (s : List Char) : Option (List Char) :=
  if startsDate s then (skipDate? s).bind skipTimeOfDate? else skipTime? s

/-- Reads a number or a point in time. -/
def readNumberOrMoment : Reader Value := fun s =>
  if startsDate s || startsTime s then
    match skipMoment? s with
    | some rest => .ok (.moment (String.ofList (s.take (s.length - rest.length))), rest)
    | none => .error .outOfRange
  else readNumber s

end HttpScenario.Toml
