import HttpScenario.Pattern.Property
import HttpScenario.Text.Utf8
import HttpScenario.Url.Direction
import HttpScenario.Url.DomainTable
import HttpScenario.Url.Ip
import HttpScenario.Url.Joining
import HttpScenario.Url.Punycode
/-!
# Domain names

A domain name is brought into one form before it is judged: escaped octets are decoded, capitals
become small letters, some characters are left out and some are replaced.  Then its labels are
looked at one by one.  A label of ASCII characters must not hold any that has a meaning in
addresses; a label of other characters must hold valid ones only and not start with a mark; a label
that is written in ASCII for such a label has to stand for one.  At last the directions of the
labels are compared.
-/

namespace HttpScenario.Url

/-! ## Tables -/

/-- A character or run of characters in a table, with what is written after it. -/
def splitRun (cs : List Char) : Nat × Nat × Nat × List Char :=
  let isHex (c : Char) : Bool := (Text.hexDigit? c).isSome
  let first := digitsNumber 16 (cs.takeWhile isHex)
  match cs.dropWhile isHex with
  | '-' :: rest => (first, digitsNumber 16 (rest.takeWhile isHex), 1, rest.dropWhile isHex)
  | '=' :: rest => (first, digitsNumber 16 (rest.takeWhile isHex), 2, rest.dropWhile isHex)
  | rest => (first, first, 1, rest)

/-- The runs of a table. -/
def tableRuns (text : String) : List (Nat × Nat × Nat × List Char) :=
  ((Pattern.wordsOf text.toList).filter fun word => !word.isEmpty).map splitRun

/-- What a table says about a character. -/
def findRun? (runs : List (Nat × Nat × Nat × List Char)) (n : Nat) : Option (List Char) :=
  (runs.find? fun (first, last, step, _) =>
    first ≤ n && n ≤ last && (n - first) % step == 0).map fun (_, _, _, rest) => rest

/-- Whether a character from U+0080 on may stand in a domain name. -/
def isValidNumber (n : Nat) : Bool :=
  (findRun? (tableRuns validRuns) n).isSome

/-- The characters that a character from U+0080 on is replaced by; `none` if it may not occur. -/
def mapNumber? (n : Nat) : Option (List Nat) :=
  if isValidNumber n then some [n]
  else if (findRun? (tableRuns ignoredRuns) n).isSome then some []
  else
    match findRun? (tableRuns shiftedRuns) n with
    | some ('+' :: distance) => some [n + digitsNumber 16 distance]
    | some (_ :: distance) => some [n - digitsNumber 16 distance]
    | _ =>
      match findRun? (tableRuns expandedRuns) n with
      | some (_ :: numbers) => some ((Text.pieces '.' numbers).map (digitsNumber 16))
      | _ => none

/-! ## Labels -/

/-- Whether an ASCII character may not stand in a domain name. -/
def isForbidden (n : Nat) : Bool :=
  n ≤ 0x20 || n == 0x7F || "%#/:<>?@[\\]^|".toList.any fun c => c.toNat == n

/-- The characters that only modify the one before them. -/
def marks : Pattern.Charset :=
  Pattern.majorCategory ["mn", "mc", "me"]

/-- Whether the characters of a label may stand together. -/
def isValidLabel (numbers : List Nat) : Bool :=
  (match numbers with
    | [] => true
    | n :: _ => n < 0x80 || !marks.contains (Char.ofNat n))
    && numbers.all (fun n => if n < 0x80 then !isForbidden n else isValidNumber n)
    && joinersAllowed [] numbers

/-- What follows the prefix of a label that is written in ASCII for others. -/
def afterAce? : List Nat → Option (List Nat)
  | 0x78 :: 0x6E :: 0x2D :: 0x2D :: rest => some rest
  | _ => none

/-- The characters that a label stands for; `none` if it is not valid.  A label that is written in
ASCII for others has to stand for some. -/
def labelMeaning? (numbers : List Nat) : Option (List Nat) :=
  match afterAce? numbers with
  | none => if isValidLabel numbers then some numbers else none
  | some coded =>
    if coded.all (· < 0x80) then
      match Punycode.decode? (coded.map Char.ofNat) with
      | none => none
      | some decoded =>
        if decoded.any (0x80 ≤ ·) && isValidLabel decoded then some decoded else none
    else none

/-! ## Whole names -/

/-- Undoes percent escapes. -/
def percentDecode : Octets → Octets
  | 0x25 :: a :: b :: rest =>
    match Text.hexDigit? (Char.ofNat a.toNat), Text.hexDigit? (Char.ofNat b.toNat) with
    | some x, some y => UInt8.ofNat (x * 16 + y) :: percentDecode rest
    | _, _ => 0x25 :: percentDecode (a :: b :: rest)
  | c :: rest => c :: percentDecode rest
  | [] => []

/-- The characters that replace the ones of a name; `none` if one may not occur. -/
def mapName? (cs : List Char) : Option (List Nat) :=
  (cs.mapM fun c =>
    if c.toNat < 0x80 then some [c.toLower.toNat] else mapNumber? c.toNat).map List.flatten

/-- A label as ASCII for the question whether a name is a number: a label of other characters is
never one. -/
def asciiLabel (label : List Char) : List Char :=
  if label.all fun c => c.toNat < 0x80 then label else ['x', 'n', '-', '-']

/-- The name in the form in which it is judged further; labels that are not ASCII are stood in
for. -/
def domainToAscii (host : List Char) : Except Fault (List Char) :=
  match Utf8.decodeChars? (percentDecode (Utf8.encodeChars host)) with
  | none => .error .invalidDomain
  | some cs =>
    match mapName? cs with
    | none => .error .invalidDomain
    | some numbers =>
      let labels := Text.pieces '.' (numbers.map Char.ofNat)
      match labels.mapM fun label => labelMeaning? (label.map Char.toNat) with
      | none => .error .invalidDomain
      | some meanings =>
        if keepDirections (meanings.map (·.map directionOf)) then
          .ok (Text.join ['.'] (labels.map asciiLabel))
        else .error .invalidDomain

end HttpScenario.Url
