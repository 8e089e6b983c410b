import HttpScenario.Json.Fault
import HttpScenario.Double.Basic
/-!
# Words, texts and numbers of a document

The smallest parts of a document, read from the front of a list of octets.  Every reader returns
what it read together with what is left, or the first fault.

A text ends at the first quote that is not escaped; its octets are checked to be UTF-8 only once
its end is found, so that an earlier fault inside it is reported first.

A number without a point and without an exponent is kept exactly while it fits 64 bits.  Any other
number becomes a double in a fixed way: the digits are taken into a 64-bit significand while they
fit, later digits of the whole part only raise the exponent, later digits of the fraction are
dropped, and the significand is then multiplied or divided by one power of ten.  Each of these
steps rounds, so the result can differ in the last place from the double nearest to the text.
-/

namespace HttpScenario.Json

/-- The four blanks between the parts of a document. -/
def isSpace (b : UInt8) : Bool :=
  b == 0x20 || b == 0x0A || b == 0x09 || b == 0x0D

/-- What is left after any blanks. -/
def skipSpaces (s : Octets) : Octets :=
  s.dropWhile isSpace

/-- Whether an octet is an ASCII digit. -/
def isDigitOctet (b : UInt8) : Bool :=
  0x30 ≤ b.toNat && b.toNat ≤ 0x39

/-- The value of an ASCII digit. -/
def octetDigit (b : UInt8) : Nat :=
  b.toNat - 0x30

/-! ## Words -/

/-- Reads the rest of a word. -/
def readWord : (word : List Char) → Octets → Except Fault Octets
  | [], s => .ok s
  | _ :: _, [] => .error (.before .eofInValue [])
  | c :: word, b :: rest =>
    if b.toNat = c.toNat then readWord word rest else .error (.before .expectedWord rest)

/-! ## Texts -/

/-- The octet that a one-letter escape stands for. -/
def simpleEscape? (b : UInt8) : Option UInt8 :=
  match Char.ofNat b.toNat with
  | '"' => some 0x22
  | '\\' => some 0x5C
  | '/' => some 0x2F
  | 'b' => some 0x08
  | 'f' => some 0x0C
  | 'n' => some 0x0A
  | 'r' => some 0x0D
  | 't' => some 0x09
  | _ => none

/-- The value of a hexadecimal digit. -/
def hexValue? (b : UInt8) : Option Nat :=
  let n := b.toNat
  if 0x30 ≤ n ∧ n ≤ 0x39 then some (n - 0x30)
  else if 0x41 ≤ n ∧ n ≤ 0x46 then some (n - 0x41 + 10)
  else if 0x61 ≤ n ∧ n ≤ 0x66 then some (n - 0x61 + 10)
  else none

/-- The value of four hexadecimal digits. -/
def hexValue4? (a b c d : UInt8) : Option Nat :=
  match hexValue? a, hexValue? b, hexValue? c, hexValue? d with
  | some a, some b, some c, some d => some (a * 4096 + b * 256 + c * 16 + d)
  | _, _, _, _ => none

/-- The first half of a pair that stands for one character. -/
def isLeadSurrogate (n : Nat) : Bool :=
  0xD800 ≤ n && n ≤ 0xDBFF

/-- The second half of such a pair. -/
def isTrailSurrogate (n : Nat) : Bool :=
  0xDC00 ≤ n && n ≤ 0xDFFF

/-- The number of the character that a pair stands for. -/
def surrogatePair (lead trail : Nat) : Nat :=
  (lead - 0xD800) * 1024 + (trail - 0xDC00) + 0x10000

/-- Puts octets in front of what a text goes on with. -/
def prepend (octets : Octets) (r : Except Fault (Octets × Octets)) :
    Except Fault (Octets × Octets) :=
  r.map fun (content, rest) => (octets ++ content, rest)

/-- The octets of a text up to its closing quote, with the escapes undone. -/
def scanText : Octets → Except Fault (Octets × Octets)
  | [] => .error (.before .eofInString [])
  | b :: rest =>
    if b = 0x22 then .ok ([], rest)
    else if b = 0x5C then
      match rest with
      | [] => .error (.before .eofInString [])
      | letter :: rest =>
        match simpleEscape? letter with
        | some octet => prepend [octet] (scanText rest)
        | none =>
          if letter ≠ 0x75 then .error (.before .invalidEscape rest)
          else
            match rest with
            | h1 :: h2 :: h3 :: h4 :: rest =>
              match hexValue4? h1 h2 h3 h4 with
              | none => .error (.before .invalidEscape rest)
              | some n =>
                if isTrailSurrogate n then .error (.before .loneSurrogate rest)
                else if !isLeadSurrogate n then prepend (Utf8.encodeNat n) (scanText rest)
                else
                  match rest with
                  | [] => .error (.before .eofInString [])
                  | slash :: rest =>
                    if slash ≠ 0x5C then .error (.before .unfinishedSurrogate rest)
                    else
                      match rest with
                      | [] => .error (.before .eofInString [])
                      | u :: rest =>
                        if u ≠ 0x75 then .error (.before .unfinishedSurrogate rest)
                        else
                          match rest with
                          | l1 :: l2 :: l3 :: l4 :: rest =>
                            match hexValue4? l1 l2 l3 l4 with
                            | none => .error (.before .invalidEscape rest)
                            | some m =>
                              if isTrailSurrogate m then
                                prepend (Utf8.encodeNat (surrogatePair n m)) (scanText rest)
                              else .error (.before .loneSurrogate rest)
                          | _ => .error (.before .eofInString [])
            | _ => .error (.before .eofInString [])
    else if b.toNat < 0x20 then .error (.before .controlCharacter rest)
    else prepend [b] (scanText rest)

/-- Reads a text whose opening quote has been read.  Octets that are no characters are noticed at
the closing quote, before it counts as read. -/
def readText (s : Octets) : Except Fault (String × Octets) := do
  let (content, rest) ← scanText s
  match Utf8.decode? content with
  | some text => .ok (text, rest)
  | none => .error ⟨.invalidCodePoint, rest.length + 1⟩

/-- Passes over a text whose opening quote has been read; what it says is not looked at. -/
def skipText : Octets → Except Fault Octets
  | [] => .error (.before .eofInString [])
  | b :: rest =>
    if b = 0x22 then .ok rest
    else if b = 0x5C then
      match rest with
      | [] => .error (.before .eofInString [])
      | letter :: rest =>
        if (simpleEscape? letter).isSome then skipText rest
        else if letter ≠ 0x75 then .error (.before .invalidEscape rest)
        else
          match rest with
          | h1 :: h2 :: h3 :: h4 :: rest =>
            if (hexValue4? h1 h2 h3 h4).isSome then skipText rest
            else .error (.before .invalidEscape rest)
          | _ => .error (.before .eofInString [])
    else if b.toNat < 0x20 then .error (.before .controlCharacter (b :: rest))
    else skipText rest

/-! ## Numbers -/

/-- The greatest significand. -/
def significandMax : Nat := 18446744073709551615

/-- Takes digits into a significand while it fits, and gives what it comes to and the digits that
are left over. -/
def takeDigits (significand : Nat) : Octets → Nat × Octets
  | [] => (significand, [])
  | b :: digits =>
    let next := significand * 10 + octetDigit b
    if next ≤ significandMax then takeDigits next digits else (significand, b :: digits)

/-- Ten to a power as a double; the powers used are at most 308. -/
def tenTo (exponent : Nat) : Double :=
  Double.ofQuotient false (Nat.pow 10 exponent) 1

/-- A significand times a power of ten, by one multiplication or by at most two divisions; `none`
where the magnitude is too great. -/
def scale? (significand : Nat) (exponent : Int) : Option Double :=
  let start := Double.ofInt significand
  if significand = 0 then some start
  else if 308 < exponent then none
  else if 0 ≤ exponent then
    let scaled := start.mul (tenTo exponent.toNat)
    if scaled.isFinite then some scaled else none
  else
    let down := (-exponent).toNat
    if down ≤ 308 then some (start.div (tenTo down))
    else if down ≤ 616 then some ((start.div (tenTo 308)).div (tenTo (down - 308)))
    else some Double.zero

/-- Gives a magnitude its sign. -/
def signed (negative : Bool) (d : Double) : Double :=
  if negative then d.neg else d

/-- The double for a scaled significand, or a fault noticed at the end of the number. -/
def finishReal (negative : Bool) (significand : Nat) (exponent : Int) (rest : Octets) :
    Except Fault (Number × Octets) :=
  match scale? significand exponent with
  | some d => .ok (.real (signed negative d), rest)
  | none => .error (.before .numberOutOfRange rest)

/-- The digits of an exponent before the one that takes it past 31 bits, if one does: what is left
after that one. -/
def exponentOverflow? (value : Nat) : Octets → Option Octets
  | [] => none
  | b :: digits =>
    let next := value * 10 + octetDigit b
    if next < 2147483648 then exponentOverflow? next digits else some digits

/-- The number a run of digits writes. -/
def octetsValue (digits : Octets) : Nat :=
  digits.foldl (fun n b => n * 10 + octetDigit b) 0

/-- Reads an exponent whose letter has been read, and finishes the number. -/
def readExponent (negative : Bool) (significand : Nat) (exponent : Int) (s : Octets) :
    Except Fault (Number × Octets) :=
  let (down, s) :=
    match s with
    | b :: rest => if b = 0x2B then (false, rest) else if b = 0x2D then (true, rest) else (false, s)
    | [] => (false, s)
  match s with
  | [] => .error (.before .eofInValue [])
  | b :: rest =>
    if !isDigitOctet b then .error (.before .invalidNumber rest)
    else
      let digits := s.takeWhile isDigitOctet
      let rest := s.dropWhile isDigitOctet
      match exponentOverflow? 0 digits with
      | some left =>
        if significand ≠ 0 && !down then .error (.before .numberOutOfRange (left ++ rest))
        else .ok (.real (signed negative Double.zero), rest)
      | none =>
        let value : Int := octetsValue digits
        finishReal negative significand (if down then exponent - value else exponent + value) rest

/-- Reads what follows the whole part of a number that is not a plain whole number. -/
def readFraction (negative : Bool) (significand : Nat) (exponent : Int) (s : Octets) :
    Except Fault (Number × Octets) :=
  match s with
  | 0x2E :: rest =>
    let digits := rest.takeWhile isDigitOctet
    let rest := rest.dropWhile isDigitOctet
    if digits.isEmpty then
      .error (if rest.isEmpty then .upon .eofInValue rest else .upon .invalidNumber rest)
    else
      let (significand, left) := takeDigits significand digits
      let exponent := exponent - ((digits.length - left.length : Nat) : Int)
      match rest with
      | b :: after =>
        if b = 0x65 || b = 0x45 then readExponent negative significand exponent after
        else finishReal negative significand exponent rest
      | [] => finishReal negative significand exponent rest
  | b :: rest =>
    if b = 0x65 || b = 0x45 then readExponent negative significand exponent rest
    else finishReal negative significand exponent s
  | [] => finishReal negative significand exponent s

/-- A plain whole number: kept exactly if it fits, else a double.  Minus zero is a double. -/
def wholeNumber (negative : Bool) (significand : Nat) : Number :=
  if !negative then .whole significand
  else if significand = 0 || 9223372036854775808 < significand then
    .real (Double.ofInt significand).neg
  else .whole (-(significand : Int))

/-- Whether a point or an exponent follows. -/
def startsFraction : Octets → Bool
  | b :: _ => b == 0x2E || b == 0x65 || b == 0x45
  | [] => false

/-- Reads a number whose sign has been read. -/
def readNumber (negative : Bool) (s : Octets) : Except Fault (Number × Octets) :=
  match s with
  | [] => .error (.before .eofInValue [])
  | b :: rest =>
    if !isDigitOctet b then .error (.before .invalidNumber rest)
    else if b = 0x30 then
      match rest with
      | d :: _ =>
        if isDigitOctet d then .error (.upon .invalidNumber rest)
        else if startsFraction rest then readFraction negative 0 0 rest
        else .ok (wholeNumber negative 0, rest)
      | [] => .ok (wholeNumber negative 0, rest)
    else
      let digits := s.takeWhile isDigitOctet
      let rest := s.dropWhile isDigitOctet
      let (significand, left) := takeDigits 0 digits
      if left.isEmpty && !startsFraction rest then .ok (wholeNumber negative significand, rest)
      else readFraction negative significand left.length rest

/-- Passes over the digits of an exponent whose letter has been read. -/
def skipExponent (s : Octets) : Except Fault Octets :=
  let s :=
    match s with
    | b :: rest => if b = 0x2B || b = 0x2D then rest else s
    | [] => s
  match s with
  | [] => .error (.before .invalidNumber [])
  | b :: rest =>
    if isDigitOctet b then .ok (rest.dropWhile isDigitOctet)
    else .error (.before .invalidNumber rest)

/-- Passes over an exponent, if one follows. -/
def skipExponentIfAny (s : Octets) : Except Fault Octets :=
  match s with
  | b :: rest => if b = 0x65 || b = 0x45 then skipExponent rest else .ok s
  | [] => .ok s

/-- Passes over what follows the whole part of a number. -/
def skipFraction (s : Octets) : Except Fault Octets :=
  match s with
  | 0x2E :: rest =>
    let left := rest.dropWhile isDigitOctet
    if left.length = rest.length then .error (.upon .invalidNumber left)
    else skipExponentIfAny left
  | s => skipExponentIfAny s

/-- Passes over a number whose sign has been read; its magnitude is not looked at. -/
def skipNumber (s : Octets) : Except Fault Octets :=
  match s with
  | [] => .error (.before .invalidNumber [])
  | b :: rest =>
    if !isDigitOctet b then .error (.before .invalidNumber rest)
    else if b = 0x30 then
      match rest with
      | d :: _ => if isDigitOctet d then .error (.upon .invalidNumber rest) else skipFraction rest
      | [] => .ok rest
    else skipFraction (s.dropWhile isDigitOctet)

end HttpScenario.Json
