/-!
# UTF-8

Bodies are octets; names, messages and scripts are text.  This module holds the two directions
between them.  `encode` writes each character as one to four octets.  `scan` reads octets as
characters and as *faults*: a fault is a longest run of octets that begins a character and is
then cut short, or a single octet that begins none.  `decode?` accepts a text without faults, and
`decodeLossy` shows each fault as one U+FFFD, so that any body can be printed.
-/

namespace HttpScenario

/-- Raw octets, of a response body or of an encoded text. -/
abbrev Octets := List UInt8

namespace Utf8

/-- The octets of one character, written with the arithmetic of its number. -/
def encodeNat (n : Nat) : Octets :=
  if n < 0x80 then [UInt8.ofNat n]
  else if n < 0x800 then [UInt8.ofNat (0xC0 + n / 64), UInt8.ofNat (0x80 + n % 64)]
  else if n < 0x10000 then
    [UInt8.ofNat (0xE0 + n / 4096), UInt8.ofNat (0x80 + n / 64 % 64), UInt8.ofNat (0x80 + n % 64)]
  else
    [UInt8.ofNat (0xF0 + n / 262144), UInt8.ofNat (0x80 + n / 4096 % 64),
      UInt8.ofNat (0x80 + n / 64 % 64), UInt8.ofNat (0x80 + n % 64)]

/-- The octets of a list of characters. -/
def encodeChars (cs : List Char) : Octets :=
  cs.flatMap fun c => encodeNat c.toNat

/-- The octets of a text. -/
def encode (s : String) : Octets :=
  encodeChars s.toList

/-- Whether an octet continues a character. -/
def isTail (b : UInt8) : Bool :=
  0x80 ≤ b.toNat && b.toNat ≤ 0xBF

/-- The least second octet after a first one; the shortest form is the only one. -/
def secondLow (first : Nat) : Nat :=
  if first == 0xE0 then 0xA0 else if first == 0xF0 then 0x90 else 0x80

/-- The greatest second octet after a first one: no surrogates, nothing above U+10FFFF. -/
def secondHigh (first : Nat) : Nat :=
  if first == 0xED then 0x9F else if first == 0xF4 then 0x8F else 0xBF

/-- The low six bits of a tail. -/
def tailBits (b : UInt8) : Nat :=
  b.toNat - 0x80

/-- The first character of some octets with what follows it, or `none` with what follows the
fault there. -/
def next (b : UInt8) (rest : Octets) : Option Char × Octets :=
  let n := b.toNat
  if n < 0x80 then (some (Char.ofNat n), rest)
  else if n < 0xC2 || 0xF4 < n then (none, rest)
  else
    match rest with
    | [] => (none, [])
    | t1 :: rest1 =>
      if t1.toNat < secondLow n || secondHigh n < t1.toNat then (none, rest)
      else if n < 0xE0 then (some (Char.ofNat ((n - 0xC0) * 64 + tailBits t1)), rest1)
      else
        match rest1 with
        | [] => (none, [])
        | t2 :: rest2 =>
          if !isTail t2 then (none, rest1)
          else if n < 0xF0 then
            (some (Char.ofNat ((n - 0xE0) * 4096 + tailBits t1 * 64 + tailBits t2)), rest2)
          else
            match rest2 with
            | [] => (none, [])
            | t3 :: rest3 =>
              if !isTail t3 then (none, rest2)
              else
                (some (Char.ofNat ((n - 0xF0) * 262144 + tailBits t1 * 4096 + tailBits t2 * 64
                  + tailBits t3)), rest3)

/-- Reading one character or fault uses up at least its first octet. -/
theorem next_length_le (b : UInt8) (rest : Octets) : (next b rest).2.length ≤ rest.length := by
  unfold next
  dsimp only
  repeat' split
  all_goals simp_all
  all_goals omega

/-- The characters of some octets, with `none` for each fault. -/
def scan : Octets → List (Option Char)
  | [] => []
  | b :: rest => (next b rest).1 :: scan (next b rest).2
termination_by octets => octets.length
decreasing_by
  have := next_length_le b rest
  simp only [List.length_cons]
  omega

/-- The characters of octets without a fault. -/
def decodeChars? (octets : Octets) : Option (List Char) :=
  (scan octets).mapM id

/-- The text that octets without a fault stand for. -/
def decode? (octets : Octets) : Option String :=
  (decodeChars? octets).map String.ofList

/-- The text of any octets, with U+FFFD in the place of each fault. -/
def decodeLossy (octets : Octets) : String :=
  String.ofList ((scan octets).map (·.getD (Char.ofNat 0xFFFD)))

end Utf8

end HttpScenario
