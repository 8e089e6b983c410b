import HttpScenario.Text.Pieces
import HttpScenario.Url.Basic
/-!
# Numeric hosts

A host whose last part is a number is an IPv4 address, and has to be a valid one.  Each of its parts
is written in base ten, in base eight after a zero, or in base sixteen after `0x`; the last part
fills all octets that are left.  A host between brackets is an IPv6 address: eight groups of up to
four hexadecimal digits, of which a run may be left out once, and the last two may be written as an
IPv4 address.
-/

namespace HttpScenario.Url

/-! ## IPv4 -/

/-- Whether a character is an octal digit. -/
def isOctal (c : Char) : Bool :=
  '0' ≤ c && c ≤ '7'

/-- A part of an IPv4 address: not a number, or a number, or one that is too great for 32 bits. -/
def ipv4Number? (part : List Char) : Option (Option Nat) :=
  let (base, digits) :=
    match part with
    | '0' :: 'x' :: rest => (16, rest)
    | '0' :: 'X' :: rest => (16, rest)
    | '0' :: c :: rest => (8, c :: rest)
    | part => (10, part)
  let isDigitOf (c : Char) : Bool :=
    if base = 16 then (Text.hexDigit? c).isSome else if base = 8 then isOctal c else c.isDigit
  if part.isEmpty then none
  else if !digits.all isDigitOf then none
  else
    let value := digitsNumber base digits
    some (if value < 4294967296 then some value else none)

/-- Whether the last part of a host is a number; one empty part at the end does not count. -/
def endsInNumber (host : List Char) : Bool :=
  let isNumber (part : List Char) : Bool :=
    (!part.isEmpty && part.all Char.isDigit) || (ipv4Number? part).isSome
  match (Text.pieces '.' host).reverse with
  | [] :: last :: _ => isNumber last
  | [] :: [] => false
  | last :: _ => isNumber last
  | [] => false

/-- Whether a host is an IPv4 address. -/
def checkIpv4 (host : List Char) : Except Fault Unit :=
  let parts := Text.pieces '.' host
  let parts := if parts.getLast? == some [] then parts.dropLast else parts
  if 4 < parts.length then .error .invalidIpv4
  else
    match parts.mapM ipv4Number? with
    | none => .error .invalidIpv4
    | some numbers =>
      match numbers.mapM id with
      | none => .error .invalidIpv4
      | some values =>
        match values.reverse with
        | [] => .error .invalidIpv4
        | last :: before =>
          if before.any (255 < ·) then .error .invalidIpv4
          else if Nat.pow 256 (4 - before.length) ≤ last then .error .invalidIpv4
          else .ok ()

/-! ## IPv6 -/

/-- Reads the four decimal parts of an IPv4 address at the end of an IPv6 address. -/
def isDottedQuad (cs : List Char) : Bool :=
  let parts := Text.pieces '.' cs
  parts.length == 4 && parts.all fun part =>
    !part.isEmpty && part.all Char.isDigit && decide (digitsNumber 10 part ≤ 255)
      && (part.length == 1 || part.head? != some '0')

/-- Whether some characters are groups of an IPv6 address, given how many groups stand before them
and whether a run was left out already. -/
def ipv6Groups (tries : Nat) (count : Nat) (compressed : Bool) (cs : List Char) : Bool :=
  match tries with
  | 0 => false
  | tries + 1 =>
    match cs with
    | [] => if compressed then count ≤ 8 else count == 8
    | c :: rest =>
      if count == 8 then false
      else if c = ':' then !compressed && ipv6Groups tries (count + 1) true rest
      else
        let digits := (cs.take 4).takeWhile fun c => (Text.hexDigit? c).isSome
        let after := cs.drop digits.length
        match after with
        | [] => ipv6Groups tries (count + 1) compressed []
        | '.' :: _ =>
          !digits.isEmpty && decide (count ≤ 6) && isDottedQuad cs
            && (if compressed then true else count + 2 == 8)
        | ':' :: more => !more.isEmpty && ipv6Groups tries (count + 1) compressed more
        | _ => false

/-- Whether the text between the brackets of a host is an IPv6 address. -/
def isIpv6 (cs : List Char) : Bool :=
  if cs.length < 2 then false
  else
    match cs with
    | ':' :: ':' :: rest => ipv6Groups (cs.length + 1) 1 true rest
    | ':' :: _ => false
    | cs => ipv6Groups (cs.length + 1) 0 false cs

end HttpScenario.Url
