import HttpScenario.Text.Hex
/-!
# What can be wrong with an address

The ways in which a text can fail to be the absolute address of something.
-/

namespace HttpScenario.Url

/-- Why a text is not an absolute address. -/
inductive Fault where
  /-- It does not start with a scheme. -/
  | noScheme
  | emptyHost
  | invalidPort
  | invalidIpv4
  | invalidIpv6
  /-- A domain name cannot be written in ASCII. -/
  | invalidDomain
  /-- A character that no host can hold. -/
  | invalidDomainCharacter
  deriving DecidableEq, Repr

/-- The text of a fault. -/
def Fault.message : Fault → String
  | .noScheme => "relative URL without a base"
  | .emptyHost => "empty host"
  | .invalidPort => "invalid port number"
  | .invalidIpv4 => "invalid IPv4 address"
  | .invalidIpv6 => "invalid IPv6 address"
  | .invalidDomain => "invalid international domain name"
  | .invalidDomainCharacter => "invalid domain character"

/-- The number that some digits write in a base. -/
def digitsNumber (base : Nat) (cs : List Char) : Nat :=
  cs.foldl (fun n c => n * base + (Text.hexDigit? c).getD 0) 0

end HttpScenario.Url
