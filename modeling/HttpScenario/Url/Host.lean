import HttpScenario.Url.Domain
/-!
# Hosts

A host between brackets is an IPv6 address.  Elsewhere it depends on the scheme: the well-known
schemes have domain names or IPv4 addresses as hosts, all others any text without characters that
have a meaning in addresses.
-/

namespace HttpScenario.Url

/-- The text between the brackets of a host that starts with one. -/
def bracketed (cs : List Char) : Except Fault Unit :=
  match cs with
  | _ :: inner =>
    if inner.getLast? == some ']' && isIpv6 inner.dropLast then .ok () else .error .invalidIpv6
  | [] => .error .invalidIpv6

/-- Checks a host of a well-known scheme. -/
def checkDomain (host : List Char) : Except Fault Unit :=
  if host.head? == some '[' then bracketed host
  else
    match domainToAscii host with
    | .error fault => .error fault
    | .ok domain =>
      if domain.isEmpty then .error .emptyHost
      else if endsInNumber domain then checkIpv4 domain
      else .ok ()

/-- The characters that no host can hold. -/
def opaqueForbidden : List Char :=
  ['\x00', '\t', '\n', '\r', ' ', '#', '/', ':', '<', '>', '?', '@', '[', '\\', ']', '^', '|']

/-- Checks a host of any other scheme. -/
def checkOpaque (host : List Char) : Except Fault Unit :=
  if host.head? == some '[' then bracketed host
  else if host.any opaqueForbidden.contains then .error .invalidDomainCharacter
  else .ok ()

end HttpScenario.Url
