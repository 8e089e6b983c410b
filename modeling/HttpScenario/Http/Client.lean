import HttpScenario.Config
import HttpScenario.Http.Reply
/-!
# Clients

A client is made from a configuration and sends requests.  The library that makes its connections is
no part of the program, and neither is what stands at their other end.  Both are a parameter, a
`Network`, of which nothing is assumed: it may say something against a configuration, and otherwise
it is a transport like any other.
-/

namespace HttpScenario

/-- What there is beyond the program, for each configuration: the other side as the requests of a
client meet it, or what the library says against the configuration. -/
abbrev Network := HttpConfig → Except String Transport

/-- The network of a place from which no host can be reached.  What the program calls itself still
has to be the value of a header. -/
def Network.absent : Network := fun config =>
  if Http.isHeaderValue config.userAgent then
    .ok { replies := [], afterwards := fun _ => .refused (.transport "there is no network") .zero }
  else .error "builder error"

/-- A client. -/
structure HttpClient where
  /-- The other side. -/
  transport : Transport

namespace HttpClient

/-- The client for a configuration, over a network; there is none unless it is given. -/
def ofConfig (config : HttpConfig) (network : Network := .absent) : Except Error HttpClient :=
  match network config with
  | .ok transport => .ok ⟨transport⟩
  | .error message => .error (.config ("Failed to build HTTP client: " ++ message))

/-- What a request meets, if it can be sent at all. -/
def reply (client : HttpClient) (request : OutboundRequest) : Reply :=
  match request.validate with
  | .error error => .refused error .zero
  | .ok () => (client.transport.send request).1

end HttpClient

end HttpScenario
