import HttpScenario.Case.Request
import HttpScenario.Error
import HttpScenario.Http.Token
import HttpScenario.Template
import HttpScenario.Url.Parse
/-!
# Requests that are ready to be sent

A request template becomes a request by resolving its placeholders against the cache.  Header names
and raw payloads are taken as they stand.  A structured payload is written as a document, and the
request then says so in its content type, unless the template sets one itself, in whatever case of
letters.

A request is only handed on if it can be sent at all: its method, its address and its headers are
checked in this order, and the first thing that is wrong is reported.
-/

namespace HttpScenario

/-- A request that is ready to be sent. -/
structure OutboundRequest where
  method : String
  url : String
  headers : Table String
  body : Option Octets
  deriving DecidableEq, Repr, Inhabited

namespace OutboundRequest

/-- Checks that a method is a token. -/
def checkMethod (method : String) : Except Error Unit :=
  if Http.isToken method then .ok ()
  else .error (.build ("invalid method '" ++ method ++ "': invalid HTTP method"))

/-- The scheme of an address, which has to be an absolute one. -/
def schemeOf (url : String) : Except Error String :=
  match Url.parseScheme url with
  | .ok scheme => .ok scheme
  | .error fault => .error (.build ("invalid URL '" ++ url ++ "': " ++ fault.message))

/-- Checks the name of a header, then its value. -/
def checkHeader (name value : String) : Except Error Unit :=
  if !Http.isHeaderName name then
    .error (.build ("invalid header name '" ++ name ++ "': invalid HTTP header name"))
  else if !Http.isHeaderValue value then
    .error (.build ("invalid header value for '" ++ name ++ "': failed to parse header value"))
  else .ok ()

/-- Checks headers in the order of their names. -/
def checkHeaders : Table String → Except Error Unit
  | [] => .ok ()
  | (name, value) :: rest =>
    match checkHeader name value with
    | .ok () => checkHeaders rest
    | .error error => .error error

/-- Checks that a request can be sent. -/
def validate (request : OutboundRequest) : Except Error Unit := do
  checkMethod request.method
  let _ ← schemeOf request.url
  checkHeaders request.headers

end OutboundRequest

namespace Request

/-- The name of the header that says what kind of document a body is. -/
def contentType : String := "Content-Type"

/-- Whether two names are equal but for the case of ASCII letters. -/
def sameName (a b : String) : Bool :=
  a.toLower == b.toLower

/-- Whether some headers set the content type. -/
def setsContentType (headers : Table String) : Bool :=
  headers.any fun (name, _) => sameName name contentType

/-- The headers that go with a payload. -/
def headersFor (payload : Option Payload) (headers : Table String) : Table String :=
  match payload with
  | some (.structured _) =>
    if setsContentType headers then headers
    else Table.insert contentType "application/json" headers
  | _ => headers

/-- The octets of a payload once its placeholders are resolved. -/
def bodyOf (cache : Cache) : Payload → Octets
  | .raw text => Utf8.encode text
  | .structured members =>
    Utf8.encode (Json.obj (Template.resolveMembers cache members)).compact

/-- The request that a template gives, not yet checked. -/
def outbound (request : Request) (cache : Cache) : OutboundRequest :=
  { method := request.effectiveMethod
    url := Template.resolve request.url cache
    headers := headersFor request.payload (Template.resolveHeaders request.headers cache)
    body := request.payload.map (bodyOf cache) }

/-- The request that a template gives, if it can be sent. -/
def build (request : Request) (cache : Cache) : Except Error OutboundRequest := do
  let outbound := request.outbound cache
  outbound.validate
  .ok outbound

end Request

end HttpScenario
