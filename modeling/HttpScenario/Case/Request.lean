import HttpScenario.Json.Fields
import HttpScenario.Shape.Basic
import HttpScenario.Text.Blank
/-!
# Request templates

A request as a scenario describes it: an address, a method, headers and a payload, any of which may
hold placeholders.  A payload is either structured, an object that is sent as a document, or raw, a
text that is sent as it is.
-/

namespace HttpScenario

/-- What a request carries. -/
inductive Payload where
  /-- An object, sent as a document once its placeholders are resolved. -/
  | structured (members : Json.Object)
  /-- A text, sent as it is. -/
  | raw (text : String)
  deriving Repr, Inhabited

namespace Payload

/-- A payload is an object or a text. -/
def shape : Shape :=
  .firstOf "Payload" [.table .any, .text]

/-- The payload that a document read by the shape stands for. -/
def ofJson : Json → Payload
  | .obj members => .structured members
  | value => .raw value.toText

/-- The document of a payload. -/
def toJson : Payload → Json
  | .structured members => .obj members
  | .raw text => .str text

/-- The payload for any document: an object as it is, anything else as raw text. -/
def ofValue : Json → Payload
  | .obj members => .structured members
  | value => .raw value.compact

end Payload

/-- A request template. -/
structure Request where
  /-- The address; may hold placeholders. -/
  url : String
  /-- The method; blank stands for GET. -/
  method : String := ""
  /-- The headers; values may hold placeholders. -/
  headers : Table String := []
  payload : Option Payload := none
  deriving Repr, Inhabited

namespace Request

/-- The fields of a request. -/
def shape : Shape :=
  .record "Request" [
    ("url", .text, none),
    ("method", .text, some (.str "")),
    ("headers", .table .text, some (.obj [])),
    ("payload", .optional Payload.shape, some .null)]

/-- The payload that a field stands for; null is none. -/
def payloadOfJson : Json → Option Payload
  | .null => none
  | value => some (Payload.ofJson value)

/-- The request that a document read by the shape stands for. -/
def ofJson (value : Json) : Request :=
  { url := (value.field "url").toText
    method := (value.field "method").toText
    headers := (value.field "headers").toMembers.map fun (name, v) => (name, v.toText)
    payload := payloadOfJson (value.field "payload") }

/-- The members of the document of a request; empty headers and a missing payload are left out. -/
def toMembers (r : Request) : List (String × Json) :=
  [("url", .str r.url), ("method", .str r.method)]
    ++ (if r.headers.isEmpty then [] else [("headers", .obj (r.headers.mapValues .str))])
    ++ (match r.payload with
      | some payload => [("payload", payload.toJson)]
      | none => [])

/-- The document of a request. -/
def toJson (r : Request) : Json :=
  .obj r.toMembers

/-- The method as it is sent: without blanks at the ends, in capitals, and GET if there is none. -/
def effectiveMethod (r : Request) : String :=
  let method := Text.trim r.method
  if method.isEmpty then "GET" else method.toUpper

end Request

end HttpScenario
