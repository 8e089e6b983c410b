import HttpScenario.Json.Number
import HttpScenario.Text.Utf8
import HttpScenario.Text.Quoted
/-!
# What can be wrong with a document

A document can be ill formed as a text, or be well formed and not fit the shape that was asked for
(`Misfit`).  A fault is a cause together with how many octets were left when it was noticed; the
line and the column are worked out from that once, for the message (`Fault.locate`).  A misfit is
reported without its place.
-/

namespace HttpScenario.Json

/-- What a document holds in a place where something else was asked for. -/
inductive Found where
  | null
  | bool (value : Bool)
  | num (value : Number)
  | str (value : String)
  | list
  | table
  deriving DecidableEq, Repr

/-- How a message names what was found. -/
def Found.message : Found → String
  | .null => "null"
  | .bool true => "boolean `true`"
  | .bool false => "boolean `false`"
  | .num (.whole value) => "integer `" ++ (Number.whole value).text ++ "`"
  | .num (.real value) => "floating point `" ++ (Number.real value).text ++ "`"
  | .str value => "string " ++ Text.quoteForMessage value
  | .list => "sequence"
  | .table => "map"

/-- Why a well-formed document does not fit the shape that was asked for. -/
inductive Misfit where
  /-- Another kind of value was asked for. -/
  | kind (found : Found) (expected : String)
  /-- A value of the right kind is out of range. -/
  | value (found : Found) (expected : String)
  /-- A list is too short for the fields it stands for. -/
  | length (count : Nat) (expected : String)
  | missingField (name : String)
  | duplicateField (name : String)
  /-- A word that is not among the known ones. -/
  | unknownWord (word : String) (known : List String)
  /-- None of the alternatives of a shape fits. -/
  | noAlternative (name : String)
  deriving DecidableEq, Repr

/-- The known words as a message lists them. -/
def listWords : List String → String
  | [] => "there are no variants"
  | [a] => "expected `" ++ a ++ "`"
  | [a, b] => "expected `" ++ a ++ "` or `" ++ b ++ "`"
  | words => "expected one of " ++ ", ".intercalate (words.map fun w => "`" ++ w ++ "`")

/-- The text of a misfit. -/
def Misfit.message : Misfit → String
  | .kind found expected => "invalid type: " ++ found.message ++ ", expected " ++ expected
  | .value found expected => "invalid value: " ++ found.message ++ ", expected " ++ expected
  | .length count expected => "invalid length " ++ toString count ++ ", expected " ++ expected
  | .missingField name => "missing field `" ++ name ++ "`"
  | .duplicateField name => "duplicate field `" ++ name ++ "`"
  | .unknownWord word known => "unknown variant `" ++ word ++ "`, " ++ listWords known
  | .noAlternative name => "data did not match any variant of untagged enum " ++ name

/-- What is wrong with a document. -/
inductive Cause where
  | eofInValue
  | eofInString
  | eofInList
  | eofInObject
  | expectedColon
  | expectedListCommaOrEnd
  | expectedObjectCommaOrEnd
  | expectedWord
  | expectedValue
  | invalidEscape
  | invalidNumber
  | numberOutOfRange
  | invalidCodePoint
  | controlCharacter
  | keyNotString
  | loneSurrogate
  | trailingComma
  | trailingCharacters
  | unfinishedSurrogate
  | tooDeep
  | misfit (why : Misfit)
  deriving DecidableEq, Repr

/-- The text of a cause, without its place. -/
def Cause.message : Cause → String
  | .eofInValue => "EOF while parsing a value"
  | .eofInString => "EOF while parsing a string"
  | .eofInList => "EOF while parsing a list"
  | .eofInObject => "EOF while parsing an object"
  | .expectedColon => "expected `:`"
  | .expectedListCommaOrEnd => "expected `,` or `]`"
  | .expectedObjectCommaOrEnd => "expected `,` or `\x7d`"
  | .expectedWord => "expected ident"
  | .expectedValue => "expected value"
  | .invalidEscape => "invalid escape"
  | .invalidNumber => "invalid number"
  | .numberOutOfRange => "number out of range"
  | .invalidCodePoint => "invalid unicode code point"
  | .controlCharacter => "control character (\\u0000-\\u001F) found while parsing a string"
  | .keyNotString => "key must be a string"
  | .loneSurrogate => "lone leading surrogate in hex escape"
  | .trailingComma => "trailing comma"
  | .trailingCharacters => "trailing characters"
  | .unfinishedSurrogate => "unexpected end of hex escape"
  | .tooDeep => "recursion limit exceeded"
  | .misfit why => why.message

/-- A cause and how many octets were left where it was noticed. -/
structure Fault where
  cause : Cause
  remaining : Nat
  deriving DecidableEq, Repr

/-- A fault noticed with `rest` still unread. -/
def Fault.before (cause : Cause) (rest : Octets) : Fault :=
  ⟨cause, rest.length⟩

/-- A fault noticed on the first octet of `rest`, which counts as read. -/
def Fault.upon (cause : Cause) (rest : Octets) : Fault :=
  ⟨cause, rest.length - 1⟩

/-- A misfit; its place is never shown. -/
def Fault.ofMisfit (why : Misfit) : Fault :=
  ⟨.misfit why, 0⟩

/-- A cause with its line and its column, both counted in octets and the line from one. -/
structure Located where
  cause : Cause
  line : Nat
  column : Nat
  deriving DecidableEq, Repr

/-- The line and the column reached after reading some octets. -/
def position (consumed : Octets) : Nat × Nat :=
  (1 + consumed.count 10, (consumed.reverse.takeWhile (· != 10)).length)

/-- Finds the place of a fault in the text it was found in. -/
def Fault.locate (octets : Octets) (fault : Fault) : Located :=
  let place := position (octets.take (octets.length - fault.remaining))
  ⟨fault.cause, place.1, place.2⟩

/-- The text of a located fault. -/
def Located.message (fault : Located) : String :=
  match fault.cause with
  | .misfit why => why.message
  | cause =>
    cause.message ++ " at line " ++ toString fault.line ++ " column " ++ toString fault.column

end HttpScenario.Json
