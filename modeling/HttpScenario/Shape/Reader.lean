import HttpScenario.Shape.Content
/-!
# Reading a JSON text by a shape

A JSON text is read from its front to its end, and each part is held against its shape as soon as it
is reached.  So of two things that are wrong with a text, the one that shows first is reported,
whether it is a slip in the text or a part that does not fit.  Members that a record does not know
are passed over, and only then is their text looked at less closely.
-/

namespace HttpScenario.Shape

open Json (Reader Fault Misfit Found Number)

/-- The fault of meeting another kind of value than the one expected.  The value that is there is
read first if it is a small one, so that the message can show it. -/
def wrongKind (expected : String) (b : UInt8) (rest : Octets) : Fault :=
  let misfit (found : Found) : Fault := .ofMisfit (.kind found expected)
  if b = 0x5B then misfit .list
  else if b = 0x7B then misfit .table
  else
    match Json.readScalar b rest with
    | .error fault => fault
    | .ok (.null, _) => misfit .null
    | .ok (.bool value, _) => misfit (.bool value)
    | .ok (.num value, _) => misfit (.num value)
    | .ok (.str value, _) => misfit (.str value)
    | .ok (.arr _, _) => misfit .list
    | .ok (.obj _, _) => misfit .table

/-- Starts to read a value: skips blanks and gives the first octet to what reads on. -/
def atValue {α : Type} (readOn : UInt8 → Octets → Except Fault (α × Octets)) : Reader α := fun s =>
  match Json.skipSpaces s with
  | [] => .error (.upon .eofInValue [])
  | b :: rest => readOn b rest

/-- Opens a level of nesting, if one is left. -/
def nested {α : Type} (levels : Nat) (b : UInt8) (rest : Octets)
    (readOn : Nat → Except Fault (α × Octets)) : Except Fault (α × Octets) :=
  match levels with
  | 0 => .error (.upon .tooDeep (b :: rest))
  | levels + 1 => readOn levels

/-- Reads a text where a message would call it `expected`. -/
def readString (expected : String) : Reader String :=
  atValue fun b rest => if b = 0x22 then Json.readText rest else .error (wrongKind expected b rest)

/-- Reads a truth value. -/
def readFlag : Reader Json :=
  atValue fun b rest =>
    if b = 0x74 || b = 0x66 then Json.readScalar b rest
    else .error (wrongKind "a boolean" b rest)

/-- Reads a number where a message would call it `expected`. -/
def readNumberAs (expected : String) : Reader Number :=
  atValue fun b rest =>
    if b = 0x2D then Json.readNumber true rest
    else if Json.isDigitOctet b then Json.readNumber false (b :: rest)
    else .error (wrongKind expected b rest)

/-- Reads a whole number of a range. -/
def readWhole (title : String) (low high : Int) : Reader Json := fun s => do
  let (n, rest) ← readNumberAs title s
  match n with
  | .whole value =>
    if low ≤ value ∧ value ≤ high then .ok (.int value, rest)
    else .error (.ofMisfit (.value (.num n) title))
  | .real _ => .error (.ofMisfit (.kind (.num n) title))

/-- Checks that a word is among the known ones. -/
def knownWord (known : List String) (name : String) : Except Fault Json :=
  if known.contains name then .ok (.str name) else .error (.ofMisfit (.unknownWord name known))

/-- Reads null where nothing else may stand. -/
def readUnit : Reader Unit :=
  atValue fun b rest =>
    if b = 0x6E then (Json.readWord "ull".toList rest).map fun rest => ((), rest)
    else .error (wrongKind "unit" b rest)

/-- Reads a word: a text, or an object whose only member has it as key and null as value. -/
def readKnownWord (known : List String) (levels : Nat) : Reader Json :=
  atValue fun b rest =>
    if b = 0x22 then do
      let (name, rest) ← Json.readText rest
      let value ← knownWord known name
      .ok (value, rest)
    else if b = 0x7B then
      nested levels b rest fun _ => do
        let (name, rest) ← readString "variant identifier" rest
        let value ← knownWord known name
        let rest ← Json.readColon rest
        let (_, rest) ← readUnit rest
        match Json.skipSpaces rest with
        | [] => .error (.before .eofInObject [])
        | c :: rest =>
          if c = 0x7D then .ok (value, rest) else .error (.before .expectedValue (c :: rest))
    else .error (.upon .expectedValue (b :: rest))

/-- A field of a record that is about to be read. -/
structure FieldReader where
  name : String
  read : Reader Json
  /-- What the field is when it is left out. -/
  default? : Option Json

/-- Reads the fields of a record from a list, in order; the list may end early if the fields that
are left have defaults. -/
def readInOrder (title : String) (count : Nat) :
    List FieldReader → (index : Nat) → (first : Bool) → Reader (List (String × Json))
  | [], _, _, s => .ok ([], s)
  | field :: fields, index, first, s =>
    match Json.nextItem first s with
    | .error fault => .error fault
    | .ok (true, s) =>
      match field.read s with
      | .error fault => .error fault
      | .ok (value, s) =>
        (readInOrder title count fields (index + 1) false s).map fun (found, rest) =>
          ((field.name, value) :: found, rest)
    | .ok (false, s) =>
      match field.default? with
      | none => .error (.ofMisfit (.length index (elementsText title count)))
      | some value =>
        (readInOrder title count fields (index + 1) first s).map fun (found, rest) =>
          ((field.name, value) :: found, rest)

/-- A member of a record: a field that was not read yet, or something to pass over. -/
def recordMember (fields : List FieldReader) (found : List (String × Json)) (key : String) :
    Reader (List (String × Json)) := fun s =>
  match fields.find? (·.name == key) with
  | none => do
    let s ← Json.readColon s
    let s ← Json.skipValue (s.length + 1) s
    .ok (found, s)
  | some field =>
    if (found.lookup key).isSome then .error (.ofMisfit (.duplicateField key))
    else do
      let s ← Json.readColon s
      let (value, s) ← field.read s
      .ok ((key, value) :: found, s)

/-- Reads a record whose fields are read as given. -/
def readRecord (title : String) (fields : List FieldReader) (b : UInt8) (rest : Octets) :
    Except Fault (Json × Octets) :=
  if b = 0x5B then do
    let (found, rest) ← readInOrder title fields.length fields 0 true rest
    let rest ← Json.endItems rest
    .ok (.obj found, rest)
  else if b = 0x7B then do
    let (found, rest) ← Json.members (recordMember fields) (rest.length + 1) true [] rest
    match assemble found (fields.map fun field => (field.name, field.default?)) with
    | .ok members => .ok (.obj members, rest)
    | .error name => .error (.ofMisfit (.missingField name))
  else .error (wrongKind ("struct " ++ title) b rest)

mutual

/-- Reads a value by a shape, with so many levels of nesting left. -/
def reader : Shape → (levels : Nat) → Reader Json
  | .text, _ => fun s => (readString "a string" s).map fun (content, rest) => (.str content, rest)
  | .flag, _ => readFlag
  | .whole title low high, _ => readWhole title low high
  | .real, _ => fun s =>
    (readNumberAs "f64" s).map fun (n, rest) => (.num (.real n.toDouble), rest)
  | .any, levels => Json.readValue levels
  | .anyAsText, levels => fun s =>
    (Json.readValue levels s).map fun (value, rest) => (.str (asText value), rest)
  | .list item, levels =>
    atValue fun b rest =>
      if b = 0x5B then
        nested levels b rest fun levels =>
          (Json.items (reader item levels) (rest.length + 1) true rest).map fun (xs, rest) =>
            (.arr xs, rest)
      else .error (wrongKind "a sequence" b rest)
  | .table value, levels =>
    atValue fun b rest =>
      if b = 0x7B then
        nested levels b rest fun levels =>
          (Json.members (Json.tableMember (reader value levels)) (rest.length + 1) true [] rest).map
            fun (entries, rest) => (.obj entries, rest)
      else .error (wrongKind "a map" b rest)
  | .optional value, levels => fun s =>
    match Json.skipSpaces s with
    | 0x6E :: rest => (Json.readWord "ull".toList rest).map fun rest => (.null, rest)
    | _ => reader value levels s
  | .word known, levels => readKnownWord known levels
  | .record title fields, levels =>
    atValue fun b rest =>
      if b = 0x5B || b = 0x7B then
        nested levels b rest fun levels => readRecord title (fieldReaders fields levels) b rest
      else readRecord title [] b rest
  | .firstOf title alternatives, levels => fun s => do
    let (kept, rest) ← Content.read levels s
    match firstOfContent? alternatives kept with
    | some value => .ok (value, rest)
    | none => .error (.ofMisfit (.noAlternative title))

/-- The readers of the fields of a record. -/
def fieldReaders : List (String × Shape × Option Json) → (levels : Nat) → List FieldReader
  | [], _ => []
  | (name, shape, default?) :: fields, levels =>
    ⟨name, reader shape levels, default?⟩ :: fieldReaders fields levels

end

/-- The document that a JSON text writes, read by a shape. -/
def parse (shape : Shape) (octets : Octets) : Except Json.Located Json :=
  (Json.readWhole (reader shape Json.maxLevels) octets).mapError (Json.Fault.locate octets)

/-- The document that a JSON text writes, read by a shape. -/
def parseText (shape : Shape) (text : String) : Except Json.Located Json :=
  shape.parse (Utf8.encode text)

end HttpScenario.Shape
