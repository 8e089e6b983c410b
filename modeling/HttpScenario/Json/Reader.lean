import HttpScenario.Json.Basic
import HttpScenario.Json.Lexeme
/-!
# Reading documents

Readers work from the front of a list of octets and stop at the first fault.  `items` and
`members` are the two loops that every reader of lists and objects shares: they know the brackets,
commas, colons and keys, and leave the values to the reader they are given.  A loop gets as many
tries as there are octets, which is more than enough since each round uses up at least one.

A reader is told how many further levels of nesting it may open.  `parse` reads a whole text as a
plain document: at most 127 levels, objects become tables, and of repeated keys the last wins.
-/

namespace HttpScenario.Json

/-- Reads a value from the front of some octets. -/
abbrev Reader (α : Type) := Octets → Except Fault (α × Octets)

/-- The levels of nesting that a document may have. -/
def maxLevels : Nat := 127

/-! ## Lists -/

/-- Looks whether another item follows, past a comma unless it is the first. -/
def nextItem (first : Bool) (s : Octets) : Except Fault (Bool × Octets) :=
  match skipSpaces s with
  | [] => .error (.upon .eofInList [])
  | b :: rest =>
    if b = 0x5D then .ok (false, b :: rest)
    else if first then .ok (true, b :: rest)
    else if b = 0x2C then
      match skipSpaces rest with
      | [] => .error (.upon .eofInValue [])
      | c :: rest =>
        if c = 0x5D then .error (.upon .trailingComma (c :: rest)) else .ok (true, c :: rest)
    else .error (.upon .expectedListCommaOrEnd (b :: rest))

/-- Reads the end of a list of which no more items are wanted. -/
def endItems (s : Octets) : Except Fault Octets :=
  match skipSpaces s with
  | [] => .error (.upon .eofInList [])
  | b :: rest =>
    if b = 0x5D then .ok rest
    else if b = 0x2C then
      match skipSpaces rest with
      | c :: rest =>
        .error (.upon (if c = 0x5D then .trailingComma else .trailingCharacters) (c :: rest))
      | [] => .error (.upon .trailingCharacters [])
    else .error (.upon .trailingCharacters (b :: rest))

/-- Reads the items of a list whose bracket has been read, and its end. -/
def items {α : Type} (item : Reader α) : (tries : Nat) → (first : Bool) → Reader (List α)
  | 0, _, s => .error (.before .eofInList s)
  | tries + 1, first, s =>
    match nextItem first s with
    | .error fault => .error fault
    | .ok (false, s) => (endItems s).map fun rest => ([], rest)
    | .ok (true, s) =>
      match item s with
      | .error fault => .error fault
      | .ok (x, s) => (items item tries false s).map fun (xs, rest) => (x :: xs, rest)

/-! ## Objects -/

/-- Looks whether another member follows, past a comma unless it is the first. -/
def nextMember (first : Bool) (s : Octets) : Except Fault (Bool × Octets) :=
  match skipSpaces s with
  | [] => .error (.upon .eofInObject [])
  | b :: rest =>
    if b = 0x7D then .ok (false, rest)
    else if first then
      if b = 0x22 then .ok (true, rest) else .error (.upon .keyNotString (b :: rest))
    else if b = 0x2C then
      match skipSpaces rest with
      | [] => .error (.upon .eofInValue [])
      | c :: rest =>
        if c = 0x22 then .ok (true, rest)
        else if c = 0x7D then .error (.upon .trailingComma (c :: rest))
        else .error (.upon .keyNotString (c :: rest))
    else .error (.upon .expectedObjectCommaOrEnd (b :: rest))

/-- Reads the colon after a key. -/
def readColon (s : Octets) : Except Fault Octets :=
  match skipSpaces s with
  | [] => .error (.upon .eofInObject [])
  | b :: rest => if b = 0x3A then .ok rest else .error (.upon .expectedColon (b :: rest))

/-- Reads the members of an object whose brace has been read, and its end.  `member` gets what has
been gathered so far and a key, and reads on from there. -/
def members {σ : Type} (member : σ → String → Reader σ) :
    (tries : Nat) → (first : Bool) → σ → Reader σ
  | 0, _, _, s => .error (.before .eofInObject s)
  | tries + 1, first, gathered, s =>
    match nextMember first s with
    | .error fault => .error fault
    | .ok (false, rest) => .ok (gathered, rest)
    | .ok (true, s) =>
      match readText s with
      | .error fault => .error fault
      | .ok (key, s) =>
        match member gathered key s with
        | .error fault => .error fault
        | .ok (gathered, s) => members member tries false gathered s

/-- A member whose value goes into a table. -/
def tableMember {α : Type} (value : Reader α) (table : Table α) (key : String) :
    Reader (Table α) := fun s => do
  let s ← readColon s
  let (v, s) ← value s
  .ok (table.insert key v, s)

/-! ## Values -/

/-- Reads a value that is neither a list nor an object, from its first octet on. -/
def readScalar (b : UInt8) (rest : Octets) : Except Fault (Json × Octets) :=
  if b = 0x6E then (readWord "ull".toList rest).map fun rest => (.null, rest)
  else if b = 0x74 then (readWord "rue".toList rest).map fun rest => (.bool true, rest)
  else if b = 0x66 then (readWord "alse".toList rest).map fun rest => (.bool false, rest)
  else if b = 0x2D then (readNumber true rest).map fun (n, rest) => (.num n, rest)
  else if isDigitOctet b then (readNumber false (b :: rest)).map fun (n, rest) => (.num n, rest)
  else if b = 0x22 then (readText rest).map fun (text, rest) => (.str text, rest)
  else .error (.upon .expectedValue (b :: rest))

/-- Reads a plain value. -/
def readValue : (levels : Nat) → Reader Json
  | 0, s =>
    match skipSpaces s with
    | [] => .error (.upon .eofInValue [])
    | b :: rest =>
      if b = 0x5B || b = 0x7B then .error (.upon .tooDeep (b :: rest)) else readScalar b rest
  | levels + 1, s =>
    match skipSpaces s with
    | [] => .error (.upon .eofInValue [])
    | b :: rest =>
      if b = 0x5B then
        (items (readValue levels) (rest.length + 1) true rest).map fun (xs, rest) =>
          (.arr xs, rest)
      else if b = 0x7B then
        (members (tableMember (readValue levels)) (rest.length + 1) true [] rest).map
          fun (table, rest) => (.obj table, rest)
      else readScalar b rest

/-! ## Values that are passed over -/

/-- Passes over the items of a list whose bracket has been read, and its end. -/
def skipItems (value : Octets → Except Fault Octets) :
    (tries : Nat) → (first : Bool) → Octets → Except Fault Octets
  | 0, _, s => .error (.before .eofInList s)
  | tries + 1, first, s =>
    match skipSpaces s with
    | [] => .error (.upon .eofInList [])
    | b :: rest =>
      if b = 0x5D then .ok rest
      else if first then
        match value (b :: rest) with
        | .error fault => .error fault
        | .ok s => skipItems value tries false s
      else if b = 0x2C then
        match value rest with
        | .error fault => .error fault
        | .ok s => skipItems value tries false s
      else .error (.upon .expectedListCommaOrEnd (b :: rest))

/-- Passes over one member from its key on. -/
def skipMember (value : Octets → Except Fault Octets) (s : Octets) : Except Fault Octets :=
  match skipSpaces s with
  | [] => .error (.upon .eofInObject [])
  | b :: rest =>
    if b = 0x22 then do
      let s ← skipText rest
      let s ← readColon s
      value s
    else .error (.upon .keyNotString (b :: rest))

/-- Passes over the members of an object whose brace has been read, and its end. -/
def skipMembers (value : Octets → Except Fault Octets) :
    (tries : Nat) → (first : Bool) → Octets → Except Fault Octets
  | 0, _, s => .error (.before .eofInObject s)
  | tries + 1, first, s =>
    match skipSpaces s with
    | [] => .error (.upon .eofInObject [])
    | b :: rest =>
      if b = 0x7D then .ok rest
      else if first then
        match skipMember value (b :: rest) with
        | .error fault => .error fault
        | .ok s => skipMembers value tries false s
      else if b = 0x2C then
        match skipMember value rest with
        | .error fault => .error fault
        | .ok s => skipMembers value tries false s
      else .error (.upon .expectedObjectCommaOrEnd (b :: rest))

/-- Passes over a value without looking at magnitudes, surrogates or the depth of nesting. -/
def skipValue : (tries : Nat) → Octets → Except Fault Octets
  | 0, s => .error (.before .eofInValue s)
  | tries + 1, s =>
    match skipSpaces s with
    | [] => .error (.upon .eofInValue [])
    | b :: rest =>
      if b = 0x6E then readWord "ull".toList rest
      else if b = 0x74 then readWord "rue".toList rest
      else if b = 0x66 then readWord "alse".toList rest
      else if b = 0x2D then skipNumber rest
      else if isDigitOctet b then skipNumber (b :: rest)
      else if b = 0x22 then skipText rest
      else if b = 0x5B then skipItems (skipValue tries) (rest.length + 1) true rest
      else if b = 0x7B then skipMembers (skipValue tries) (rest.length + 1) true rest
      else .error (.upon .expectedValue (b :: rest))

/-! ## Whole texts -/

/-- Reads a text to its end; after the value only blanks may follow. -/
def readWhole {α : Type} (value : Reader α) (s : Octets) : Except Fault α :=
  match value s with
  | .error fault => .error fault
  | .ok (x, rest) =>
    match skipSpaces rest with
    | [] => .ok x
    | left => .error (.upon .trailingCharacters left)

/-- The document that some octets write. -/
def parse (octets : Octets) : Except Located Json :=
  (readWhole (readValue maxLevels) octets).mapError (Fault.locate octets)

/-- The document that a text writes. -/
def parseText (text : String) : Except Located Json :=
  parse (Utf8.encode text)

end HttpScenario.Json
