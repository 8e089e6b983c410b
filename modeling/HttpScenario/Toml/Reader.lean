import HttpScenario.Toml.Lexeme
import HttpScenario.Toml.Number
import HttpScenario.Toml.Tree
/-!
# Reading configuration texts

A text is first cut into sections, whose members hold finished values; then the sections are put
together.  A list may run over several lines, a table between braces may not.
-/

namespace HttpScenario.Toml

/-! ## Values -/

/-- Reads the items of a list whose bracket has been read, and its end.  A comma may stand behind
the last item. -/
def readItems (item : Reader Value) : (tries : Nat) → Reader (List Value)
  | 0, _ => .error .malformed
  | tries + 1, s => do
    match ← skipLines false s with
    | ']' :: s => .ok ([], s)
    | s =>
      let (value, s) ← item s
      match ← skipLines false s with
      | ',' :: s =>
        let (values, s) ← readItems item tries s
        .ok (value :: values, s)
      | s =>
        let s ← readMark ']' s
        .ok ([value], s)

/-- Reads a key and its value. -/
def readMember (value : Reader Value) : Reader Member := fun s => do
  let ((path, key), s) ← readKey s
  let s ← readMark '=' s
  let (v, s) ← value (skipBlanks s)
  .ok (⟨path, key, v⟩, s)

/-- Reads the members of a table between braces, the first of which is there, and its end. -/
def readMembers (value : Reader Value) : (tries : Nat) → Reader (List Member)
  | 0, _ => .error .malformed
  | tries + 1, s => do
    let (member, s) ← readMember value s
    match skipBlanks s with
    | ',' :: s =>
      let (members, s) ← readMembers value tries s
      .ok (member :: members, s)
    | s =>
      let s ← readMark '\x7d' s
      .ok ([member], s)

/-- Reads a table whose brace has been read. -/
def readTable (value : Reader Value) : Reader Value := fun s =>
  match skipBlanks s with
  | '\x7d' :: s => .ok (.table [], s)
  | s => do
    let (members, s) ← readMembers value (s.length + 1) s
    let table ← inlineTable members
    .ok (table, s)

/-- Reads a value that holds no other. -/
def readSimple : Reader Value
  | 't' :: 'r' :: 'u' :: 'e' :: rest => .ok (.flag true, rest)
  | 'f' :: 'a' :: 'l' :: 's' :: 'e' :: rest => .ok (.flag false, rest)
  | c :: rest =>
    if c = '"' ∨ c = '\'' then (readText (c :: rest)).map fun (s, rest) => (.text s, rest)
    else readNumberOrMoment (c :: rest)
  | [] => .error .malformed

/-- Reads a value that may be nested in so many levels. -/
def readValue : (levels : Nat) → Reader Value
  | 0, s =>
    if s.head? = some '[' ∨ s.head? = some '\x7b' then .error .tooDeep else readSimple s
  | levels + 1, s =>
    match s with
    | '[' :: rest =>
      (readItems (readValue levels) (rest.length + 1) rest).map fun (items, rest) =>
        (.list items, rest)
    | '\x7b' :: rest => readTable (readValue levels) rest
    | s => readSimple s

/-! ## Sections -/

/-- Reads a header. -/
def readHeader : Reader Header
  | '[' :: '[' :: rest => do
    let ((path, key), rest) ← readKey rest
    let rest ← readMark ']' rest
    let rest ← readMark ']' rest
    .ok (.element path key, rest)
  | '[' :: rest => do
    let ((path, key), rest) ← readKey rest
    let rest ← readMark ']' rest
    .ok (.table path key, rest)
  | _ => .error .malformed

/-- Reads the members of a section up to the next header, and all sections from there on. -/
def readSections (header : Header) (members : List Member) :
    (tries : Nat) → List Char → Except Fault (List Section)
  | 0, _ => .error .malformed
  | tries + 1, s => do
    match ← skipLines false s with
    | [] => .ok [⟨header, members⟩]
    | '[' :: s =>
      let (next, s) ← readHeader ('[' :: s)
      let s ← skipLineRest s
      let sections ← readSections next [] tries s
      .ok (⟨header, members⟩ :: sections)
    | s =>
      let (member, s) ← readMember (readValue maxLevels) s
      let s ← skipLineRest s
      readSections header (members ++ [member]) tries s

/-- What follows a byte order mark, if there is one. -/
def skipOrderMark : List Char → List Char
  | '\ufeff' :: rest => rest
  | s => s

/-- The table that a text writes. -/
def parse (text : String) : Except Fault Value := do
  let s := skipOrderMark text.toList
  let sections ← readSections .root [] (s.length + 1) s
  let entries ← assemble sections
  .ok (.table (closeEntries entries))

end HttpScenario.Toml
