import HttpScenario.Toml.Value
/-!
# Building tables

A text is a list of sections, each with a header that says which table its members go to.  A table
can be opened only once, by one header, by dotted keys inside one section, or as a value; `Origin`
keeps which of them it was, and `update` and `addMember` decide from it what may still be added.

A header may open a table that is so far only implied by the header of a table inside it.  Dotted
keys add to tables that dotted keys have made.
-/

namespace HttpScenario.Toml

/-- How a table has come to be. -/
inductive Origin where
  /-- By a header of its own. -/
  | header
  /-- By the header of a table inside it. -/
  | implied
  /-- By a dotted key. -/
  | dotted
  deriving DecidableEq, Repr

/-- What a key stands for while a text is being read. -/
inductive Node where
  /-- A value, to which nothing can be added. -/
  | value (v : Value)
  | table (origin : Origin) (entries : List (String × Node))
  /-- The tables of a list to which headers add; the last one is still open. -/
  | tables (elements : List (List (String × Node)))
  deriving Inhabited

/-- The entries of a table that is being built. -/
abbrev Entries := Table Node

/-- Changes the table at the end of a path and makes the tables that are missing on the way.
`dotted` says whether the path is that of a dotted key; the change is told whether dotted keys have
made the table it gets. -/
def update (dotted : Bool) (change : (made : Bool) → Entries → Except Fault Entries) :
    (path : List String) → (made : Bool) → Entries → Except Fault Entries
  | [], made, entries => change made entries
  | key :: path, _, entries =>
    match Table.find? key entries with
    | none => do
      let inner ← update dotted change path dotted []
      .ok (Table.insert key (.table (if dotted then .dotted else .implied) inner) entries)
    | some (.value _) => .error (.noTable key)
    | some (.tables elements) =>
      match elements.getLast? with
      | none => .error (.noTable key)
      | some last => do
        let inner ← update dotted change path false last
        .ok (Table.insert key (.tables (elements.dropLast ++ [inner])) entries)
    | some (.table origin inner) =>
      if dotted && origin == .header then .error (.duplicate key)
      else do
        let inner ← update dotted change path (origin == .dotted) inner
        .ok (Table.insert key (.table origin inner) entries)

/-- A key with its value; the key may be a path. -/
structure Member where
  path : List String
  key : String
  value : Value

/-- Adds a member to a table that has been opened by a header or as a value.  A dotted key never
ends in a table that was made otherwise. -/
def addMember (entries : Entries) (member : Member) : Except Fault Entries :=
  update true
    (fun made entries =>
      if made == member.path.isEmpty || Table.contains member.key entries then
        .error (.duplicate member.key)
      else .ok (Table.insert member.key (.value member.value) entries))
    member.path false entries

/-- Adds members in order. -/
def addMembers (entries : Entries) (members : List Member) : Except Fault Entries :=
  members.foldlM addMember entries

/-- Where the members of a section go. -/
inductive Header where
  /-- To the table that is the whole text. -/
  | root
  | table (path : List String) (key : String)
  /-- To a new table at the end of a list. -/
  | element (path : List String) (key : String)
  deriving DecidableEq, Repr

/-- A section. -/
structure Section where
  header : Header
  members : List Member

/-- Opens a table under a key and fills it. -/
def openTable (key : String) (members : List Member) (entries : Entries) :
    Except Fault Entries := do
  let started ← match Table.find? key entries with
    | none => .ok []
    | some (.table .implied inner) => .ok inner
    | some _ => .error (.duplicate key)
  let filled ← addMembers started members
  .ok (Table.insert key (.table .header filled) entries)

/-- Adds a table to the list under a key and fills it. -/
def addElement (key : String) (members : List Member) (entries : Entries) :
    Except Fault Entries := do
  let elements ← match Table.find? key entries with
    | none => .ok []
    | some (.tables elements) => .ok elements
    | some _ => .error (.duplicate key)
  let filled ← addMembers [] members
  .ok (Table.insert key (.tables (elements ++ [filled])) entries)

/-- Adds a section. -/
def addSection (entries : Entries) (part : Section) : Except Fault Entries :=
  match part.header with
  | .root => addMembers entries part.members
  | .table path key => update false (fun _ => openTable key part.members) path false entries
  | .element path key => update false (fun _ => addElement key part.members) path false entries

/-- The table that some sections make. -/
def assemble (sections : List Section) : Except Fault Entries :=
  sections.foldlM addSection []

mutual

/-- The value that a node has come to stand for. -/
def Node.close : Node → Value
  | .value v => v
  | .table _ entries => .table (closeEntries entries)
  | .tables elements => .list (closeElements elements)

/-- The values of some entries. -/
def closeEntries : List (String × Node) → List (String × Value)
  | [] => []
  | (key, node) :: rest => (key, node.close) :: closeEntries rest

/-- The values of the tables of a list. -/
def closeElements : List (List (String × Node)) → List Value
  | [] => []
  | entries :: rest => .table (closeEntries entries) :: closeElements rest

end

/-- A table with some members, as it is written between braces. -/
def inlineTable (members : List Member) : Except Fault Value :=
  (addMembers [] members).map fun entries => .table (closeEntries entries)

end HttpScenario.Toml
