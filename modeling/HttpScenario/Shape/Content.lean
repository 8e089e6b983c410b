import HttpScenario.Json.Reader
import HttpScenario.Shape.Basic
/-!
# Values that are kept until their shape is known

Where one of several shapes has to be found, the whole value is read first and kept as it stands:
members in their order, repeated keys and all, and keys of any kind.  `Shape.ofContent?` then tries
a shape on it.  Only whether it fits matters here, so it gives an option.
-/

namespace HttpScenario

/-- A value as it stands in a document. -/
inductive Content where
  | null
  | bool (value : Bool)
  | num (value : Json.Number)
  | str (value : String)
  | seq (items : List Content)
  | map (members : List (Content × Content))
  deriving Repr, Inhabited

namespace Content

/-- A plain value that is neither a list nor an object; lists and objects do not come here. -/
def ofScalar : Json → Content
  | .null => .null
  | .bool value => .bool value
  | .num value => .num value
  | .str value => .str value
  | .arr _ => .seq []
  | .obj _ => .map []

/-- A member that is kept after the ones before it. -/
def keepMember (value : Json.Reader Content) (kept : List (Content × Content)) (key : String) :
    Json.Reader (List (Content × Content)) := fun s => do
  let s ← Json.readColon s
  let (v, s) ← value s
  .ok (kept ++ [(.str key, v)], s)

/-- Reads a value to be kept. -/
def read : (levels : Nat) → Json.Reader Content
  | 0, s => (Json.readValue 0 s).map fun (value, rest) => (ofScalar value, rest)
  | levels + 1, s =>
    match Json.skipSpaces s with
    | [] => .error (.upon .eofInValue [])
    | b :: rest =>
      if b = 0x5B then
        (Json.items (read levels) (rest.length + 1) true rest).map fun (xs, rest) => (.seq xs, rest)
      else if b = 0x7B then
        (Json.members (keepMember (read levels)) (rest.length + 1) true [] rest).map
          fun (members, rest) => (.map members, rest)
      else (Json.readScalar b rest).map fun (value, rest) => (ofScalar value, rest)

mutual

/-- The value as a plain document; every key has to be a text. -/
def toJson? : Content → Option Json
  | .null => some .null
  | .bool value => some (.bool value)
  | .num (.real value) => some (if value.isFinite then .num (.real value) else .null)
  | .num (.whole value) => some (.num (.whole value))
  | .str value => some (.str value)
  | .seq items => (itemsToJson? items).map .arr
  | .map members => (membersToJson? [] members).map .obj

/-- The items of a list as plain documents. -/
def itemsToJson? : List Content → Option (List Json)
  | [] => some []
  | item :: items =>
    match toJson? item, itemsToJson? items with
    | some value, some values => some (value :: values)
    | _, _ => none

/-- Members added to a table; of repeated keys the last one stays. -/
def membersToJson? (table : Table Json) : List (Content × Content) → Option (Table Json)
  | [] => some table
  | (key, value) :: members =>
    match key, toJson? value with
    | .str key, some value => membersToJson? (table.insert key value) members
    | _, _ => none

end

end Content

namespace Shape

/-- The name of the field that a key stands for: its own name, or the one at its place.  A key that
is neither a text nor a place stands for nothing and fits no record; an unknown one is passed
over. -/
def fieldOfKey? (names : List String) : Content → Option (Option String)
  | .str key => some (if names.contains key then some key else none)
  | .num (.whole place) => if place < 0 then none else some names[place.toNat]?
  | _ => none

/-- A way to read a kept value. -/
abbrev Fits := Content → Option Json

/-- The members of a kept object that are fields of a record, none of them twice. -/
def fieldsOfMembers? (fields : List (String × Fits × Option Json)) (found : List (String × Json)) :
    List (Content × Content) → Option (List (String × Json))
  | [] => some found
  | (key, value) :: members =>
    match fieldOfKey? (fields.map (·.1)) key with
    | none => none
    | some none => fieldsOfMembers? fields found members
    | some (some name) =>
      match found.lookup name, fields.lookup name with
      | none, some (fits, _) =>
        match fits value with
        | some v => fieldsOfMembers? fields ((name, v) :: found) members
        | none => none
      | _, _ => none

/-- The items of a kept list as the fields of a record, in order and not more than there are. -/
def fieldsOfItems? : List (String × Fits × Option Json) → List Content →
    Option (List (String × Json))
  | [], [] => some []
  | [], _ :: _ => none
  | (name, _, default?) :: fields, [] =>
    match default?, fieldsOfItems? fields [] with
    | some value, some rest => some ((name, value) :: rest)
    | _, _ => none
  | (name, fits, _) :: fields, item :: items =>
    match fits item, fieldsOfItems? fields items with
    | some value, some rest => some ((name, value) :: rest)
    | _, _ => none

/-- A kept value as a record. -/
def recordOfContent? (fields : List (String × Fits × Option Json)) : Fits
  | .seq items => (fieldsOfItems? fields items).map .obj
  | .map members =>
    match fieldsOfMembers? fields [] members with
    | some found =>
      match assemble found (fields.map fun (name, _, default?) => (name, default?)) with
      | .ok members => some (.obj members)
      | .error _ => none
    | none => none
  | _ => none

/-- A kept value as a table. -/
def tableOfContent? (fits : Fits) (table : Table Json) :
    List (Content × Content) → Option (Table Json)
  | [] => some table
  | (key, value) :: members =>
    match key, fits value with
    | .str key, some v => tableOfContent? fits (table.insert key v) members
    | _, _ => none

mutual

/-- A kept value read by a shape. -/
def ofContent? : Shape → Fits
  | .text => fun
    | .str s => some (.str s)
    | _ => none
  | .flag => fun
    | .bool b => some (.bool b)
    | _ => none
  | .whole _ low high => fun
    | .num (.whole n) => if low ≤ n ∧ n ≤ high then some (.int n) else none
    | _ => none
  | .real => fun
    | .num n => some (.num (.real n.toDouble))
    | _ => none
  | .any => Content.toJson?
  | .anyAsText => fun value => value.toJson?.map fun j => .str (asText j)
  | .list item => fun
    | .seq items => (items.mapM (ofContent? item)).map .arr
    | _ => none
  | .table value => fun
    | .map members => (tableOfContent? (ofContent? value) [] members).map .obj
    | _ => none
  | .optional value => fun
    | .null => some .null
    | v => ofContent? value v
  | .word known => fun
    | .str s => if known.contains s then some (.str s) else none
    | _ => none
  | .record _ fields => recordOfContent? (fieldsOfContent fields)
  | .firstOf _ alternatives => firstOfContent? alternatives

/-- The ways to read the fields of a record. -/
def fieldsOfContent : List (String × Shape × Option Json) → List (String × Fits × Option Json)
  | [] => []
  | (name, shape, default?) :: fields =>
    (name, ofContent? shape, default?) :: fieldsOfContent fields

/-- The first of some shapes that a kept value fits. -/
def firstOfContent? : List Shape → Fits
  | [] => fun _ => none
  | shape :: shapes => fun value =>
    match ofContent? shape value with
    | some v => some v
    | none => firstOfContent? shapes value

end

end Shape

end HttpScenario
