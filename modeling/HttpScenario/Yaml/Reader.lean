import HttpScenario.Shape.Content
import HttpScenario.Yaml.Node
import HttpScenario.Yaml.Plain
/-!
# Reading a YAML text by a shape

Where the shape says what a scalar has to be, it is taken as that: any scalar can be a text, and a
plain one a number or a truth value if it reads as one.  Where any value may stand, a plain scalar
is what it looks like, unless a tag says otherwise; a tag of one's own fits nowhere there.

References are followed where they stand.  How deep collections may be nested and how often
references may be followed is limited, so that reading ends for every text.
-/

namespace HttpScenario.Yaml

/-- How often references have been followed goes through all readers. -/
abbrev Reading := StateT Nat (Except Fault)

/-- What references lead to, and how often they may be followed. -/
structure References where
  document : Document
  maxJumps : Nat

/-- Stops with a fault. -/
def failWith {α : Type} (fault : Fault) : Reading α := fun _ => .error fault

/-- The part itself, or what it refers to. -/
def References.follow (refs : References) : Node → Reading Node
  | .reference number => fun jumps =>
    if refs.maxJumps < jumps + 1 then .error .repetition
    else
      match refs.document.target? number with
      | some node => .ok (node, jumps + 1)
      | none => .error .unknownAnchor
  | node => pure node

/-- How deep collections may be nested. -/
def maxLevels : Nat := 128

/-! ## Scalars -/

/-- Whether a tag is one of one's own. -/
def isOwnTag (tag? : Option String) : Bool :=
  match tag? with
  | some tag => tag.startsWith "!"
  | none => false

/-- The tag of a kind of values that every reader knows. -/
def knownTag (kind : String) : String :=
  "tag:yaml.org,2002:" ++ kind

/-- A whole number where any value may stand.  Within 128 bits it has to fit 64; beyond them it is
no whole number. -/
def wholeOf? (s : String) : Except Fault (Option Json.Number) :=
  match whole? s with
  | none => .ok none
  | some n =>
    if Json.Number.least ≤ n ∧ n < Json.Number.limit then .ok (some (.whole n))
    else if fitsWords n then .error .misfit
    else .ok none

/-- What a plain scalar looks like. -/
def plainContent (s : String) : Except Fault Content :=
  if s.isEmpty || isNull s then .ok .null
  else
    match flag? s with
    | some b => .ok (.bool b)
    | none => do
      match ← wholeOf? s with
      | some n => .ok (.num n)
      | none =>
        match if hasLeadingZero s.toList then none else real? s with
        | some d => .ok (.num (.real d))
        | none => .ok (.str s)

/-- A value that has to be there. -/
def needed {α : Type} : Option α → Except Fault α
  | some value => .ok value
  | none => .error .misfit

/-- A scalar where any value may stand. -/
def scalarContent (tag? : Option String) (style : Style) (s : String) : Except Fault Content :=
  if isOwnTag tag? then .error .misfit
  else
    match tag? with
    | none => if style = .plain then plainContent s else .ok (.str s)
    | some tag =>
      if tag = knownTag "bool" then (needed (flag? s)).map .bool
      else if tag = knownTag "int" then do
        let n? ← wholeOf? s
        (needed n?).map .num
      else if tag = knownTag "float" then (needed (real? s)).map fun d => .num (.real d)
      else if tag = knownTag "null" then if isNull s then .ok .null else .error .misfit
      else .ok (.str s)

/-- Whether a scalar may be read as a number or a truth value of some kind: a plain one, or a block
of lines that is tagged so. -/
def mayBe (kind : String) (tag? : Option String) (style : Style) : Bool :=
  style == .plain || (style == .literal && tag? == some (knownTag kind))

/-! ## Any value -/

mutual

/-- Keeps a value as it stands. -/
def contentOf (refs : References) : (levels : Nat) → Node → Reading Content
  | 0, node => do
    match ← refs.follow node with
    | .scalar _ tag style s => StateT.lift (scalarContent tag style s)
    | _ => failWith .depth
  | levels + 1, node => do
    match ← refs.follow node with
    | .scalar _ tag style s => StateT.lift (scalarContent tag style s)
    | .list _ tag items =>
      if isOwnTag tag then failWith .misfit
      else return .seq (← contentOfItems refs levels items)
    | .table _ tag members =>
      if isOwnTag tag then failWith .misfit
      else return .map (← contentOfMembers refs levels members)
    | .reference _ => failWith .unknownAnchor

/-- Keeps the items of a list. -/
def contentOfItems (refs : References) (levels : Nat) : List Node → Reading (List Content)
  | [] => return []
  | item :: items => do
    let value ← contentOf refs levels item
    return value :: (← contentOfItems refs levels items)

/-- Keeps the members of a table. -/
def contentOfMembers (refs : References) (levels : Nat) :
    List (Node × Node) → Reading (List (Content × Content))
  | [] => return []
  | (key, value) :: members => do
    let k ← contentOf refs levels key
    let v ← contentOf refs levels value
    return (k, v) :: (← contentOfMembers refs levels members)

end

/-- The text of a key. -/
def keyText (refs : References) (key : Node) : Reading String := do
  match ← refs.follow key with
  | .scalar _ _ _ s => return s
  | _ => failWith .misfit

/-- A kept value that is neither a list nor a table as a plain document. -/
def jsonOfContent (value : Content) : Except Fault Json :=
  needed value.toJson?

mutual

/-- Reads any value as a plain document.  Keys are texts, whatever they look like. -/
def anyOf (refs : References) : (levels : Nat) → Node → Reading Json
  | 0, node => do
    match ← refs.follow node with
    | .scalar _ tag style s => StateT.lift (scalarContent tag style s >>= jsonOfContent)
    | _ => failWith .depth
  | levels + 1, node => do
    match ← refs.follow node with
    | .scalar _ tag style s => StateT.lift (scalarContent tag style s >>= jsonOfContent)
    | .list _ tag items =>
      if isOwnTag tag then failWith .misfit else return .arr (← anyOfItems refs levels items)
    | .table _ tag members =>
      if isOwnTag tag then failWith .misfit
      else return .obj (← anyOfMembers refs levels [] members)
    | .reference _ => failWith .unknownAnchor

/-- Reads the items of a list as plain documents. -/
def anyOfItems (refs : References) (levels : Nat) : List Node → Reading (List Json)
  | [] => return []
  | item :: items => do
    let value ← anyOf refs levels item
    return value :: (← anyOfItems refs levels items)

/-- Reads members into a table; of repeated keys the last one stays. -/
def anyOfMembers (refs : References) (levels : Nat) (table : Table Json) :
    List (Node × Node) → Reading (Table Json)
  | [] => return table
  | (key, value) :: members => do
    let k ← keyText refs key
    let v ← anyOf refs levels value
    anyOfMembers refs levels (table.insert k v) members

end

/-! ## Values of a shape -/

/-- A way to read a value with so many levels of nesting left. -/
abbrev NodeShape := (levels : Nat) → Node → Reading Json

/-- Reads the items of a list. -/
def readItems (item : Node → Reading Json) : List Node → Reading (List Json)
  | [] => return []
  | node :: nodes => do
    let value ← item node
    return value :: (← readItems item nodes)

/-- Reads the members of a table. -/
def readEntries (refs : References) (value : Node → Reading Json) (table : Table Json) :
    List (Node × Node) → Reading (Table Json)
  | [] => return table
  | (key, node) :: members => do
    let k ← keyText refs key
    let v ← value node
    readEntries refs value (table.insert k v) members

/-- Reads the members of a record; unknown ones are passed over, and none may come twice. -/
def readFields (refs : References) (fields : List (String × (Node → Reading Json)))
    (found : List (String × Json)) : List (Node × Node) → Reading (List (String × Json))
  | [] => return found
  | (key, node) :: members => do
    let k ← keyText refs key
    match fields.lookup k with
    | none => readFields refs fields found members
    | some value =>
      if (found.lookup k).isSome then failWith .misfit
      else do
        let v ← value node
        readFields refs fields ((k, v) :: found) members

/-- What a node holds if it is a collection: the members of a table or the items of a list.  A
missing scalar counts as an empty collection. -/
inductive Collection where
  | items (items : List Node)
  | members (members : List (Node × Node))
  | empty
  | other

/-- What a node holds. -/
def collectionOf : Node → Collection
  | .list _ _ items => .items items
  | .table _ _ members => .members members
  | .scalar _ _ style s => if s.isEmpty && style == .plain then .empty else .other
  | .reference _ => .other

/-- Goes into a collection, if a level of nesting is left. -/
def nested {α : Type} (levels : Nat) (read : Nat → Reading α) : Reading α :=
  match levels with
  | 0 => failWith .depth
  | levels + 1 => read levels

/-- The record made of what was found. -/
def recordOf (fields : List (String × Option Json)) (found : List (String × Json)) :
    Except Fault Json :=
  match Shape.assemble found fields with
  | .ok members => .ok (.obj members)
  | .error _ => .error .misfit

/-- Reads a scalar that stands for a number or a truth value. -/
def readScalarAs (refs : References) (kind : String) (read : String → Option Json)
    (node : Node) : Reading Json := do
  match ← refs.follow node with
  | .scalar _ tag style s =>
    if mayBe kind tag style then StateT.lift (needed (read s)) else failWith .misfit
  | _ => failWith .misfit

/-- A whole number of a range; one that may not be negative has no minus sign. -/
def wholeIn? (low high : Int) (s : String) : Option Json :=
  if 0 ≤ low && s.startsWith "-" then none
  else (whole? s).bind fun n => if low ≤ n ∧ n ≤ high then some (.int n) else none

/-- Reads one of some words.  It can also be written as a tag of a missing value. -/
def readWordOf (known : List String) : Node → Except Fault Json
  | .scalar _ tag style s =>
    match tag.filter (·.startsWith "!") with
    | none => if known.contains s then .ok (.str s) else .error .misfit
    | some tag =>
      let word := String.ofList (tag.toList.drop 1)
      if known.contains word && style == .plain && (s.isEmpty || isNull s) then .ok (.str word)
      else .error .misfit
  | _ => .error .misfit

/-- Whether a node stands for nothing where a value may be missing. -/
def isMissing : Node → Except Fault Bool
  | .scalar _ tag style s =>
    if style != .plain then .ok false
    else
      match tag with
      | some tag =>
        if tag = knownTag "null" then if isNull s then .ok true else .error .misfit else .ok false
      | none => .ok (s.isEmpty || isNull s)
  | _ => .ok false

mutual

/-- Reads a value by a shape. -/
def readShape (refs : References) : Shape → NodeShape
  | .text => fun _ node => do
    match ← refs.follow node with
    | .scalar _ _ _ s => return .str s
    | _ => failWith .misfit
  | .flag => fun _ => readScalarAs refs "bool" fun s => (flag? s).map .bool
  | .whole _ low high => fun _ => readScalarAs refs "int" (wholeIn? low high)
  | .real => fun _ => readScalarAs refs "float" fun s => (real? s).map fun d => .num (.real d)
  | .any => fun levels node => anyOf refs levels node
  | .anyAsText => fun levels node => return .str (Shape.asText (← anyOf refs levels node))
  | .list item => fun levels node => do
    match collectionOf (← refs.follow node) with
    | .items items =>
      return .arr (← nested levels fun levels => readItems (readShape refs item levels) items)
    | .empty => return .arr []
    | _ => failWith .misfit
  | .table value => fun levels node => do
    match collectionOf (← refs.follow node) with
    | .members members =>
      return .obj
        (← nested levels fun levels => readEntries refs (readShape refs value levels) [] members)
    | .empty => return .obj []
    | _ => failWith .misfit
  | .optional value => fun levels node => do
    let node ← refs.follow node
    if ← StateT.lift (isMissing node) then return .null else readShape refs value levels node
  | .word known => fun _ node => do
    let node ← refs.follow node
    StateT.lift (readWordOf known node)
  | .record _ fields => fun levels node => do
    let defaults := fields.map fun (name, _, default?) => (name, default?)
    match collectionOf (← refs.follow node) with
    | .members members => do
      let found ← nested levels fun levels =>
        readFields refs (fieldShapes refs fields levels) [] members
      StateT.lift (recordOf defaults found)
    | .empty => StateT.lift (recordOf defaults [])
    | _ => failWith .misfit
  | .firstOf _ alternatives => fun levels node => do
    let kept ← contentOf refs levels node
    StateT.lift (needed (Shape.firstOfContent? alternatives kept))

/-- The ways to read the fields of a record. -/
def fieldShapes (refs : References) :
    List (String × Shape × Option Json) → (levels : Nat) → List (String × (Node → Reading Json))
  | [], _ => []
  | (name, shape, _) :: fields, levels =>
    (name, readShape refs shape levels) :: fieldShapes refs fields levels

end

/-- The document that a YAML text writes, read by a shape. -/
def parseText (shape : Shape) (text : String) : Except Fault Json := do
  let document ← documentOf text
  let refs : References := ⟨document, document.maxJumps⟩
  let (value, _) ← (readShape refs shape maxLevels document.root).run 0
  .ok value

end HttpScenario.Yaml
