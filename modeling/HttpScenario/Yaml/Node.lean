import HttpScenario.Yaml.Lexer
/-!
# Documents as trees

The tokens of a document make up a tree of scalars, lists and tables.  A part of it can carry a tag,
and can be given a name by which later parts refer to it.  References stay in the tree as numbers,
so that a tree may refer to what is around the reference; `Document.target?` looks them up.

A name stands for what it was last given to.  The number of a name is how many names there were
before it, which is no new number if a name is given a second time.
-/

namespace HttpScenario.Yaml

/-- A document or a part of one. -/
inductive Node where
  | reference (target : Nat)
  | scalar (anchor : Option Nat) (tag : Option String) (style : Style) (text : String)
  | list (anchor : Option Nat) (tag : Option String) (items : List Node)
  | table (anchor : Option Nat) (tag : Option String) (members : List (Node × Node))
  deriving Repr, Inhabited

namespace Node

/-- A scalar that is not there. -/
def empty : Node :=
  .scalar none none .plain ""

end Node

/-- What is left of the tokens, and the names given so far with their numbers. -/
structure Feed where
  tokens : List Token
  names : List (String × Nat) := []
  /-- The beginnings of tags by their handles. -/
  handles : List (String × String)

namespace Feed

/-- Leaves out the next token. -/
def drop (feed : Feed) : Feed :=
  { feed with tokens := feed.tokens.drop 1 }

/-- Whether the next token is one of some. -/
def nextAmong (tokens : List Token) (feed : Feed) : Bool :=
  match feed.tokens with
  | [] => false
  | token :: _ => tokens.contains token

/-- Gives a name; the answer is its number. -/
def giveName (name : String) (feed : Feed) : Nat × Feed :=
  let number := feed.names.length
  (number, { feed with names := (name, number) :: feed.names.filter (·.1 != name) })

/-- Gives a name if there is one. -/
def giveName? (name? : Option String) (feed : Feed) : Option Nat × Feed :=
  match name? with
  | none => (none, feed)
  | some name =>
    let (number, feed) := feed.giveName name
    (some number, feed)

/-- The whole tag for a handle and a suffix. -/
def wholeTag (handle suffix : String) (feed : Feed) : Except Fault String :=
  if handle.isEmpty then .ok suffix
  else
    match feed.handles.lookup handle with
    | some start => .ok (start ++ suffix)
    | none => .error .tag

/-- Reads an anchor and a tag in either order; both may be missing. -/
def properties (feed : Feed) : Except Fault (Option String × Option String × Feed) :=
  match feed.tokens with
  | .anchor name :: .tag handle suffix :: rest => do
    let tag ← feed.wholeTag handle suffix
    .ok (some name, some tag, { feed with tokens := rest })
  | .tag handle suffix :: .anchor name :: rest => do
    let tag ← feed.wholeTag handle suffix
    .ok (some name, some tag, { feed with tokens := rest })
  | .anchor name :: rest => .ok (some name, none, { feed with tokens := rest })
  | .tag handle suffix :: rest => do
    let tag ← feed.wholeTag handle suffix
    .ok (none, some tag, { feed with tokens := rest })
  | _ => .ok (none, none, feed)

end Feed

/-- Reads a part of a document. -/
abbrev NodeReader := Feed → Except Fault (Node × Feed)

/-- Reads a value after a mark, unless one of some tokens shows that it is missing. -/
def valueUnless (ends : List Token) (read : NodeReader) : NodeReader := fun feed =>
  if feed.nextAmong ends then .ok (.empty, feed) else read feed

/-- Reads the value of a key, if there is one. -/
def valueAfterKey (ends : List Token) (read : NodeReader) : NodeReader := fun feed =>
  if feed.nextAmong [.value] then valueUnless ends read feed.drop else .ok (.empty, feed)

/-- Reads the items of a list in a block; `ends` show that an item is missing, and `closed` says
whether the end of the list is a token of its own. -/
def blockItems (read : NodeReader) (ends : List Token) (closed : Bool) :
    (tries : Nat) → Feed → Except Fault (List Node × Feed)
  | 0, _ => .error .nesting
  | tries + 1, feed =>
    if feed.nextAmong [.blockEntry] then do
      let (item, feed) ← valueUnless ends read feed.drop
      let (items, feed) ← blockItems read ends closed tries feed
      .ok (item :: items, feed)
    else if !closed then .ok ([], feed)
    else if feed.nextAmong [.blockEnd] then .ok ([], feed.drop)
    else .error .nesting

/-- Reads the members of a table in a block. -/
def blockMembers (read : NodeReader) :
    (tries : Nat) → Feed → Except Fault (List (Node × Node) × Feed)
  | 0, _ => .error .nesting
  | tries + 1, feed =>
    if feed.nextAmong [.blockEnd] then .ok ([], feed.drop)
    else if !feed.nextAmong [.key] then .error .nesting
    else do
      let ends : List Token := [.key, .value, .blockEnd]
      let (key, feed) ← valueUnless ends read feed.drop
      let (value, feed) ← valueAfterKey ends read feed
      let (members, feed) ← blockMembers read tries feed
      .ok ((key, value) :: members, feed)

/-- Reads the comma between the parts of a collection in brackets; there is none before the first.
-/
def comma (first : Bool) (feed : Feed) : Except Fault Feed :=
  if first then .ok feed
  else if feed.nextAmong [.flowEntry] then .ok feed.drop
  else .error .nesting

/-- Reads a table of one member that stands as an item in a list, after the mark of its key.  A mark
in the place of a missing key is left out. -/
def flowPair (read : NodeReader) : NodeReader := fun feed => do
  let (key, feed) ←
    if feed.nextAmong [.value, .flowEntry, .flowSequenceEnd] then .ok (.empty, feed.drop)
    else read feed
  let (value, feed) ← valueAfterKey [.flowEntry, .flowSequenceEnd] read feed
  .ok (.table none none [(key, value)], feed)

/-- Reads the items of a list in brackets. -/
def flowItems (read : NodeReader) :
    (tries : Nat) → (first : Bool) → Feed → Except Fault (List Node × Feed)
  | 0, _, _ => .error .nesting
  | tries + 1, first, feed =>
    if feed.nextAmong [.flowSequenceEnd] then .ok ([], feed.drop)
    else do
      let feed ← comma first feed
      if feed.nextAmong [.flowSequenceEnd] then .ok ([], feed.drop)
      else do
        let (item, feed) ← if feed.nextAmong [.key] then flowPair read feed.drop else read feed
        let (items, feed) ← flowItems read tries false feed
        .ok (item :: items, feed)

/-- Reads the members of a table in brackets.  A member without a mark is a key without a value. -/
def flowMembers (read : NodeReader) :
    (tries : Nat) → (first : Bool) → Feed → Except Fault (List (Node × Node) × Feed)
  | 0, _, _ => .error .nesting
  | tries + 1, first, feed =>
    if feed.nextAmong [.flowMappingEnd] then .ok ([], feed.drop)
    else do
      let feed ← comma first feed
      if feed.nextAmong [.flowMappingEnd] then .ok ([], feed.drop)
      else do
        let ends : List Token := [.flowEntry, .flowMappingEnd]
        let ((key, value), feed) ←
          if feed.nextAmong [.key] then do
            let (key, feed) ← valueUnless (.value :: ends) read feed.drop
            let (value, feed) ← valueAfterKey ends read feed
            .ok ((key, value), feed)
          else do
            let (key, feed) ← read feed
            .ok ((key, Node.empty), feed)
        let (members, feed) ← flowMembers read tries false feed
        .ok ((key, value) :: members, feed)

/-- Reads a part of a document.  In a block, collections may be blocks; the items of a list that is
the value of a key may stand as far left as the key. -/
def readNode : (tries : Nat) → (inBlock indentless : Bool) → NodeReader
  | 0, _, _, _ => .error .nesting
  | tries + 1, inBlock, indentless, feed =>
    match feed.tokens with
    | .reference name :: rest =>
      match feed.names.lookup name with
      | some number => .ok (.reference number, { feed with tokens := rest })
      | none => .error .unknownAnchor
    | _ => do
      let (name?, tag?, feed) ← feed.properties
      let (anchor?, feed) := feed.giveName? name?
      let tag := tag?.filter (!·.isEmpty)
      match feed.tokens with
      | .scalar style text :: _ =>
        .ok (.scalar anchor? (tag.filter (· != "!")) style text, feed.drop)
      | .flowSequenceStart :: _ =>
        let (items, feed) ← flowItems (readNode tries false false) tries true feed.drop
        .ok (.list anchor? tag items, feed)
      | .flowMappingStart :: _ =>
        let (members, feed) ← flowMembers (readNode tries false false) tries true feed.drop
        .ok (.table anchor? tag members, feed)
      | token :: _ =>
        if indentless && token == .blockEntry then do
          let (items, feed) ← blockItems (readNode tries true false)
            [.blockEntry, .key, .value, .blockEnd] false tries feed
          .ok (.list anchor? tag items, feed)
        else if inBlock && token == .blockSequenceStart then do
          let (items, feed) ←
            blockItems (readNode tries true false) [.blockEntry, .blockEnd] true tries feed.drop
          .ok (.list anchor? tag items, feed)
        else if inBlock && token == .blockMappingStart then do
          let (members, feed) ← blockMembers (readNode tries true true) tries feed.drop
          .ok (.table anchor? tag members, feed)
        else if name?.isSome || tag?.isSome then .ok (.scalar anchor? tag .plain "", feed)
        else .error .nesting
      | [] =>
        if name?.isSome || tag?.isSome then .ok (.scalar anchor? tag .plain "", feed)
        else .error .nesting

/-! ## Whole documents -/

/-- Adds the beginning of a tag; a handle may have one only. -/
def addHandle (handle start : String) (handles : List (String × String)) :
    Except Fault (List (String × String)) :=
  if (handles.lookup handle).isSome then .error .directive else .ok (handles ++ [(handle, start)])

/-- Reads the directives before a document. -/
def readDirectives (versioned : Bool) (handles : List (String × String)) :
    List Token → Except Fault (List (String × String) × List Token)
  | .version major minor :: rest =>
    if versioned || major ≠ 1 || !(minor = 1 || minor = 2) then .error .directive
    else readDirectives true handles rest
  | .tagDirective handle start :: rest => do
    let handles ← addHandle handle start handles
    readDirectives versioned handles rest
  | rest => .ok (handles, rest)

/-- The handles that need no directive. -/
def defaultHandles : List (String × String) :=
  [("!", "!"), ("!!", "tag:yaml.org,2002:")]

/-- Whether a token stands outside of documents. -/
def isOutside : Token → Bool
  | .version _ _ => true
  | .tagDirective _ _ => true
  | .documentStart => true
  | .documentEnd => true
  | _ => false

/-- Reads the first document of some tokens. -/
def readDocument (tokens : List Token) : Except Fault (Node × List Token) := do
  let explicit :=
    match tokens with
    | token :: _ => isOutside token && token != .documentEnd
    | [] => false
  let (handles, rest) ← readDirectives false [] tokens
  let feed : Feed := { tokens := rest, handles := handles ++ defaultHandles }
  let tries := 4 * tokens.length + 4
  let read := readNode tries true false
  let (root, feed) ←
    if !explicit then (if tokens.isEmpty then .ok (.empty, feed) else read feed)
    else if !feed.nextAmong [.documentStart] then .error .nesting
    else
      match feed.drop.tokens with
      | [] => .ok (.empty, feed.drop)
      | token :: _ => if isOutside token then .ok (.empty, feed.drop) else read feed.drop
  .ok (root, feed.tokens)

mutual

/-- The parts of a tree that have a number, in their order. -/
def Node.numbered : Node → List (Nat × Node)
  | .reference _ => []
  | .scalar anchor tag style text =>
    match anchor with
    | some number => [(number, .scalar anchor tag style text)]
    | none => []
  | .list anchor tag items =>
    (match anchor with
      | some number => [(number, .list anchor tag items)]
      | none => []) ++ Node.numberedItems items
  | .table anchor tag members =>
    (match anchor with
      | some number => [(number, .table anchor tag members)]
      | none => []) ++ Node.numberedMembers members

/-- The parts of some trees that have a number. -/
def Node.numberedItems : List Node → List (Nat × Node)
  | [] => []
  | item :: items => item.numbered ++ Node.numberedItems items

/-- The parts of some members that have a number. -/
def Node.numberedMembers : List (Node × Node) → List (Nat × Node)
  | [] => []
  | (key, value) :: members => key.numbered ++ value.numbered ++ Node.numberedMembers members

end

mutual

/-- How often something starts, ends or is referred to in a tree. -/
def Node.eventCount : Node → Nat
  | .reference _ => 1
  | .scalar _ _ _ _ => 1
  | .list _ _ items => 2 + Node.eventCountItems items
  | .table _ _ members => 2 + Node.eventCountMembers members

/-- The same for some trees together. -/
def Node.eventCountItems : List Node → Nat
  | [] => 0
  | item :: items => item.eventCount + Node.eventCountItems items

/-- The same for some members together. -/
def Node.eventCountMembers : List (Node × Node) → Nat
  | [] => 0
  | (key, value) :: members =>
    key.eventCount + value.eventCount + Node.eventCountMembers members

end

/-- A document: its tree, and what references lead to. -/
structure Document where
  root : Node
  /-- The parts that have a number; of equal numbers the first in this list counts. -/
  targets : List (Nat × Node)

namespace Document

/-- The document of a tree. -/
def ofNode (root : Node) : Document :=
  { root := root, targets := root.numbered.reverse }

/-- What a reference leads to. -/
def target? (number : Nat) (document : Document) : Option Node :=
  document.targets.lookup number

/-- How often references may be followed. -/
def maxJumps (document : Document) : Nat :=
  100 * document.root.eventCount

end Document

/-- The only document of a text; an empty text has a missing scalar as its document. -/
def documentOf (text : String) : Except Fault Document := do
  let (root, rest) ← readDocument (← tokensOf text)
  if (rest.dropWhile (· == .documentEnd)).isEmpty then .ok (.ofNode root) else .error .documents

end HttpScenario.Yaml
