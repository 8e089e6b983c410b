import HttpScenario.Pattern.Property
import HttpScenario.Pattern.Tree
import HttpScenario.Text.Hex
import HttpScenario.Text.Letter
/-!
# Reading patterns

A pattern is read from its front into a tree, or to the first fault.  `Cursor` is what is left to
read together with the two things that earlier parts can change: whether blanks and comments are
left out, and which group names are taken.

Every round of the two main loops uses up at least one character of the pattern, so they get as
many tries as the pattern has characters.
-/

namespace HttpScenario.Pattern

/-- What is left of a pattern. -/
structure Cursor where
  rest : List Char
  /-- Whether blanks and comments are left out. -/
  verbose : Bool
  /-- The group names that are taken. -/
  names : List String
  deriving Repr

/-- Leaves out blanks, and comments up to the end of their line. -/
def dropComments (inComment : Bool) : List Char → List Char
  | [] => []
  | c :: rest =>
    if inComment then dropComments (c != '\n') rest
    else if Text.isBlank c then dropComments false rest
    else if c = '#' then dropComments true rest
    else c :: rest

namespace Cursor

/-- Leaves out blanks and comments where the pattern asks for that. -/
def skip (cur : Cursor) : Cursor :=
  if cur.verbose then { cur with rest := dropComments false cur.rest } else cur

/-- Goes on to what is left. -/
def goTo (cur : Cursor) (rest : List Char) : Cursor :=
  { cur with rest := rest }

/-- Goes on to what is left and leaves out blanks. -/
def past (cur : Cursor) (rest : List Char) : Cursor :=
  (cur.goTo rest).skip

end Cursor

/-! ## Numbers and escapes -/

/-- The characters that have a meaning of their own. -/
def isMeta (c : Char) : Bool :=
  "\\.+*?()|[]\x7b\x7d^$#&-~".toList.contains c

/-- Whether a backslash before a character stands for the character itself. -/
def isEscapable (c : Char) : Bool :=
  isMeta c || (c.toNat < 0x80 && !c.isAlphanum && c != '<' && c != '>')

/-- The number that hexadecimal digits write. -/
def hexNumber (ds : List Nat) : Nat :=
  ds.foldl (fun n d => n * 16 + d) 0

/-- A number that is a character. -/
def checkChar (n : Nat) : Except Fault Nat :=
  if n < 0xD800 ∨ (0xDFFF < n ∧ n < 0x110000) then .ok n else .error .escapeNumber

/-- Reads a fixed number of hexadecimal digits. -/
def readHexDigits (cur : Cursor) : (count : Nat) → List Nat → Except Fault (List Nat × Cursor)
  | 0, ds => .ok (ds.reverse, cur)
  | count + 1, ds =>
    match cur.rest with
    | [] => .error .escapeAtEnd
    | c :: rest =>
      match Text.hexDigit? c with
      | none => .error .escapeDigit
      | some d => readHexDigits (cur.past rest) count (d :: ds)

/-- Reads hexadecimal digits up to a closing brace. -/
def readHexBrace (cur : Cursor) : (tries : Nat) → List Nat → Except Fault (List Nat × Cursor)
  | 0, _ => .error .escapeAtEnd
  | tries + 1, ds =>
    match cur.rest with
    | [] => .error .escapeAtEnd
    | c :: rest =>
      if c = '\x7d' then .ok (ds.reverse, cur.past rest)
      else
        match Text.hexDigit? c with
        | none => .error .escapeDigit
        | some d => readHexBrace (cur.past rest) tries (d :: ds)

/-- Reads a character written as a hexadecimal number, after the letter that says so. -/
def readHex (cur : Cursor) (digits : Nat) : Except Fault (Tree × Cursor) :=
  match cur.rest with
  | [] => .error .escapeAtEnd
  | c :: rest =>
    if c = '\x7b' then do
      let (ds, cur) ← readHexBrace (cur.past rest) (rest.length + 1) []
      if ds.isEmpty then .error .escapeEmpty
      else
        let n ← checkChar (hexNumber ds)
        .ok (.char n false, cur)
    else do
      let (ds, cur) ← readHexDigits cur digits []
      let n ← checkChar (hexNumber ds)
      .ok (.char n (digits == 2), cur)

/-- Reads the name of a property up to a closing brace. -/
def readPropertyName (cur : Cursor) :
    (tries : Nat) → List Char → Except Fault (List Char × Cursor)
  | 0, _ => .error .escapeAtEnd
  | tries + 1, name =>
    match cur.rest with
    | [] => .error .escapeAtEnd
    | c :: rest =>
      if c = '\x7d' then .ok (name.reverse, cur.goTo rest)
      else readPropertyName (cur.past rest) tries (c :: name)

/-- Reads a property, after the letter that says so. -/
def readProperty (cur : Cursor) (negated : Bool) : Except Fault (Tree × Cursor) :=
  match cur.rest with
  | [] => .error .escapeAtEnd
  | c :: rest => do
    let (name, cur) ←
      if c = '\x7b' then readPropertyName (cur.past rest) (rest.length + 1) []
      else if c = '\\' then .error .propertySyntax
      else .ok ([c], cur.past rest)
    match propertyOf? (String.ofList name) with
    | some (set, flipped) => .ok (.property set (negated != flipped), cur)
    | none => .error .propertyUnknown

/-- Whether a character may stand in the name of a boundary. -/
def isBoundaryChar (c : Char) : Bool :=
  c.isAlpha || c == '-'

/-- Reads the name of a boundary up to a closing brace. -/
def readBoundaryName (cur : Cursor) :
    (tries : Nat) → List Char → Except Fault (List Char × Cursor)
  | 0, _ => .error .boundaryUnclosed
  | tries + 1, name =>
    match cur.rest with
    | [] => .error .boundaryUnclosed
    | c :: rest =>
      if c = '\x7d' then .ok (name.reverse, cur.goTo rest)
      else if isBoundaryChar c then readBoundaryName (cur.past rest) tries (c :: name)
      else .error .boundaryUnclosed

/-- The boundary with a name. -/
def boundaryOf? (name : String) : Option Anchor :=
  if name = "start" then some .wordStart
  else if name = "end" then some .wordEnd
  else if name = "start-half" then some .wordStartHalf
  else if name = "end-half" then some .wordEndHalf
  else none

/-- Reads what may follow `\b`: the name of a boundary between braces.  Braces that hold no name
are left for a repetition. -/
def readBoundary (cur : Cursor) : Except Fault (Tree × Cursor) :=
  match cur.rest with
  | '\x7b' :: rest =>
    let inside := cur.past rest
    match inside.rest with
    | [] => .error .boundaryUnclosed
    | c :: _ =>
      if isBoundaryChar c then do
        let (name, cur) ← readBoundaryName inside (rest.length + 1) []
        match boundaryOf? (String.ofList name) with
        | some anchor => .ok (.anchor anchor, cur)
        | none => .error .boundaryUnknown
      else .ok (.anchor .boundary, cur)
  | _ => .ok (.anchor .boundary, cur)

/-- Reads what follows a backslash. -/
def readEscape (cur : Cursor) : Except Fault (Tree × Cursor) :=
  match cur.rest with
  | [] => .error .escapeAtEnd
  | c :: rest =>
    let cur := cur.goTo rest
    if c.isDigit then .error .backreference
    else if isEscapable c then .ok (.char c.toNat false, cur)
    else
      match c with
      | 'x' => readHex cur.skip 2
      | 'u' => readHex cur.skip 4
      | 'U' => readHex cur.skip 8
      | 'p' => readProperty cur.skip false
      | 'P' => readProperty cur.skip true
      | 'd' => .ok (.short .digit false, cur)
      | 'D' => .ok (.short .digit true, cur)
      | 's' => .ok (.short .space false, cur)
      | 'S' => .ok (.short .space true, cur)
      | 'w' => .ok (.short .word false, cur)
      | 'W' => .ok (.short .word true, cur)
      | 'a' => .ok (.char 0x07 false, cur)
      | 'f' => .ok (.char 0x0C false, cur)
      | 't' => .ok (.char 0x09 false, cur)
      | 'n' => .ok (.char 0x0A false, cur)
      | 'r' => .ok (.char 0x0D false, cur)
      | 'v' => .ok (.char 0x0B false, cur)
      | 'A' => .ok (.anchor .textStart, cur)
      | 'z' => .ok (.anchor .textEnd, cur)
      | 'b' => readBoundary cur
      | 'B' => .ok (.anchor .notBoundary, cur)
      | '<' => .ok (.anchor .wordStart, cur)
      | '>' => .ok (.anchor .wordEnd, cur)
      | _ => .error .escapeUnknown

/-! ## Classes between brackets -/

/-- The ranges of a class with a name between colons. -/
def namedRanges? (name : String) : Option (List (Nat × Nat)) :=
  match name with
  | "alnum" => some [(48, 57), (65, 90), (97, 122)]
  | "alpha" => some [(65, 90), (97, 122)]
  | "ascii" => some [(0, 127)]
  | "blank" => some [(9, 9), (32, 32)]
  | "cntrl" => some [(0, 31), (127, 127)]
  | "digit" => some [(48, 57)]
  | "graph" => some [(33, 126)]
  | "lower" => some [(97, 122)]
  | "print" => some [(32, 126)]
  | "punct" => some [(33, 47), (58, 64), (91, 96), (123, 126)]
  | "space" => some [(9, 13), (32, 32)]
  | "upper" => some [(65, 90)]
  | "word" => some [(48, 57), (65, 90), (95, 95), (97, 122)]
  | "xdigit" => some [(48, 57), (65, 70), (97, 102)]
  | _ => none

/-- Reads a class with a name between colons, from its opening bracket on, if one is there. -/
def readNamed? (cur : Cursor) : Option (ClassTree × Cursor) :=
  match cur.rest with
  | '[' :: ':' :: rest =>
    let (negated, rest) :=
      match rest with
      | '^' :: rest => (true, rest)
      | rest => (false, rest)
    match namedRanges? (String.ofList (rest.takeWhile (· != ':'))),
        rest.dropWhile (· != ':') with
    | some ranges, ':' :: ']' :: after => some (.named ranges negated, cur.goTo after)
    | _, _ => none
  | _ => none

/-- What a part of a class stands for as an item. -/
def classItem : Tree → Except Fault ClassTree
  | .char n asOctet => .ok (.char n asOctet)
  | .short kind negated => .ok (.short kind negated)
  | .property set negated => .ok (.property set negated)
  | _ => .error .classEscape

/-- What a part of a class stands for as the end of a range. -/
def rangeEnd : Tree → Except Fault Nat
  | .char n _ => .ok n
  | _ => .error .classRange

/-- Reads one character or escape inside a class. -/
def readClassPart (cur : Cursor) : Except Fault (Tree × Cursor) :=
  match cur.rest with
  | [] => .error .classUnclosed
  | '\\' :: rest => readEscape (cur.goTo rest)
  | c :: rest => .ok (.char c.toNat false, cur.goTo rest)

/-- The next character after blanks, past the one at hand. -/
def peekPast (cur : Cursor) : Option Char :=
  match cur.rest with
  | [] => none
  | _ :: rest => (cur.past rest).rest.head?

/-- Reads an item of a class: a part, or a range from one part to another. -/
def readClassRange (cur : Cursor) : Except Fault (ClassTree × Cursor) := do
  let (first, cur) ← readClassPart cur
  let cur := cur.skip
  match cur.rest with
  | [] => .error .classUnclosed
  | c :: rest =>
    if c != '-' || peekPast cur == some ']' || peekPast cur == some '-' then do
      let item ← classItem first
      .ok (item, cur)
    else
      let cur := cur.past rest
      if cur.rest.isEmpty then .error .classUnclosed
      else do
        let (last, cur) ← readClassPart cur
        let low ← rangeEnd first
        let high ← rangeEnd last
        if low ≤ high then .ok (.range low high, cur) else .error .classRangeOrder

/-- An operator between classes. -/
inductive ClassOp where
  | inter
  | diff
  | symmDiff
  deriving DecidableEq, Repr

/-- What an operator makes of two classes. -/
def ClassOp.build : ClassOp → ClassTree → ClassTree → ClassTree
  | .inter => .inter
  | .diff => .diff
  | .symmDiff => .symmDiff

/-- Joins what stands before an operator with what stands after it. -/
def joinPending (pending : Option (ClassOp × ClassTree)) (items : List ClassTree) : ClassTree :=
  let right := ClassTree.ofItems items.reverse
  match pending with
  | none => right
  | some (op, left) => op.build left right

/-- Minus signs at the front of a class, which stand for themselves. -/
def readLeadingMinus (cur : Cursor) :
    (tries : Nat) → List ClassTree → Except Fault (List ClassTree × Cursor)
  | 0, items => .ok (items, cur)
  | tries + 1, items =>
    match cur.rest with
    | '-' :: rest =>
      let cur := cur.past rest
      if cur.rest.isEmpty then .error .classUnclosed
      else readLeadingMinus cur tries (.char 45 false :: items)
    | _ => .ok (items, cur)

/-- Reads the front of a class from its opening bracket on: whether it is negated, and the minus
signs or the closing bracket that stand for themselves there. -/
def readClassOpen (cur : Cursor) : Except Fault ((Bool × List ClassTree) × Cursor) :=
  match cur.rest with
  | [] => .error .classUnclosed
  | _ :: rest => do
    let cur := cur.past rest
    let (negated, cur) ←
      match cur.rest with
      | [] => .error .classUnclosed
      | '^' :: rest =>
        let cur := cur.past rest
        if cur.rest.isEmpty then .error .classUnclosed else .ok (true, cur)
      | _ => .ok (false, cur)
    let (items, cur) ← readLeadingMinus cur cur.rest.length []
    match items, cur.rest with
    | [], ']' :: rest =>
      let cur := cur.past rest
      if cur.rest.isEmpty then .error .classUnclosed else .ok ((negated, [.char 93 false]), cur)
    | items, _ => .ok ((negated, items), cur)

/-- Reads a class after its front. -/
def readClass : (tries : Nat) → (negated : Bool) → (pending : Option (ClassOp × ClassTree)) →
    (items : List ClassTree) → Cursor → Except Fault (ClassTree × Cursor)
  | 0, _, _, _, _ => .error .classUnclosed
  | tries + 1, negated, pending, items, cur =>
    let cur := cur.skip
    match cur.rest with
    | [] => .error .classUnclosed
    | '[' :: _ =>
      match readNamed? cur with
      | some (item, cur) => readClass tries negated pending (item :: items) cur
      | none => do
        let ((innerNegated, innerItems), cur) ← readClassOpen cur
        let (item, cur) ← readClass tries innerNegated none innerItems cur
        readClass tries negated pending (item :: items) cur
    | ']' :: rest => .ok (.bracket negated (joinPending pending items), cur.goTo rest)
    | '&' :: '&' :: rest =>
      readClass tries negated (some (.inter, joinPending pending items)) [] (cur.goTo rest)
    | '-' :: '-' :: rest =>
      readClass tries negated (some (.diff, joinPending pending items)) [] (cur.goTo rest)
    | '~' :: '~' :: rest =>
      readClass tries negated (some (.symmDiff, joinPending pending items)) [] (cur.goTo rest)
    | _ => do
      let (item, cur) ← readClassRange cur
      readClass tries negated pending (item :: items) cur

/-! ## Repetitions -/

/-- Takes the item that a repetition is about. -/
def repeated : List Tree → Except Fault (Tree × List Tree)
  | [] => .error .nothingToRepeat
  | .empty :: _ => .error .nothingToRepeat
  | .flags _ :: _ => .error .nothingToRepeat
  | t :: items => .ok (t, items)

/-- Passes over the mark that makes a repetition prefer few rounds. -/
def skipLazy (cur : Cursor) : Cursor :=
  match cur.rest with
  | '?' :: rest => cur.goTo rest
  | _ => cur

/-- Reads a count, blanks around it left out; no digits at all is `none`. -/
def readCount (cur : Cursor) : Except Fault ((Option Nat) × Cursor) :=
  let cs := cur.rest.dropWhile Text.isBlank
  let digits := cs.takeWhile Char.isDigit
  let after := (cs.dropWhile Char.isDigit).dropWhile Text.isBlank
  let value := digits.foldl (fun n c => n * 10 + (c.toNat - 48)) 0
  if digits.isEmpty then .ok (none, cur.goTo after)
  else if value < 4294967296 then .ok (some value, cur.goTo after)
  else .error .countTooGreat

/-- The count that has to be there. -/
def needCount : Option Nat → Except Fault Nat
  | some n => .ok n
  | none => .error .countEmpty

/-- Reads the end of a counted repetition. -/
def closeCount (cur : Cursor) (low : Nat) (high : Option Nat) :
    Except Fault ((Nat × Option Nat) × Cursor) :=
  match cur.rest with
  | '\x7d' :: rest =>
    let cur := skipLazy (cur.past rest)
    match high with
    | some h => if low ≤ h then .ok ((low, high), cur) else .error .countOrder
    | none => .ok ((low, high), cur)
  | _ => .error .countUnclosed

/-- Reads a counted repetition after its opening brace. -/
def readCounts (cur : Cursor) : Except Fault ((Nat × Option Nat) × Cursor) :=
  if cur.rest.isEmpty then .error .countUnclosed
  else do
    let (first, cur) ← readCount cur
    match cur.rest with
    | [] => .error .countUnclosed
    | ',' :: rest =>
      let cur := cur.past rest
      match cur.rest with
      | [] => .error .countUnclosed
      | '\x7d' :: _ => do
        let low ← needCount first
        closeCount cur low none
      | _ => do
        let low ← needCount first
        let (last, cur) ← readCount cur
        let high ← needCount last
        closeCount cur low (some high)
    | _ => do
      let n ← needCount first
      closeCount cur n (some n)

/-! ## Groups -/

/-- The flag that a letter stands for. -/
def flagOf? (c : Char) : Option Flag :=
  match c with
  | 'i' => some .ignoreCase
  | 'm' => some .lines
  | 's' => some .dotAll
  | 'U' => some .swapGreed
  | 'u' => some .unicode
  | 'R' => some .crlf
  | 'x' => some .verbose
  | _ => none

/-- Reads flags up to the colon or parenthesis that ends them, which is left to read. -/
def readFlags (cur : Cursor) : (tries : Nat) → (minus dangling : Bool) → FlagChange →
    Except Fault (FlagChange × Cursor)
  | 0, _, _, _ => .error .flagAtEnd
  | tries + 1, minus, dangling, change =>
    match cur.rest with
    | [] => .error .flagAtEnd
    | c :: rest =>
      if c = ':' ∨ c = ')' then
        if dangling then .error .flagDangling else .ok (change.reverse, cur)
      else if c = '-' then
        if minus then .error .flagRepeatedMinus
        else
          let cur := cur.past rest
          if cur.rest.isEmpty then .error .flagAtEnd else readFlags cur tries true true change
      else
        match flagOf? c with
        | none => .error .flagUnknown
        | some flag =>
          if change.any (·.1 == flag) then .error .flagDuplicate
          else
            let cur := cur.past rest
            if cur.rest.isEmpty then .error .flagAtEnd
            else readFlags cur tries minus false ((flag, !minus) :: change)

/-- Whether a character may stand in the name of a group. -/
def isGroupNameChar (first : Bool) (c : Char) : Bool :=
  if first then c == '_' || Text.isAlphabetic c
  else c == '_' || c == '.' || c == '[' || c == ']' || Text.isAlphanumeric c

/-- Reads the name of a group up to its closing angle bracket. -/
def readGroupName (cur : Cursor) : Except Fault (String × Cursor) :=
  if cur.rest.isEmpty then .error .groupNameAtEnd
  else
    let name := cur.rest.takeWhile (· != '>')
    match name with
    | [] => .error .groupNameEmpty
    | c :: cs =>
      if !isGroupNameChar true c || !cs.all (isGroupNameChar false) then .error .groupNameChar
      else
        match cur.rest.dropWhile (· != '>') with
        | [] => .error .groupNameAtEnd
        | _ :: rest =>
          let name := String.ofList name
          if cur.names.contains name then .error .groupNameDuplicate
          else .ok (name, { cur with rest := rest, names := name :: cur.names })

/-- Whether blanks and comments are left out after a change of flags. -/
def verboseAfter (verbose : Bool) (change : FlagChange) : Bool :=
  match change.lookup .verbose with
  | some on => on
  | none => verbose

/-- What an opening parenthesis starts. -/
inductive GroupOpen where
  /-- A group, with the flags that hold inside it. -/
  | group (change : FlagChange)
  /-- Flags for the rest of the group around it. -/
  | flags (change : FlagChange)
  deriving Repr

/-- Reads the front of a group after its opening parenthesis. -/
def readGroupOpen (cur : Cursor) : Except Fault (GroupOpen × Cursor) :=
  let cur := cur.skip
  match cur.rest with
  | '?' :: '=' :: _ => .error .lookAround
  | '?' :: '!' :: _ => .error .lookAround
  | '?' :: '<' :: '=' :: _ => .error .lookAround
  | '?' :: '<' :: '!' :: _ => .error .lookAround
  | '?' :: 'P' :: '<' :: rest => do
    let (_, cur) ← readGroupName (cur.goTo rest)
    .ok (.group [], cur)
  | '?' :: '<' :: rest => do
    let (_, cur) ← readGroupName (cur.goTo rest)
    .ok (.group [], cur)
  | '?' :: [] => .error .groupUnclosed
  | '?' :: rest => do
    let (change, cur) ← readFlags (cur.goTo rest) (rest.length + 1) false false []
    match cur.rest with
    | ')' :: rest =>
      if change.isEmpty then .error .nothingToRepeat else .ok (.flags change, cur.goTo rest)
    | _ :: rest => .ok (.group change, cur.goTo rest)
    | [] => .error .flagAtEnd
  | _ => .ok (.group [], cur)

/-! ## Sequences -/

/-- Reads alternatives up to a closing parenthesis, which is left to read, or to the end.  The items
of the current branch and the earlier branches are kept in reverse. -/
def readBranches :
    (tries : Nat) → (items branches : List Tree) → Cursor → Except Fault (Tree × Cursor)
  | 0, items, branches, cur =>
    .ok (Tree.ofBranches (Tree.ofItems items.reverse :: branches).reverse, cur)
  | tries + 1, items, branches, cur =>
    let cur := cur.skip
    match cur.rest with
    | [] => .ok (Tree.ofBranches (Tree.ofItems items.reverse :: branches).reverse, cur)
    | c :: rest =>
      if c = ')' then
        .ok (Tree.ofBranches (Tree.ofItems items.reverse :: branches).reverse, cur)
      else if c = '|' then
        readBranches tries [] (Tree.ofItems items.reverse :: branches) (cur.goTo rest)
      else if c = '(' then do
        let (opening, inside) ← readGroupOpen (cur.goTo rest)
        match opening with
        | .flags change =>
          readBranches tries (.flags change :: items) branches
            { inside with verbose := verboseAfter inside.verbose change }
        | .group change => do
          let (body, after) ← readBranches tries [] []
            { inside with verbose := verboseAfter inside.verbose change }
          match after.rest with
          | ')' :: rest =>
            readBranches tries (.group change body :: items) branches
              { after with rest := rest, verbose := cur.verbose }
          | _ => .error .groupUnclosed
      else if c = '[' then do
        let ((negated, classItems), cur) ← readClassOpen cur
        let (body, cur) ← readClass (cur.rest.length + 1) negated none classItems cur
        readBranches tries (.bracket body :: items) branches cur
      else if c = '?' ∨ c = '*' ∨ c = '+' then do
        let (body, items) ← repeated items
        let cur := skipLazy (cur.goTo rest)
        let low := if c = '+' then 1 else 0
        let high := if c = '?' then some 1 else none
        readBranches tries (.rep low high body :: items) branches cur
      else if c = '\x7b' then do
        let (body, items) ← repeated items
        let ((low, high), cur) ← readCounts (cur.past rest)
        readBranches tries (.rep low high body :: items) branches cur
      else if c = '\\' then do
        let (item, cur) ← readEscape (cur.goTo rest)
        readBranches tries (item :: items) branches cur
      else
        let item : Tree :=
          if c = '.' then .dot
          else if c = '^' then .anchor .lineStart
          else if c = '$' then .anchor .lineEnd
          else .char c.toNat false
        readBranches tries (item :: items) branches (cur.goTo rest)

/-- The tree of a pattern. -/
def readPattern (text : String) : Except Fault Tree := do
  let cs := text.toList
  let (tree, cur) ← readBranches (cs.length + 1) [] [] ⟨cs, false, []⟩
  match cur.rest with
  | [] => .ok tree
  | _ => .error .groupUnopened

end HttpScenario.Pattern
