import HttpScenario.Text.Hex
import HttpScenario.Text.Utf8
import HttpScenario.Yaml.Spot
/-!
# Tokens

The tokens of a YAML text.  Besides marks and scalars there are tokens that no character stands for:
the starts and ends of blocks, which follow from indentation, and the start of a key, which is only
known to be one when its colon is met.
-/

namespace HttpScenario.Yaml

/-- How a scalar is written. -/
inductive Style where
  | plain
  | singleQuoted
  | doubleQuoted
  | literal
  | folded
  deriving DecidableEq, Repr, Inhabited

/-- A token. -/
inductive Token where
  | version (major minor : Nat)
  | tagDirective (handle start : String)
  | documentStart
  | documentEnd
  | blockSequenceStart
  | blockMappingStart
  | blockEnd
  | flowSequenceStart
  | flowSequenceEnd
  | flowMappingStart
  | flowMappingEnd
  | blockEntry
  | flowEntry
  | key
  | value
  | reference (name : String)
  | anchor (name : String)
  | tag (handle suffix : String)
  | scalar (style : Style) (text : String)
  deriving DecidableEq, Repr

/-! ## Names, tags and directives -/

/-- The text of some spots. -/
def textOf (spots : List Spot) : String :=
  String.ofList (spots.map (·.char))

/-- Reads a name that is not empty. -/
def readName (spots : List Spot) : Except Fault (String × List Spot) :=
  let name := spots.takeWhile fun s => isNameChar s.char
  let rest := spots.dropWhile fun s => isNameChar s.char
  if name.isEmpty then .error .anchor else .ok (textOf name, rest)

/-- Reads the name of an anchor or an alias, whose mark has been read. -/
def readAnchor (spots : List Spot) : Except Fault (String × List Spot) := do
  let (name, rest) ← readName spots
  if nextIsOpen rest || nextAmong ['?', ':', ',', ']', '}', '%', '@', '\x60'] rest then
    .ok (name, rest)
  else .error .anchor

/-- Whether a character may stand in a tag; more may in one between angle brackets. -/
def isTagChar (bracketed : Bool) (c : Char) : Bool :=
  isNameChar c
    || [';', '/', '?', ':', '@', '&', '=', '+', '$', '.', '%', '!', '~', '*', '\'', '(',
      ')'].contains c
    || (bracketed && [',', '[', ']'].contains c)

/-- The octets that the characters of a tag stand for, escapes with a percent sign undone. -/
def tagOctets : List Char → Except Fault Octets
  | [] => .ok []
  | '%' :: a :: b :: rest =>
    match Text.hexNumber? [a, b] with
    | some n => (tagOctets rest).map (UInt8.ofNat n :: ·)
    | none => .error .tag
  | '%' :: _ => .error .tag
  | c :: rest => (tagOctets rest).map (Utf8.encodeChars [c] ++ ·)

/-- Reads the characters of a tag. -/
def readTagText (bracketed : Bool) (spots : List Spot) : Except Fault (String × List Spot) := do
  let octets ← tagOctets ((spots.takeWhile fun s => isTagChar bracketed s.char).map (·.char))
  match Utf8.decode? octets with
  | some text => .ok (text, spots.dropWhile fun s => isTagChar bracketed s.char)
  | none => .error .tag

/-- Reads a handle: an exclamation mark, and a name with a further one after it. -/
def readHandle (spots : List Spot) : Except Fault (String × List Spot) :=
  if !nextIs '!' spots then .error .tag
  else
    let name := (spots.drop 1).takeWhile fun s => isNameChar s.char
    let rest := (spots.drop 1).dropWhile fun s => isNameChar s.char
    if nextIs '!' rest then .ok ("!" ++ textOf name ++ "!", rest.drop 1)
    else .ok ("!" ++ textOf name, rest)

/-- Whether a handle has a mark at both ends. -/
def isFullHandle (handle : String) : Bool :=
  1 < handle.length && handle.toList.getLast? == some '!'

/-- Reads the handle and the suffix of a tag. -/
def readTagParts (spots : List Spot) : Except Fault (Token × List Spot) :=
  if nextIs '<' (spots.drop 1) then do
    let (suffix, rest) ← readTagText true (spots.drop 2)
    if suffix.isEmpty || !nextIs '>' rest then .error .tag
    else .ok (.tag "" suffix, rest.drop 1)
  else do
    let (handle, rest) ← readHandle spots
    let (text, rest) ← readTagText false rest
    if isFullHandle handle then
      if text.isEmpty then .error .tag else .ok (.tag handle text, rest)
    else
      let suffix := String.ofList (handle.toList.drop 1) ++ text
      .ok (if suffix.isEmpty then .tag "" "!" else .tag "!" suffix, rest)

/-- Reads a tag; a gap has to follow, or a comma between brackets. -/
def readTag (inFlow : Bool) (spots : List Spot) : Except Fault (Token × List Spot) := do
  let (token, rest) ← readTagParts spots
  if nextIsOpen rest || (inFlow && nextIs ',' rest) then .ok (token, rest) else .error .tag

/-- Leaves out spaces and tabs. -/
def skipBlanks (spots : List Spot) : List Spot :=
  spots.dropWhile fun s => isBlank s.char

/-- The number of a version; it has at most nine digits. -/
def readVersionNumber (spots : List Spot) : Except Fault (Nat × List Spot) :=
  let digits := (spots.takeWhile fun s => s.char.isDigit).map (·.char)
  match Text.digitsNumber? 10 digits with
  | some n =>
    if digits.isEmpty || 9 < digits.length then .error .directive
    else .ok (n, spots.dropWhile fun s => s.char.isDigit)
  | none => .error .directive

/-- Reads what a directive of some name says. -/
def readDirectiveValue (name : String) (spots : List Spot) : Except Fault (Token × List Spot) :=
  if name = "YAML" then do
    let (major, rest) ← readVersionNumber (skipBlanks spots)
    if !nextIs '.' rest then .error .directive
    else do
      let (minor, rest) ← readVersionNumber (rest.drop 1)
      .ok (.version major minor, rest)
  else if name = "TAG" then do
    let (handle, rest) ← readHandle (skipBlanks spots)
    if !(isFullHandle handle || handle = "!") || !nextAmong [' ', '\t'] rest then .error .directive
    else do
      let (start, rest) ← readTagText true (skipBlanks rest)
      if start.isEmpty || !nextIsOpen rest then .error .directive
      else .ok (.tagDirective handle start, rest)
  else .error .directive

/-- Reads a directive, whose mark has been read, and the end of its line. -/
def readDirective (spots : List Spot) : Except Fault (Token × List Spot) := do
  let (name, rest) ← readName spots
  if !nextIsOpen rest then .error .directive
  else do
    let (token, rest) ← readDirectiveValue name rest
    match endLine? rest with
    | some rest => .ok (token, rest)
    | none => .error .directive

end HttpScenario.Yaml
