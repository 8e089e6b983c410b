import HttpScenario.Json.Basic
import HttpScenario.Text.Blank
import HttpScenario.Text.Pieces
/-!
# Dot paths

A path is a list of segments.  A segment names a member of an object and then, in brackets, any
number of places in lists: `data[0][1]`; either part may be missing, so `[0]` steps into the
current list and the empty segment stays where it is.  The text of a path separates segments by
dots.

`valueAt` walks a path.  It stops without a value at the first step that does not exist, meets a
value of another kind, or cannot be read.
-/

namespace HttpScenario.Json

/-- A list of segments. -/
abbrev Path := List String

namespace Path

/-- The segments between the dots of a text, the empty ones left out. -/
def ofText (text : String) : Path :=
  ((Text.pieces '.' text.toList).filter fun piece => !piece.isEmpty).map String.ofList

/-- The segments between the dots of a text, all of them. -/
def ofTextKeepingEmpty (text : String) : Path :=
  (Text.pieces '.' text.toList).map String.ofList

end Path

/-- A whole number with an optional plus in front. -/
def readIndex? (cs : List Char) : Option Nat :=
  let digits :=
    match cs with
    | '+' :: rest => rest
    | cs => cs
  if !digits.isEmpty && digits.all Char.isDigit then
    some (digits.foldl (fun n c => n * 10 + (c.toNat - '0'.toNat)) 0)
  else none

/-- The place that an opening bracket and the text after it name. -/
def bracketIndex? : List Char → Option Nat
  | '[' :: inner => readIndex? (Text.trimChars inner)
  | _ => none

/-- The places that the brackets at the end of a segment name, one after the other. -/
def bracketIndices? (cs : List Char) : Option (List Nat) :=
  match (Text.pieces ']' cs).reverse with
  | [] :: closed => closed.reverse.mapM bracketIndex?
  | _ => none

/-- The item that a list of places leads to, each place in the list found at the one before. -/
def itemAt? : List Nat → Json → Option Json
  | [], value => some value
  | index :: indices, value =>
    match value with
    | .arr items =>
      match items[index]? with
      | some item => itemAt? indices item
      | none => none
    | _ => none

/-- The member that a key leads to; the empty key stays. -/
def memberAt? (key : String) (value : Json) : Option Json :=
  if key.isEmpty then some value
  else
    match value with
    | .obj members => Table.find? key members
    | _ => none

/-- One step along a path. -/
def step? (segment : String) (value : Json) : Option Json := do
  let cs := segment.toList
  let member ← memberAt? (String.ofList (cs.takeWhile (· != '['))) value
  let indices ← bracketIndices? (cs.dropWhile (· != '['))
  itemAt? indices member

/-- The value that a path leads to. -/
def valueAt? : Path → Json → Option Json
  | [], value => some value
  | segment :: path, value =>
    match step? segment value with
    | some next => valueAt? path next
    | none => none

/-- The text of a text, a number or a truth value; other values have none. -/
def scalarText? : Json → Option String
  | .str value => some value
  | .num value => some value.text
  | .bool true => some "true"
  | .bool false => some "false"
  | .null => none
  | .arr _ => none
  | .obj _ => none

@[simp] theorem valueAt?_nil (value : Json) : valueAt? [] value = some value := rfl

end HttpScenario.Json
