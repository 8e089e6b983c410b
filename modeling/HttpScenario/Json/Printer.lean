import HttpScenario.Json.Basic
/-!
# Writing documents

Two written forms of a document.  `compact` has no blanks; `pretty` puts each item of a list and
each member of an object on a line of its own, two blanks further in.  Both write a text between
quotes and escape the quote, the backslash and the control characters below U+0020, nothing else.
-/

namespace HttpScenario.Json

/-- A hexadecimal digit in lower case. -/
def hexDigit (n : Nat) : Char :=
  Nat.digitChar n

/-- A character inside quotes. -/
def escapeChar (c : Char) : List Char :=
  if c = '"' then ['\\', '"']
  else if c = '\\' then ['\\', '\\']
  else if c.toNat < 0x20 then
    if c.toNat = 8 then ['\\', 'b']
    else if c.toNat = 9 then ['\\', 't']
    else if c.toNat = 10 then ['\\', 'n']
    else if c.toNat = 12 then ['\\', 'f']
    else if c.toNat = 13 then ['\\', 'r']
    else ['\\', 'u', '0', '0', hexDigit (c.toNat / 16), hexDigit (c.toNat % 16)]
  else [c]

/-- A text between quotes. -/
def quoted (s : String) : List Char :=
  '"' :: (s.toList.flatMap escapeChar ++ ['"'])

mutual

/-- The characters of the compact form. -/
def compactChars : Json → List Char
  | .null => "null".toList
  | .bool true => "true".toList
  | .bool false => "false".toList
  | .num n => n.text.toList
  | .str s => quoted s
  | .arr [] => ['[', ']']
  | .arr (item :: items) => '[' :: compactChars item ++ compactItems items
  | .obj [] => ['{', '}']
  | .obj ((key, value) :: members) =>
    '{' :: quoted key ++ ':' :: compactChars value ++ compactMembers members

/-- The further items of a list, each after a comma, and its end. -/
def compactItems : List Json → List Char
  | [] => [']']
  | item :: items => ',' :: compactChars item ++ compactItems items

/-- The further members of an object, each after a comma, and its end. -/
def compactMembers : List (String × Json) → List Char
  | [] => ['}']
  | (key, value) :: members =>
    ',' :: quoted key ++ ':' :: compactChars value ++ compactMembers members

end

/-- The compact form. -/
def compact (value : Json) : String :=
  String.ofList (compactChars value)

/-- A line break and the blanks of an indentation level. -/
def lineStart (level : Nat) : List Char :=
  '\n' :: List.replicate (2 * level) ' '

mutual

/-- The characters of the pretty form at an indentation level. -/
def prettyChars (level : Nat) : Json → List Char
  | .null => "null".toList
  | .bool true => "true".toList
  | .bool false => "false".toList
  | .num n => n.text.toList
  | .str s => quoted s
  | .arr [] => ['[', ']']
  | .arr (item :: items) =>
    '[' :: lineStart (level + 1) ++ prettyChars (level + 1) item ++ prettyItems level items
  | .obj [] => ['{', '}']
  | .obj ((key, value) :: members) =>
    '{' :: lineStart (level + 1) ++ quoted key ++ ':' :: ' ' :: prettyChars (level + 1) value
      ++ prettyMembers level members

/-- The further items of a list that starts at a level, and its end. -/
def prettyItems (level : Nat) : List Json → List Char
  | [] => lineStart level ++ [']']
  | item :: items =>
    ',' :: lineStart (level + 1) ++ prettyChars (level + 1) item ++ prettyItems level items

/-- The further members of an object that starts at a level, and its end. -/
def prettyMembers (level : Nat) : List (String × Json) → List Char
  | [] => lineStart level ++ ['}']
  | (key, value) :: members =>
    ',' :: lineStart (level + 1) ++ quoted key ++ ':' :: ' ' :: prettyChars (level + 1) value
      ++ prettyMembers level members

end

/-- The pretty form. -/
def pretty (value : Json) : String :=
  String.ofList (prettyChars 0 value)

end HttpScenario.Json
