import HttpScenario.Json.Printer
/-!
# Shapes of documents

A shape says what a document must look like to be read as one of the library's own types: a text, a
truth value, a whole number of some range, a list, a table, a record of named fields, and so on.
Reading by a shape gives a plain document again, in which every field of a record is present and
stands in its declared place; a type then has one function from that document and one back to it.

A shape is data.  There is one reader of shapes for each form that documents come in, and the types
of the library need not know about any of them.
-/

namespace HttpScenario

/-- What a document has to look like. -/
inductive Shape where
  | text
  | flag
  /-- A whole number from `low` to `high`, and how messages name that range. -/
  | whole (title : String) (low high : Int)
  /-- A double. -/
  | real
  /-- Any document. -/
  | any
  /-- Any document, read as a text: texts as they are, null as nothing, the rest as written. -/
  | anyAsText
  | list (item : Shape)
  /-- An object with any keys, read as a table. -/
  | table (value : Shape)
  /-- A value that may be null. -/
  | optional (value : Shape)
  /-- One of some words. -/
  | word (known : List String)
  /-- An object with known fields, or a list of their values.  Each field has a name, a shape, and
  what it is when it is left out; a field without such a default must be there. -/
  | record (title : String) (fields : List (String × Shape × Option Json))
  /-- The first of some shapes that fits. -/
  | firstOf (title : String) (alternatives : List Shape)

namespace Shape

/-- A whole number that fits 16 bits. -/
def word16 : Shape := .whole "u16" 0 65535

/-- A whole number that fits 32 bits. -/
def word32 : Shape := .whole "u32" 0 4294967295

/-- A whole number that fits 64 bits. -/
def word64 : Shape := .whole "u64" 0 18446744073709551615

/-- A signed whole number that fits 64 bits. -/
def signed64 : Shape := .whole "i64" (-9223372036854775808) 9223372036854775807

/-- A document read as a text. -/
def asText : Json → String
  | .str s => s
  | .null => ""
  | value => value.compact

/-- How a message names a record of so many fields. -/
def elementsText (title : String) (count : Nat) : String :=
  "struct " ++ title ++ " with " ++ toString count
    ++ (if count = 1 then " element" else " elements")

/-- The fields of a record in their declared order, taken from what was found; `Except.error` names
the first one that is missing and has no default. -/
def assemble (found : List (String × Json)) :
    List (String × Option Json) → Except String (List (String × Json))
  | [] => .ok []
  | (name, default?) :: fields =>
    match found.lookup name, default? with
    | some value, _ => (assemble found fields).map ((name, value) :: ·)
    | none, some value => (assemble found fields).map ((name, value) :: ·)
    | none, none => .error name

end Shape

end HttpScenario
