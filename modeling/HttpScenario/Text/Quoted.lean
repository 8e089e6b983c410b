import HttpScenario.Text.Printable
/-!
# Texts quoted in messages

A message that shows a text puts it between quotes and escapes what a reader would not see: the
quote, the backslash, the common control characters by a letter, and every character that is not
printable, or that only modifies the one before it, by its number.
-/

namespace HttpScenario.Text

/-- A number in hexadecimal. -/
def hexText (n : Nat) : List Char :=
  Nat.toDigits 16 n

/-- A character between quotes in a message. -/
def quoteChar (c : Char) : List Char :=
  match c with
  | '\x00' => ['\\', '0']
  | '\t' => ['\\', 't']
  | '\n' => ['\\', 'n']
  | '\r' => ['\\', 'r']
  | '"' => ['\\', '"']
  | '\\' => ['\\', '\\']
  | c =>
    if isPrintable c && !isGraphemeExtend c then [c]
    else '\\' :: 'u' :: '\x7b' :: hexText c.toNat ++ ['\x7d']

/-- A text as a message quotes it. -/
def quoteForMessage (s : String) : String :=
  String.ofList ('"' :: s.toList.flatMap quoteChar ++ ['"'])

end HttpScenario.Text
