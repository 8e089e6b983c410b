/-!
# Colours

A text on a terminal is styled by a sequence of codes in front of it and another one behind it that
takes all styles back.  Where such a sequence is inside the text, the style is set again after it.
-/

namespace HttpScenario.CommandLine

/-- The styles that are used. -/
inductive Style where
  | bold
  | dimmed
  | red
  | green
  | yellow
  | blue
  | cyan
  | white
  deriving DecidableEq, Repr

/-- The code of a style. -/
def Style.code : Style → String
  | .bold => "1"
  | .dimmed => "2"
  | .red => "31"
  | .green => "32"
  | .yellow => "33"
  | .blue => "34"
  | .cyan => "36"
  | .white => "37"

/-- The sequence that takes all styles back. -/
def reset : List Char := ['\x1b', '[', '0', 'm']

/-- The sequence that sets some styles. -/
def setStyles (styles : List Style) : List Char :=
  '\x1b' :: '[' :: (";".intercalate (styles.map Style.code)).toList ++ ['m']

/-- Puts a sequence behind each one that takes all styles back. -/
def setAgain (start : List Char) : List Char → List Char
  | '\x1b' :: '[' :: '0' :: 'm' :: rest => reset ++ start ++ setAgain start rest
  | c :: rest => c :: setAgain start rest
  | [] => []

/-- A text in some styles, or the plain text if styles are not wanted. -/
def styled (colors : Bool) (styles : List Style) (s : String) : String :=
  if colors then
    String.ofList (setStyles styles ++ setAgain (setStyles styles) s.toList ++ reset)
  else s

end HttpScenario.CommandLine
