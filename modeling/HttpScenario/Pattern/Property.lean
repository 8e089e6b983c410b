import HttpScenario.Pattern.BinaryTable
import HttpScenario.Pattern.Category
import HttpScenario.Pattern.Charset
import HttpScenario.Pattern.ScriptTable
/-!
# Properties of characters by name

A pattern can ask for a general category, a script, or a property that a character has or has not.
Names are compared without regard to case, blanks, underscores and minus signs, and an `is` in front
of a name is left out.  A name may also say which kind of property it is about, as in `gc=Lu` and
`Script:Greek`, and `!=` asks for the opposite.
-/

namespace HttpScenario.Pattern

/-- A name as it is compared. -/
def looseName (name : List Char) : String :=
  let kept := (name.filter fun c => c != ' ' && c != '_' && c != '-').map Char.toLower
  match kept with
  | 'i' :: 's' :: rest => if rest.isEmpty then "is" else String.ofList rest
  | kept => String.ofList kept

/-- The number that hexadecimal digits write. -/
def runNumber (cs : List Char) : Nat :=
  cs.foldl (fun n c => n * 16 + (if c.isDigit then c.toNat - 48 else c.toNat - 55)) 0

/-- The ranges of a run: a range, or every second number as a range of its own. -/
def runRanges (run : List Char) : List (Nat × Nat) :=
  let isHex (c : Char) : Bool := c != '-' && c != '='
  let first := runNumber (run.takeWhile isHex)
  match run.dropWhile isHex with
  | '-' :: last => [(first, runNumber last)]
  | '=' :: last =>
    (List.range ((runNumber last - first) / 2 + 1)).map fun i => (first + 2 * i, first + 2 * i)
  | _ => [(first, first)]

/-- Cuts a list of characters at the blanks. -/
def wordsOf : List Char → List (List Char)
  | [] => [[]]
  | c :: rest =>
    if c = ' ' ∨ c = '\n' then [] :: wordsOf rest
    else
      match wordsOf rest with
      | [] => [[c]]
      | word :: more => (c :: word) :: more

/-- The set that some runs write. -/
def setOfRuns (runs : String) : Charset :=
  .ranges (((wordsOf runs.toList).filter fun word => !word.isEmpty).flatMap runRanges)

/-- The set under a name in a table of short and long names. -/
def findSet? (table : List (String × String × String)) (name : String) : Option Charset :=
  (table.find? fun (short, long, _) => short == name || long == name).map
    fun (_, _, runs) => setOfRuns runs

/-- The union of the categories whose short names start with a letter. -/
def majorCategory (letters : List String) : Charset :=
  letters.foldl (fun set short =>
    match findSet? categories short with
    | some s => .union set s
    | none => set) Charset.none

/-- The groups of categories: short name, long name, the categories in it. -/
def majorCategories : List (String × String × List String) :=
  [("l", "letter", ["lu", "ll", "lt", "lm", "lo"]),
    ("lc", "casedletter", ["lu", "ll", "lt"]),
    ("m", "mark", ["mn", "mc", "me"]),
    ("n", "number", ["nd", "nl", "no"]),
    ("p", "punctuation", ["pc", "pd", "ps", "pe", "pi", "pf", "po"]),
    ("s", "symbol", ["sm", "sc", "sk", "so"]),
    ("z", "separator", ["zs", "zl", "zp"])]

/-- All categories that are given by runs. -/
def assignedSet : Charset :=
  majorCategory (categories.map (·.1))

/-- The set of a general category. -/
def categoryOf? (name : String) : Option Charset :=
  if name = "any" then some (.ranges [(0, 0x10FFFF)])
  else if name = "ascii" then some (.ranges [(0, 127)])
  else if name = "assigned" then some assignedSet
  else if name = "cn" ∨ name = "unassigned" then some (.compl assignedSet)
  else if name = "c" ∨ name = "other" then
    some (.union (majorCategory ["cc", "cf", "co"]) (.compl assignedSet))
  else
    match majorCategories.find? fun (short, long, _) => short == name || long == name with
    | some (_, _, letters) => some (majorCategory letters)
    | none =>
      let name :=
        if name = "digit" then "nd"
        else if name = "punct" then "p"
        else if name = "cntrl" then "cc"
        else if name = "combiningmark" then "m"
        else name
      if name = "p" ∨ name = "m" then
        (majorCategories.find? fun (short, _, _) => short == name).map
          fun (_, _, letters) => majorCategory letters
      else findSet? categories name

/-- The set of a script. -/
def scriptOf? (name : String) : Option Charset :=
  findSet? scripts name

/-- The set of a property that a character has or has not. -/
def binaryOf? (name : String) : Option Charset :=
  let name := if name = "space" then "whitespace" else name
  findSet? binaryProperties name

/-- The set under a name that does not say what kind of property it is about. -/
def plainProperty? (name : List Char) : Option Charset :=
  let name := looseName name
  let binary := if name = "cf" ∨ name = "sc" ∨ name = "lc" then none else binaryOf? name
  match binary with
  | some set => some set
  | none =>
    match categoryOf? name with
    | some set => some set
    | none => scriptOf? name

/-- The set of a property with a value. -/
def valuedProperty? (kind value : List Char) : Option Charset :=
  let kind := looseName kind
  let value := looseName value
  if kind = "gc" ∨ kind = "generalcategory" then categoryOf? value
  else if kind = "sc" ∨ kind = "script" ∨ kind = "scx" ∨ kind = "scriptextensions" then
    scriptOf? value
  else none

/-- What stands before and after the first occurrence of a mark. -/
def splitAtMark? (mark : List Char) : List Char → Option (List Char × List Char)
  | [] => none
  | c :: rest =>
    if mark.isPrefixOf (c :: rest) then some ([], (c :: rest).drop mark.length)
    else (splitAtMark? mark rest).map fun (before, after) => (c :: before, after)

/-- The set that the text of a property names, and whether its opposite is asked for. -/
def propertyOf? (text : String) : Option (Charset × Bool) :=
  let cs := text.toList
  match splitAtMark? ['!', '='] cs with
  | some (kind, value) => (valuedProperty? kind value).map (·, true)
  | none =>
    match splitAtMark? [':'] cs with
    | some (kind, value) => (valuedProperty? kind value).map (·, false)
    | none =>
      match splitAtMark? ['='] cs with
      | some (kind, value) => (valuedProperty? kind value).map (·, false)
      | none => (plainProperty? cs).map (·, false)

end HttpScenario.Pattern
