import HttpScenario.Case.Expectation
import HttpScenario.Scenario.Format
import HttpScenario.Text.Pieces
/-!
# Commands

A command line names a command and gives it words and options, in any order.  An option has a long
name behind two hyphens, and some have a letter behind one.  Its value follows an equals sign, or is
the next argument; behind a letter it may follow at once.  After two hyphens alone all arguments are
words.  An argument that starts with a hyphen is never a value of its own, unless it is only that
hyphen.

No option may be given twice, and no path may be empty.
-/

namespace HttpScenario

/-- What the program is asked to do. -/
inductive Command where
  /-- Run the scenario of a file. -/
  | run (path : String) (evaluator : Option EvaluatorKind) (json : Bool) (config : Option String)
  /-- Describe the scenario of a file. -/
  | check (path : String)
  /-- Write the scenario of a file in a format, to another file or to the standard output. -/
  | convert (path : String) (format : Format) (output : Option String)
  deriving DecidableEq, Repr

namespace CommandLine

/-- An option that a command knows. -/
structure OptionRule where
  name : String
  letter : Option Char := none
  takesValue : Bool := true
  deriving DecidableEq, Repr

/-- What a command was given: its words, and its options with their values; an option that takes
none has an empty one. -/
structure Given where
  words : List String := []
  options : List (String × String) := []
  deriving DecidableEq, Repr

/-- Adds an option, which must not be there yet. -/
def Given.withOption? (name value : String) (given : Given) : Option Given :=
  if (given.options.lookup name).isSome then none
  else some { given with options := (name, value) :: given.options }

/-- Adds a word in front. -/
def Given.withWord (word : String) (given : Given) : Given :=
  { given with words := word :: given.words }

/-- What an argument is. -/
inductive Argument where
  | word
  /-- Two hyphens alone. -/
  | wordsFollow
  /-- An option, and its value if it is part of the argument. -/
  | option (rule : OptionRule) (value : Option String)
  /-- An option that the command does not know. -/
  | unknown

/-- The text before the first equals sign, and the text behind it if there is one. -/
def splitAtEquals (cs : List Char) : List Char × Option String :=
  let name := cs.takeWhile (· != '=')
  match cs.drop name.length with
  | _ :: value => (name, some (String.ofList value))
  | [] => (name, none)

/-- The value that follows a letter at once, maybe behind an equals sign. -/
def valueAfterLetter : List Char → Option String
  | [] => none
  | '=' :: value => some (String.ofList value)
  | value => some (String.ofList value)

/-- The option that a rule is for, unless it is given a value and takes none. -/
def Argument.ofRule (rule? : Option OptionRule) (value : Option String) : Argument :=
  match rule? with
  | some rule => if value.isSome && !rule.takesValue then .unknown else .option rule value
  | none => .unknown

/-- Tells what an argument is. -/
def Argument.of (rules : List OptionRule) (arg : String) : Argument :=
  match arg.toList with
  | ['-', '-'] => .wordsFollow
  | '-' :: '-' :: cs =>
    let (name, value) := splitAtEquals cs
    .ofRule (rules.find? fun rule => rule.name.toList == name) value
  | '-' :: c :: cs =>
    .ofRule (rules.find? fun rule => rule.letter == some c) (valueAfterLetter cs)
  | _ => .word

/-- Whether an argument can be the value of the option before it. -/
def canBeValue (arg : String) : Bool :=
  match arg.toList with
  | '-' :: _ :: _ => false
  | _ => true

/-- What some arguments give, if they fit the rules. -/
def gather? (rules : List OptionRule) : List String → Option Given
  | [] => some {}
  | arg :: rest =>
    match Argument.of rules arg with
    | .word => (gather? rules rest).map (·.withWord arg)
    | .wordsFollow => some { words := rest }
    | .unknown => none
    | .option rule (some value) => (gather? rules rest).bind (·.withOption? rule.name value)
    | .option rule none =>
      if !rule.takesValue then (gather? rules rest).bind (·.withOption? rule.name "")
      else match rest with
        | value :: rest =>
          if canBeValue value then (gather? rules rest).bind (·.withOption? rule.name value)
          else none
        | [] => none

/-- The one word that a command is given, which is a path. -/
def Given.path? (given : Given) : Option String :=
  match given.words with
  | [path] => if path.isEmpty then none else some path
  | _ => none

/-- The value of an option that may be left out, read in some way. -/
def Given.optionally? {α : Type} (given : Given) (name : String) (read : String → Option α) :
    Option (Option α) :=
  match given.options.lookup name with
  | some value => (read value).map some
  | none => some none

/-- A path, which is not empty. -/
def nonEmpty? (s : String) : Option String :=
  if s.isEmpty then none else some s

/-- The options of `run`. -/
def runRules : List OptionRule :=
  [{ name := "evaluator" }, { name := "json", takesValue := false }, { name := "config" }]

/-- The options of `convert`. -/
def convertRules : List OptionRule :=
  [{ name := "to" }, { name := "output", letter := some 'o' }]

end CommandLine

open CommandLine

namespace Command

/-- The command of a command line, if it is one. -/
def parse? : List String → Option Command
  | "run" :: args => do
    let given ← gather? runRules args
    let path ← given.path?
    let evaluator ← given.optionally? "evaluator" EvaluatorKind.ofName?
    let config ← given.optionally? "config" nonEmpty?
    some (.run path evaluator (given.options.lookup "json").isSome config)
  | "check" :: args => do
    let given ← gather? [] args
    (given.path?).map .check
  | "convert" :: args => do
    let given ← gather? convertRules args
    let path ← given.path?
    let format ← (given.options.lookup "to").bind Format.ofName?
    let output ← given.optionally? "output" nonEmpty?
    some (.convert path format output)
  | _ => none

end Command

end HttpScenario
