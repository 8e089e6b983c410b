import HttpScenario.Text.Pieces
/-!
# Formats of documents

A scenario is kept as a JSON or a YAML document.  The name of a file tells which: JSON if the
extension says so, in whatever case of letters, and YAML otherwise.
-/

namespace HttpScenario

/-- The formats of documents. -/
inductive Format where
  | json
  | yaml
  deriving DecidableEq, Repr, Inhabited

namespace Format

/-- The word for a format. -/
def name : Format → String
  | .json => "json"
  | .yaml => "yaml"

/-- The format that a word stands for. -/
def ofName? (word : String) : Option Format :=
  if word = "json" then some .json else if word = "yaml" then some .yaml else none

theorem ofName?_name (format : Format) : ofName? format.name = some format := by
  cases format <;> rfl

/-- The last part of a path that names something; slashes at the end and parts that stay where they
are do not count. -/
def fileName? (path : List Char) : Option (List Char) :=
  let parts := (Text.pieces '/' path).filter fun part => !part.isEmpty && part != ['.']
  parts.getLast?.filter fun part => part != ['.', '.']

/-- What follows the last dot of a file name, unless the name only starts with that dot. -/
def extension? (name : List Char) : Option (List Char) :=
  let after := (name.reverse.takeWhile (· != '.')).reverse
  if after.length + 1 < name.length then some after else none

/-- The format that the name of a file tells. -/
def ofPath (path : String) : Format :=
  match (fileName? path.toList).bind extension? with
  | some extension => if extension.map Char.toLower = "json".toList then .json else .yaml
  | none => .yaml

end Format

end HttpScenario
