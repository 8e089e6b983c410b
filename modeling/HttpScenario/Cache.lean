import HttpScenario.Json.Path
import HttpScenario.Json.Reader
/-!
# The response cache

A scenario remembers response bodies under names.  Later cases read values back out of them: the
body is parsed as a document, a path is walked, and the value is taken as text.  Nothing is checked
when a body is stored; a body that is no document simply has no values.
-/

namespace HttpScenario

/-- Response bodies under the names they were stored by. -/
structure Cache where
  /-- The bodies by name. -/
  entries : Table Octets := []
  deriving DecidableEq, Repr, Inhabited

namespace Cache

/-- A cache without bodies. -/
def empty : Cache := {}

/-- Stores a body under a name, in the place of an earlier one. -/
def insert (key : String) (body : Octets) (cache : Cache) : Cache :=
  { cache with entries := cache.entries.insert key body }

/-- The body under a name. -/
def get? (key : String) (cache : Cache) : Option Octets :=
  cache.entries.find? key

/-- Whether a body is stored under a name. -/
def contains (key : String) (cache : Cache) : Bool :=
  cache.entries.contains key

/-- How many bodies are stored. -/
def size (cache : Cache) : Nat :=
  cache.entries.length

/-- Whether no body is stored. -/
def isEmpty (cache : Cache) : Bool :=
  cache.entries.isEmpty

/-- The names in order. -/
def keys (cache : Cache) : List String :=
  cache.entries.keys

/-- The value at a path in a body. -/
def valueIn? (body : Octets) (path : Json.Path) : Option Json :=
  match Json.parse body with
  | .ok root => root.valueAt? path
  | .error _ => none

/-- The text of the value at a path in the body under a name. -/
def lookup (key : String) (path : Json.Path) (cache : Cache) : Option String := do
  let body ← cache.get? key
  let value ← valueIn? body path
  value.scalarText?

theorem get?_insert_self (key : String) (body : Octets) (cache : Cache) :
    (cache.insert key body).get? key = some body :=
  Table.find?_insert_self key body cache.entries

theorem get?_insert_of_ne {key other : String} (h : other ≠ key) (body : Octets)
    (cache : Cache) : (cache.insert key body).get? other = cache.get? other :=
  Table.find?_insert_of_ne h body cache.entries

end Cache

end HttpScenario
