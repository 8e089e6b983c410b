import HttpScenario.Cache
/-!
# Placeholders

A placeholder is an opening brace, the shortest run of characters up to the next closing brace with
no line break in between, and that brace.  Its text is a path whose first segment names a cached
body and whose other segments lead into it.  `parts` cuts a text into placeholders and the single
characters between them, from left to right; an opening brace that starts no placeholder is a
character like any other.

`resolve` takes the placeholders of the given text in order, and replaces for each the *first*
occurrence of its written form in the text built so far.  A placeholder without a value stands for
the empty text.
-/

namespace HttpScenario.Template

/-- A piece of a text: a character, or what stands between the braces of a placeholder. -/
inductive Part where
  | plain (c : Char)
  | hole (inner : List Char)
  deriving DecidableEq, Repr

/-- What stands before the next closing brace on the same line, and what follows the brace. -/
def untilBrace? : List Char → Option (List Char × List Char)
  | [] => none
  | c :: rest =>
    if c = '\x7d' then some ([], rest)
    else if c = '\n' then none
    else
      match untilBrace? rest with
      | some (inner, after) => some (c :: inner, after)
      | none => none

theorem untilBrace?_length {cs inner rest : List Char} (h : untilBrace? cs = some (inner, rest)) :
    rest.length < cs.length := by
  induction cs generalizing inner rest with
  | nil => simp [untilBrace?] at h
  | cons c cs ih =>
    simp only [untilBrace?] at h
    split at h
    · simp only [Option.some.injEq, Prod.mk.injEq] at h
      simp [h.2]
    · split at h
      · simp at h
      · split at h
        · rename_i inner' after hrec
          simp only [Option.some.injEq, Prod.mk.injEq] at h
          have := ih hrec
          rw [h.2] at this
          simp only [List.length_cons]
          omega
        · simp at h

/-- Cuts a text into placeholders and the characters between them. -/
def parts : List Char → List Part
  | [] => []
  | c :: rest =>
    if c = '\x7b' then
      match _h : untilBrace? rest with
      | some (inner, after) => .hole inner :: parts after
      | none => .plain c :: parts rest
    else .plain c :: parts rest
termination_by cs => cs.length
decreasing_by
  · have := untilBrace?_length _h
    simp only [List.length_cons]
    omega
  · simp
  · simp

/-- The placeholders of a text, in order, by what stands between their braces. -/
def holes (cs : List Char) : List (List Char) :=
  (parts cs).filterMap fun
    | .hole inner => some inner
    | .plain _ => none

/-- A placeholder as it is written. -/
def token (inner : List Char) : List Char :=
  '\x7b' :: inner ++ ['\x7d']

/-- The cached text that a placeholder stands for. -/
def value? (cache : Cache) (inner : List Char) : Option String :=
  match (Text.pieces '.' inner).map String.ofList with
  | key :: path => cache.lookup key path
  | [] => none

/-- Replaces the first occurrence of a placeholder by its value. -/
def fill (cache : Cache) (text : List Char) (inner : List Char) : List Char :=
  Text.replaceFirst (token inner) ((value? cache inner).getD "").toList text

/-- The text with its placeholders replaced. -/
def resolve (text : String) (cache : Cache) : String :=
  String.ofList ((holes text.toList).foldl (fill cache) text.toList)

/-- The placeholders of a text that have no value, as they are written. -/
def unresolved (text : String) (cache : Cache) : List String :=
  ((holes text.toList).filter fun inner => (value? cache inner).isNone).map
    fun inner => String.ofList (token inner)

/-- Resolves header values; names are left alone. -/
def resolveHeaders (headers : Table String) (cache : Cache) : Table String :=
  headers.mapValues fun value => resolve value cache

mutual

/-- Resolves a value of a payload: texts, and texts inside objects.  Lists are left alone. -/
def resolveValue (cache : Cache) : Json → Json
  | .str text => .str (resolve text cache)
  | .obj members => .obj (resolveMembers cache members)
  | .null => .null
  | .bool value => .bool value
  | .num value => .num value
  | .arr items => .arr items

/-- Resolves the values of an object; keys are left alone. -/
def resolveMembers (cache : Cache) : List (String × Json) → List (String × Json)
  | [] => []
  | (key, value) :: members => (key, resolveValue cache value) :: resolveMembers cache members

end

end HttpScenario.Template
