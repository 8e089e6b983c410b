import HttpScenario.Proofs.Json.Path
import HttpScenario.Proofs.Json.Place
/-!
# Routes and how they are spelled

A route leads into a document step by step: to the member of an object under a key, or to the item
of a list at a place (`follow?`).  The text of a path spells a route: a key is written after a dot,
a place in brackets, and there may be more dots than needed anywhere between two steps and at both
ends (`Spells`).  So one route has many texts.  A place may stand in a segment of its own, after a
dot, or at the end of the segment before.

Whichever text is taken, and whether or not its empty segments are kept, walking it leads where the
route leads (`valueAt?_spelled`).  The proof follows the text from left to right with the segment
that has been read so far and may still go on (`Segment`): a dot ends it, and a place makes it
longer (`Trails.valueAt?`).
-/

namespace HttpScenario.Json

/-! ### Routes -/

/-- One step into a document. -/
inductive Step where
  /-- To the member of an object under a key. -/
  | member (key : String)
  /-- To the item of a list at a place. -/
  | item (place : Nat)

/-- What a route leads to.  There is nothing if a step asks an object for a key that it has not, or
a list for a place that it has not, or if it meets a value of another kind. -/
def follow? : List Step → Json → Option Json
  | [], value => some value
  | .member key :: steps, .obj members => (Table.find? key members).bind (follow? steps)
  | .item place :: steps, .arr items => (items[place]?).bind (follow? steps)
  | _ :: _, _ => none

theorem follow?_member {key : String} (hkey : key ≠ "") (steps : List Step) (value : Json) :
    follow? (.member key :: steps) value = (memberAt? key value).bind (follow? steps) := by
  have hplain : ¬ key.isEmpty = true := by simpa using hkey
  cases value <;> simp [follow?, memberAt?, hplain]

theorem follow?_item (place : Nat) (steps : List Step) (value : Json) :
    follow? (.item place :: steps) value = (itemAt? [place] value).bind (follow? steps) := by
  cases value with
  | arr items => rw [itemAt?_arr, follow?]
  | null | bool | num | str | obj => rfl

/-! ### Texts -/

/-- A key that can be written in a path. -/
structure IsName (key : String) : Prop where
  ne_empty : key ≠ ""
  dot_not_mem : '.' ∉ key.toList
  bracket_not_mem : '[' ∉ key.toList

/-- A text spells a route behind a value that has been reached. -/
inductive Trails : List Step → List Char → Prop
  | nil : Trails [] []
  /-- A dot that nothing depends on. -/
  | dot {steps : List Step} {cs : List Char} (h : Trails steps cs) : Trails steps ('.' :: cs)
  /-- A key after its dot. -/
  | member {key : String} {steps : List Step} {cs : List Char} (hkey : IsName key)
      (h : Trails steps cs) : Trails (.member key :: steps) ('.' :: (key.toList ++ cs))
  /-- A place in brackets, whatever stands before it. -/
  | item {digits : List Char} {steps : List Step} {cs : List Char} (hdigits : Double.Digits digits)
      (h : Trails steps cs) :
      Trails (.item (Double.digitsValue digits) :: steps) (bracketed digits ++ cs)

/-- A text spells a route from the start. -/
inductive Spells : List Step → List Char → Prop
  /-- The first key needs no dot. -/
  | member {key : String} {steps : List Step} {cs : List Char} (hkey : IsName key)
      (h : Trails steps cs) : Spells (.member key :: steps) (key.toList ++ cs)
  | trails {steps : List Step} {cs : List Char} (h : Trails steps cs) : Spells steps cs

/-- A place can be written with the digits that it is usually written with. -/
theorem Trails.place {steps : List Step} {cs : List Char} (h : Trails steps cs) (place : Nat) :
    Trails (.item place :: steps) (bracketed (Double.decimalDigits place) ++ cs) := by
  have hitem := h.item (Double.digits_decimalDigits place)
  rwa [Double.digitsValue_decimalDigits] at hitem

/-! ### Segments -/

/-- A segment of a path: a key, which may be missing, and the digits of places behind it. -/
structure Segment where
  key : List Char
  places : List (List Char)
  dot_not_mem : '.' ∉ key
  bracket_not_mem : '[' ∉ key
  digits : ∀ digits ∈ places, Double.Digits digits

namespace Segment

def chars (segment : Segment) : List Char :=
  segment.key ++ segment.places.flatMap bracketed

/-- What a segment leads to. -/
def find? (segment : Segment) (value : Json) : Option Json :=
  (memberAt? (String.ofList segment.key) value).bind
    (itemAt? (segment.places.map Double.digitsValue))

/-- The empty segment. -/
def empty : Segment where
  key := []
  places := []
  dot_not_mem := List.not_mem_nil
  bracket_not_mem := List.not_mem_nil
  digits := nofun

/-- A key as a segment. -/
def ofName {key : String} (hkey : IsName key) : Segment where
  key := key.toList
  places := []
  dot_not_mem := hkey.dot_not_mem
  bracket_not_mem := hkey.bracket_not_mem
  digits := nofun

/-- A segment with one more place at its end. -/
def addPlace (segment : Segment) {digits : List Char} (hdigits : Double.Digits digits) :
    Segment where
  key := segment.key
  places := segment.places ++ [digits]
  dot_not_mem := segment.dot_not_mem
  bracket_not_mem := segment.bracket_not_mem
  digits := List.forall_mem_append.mpr ⟨segment.digits, List.forall_mem_singleton.mpr hdigits⟩

variable (segment : Segment) (value : Json)

theorem dot_not_mem_chars : '.' ∉ segment.chars := by
  intro hmem
  rcases List.mem_append.mp hmem with hkey | hplaces
  · exact segment.dot_not_mem hkey
  · obtain ⟨digits, hdigits, hdot⟩ := List.mem_flatMap.mp hplaces
    have hnone := (segment.digits digits hdigits).not_mem (by decide : '.'.isDigit = false)
    simp [bracketed, hnone] at hdot

theorem step?_chars : step? (String.ofList segment.chars) value = segment.find? value :=
  step?_of_key segment.digits segment.bracket_not_mem value

@[simp] theorem chars_ofName {key : String} (hkey : IsName key) :
    (ofName hkey).chars = key.toList :=
  List.append_nil key.toList

@[simp] theorem find?_ofName {key : String} (hkey : IsName key) :
    (ofName hkey).find? value = memberAt? key value := by
  simp only [find?, ofName, String.ofList_toList, List.map_nil]
  exact Option.bind_fun_some _

theorem chars_addPlace {digits : List Char} (hdigits : Double.Digits digits) :
    (segment.addPlace hdigits).chars = segment.chars ++ bracketed digits := by
  simp [chars, addPlace]

theorem find?_addPlace {digits : List Char} (hdigits : Double.Digits digits) :
    (segment.addPlace hdigits).find? value =
      (segment.find? value).bind (itemAt? [Double.digitsValue digits]) := by
  unfold find? addPlace
  cases memberAt? (String.ofList segment.key) value with
  | none => rfl
  | some member =>
    rw [Option.bind_some, Option.bind_some, List.map_append, itemAt?_append, List.map_singleton]

/-- A dot ends a segment. -/
theorem valueAt?_dot (rest : List Char) :
    valueAt? ((Text.pieces '.' (segment.chars ++ '.' :: rest)).map String.ofList) value =
      (segment.find? value).bind (valueAt? ((Text.pieces '.' rest).map String.ofList)) := by
  rw [Text.pieces_append segment.dot_not_mem_chars, List.map_cons, Json.valueAt?, step?_chars]
  cases segment.find? value <;> rfl

/-- So does the end of the text. -/
theorem valueAt?_chars :
    valueAt? ((Text.pieces '.' segment.chars).map String.ofList) value = segment.find? value := by
  rw [Text.pieces_of_not_mem segment.dot_not_mem_chars, List.map_singleton, Json.valueAt?,
    step?_chars]
  cases segment.find? value <;> rfl

end Segment

/-! ### Walking a text -/

/-- A segment of which the end has not been seen yet, and behind it the text of a route. -/
theorem Trails.valueAt? {steps : List Step} {cs : List Char} (h : Trails steps cs)
    (segment : Segment) (value : Json) :
    Json.valueAt? ((Text.pieces '.' (segment.chars ++ cs)).map String.ofList) value =
      (segment.find? value).bind (follow? steps) := by
  induction h generalizing segment value with
  | nil =>
    rw [List.append_nil, segment.valueAt?_chars]
    exact (Option.bind_fun_some _).symm
  | dot h ih =>
    rw [segment.valueAt?_dot]
    apply congrArg
    funext next
    exact ih .empty next
  | @member key steps cs hkey h ih =>
    rw [segment.valueAt?_dot]
    apply congrArg
    funext next
    have hname := ih (.ofName hkey) next
    rw [Segment.chars_ofName, Segment.find?_ofName] at hname
    rw [hname, follow?_member hkey.ne_empty]
  | @item digits steps cs hdigits h ih =>
    rw [← List.append_assoc, ← segment.chars_addPlace hdigits, ih, segment.find?_addPlace,
      Option.bind_assoc]
    apply congrArg
    funext next
    rw [follow?_item]

/-- A text that spells a route is a path to where the route leads. -/
theorem Spells.valueAt? {steps : List Step} {text : String} (h : Spells steps text.toList)
    (root : Json) : Json.valueAt? (.ofText text) root = follow? steps root := by
  rw [← valueAt?_ofTextKeepingEmpty, Path.ofTextKeepingEmpty]
  generalize text.toList = cs at h
  cases h with
  | member hkey h =>
    have hwalk := h.valueAt? (.ofName hkey) root
    rw [Segment.chars_ofName, Segment.find?_ofName] at hwalk
    rw [hwalk, follow?_member hkey.ne_empty]
  | trails h => exact h.valueAt? .empty root

/-- Every text that spells a route leads where the route leads, from every document, and it makes no
difference whether its empty segments are left out or kept. -/
theorem valueAt?_spelled {steps : List Step} {text : String} (h : Spells steps text.toList)
    (root : Json) :
    valueAt? (.ofText text) root = follow? steps root ∧
      valueAt? (.ofTextKeepingEmpty text) root = follow? steps root := by
  refine ⟨h.valueAt? root, ?_⟩
  rw [valueAt?_ofTextKeepingEmpty]
  exact h.valueAt? root

/-- A place in a segment of its own with another behind it, more dots than needed, and a key with a
closing bracket. -/
theorem valueAt?_spelled_of_mixed :
    Spells [.member "a", .item 0, .item 12, .member "b]"] "..a.[0][12]..b].".toList ∧
      ∀ root, valueAt? (.ofText "..a.[0][12]..b].") root =
          follow? [.member "a", .item 0, .item 12, .member "b]"] root ∧
        valueAt? (.ofTextKeepingEmpty "..a.[0][12]..b].") root =
          follow? [.member "a", .item 0, .item 12, .member "b]"] root := by
  have htext : "..a.[0][12]..b].".toList =
      '.' :: '.' :: ("a".toList ++ '.' :: (bracketed (Double.decimalDigits 0) ++
        (bracketed (Double.decimalDigits 12) ++ '.' :: '.' :: ("b]".toList ++ ['.'])))) := by
    cbv
  have hfirst : IsName "a" := ⟨by decide, by decide, by decide⟩
  have hlast : IsName "b]" := ⟨by decide, by decide, by decide⟩
  have hend : Trails [.member "b]"] ('.' :: '.' :: ("b]".toList ++ ['.'])) :=
    .dot (.member hlast (.dot .nil))
  have hspells : Spells [.member "a", .item 0, .item 12, .member "b]"]
      "..a.[0][12]..b].".toList := by
    rw [htext]
    exact .trails (.dot (.member hfirst (.dot ((hend.place 12).place 0))))
  exact ⟨hspells, valueAt?_spelled hspells⟩

end HttpScenario.Json
