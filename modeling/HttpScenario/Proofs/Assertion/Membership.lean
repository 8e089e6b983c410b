import HttpScenario.Proofs.Assertion.Operators
import HttpScenario.Proofs.Double.Nan
import HttpScenario.Proofs.Json.Place
/-!
# Lists and their items

A rule about a list asks whether the value of the rule is an item of it, and a rule about the path to
an item asks whether that item equals the value.  The first holds if the second does for some item
(`CompiledRule.contains_iff_item_equals`), with one exception.  An item that is a number equals every
number with the same double, but a list contains a number only as a part of a document, so that a
list with `1` in it does not contain `1.0`.
-/

namespace HttpScenario

/-! ### The path to an item -/

namespace Json

/-- The segment that names a place in a list. -/
def placeSegment (place : Nat) : String :=
  "[" ++ toString place ++ "]"

/-- The text of the path to an item of a list that stands at a key. -/
def itemPath (key : String) (place : Nat) : String :=
  key ++ "." ++ placeSegment place

theorem toList_placeSegment (place : Nat) :
    (placeSegment place).toList = '[' :: (Double.decimalDigits place ++ [']']) := by
  have hdigits : (toString place).toList = Double.decimalDigits place := String.toList_ofList
  rw [placeSegment, String.toList_append, String.toList_append, hdigits]
  rfl

/-- The segment of a place leads to the item at that place. -/
theorem step?_placeSegment (place : Nat) (value : Json) :
    step? (placeSegment place) value = itemAt? [place] value := by
  have hdigits : ∀ digits ∈ [Double.decimalDigits place], Double.Digits digits :=
    List.forall_mem_singleton.mpr (Double.digits_decimalDigits place)
  have hchars : (placeSegment place).toList = [] ++ [Double.decimalDigits place].flatMap bracketed := by
    rw [toList_placeSegment, List.nil_append, List.flatMap_singleton, bracketed]
  have hstep := step?_of_key hdigits (List.not_mem_nil (a := '[')) value
  rw [← hchars, String.ofList_toList] at hstep
  rw [hstep, List.map_singleton, Double.digitsValue_decimalDigits]
  rfl

theorem Path.ofText_itemPath {key : String} (hne : key ≠ "") (hdots : '.' ∉ key.toList)
    (place : Nat) : ofText (itemPath key place) = [key, placeSegment place] := by
  have hplace : '.' ∉ (placeSegment place).toList := by
    rw [toList_placeSegment]
    simp [(Double.digits_decimalDigits place).not_mem (by decide : '.'.isDigit = false)]
  have hchars : (itemPath key place).toList = key.toList ++ '.' :: (placeSegment place).toList := by
    simp [itemPath]
  have hsegment : (placeSegment place).toList ≠ [] := by
    rw [toList_placeSegment]
    exact List.cons_ne_nil _ _
  have hkey : key.toList ≠ [] := by simpa using hne
  rw [ofText, hchars, Text.pieces_append hdots, Text.pieces_of_not_mem hplace]
  simp [hkey, hsegment]

end Json

/-! ### Items that equal the value -/

/-- What is the same part of a document has the same double. -/
theorem Json.Number.same_toDouble {a b : Number} (h : a.same b = true) :
    a.toDouble.same b.toDouble = true := by
  cases a with
  | whole n =>
    cases b with
    | whole m =>
      obtain rfl := beq_iff_eq.mp h
      exact Double.same_self (Double.ofInt_ne_nan n)
    | real y => cases h
  | real x =>
    cases b with
    | whole m => cases h
    | real y => exact h

namespace CompiledRule

/-- The value of a rule is an item of a list if it equals that item, and is the same part of a
document in case the item is a number. -/
theorem isItem_iff (rule : CompiledRule) (item : Json) :
    rule.isItem item = true ↔
      rule.equals item = true ∧ ∀ n, item = .num n → item.same rule.expected = true := by
  unfold isItem equals
  cases item with
  | num n =>
    simp only [Bool.or_false, Json.num.injEq, forall_eq']
    constructor
    · intro hsame
      refine ⟨?_, hsame⟩
      cases hexpected : rule.expected with
      | num m =>
        rw [hexpected] at hsame
        exact Json.Number.same_toDouble hsame
      | null | bool | str | arr | obj =>
        rw [hexpected] at hsame
        cases hsame
    · exact fun h => h.2
  | str s => simp [or_comm]
  | null | bool | arr | obj => simp

/-- Some item of a list that stands at a key equals the value of a rule, by the rule about the path
to that item, and is the same part of a document in case it is a number. -/
def SomeItemEquals (names : Operator.Naming) (key value : String) (body : Json.Object)
    (items : List Json) : Prop :=
  ∃ place item, items[place]? = some item ∧
    Holds (Json.itemPath key place) (names.name .eq) value body ∧
    ∀ n, item = .num n → item.same (expectedOf value) = true

section list

variable (names : Operator.Naming) {key : String} (hkey : key ≠ "") (hdots : '.' ∉ key.toList)
  {body : Json.Object} {items : List Json} (hbody : body.find? key = some (.arr items))
  (value : String)

include hkey hdots hbody

theorem holds_itemPath_iff {place : Nat} {item : Json} (hitem : items[place]? = some item) :
    Holds (Json.itemPath key place) (names.name .eq) value body ↔
      (plain key value .eq).equals item = true := by
  have hsubject : subject? body (.ofText (Json.itemPath key place)) = some item := by
    rw [Json.Path.ofText_itemPath hkey hdots, subject?, hbody]
    simp only [Json.valueAt?, Json.step?_placeSegment, Json.itemAt?_arr, hitem]
  exact holds_iff_of_subject names (by decide) hsubject

theorem someItemEquals_iff :
    SomeItemEquals names key value body items ↔
      (plain key value .contains).holds (.arr items) = true := by
  show _ ↔ items.any (plain key value .contains).isItem = true
  rw [List.any_eq_true]
  constructor
  · rintro ⟨place, item, hitem, hholds, hnumber⟩
    have hequals := (holds_itemPath_iff names hkey hdots hbody value hitem).mp hholds
    exact ⟨item, List.mem_of_getElem? hitem, (isItem_iff _ item).mpr ⟨hequals, hnumber⟩⟩
  · rintro ⟨item, hmem, hisItem⟩
    obtain ⟨place, hitem⟩ := List.getElem?_of_mem hmem
    obtain ⟨hequals, hnumber⟩ := (isItem_iff _ item).mp hisItem
    exact ⟨place, item, hitem,
      (holds_itemPath_iff names hkey hdots hbody value hitem).mpr hequals, hnumber⟩

end list

/-- A list contains the value of a rule exactly if some item equals it, where a number has to be the
same part of a document, and does not contain it exactly if there is no such item. -/
theorem contains_iff_item_equals (names : Operator.Naming) {key : String} (hkey : key ≠ "")
    (hdots : '.' ∉ key.toList) {body : Json.Object} {items : List Json}
    (hbody : body.find? key = some (.arr items)) (value : String) :
    (Holds key (names.name .contains) value body ↔ SomeItemEquals names key value body items) ∧
    (Holds key (names.name .notContains) value body ↔
      ¬ SomeItemEquals names key value body items) := by
  have hsubject := subject?_of_key hkey hdots hbody
  have hitems := someItemEquals_iff names hkey hdots hbody value
  rw [hitems]
  refine ⟨holds_iff_of_subject names (by decide) hsubject, ?_⟩
  rw [holds_iff_of_subject names (by decide) hsubject, Bool.not_eq_true, ← Bool.not_eq_true']
  exact Iff.rfl

/-- A list of lists, one of which is the value of the rule. -/
theorem contains_iff_item_equals_of_lists :
    Table.find? "tags" [("tags", Json.arr [.str "1", .arr [.str "1"]])] =
        some (.arr [.str "1", .arr [.str "1"]]) ∧
      Holds "tags" (Operator.words.name .contains) "[ \"1\" ]"
        [("tags", .arr [.str "1", .arr [.str "1"]])] := by
  have hbody : Table.find? "tags" [("tags", Json.arr [.str "1", .arr [.str "1"]])] =
      some (.arr [.str "1", .arr [.str "1"]]) := rfl
  refine ⟨hbody, ?_⟩
  rw [(contains_iff_item_equals Operator.words (by decide) (by decide) hbody _).1]
  have hitem : [Json.str "1", .arr [.str "1"]][1]? = some (.arr [.str "1"]) := rfl
  refine ⟨1, _, hitem, ?_, nofun⟩
  rw [holds_itemPath_iff Operator.words (by decide) (by decide) hbody _ hitem]
  decide +kernel

/-- An item equals the value of a rule, and the list that it is in does not contain the value. -/
theorem equal_item_not_contained :
    judge (Json.itemPath "a" 0) "eq" "1.0" [("a", .arr [.int 1])] = .ok true ∧
      judge "a" "contains" "1.0" [("a", .arr [.int 1])] = .ok false := by
  decide +kernel

end CompiledRule

end HttpScenario
