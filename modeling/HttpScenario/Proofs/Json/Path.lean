import Mathlib.Data.List.TakeWhile
import HttpScenario.Json.Path
/-!
# Walking paths

A segment without brackets is a key, and the empty segment stays where it is (`Json.step?_empty`).
So the segments of a text that are empty can be left out or kept: the text addresses the same value
(`Json.valueAt?_ofTextKeepingEmpty`).
-/

namespace HttpScenario

namespace Json

/-! ### One step -/

theorem bracketIndices?_nil : bracketIndices? [] = some [] := rfl

/-- Brackets that can be read name at least one place. -/
theorem ne_nil_of_bracketIndices? {cs : List Char} (hcs : cs ≠ []) {indices : List Nat}
    (h : bracketIndices? cs = some indices) : indices ≠ [] := by
  rintro rfl
  unfold bracketIndices? at h
  split at h
  · rename_i closed hpieces
    cases hclosed : closed.reverse with
    | nil =>
      -- a single piece, and that one empty, is the empty text
      have hjoin := Text.join_pieces ']' cs
      rw [List.reverse_eq_iff.mp hpieces, List.reverse_cons, hclosed] at hjoin
      exact hcs hjoin.symm
    | cons piece more =>
      rw [hclosed, List.mapM_cons] at h
      simp [Option.bind_eq_some_iff] at h
  · cases h

/-- A segment without brackets is a key. -/
theorem step?_of_not_mem {segment : String} (h : '[' ∉ segment.toList) (value : Json) :
    step? segment value = memberAt? segment value := by
  have hplain : ∀ c ∈ segment.toList, (c != '[') = true := by
    intro c hc
    exact bne_iff_ne.mpr fun heq => h (heq ▸ hc)
  have htake : segment.toList.takeWhile (· != '[') = segment.toList :=
    List.takeWhile_eq_self_iff.mpr hplain
  have hdrop : segment.toList.dropWhile (· != '[') = [] :=
    List.dropWhile_eq_nil_iff.mpr hplain
  unfold step?
  simp only [htake, hdrop, String.ofList_toList, bracketIndices?_nil]
  cases memberAt? segment value <;> rfl

/-- The empty segment stays where it is. -/
@[simp] theorem step?_empty (value : Json) : step? "" value = some value :=
  step?_of_not_mem (by decide) value

/-- In an object, a segment with brackets leads on only from another key than itself. -/
theorem exists_find?_of_step? {segment : String} (h : '[' ∈ segment.toList) {members : Object}
    {value : Json} (hstep : step? segment (.obj members) = some value) :
    ∃ key, key ≠ segment ∧ ∃ item, Table.find? key members = some item := by
  simp only [step?, Option.bind_eq_bind, Option.bind_eq_some_iff] at hstep
  obtain ⟨item, hmember, indices, hindices, hitem⟩ := hstep
  have hbrackets : segment.toList.dropWhile (· != '[') ≠ [] := by
    intro hnil
    exact absurd (List.dropWhile_eq_nil_iff.mp hnil '[' h) (by decide)
  have hne := ne_nil_of_bracketIndices? hbrackets hindices
  unfold memberAt? at hmember
  split at hmember
  · -- without a key in front the places would be in the object itself
    obtain rfl := Option.some.inj hmember
    obtain ⟨index, rest, rfl⟩ := List.exists_cons_of_ne_nil hne
    cases hitem
  · refine ⟨_, ?_, item, hmember⟩
    intro heq
    have hmem : '[' ∈ segment.toList.takeWhile (· != '[') := by
      rw [← String.toList_ofList (l := segment.toList.takeWhile _), heq]
      exact h
    exact absurd (List.mem_takeWhile_imp hmem) (by decide)

/-! ### Paths -/

/-- In an object, a path whose first segment has no brackets leads on from that key. -/
theorem valueAt?_cons_obj {first : String} (hne : first ≠ "") (h : '[' ∉ first.toList)
    (rest : Path) (members : Object) :
    valueAt? (first :: rest) (.obj members) =
      (Table.find? first members).bind (valueAt? rest) := by
  have hkey : ¬ first.isEmpty = true := by
    simpa using hne
  rw [valueAt?, step?_of_not_mem h, memberAt?, if_neg hkey]
  cases Table.find? first members <;> rfl

/-- A path whose first segment has brackets addresses nothing under that segment as a key. -/
theorem valueAt?_cons_singleton {first : String} (h : '[' ∈ first.toList) (rest : Path)
    (value : Json) : valueAt? (first :: rest) (.obj [(first, value)]) = none := by
  cases hstep : step? first (.obj [(first, value)]) with
  | none => rw [valueAt?, hstep]
  | some next =>
    obtain ⟨key, hkey, item, hfind⟩ := exists_find?_of_step? h hstep
    rw [Table.find?, if_neg (Ne.symm hkey)] at hfind
    cases hfind

/-- Segments that are left out because they are empty make no difference. -/
theorem valueAt?_filter_not_isEmpty (pieces : List (List Char)) (value : Json) :
    valueAt? ((pieces.filter fun piece => !piece.isEmpty).map String.ofList) value =
      valueAt? (pieces.map String.ofList) value := by
  induction pieces generalizing value with
  | nil => rfl
  | cons piece pieces ih =>
    cases piece with
    | nil =>
      rw [List.filter_cons_of_neg (by decide), List.map_cons, valueAt?,
        show String.ofList [] = "" from rfl, step?_empty]
      exact ih value
    | cons c piece =>
      rw [List.filter_cons_of_pos rfl, List.map_cons, List.map_cons, valueAt?, valueAt?]
      cases step? (String.ofList (c :: piece)) value with
      | none => rfl
      | some next => exact ih next

/-- A text addresses the same value whether or not its empty segments are left out. -/
theorem valueAt?_ofTextKeepingEmpty (text : String) (value : Json) :
    valueAt? (.ofTextKeepingEmpty text) value = valueAt? (.ofText text) value :=
  (valueAt?_filter_not_isEmpty (Text.pieces '.' text.toList) value).symm

theorem Path.ne_empty_of_mem_ofText {segment text : String} (h : segment ∈ Path.ofText text) :
    segment ≠ "" := by
  obtain ⟨piece, hpiece, rfl⟩ := List.mem_map.mp h
  have hne : piece ≠ [] := by
    rintro rfl
    exact absurd (List.mem_filter.mp hpiece).2 (by decide)
  intro hempty
  rw [← String.toList_ofList (l := piece), hempty] at hne
  exact hne rfl

/-- A key without dots is a path of one segment. -/
theorem Path.ofText_of_not_mem {key : String} (hne : key ≠ "") (h : '.' ∉ key.toList) :
    ofText key = [key] := by
  have hkey : key.toList ≠ [] := by simpa using hne
  rw [ofText, Text.pieces_of_not_mem h]
  simp [hkey]

end Json

end HttpScenario
