import HttpScenario.Json.Path
import HttpScenario.Proofs.Double.Decimal
import HttpScenario.Proofs.Text.Letter
/-!
# Places in lists

A segment of a path is a key and, in brackets, the digits of any number of places.  It leads to the
member under the key and from there to the items at these places, one in the other
(`Json.step?_of_key`).  The digits may have zeros in front.
-/

namespace HttpScenario

namespace Text

theorem pieces_append {sep : Char} {front : List Char} (h : sep ∉ front) (rest : List Char) :
    pieces sep (front ++ sep :: rest) = front :: pieces sep rest := by
  induction front with
  | nil => rw [List.nil_append, pieces, if_pos rfl]
  | cons c front ih =>
    rw [List.cons_append, pieces, if_neg (Ne.symm (List.ne_of_not_mem_cons h)),
      ih (List.not_mem_of_not_mem_cons h)]

/-- There is nothing to trim if there are no blanks. -/
theorem trimChars_eq_self {cs : List Char} (h : ∀ c ∈ cs, isBlank c = false) :
    trimChars cs = cs := by
  have hdrop : ∀ ds : List Char, (∀ d ∈ ds, isBlank d = false) → ds.dropWhile isBlank = ds := by
    intro ds hds
    cases ds with
    | nil => rfl
    | cons d ds => exact List.dropWhile_cons_of_neg (by simp [hds d List.mem_cons_self])
  have hreverse : ∀ c ∈ cs.reverse, isBlank c = false := fun c hc => h c (List.mem_reverse.mp hc)
  rw [trimChars, hdrop cs h, hdrop _ hreverse, List.reverse_reverse]

end Text

namespace Json

/-! ### Digits between brackets -/

/-- Digits are read as the place that they write. -/
theorem readIndex?_digits {digits : List Char} (h : Double.Digits digits) :
    readIndex? digits = some (Double.digitsValue digits) := by
  have hall : digits.all Char.isDigit = true := List.all_eq_true.mpr h.2
  have hnonempty : digits.isEmpty = false := by simpa using h.1
  unfold readIndex?
  split
  · -- a plus in front is no digit
    exact absurd List.mem_cons_self (h.not_mem (by decide : '+'.isDigit = false))
  · simp only [hall, hnonempty]
    rfl

theorem bracketIndex?_digits {digits : List Char} (h : Double.Digits digits) :
    bracketIndex? ('[' :: digits) = some (Double.digitsValue digits) := by
  have hplain : ∀ c ∈ digits, Text.isBlank c = false := by
    intro c hc
    exact Text.isBlank_eq_false_of_isDigit (h.2 c hc)
  rw [bracketIndex?, Text.trimChars_eq_self hplain, readIndex?_digits h]

/-- The characters of digits between brackets. -/
def bracketed (digits : List Char) : List Char :=
  '[' :: (digits ++ [']'])

section places

variable {places : List (List Char)} (h : ∀ digits ∈ places, Double.Digits digits)

include h

/-- Each closing bracket ends a piece. -/
theorem pieces_bracketed :
    Text.pieces ']' (places.flatMap bracketed) = places.map ('[' :: ·) ++ [[]] := by
  induction places with
  | nil => rfl
  | cons digits places ih =>
    obtain ⟨hdigits, hrest⟩ := List.forall_mem_cons.mp h
    have hclose : ']' ∉ '[' :: digits :=
      List.not_mem_cons_of_ne_of_not_mem (by decide) (hdigits.not_mem (by decide))
    have hjoin : (digits :: places).flatMap bracketed =
        ('[' :: digits) ++ ']' :: places.flatMap bracketed := by
      simp [bracketed]
    rw [hjoin, Text.pieces_append hclose, ih hrest]
    rfl

/-- Brackets with digits in them name the places that the digits write. -/
theorem bracketIndices?_bracketed :
    bracketIndices? (places.flatMap bracketed) = some (places.map Double.digitsValue) := by
  have hread : (places.map ('[' :: ·)).mapM bracketIndex? =
      some (places.map Double.digitsValue) := by
    induction places with
    | nil => rfl
    | cons digits places ih =>
      obtain ⟨hdigits, hrest⟩ := List.forall_mem_cons.mp h
      rw [List.map_cons, List.mapM_cons, bracketIndex?_digits hdigits, ih hrest]
      rfl
  unfold bracketIndices?
  rw [pieces_bracketed h, List.reverse_append]
  simpa using hread

/-! ### Steps -/

/-- A key with places in brackets after it leads to the member under the key, and from there to the
items at the places. -/
theorem step?_of_key {key : List Char} (hkey : '[' ∉ key) (value : Json) :
    step? (String.ofList (key ++ places.flatMap bracketed)) value =
      (memberAt? (String.ofList key) value).bind (itemAt? (places.map Double.digitsValue)) := by
  have hplain : ∀ c ∈ key, (c != '[') = true := by
    intro c hc
    exact bne_iff_ne.mpr fun heq => hkey (heq ▸ hc)
  have htake : (key ++ places.flatMap bracketed).takeWhile (· != '[') = key := by
    rw [List.takeWhile_append_of_pos hplain]
    cases places <;> simp [bracketed]
  have hdrop : (key ++ places.flatMap bracketed).dropWhile (· != '[') =
      places.flatMap bracketed := by
    rw [List.dropWhile_append_of_pos hplain]
    cases places <;> simp [bracketed]
  unfold step?
  simp only [String.toList_ofList, htake, hdrop, bracketIndices?_bracketed h]
  cases memberAt? (String.ofList key) value <;> rfl

end places

/-- The items at some places and then at others. -/
theorem itemAt?_append (places others : List Nat) (value : Json) :
    itemAt? (places ++ others) value = (itemAt? places value).bind (itemAt? others) := by
  induction places generalizing value with
  | nil => rfl
  | cons place places ih =>
    cases value with
    | arr items =>
      rw [List.cons_append, itemAt?, itemAt?]
      cases items[place]? with
      | none => rfl
      | some item => exact ih item
    | null | bool | num | str | obj => rfl

theorem itemAt?_arr (place : Nat) (items : List Json) :
    itemAt? [place] (.arr items) = items[place]? := by
  rw [itemAt?]
  cases items[place]? <;> rfl

end Json

end HttpScenario
