/-!
# Cutting and patching text

Two operations on lists of characters that dot paths and placeholders are built from: cutting at
every occurrence of one character, and replacing the first occurrence of one text by another.
Their laws say that no character is lost: joining the pieces with the separator gives the text
back (`join_pieces`), and a text in which the target does not occur is left alone.
-/

namespace HttpScenario.Text

/-- The pieces between the occurrences of `sep`, one more than there are occurrences. -/
def pieces (sep : Char) : List Char → List (List Char)
  | [] => [[]]
  | c :: rest =>
    if c = sep then [] :: pieces sep rest
    else
      match pieces sep rest with
      | [] => [[c]]
      | piece :: more => (c :: piece) :: more

/-- The pieces with one separator between each two. -/
def join (sep : List Char) : List (List Char) → List Char
  | [] => []
  | [piece] => piece
  | piece :: more => piece ++ sep ++ join sep more

theorem pieces_ne_nil (sep : Char) (cs : List Char) : pieces sep cs ≠ [] := by
  cases cs with
  | nil => simp [pieces]
  | cons c rest =>
    simp only [pieces]
    split
    · simp
    · split <;> simp

/-- Without a separator there is one piece. -/
theorem pieces_of_not_mem {sep : Char} {cs : List Char} (h : sep ∉ cs) : pieces sep cs = [cs] := by
  induction cs with
  | nil => rfl
  | cons c rest ih =>
    rw [pieces, if_neg (Ne.symm (List.ne_of_not_mem_cons h)),
      ih (List.not_mem_of_not_mem_cons h)]

/-- Cutting loses nothing but the separators. -/
theorem join_pieces (sep : Char) (cs : List Char) : join [sep] (pieces sep cs) = cs := by
  induction cs with
  | nil => rfl
  | cons c rest ih =>
    simp only [pieces]
    split
    · rename_i h
      subst h
      cases hp : pieces c rest with
      | nil => exact absurd hp (pieces_ne_nil _ _)
      | cons piece more => simp [join, ← hp, ih]
    · cases hp : pieces sep rest with
      | nil => exact absurd hp (pieces_ne_nil _ _)
      | cons piece more =>
        rw [hp] at ih
        cases more with
        | nil => simpa [join] using ih
        | cons next more => simpa [join] using ih

/-- What is left of `cs` after `target`, if `cs` starts with it. -/
def strip? : (target cs : List Char) → Option (List Char)
  | [], cs => some cs
  | _ :: _, [] => none
  | t :: target, c :: cs => if t = c then strip? target cs else none

theorem strip?_eq_some_iff {target cs rest : List Char} :
    strip? target cs = some rest ↔ cs = target ++ rest := by
  induction target generalizing cs with
  | nil => simp [strip?]
  | cons t target ih =>
    cases cs with
    | nil => simp [strip?]
    | cons c cs =>
      by_cases h : t = c
      · simp [strip?, h, ih]
      · simp [strip?, h, Ne.symm h]

/-- Replaces the first occurrence of `target` by `value`; where there is none, nothing changes. -/
def replaceFirst (target value : List Char) : List Char → List Char
  | [] => match strip? target [] with
    | some rest => value ++ rest
    | none => []
  | c :: cs => match strip? target (c :: cs) with
    | some rest => value ++ rest
    | none => c :: replaceFirst target value cs

/-- Whether `target` occurs somewhere in the text. -/
def occurs (target : List Char) : List Char → Bool
  | [] => (strip? target []).isSome
  | c :: cs => (strip? target (c :: cs)).isSome || occurs target cs

end HttpScenario.Text
