import HttpScenario.Json.Reader
import HttpScenario.Proofs.Sequence
/-!
# What reading leaves

Readers work from the front, so that what they leave is an end of what they were given (`Leaves`).
What holds of all octets before reading then holds of all octets that are left.

The statements follow the readers of words, texts and numbers, and the steps between the items of a
list; each step leaves an end of what the one before it left (`Leaves.mono`).
-/

namespace HttpScenario.Json

/-! ### Ends -/

/-- If a reader succeeds, it leaves an end of what it was given. -/
def Leaves {ε α : Type} (r : Except ε (α × Octets)) (s : Octets) : Prop :=
  ∀ a rest, r = .ok (a, rest) → rest <:+ s

section leaves

variable {ε α β : Type} {s t : Octets}

theorem leaves_ok (a : α) (h : t <:+ s) : Leaves (.ok (a, t) : Except ε (α × Octets)) s := by
  rintro a' rest ⟨⟩
  exact h

theorem leaves_error (e : ε) : Leaves (.error e : Except ε (α × Octets)) s := nofun

theorem Leaves.mono {r : Except ε (α × Octets)} (h : Leaves r t) (hs : t <:+ s) : Leaves r s :=
  fun a rest hr => (h a rest hr).trans hs

theorem Leaves.map {r : Except ε (α × Octets)} (h : Leaves r s) (f : α → β) :
    Leaves (r.map fun (a, rest) => (f a, rest)) s := by
  intro b rest hb
  obtain ⟨⟨a, rest'⟩, hr, heq⟩ := map_eq_ok_iff.mp hb
  obtain ⟨-, rfl⟩ := Prod.mk.inj heq
  exact h a rest' hr

end leaves

/-! ### Words and texts -/

theorem skipSpaces_suffix (s : Octets) : skipSpaces s <:+ s :=
  List.dropWhile_suffix isSpace

theorem suffix_of_readWord {word : List Char} {s rest : Octets} (h : readWord word s = .ok rest) :
    rest <:+ s := by
  induction word generalizing s with
  | nil =>
    obtain rfl := Except.ok.inj h
    exact List.suffix_refl s
  | cons c word ih =>
    cases s with
    | nil => cases h
    | cons b s =>
      rw [readWord] at h
      split at h
      · exact (ih h).trans (List.suffix_cons b s)
      · cases h

theorem Leaves.prepend {r : Except Fault (Octets × Octets)} {s t : Octets} (h : Leaves r t)
    (hs : t <:+ s) (octets : Octets) : Leaves (prepend octets r) s :=
  (h.map (octets ++ ·)).mono hs

theorem leaves_scanText (s : Octets) : Leaves (scanText s) s := by
  fun_induction scanText s with
  | case2 => exact leaves_ok _ (List.suffix_cons _ _)
  | case4 =>
    -- an escape of one letter
    rename_i ih
    exact ih.prepend (List.suffix_append [_, _] _) _
  | case8 =>
    -- an escape with four digits
    rename_i ih
    exact ih.prepend (List.suffix_append [_, _, _, _, _, _] _) _
  | case14 =>
    -- two of them that stand for one character
    rename_i ih
    exact ih.prepend (List.suffix_append [_, _, _, _, _, _, _, _, _, _, _, _] _) _
  | case19 =>
    rename_i ih
    exact ih.prepend (List.suffix_cons _ _) _
  | _ => exact leaves_error _

theorem leaves_readText (s : Octets) : Leaves (readText s) s := by
  rintro text rest h
  obtain ⟨⟨content, left⟩, hscan, hdecode⟩ := bind_eq_ok_iff.mp h
  dsimp only at hdecode
  split at hdecode
  · cases hdecode
    exact leaves_scanText s content _ hscan
  · cases hdecode

/-! ### Numbers -/

theorem leaves_finishReal (negative : Bool) (significand : Nat) (exponent : Int) (s : Octets) :
    Leaves (finishReal negative significand exponent s) s := by
  unfold finishReal
  split
  · exact leaves_ok _ (List.suffix_refl s)
  · exact leaves_error _

theorem dropWhile_digits_suffix (s : Octets) : s.dropWhile isDigitOctet <:+ s :=
  List.dropWhile_suffix isDigitOctet

theorem leaves_readExponent (negative : Bool) (significand : Nat) (exponent : Int) (s : Octets) :
    Leaves (readExponent negative significand exponent s) s := by
  unfold readExponent
  split
  rename_i down t hsign
  have ht : t <:+ s := by
    split at hsign
    · split at hsign
      · cases hsign
        exact List.suffix_cons _ _
      · split at hsign
        · cases hsign
          exact List.suffix_cons _ _
        · cases hsign
          exact List.suffix_refl _
    · cases hsign
      exact List.suffix_refl _
  refine Leaves.mono ?_ ht
  split
  · exact leaves_error _
  split
  · exact leaves_error _
  dsimp only
  split
  · split
    · exact leaves_error _
    · exact leaves_ok _ (dropWhile_digits_suffix _)
  · exact (leaves_finishReal _ _ _ _).mono (dropWhile_digits_suffix _)

theorem leaves_readFraction (negative : Bool) (significand : Nat) (exponent : Int) (s : Octets) :
    Leaves (readFraction negative significand exponent s) s := by
  unfold readFraction
  split
  · rename_i rest
    refine Leaves.mono ?_ (List.suffix_cons _ rest)
    dsimp only
    split
    · exact leaves_error _
    · refine Leaves.mono ?_ (dropWhile_digits_suffix rest)
      generalize rest.dropWhile isDigitOctet = left
      split
      · split
        · exact (leaves_readExponent _ _ _ _).mono (List.suffix_cons _ _)
        · exact leaves_finishReal _ _ _ _
      · exact leaves_finishReal _ _ _ _
  · split
    · exact (leaves_readExponent _ _ _ _).mono (List.suffix_cons _ _)
    · exact leaves_finishReal _ _ _ _
  · exact leaves_finishReal _ _ _ _

theorem leaves_readNumber (negative : Bool) (s : Octets) : Leaves (readNumber negative s) s := by
  unfold readNumber
  split
  · exact leaves_error _
  · rename_i b rest
    split
    · exact leaves_error _
    split
    · refine Leaves.mono ?_ (List.suffix_cons b rest)
      split
      · split
        · exact leaves_error _
        · split
          · exact leaves_readFraction _ _ _ _
          · exact leaves_ok _ (List.suffix_refl _)
      · exact leaves_ok _ (List.suffix_refl _)
    · dsimp only
      refine Leaves.mono ?_ (dropWhile_digits_suffix (b :: rest))
      split
      · exact leaves_ok _ (List.suffix_refl _)
      · exact leaves_readFraction _ _ _ _

/-! ### Small values and items -/

theorem leaves_readScalar (b : UInt8) (s : Octets) : Leaves (readScalar b s) (b :: s) := by
  have hword : ∀ (word : List Char) (v : Json),
      Leaves ((readWord word s).map fun rest => (v, rest)) (b :: s) := by
    intro word v v' rest h
    obtain ⟨left, hread, heq⟩ := map_eq_ok_iff.mp h
    obtain ⟨-, rfl⟩ := Prod.mk.inj heq
    exact (suffix_of_readWord hread).trans (List.suffix_cons b s)
  unfold readScalar
  split
  · exact hword _ _
  split
  · exact hword _ _
  split
  · exact hword _ _
  split
  · exact ((leaves_readNumber true s).map Json.num).mono (List.suffix_cons b s)
  split
  · exact (leaves_readNumber false (b :: s)).map Json.num
  split
  · exact ((leaves_readText s).map Json.str).mono (List.suffix_cons b s)
  · exact leaves_error _

theorem leaves_nextItem (first : Bool) (s : Octets) : Leaves (nextItem first s) s := by
  unfold nextItem
  refine Leaves.mono ?_ (skipSpaces_suffix s)
  generalize skipSpaces s = t
  split
  · exact leaves_error _
  rename_i b rest
  split
  · exact leaves_ok _ (List.suffix_refl _)
  split
  · exact leaves_ok _ (List.suffix_refl _)
  split
  · refine Leaves.mono ?_ ((skipSpaces_suffix rest).trans (List.suffix_cons b rest))
    generalize skipSpaces rest = t
    split
    · exact leaves_error _
    split
    · exact leaves_error _
    · exact leaves_ok _ (List.suffix_refl _)
  · exact leaves_error _

theorem suffix_of_endItems {s rest : Octets} (h : endItems s = .ok rest) : rest <:+ s := by
  unfold endItems at h
  have hspaces := skipSpaces_suffix s
  split at h
  · cases h
  · rename_i b left heq
    rw [heq] at hspaces
    split at h
    · obtain rfl := Except.ok.inj h
      exact (List.suffix_cons b left).trans hspaces
    · split at h
      · split at h <;> cases h
      · cases h

/-! ### Whole texts -/

/-- What is read as a whole text is read with nothing but blanks left. -/
theorem exists_of_readWhole {α : Type} {read : Reader α} {s : Octets} {a : α}
    (h : readWhole read s = .ok a) : ∃ rest, read s = .ok (a, rest) := by
  unfold readWhole at h
  split at h
  · cases h
  · rename_i x rest hread
    split at h
    · obtain rfl := Except.ok.inj h
      exact ⟨rest, hread⟩
    · cases h

end HttpScenario.Json
