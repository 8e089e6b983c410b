import HttpScenario.Template
/-!
# Where the placeholders of a text are

A placeholder matches an opening brace, anything on the same line, and a closing brace; of several
matches that start at one place, the shortest counts.  `Cut` says what it means to cut a text at the
leftmost matches that do not overlap: from left to right, a character is only passed over if no
match starts there, and a match that is taken is passed over as a whole.

There is exactly one way to cut a text so, and it is the one that `parts` computes (`cut_iff`).
-/

namespace HttpScenario.Template

/-! ### What ends a placeholder -/

/-- What may stand between the braces of a placeholder: no closing brace and no line break. -/
structure Inner (inner : List Char) : Prop where
  brace : '\x7d' ∉ inner
  line : '\n' ∉ inner

theorem inner_nil : Inner [] :=
  ⟨List.not_mem_nil, List.not_mem_nil⟩

theorem Inner.cons {c : Char} {inner : List Char} (hbrace : c ≠ '\x7d') (hline : c ≠ '\n')
    (h : Inner inner) : Inner (c :: inner) :=
  ⟨List.not_mem_cons_of_ne_of_not_mem hbrace.symm h.brace,
    List.not_mem_cons_of_ne_of_not_mem hline.symm h.line⟩

theorem Inner.tail {c : Char} {inner : List Char} (h : Inner (c :: inner)) :
    c ≠ '\x7d' ∧ c ≠ '\n' ∧ Inner inner :=
  ⟨fun hc => h.brace (hc ▸ List.mem_cons_self), fun hc => h.line (hc ▸ List.mem_cons_self),
    fun hmem => h.brace (List.mem_cons_of_mem c hmem),
    fun hmem => h.line (List.mem_cons_of_mem c hmem)⟩

@[simp] theorem untilBrace?_brace (cs : List Char) :
    untilBrace? ('\x7d' :: cs) = some ([], cs) := by
  rw [untilBrace?, if_pos rfl]

@[simp] theorem untilBrace?_line (cs : List Char) : untilBrace? ('\n' :: cs) = none := by
  rw [untilBrace?, if_neg (by decide), if_pos rfl]

theorem untilBrace?_cons {c : Char} (hbrace : c ≠ '\x7d') (hline : c ≠ '\n') (cs : List Char) :
    untilBrace? (c :: cs) = (untilBrace? cs).map fun found => (c :: found.1, found.2) := by
  rw [untilBrace?, if_neg hbrace, if_neg hline]
  cases untilBrace? cs <;> rfl

/-- The next closing brace on the line is found, with what stands before it and after it. -/
theorem untilBrace?_eq_some_iff {cs inner rest : List Char} :
    untilBrace? cs = some (inner, rest) ↔ cs = inner ++ '\x7d' :: rest ∧ Inner inner := by
  induction cs generalizing inner with
  | nil => simp [untilBrace?]
  | cons c cs ih =>
    by_cases hbrace : c = '\x7d'
    · subst hbrace
      rw [untilBrace?_brace]
      constructor
      · intro h
        obtain ⟨rfl, rfl⟩ := Prod.mk.inj (Option.some.inj h)
        exact ⟨rfl, inner_nil⟩
      · rintro ⟨heq, hinner⟩
        cases inner with
        | nil => rw [(List.cons.inj heq).2]
        | cons d inner => exact absurd (List.cons.inj heq).1.symm hinner.tail.1
    · by_cases hline : c = '\n'
      · subst hline
        rw [untilBrace?_line]
        constructor
        · intro h
          cases h
        · rintro ⟨heq, hinner⟩
          cases inner with
          | nil => exact absurd (List.cons.inj heq).1 hbrace
          | cons d inner => exact absurd (List.cons.inj heq).1.symm hinner.tail.2.1
      · rw [untilBrace?_cons hbrace hline, Option.map_eq_some_iff]
        constructor
        · rintro ⟨⟨found, after⟩, hfound, heq⟩
          obtain ⟨rfl, rfl⟩ := Prod.mk.inj heq
          obtain ⟨rfl, hinner⟩ := ih.mp hfound
          exact ⟨rfl, hinner.cons hbrace hline⟩
        · rintro ⟨heq, hinner⟩
          cases inner with
          | nil => exact absurd (List.cons.inj heq).1 hbrace
          | cons d inner =>
            obtain ⟨rfl, hcs⟩ := List.cons.inj heq
            exact ⟨(inner, rest), ih.mpr ⟨hcs, hinner.tail.2.2⟩, rfl⟩

/-- A closing brace that no line break stands before is found, or one before it. -/
theorem untilBrace?_ne_none {front : List Char} (h : '\n' ∉ front) (rest : List Char) :
    untilBrace? (front ++ '\x7d' :: rest) ≠ none := by
  induction front with
  | nil =>
    rw [List.nil_append, untilBrace?_brace]
    exact Option.some_ne_none _
  | cons c front ih =>
    have hline : c ≠ '\n' := fun hc => h (hc ▸ List.mem_cons_self)
    have hfront : '\n' ∉ front := fun hmem => h (List.mem_cons_of_mem c hmem)
    by_cases hbrace : c = '\x7d'
    · subst hbrace
      rw [List.cons_append, untilBrace?_brace]
      exact Option.some_ne_none _
    · rw [List.cons_append, untilBrace?_cons hbrace hline, ne_eq, Option.map_eq_none_iff]
      exact ih hfront

/-- If a line break comes before any closing brace, what follows the line break does not matter. -/
theorem untilBrace?_append_eq_none {front : List Char} (hline : '\n' ∈ front) {rest : List Char}
    (h : untilBrace? (front ++ rest) = none) (other : List Char) :
    untilBrace? (front ++ other) = none := by
  induction front with
  | nil => cases hline
  | cons c front ih =>
    rw [List.cons_append] at h ⊢
    by_cases hbrace : c = '\x7d'
    · subst hbrace
      rw [untilBrace?_brace] at h
      cases h
    · by_cases hc : c = '\n'
      · rw [hc, untilBrace?_line]
      · rw [untilBrace?_cons hbrace hc, Option.map_eq_none_iff] at h ⊢
        exact ih ((List.mem_cons.mp hline).resolve_left (Ne.symm hc)) h

/-! ### Cutting -/

/-- A match starts where the text starts. -/
def Starts (cs : List Char) : Prop :=
  ∃ inner rest, cs = token inner ++ rest ∧ '\n' ∉ inner

/-- A text is cut at the leftmost matches that do not overlap. -/
inductive Cut : List Char → List Part → Prop
  | nil : Cut [] []
  /-- The shortest match is taken. -/
  | hole {inner rest : List Char} {ps : List Part} (hinner : Inner inner) (hrest : Cut rest ps) :
      Cut (token inner ++ rest) (.hole inner :: ps)
  /-- A character at which no match starts is kept. -/
  | plain {c : Char} {rest : List Char} {ps : List Part} (hstarts : ¬ Starts (c :: rest))
      (hrest : Cut rest ps) : Cut (c :: rest) (.plain c :: ps)

theorem token_append (inner rest : List Char) :
    token inner ++ rest = '\x7b' :: (inner ++ '\x7d' :: rest) := by
  unfold token
  rw [List.append_assoc, List.cons_append, List.singleton_append]

/-- A match starts at a character exactly if it is an opening brace that is closed on its line. -/
theorem starts_cons_iff {c : Char} {rest : List Char} :
    Starts (c :: rest) ↔ c = '\x7b' ∧ untilBrace? rest ≠ none := by
  constructor
  · rintro ⟨inner, after, heq, hline⟩
    rw [token_append] at heq
    obtain ⟨rfl, rfl⟩ := List.cons.inj heq
    exact ⟨rfl, untilBrace?_ne_none hline after⟩
  · rintro ⟨rfl, hclosed⟩
    obtain ⟨⟨inner, after⟩, hfound⟩ := Option.ne_none_iff_exists'.mp hclosed
    obtain ⟨rfl, hinner⟩ := untilBrace?_eq_some_iff.mp hfound
    exact ⟨inner, after, (token_append inner after).symm, hinner.line⟩

/-! ### The cut that is computed -/

theorem parts_of_not_starts {c : Char} {rest : List Char} (h : ¬ Starts (c :: rest)) :
    parts (c :: rest) = .plain c :: parts rest := by
  rw [starts_cons_iff] at h
  rw [parts]
  by_cases hc : c = '\x7b'
  · have hopen : untilBrace? rest = none :=
      Classical.byContradiction fun hclosed => h ⟨hc, hclosed⟩
    rw [if_pos hc]
    split
    · rename_i hfound
      rw [hopen] at hfound
      cases hfound
    · rfl
  · rw [if_neg hc]

theorem parts_token_append {inner : List Char} (h : Inner inner) (rest : List Char) :
    parts (token inner ++ rest) = .hole inner :: parts rest := by
  have hclosed : untilBrace? (inner ++ '\x7d' :: rest) = some (inner, rest) :=
    untilBrace?_eq_some_iff.mpr ⟨rfl, h⟩
  rw [token_append, parts, if_pos rfl]
  split
  · rename_i hfound
    rw [hclosed] at hfound
    obtain ⟨rfl, rfl⟩ := Prod.mk.inj (Option.some.inj hfound)
    rfl
  · rename_i hfound
    rw [hclosed] at hfound
    cases hfound

theorem Cut.parts_eq {cs : List Char} {ps : List Part} (h : Cut cs ps) : parts cs = ps := by
  induction h with
  | nil => rw [parts]
  | hole hinner hrest ih => rw [parts_token_append hinner, ih]
  | plain hstarts hrest ih => rw [parts_of_not_starts hstarts, ih]

/-- Every text can be cut. -/
theorem cut_parts (cs : List Char) : Cut cs (parts cs) := by
  induction cs using parts.induct with
  | case1 =>
    rw [parts]
    exact .nil
  | case2 rest inner after hfound ih =>
    obtain ⟨rfl, hinner⟩ := untilBrace?_eq_some_iff.mp hfound
    rw [← token_append, parts_token_append hinner]
    exact .hole hinner ih
  | case3 rest hopen ih =>
    have hstarts : ¬ Starts ('\x7b' :: rest) := fun h => (starts_cons_iff.mp h).2 hopen
    rw [parts_of_not_starts hstarts]
    exact .plain hstarts ih
  | case4 c rest hc ih =>
    have hstarts : ¬ Starts (c :: rest) := fun h => hc (starts_cons_iff.mp h).1
    rw [parts_of_not_starts hstarts]
    exact .plain hstarts ih

/-- Characters that are no opening braces are kept one by one. -/
theorem parts_append_of_not_mem {front : List Char} (h : '\x7b' ∉ front) (rest : List Char) :
    parts (front ++ rest) = front.map .plain ++ parts rest := by
  induction front with
  | nil => rfl
  | cons c front ih =>
    have hstarts : ¬ Starts (c :: (front ++ rest)) := by
      intro hstarts
      exact h ((starts_cons_iff.mp hstarts).1 ▸ List.mem_cons_self)
    rw [List.cons_append, parts_of_not_starts hstarts,
      ih fun hmem => h (List.mem_cons_of_mem c hmem)]
    rfl

theorem parts_of_not_mem {cs : List Char} (h : '\x7b' ∉ cs) : parts cs = cs.map .plain := by
  have hparts := parts_append_of_not_mem h []
  rw [List.append_nil, parts, List.append_nil] at hparts
  exact hparts

/-- There is one way to cut a text, and it is computed. -/
theorem cut_iff {cs : List Char} {ps : List Part} : Cut cs ps ↔ ps = parts cs := by
  constructor
  · exact fun h => h.parts_eq.symm
  · rintro rfl
    exact cut_parts cs

end HttpScenario.Template
