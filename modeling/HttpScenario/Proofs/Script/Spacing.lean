import HttpScenario.Proofs.Script.Lexeme
/-!
# Blanks between tokens

A script is tokens with blanks before, between and after them.  Blanks are needed only where the one
token would go on with the next (`Spaced`).  Such a script is cut into those tokens, and nothing
else is cut into tokens at all (`exists_spaced`), so that blanks at the end should make no
difference.

They do where the limit is reached (`tokenize_spacing`).  It is looked at before each further
character, and a blank is one, although no further token comes of it.
-/

namespace HttpScenario.Script

/-- Blanks and nothing else. -/
def Blanks (cs : List Char) : Prop :=
  ∀ c ∈ cs, Text.isBlank c = true

instance (cs : List Char) : Decidable (Blanks cs) :=
  decidable_of_iff (cs.all Text.isBlank = true) List.all_eq_true

/-- A token is kept apart from what follows it, by a blank or because it does not go on with it. -/
def Token.KeptApart (t : Token) (rest : List Char) : Prop :=
  (∃ c ∈ rest.head?, Text.isBlank c = true) ∨ ¬ t.GoesOn rest

/-- Characters are tokens with blanks between them where the tokens are not kept apart without, and
wherever else; `tail` is the blanks after the last token. -/
inductive Spaced (tail : List Char) : List Char → List Token → Prop
  | nil (h : Blanks tail) : Spaced tail tail []
  | cons {gap chars rest : List Char} {t : Token} {ts : List Token} (hgap : Blanks gap)
      (hchars : t.WrittenAs chars) (hapart : t.KeptApart rest) (h : Spaced tail rest ts) :
      Spaced tail (gap ++ (chars ++ rest)) (t :: ts)

/-! ### Tokens kept apart -/

theorem Token.keptApart_nil (t : Token) : t.KeptApart [] := by
  refine Or.inr ?_
  cases t <;> simp [GoesOn, startsWithDigit]

/-- No token goes on with a blank. -/
theorem Token.KeptApart.not_goesOn {t : Token} {rest : List Char} (h : t.KeptApart rest) :
    ¬ t.GoesOn rest := by
  rcases h with ⟨c, hc, hblank⟩ | h
  · obtain ⟨more, rfl⟩ := List.head?_eq_some_iff.mp hc
    have hdigit := Text.isDigit_eq_false_of_isBlank hblank
    have hpoint : c ≠ '.' := by
      rintro rfl
      exact absurd hblank (by decide)
    have hequal : c ≠ '=' := by
      rintro rfl
      exact absurd hblank (by decide)
    have hname := continuesName_eq_false_of_isBlank hblank
    cases t
    all_goals simp [Token.GoesOn, startsWithDigit, hdigit, hpoint, hequal, hname]
  · exact h

/-- A blank is no digit. -/
theorem Blanks.startsWithDigit_append {blanks : List Char} (h : Blanks blanks)
    (cs : List Char) : startsWithDigit (cs ++ blanks) = startsWithDigit cs := by
  cases cs with
  | cons c cs => rfl
  | nil =>
    cases blanks with
    | nil => rfl
    | cons c blanks => exact Text.isDigit_eq_false_of_isBlank (h c List.mem_cons_self)

/-- Blanks at the end keep apart what was kept apart. -/
theorem Token.KeptApart.append {t : Token} {rest blanks : List Char} (h : t.KeptApart rest)
    (hblanks : Blanks blanks) : t.KeptApart (rest ++ blanks) := by
  cases rest with
  | nil =>
    cases blanks with
    | nil => exact h
    | cons c blanks => exact Or.inl ⟨c, rfl, hblanks c List.mem_cons_self⟩
  | cons c rest =>
    rcases h with hblank | h
    · exact Or.inl hblank
    · refine Or.inr fun hgoes => h ?_
      cases t
      -- only for a number does more than the first character matter
      case number =>
        rcases hgoes with hdigit | ⟨more, heq, hdigit⟩
        · exact Or.inl hdigit
        · obtain ⟨rfl, rfl⟩ := List.cons.inj heq
          exact Or.inr ⟨rest, rfl, (hblanks.startsWithDigit_append rest).symm.trans hdigit⟩
      all_goals simp_all [GoesOn]

/-- Nothing is needed before a token. -/
theorem Spaced.flush {tail chars rest : List Char} {t : Token} {ts : List Token}
    (hchars : t.WrittenAs chars) (hapart : t.KeptApart rest) (h : Spaced tail rest ts) :
    Spaced tail (chars ++ rest) (t :: ts) := by
  have hnone : Blanks [] := nofun
  exact .cons hnone hchars hapart h

/-- Blanks before the first token are blanks like any others. -/
theorem Spaced.prepend {tail cs gap : List Char} {t : Token} {ts : List Token}
    (h : Spaced tail cs (t :: ts)) (hgap : Blanks gap) : Spaced tail (gap ++ cs) (t :: ts) := by
  cases h with
  | @cons inner chars rest _ _ hinner hchars hapart hrest =>
    rw [← List.append_assoc]
    exact .cons (List.forall_mem_append.mpr ⟨hgap, hinner⟩) hchars hapart hrest

theorem Spaced.append {tail cs blanks : List Char} {ts : List Token} (h : Spaced tail cs ts)
    (hblanks : Blanks blanks) : Spaced (tail ++ blanks) (cs ++ blanks) ts := by
  induction h with
  | nil h => exact .nil (List.forall_mem_append.mpr ⟨h, hblanks⟩)
  | cons hgap hchars hapart _ ih =>
    rw [List.append_assoc, List.append_assoc]
    exact .cons hgap hchars (hapart.append hblanks) ih

/-! ### Cutting -/

/-- Below the limit, what is at the front is cut, and then what follows it. -/
theorem tokensFrom_step {offset count : Nat} {c : Char} {rest : List Char}
    (hcount : count < maxTokens) :
    tokensFrom offset count (c :: rest) =
      match lexeme offset c rest with
      | .error fault => .error fault
      | .ok (none, after) => tokensFrom (offset + (rest.length + 1 - after.length)) count after
      | .ok (some t, after) =>
        (tokensFrom (offset + (rest.length + 1 - after.length)) (count + 1) after).map (t :: ·) := by
  rw [tokensFrom, if_neg (Nat.not_le.mpr hcount)]
  split
  · rename_i hlexeme
    rw [hlexeme]
  · rename_i hlexeme
    rw [hlexeme]
  · rename_i t after hlexeme
    rw [hlexeme]
    dsimp only
    cases tokensFrom (offset + (rest.length + 1 - after.length)) (count + 1) after <;> rfl

theorem tokensFrom_error {offset count : Nat} {c : Char} {rest : List Char} {fault : Fault}
    (hcount : count < maxTokens) (hlexeme : lexeme offset c rest = .error fault) :
    tokensFrom offset count (c :: rest) = .error fault := by
  rw [tokensFrom_step hcount, hlexeme]

/-- What is cut after a token goes on after it, faults included. -/
theorem tokensFrom_cons {offset count : Nat} {c : Char} {rest after : List Char} {t : Token}
    {cut : Except Fault (List Token)} (hcount : count < maxTokens)
    (hlexeme : lexeme offset c rest = .ok (some t, after))
    (hafter : ∀ offset, tokensFrom offset (count + 1) after = cut) :
    tokensFrom offset count (c :: rest) = cut.map (t :: ·) := by
  rw [tokensFrom_step hcount, hlexeme]
  exact congrArg (Except.map (t :: ·)) (hafter _)

theorem tokensFrom_blank {c : Char} (hblank : Text.isBlank c = true) (offset : Nat) {count : Nat}
    (hcount : count < maxTokens) (rest : List Char) :
    tokensFrom offset count (c :: rest) = tokensFrom (offset + 1) count rest := by
  rw [tokensFrom_step hcount, lexeme_eq_blank_iff.mpr ⟨hblank, rfl⟩]
  dsimp only
  rw [Nat.add_sub_cancel_left]

theorem tokensFrom_blanks {gap : List Char} (hgap : Blanks gap) (offset : Nat) {count : Nat}
    (hcount : count < maxTokens) (rest : List Char) :
    tokensFrom offset count (gap ++ rest) = tokensFrom (offset + gap.length) count rest := by
  induction gap generalizing offset with
  | nil => rfl
  | cons c gap ih =>
    obtain ⟨hblank, hgap⟩ := List.forall_mem_cons.mp hgap
    rw [List.cons_append, tokensFrom_blank hblank offset hcount, ih hgap, List.length_cons]
    congr 1
    omega

/-- At the limit, any further character is too much. -/
theorem tokensFrom_of_full {count : Nat} (hcount : maxTokens ≤ count) {cs : List Char}
    (hcs : cs ≠ []) (offset : Nat) : tokensFrom offset count cs = .error .tooLong := by
  obtain ⟨c, rest, rfl⟩ := List.exists_cons_of_ne_nil hcs
  rw [tokensFrom, if_pos hcount]

/-- Tokens with blanks between them are cut as they were written, up to the limit: there, nothing
may follow the last token. -/
theorem Spaced.tokensFrom_eq {tail cs : List Char} {ts : List Token} (h : Spaced tail cs ts)
    (offset : Nat) {count : Nat} (hcount : count ≤ maxTokens) :
    tokensFrom offset count cs =
      if count + ts.length < maxTokens ∨ count + ts.length = maxTokens ∧ tail = [] then .ok ts
      else .error .tooLong := by
  induction h generalizing offset count with
  | nil hblanks =>
    rcases Nat.lt_or_eq_of_le hcount with hless | hfull
    · have hcut := tokensFrom_blanks hblanks offset hless []
      rw [List.append_nil, tokensFrom] at hcut
      rw [hcut, if_pos (Or.inl (by simpa using hless))]
    · by_cases htail : tail = []
      · rw [htail, tokensFrom, if_pos (Or.inr ⟨by simpa using hfull, rfl⟩)]
      · rw [tokensFrom_of_full (Nat.le_of_eq hfull.symm) htail, if_neg]
        simp [hfull, htail]
  | @cons gap chars rest t ts hgap hchars hapart _ ih =>
    rcases Nat.lt_or_eq_of_le hcount with hless | hfull
    · obtain ⟨c, cs, rfl⟩ := List.exists_cons_of_ne_nil hchars.ne_nil
      have hleads : t.Leads (c :: (cs ++ rest)) rest := ⟨_, hchars, rfl, hapart.not_goesOn⟩
      have hlexeme := lexeme_of_leads hleads (offset + gap.length)
      rw [tokensFrom_blanks hgap offset hless, List.cons_append,
        tokensFrom_cons hless hlexeme fun offset => ih offset hless]
      rw [List.length_cons, Nat.add_comm ts.length 1, ← Nat.add_assoc]
      split <;> rfl
    · have hcs : gap ++ (chars ++ rest) ≠ [] := by simp [hchars.ne_nil]
      rw [tokensFrom_of_full (Nat.le_of_eq hfull.symm) hcs, if_neg]
      rw [List.length_cons]
      omega

theorem Spaced.tokenize_eq {source : String} {tail : List Char} {ts : List Token}
    (h : Spaced tail source.toList ts) :
    tokenize source =
      if ts.length < maxTokens ∨ ts.length = maxTokens ∧ tail = [] then .ok ts
      else .error .tooLong := by
  have hcut := h.tokensFrom_eq 0 (Nat.zero_le maxTokens)
  rwa [Nat.zero_add] at hcut

/-- What is cut into tokens is those tokens with blanks between them. -/
theorem exists_spaced {offset count : Nat} {cs : List Char} {ts : List Token}
    (h : tokensFrom offset count cs = .ok ts) : ∃ tail, Spaced tail cs ts := by
  fun_induction tokensFrom offset count cs generalizing ts with
  | case1 =>
    cases h
    exact ⟨[], .nil nofun⟩
  | case2 => cases h
  | case3 => cases h
  | case4 offset count c rest hcount after hlexeme ih =>
    obtain ⟨hblank, rfl⟩ := lexeme_eq_blank_iff.mp hlexeme
    obtain ⟨tail, htail⟩ := ih h
    cases htail with
    | nil hblanks => exact ⟨c :: after, .nil (List.forall_mem_cons.mpr ⟨hblank, hblanks⟩)⟩
    | cons hgap hchars hapart hrest =>
      have hc : Blanks [c] := List.forall_mem_singleton.mpr hblank
      exact ⟨tail, (Spaced.cons hgap hchars hapart hrest).prepend hc⟩
  | case5 => cases h
  | case6 offset count c rest hcount t after hlexeme others hothers ih =>
    cases h
    obtain ⟨chars, hchars, hjoin, hstops⟩ := lexeme_eq_token_iff.mp hlexeme
    obtain ⟨tail, htail⟩ := ih hothers
    rw [hjoin]
    exact ⟨tail, .flush hchars (Or.inr hstops) htail⟩

/-- What is cut into tokens is within the limit. -/
theorem Spaced.within {source : String} {tail : List Char} {ts : List Token}
    (h : Spaced tail source.toList ts) (hsource : tokenize source = .ok ts) :
    ts.length < maxTokens ∨ ts.length = maxTokens ∧ tail = [] := by
  by_contra hover
  rw [h.tokenize_eq, if_neg hover] at hsource
  cases hsource

theorem length_le_of_tokenize {source : String} {ts : List Token} (h : tokenize source = .ok ts) :
    ts.length ≤ maxTokens := by
  obtain ⟨tail, htail⟩ := exists_spaced h
  rcases htail.within h with hless | ⟨hfull, -⟩
  · exact Nat.le_of_lt hless
  · exact Nat.le_of_eq hfull

/-- A script of tokens with blanks between them is cut into these tokens if they are fewer than the
limit, and refused if they are more.  If they are as many, it depends on whether a blank follows the
last: blanks after a script that can be cut make no difference but there. -/
theorem tokenize_spacing (source : String) (ts : List Token) :
    (∀ tail : List Char, Spaced tail source.toList ts →
      tokenize source =
        if ts.length < maxTokens ∨ ts.length = maxTokens ∧ tail = [] then .ok ts
        else .error .tooLong) ∧
    (tokenize source = .ok ts → ∀ blanks : String, Blanks blanks.toList →
      tokenize (source ++ blanks) =
        if ts.length < maxTokens ∨ blanks = "" then .ok ts else .error .tooLong) := by
  refine ⟨fun tail h => h.tokenize_eq, ?_⟩
  intro hsource blanks hblanks
  obtain ⟨tail, htail⟩ := exists_spaced hsource
  have hmore : Spaced (tail ++ blanks.toList) (source ++ blanks).toList ts := by
    rw [String.toList_append]
    exact htail.append hblanks
  rw [hmore.tokenize_eq]
  rcases htail.within hsource with hless | ⟨hfull, rfl⟩
  · rw [if_pos (Or.inl hless), if_pos (Or.inl hless)]
  · have hempty : blanks.toList = [] ↔ blanks = "" := by simp
    simp [hfull, hempty]

/-- Three tokens of which the last two need no blank between them, as they are written. -/
theorem spaced_sample :
    Spaced [' '] "\tid <='it\\'s' ".toList [.ident "id", .lessEqual, .text "it's"] := by
  have hletters : "id" = String.ofList ['i', 'd'] := rfl
  have hname : (Token.ident "id").WrittenAs ['i', 'd'] :=
    hletters ▸ .ident (by decide) (List.forall_mem_singleton.mpr (by decide))
  have htext : (Token.text "it's").WrittenAs ('\'' :: (['i', 't', '\\', '\'', 's'] ++ ['\''])) :=
    .text .single (.plain (by decide) (by decide) (.plain (by decide) (by decide)
      (.escaped '\'' (.plain (by decide) (by decide) .nil))))
  have hmark : Token.lessEqual.WrittenAs ['<', '='] := .mark (fun _ => .single) trivial
  have hspace : Blanks [' '] := by decide
  have htab : Blanks ['\t'] := by decide
  exact .cons htab hname (Or.inl ⟨' ', rfl, by decide⟩)
    (.cons hspace hmark (Or.inr id) (.flush htext (Or.inr id) (.nil hspace)))

theorem tokenize_spacing_of_sample :
    Spaced [' '] "\tid <='it\\'s' ".toList [.ident "id", .lessEqual, .text "it's"] ∧
      tokenize "\tid <='it\\'s' " = .ok [.ident "id", .lessEqual, .text "it's"] ∧
      Blanks "\n\u3000".toList ∧
      tokenize ("\tid <='it\\'s' " ++ "\n\u3000") =
        .ok [.ident "id", .lessEqual, .text "it's"] := by
  have hless : [Token.ident "id", .lessEqual, .text "it's"].length < maxTokens := by decide
  have hsource : tokenize "\tid <='it\\'s' " = .ok [.ident "id", .lessEqual, .text "it's"] :=
    ((tokenize_spacing _ _).1 _ spaced_sample).trans (if_pos (Or.inl hless))
  have hblanks : Blanks "\n\u3000".toList := by decide
  exact ⟨spaced_sample, hsource, hblanks,
    ((tokenize_spacing _ _).2 hsource _ hblanks).trans (if_pos (Or.inl hless))⟩

/-- Parentheses need no blanks between them. -/
theorem spaced_parentheses {tail : List Char} (htail : Blanks tail) (n : Nat) :
    Spaced tail (List.replicate n '(' ++ tail) (List.replicate n .openParen) := by
  have hmark : Token.openParen.WrittenAs ['('] := .mark (fun _ => .double) trivial
  induction n with
  | zero => exact .nil htail
  | succ n ih =>
    show Spaced tail (['('] ++ (List.replicate n '(' ++ tail)) (.openParen :: List.replicate n _)
    exact .flush hmark (Or.inr id) ih

/-- As many tokens as there can be, and then a blank. -/
theorem refuses_blank_at_limit :
    tokenize (String.ofList (List.replicate 4096 '(')) = .ok (List.replicate 4096 .openParen) ∧
      tokenize (String.ofList (List.replicate 4096 '(') ++ " ") = .error .tooLong := by
  have hnone : Blanks [] := nofun
  have hblank : Blanks [' '] := by decide
  have hsource : Spaced [] (String.ofList (List.replicate 4096 '(')).toList
      (List.replicate 4096 .openParen) := by
    rw [String.toList_ofList, ← List.append_nil (List.replicate 4096 '(')]
    exact spaced_parentheses hnone 4096
  have hmore : Spaced [' '] (String.ofList (List.replicate 4096 '(') ++ " ").toList
      (List.replicate 4096 .openParen) := by
    rw [String.toList_append, String.toList_ofList]
    exact spaced_parentheses hblank 4096
  rw [hsource.tokenize_eq, hmore.tokenize_eq, List.length_replicate]
  exact ⟨if_pos (Or.inr ⟨rfl, rfl⟩), if_neg (by decide)⟩

end HttpScenario.Script
