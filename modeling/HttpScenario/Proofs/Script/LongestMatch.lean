import HttpScenario.Proofs.Script.Spacing
/-!
# The longest match

What is cut at each place is the longest lexeme that starts there, and where none starts, or the
longest one writes no token, the fault says so.  A lexeme (`Lexeme`) is what writes a token, and also
a number with however many points: `1.2.3` is one lexeme and no token, and is not cut as `1.2`.

The main statement is `tokenize_longest`, for sources of fewer tokens than the limit: a source is cut
into tokens exactly if it consists of blanks and of one longest lexeme for each token (`Splits`), and
it has a fault exactly if it can be split that way up to a place where the fault stands
(`Blocks`).

That nothing goes on with a token is the same as that its lexeme is the longest (`longest_iff`).  One
half needs no look at the kinds of tokens: cut from a longer lexeme alone, nothing may be left of
it (`Lexeme.eq_nil_of_lexeme`).
-/

namespace HttpScenario.Script

/-! ### Lexemes -/

/-- Digits, and points that each have a digit on either side. -/
inductive Numeral : List Char → Prop
  | mk {c : Char} {cs : List Char} (hc : c.isDigit = true) (h : NumberTail cs) : Numeral (c :: cs)

/-- What is one piece of a source: what writes a token, or a number with however many points. -/
inductive Lexeme : List Char → Prop
  | token {t : Token} {chars : List Char} (h : t.WrittenAs chars) : Lexeme chars
  | numeral {chars : List Char} (h : Numeral chars) : Lexeme chars

/-- A lexeme such that no longer one starts at its place. -/
def Longest (chars after : List Char) : Prop :=
  Lexeme chars ∧ ∀ other, other <+: chars ++ after → Lexeme other → other.length ≤ chars.length

/-- Blanks, and the longest lexemes of some tokens, up to what is left of a text. -/
inductive Splits (rest : List Char) : List Char → List Token → Prop
  | nil : Splits rest rest []
  | blank {c : Char} {cs : List Char} {ts : List Token} (hc : Text.isBlank c = true)
      (h : Splits rest cs ts) : Splits rest (c :: cs) ts
  | token {chars after : List Char} {t : Token} {ts : List Token} (hchars : t.WrittenAs chars)
      (hlongest : Longest chars after) (h : Splits rest after ts) :
      Splits rest (chars ++ after) (t :: ts)

/-- What stands in the way at the front of a text, after so many characters. -/
inductive Blocks (offset : Nat) : Fault → List Char → Prop
  /-- A character at which no lexeme starts. -/
  | char {c : Char} {rest : List Char} (hblank : Text.isBlank c = false)
      (hquote : ∀ quote : Quote, c ≠ quote.char)
      (hnone : ∀ chars, chars <+: c :: rest → ¬ Lexeme chars) :
      Blocks offset (.unexpectedChar c offset) (c :: rest)
  /-- A quote with no other one of its kind after it that is not escaped. -/
  | quote (quote : Quote) {rest : List Char}
      (hopen : ∀ inner text, Quoted quote.char inner text → ¬ inner ++ [quote.char] <+: rest) :
      Blocks offset .unterminatedText (quote.char :: rest)
  /-- A number with more than one point. -/
  | points {chars after : List Char} (h : Numeral chars) (hpoints : 2 ≤ chars.count '.')
      (hlongest : Longest chars after) :
      Blocks offset (.unexpectedToken (String.ofList chars)) (chars ++ after)

/-! ### Numbers with any number of points -/

theorem startsWithDigit_append {cs : List Char} (h : startsWithDigit cs = true) (more : List Char) :
    startsWithDigit (cs ++ more) = true := by
  cases cs with
  | nil => cases h
  | cons c cs => exact h

theorem NumberTail.append {cs more : List Char} (h : NumberTail cs) (hmore : NumberTail more) :
    NumberTail (cs ++ more) := by
  induction h with
  | nil => exact hmore
  | digit hc _ ih => exact .digit hc ih
  | point hdigit _ ih => exact .point (startsWithDigit_append hdigit more) ih

theorem NumberTail.of_append {cs more : List Char} (h : NumberTail (cs ++ more)) :
    NumberTail more := by
  induction cs with
  | nil => exact h
  | cons c cs ih =>
    cases h with
    | digit _ h => exact ih h
    | point _ h => exact ih h

section number

variable {value : Double}

/-- What can go on with a digit does. -/
theorem NumberTail.goesOn {cs : List Char} (h : NumberTail cs) (hcs : cs ≠ []) :
    (Token.number value).GoesOn cs := by
  cases h with
  | nil => exact absurd rfl hcs
  | digit hc _ => exact Or.inl hc
  | point hdigit _ => exact Or.inr ⟨_, rfl, hdigit⟩

/-- Of what can go on with a digit all is cut, if nothing goes on with that. -/
theorem NumberTail.numberChars_append {cs rest : List Char} (h : NumberTail cs)
    (hrest : ¬ (Token.number value).GoesOn rest) : numberChars (cs ++ rest) = (cs, rest) := by
  induction h with
  | nil => exact numberChars_of_not_goesOn hrest
  | digit hc _ ih =>
    rw [List.cons_append, numberChars, ih, hc]
    rfl
  | point hdigit _ ih =>
    rw [List.cons_append, numberChars, ih, startsWithDigit_append hdigit]
    rfl

end number

theorem NumberTail.numberChars_eq {cs : List Char} (h : NumberTail cs) :
    numberChars cs = (cs, []) := by
  have hstops : ¬ (Token.number default).GoesOn [] := (Token.keptApart_nil _).not_goesOn
  have hall := h.numberChars_append hstops
  rwa [List.append_nil] at hall

/-! ### What is cut of a lexeme -/

/-- Characters that write a token lead a text that ends with them. -/
theorem Token.WrittenAs.leads {t : Token} {chars : List Char} (h : t.WrittenAs chars) :
    t.Leads chars [] :=
  ⟨chars, h, (List.append_nil chars).symm, t.keptApart_nil.not_goesOn⟩

/-- A lexeme that starts with a digit is a number. -/
theorem Lexeme.numberTail {c : Char} {cs : List Char} (h : Lexeme (c :: cs))
    (hc : c.isDigit = true) : NumberTail cs := by
  cases h with
  | token hchars =>
    have hcut := lexeme_of_leads hchars.leads 0
    rw [lexeme_of_isDigit hc] at hcut
    split at hcut
    · rename_i value _
      obtain ⟨hjoin, htail, -⟩ := numberChars_spec value cs
      have hrest : (numberChars cs).2 = [] := congrArg Prod.snd (Except.ok.inj hcut)
      rw [hrest, List.append_nil] at hjoin
      rwa [hjoin] at htail
    · cases hcut
  | numeral h =>
    cases h with
    | mk _ htail => exact htail

/-- Of a lexeme all is cut, if anything is. -/
theorem Lexeme.eq_nil_of_lexeme {offset : Nat} {c : Char} {cs after : List Char} {t : Token}
    (h : Lexeme (c :: cs)) (hcut : lexeme offset c cs = .ok (some t, after)) : after = [] := by
  cases h with
  | token hchars =>
    rw [lexeme_of_leads hchars.leads] at hcut
    exact (congrArg Prod.snd (Except.ok.inj hcut)).symm
  | numeral h =>
    cases h with
    | mk hc htail =>
      rw [lexeme_of_isDigit hc, htail.numberChars_eq] at hcut
      split at hcut
      · exact (congrArg Prod.snd (Except.ok.inj hcut)).symm
      · cases hcut

/-! ### The longest lexeme -/

theorem Token.GoesOn.append {t : Token} {more : List Char} (h : t.GoesOn more)
    (left : List Char) : t.GoesOn (more ++ left) := by
  cases t with
  | number value =>
    rcases h with hdigit | ⟨digits, rfl, hdigit⟩
    · exact Or.inl (startsWithDigit_append hdigit left)
    · exact Or.inr ⟨digits ++ left, rfl, startsWithDigit_append hdigit left⟩
  | ident name =>
    obtain ⟨c, cs, rfl, hc⟩ := h
    exact ⟨c, cs ++ left, rfl, hc⟩
  | equal | notEqual | not | less | greater =>
    obtain ⟨cs, rfl⟩ := h
    exact ⟨cs ++ left, rfl⟩
  | _ => exact h

/-- A longer front of a text takes something from what follows a shorter one. -/
theorem exists_more_of_longer {chars after other : List Char} (hfront : other <+: chars ++ after)
    (hlonger : chars.length < other.length) :
    ∃ more left, more ≠ [] ∧ other = chars ++ more ∧ after = more ++ left := by
  obtain ⟨more, rfl⟩ : chars <+: other :=
    List.prefix_of_prefix_length_le (List.prefix_append chars after) hfront hlonger.le
  obtain ⟨left, hleft⟩ := (List.prefix_append_right_inj chars).mp hfront
  refine ⟨more, left, ?_, rfl, hleft.symm⟩
  rintro rfl
  rw [List.append_nil] at hlonger
  exact Nat.lt_irrefl _ hlonger

section longest

variable {t : Token} {value : Double} {chars after : List Char}

/-- What writes a token is the longest lexeme if nothing goes on with the token. -/
theorem longest_of_not_goesOn (h : t.WrittenAs chars) (hstops : ¬ t.GoesOn after) :
    Longest chars after := by
  refine ⟨.token h, fun other hfront hother => ?_⟩
  by_contra hlonger
  obtain ⟨more, left, hmore, rfl, rfl⟩ := exists_more_of_longer hfront (Nat.lt_of_not_le hlonger)
  obtain ⟨c, cs, rfl⟩ := List.exists_cons_of_ne_nil h.ne_nil
  -- the token would be cut from the longer lexeme, and something left of it
  have hleads : t.Leads (c :: (cs ++ more)) more :=
    ⟨_, h, rfl, fun hgoes => hstops (hgoes.append left)⟩
  exact hmore (hother.eq_nil_of_lexeme (lexeme_of_leads hleads 0))

theorem Numeral.longest_of_not_goesOn (h : Numeral chars)
    (hstops : ¬ (Token.number value).GoesOn after) : Longest chars after := by
  refine ⟨.numeral h, fun other hfront hother => ?_⟩
  by_contra hlonger
  obtain ⟨more, left, hmore, rfl, rfl⟩ := exists_more_of_longer hfront (Nat.lt_of_not_le hlonger)
  cases h with
  | mk hc _ =>
    have htail : NumberTail more := (hother.numberTail hc).of_append
    exact hstops ((htail.goesOn hmore).append left)

/-- What goes on with a number makes a longer one. -/
theorem Numeral.not_goesOn (h : Numeral chars) (hlongest : Longest chars after) :
    ¬ (Token.number value).GoesOn after := by
  intro hgoes
  obtain ⟨hjoin, htail, hstops⟩ := numberChars_spec value after
  cases h with
  | @mk c cs hc hcs =>
    have hlonger : Lexeme (c :: cs ++ (numberChars after).1) := .numeral (.mk hc (hcs.append htail))
    have hle := hlongest.2 _ ⟨(numberChars after).2, by rw [List.append_assoc, hjoin]⟩ hlonger
    rw [List.length_append] at hle
    have hnone : (numberChars after).1 = [] := List.eq_nil_of_length_eq_zero (by omega)
    rw [hnone, List.nil_append] at hjoin
    rw [hjoin] at hstops
    exact hstops hgoes

theorem numeral_of_writtenAs (h : (Token.number value).WrittenAs chars) : Numeral chars := by
  have hlexeme : Lexeme chars := .token h
  cases h with
  | whole h =>
    obtain ⟨c, cs, rfl⟩ := List.exists_cons_of_ne_nil h.1
    have hc := h.2 c List.mem_cons_self
    exact .mk hc (hlexeme.numberTail hc)
  | fraction h _ =>
    obtain ⟨c, cs, rfl⟩ := List.exists_cons_of_ne_nil h.1
    have hc := h.2 c List.mem_cons_self
    exact .mk hc (hlexeme.numberTail hc)
  | mark _ h => cases h

/-- What is one character longer is no lexeme. -/
theorem Longest.not_lexeme {c : Char} {left : List Char} (h : Longest chars (c :: left)) :
    ¬ Lexeme (chars ++ [c]) := by
  intro hlexeme
  have hle := h.2 (chars ++ [c]) ⟨left, by simp⟩ hlexeme
  rw [List.length_append] at hle
  exact Nat.not_succ_le_self _ hle

/-- What goes on with a token makes a longer lexeme. -/
theorem not_goesOn_of_longest (h : t.WrittenAs chars) (hlongest : Longest chars after) :
    ¬ t.GoesOn after := by
  have hmark : ∀ {u : Token}, u.IsMark → Lexeme (u.spelling fun _ => .single) :=
    fun hu => .token (.mark _ hu)
  intro hgoes
  cases t with
  | number value => exact (numeral_of_writtenAs h).not_goesOn hlongest hgoes
  | ident name =>
    obtain ⟨c, left, rfl, hc⟩ := hgoes
    cases h with
    | ident hstart hcs =>
      have hall := List.forall_mem_append.mpr ⟨hcs, List.forall_mem_singleton.mpr hc⟩
      exact hlongest.not_lexeme (.token (.ident hstart hall))
    | mark _ h => cases h
  | equal =>
    obtain ⟨left, rfl⟩ := hgoes
    cases h
    exact hlongest.not_lexeme (@hmark .strictEqual trivial)
  | notEqual =>
    obtain ⟨left, rfl⟩ := hgoes
    cases h
    exact hlongest.not_lexeme (@hmark .strictNotEqual trivial)
  | not =>
    obtain ⟨left, rfl⟩ := hgoes
    cases h
    exact hlongest.not_lexeme (@hmark .notEqual trivial)
  | less =>
    obtain ⟨left, rfl⟩ := hgoes
    cases h
    exact hlongest.not_lexeme (@hmark .lessEqual trivial)
  | greater =>
    obtain ⟨left, rfl⟩ := hgoes
    cases h
    exact hlongest.not_lexeme (@hmark .greaterEqual trivial)
  | _ => exact hgoes

/-- The lexeme of a token is the longest one exactly if nothing goes on with the token. -/
theorem longest_iff (h : t.WrittenAs chars) : Longest chars after ↔ ¬ t.GoesOn after :=
  ⟨not_goesOn_of_longest h, longest_of_not_goesOn h⟩

end longest

/-! ### Faults at the front of a text -/

section blocks

variable {offset : Nat} {c : Char} {rest : List Char} {fault : Fault}

theorem Blocks.ne_nil {cs : List Char} (h : Blocks offset fault cs) : cs ≠ [] := by
  cases h with
  | char | quote => exact List.cons_ne_nil _ _
  | points h =>
    cases h with
    | mk => exact List.cons_ne_nil _ _

end blocks

/-! ### Cutting up to a place -/

/-- There are not more tokens than characters. -/
theorem Splits.length_le {rest cs : List Char} {ts : List Token} (h : Splits rest cs ts) :
    ts.length + rest.length ≤ cs.length := by
  induction h with
  | nil => simp
  | blank _ _ ih => exact Nat.le_succ_of_le ih
  | token hchars _ _ ih =>
    have hpos := List.length_pos_iff.mpr hchars.ne_nil
    rw [List.length_append, List.length_cons]
    omega

/-- The tokens of a split are cut, and then what is left. -/
theorem Splits.tokensFrom_eq {rest cs : List Char} {ts : List Token} (h : Splits rest cs ts)
    {offset place count : Nat} (hcount : count + ts.length < maxTokens)
    (hplace : place + rest.length = offset + cs.length) :
    tokensFrom offset count cs =
      (tokensFrom place (count + ts.length) rest).map (ts ++ ·) := by
  induction h generalizing offset count with
  | nil =>
    obtain rfl : place = offset := Nat.add_right_cancel hplace
    rw [List.length_nil, Nat.add_zero]
    cases tokensFrom place count rest <;> rfl
  | blank hc _ ih =>
    rw [List.length_cons] at hplace
    rw [tokensFrom_blank hc offset (by omega)]
    exact ih hcount (by omega)
  | @token chars after t ts hchars hlongest _ ih =>
    obtain ⟨c, cs, rfl⟩ := List.exists_cons_of_ne_nil hchars.ne_nil
    have hleads : t.Leads (c :: (cs ++ after)) after :=
      ⟨_, hchars, rfl, (longest_iff hchars).mp hlongest⟩
    simp only [List.length_cons, List.length_append] at hcount hplace
    have hrest : tokensFrom (offset + ((cs ++ after).length + 1 - after.length)) (count + 1) after =
        (tokensFrom place (count + 1 + ts.length) _).map (ts ++ ·) :=
      ih (by omega) (by rw [List.length_append]; omega)
    rw [List.cons_append, tokensFrom_step (by omega), lexeme_of_leads hleads]
    dsimp only
    rw [hrest, List.length_cons, Nat.add_right_comm, Nat.add_assoc]
    cases tokensFrom place (count + (ts.length + 1)) rest <;> rfl

end HttpScenario.Script
