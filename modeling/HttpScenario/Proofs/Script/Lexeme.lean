import HttpScenario.Proofs.Double.Decimal
import HttpScenario.Proofs.Text.Letter
import HttpScenario.Script.Lexer
/-!
# What writes a token

`Token.WrittenAs` says which characters write a token, and `Token.GoesOn` what may not follow them
directly, because it would be cut as part of the token.  A token `Leads` a text if it is written at
its front and nothing that follows goes on with it.  The main statement is `lexeme_eq_token_iff`:
what is cut from the front of a text is the token that leads it.

There is one part for each kind of token: the digits of a number, what stands between quotes, the
marks, and the letters of a name.  What a character is decides which kind of token it starts.
-/

namespace HttpScenario.Script

/-! ### Writing a token -/

/-- The two kinds of quotes. -/
inductive Quote where
  | double
  | single
  deriving DecidableEq, Repr

/-- The character of a quote. -/
def Quote.char : Quote → Char
  | .double => '"'
  | .single => '\''

/-- A character between quotes: the quote itself and the backslash are escaped. -/
def Quote.escape (quote : Quote) (c : Char) : List Char :=
  if c = quote.char ∨ c = '\\' then ['\\', c] else [c]

/-- The characters of a token.  A number is written by the digits of its whole part, and each text
may choose its quotes. -/
def Token.spelling (quote : String → Quote) : Token → List Char
  | .number value => Double.decimalDigits (value.truncate?.getD 0).natAbs
  | .text value =>
    (quote value).char :: (value.toList.flatMap (quote value).escape ++ [(quote value).char])
  | .ident name => name.toList
  | .dot => ['.']
  | .openBracket => ['[']
  | .closeBracket => [']']
  | .openParen => ['(']
  | .closeParen => [')']
  | .not => ['!']
  | .minus => ['-']
  | .and => ['&', '&']
  | .or => ['|', '|']
  | .equal => ['=', '=']
  | .strictEqual => ['=', '=', '=']
  | .notEqual => ['!', '=']
  | .strictNotEqual => ['!', '=', '=']
  | .less => ['<']
  | .lessEqual => ['<', '=']
  | .greater => ['>']
  | .greaterEqual => ['>', '=']

/-- What stands between two quotes, and the characters that it stands for. -/
inductive Quoted (quote : Char) : List Char → List Char → Prop
  | nil : Quoted quote [] []
  | plain {c : Char} {cs text : List Char} (hquote : c ≠ quote) (hslash : c ≠ '\\')
      (h : Quoted quote cs text) : Quoted quote (c :: cs) (c :: text)
  | escaped (c : Char) {cs text : List Char} (h : Quoted quote cs text) :
      Quoted quote ('\\' :: c :: cs) (unescape c :: text)

/-- The tokens that are written in one way only. -/
def Token.IsMark : Token → Prop
  | .number _ => False
  | .text _ => False
  | .ident _ => False
  | _ => True

/-- The characters that write a token. -/
inductive Token.WrittenAs : Token → List Char → Prop
  | whole {digits : List Char} (h : Double.Digits digits) :
      WrittenAs (.number (Double.ofDecimal false (Double.digitsValue digits) 0)) digits
  | fraction {digits more : List Char} (h : Double.Digits digits) (hmore : Double.Digits more) :
      WrittenAs (.number (Double.ofDecimal false (Double.digitsValue (digits ++ more))
        (-(more.length : Int)))) (digits ++ '.' :: more)
  | text (quote : Quote) {inner text : List Char} (h : Quoted quote.char inner text) :
      WrittenAs (.text (String.ofList text)) (quote.char :: (inner ++ [quote.char]))
  | ident {c : Char} {cs : List Char} (hc : startsName c = true)
      (hcs : ∀ d ∈ cs, continuesName d = true) :
      WrittenAs (.ident (String.ofList (c :: cs))) (c :: cs)
  | mark (quote : String → Quote) {t : Token} (h : t.IsMark) : WrittenAs t (t.spelling quote)

/-- What follows a token directly would be cut as part of it. -/
def Token.GoesOn : Token → List Char → Prop
  | .number _, rest =>
    startsWithDigit rest = true ∨ ∃ more, rest = '.' :: more ∧ startsWithDigit more = true
  | .ident _, rest => ∃ c more, rest = c :: more ∧ continuesName c = true
  | .equal, rest => ∃ more, rest = '=' :: more
  | .notEqual, rest => ∃ more, rest = '=' :: more
  | .not, rest => ∃ more, rest = '=' :: more
  | .less, rest => ∃ more, rest = '=' :: more
  | .greater, rest => ∃ more, rest = '=' :: more
  | _, _ => False

/-- A token is written at the front of a text, and nothing that follows it, `after`, goes on with
it. -/
def Token.Leads (t : Token) (chars after : List Char) : Prop :=
  ∃ written, t.WrittenAs written ∧ chars = written ++ after ∧ ¬ t.GoesOn after

theorem Token.spelling_ne_nil_of_isMark (quote : String → Quote) {t : Token} (h : t.IsMark) :
    t.spelling quote ≠ [] := by
  cases t with
  | number | text | ident => cases h
  | _ => exact List.cons_ne_nil _ _

theorem Token.WrittenAs.ne_nil {t : Token} {chars : List Char} (h : t.WrittenAs chars) :
    chars ≠ [] := by
  cases h with
  | whole h => exact h.1
  | fraction h hmore => simp
  | text quote h => exact List.cons_ne_nil _ _
  | ident hc hcs => exact List.cons_ne_nil _ _
  | mark quote h => exact spelling_ne_nil_of_isMark quote h

/-! ### Numbers -/

theorem numberChars_append {digits : List Char} (h : ∀ c ∈ digits, c.isDigit = true)
    (rest : List Char) :
    numberChars (digits ++ rest) = (digits ++ (numberChars rest).1, (numberChars rest).2) := by
  induction digits with
  | nil => rfl
  | cons c digits ih =>
    rw [List.cons_append, numberChars, ih fun d hd => h d (List.mem_cons_of_mem c hd),
      h c List.mem_cons_self]
    rfl

theorem startsWithDigit_numberChars {rest : List Char} (h : startsWithDigit rest = true) :
    startsWithDigit (numberChars rest).1 = true := by
  cases rest with
  | nil => cases h
  | cons c rest =>
    have hc : c.isDigit = true := h
    rw [numberChars, hc]
    exact hc

/-- What can go on with a digit: digits, and points that each have a digit behind them. -/
inductive NumberTail : List Char → Prop
  | nil : NumberTail []
  | digit {c : Char} {cs : List Char} (hc : c.isDigit = true) (h : NumberTail cs) :
      NumberTail (c :: cs)
  | point {cs : List Char} (hdigit : startsWithDigit cs = true) (h : NumberTail cs) :
      NumberTail ('.' :: cs)

/-- The digits before the first point, if there is one. -/
theorem NumberTail.split {cs : List Char} (h : NumberTail cs) :
    ∃ digits, (∀ c ∈ digits, c.isDigit = true) ∧
      (cs = digits ∨ ∃ d more, d.isDigit = true ∧ cs = digits ++ '.' :: d :: more ∧
        NumberTail more) := by
  induction h with
  | nil => exact ⟨[], nofun, Or.inl rfl⟩
  | @digit c cs hc h ih =>
    obtain ⟨digits, hdigits, hcs⟩ := ih
    refine ⟨c :: digits, List.forall_mem_cons.mpr ⟨hc, hdigits⟩, ?_⟩
    rcases hcs with rfl | ⟨d, more, hd, rfl, hmore⟩
    · exact Or.inl rfl
    · exact Or.inr ⟨d, more, hd, rfl, hmore⟩
  | point hdigit h ih =>
    cases h with
    | nil => cases hdigit
    | digit hc h => exact ⟨[], nofun, Or.inr ⟨_, _, hc, rfl, h⟩⟩
    | point _ _ => exact absurd hdigit (by simp [startsWithDigit])

section number

variable {value : Double}

/-- Nothing is cut as a part of a number if it does not go on with it. -/
theorem numberChars_of_not_goesOn {rest : List Char} (h : ¬ (Token.number value).GoesOn rest) :
    numberChars rest = ([], rest) := by
  cases rest with
  | nil => rfl
  | cons c rest =>
    obtain ⟨hdigit, hpoint⟩ := not_or.mp h
    have hcond : ¬ (c.isDigit || (c == '.' && startsWithDigit rest)) = true := by
      rw [Bool.or_eq_true, Bool.and_eq_true, beq_iff_eq]
      rintro (hc | ⟨rfl, hrest⟩)
      · exact hdigit hc
      · exact hpoint ⟨rest, rfl, hrest⟩
    rw [numberChars, if_neg hcond]

/-- What is cut as a part of a number runs as far as it can. -/
theorem numberChars_spec (value : Double) (rest : List Char) :
    (numberChars rest).1 ++ (numberChars rest).2 = rest ∧ NumberTail (numberChars rest).1 ∧
      ¬ (Token.number value).GoesOn (numberChars rest).2 := by
  induction rest with
  | nil => exact ⟨rfl, .nil, by rintro (h | ⟨more, h, -⟩) <;> cases h⟩
  | cons c rest ih =>
    obtain ⟨hjoin, htail, hstops⟩ := ih
    rw [numberChars]
    split
    · rename_i hc
      refine ⟨congrArg (c :: ·) hjoin, ?_, hstops⟩
      rw [Bool.or_eq_true, Bool.and_eq_true, beq_iff_eq] at hc
      rcases hc with hc | ⟨rfl, hdigit⟩
      · exact .digit hc htail
      · exact .point (startsWithDigit_numberChars hdigit) htail
    · rename_i hc
      refine ⟨rfl, .nil, ?_⟩
      rw [Bool.or_eq_true, Bool.and_eq_true, beq_iff_eq] at hc
      rintro (hdigit | ⟨more, heq, hdigit⟩)
      · exact hc (Or.inl hdigit)
      · obtain ⟨rfl, rfl⟩ := List.cons.inj heq
        exact hc (Or.inr ⟨rfl, hdigit⟩)

/-- A digit and what goes on with it are read as a number if they write one. -/
theorem writtenAs_of_read? {c : Char} (hc : c.isDigit = true) {cs : List Char}
    (htail : NumberTail cs) (hread : Double.read? (String.ofList (c :: cs)) = some value) :
    (Token.number value).WrittenAs (c :: cs) := by
  obtain ⟨digits, hdigits, rfl | ⟨d, more, hd, rfl, hmore⟩⟩ := htail.split
  · have hall := Double.Digits.cons hc hdigits
    rw [Double.read?_digits hall] at hread
    obtain rfl := Option.some.inj hread
    exact .whole hall
  · have hall := Double.Digits.cons hc hdigits
    rw [← List.cons_append] at hread ⊢
    obtain ⟨others, hothers, rfl | ⟨e, further, he, rfl, -⟩⟩ := hmore.split
    · have hfraction := Double.Digits.cons hd hothers
      rw [Double.read?_fraction hall hfraction] at hread
      obtain rfl := Option.some.inj hread
      exact .fraction hall hfraction
    · -- a second point
      have hfraction := Double.Digits.cons hd hothers
      have hnone := Double.read?_second_point hall hfraction (e :: further)
      cases hnone.symm.trans hread

theorem lexeme_of_isDigit {c : Char} (hc : c.isDigit = true) (offset : Nat) (rest : List Char) :
    lexeme offset c rest =
      match Double.read? (String.ofList (c :: (numberChars rest).1)) with
      | some value => .ok (some (.number value), (numberChars rest).2)
      | none => .error (.unexpectedToken (String.ofList (c :: (numberChars rest).1))) := by
  have hblank : ¬ Text.isBlank c = true := by
    rw [Text.isBlank_eq_false_of_isDigit hc]
    exact Bool.false_ne_true
  exact (if_neg hblank).trans (if_pos hc)

/-- The digits of a number are cut as that number if nothing goes on with it. -/
theorem lexeme_of_whole {c : Char} {cs rest : List Char} (h : Double.Digits (c :: cs))
    (hrest : ¬ (Token.number value).GoesOn rest) (offset : Nat) :
    lexeme offset c (cs ++ rest) =
      .ok (some (.number (Double.ofDecimal false (Double.digitsValue (c :: cs)) 0)), rest) := by
  obtain ⟨hc, hcs⟩ := List.forall_mem_cons.mp h.2
  rw [lexeme_of_isDigit hc, numberChars_append hcs, numberChars_of_not_goesOn hrest,
    List.append_nil, Double.read?_digits h]

theorem lexeme_of_fraction {c : Char} {cs more rest : List Char} (h : Double.Digits (c :: cs))
    (hmore : Double.Digits more) (hrest : ¬ (Token.number value).GoesOn rest) (offset : Nat) :
    lexeme offset c (cs ++ '.' :: (more ++ rest)) =
      .ok (some (.number (Double.ofDecimal false (Double.digitsValue (c :: cs ++ more))
        (-(more.length : Int)))), rest) := by
  obtain ⟨hc, hcs⟩ := List.forall_mem_cons.mp h.2
  have hpoint : numberChars ('.' :: (more ++ rest)) = ('.' :: more, rest) := by
    obtain ⟨d, ds, rfl⟩ := List.exists_cons_of_ne_nil hmore.1
    have hd : d.isDigit = true := hmore.2 d List.mem_cons_self
    rw [numberChars, numberChars_append hmore.2, numberChars_of_not_goesOn hrest, List.append_nil]
    exact if_pos (by simp [startsWithDigit, hd])
  rw [lexeme_of_isDigit hc, numberChars_append hcs, hpoint, ← List.cons_append,
    Double.read?_fraction h hmore]

end number

/-- What is cut from a digit on leads the text. -/
theorem leads_of_isDigit {offset : Nat} {c : Char} {rest after : List Char} {t : Token}
    (hc : c.isDigit = true) (h : lexeme offset c rest = .ok (some t, after)) :
    t.Leads (c :: rest) after := by
  rw [lexeme_of_isDigit hc] at h
  split at h
  · rename_i value hread
    cases h
    obtain ⟨hjoin, htail, hstops⟩ := numberChars_spec value rest
    exact ⟨_, writtenAs_of_read? hc htail hread, congrArg (c :: ·) hjoin.symm, hstops⟩
  · cases h

/-! ### Texts -/

theorem Quote.slash_ne_char (quote : Quote) : '\\' ≠ quote.char := by
  cases quote <;> decide

theorem textChars?_quote (quote : Char) (rest : List Char) :
    textChars? quote (quote :: rest) = some ([], rest) := by
  rw [textChars?.eq_def]
  simp

theorem textChars?_plain {quote c : Char} (hquote : c ≠ quote) (hslash : c ≠ '\\')
    (rest : List Char) :
    textChars? quote (c :: rest) =
      (textChars? quote rest).map fun found => (c :: found.1, found.2) := by
  rw [textChars?.eq_def]
  simp only [if_neg hquote, if_neg hslash]
  cases textChars? quote rest <;> rfl

theorem textChars?_escaped {quote : Char} (hslash : '\\' ≠ quote) (c : Char) (rest : List Char) :
    textChars? quote ('\\' :: c :: rest) =
      (textChars? quote rest).map fun found => (unescape c :: found.1, found.2) := by
  rw [textChars?.eq_def]
  simp only [if_neg hslash, if_true]
  cases textChars? quote rest <;> rfl

/-- What is cut as a text ends at the first quote that is not escaped. -/
theorem textChars?_iff {quote : Char} (hslash : '\\' ≠ quote) {cs text after : List Char} :
    textChars? quote cs = some (text, after) ↔
      ∃ inner, Quoted quote inner text ∧ cs = inner ++ quote :: after := by
  constructor
  · intro h
    fun_induction textChars? quote cs generalizing text after with
    | case1 => cases h
    | case2 rest =>
      cases h
      exact ⟨[], .nil, rfl⟩
    | case3 => cases h
    | case4 escaped rest others left hothers _ ih =>
      cases h
      obtain ⟨inner, hinner, rfl⟩ := ih hothers
      exact ⟨_, .escaped escaped hinner, rfl⟩
    | case5 => cases h
    | case6 c rest hquote hc others left hothers ih =>
      cases h
      obtain ⟨inner, hinner, rfl⟩ := ih hothers
      exact ⟨_, .plain hquote hc hinner, rfl⟩
    | case7 => cases h
  · rintro ⟨inner, hinner, rfl⟩
    induction hinner with
    | nil => exact textChars?_quote quote after
    | plain hquote hplain _ ih =>
      rw [List.cons_append, textChars?_plain hquote hplain, ih]
      rfl
    | escaped c _ ih =>
      rw [List.cons_append, List.cons_append, textChars?_escaped hslash, ih]
      rfl

/-- What follows a quote decides whether a text is cut. -/
theorem lexeme_of_isQuote (offset : Nat) (quote : Quote) (rest : List Char) :
    (∀ text after, textChars? quote.char rest = some (text, after) →
      lexeme offset quote.char rest = .ok (some (.text (String.ofList text)), after)) ∧
    (textChars? quote.char rest = none →
      lexeme offset quote.char rest = .error .unterminatedText) := by
  have hstart : Text.isBlank quote.char = false ∧ quote.char.isDigit = false ∧
      (quote.char = '"' ∨ quote.char = '\'') := by
    cases quote <;> decide
  obtain ⟨hblank, hdigit, hquote⟩ := hstart
  unfold lexeme
  rw [if_neg (by rw [hblank]; decide), if_neg (by rw [hdigit]; decide), if_pos hquote]
  refine ⟨?_, ?_⟩
  · intro text after htext
    rw [htext]
  · intro htext
    rw [htext]

/-- What is cut from a quote on leads the text. -/
theorem leads_of_quote {offset : Nat} {quote : Quote} {rest after : List Char} {t : Token}
    (h : lexeme offset quote.char rest = .ok (some t, after)) :
    t.Leads (quote.char :: rest) after := by
  obtain ⟨hread, hnone⟩ := lexeme_of_isQuote offset quote rest
  cases htext : textChars? quote.char rest with
  | none =>
    rw [hnone htext] at h
    cases h
  | some found =>
    rw [hread _ _ htext] at h
    cases h
    obtain ⟨inner, hinner, rfl⟩ := (textChars?_iff quote.slash_ne_char).mp htext
    exact ⟨_, .text quote hinner, by simp, id⟩

/-! ### Marks -/

/-- A mark is cut where it is written, as the longest one that starts there. -/
theorem mark?_iff (quote : String → Quote) {c : Char} {rest after : List Char} {t : Token} :
    mark? c rest = some (t, after) ↔
      t.IsMark ∧ c :: rest = t.spelling quote ++ after ∧ ¬ t.GoesOn after := by
  constructor
  · intro h
    unfold mark? at h
    split at h
    all_goals cases h
    all_goals refine ⟨trivial, rfl, ?_⟩
    all_goals simp_all [Token.GoesOn]
  · rintro ⟨hmark, hchars, hstops⟩
    cases t with
    | number | text | ident => cases hmark
    | _ =>
      obtain ⟨rfl, rfl⟩ := List.cons.inj hchars
      simp_all [mark?, Token.GoesOn]

theorem lexeme_of_mark {c : Char} {rest after : List Char} {t : Token}
    (h : mark? c rest = some (t, after)) (offset : Nat) :
    lexeme offset c rest = .ok (some t, after) := by
  have hstart : Text.isBlank c = false ∧ c.isDigit = false ∧ ¬ (c = '"' ∨ c = '\'') ∧
      startsName c = false := by
    unfold mark? at h
    split at h
    all_goals first | decide | cases h
  obtain ⟨hblank, hdigit, hquote, hname⟩ := hstart
  unfold lexeme
  simp [hblank, hdigit, hquote, hname, h]

/-- What starts neither a number nor a name nor a text can start a mark only. -/
theorem mark?_of_lexeme {offset : Nat} {c : Char} {rest after : List Char} {t : Token}
    (hdigit : ¬ c.isDigit = true) (hname : ¬ startsName c = true)
    (hquote : ¬ ∃ quote : Quote, c = quote.char)
    (h : lexeme offset c rest = .ok (some t, after)) : mark? c rest = some (t, after) := by
  have hquotes : ¬(c = '"' ∨ c = '\'') := by
    rintro (rfl | rfl)
    · exact hquote ⟨.double, rfl⟩
    · exact hquote ⟨.single, rfl⟩
  unfold lexeme at h
  rw [if_neg hdigit, if_neg hquotes, if_neg hname] at h
  split at h
  · cases h
  split at h
  · rename_i token left hmark
    cases h
    exact hmark
  · cases h

/-! ### Names -/

/-- A blank is no part of a name. -/
theorem continuesName_eq_false_of_isBlank {c : Char} (h : Text.isBlank c = true) :
    continuesName c = false := by
  unfold continuesName
  rw [Text.isAlphanumeric_eq_false_of_isBlank h]
  have hline : c ≠ '_' := by
    rintro rfl
    exact absurd h (by decide)
  have hdollar : c ≠ '$' := by
    rintro rfl
    exact absurd h (by decide)
  simp [hline, hdollar]

theorem continuesName_of_startsName {c : Char} (h : startsName c = true) :
    continuesName c = true := by
  unfold startsName at h
  unfold continuesName Text.isAlphanumeric
  simp only [Bool.or_eq_true] at h ⊢
  rcases h with (h | h) | h
  · exact Or.inl (Or.inl (Or.inl h))
  · exact Or.inl (Or.inr h)
  · exact Or.inr h

theorem startsName_eq_false_of_isDigit {c : Char} (h : c.isDigit = true) :
    startsName c = false := by
  have hbounds : 48 ≤ c.toNat ∧ c.toNat ≤ 57 := Double.toNat_of_isDigit h
  have hdigits : ∀ n, 48 ≤ n → n < 58 → startsName (Char.ofNat n) = false := by decide
  have hplace := hdigits c.toNat hbounds.1 (by omega)
  rwa [Char.ofNat_toNat] at hplace

/-- What starts a name starts nothing else. -/
theorem lexeme_of_startsName {c : Char} (h : startsName c = true) (offset : Nat)
    (rest : List Char) :
    lexeme offset c rest =
      .ok (some (.ident (String.ofList (c :: rest.takeWhile continuesName))),
        rest.dropWhile continuesName) := by
  have hblank : Text.isBlank c = false := by
    rw [Bool.eq_false_iff]
    intro hblank
    have hno := continuesName_eq_false_of_isBlank hblank
    rw [continuesName_of_startsName h] at hno
    cases hno
  have hdigit : c.isDigit = false := by
    rw [Bool.eq_false_iff]
    intro hdigit
    rw [startsName_eq_false_of_isDigit hdigit] at h
    cases h
  have hquote : ¬(c = '"' ∨ c = '\'') := by
    rintro (rfl | rfl)
    · exact absurd h (by decide)
    · exact absurd h (by decide)
  unfold lexeme
  simp [hblank, hdigit, hquote, h]

/-- A name ends where nothing goes on with it. -/
theorem takeWhile_of_not_goesOn {name : String} {rest : List Char}
    (h : ¬ (Token.ident name).GoesOn rest) :
    rest.takeWhile continuesName = [] ∧ rest.dropWhile continuesName = rest := by
  cases rest with
  | nil => simp
  | cons c rest =>
    have hc : ¬ continuesName c = true := fun hc => h ⟨c, rest, rfl, hc⟩
    simp [hc]

/-- What is cut from the first letter of a name on leads the text. -/
theorem leads_of_startsName {offset : Nat} {c : Char} {rest after : List Char} {t : Token}
    (hc : startsName c = true) (h : lexeme offset c rest = .ok (some t, after)) :
    t.Leads (c :: rest) after := by
  rw [lexeme_of_startsName hc] at h
  cases h
  refine ⟨_, .ident hc fun d hd => List.mem_takeWhile_imp hd, ?_, ?_⟩
  · rw [List.cons_append, List.takeWhile_append_dropWhile]
  · rintro ⟨d, more, hdrop, hcontinues⟩
    have hhead := List.head?_dropWhile_not continuesName rest
    rw [hdrop] at hhead
    simp [hcontinues] at hhead

/-! ### What is cut from the front of a text -/

theorem lexeme_eq_blank_iff {offset : Nat} {c : Char} {rest after : List Char} :
    lexeme offset c rest = .ok (none, after) ↔ Text.isBlank c = true ∧ after = rest := by
  constructor
  · intro h
    unfold lexeme at h
    split at h
    · rename_i hblank
      cases h
      exact ⟨hblank, rfl⟩
    -- everything else is a token or a fault
    repeat' split at h
    all_goals cases h
  · rintro ⟨hblank, rfl⟩
    rw [lexeme, if_pos hblank]

/-- A token that leads a text is cut from it. -/
theorem lexeme_of_leads {c : Char} {rest after : List Char} {t : Token}
    (h : t.Leads (c :: rest) after) (offset : Nat) :
    lexeme offset c rest = .ok (some t, after) := by
  obtain ⟨written, hwritten, hchars, hstops⟩ := h
  cases hwritten with
  | whole h =>
    obtain ⟨d, ds, rfl⟩ := List.exists_cons_of_ne_nil h.1
    obtain ⟨rfl, rfl⟩ := List.cons.inj hchars
    exact lexeme_of_whole h hstops offset
  | @fraction digits more h hmore =>
    obtain ⟨d, ds, rfl⟩ := List.exists_cons_of_ne_nil h.1
    rw [List.append_assoc] at hchars
    obtain ⟨rfl, rfl⟩ := List.cons.inj hchars
    exact lexeme_of_fraction h hmore hstops offset
  | @text quote inner text h =>
    rw [List.cons_append, List.append_assoc] at hchars
    obtain ⟨rfl, rfl⟩ := List.cons.inj hchars
    have htext : textChars? quote.char (inner ++ quote.char :: after) = some (text, after) :=
      (textChars?_iff quote.slash_ne_char).mpr ⟨inner, h, rfl⟩
    exact (lexeme_of_isQuote offset quote _).1 _ _ htext
  | @ident d ds hd hds =>
    rw [List.cons_append] at hchars
    obtain ⟨rfl, rfl⟩ := List.cons.inj hchars
    obtain ⟨htake, hdrop⟩ := takeWhile_of_not_goesOn hstops
    rw [lexeme_of_startsName hd, List.takeWhile_append_of_pos hds,
      List.dropWhile_append_of_pos hds, htake, hdrop, List.append_nil]
  | mark quote hmark =>
    exact lexeme_of_mark ((mark?_iff quote).mpr ⟨hmark, hchars, hstops⟩) offset

/-- What is cut from the front of a text is the token that leads it. -/
theorem lexeme_eq_token_iff {offset : Nat} {c : Char} {rest after : List Char} {t : Token} :
    lexeme offset c rest = .ok (some t, after) ↔ t.Leads (c :: rest) after := by
  constructor
  · intro h
    by_cases hdigit : c.isDigit = true
    · exact leads_of_isDigit hdigit h
    by_cases hname : startsName c = true
    · exact leads_of_startsName hname h
    by_cases hquote : ∃ quote : Quote, c = quote.char
    · obtain ⟨quote, rfl⟩ := hquote
      exact leads_of_quote h
    · obtain ⟨hismark, hchars, hstops⟩ := (mark?_iff fun _ => .double).mp
        (mark?_of_lexeme hdigit hname hquote h)
      exact ⟨_, .mark _ hismark, hchars, hstops⟩
  · intro h
    exact lexeme_of_leads h offset

end HttpScenario.Script
