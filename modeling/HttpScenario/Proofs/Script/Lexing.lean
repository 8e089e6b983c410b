import Mathlib
import HttpScenario.Proofs.Script.Parsing
import HttpScenario.Proofs.Script.Printing
import HttpScenario.Proofs.Script.Spacing
import HttpScenario.Script.Eval
/-!
# The source of an expression

The tokens of an expression are written one after the other with a space between any two
(`Expr.source`).  The main statement is `evaluate_source`: the source of an expression is cut into
the tokens that it was written with, those are parsed to the expression, and so the source has the
value of the expression over every body.

For the cutting it is enough that each token is written as it can be (`Token.Spelled.writtenAs`):
then the source is tokens with blanks between them (`spaced_spellings`), and no blank follows the
last of them, so that the limit may be reached.
-/

namespace HttpScenario.Script

/-! ### Spelling tokens -/

/-- The source text of an expression, for a choice of quotes. -/
def Expr.source (quote : String → Quote) (e : Expr) : String :=
  String.intercalate " " (e.tokens.map fun t => String.ofList (t.spelling quote))

/-- The tokens that expressions are written with. -/
def Token.Spelled : Token → Prop
  | .number value => ∃ n : Nat, n < 9007199254740992 ∧ value = Double.ofInt n
  | .ident name => isAsciiName name = true
  | _ => True

theorem spelled_of_mem_enclosed {wanted : Level} {e : Expr} {ts : List Token} {t : Token}
    (h : ∀ t ∈ ts, t.Spelled) (ht : t ∈ enclosed wanted e ts) : t.Spelled := by
  unfold enclosed at ht
  split at ht
  · simp only [List.mem_cons, List.mem_append, List.not_mem_nil, or_false] at ht
    rcases ht with rfl | ht | rfl
    · trivial
    · exact h t ht
    · trivial
  · exact h t ht

theorem Comparison.spelled_token (op : Comparison) : op.token.Spelled := by
  cases op <;> trivial

/-- An expression that can be written is written with tokens that can be spelled. -/
theorem Expr.Printable.spelled {e : Expr} (h : e.Printable) : ∀ t ∈ e.tokens, t.Spelled := by
  have hname : ∀ name, isAsciiName name = true → (Token.ident name).Spelled := fun _ h => h
  induction h with
  | null => simpa [tokens, literalTokens] using hname "null" (by decide)
  | bool value =>
    cases value with
    | true => simpa [tokens, literalTokens] using hname "true" (by decide)
    | false => simpa [tokens, literalTokens] using hname "false" (by decide)
  | @whole n hn =>
    intro t ht
    obtain rfl := List.mem_singleton.mp ht
    exact ⟨n, hn, rfl⟩
  | text value =>
    intro t ht
    obtain rfl := List.mem_singleton.mp ht
    trivial
  | @name name h _ =>
    intro t ht
    obtain rfl := List.mem_singleton.mp ht
    exact h
  | member _ h ih =>
    intro t ht
    simp only [tokens, List.mem_append, List.mem_cons, List.not_mem_nil, or_false] at ht
    rcases ht with ht | rfl | rfl
    · exact spelled_of_mem_enclosed ih ht
    · trivial
    · exact h
  | index _ _ ihtarget ihkey =>
    intro t ht
    simp only [tokens, List.mem_append, List.mem_cons, List.not_mem_nil, or_false] at ht
    rcases ht with ht | rfl | ht | rfl
    · exact spelled_of_mem_enclosed ihtarget ht
    · trivial
    · exact ihkey t ht
    · trivial
  | not _ ih | neg _ ih =>
    intro t ht
    rcases List.mem_cons.mp ht with rfl | ht
    · trivial
    · exact spelled_of_mem_enclosed ih ht
  | and _ _ ihleft ihright | or _ _ ihleft ihright =>
    intro t ht
    rcases List.mem_append.mp ht with ht | ht
    · exact spelled_of_mem_enclosed ihleft ht
    rcases List.mem_cons.mp ht with rfl | ht
    · trivial
    · exact spelled_of_mem_enclosed ihright ht
  | compare op _ _ ihleft ihright =>
    intro t ht
    rcases List.mem_append.mp ht with ht | ht
    · exact spelled_of_mem_enclosed ihleft ht
    rcases List.mem_cons.mp ht with rfl | ht
    · exact op.spelled_token
    · exact spelled_of_mem_enclosed ihright ht

/-! ### Writing the tokens -/

/-- Where the quotes and the backslashes are escaped, what is between quotes stands for itself. -/
theorem quoted_escape (quote : Quote) (cs : List Char) :
    Quoted quote.char (cs.flatMap quote.escape) cs := by
  have hletter : unescape quote.char = quote.char := by cases quote <;> rfl
  induction cs with
  | nil => exact .nil
  | cons c cs ih =>
    rw [List.flatMap_cons]
    by_cases hc : c = quote.char ∨ c = '\\'
    · have hunescape : unescape c = c := by
        rcases hc with rfl | rfl
        · exact hletter
        · rfl
      have hescaped := Quoted.escaped c ih
      rw [hunescape] at hescaped
      rw [Quote.escape, if_pos hc]
      exact hescaped
    · obtain ⟨hquote, hslash⟩ := not_or.mp hc
      rw [Quote.escape, if_neg hc]
      exact .plain hquote hslash ih

/-- Where the letters, the underscore and the dollar sign stand among the characters. -/
theorem toNat_of_startsAsciiName {c : Char} (h : startsAsciiName c = true) :
    c.toNat = 36 ∨ 64 < c.toNat ∧ c.toNat < 128 := by
  simp only [startsAsciiName, Char.isAlpha, Char.isUpper, Char.isLower, Bool.or_eq_true,
    Bool.and_eq_true, decide_eq_true_eq, beq_iff_eq, UInt32.le_iff_toNat_le, ge_iff_le] at h
  change (((65 ≤ c.toNat ∧ c.toNat ≤ 90) ∨ (97 ≤ c.toNat ∧ c.toNat ≤ 122)) ∨ c = '_') ∨ c = '$' at h
  rcases h with ((h | h) | rfl) | rfl
  · omega
  · omega
  · decide
  · decide

theorem startsName_of_ascii {c : Char} (h : startsAsciiName c = true) : startsName c = true := by
  have hplace := toNat_of_startsAsciiName h
  unfold startsName
  rw [Text.isAlphabetic_ascii (by omega)]
  exact h

theorem continuesName_of_ascii {c : Char} (h : continuesAsciiName c = true) :
    continuesName c = true := by
  have hlt : c.toNat < 0x80 := by
    simp only [continuesAsciiName, Char.isAlphanum, Char.isAlpha, Char.isUpper, Char.isLower,
      Char.isDigit, Bool.or_eq_true, Bool.and_eq_true, decide_eq_true_eq, beq_iff_eq,
      UInt32.le_iff_toNat_le, ge_iff_le] at h
    change ((((65 ≤ c.toNat ∧ c.toNat ≤ 90) ∨ (97 ≤ c.toNat ∧ c.toNat ≤ 122)) ∨
      (48 ≤ c.toNat ∧ c.toNat ≤ 57)) ∨ c = '_') ∨ c = '$' at h
    rcases h with (h | rfl) | rfl
    · omega
    · decide
    · decide
  unfold continuesName Text.isAlphanumeric
  rw [Text.isAlphabetic_ascii hlt, Text.isNumeric_ascii hlt]
  exact h

/-- Digits write the whole number that they stand for. -/
theorem writtenAs_digits {digits : List Char} (h : Double.Digits digits) :
    (Token.number (Double.ofInt (Double.digitsValue digits))).WrittenAs digits := by
  have hwritten := Token.WrittenAs.whole h
  rwa [Double.ofDecimal_zero_exponent] at hwritten

theorem writtenAs_decimalDigits (n : Nat) :
    (Token.number (Double.ofInt n)).WrittenAs (Double.decimalDigits n) := by
  have hwritten := writtenAs_digits (Double.digits_decimalDigits n)
  rwa [Double.digitsValue_decimalDigits] at hwritten

/-- An ASCII name writes itself. -/
theorem writtenAs_asciiName {name : String} (h : isAsciiName name = true) :
    (Token.ident name).WrittenAs name.toList := by
  unfold isAsciiName at h
  cases hname : name.toList with
  | nil =>
    rw [hname] at h
    cases h
  | cons c cs =>
    rw [hname] at h
    obtain ⟨hc, hcs⟩ := Bool.and_eq_true_iff.mp h
    have hall : ∀ d ∈ cs, continuesName d = true := by
      intro d hd
      exact continuesName_of_ascii (List.all_eq_true.mp hcs d hd)
    have hwritten := Token.WrittenAs.ident (startsName_of_ascii hc) hall
    rwa [← hname, String.ofList_toList, hname] at hwritten

/-- A token that can be spelled is written by its spelling. -/
theorem Token.Spelled.writtenAs (quote : String → Quote) {t : Token} (h : t.Spelled) :
    t.WrittenAs (t.spelling quote) := by
  cases t with
  | number value =>
    obtain ⟨n, hn, hvalue⟩ := h
    have htruncate : (value.truncate?.getD 0).natAbs = n := by
      rw [hvalue, Double.ofInt_of_lt hn]
      simp [Double.truncate?, Nat.mul_div_cancel n Double.unit_pos]
    have hspelling : (Token.number value).spelling quote = Double.decimalDigits n :=
      congrArg Double.decimalDigits htruncate
    rw [hspelling, hvalue]
    exact writtenAs_decimalDigits n
  | text value =>
    have hwritten := WrittenAs.text (quote value) (quoted_escape (quote value) value.toList)
    rwa [String.ofList_toList] at hwritten
  | ident name => exact writtenAs_asciiName h
  | _ => exact .mark quote trivial

/-! ### Cutting all tokens -/

/-- Tokens that are written with a space between any two are tokens with blanks between them. -/
theorem spaced_spellings (quote : String → Quote) {ts : List Token} (hts : ∀ t ∈ ts, t.Spelled) :
    Spaced [] ([' '].intercalate (ts.map (Token.spelling quote))) ts := by
  induction ts with
  | nil => exact .nil nofun
  | cons t ts ih =>
    obtain ⟨ht, hrest⟩ := List.forall_mem_cons.mp hts
    have hwritten := ht.writtenAs quote
    cases ts with
    | nil =>
      rw [List.map_singleton, List.intercalate_singleton, ← List.append_nil (t.spelling quote)]
      exact .flush hwritten t.keptApart_nil (.nil nofun)
    | cons u us =>
      have hspace : Blanks [' '] := by decide
      have hothers := (ih hrest).prepend hspace
      rw [List.map_cons, List.map_cons, List.intercalate_cons_cons, List.append_assoc]
      exact .flush hwritten (Or.inl ⟨' ', rfl, by decide⟩) hothers

/-- The source of an expression is cut into the tokens that it was written with. -/
theorem tokenize_source (quote : String → Quote) {e : Expr} (he : e.Printable)
    (hlength : e.tokens.length ≤ maxTokens) : tokenize (e.source quote) = .ok e.tokens := by
  have hchars : (e.source quote).toList =
      [' '].intercalate (e.tokens.map (Token.spelling quote)) := by
    rw [Expr.source, String.toList_intercalate, List.map_map]
    simp [Function.comp_def]
  have hspaced : Spaced [] (e.source quote).toList e.tokens := by
    rw [hchars]
    exact spaced_spellings quote he.spelled
  rw [hspaced.tokenize_eq, if_pos]
  simpa using Nat.lt_or_eq_of_le hlength

/-- Tokens with blanks between them have the value of the expression that they write, unless they
are too many or nest too deep. -/
theorem evaluate_of_spaced {source : String} {ts : List Token}
    (hspaced : Spaced [] source.toList ts) (hlimit : ts.length ≤ maxTokens) {n : Nat} {e : Expr}
    (hderives : Derives n .or ts e) (hdepth : n ≤ maxDepth) (body : Json.Object) :
    evaluate source body = eval body e := by
  have htokens : tokenize source = .ok ts := by
    rw [hspaced.tokenize_eq, if_pos]
    simpa using Nat.lt_or_eq_of_le hlimit
  have hparse : parse ts = .ok e := parse_eq_ok_iff.mpr (hderives.mono hdepth)
  rw [evaluate, htokens]
  show parse ts >>= eval body = eval body e
  rw [hparse]
  rfl

/-! ### Reading back what was written -/

/-- An expression that is written within the limits is read back as itself, so that its source has
its value over every body; and no tokens that write it are fewer, so that every parenthesis in its
source is needed. -/
theorem evaluate_source (quote : String → Quote) {e : Expr} (he : e.Printable)
    (hlength : e.tokens.length ≤ maxTokens) (hnesting : e.nesting ≤ maxDepth) :
    tokenize (e.source quote) = .ok e.tokens ∧ parse e.tokens = .ok e ∧
      (∀ body, evaluate (e.source quote) body = eval body e) ∧
      ∀ n ts, Derives n .or ts e → e.tokens.length ≤ ts.length := by
  have htokens := tokenize_source quote he hlength
  have hparse : parse e.tokens = .ok e := parse_eq_ok_iff.mpr (he.derives.mono hnesting)
  refine ⟨htokens, hparse, ?_, ?_⟩
  · intro body
    unfold evaluate
    rw [htokens]
    show (parse e.tokens >>= eval body) = eval body e
    rw [hparse]
    rfl
  · intro n ts h
    exact h.length_enclosed_le

/-- The expression `! ( a [ "it's" ] || - 1 < b . length )`, in which the parentheses are needed and
the comparison needs none. -/
def Expr.sample : Expr :=
  .not (.or (.index (.variable "a") (.literal (.str "it's")))
    (.compare .less (.neg (.literal (.int 1))) (.member (.variable "b") "length")))

example : Expr.sample.source (fun _ => .single) = "! ( a [ 'it\\'s' ] || - 1 < b . length )" := by
  decide +kernel

theorem evaluate_source_of_sample :
    Expr.sample.Printable ∧ Expr.sample.tokens.length ≤ maxTokens ∧
      Expr.sample.nesting ≤ maxDepth ∧
      ∀ body, evaluate (Expr.sample.source fun _ => .single) body = eval body Expr.sample := by
  have he : Expr.sample.Printable :=
    .not (.or (.index (.name (by decide) (by decide)) (.text "it's"))
      (.compare .less (.neg (.whole (by decide)))
        (.member (.name (by decide) (by decide)) (by decide))))
  have hlength : Expr.sample.tokens.length ≤ maxTokens := by decide
  have hnesting : Expr.sample.nesting ≤ maxDepth := by decide
  exact ⟨he, hlength, hnesting, (evaluate_source _ he hlength hnesting).2.2.1⟩

end HttpScenario.Script
