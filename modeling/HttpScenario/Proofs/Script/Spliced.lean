import HttpScenario.Assertion.Evaluator
import HttpScenario.Proofs.Script.Lexing
import HttpScenario.Proofs.Template.InPlace
/-!
# Cached texts between quotes

Placeholders in a script are replaced before the script is cut into tokens, and nothing is escaped.
So a cached text between quotes is read as a text is: a backslash takes the next character for
itself (`unescaped?`), and a quote ends it.  A text without either is compared as itself.  One with
backslashes but no quote is compared as another text, or makes the script unfinished
(`EvaluatorKind.compares_cached_text`).  One with a quote goes on as a script of its own
(`EvaluatorKind.rewrites_assertion`).
-/

namespace HttpScenario

namespace Script

/-! ### Between quotes -/

/-- What characters between quotes stand for; nothing if the last of them is a backslash that takes
no other. -/
def unescaped? : List Char → Option (List Char)
  | [] => some []
  | c :: rest =>
    if c = '\\' then
      match rest with
      | [] => none
      | escaped :: rest => (unescaped? rest).map (unescape escaped :: ·)
    else (unescaped? rest).map (c :: ·)

theorem unescaped?_plain {c : Char} (hc : c ≠ '\\') (rest : List Char) :
    unescaped? (c :: rest) = (unescaped? rest).map (c :: ·) := by
  rw [unescaped?.eq_def]
  exact if_neg hc

/-- Up to the quote, characters without a quote are read as what they stand for. -/
theorem textChars?_of_not_mem {quote : Char} {cs : List Char} (hslash : '\\' ≠ quote)
    (h : quote ∉ cs) :
    textChars? quote (cs ++ [quote]) = (unescaped? cs).map fun text => (text, []) := by
  fun_induction unescaped? cs with
  | case1 => exact textChars?_quote quote []
  | case2 =>
    -- the backslash takes the quote, and there is no other
    show textChars? quote ['\\', quote] = none
    rw [textChars?_escaped hslash]
    rfl
  | case3 c rest ih =>
    have hrest := List.not_mem_of_not_mem_cons (List.not_mem_of_not_mem_cons h)
    rw [List.cons_append, List.cons_append, textChars?_escaped hslash, ih hrest]
    cases unescaped? rest <;> rfl
  | case4 c rest hc ih =>
    have hquote : c ≠ quote := (List.ne_of_not_mem_cons h).symm
    rw [List.cons_append, textChars?_plain hquote hc, ih (List.not_mem_of_not_mem_cons h)]
    cases unescaped? rest <;> rfl

theorem unescaped?_of_not_mem {cs : List Char} (h : '\\' ∉ cs) : unescaped? cs = some cs := by
  induction cs with
  | nil => rfl
  | cons c cs ih =>
    rw [unescaped?_plain (List.ne_of_not_mem_cons h).symm, ih (List.not_mem_of_not_mem_cons h)]
    rfl

/-- Characters stand for no more characters than they are, and for fewer if one is a backslash. -/
theorem length_of_unescaped? {cs text : List Char} (h : unescaped? cs = some text) :
    text.length ≤ cs.length ∧ ('\\' ∈ cs → text.length < cs.length) := by
  fun_induction unescaped? cs generalizing text with
  | case1 =>
    obtain rfl := Option.some.inj h
    exact ⟨Nat.le_refl _, nofun⟩
  | case2 => cases h
  | case3 c rest ih =>
    obtain ⟨others, hothers, rfl⟩ := Option.map_eq_some_iff.mp h
    have hlength := (ih hothers).1
    simp only [List.length_cons]
    omega
  | case4 c rest hc ih =>
    obtain ⟨others, hothers, rfl⟩ := Option.map_eq_some_iff.mp h
    obtain ⟨hlength, hless⟩ := ih hothers
    refine ⟨Nat.succ_le_succ hlength, ?_⟩
    intro hmem
    exact Nat.succ_lt_succ (hless ((List.mem_cons.mp hmem).resolve_left (Ne.symm hc)))

/-- Only characters without a backslash stand for themselves. -/
theorem unescaped?_eq_self_iff {cs : List Char} : unescaped? cs = some cs ↔ '\\' ∉ cs :=
  ⟨fun h hmem => Nat.lt_irrefl _ ((length_of_unescaped? h).2 hmem), unescaped?_of_not_mem⟩

/-! ### A comparison with a text -/

/-- The token of characters between quotes. -/
def quotedTokens (cs : List Char) : Except Fault (List Token) :=
  match unescaped? cs with
  | some text => .ok [.text (String.ofList text)]
  | none => .error .unterminatedText

theorem tokensFrom_quoted {cs : List Char} (h : '\'' ∉ cs) (offset : Nat) {count : Nat}
    (hcount : count < maxTokens) :
    tokensFrom offset count ('\'' :: (cs ++ ['\''])) = quotedTokens cs := by
  have htext := textChars?_of_not_mem (by decide) h
  unfold quotedTokens
  cases hread : unescaped? cs with
  | none =>
    rw [hread] at htext
    exact tokensFrom_error hcount ((lexeme_of_isQuote offset .single _).2 htext)
  | some text =>
    rw [hread] at htext
    have hlexeme := (lexeme_of_isQuote offset .single _).1 _ _ htext
    exact tokensFrom_cons hcount hlexeme fun offset => by rw [tokensFrom]

/-- The comparison of a name with characters between quotes, as it is cut into tokens. -/
theorem tokenize_quoted {cs : List Char} (h : '\'' ∉ cs) :
    tokenize (String.ofList ("id === '".toList ++ (cs ++ ['\'']))) =
      (quotedTokens cs).map fun ts => .ident "id" :: .strictEqual :: ts := by
  have hspace : Text.isBlank ' ' = true := by decide
  have hequal : ∀ offset, tokensFrom offset 1 (" === '".toList ++ (cs ++ ['\''])) =
      (quotedTokens cs).map (.strictEqual :: ·) := by
    intro offset
    -- a blank, three characters of the operator, another blank, and the text
    show tokensFrom offset 1 (' ' :: '=' :: ("== ".toList ++ '\'' :: (cs ++ ['\'']))) = _
    have hlexeme : lexeme (offset + 1) '=' ("== ".toList ++ '\'' :: (cs ++ ['\''])) =
        .ok (some .strictEqual, ' ' :: '\'' :: (cs ++ ['\''])) := rfl
    rw [tokensFrom_blank hspace offset (by decide)]
    refine tokensFrom_cons (by decide) hlexeme ?_
    intro next
    rw [tokensFrom_blank hspace next (by decide)]
    exact tokensFrom_quoted h (next + 1) (by decide)
  have hid : (Token.ident "id").WrittenAs ['i', 'd'] := writtenAs_asciiName (by decide)
  have hleads : (Token.ident "id").Leads ('i' :: ("d === '".toList ++ (cs ++ ['\''])))
      (" === '".toList ++ (cs ++ ['\''])) :=
    ⟨_, hid, rfl, Token.KeptApart.not_goesOn (Or.inl ⟨' ', rfl, hspace⟩)⟩
  rw [tokenize, String.toList_ofList]
  show tokensFrom 0 0 ('i' :: ("d === '".toList ++ (cs ++ ['\'']))) = _
  rw [tokensFrom_cons (by decide) (lexeme_of_leads hleads 0) hequal]
  cases quotedTokens cs <;> rfl

/-- The comparison with a text that such tokens write. -/
theorem parse_quoted (text : String) :
    parse [.ident "id", .strictEqual, .text text] =
      .ok (.compare .strictEqual (.variable "id") (.literal (.str text))) := by
  have he : (Expr.compare .strictEqual (.variable "id") (.literal (.str text))).Printable :=
    .compare _ (.name (by decide) (by decide)) (.text text)
  have hparse := parse_eq_ok_iff.mpr (he.derives.mono (Nat.zero_le maxDepth))
  exact hparse

/-- A script passes if it comes to a truth value, and that is true. -/
theorem scriptPasses_of_ok {source : String} {body : Json.Object} {value : Bool}
    (h : evaluate source body = .ok (.bool value)) : scriptPasses source body = value := by
  rw [scriptPasses, h]

theorem scriptPasses_of_error {source : String} {body : Json.Object} {fault : Fault}
    (h : evaluate source body = .error fault) : scriptPasses source body = false := by
  rw [scriptPasses, h]

/-- A text is compared with what stands between the quotes, and the comparison fails if that is
unfinished. -/
theorem scriptPasses_quoted {cs : List Char} (h : '\'' ∉ cs) {body : Json.Object} {w : String}
    (hbody : body.find? "id" = some (.str w)) :
    scriptPasses (String.ofList ("id === '".toList ++ (cs ++ ['\'']))) body =
      decide ((unescaped? cs).map String.ofList = some w) := by
  have htokens := tokenize_quoted h
  rw [quotedTokens] at htokens
  cases hread : unescaped? cs with
  | none =>
    rw [hread] at htokens
    exact scriptPasses_of_error (bind_eq_error_iff.mpr (Or.inl htokens))
  | some text =>
    rw [hread] at htokens
    have hsame : w = String.ofList text ↔ some (String.ofList text) = some w :=
      ⟨fun heq => congrArg some heq.symm, fun heq => (Option.some.inj heq).symm⟩
    have hvalue : eval body (.compare .strictEqual (.variable "id")
        (.literal (.str (String.ofList text)))) = .ok (.bool (w == String.ofList text)) := by
      simp only [eval, hbody]
      rfl
    have hcompared := bind_eq_ok_iff.mpr ⟨_, parse_quoted (String.ofList text), hvalue⟩
    rw [scriptPasses_of_ok (bind_eq_ok_iff.mpr ⟨_, htokens, hcompared⟩)]
    exact decide_eq_decide.mpr hsame

end Script

theorem EvaluatorKind.check_script (source : String) (body : Json.Object) (cache : Cache) :
    EvaluatorKind.script.check (.script source) body cache =
      .ok (scriptPasses (Template.resolve source cache) body) := rfl

/-- Between quotes, a placeholder is replaced by what is cached. -/
theorem resolve_quoted {cache : Cache} {inner v : String} (hinner : Template.Inner inner.toList)
    (hvalue : Template.value? cache inner.toList = some v) :
    Template.resolve ("id === '\x7b" ++ inner ++ "\x7d'") cache =
      String.ofList ("id === '".toList ++ (v.toList ++ ['\''])) := by
  have hfilling : Template.filling cache inner.toList = v.toList := by
    rw [Template.filling, hvalue]
    rfl
  have hsource : "id === '\x7b" ++ inner ++ "\x7d'" =
      String.ofList ("id === '".toList ++ (Template.token inner.toList ++ ['\''])) := by
    apply String.toList_inj.mp
    simp [Template.token]
  have hresolve := Template.resolve_single (by decide : '\x7b' ∉ "id === '".toList) hinner
    (by decide : '\x7b' ∉ ['\'']) cache
  rw [hsource, hresolve, hfilling]

/-- A script that asks whether a text is a cached one, between quotes, does so if there is no quote
and no backslash in the cached text, whatever braces, operators or other characters there are.  If
there is no quote but a backslash, it asks for what the characters stand for, which is not the cached
text. -/
theorem EvaluatorKind.compares_cached_text {cache : Cache} {inner v : String}
    (hinner : Template.Inner inner.toList) (hvalue : Template.value? cache inner.toList = some v)
    (hquote : '\'' ∉ v.toList) :
    ('\\' ∉ v.toList → ∀ (body : Json.Object) (w : String), body.find? "id" = some (.str w) →
      EvaluatorKind.script.check (.script ("id === '\x7b" ++ inner ++ "\x7d'")) body cache =
        .ok (decide (w = v))) ∧
    ('\\' ∈ v.toList → (Script.unescaped? v.toList).map String.ofList ≠ some v ∧
      ∀ (body : Json.Object) (w : String), body.find? "id" = some (.str w) →
        EvaluatorKind.script.check (.script ("id === '\x7b" ++ inner ++ "\x7d'")) body cache =
          .ok (decide ((Script.unescaped? v.toList).map String.ofList = some w))) := by
  have hcheck : ∀ (body : Json.Object) (w : String), body.find? "id" = some (.str w) →
      EvaluatorKind.script.check (.script ("id === '\x7b" ++ inner ++ "\x7d'")) body cache =
        .ok (decide ((Script.unescaped? v.toList).map String.ofList = some w)) := by
    intro body w hbody
    rw [check_script, resolve_quoted hinner hvalue, Script.scriptPasses_quoted hquote hbody]
  refine ⟨?_, ?_⟩
  · intro hslash body w hbody
    have hsame : some v = some w ↔ w = v := by
      rw [Option.some.injEq, eq_comm]
    rw [hcheck body w hbody, Script.unescaped?_of_not_mem hslash, Option.map_some,
      String.ofList_toList]
    exact congrArg Except.ok (decide_eq_decide.mpr hsame)
  · intro hslash
    refine ⟨?_, hcheck⟩
    intro hself
    obtain ⟨text, htext, rfl⟩ := Option.map_eq_some_iff.mp hself
    rw [String.toList_ofList] at htext hslash
    exact Script.unescaped?_eq_self_iff.mp htext hslash

/-- A cached text with operators and with the braces of a placeholder. -/
theorem EvaluatorKind.compares_cached_text_of_operators :
    Template.value? (Cache.empty.insert "k" (Utf8.encode "\x7b\"p\":\"|| \x7bk.p\x7d\"\x7d"))
        "k.p".toList = some "|| \x7bk.p\x7d" ∧
      ∀ (body : Json.Object) (w : String), body.find? "id" = some (.str w) →
        EvaluatorKind.script.check (.script "id === '\x7bk.p\x7d'") body
            (Cache.empty.insert "k" (Utf8.encode "\x7b\"p\":\"|| \x7bk.p\x7d\"\x7d")) =
          .ok (decide (w = "|| \x7bk.p\x7d")) := by
  have hvalue : Template.value?
      (Cache.empty.insert "k" (Utf8.encode "\x7b\"p\":\"|| \x7bk.p\x7d\"\x7d")) "k.p".toList =
        some "|| \x7bk.p\x7d" := by
    decide +kernel
  have hcheck := compares_cached_text ⟨by decide, by decide⟩ hvalue (by decide)
  exact ⟨hvalue, hcheck.1 (by decide)⟩

/-- A cached text with a quote does not equal itself, or makes the script another one; a cached text
with a backslash does not equal itself either. -/
theorem EvaluatorKind.rewrites_assertion :
    EvaluatorKind.script.check (.script "id === '\x7bk.p\x7d'") [("id", .str "it's")]
        (Cache.empty.insert "k" (Utf8.encode "\x7b\"p\":\"it's\"\x7d")) = .ok false ∧
      EvaluatorKind.script.check (.script "id === '\x7bk.p\x7d'") [("id", .str "x")]
        (Cache.empty.insert "k" (Utf8.encode "\x7b\"p\":\"' || true || '\"\x7d")) = .ok true ∧
      EvaluatorKind.script.check (.script "id === '\x7bk.p\x7d'") [("id", .str "a\\b")]
        (Cache.empty.insert "k" (Utf8.encode "\x7b\"p\":\"a\\\\b\"\x7d")) = .ok false := by
  decide +kernel

end HttpScenario
