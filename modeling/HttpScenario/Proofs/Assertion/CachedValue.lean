import HttpScenario.Proofs.Assertion.Operators
import HttpScenario.Proofs.Assertion.OwnValue
/-!
# A cached value equals itself

A rule whose value is a placeholder compares what stands at its path with something that an earlier
body held.  On the way the cached value becomes a text, which is put in the place of the placeholder
and read as a document again if it is one.  If the body has the same value, the rule says that the
two are equal (`EvaluatorKind.accepts_cached_value`).

For a truth value and a whole number the text is read as that value again.  A text may well be read
as something else, but is also compared as it stands.  Whatever braces there are in it, the only
placeholder is the one that the rule was written with.
-/

namespace HttpScenario

/-- A placeholder leads to a value: its first segment names a cached body, and the others lead to
the value in the document that the body writes. -/
def Template.Addresses (cache : Cache) (inner : String) (v : Json) : Prop :=
  ∃ key path body root, Json.Path.ofTextKeepingEmpty inner = key :: path ∧
    cache.get? key = some body ∧ Json.parse body = .ok root ∧ root.valueAt? path = some v

/-! ### The text of the value -/

namespace Json.Scalar

variable {v : Json} (h : v.Scalar)

include h

theorem tables : v.Tables := by
  cases v with
  | arr | obj => exact h.elim
  | null | bool | num | str => trivial

theorem exact : v.Exact := by
  cases v with
  | arr | obj => exact h.elim
  | null | bool | str => trivial
  | num n => exact h

theorem depth_eq_zero : v.depth = 0 := by
  cases v with
  | arr | obj => exact h.elim
  | null | bool | num | str => rfl

/-- A value that is not null is put into a text as a field that is read as a text takes it. -/
theorem scalarText?_eq (hnull : v ≠ .null) : v.scalarText? = some (Shape.asText v) := by
  cases v with
  | arr | obj => exact h.elim
  | null => exact absurd rfl hnull
  | str s => rfl
  | bool value => cases value <;> rfl
  | num n =>
    show some n.text = some (String.ofList n.text.toList)
    rw [String.ofList_toList]

end Json.Scalar

namespace Template

variable {cache : Cache} {inner text : String} {v : Json}

theorem value?_of_addresses (h : Addresses cache inner v) (htext : v.scalarText? = some text) :
    value? cache inner.toList = some text := by
  obtain ⟨key, path, body, root, hpath, hbody, hroot, hvalue⟩ := h
  have hfound : Cache.valueIn? body path = some v := by
    rw [Cache.valueIn?, hroot]
    exact hvalue
  have hlookup : cache.lookup key path = some text := by
    rw [Cache.lookup, hbody]
    show (Cache.valueIn? body path >>= Json.scalarText?) = some text
    rw [hfound]
    exact htext
  unfold value?
  rw [show (Text.pieces '.' inner.toList).map String.ofList = key :: path from hpath]
  exact hlookup

/-- A text that is a placeholder and nothing else becomes its value. -/
theorem resolve_placeholder (hinner : Inner inner.toList)
    (hvalue : value? cache inner.toList = some text) :
    resolve ("\x7b" ++ inner ++ "\x7d") cache = text := by
  have hwritten : "\x7b" ++ inner ++ "\x7d" =
      String.ofList ([] ++ (token inner.toList ++ [])) := by
    apply String.toList_inj.mp
    simp [token]
  have hresolve := resolve_single List.not_mem_nil hinner List.not_mem_nil cache
  rw [hwritten, hresolve, List.nil_append, List.append_nil, filling, hvalue]
  exact String.ofList_toList

end Template

/-! ### The comparison -/

theorem CompiledRule.holdsOf_of_ne {rule : CompiledRule} (h : rule.operator = .ne) (v : Json) :
    rule.holdsOf v = !rule.equals v := by
  rw [holdsOf, h]

/-- A rule that compares a member of the body with a cached text, truth value or whole number says
that they are equal if the member is the same value, and does not say that they differ, whatever its
operator is called. -/
theorem EvaluatorKind.accepts_cached_value (names : Operator.Naming) {cache : Cache}
    {inner : String} (hinner : Template.Inner inner.toList) {v : Json} (hscalar : v.Scalar)
    (hnull : v ≠ .null) (hcached : Template.Addresses cache inner v) {key : String}
    (hkey : key ≠ "") (hdots : '.' ∉ key.toList) {body : Json.Object}
    (hbody : body.find? key = some v) (description : String) :
    EvaluatorKind.rules.check
        (.rule ⟨key, names.name .eq, "\x7b" ++ inner ++ "\x7d", description⟩) body cache =
          .ok true ∧
      EvaluatorKind.rules.check
        (.rule ⟨key, names.name .ne, "\x7b" ++ inner ++ "\x7d", description⟩) body cache =
          .ok false := by
  have hresolve : Template.resolve ("\x7b" ++ inner ++ "\x7d") cache = Shape.asText v :=
    Template.resolve_placeholder hinner
      (Template.value?_of_addresses hcached (hscalar.scalarText?_eq hnull))
  have hequals : ∀ rule : CompiledRule, rule.raw = Shape.asText v →
      rule.expected = CompiledRule.expectedOf (Shape.asText v) → rule.equals v = true := by
    intro rule hraw hexpected
    have hdepth : v.depth ≤ Json.maxLevels := hscalar.depth_eq_zero ▸ Nat.zero_le _
    exact CompiledRule.equals_of_asText hscalar.tables hscalar.exact hdepth hnull hraw hexpected
  constructor
  · rw [check_of_key (names.parse_name .eq) (by decide) hkey hdots hbody, hresolve,
      CompiledRule.holdsOf_of_eq rfl, hequals _ rfl rfl]
  · rw [check_of_key (names.parse_name .ne) (by decide) hkey hdots hbody, hresolve,
      CompiledRule.holdsOf_of_ne rfl, hequals _ rfl rfl]
    rfl

/-- A document with a text that is written in quotes and has a backslash, a placeholder and a line
break in it, and with the greatest whole number that is kept. -/
def Json.quotedAndGreatest : Json :=
  .obj [("n", .int 18446744073709551615), ("p", .arr [.str "\"1\\\x7bk.n\x7d\n\""])]

def Cache.ofQuotedAndGreatest : Cache :=
  Cache.empty.insert "k" (Utf8.encode Json.quotedAndGreatest.compact)

theorem Json.parse_quotedAndGreatest :
    parse (Utf8.encode quotedAndGreatest.compact) = .ok quotedAndGreatest := by
  have htables : quotedAndGreatest.Tables :=
    ⟨.cons (List.forall_mem_singleton.mpr (by decide)) (List.pairwise_singleton _ _), trivial,
      ⟨trivial, trivial⟩, trivial⟩
  have hexact : quotedAndGreatest.Exact :=
    ⟨trivial, ⟨by decide, by decide⟩, ⟨trivial, trivial⟩, trivial⟩
  exact parseText_compact htables hexact (by decide)

/-- Neither the quotes of a cached text nor the placeholder in it are taken for what they look
like. -/
theorem EvaluatorKind.accepts_cached_value_of_quoted :
    Template.Addresses .ofQuotedAndGreatest "k.p[0]" (.str "\"1\\\x7bk.n\x7d\n\"") ∧
      EvaluatorKind.rules.check (.rule ⟨"id", "eq", "\x7bk.p[0]\x7d", ""⟩)
        [("id", .str "\"1\\\x7bk.n\x7d\n\"")] .ofQuotedAndGreatest = .ok true ∧
      Template.Addresses .ofQuotedAndGreatest "k.n" (.int 18446744073709551615) ∧
      EvaluatorKind.rules.check (.rule ⟨"id", "ne", "\x7bk.n\x7d", ""⟩)
        [("id", .int 18446744073709551615)] .ofQuotedAndGreatest = .ok false := by
  have htext : Template.Addresses .ofQuotedAndGreatest "k.p[0]"
      (.str "\"1\\\x7bk.n\x7d\n\"") :=
    ⟨"k", ["p[0]"], _, _, by decide +kernel, Cache.get?_insert_self _ _ _,
      Json.parse_quotedAndGreatest, rfl⟩
  have hnumber : Template.Addresses .ofQuotedAndGreatest "k.n" (.int 18446744073709551615) :=
    ⟨"k", ["n"], _, _, by decide +kernel, Cache.get?_insert_self _ _ _,
      Json.parse_quotedAndGreatest, rfl⟩
  have hkept : (Json.int 18446744073709551615).Scalar := ⟨by decide, by decide⟩
  have htextkept : (Json.str "\"1\\\x7bk.n\x7d\n\"").Scalar := trivial
  have hkey : Table.find? "id" [("id", Json.str "\"1\\\x7bk.n\x7d\n\"")] =
      some (.str "\"1\\\x7bk.n\x7d\n\"") := rfl
  have hnumberkey : Table.find? "id" [("id", Json.int 18446744073709551615)] =
      some (.int 18446744073709551615) := rfl
  have hequal := accepts_cached_value Operator.words ⟨by decide, by decide⟩ htextkept nofun htext
    (by decide : "id" ≠ "") (by decide) hkey ""
  have hdiffer := accepts_cached_value Operator.words ⟨by decide, by decide⟩ hkept nofun hnumber
    (by decide : "id" ≠ "") (by decide) hnumberkey ""
  exact ⟨htext, hequal.1, hnumber, hdiffer.2⟩

end HttpScenario
