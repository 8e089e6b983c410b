import HttpScenario.Proofs.Json.Compact
import HttpScenario.Proofs.Script.NanFree
/-!
# The laws of the comparison operators

Strict equality is an equivalence on the values that a script can have, and loose equality is
reflexive and symmetric and holds wherever strict equality does.  It is not transitive: a text of a
number equals the number, and so does another text of it.

The four orders are read off one partial order of two values (`order?`), which turns round with its
sides (`order?_swap`).  So what an order says is what the opposite order says of the sides the other
way round, and nothing is both less and greater.  Two texts or two numbers always stand in an order
(`Comparable.exists_order`), and only equal ones in that of equality.

The one value that does not equal itself, and that no number is in an order to, is a NaN.  No body
that is read has one in it, and no script comes to one.
-/

namespace HttpScenario.Script

variable {a b c : Json}

/-! ### Equality -/

theorem strictEquals_self (h : a.NanFree) : strictEquals a a = true := by
  cases a with
  | num n => exact Double.same_self (Json.Number.NanFree.toDouble_ne_nan h)
  | null | bool | str | arr | obj => exact Json.same_self h

theorem strictEquals_comm (a b : Json) : strictEquals a b = strictEquals b a := by
  cases a with
  | num n =>
    cases b with
    | num m => exact Double.same_comm n.toDouble m.toDouble
    | null | bool | str | arr | obj => rfl
  | null | bool | str | arr | obj =>
    cases b with
    | num m => rfl
    | null | bool | str | arr | obj => exact Json.same_comm _ _

/-- A number equals nothing but numbers. -/
theorem exists_num_of_strictEquals {n : Json.Number} (h : strictEquals (.num n) b = true) :
    ∃ m, b = .num m ∧ n.toDouble.same m.toDouble = true := by
  cases b with
  | num m => exact ⟨m, rfl, h⟩
  | null | bool | str | arr | obj => cases h

/-- What is no number is compared as a part of a document. -/
theorem strictEquals_eq_same (h : ∀ n, a ≠ .num n) (b : Json) : strictEquals a b = a.same b := by
  cases a with
  | num n => exact absurd rfl (h n)
  | null | bool | str | arr | obj => rfl

theorem strictEquals_trans (hab : strictEquals a b = true) (hbc : strictEquals b c = true) :
    strictEquals a c = true := by
  by_cases hnum : ∃ n, a = .num n
  · obtain ⟨n, rfl⟩ := hnum
    obtain ⟨m, rfl, hnm⟩ := exists_num_of_strictEquals hab
    obtain ⟨l, rfl, hml⟩ := exists_num_of_strictEquals hbc
    exact Double.same_trans hnm hml
  · have ha : ∀ n, a ≠ .num n := fun n hn => hnum ⟨n, hn⟩
    have hb : ∀ m, b ≠ .num m := by
      rintro m rfl
      obtain ⟨n, rfl, -⟩ := exists_num_of_strictEquals ((strictEquals_comm _ _).trans hab)
      exact ha n rfl
    rw [strictEquals_eq_same ha] at hab ⊢
    rw [strictEquals_eq_same hb] at hbc
    exact Json.same_trans hab hbc

theorem sameNumber_comm (a b : Json) : sameNumber a b = sameNumber b a := by
  unfold sameNumber
  cases toNumber? a with
  | none => cases toNumber? b <;> rfl
  | some x =>
    cases toNumber? b with
    | none => rfl
    | some y => exact Double.same_comm x y

/-- Loose equality reads both sides as numbers, and then they are not strictly equal, or it is
strict equality.  Which of the two it is does not depend on the order of the sides. -/
theorem looseEquals_cases (a b : Json) :
    (looseEquals a b = sameNumber a b ∧ looseEquals b a = sameNumber b a ∧
      strictEquals a b = false) ∨
    (looseEquals a b = strictEquals a b ∧ looseEquals b a = strictEquals b a) := by
  cases a with
  | num n =>
    cases b with
    | str | bool => exact Or.inl ⟨rfl, rfl, rfl⟩
    | null | num | arr | obj => exact Or.inr ⟨rfl, rfl⟩
  | str | bool =>
    cases b with
    | num => exact Or.inl ⟨rfl, rfl, rfl⟩
    | null | bool | str | arr | obj => exact Or.inr ⟨rfl, rfl⟩
  | null | arr | obj => cases b <;> exact Or.inr ⟨rfl, rfl⟩

theorem looseEquals_comm (a b : Json) : looseEquals a b = looseEquals b a := by
  rcases looseEquals_cases a b with ⟨hab, hba, -⟩ | ⟨hab, hba⟩
  · rw [hab, hba, sameNumber_comm]
  · rw [hab, hba, strictEquals_comm]

theorem looseEquals_of_strictEquals (h : strictEquals a b = true) : looseEquals a b = true := by
  rcases looseEquals_cases a b with ⟨-, -, hstrict⟩ | ⟨hab, -⟩
  · rw [hstrict] at h
    cases h
  · rw [hab, h]

/-! ### Orders -/

section texts

variable {s t : String}

theorem textOrder_eq_lt_iff : textOrder s t = .lt ↔ s < t := by
  unfold textOrder
  split
  · exact iff_of_true rfl ‹_›
  · split <;> exact iff_of_false nofun ‹_›

theorem textOrder_eq_iff : textOrder s t = .eq ↔ s = t := by
  unfold textOrder
  constructor
  · grind
  · rintro rfl
    rw [if_neg (String.lt_irrefl s), if_pos rfl]

theorem textOrder_eq_gt_iff : textOrder s t = .gt ↔ t < s := by
  unfold textOrder
  split
  · exact iff_of_false nofun (String.lt_asymm ‹_›)
  · rename_i hle
    split
    · rename_i heq
      rw [heq]
      exact iff_of_false nofun (String.lt_irrefl t)
    · rename_i hne
      refine iff_of_true rfl (Decidable.byContradiction fun hge => hne ?_)
      exact String.le_antisymm (String.not_lt.mp hge) (String.not_lt.mp hle)

theorem textOrder_swap (s t : String) : (textOrder s t).swap = textOrder t s := by
  cases h : textOrder s t with
  | lt => exact (textOrder_eq_gt_iff.mpr (textOrder_eq_lt_iff.mp h)).symm
  | eq => exact (textOrder_eq_iff.mpr (textOrder_eq_iff.mp h).symm).symm
  | gt => exact (textOrder_eq_lt_iff.mpr (textOrder_eq_gt_iff.mp h)).symm

end texts

/-- The order of two values that are not both texts is that of the numbers they are read as. -/
theorem order?_eq_bind (h : ∀ s t, ¬ (a = .str s ∧ b = .str t)) :
    order? a b = (toNumber? a).bind fun x => (toNumber? b).bind fun y => x.compare? y := by
  unfold order?
  split
  · exact absurd ⟨rfl, rfl⟩ (h _ _)
  · cases toNumber? a with
    | none => rfl
    | some x => cases toNumber? b <;> rfl

/-- The order of two values turns round with them. -/
theorem order?_swap (a b : Json) : (order? a b).map Ordering.swap = order? b a := by
  by_cases h : ∃ s t, a = .str s ∧ b = .str t
  · obtain ⟨s, t, rfl, rfl⟩ := h
    exact congrArg some (textOrder_swap s t)
  · have hab : ∀ s t, ¬ (a = .str s ∧ b = .str t) := fun s t hst => h ⟨s, t, hst⟩
    rw [order?_eq_bind hab, order?_eq_bind fun s t hst => hab t s hst.symm]
    cases toNumber? a with
    | none => cases toNumber? b <;> rfl
    | some x =>
      cases toNumber? b with
      | none => rfl
      | some y => exact Double.compare?_swap x y

/-- The order operator with its sides the other way round. -/
def Comparison.turned : Comparison → Comparison
  | .less => .greater
  | .lessEqual => .greaterEqual
  | .greater => .less
  | .greaterEqual => .lessEqual
  | op => op

theorem Comparison.holds_turned (op : Comparison) (a b : Json) :
    op.turned.holds b a = op.holds a b := by
  cases op with
  | equal => exact looseEquals_comm b a
  | notEqual => exact congrArg (!·) (looseEquals_comm b a)
  | strictEqual => exact strictEquals_comm b a
  | strictNotEqual => exact congrArg (!·) (strictEquals_comm b a)
  | less | lessEqual | greater | greaterEqual =>
    unfold holds turned
    rw [← order?_swap a b]
    cases order? a b with
    | none => rfl
    | some o => cases o <;> rfl

/-- Two texts, or two numbers that are no NaN. -/
inductive Comparable : Json → Json → Prop
  | texts (s t : String) : Comparable (.str s) (.str t)
  | numbers {n m : Json.Number} (hn : n.NanFree) (hm : m.NanFree) : Comparable (.num n) (.num m)

/-- Two texts or two numbers stand in an order, and it is that of equality if they are equal. -/
theorem Comparable.exists_order (h : Comparable a b) :
    ∃ o, order? a b = some o ∧ (strictEquals a b = true ↔ o = .eq) := by
  cases h with
  | texts s t =>
    refine ⟨textOrder s t, rfl, ?_⟩
    rw [textOrder_eq_iff]
    exact beq_iff_eq
  | @numbers n m hn hm =>
    obtain ⟨o, horder⟩ := Double.exists_compare? hn.toDouble_ne_nan hm.toDouble_ne_nan
    refine ⟨o, horder, (Double.same_iff_compare?_eq n.toDouble m.toDouble).trans ?_⟩
    rw [horder, Option.some.injEq]

/-! ### The laws -/

/-- Exactly one of three statements is true. -/
def ExactlyOne (p q r : Prop) : Prop :=
  (p ∧ ¬ q ∧ ¬ r) ∨ (¬ p ∧ q ∧ ¬ r) ∨ (¬ p ∧ ¬ q ∧ r)

/-- What the comparison operators have in common for any values. -/
structure ComparisonLaws (a b c : Json) : Prop where
  strictEqual_self : a.NanFree → Comparison.strictEqual.holds a a = true
  strictEqual_comm : Comparison.strictEqual.holds a b = Comparison.strictEqual.holds b a
  strictEqual_trans : Comparison.strictEqual.holds a b = true →
    Comparison.strictEqual.holds b c = true → Comparison.strictEqual.holds a c = true
  equal_self : a.NanFree → Comparison.equal.holds a a = true
  equal_comm : Comparison.equal.holds a b = Comparison.equal.holds b a
  equal_of_strictEqual : Comparison.strictEqual.holds a b = true →
    Comparison.equal.holds a b = true
  less_eq_greater : Comparison.less.holds a b = Comparison.greater.holds b a
  lessEqual_eq_greaterEqual : Comparison.lessEqual.holds a b = Comparison.greaterEqual.holds b a
  not_less_greater : ¬ (Comparison.less.holds a b = true ∧ Comparison.greater.holds a b = true)
  exactlyOne : Comparable a b → ExactlyOne (Comparison.less.holds a b = true)
    (Comparison.strictEqual.holds a b = true) (Comparison.greater.holds a b = true)
  lessEqual_eq_not_greater : Comparable a b →
    Comparison.lessEqual.holds a b = !Comparison.greater.holds a b

theorem Comparison.holds_of_order? {o : Ordering} (h : order? a b = some o) :
    Comparison.less.holds a b = (o == .lt) ∧ Comparison.lessEqual.holds a b = (o != .gt) ∧
      Comparison.greater.holds a b = (o == .gt) := by
  simp only [holds, h, orderHolds, and_self]

theorem not_less_greater (a b : Json) :
    ¬ (Comparison.less.holds a b = true ∧ Comparison.greater.holds a b = true) := by
  rintro ⟨hless, hgreater⟩
  cases horder : order? a b with
  | none => simp [Comparison.holds, horder] at hless
  | some o =>
    obtain ⟨hlt, -, hgt⟩ := Comparison.holds_of_order? horder
    rw [hless] at hlt
    rw [hgreater] at hgt
    cases o <;> contradiction

theorem Comparable.exactlyOne (h : Comparable a b) :
    ExactlyOne (Comparison.less.holds a b = true) (Comparison.strictEqual.holds a b = true)
      (Comparison.greater.holds a b = true) := by
  obtain ⟨o, horder, hequal⟩ := h.exists_order
  obtain ⟨hless, -, hgreater⟩ := Comparison.holds_of_order? horder
  rw [hless, hgreater, Comparison.holds, hequal]
  unfold ExactlyOne
  cases o <;> decide

theorem Comparable.lessEqual_eq_not_greater (h : Comparable a b) :
    Comparison.lessEqual.holds a b = !Comparison.greater.holds a b := by
  obtain ⟨o, horder, -⟩ := h.exists_order
  obtain ⟨-, hle, hgreater⟩ := Comparison.holds_of_order? horder
  rw [hle, hgreater, bne]

/-- The comparison operators keep to their laws for all values, of which a NaN alone does not equal
itself.  There is no NaN in a document that is read, nor in a value that a script comes to. -/
theorem comparisons_lawful :
    (∀ a b c : Json, ComparisonLaws a b c) ∧
    (∀ octets v, Json.parse octets = .ok v → v.NanFree) ∧
    (∀ source body v, (Json.obj body).NanFree → evaluate source body = .ok v → v.NanFree) := by
  refine ⟨fun a b c => ?_, fun _ _ => Json.nanFree_of_parse,
    fun _ _ _ hbody => nanFree_evaluate hbody⟩
  exact {
    strictEqual_self := strictEquals_self
    strictEqual_comm := strictEquals_comm a b
    strictEqual_trans := strictEquals_trans
    equal_self := fun h => looseEquals_of_strictEquals (strictEquals_self h)
    equal_comm := looseEquals_comm a b
    equal_of_strictEqual := looseEquals_of_strictEquals
    less_eq_greater := (Comparison.holds_turned .less a b).symm
    lessEqual_eq_greaterEqual := (Comparison.holds_turned .lessEqual a b).symm
    not_less_greater := not_less_greater a b
    exactlyOne := Comparable.exactlyOne
    lessEqual_eq_not_greater := Comparable.lessEqual_eq_not_greater }

/-- Two whole numbers equal the double that is nearest to both, and so each other. -/
theorem comparisons_lawful_of_near :
    Json.parseText (Json.int 9007199254740993).compact = .ok (.int 9007199254740993) ∧
      Comparison.strictEqual.holds (.int 9007199254740993) (.int 9007199254740993) = true ∧
      Comparison.strictEqual.holds (.int 9007199254740993)
        (.num (.real (Double.ofInt 9007199254740992))) = true ∧
      Comparison.strictEqual.holds (.num (.real (Double.ofInt 9007199254740992)))
        (.int 9007199254740992) = true ∧
      Comparison.strictEqual.holds (.int 9007199254740993) (.int 9007199254740992) = true ∧
      Comparison.lessEqual.holds (.int 9007199254740993)
        (.num (.real (Double.ofInt 9007199254740992))) =
          !Comparison.greater.holds (.int 9007199254740993)
            (.num (.real (Double.ofInt 9007199254740992))) := by
  have hparse : Json.parseText (Json.int 9007199254740993).compact = .ok (.int 9007199254740993) :=
    Json.parseText_compact trivial ⟨by decide, by decide⟩ (by decide)
  have hdouble : Comparison.strictEqual.holds (.int 9007199254740993)
      (.num (.real (Double.ofInt 9007199254740992))) = true := by decide +kernel
  have hwhole : Comparison.strictEqual.holds (.num (.real (Double.ofInt 9007199254740992)))
      (.int 9007199254740992) = true := by decide +kernel
  have hreal : Json.Number.NanFree (.real (Double.ofInt 9007199254740992)) :=
    Json.Number.nanFree_real (Double.ofInt_ne_nan _)
  obtain ⟨hlaws, hparsed, -⟩ := comparisons_lawful
  have h := hlaws (.int 9007199254740993) (.num (.real (Double.ofInt 9007199254740992)))
    (.int 9007199254740992)
  exact ⟨hparse, h.strictEqual_self (hparsed _ _ hparse), hdouble, hwhole,
    h.strictEqual_trans hdouble hwhole,
    h.lessEqual_eq_not_greater (.numbers (Json.Number.nanFree_whole _) hreal)⟩

/-- Loose equality is not transitive. -/
example : Comparison.equal.holds (.str "1") (.int 1) = true ∧
    Comparison.equal.holds (.int 1) (.str "1.0") = true ∧
    Comparison.equal.holds (.str "1") (.str "1.0") = false := by
  decide +kernel

end HttpScenario.Script
