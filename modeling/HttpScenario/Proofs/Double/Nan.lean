import HttpScenario.Proofs.Double.Whole
/-!
# Where no NaN comes up

Among the doubles only a NaN does not equal itself (`same_self`) and has no place in the order
(`exists_rank`).  Rounding gives a number or an infinity, and so does dividing by a number that is
neither zero nor infinite (`div_ne_nan`).
-/

namespace HttpScenario.Double

variable {a b c d : Double}

/-! ### Comparing -/

theorem exists_rank (h : d ≠ .nan) : ∃ x, d.rank = some x := by
  cases d with
  | finite negative units => exact ⟨_, rfl⟩
  | infinite negative => exact ⟨_, rfl⟩
  | nan => exact absurd rfl h

theorem same_self (h : d ≠ .nan) : d.same d = true := by
  obtain ⟨x, hrank⟩ := exists_rank h
  exact same_iff.mpr ⟨x, hrank, hrank⟩

theorem same_trans (hab : a.same b = true) (hbc : b.same c = true) : a.same c = true := by
  obtain ⟨x, ha, hb⟩ := same_iff.mp hab
  obtain ⟨y, hb', hc⟩ := same_iff.mp hbc
  obtain rfl : x = y := Option.some.inj (hb.symm.trans hb')
  exact same_iff.mpr ⟨x, ha, hc⟩

theorem compare?_swap (a b : Double) : (a.compare? b).map Ordering.swap = b.compare? a := by
  unfold compare?
  cases a.rank with
  | none => cases b.rank <;> rfl
  | some x =>
    cases b.rank with
    | none => rfl
    | some y => exact congrArg some (Int.compare_swap x y)

/-- Doubles are equal exactly if they are in order and neither is the greater. -/
theorem same_iff_compare?_eq (a b : Double) : a.same b = true ↔ a.compare? b = some .eq := by
  unfold same compare?
  cases a.rank <;> cases b.rank <;> simp

/-- Two doubles that are no NaN stand in some order. -/
theorem exists_compare? (ha : a ≠ .nan) (hb : b ≠ .nan) : ∃ o, a.compare? b = some o := by
  obtain ⟨x, hx⟩ := exists_rank ha
  obtain ⟨y, hy⟩ := exists_rank hb
  unfold compare?
  rw [hx, hy]
  exact ⟨_, rfl⟩

/-! ### Arithmetic -/

theorem zero_ne_nan : zero ≠ .nan := nofun

theorem ofUnits_ne_nan (negative : Bool) (num den : Nat) : ofUnits negative num den ≠ .nan := by
  unfold ofUnits
  dsimp only
  split <;> nofun

theorem ofQuotient_ne_nan (negative : Bool) (num den : Nat) :
    ofQuotient negative num den ≠ .nan := by
  unfold ofQuotient
  exact ofUnits_ne_nan _ _ _

theorem ofInt_ne_nan (value : Int) : ofInt value ≠ .nan := by
  unfold ofInt
  exact ofQuotient_ne_nan _ _ _

theorem neg_ne_nan (h : d ≠ .nan) : d.neg ≠ .nan := by
  cases d with
  | finite | infinite => nofun
  | nan => exact absurd rfl h

theorem div_ne_nan (h : d ≠ .nan) (negative : Bool) {units : Nat} (hunits : units ≠ 0) :
    d.div (.finite negative units) ≠ .nan := by
  cases d with
  | finite sign others =>
    rw [div, if_neg hunits]
    exact ofUnits_ne_nan _ _ _
  | infinite sign => nofun
  | nan => exact absurd rfl h

theorem ne_nan_of_isFinite (h : d.isFinite = true) : d ≠ .nan := by
  rintro rfl
  cases h

end HttpScenario.Double
