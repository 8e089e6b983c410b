import HttpScenario.Double.Decimal
import HttpScenario.Double.Shortest
/-!
# Whole numbers as doubles

A whole number below 2⁵³ has at most 53 significant bits, so that rounding it changes nothing
(`ofInt_of_lt`).  Its digits in base ten stand for the number they were made of
(`digitsValue_decimalDigits`), and a decimal without an exponent is the double nearest to the number
of its digits (`ofDecimal_zero_exponent`).

The digits are an induction on the number, one digit at a time from the right.  Rounding is exact as
soon as the units are a multiple of the power of two that it rounds to (`roundUnits_of_dvd`).
-/

namespace HttpScenario.Double

/-! ### Digits -/

/-- Where the digits stand among the characters, in figures. -/
theorem toNat_of_isDigit {c : Char} (h : c.isDigit = true) : 48 ≤ c.toNat ∧ c.toNat ≤ 57 :=
  Char.isDigit_iff_toNat.mp h

theorem isDigit_of_mem_decimalDigits {n : Nat} {c : Char} (h : c ∈ decimalDigits n) :
    c.isDigit = true :=
  Nat.isDigit_of_mem_toDigits (by decide) (by decide) h

theorem decimalDigits_ne_nil (n : Nat) : decimalDigits n ≠ [] :=
  Nat.toDigits_ne_nil

theorem digitsValue_append_singleton (cs : List Char) (c : Char) :
    digitsValue (cs ++ [c]) = digitsValue cs * 10 + digitValue c := by
  unfold digitsValue
  rw [List.foldl_append]
  rfl

/-- All digits but the last are those of the quotient by ten. -/
theorem decimalDigits_step {n : Nat} (h : 10 ≤ n) :
    decimalDigits n = decimalDigits (n / 10) ++ [(n % 10).digitChar] :=
  Nat.toDigits_of_base_le (by decide) h

/-- The digits of a number stand for it. -/
theorem digitsValue_decimalDigits (n : Nat) : digitsValue (decimalDigits n) = n := by
  induction n using Nat.strongRecOn with
  | ind n ih =>
    have hlast : n % 10 < 10 := Nat.mod_lt n (by decide)
    have hvalue : digitValue (n % 10).digitChar = n % 10 := by
      unfold digitValue
      rw [Nat.toNat_digitChar_of_lt_ten hlast]
      exact Nat.add_sub_cancel_left ..
    by_cases hsmall : n < 10
    · rw [Nat.mod_eq_of_lt hsmall] at hvalue
      rw [decimalDigits, Nat.toDigits_of_lt_base hsmall]
      simp [digitsValue, hvalue]
    · rw [decimalDigits_step (by omega), digitsValue_append_singleton, ih (n / 10) (by omega), hvalue]
      omega

/-- A number that is not zero has no zero in front. -/
theorem decimalDigits_of_pos {n : Nat} (h : 0 < n) :
    ∃ c cs, decimalDigits n = c :: cs ∧ c ≠ '0' := by
  induction n using Nat.strongRecOn with
  | ind n ih =>
    by_cases hsmall : n < 10
    · refine ⟨n.digitChar, [], Nat.toDigits_of_lt_base hsmall, ?_⟩
      intro hzero
      exact Nat.ne_of_gt h (Nat.digitChar_eq_zero.mp hzero)
    · obtain ⟨c, cs, hdigits, hc⟩ := ih (n / 10) (by omega) (by omega)
      refine ⟨c, cs ++ [(n % 10).digitChar], ?_, hc⟩
      rw [decimalDigits_step (by omega), hdigits, List.cons_append]

/-! ### Rounding -/

/-- Units that are a multiple of the power of two that they are rounded to stay as they are. -/
theorem roundUnits_of_dvd {units : Nat} (h : Nat.pow 2 (units.log2 - 52) ∣ units) :
    roundUnits units 1 = units := by
  obtain ⟨quotient, hunits⟩ := h
  have hpos : 0 < Nat.pow 2 (units.log2 - 52) := Nat.pow_pos (by decide)
  unfold roundUnits divideHalfEven
  simp only [Nat.div_one, Nat.one_mul]
  generalize Nat.pow 2 (units.log2 - 52) = power at hunits hpos ⊢
  have hrest : units % power = 0 := by
    rw [hunits]
    exact Nat.mul_mod_right ..
  have hquotient : units / power = quotient := by
    rw [hunits]
    exact Nat.mul_div_cancel_left quotient hpos
  rw [hrest, hquotient, if_pos hpos, hunits]
  exact Nat.mul_comm ..

theorem mul_pow_lt {n : Nat} (k m : Nat) (h : n < 9007199254740992) (hle : 53 + k ≤ m) :
    n * Nat.pow 2 k < Nat.pow 2 m := by
  have hpow : n * 2 ^ k < 2 ^ (53 + k) := by
    rw [Nat.pow_add]
    exact Nat.mul_lt_mul_of_pos_right h (Nat.pow_pos (by decide))
  exact Nat.lt_of_lt_of_le hpow (Nat.pow_le_pow_right (by decide) hle)

/-- A number below 2⁵³ times a power of two needs no rounding. -/
theorem roundUnits_mul_pow {n : Nat} (k : Nat) (h : n < 9007199254740992) :
    roundUnits (n * Nat.pow 2 k) 1 = n * Nat.pow 2 k := by
  apply roundUnits_of_dvd
  by_cases hzero : n = 0
  · rw [hzero, Nat.zero_mul]
    exact Nat.dvd_zero ..
  · have hne : n * Nat.pow 2 k ≠ 0 := Nat.mul_ne_zero hzero (Nat.ne_of_gt (Nat.pow_pos (by decide)))
    have hlog : (n * Nat.pow 2 k).log2 < 53 + k :=
      (Nat.log2_lt hne).mpr (mul_pow_lt k (53 + k) h (Nat.le_refl _))
    have hpower : Nat.pow 2 ((n * Nat.pow 2 k).log2 - 52) ∣ Nat.pow 2 k :=
      Nat.pow_dvd_pow 2 (by omega)
    exact Nat.dvd_trans hpower (Nat.dvd_mul_left ..)

theorem unit_pos : 0 < unit := by
  unfold unit
  apply Nat.pow_pos
  decide

/-- A whole number below 2⁵³ is a double as it is. -/
theorem ofInt_of_lt {n : Nat} (h : n < 9007199254740992) :
    ofInt n = .finite false (n * unit) := by
  have hround : roundUnits (n * unit) 1 = n * unit := by
    unfold unit
    exact roundUnits_mul_pow unitBits h
  have hlt : n * unit < ceiling := by
    unfold unit ceiling
    apply mul_pow_lt _ _ h
    decide
  unfold ofInt ofQuotient ofUnits
  rw [Int.natAbs_natCast, hround, if_pos hlt]
  simp

/-! ### Decimals -/

theorem ofDecimal_zero_exponent (n : Nat) : ofDecimal false n 0 = ofInt n := by
  by_cases hzero : n = 0
  · rw [hzero, show ((0 : Nat) : Int) = 0 from rfl]
    decide +kernel
  · unfold ofDecimal ofInt
    rw [if_neg hzero, if_neg (by decide), if_neg (by omega), if_pos (Int.le_refl 0),
      Int.natAbs_natCast, decide_eq_false (by omega : ¬(n : Int) < 0)]
    simp

end HttpScenario.Double
