import HttpScenario.Proofs.Double.Whole
/-!
# Rounding keeps the order

Rounding to the nearest double never turns the order of two whole numbers round, it can only make
them equal (`compare?_ofInt`, for `nearOrder`).  A whole number below 2⁵³ in magnitude is a double
itself, and no other whole number is rounded to it (`ofInt_inj`).

What is shown of units is that rounding them is monotone (`roundUnits_mono`).  Two numbers of units
with the same number of bits are rounded to multiples of the same power of two, and dividing with a
half going to the even side is monotone (`divideHalfEven_mono`).  Two with different numbers of bits
have a power of two between them that neither is rounded past (`pow_log2_le_roundUnits`,
`roundUnits_le_pow_succ_log2`).
-/

namespace HttpScenario.Double

/-! ### Dividing to the nearest whole number -/

theorem div_le_divideHalfEven (num den : Nat) : num / den ≤ divideHalfEven num den := by
  unfold divideHalfEven
  dsimp only
  split
  · exact Nat.le_refl _
  · split <;> omega

theorem divideHalfEven_le_succ (num den : Nat) : divideHalfEven num den ≤ num / den + 1 := by
  unfold divideHalfEven
  dsimp only
  split
  · exact Nat.le_succ _
  · split <;> omega

theorem divideHalfEven_mul {den : Nat} (hden : 0 < den) (quotient : Nat) :
    divideHalfEven (quotient * den) den = quotient := by
  unfold divideHalfEven
  simp [Nat.mul_div_cancel quotient hden, hden]

/-- A larger number has a quotient that is no smaller.  Where the quotients before rounding are the
same, the rests decide. -/
theorem divideHalfEven_mono {num other : Nat} (h : num ≤ other) (den : Nat) :
    divideHalfEven num den ≤ divideHalfEven other den := by
  have hquotients : num / den ≤ other / den := Nat.div_le_div_right h
  rcases Nat.lt_or_eq_of_le hquotients with hlt | heq
  · exact Nat.le_trans (divideHalfEven_le_succ num den)
      (Nat.le_trans hlt (div_le_divideHalfEven other den))
  · have hrests : num % den ≤ other % den := by
      have hnum := Nat.div_add_mod num den
      have hother := Nat.div_add_mod other den
      rw [heq] at hnum
      omega
    unfold divideHalfEven
    dsimp only
    rw [heq]
    by_cases hbelow : 2 * (num % den) < den
    · rw [if_pos hbelow]
      exact div_le_divideHalfEven other den
    · rw [if_neg hbelow, if_neg (by omega : ¬ 2 * (other % den) < den)]
      by_cases habove : den < 2 * (num % den)
      · have hother : den < 2 * (other % den) := by omega
        exact Nat.le_of_eq (by rw [if_pos habove, if_pos hother])
      · rw [if_neg habove]
        split <;> omega

/-! ### Rounding units -/

theorem roundUnits_one (units : Nat) :
    roundUnits units 1 =
      divideHalfEven units (Nat.pow 2 (units.log2 - 52)) * Nat.pow 2 (units.log2 - 52) := by
  simp only [roundUnits, Nat.div_one, Nat.one_mul]

theorem roundUnits_of_log2_le {units : Nat} (h : units.log2 ≤ 52) : roundUnits units 1 = units := by
  apply roundUnits_of_dvd
  rw [Nat.sub_eq_zero_of_le h]
  exact Nat.one_dvd _

section granule

variable {units quotient : Nat}

/-- Rounding goes to a multiple of a power of two, and so not below one that is reached. -/
theorem mul_pow_le_roundUnits (h : quotient * Nat.pow 2 (units.log2 - 52) ≤ units) :
    quotient * Nat.pow 2 (units.log2 - 52) ≤ roundUnits units 1 := by
  have hpos : 0 < Nat.pow 2 (units.log2 - 52) := Nat.pow_pos (by decide)
  have hquotient := divideHalfEven_mono h (Nat.pow 2 (units.log2 - 52))
  rw [divideHalfEven_mul hpos] at hquotient
  rw [roundUnits_one]
  exact Nat.mul_le_mul_right _ hquotient

/-- Nor does it go above such a multiple that is not passed. -/
theorem roundUnits_le_mul_pow (h : units ≤ quotient * Nat.pow 2 (units.log2 - 52)) :
    roundUnits units 1 ≤ quotient * Nat.pow 2 (units.log2 - 52) := by
  have hpos : 0 < Nat.pow 2 (units.log2 - 52) := Nat.pow_pos (by decide)
  have hquotient := divideHalfEven_mono h (Nat.pow 2 (units.log2 - 52))
  rw [divideHalfEven_mul hpos] at hquotient
  rw [roundUnits_one]
  exact Nat.mul_le_mul_right _ hquotient

end granule

/-- Rounding does not go below the power of two that a number of units has reached. -/
theorem pow_log2_le_roundUnits {units : Nat} (h : units ≠ 0) :
    Nat.pow 2 units.log2 ≤ roundUnits units 1 := by
  have hsplit : Nat.pow 2 units.log2 =
      Nat.pow 2 (min units.log2 52) * Nat.pow 2 (units.log2 - 52) := by
    show 2 ^ units.log2 = 2 ^ _ * 2 ^ _
    rw [← Nat.pow_add]
    congr 1
    omega
  have hreached : Nat.pow 2 units.log2 ≤ units := Nat.log2_self_le h
  rw [hsplit] at hreached ⊢
  exact mul_pow_le_roundUnits hreached

/-- Rounding does not go above the power of two that a number of units has not reached. -/
theorem roundUnits_le_pow_succ_log2 (units : Nat) :
    roundUnits units 1 ≤ Nat.pow 2 (units.log2 + 1) := by
  have hsplit : Nat.pow 2 (units.log2 + 1) =
      Nat.pow 2 (min units.log2 52 + 1) * Nat.pow 2 (units.log2 - 52) := by
    show 2 ^ (units.log2 + 1) = 2 ^ _ * 2 ^ _
    rw [← Nat.pow_add]
    congr 1
    omega
  have hmissed : units ≤ Nat.pow 2 (units.log2 + 1) := Nat.le_of_lt Nat.lt_log2_self
  rw [hsplit] at hmissed ⊢
  exact roundUnits_le_mul_pow hmissed

/-- Rounding is monotone. -/
theorem roundUnits_mono {units other : Nat} (h : units ≤ other) :
    roundUnits units 1 ≤ roundUnits other 1 := by
  by_cases hzero : units = 0
  · subst hzero
    rw [roundUnits_of_log2_le (by decide)]
    exact Nat.zero_le _
  · have hother : other ≠ 0 := by omega
    have hlogs : units.log2 ≤ other.log2 :=
      (Nat.le_log2 hother).mpr (Nat.le_trans (Nat.log2_self_le hzero) h)
    rcases Nat.lt_or_eq_of_le hlogs with hlt | heq
    · -- the power of two between them
      calc roundUnits units 1 ≤ Nat.pow 2 (units.log2 + 1) := roundUnits_le_pow_succ_log2 units
        _ ≤ Nat.pow 2 other.log2 := Nat.pow_le_pow_right (by decide) hlt
        _ ≤ roundUnits other 1 := pow_log2_le_roundUnits hother
    · -- multiples of one power of two
      rw [roundUnits_one, roundUnits_one, heq]
      exact Nat.mul_le_mul_right _ (divideHalfEven_mono h _)

theorem roundUnits_pos {units : Nat} (h : units ≠ 0) : 0 < roundUnits units 1 :=
  Nat.lt_of_lt_of_le (Nat.pow_pos (by decide)) (pow_log2_le_roundUnits h)

/-! ### Whole numbers -/

/-- A number that reaches a power of two has at least as many units. -/
theorem pow_le_mul_pow {n : Nat} {e : Nat} (h : Nat.pow 2 e ≤ n) (k : Nat) :
    1 * Nat.pow 2 (e + k) ≤ n * Nat.pow 2 k := by
  show 1 * 2 ^ (e + k) ≤ _
  rw [Nat.one_mul, Nat.pow_add]
  exact Nat.mul_le_mul_right _ h

/-- A number up to a power of two has at most as many units. -/
theorem mul_pow_le {n : Nat} {e : Nat} (h : n ≤ Nat.pow 2 e) (k : Nat) :
    n * Nat.pow 2 k ≤ 1 * Nat.pow 2 (e + k) := by
  show _ ≤ 1 * 2 ^ (e + k)
  rw [Nat.one_mul, Nat.pow_add]
  exact Nat.mul_le_mul_right _ h

/-- A power of two needs no rounding. -/
theorem roundUnits_pow (k : Nat) : roundUnits (1 * Nat.pow 2 k) 1 = 1 * Nat.pow 2 k :=
  roundUnits_mul_pow k (by decide)

/-- What has been rounded needs no further rounding. -/
theorem roundUnits_roundUnits (units : Nat) :
    roundUnits (roundUnits units 1) 1 = roundUnits units 1 := by
  by_cases hzero : units = 0
  · rw [hzero]
    decide
  have hlow := pow_log2_le_roundUnits hzero
  have hhigh := roundUnits_le_pow_succ_log2 units
  rcases Nat.lt_or_eq_of_le hhigh with hless | hfull
  · -- as many bits as before, and so a multiple of the same power of two
    have hne : roundUnits units 1 ≠ 0 := Nat.ne_of_gt (roundUnits_pos hzero)
    have hlog : (roundUnits units 1).log2 = units.log2 := by
      have hge : units.log2 ≤ (roundUnits units 1).log2 := (Nat.le_log2 hne).mpr hlow
      have hlt : (roundUnits units 1).log2 < units.log2 + 1 := (Nat.log2_lt hne).mpr hless
      omega
    apply roundUnits_of_dvd
    rw [hlog, roundUnits_one]
    exact Nat.dvd_mul_left ..
  · rw [hfull, ← Nat.one_mul (Nat.pow 2 (units.log2 + 1))]
    exact roundUnits_pow (units.log2 + 1)

/-- Up to 2⁶⁴, rounding stays below the units that are infinite. -/
theorem roundUnits_mul_unit_lt {n : Nat} (h : n ≤ 18446744073709551616) :
    roundUnits (n * unit) 1 < ceiling := by
  have hround : roundUnits (n * unit) 1 ≤ 1 * Nat.pow 2 (64 + unitBits) := by
    rw [← roundUnits_pow]
    unfold unit
    exact roundUnits_mono (mul_pow_le h unitBits)
  have hpower : 1 * Nat.pow 2 (64 + unitBits) < ceiling := by
    unfold ceiling
    apply mul_pow_lt
    · decide
    · decide
  exact Nat.lt_of_le_of_lt hround hpower

theorem roundUnits_mul_unit {n : Nat} (h : n < 9007199254740992) :
    roundUnits (n * unit) 1 = n * unit := by
  unfold unit
  exact roundUnits_mul_pow unitBits h

/-- The units of a number below 2⁵³ are those of no other number after rounding. -/
theorem roundUnits_mul_unit_inj {n m : Nat} (h : n < 9007199254740992) :
    roundUnits (n * unit) 1 = roundUnits (m * unit) 1 ↔ n = m := by
  constructor
  · intro heq
    rw [roundUnits_mul_unit h] at heq
    rcases Nat.lt_or_ge m 9007199254740992 with hm | hm
    · rw [roundUnits_mul_unit hm] at heq
      exact Nat.eq_of_mul_eq_mul_right unit_pos heq
    · -- 2⁵³ stands between the two, before rounding and after it
      have hlow : n * unit < 1 * Nat.pow 2 (53 + unitBits) := by
        rw [Nat.one_mul]
        unfold unit
        exact mul_pow_lt unitBits (53 + unitBits) h (Nat.le_refl _)
      have hhigh : 1 * Nat.pow 2 (53 + unitBits) ≤ roundUnits (m * unit) 1 := by
        rw [← roundUnits_pow]
        unfold unit
        exact roundUnits_mono (pow_le_mul_pow hm unitBits)
      omega
  · rintro rfl
    rfl

/-- The units of the double nearest to a whole number, with its sign. -/
def place (value : Int) : Int :=
  if value < 0 then -(roundUnits (value.natAbs * unit) 1 : Int)
  else roundUnits (value.natAbs * unit) 1

theorem place_mono {a b : Int} (h : a ≤ b) : place a ≤ place b := by
  unfold place
  by_cases ha : a < 0
  · by_cases hb : b < 0
    · have hround : roundUnits (b.natAbs * unit) 1 ≤ roundUnits (a.natAbs * unit) 1 :=
        roundUnits_mono (Nat.mul_le_mul_right _ (by omega))
      rw [if_pos ha, if_pos hb]
      omega
    · rw [if_pos ha, if_neg hb]
      omega
  · have hb : ¬ b < 0 := by omega
    have hround : roundUnits (a.natAbs * unit) 1 ≤ roundUnits (b.natAbs * unit) 1 :=
      roundUnits_mono (Nat.mul_le_mul_right _ (by omega))
    rw [if_neg ha, if_neg hb]
    omega

/-- What is not zero is not rounded to zero, so that the sign stays. -/
theorem place_neg_iff {value : Int} : place value < 0 ↔ value < 0 := by
  unfold place
  by_cases hvalue : value < 0
  · have hpos : 0 < roundUnits (value.natAbs * unit) 1 :=
      roundUnits_pos (Nat.mul_ne_zero (by omega) (Nat.ne_of_gt unit_pos))
    rw [if_pos hvalue]
    omega
  · rw [if_neg hvalue]
    omega

/-- Two places are the same if their signs and their units are. -/
theorem place_eq_iff {a b : Int} :
    place a = place b ↔ (a < 0 ↔ b < 0) ∧
      roundUnits (a.natAbs * unit) 1 = roundUnits (b.natAbs * unit) 1 := by
  constructor
  · intro h
    have hsigns : a < 0 ↔ b < 0 := by
      rw [← place_neg_iff, h, place_neg_iff]
    refine ⟨hsigns, ?_⟩
    unfold place at h
    by_cases ha : a < 0
    · rw [if_pos ha, if_pos (hsigns.mp ha)] at h
      omega
    · rw [if_neg ha, if_neg (mt hsigns.mpr ha)] at h
      omega
  · rintro ⟨hsigns, hround⟩
    unfold place
    simp only [hsigns, hround]

/-- A whole number up to 2⁶⁴ in magnitude is not rounded to an infinity. -/
theorem ofInt_of_le {value : Int} (h : value.natAbs ≤ 18446744073709551616) :
    ofInt value = .finite (value < 0) (roundUnits (value.natAbs * unit) 1) := by
  unfold ofInt ofQuotient ofUnits
  rw [if_pos (roundUnits_mul_unit_lt h)]

theorem rank_ofInt {value : Int} (h : value.natAbs ≤ 18446744073709551616) :
    (ofInt value).rank = some (place value) := by
  rw [ofInt_of_le h]
  unfold rank place
  by_cases hvalue : value < 0 <;> simp [hvalue]

/-- The other sign. -/
theorem neg_ofInt {value : Int} (h : value.natAbs ≤ 18446744073709551616) (hne : value ≠ 0) :
    (ofInt value).neg = ofInt (-value) := by
  have hsign : (!decide (value < 0)) = decide (-value < 0) := by
    rw [← decide_not, decide_eq_decide]
    omega
  rw [ofInt_of_le h, ofInt_of_le (by omega : (-value).natAbs ≤ _), neg, Int.natAbs_neg, hsign]

/-- If the double nearest to a whole number is whole itself, then it is the double nearest to the
whole number that it is. -/
theorem ofInt_of_truncate? {value whole : Int} (h : value.natAbs ≤ 18446744073709551616)
    (hwhole : (ofInt value).isWhole = true) (htruncate : (ofInt value).truncate? = some whole) :
    ofInt whole = ofInt value := by
  have hbelow := roundUnits_mul_unit_lt h
  have hidle := roundUnits_roundUnits (value.natAbs * unit)
  have hpos : value ≠ 0 → 0 < roundUnits (value.natAbs * unit) 1 := fun hne =>
    roundUnits_pos (Nat.mul_ne_zero (by omega) (Nat.ne_of_gt unit_pos))
  rw [ofInt_of_le h] at hwhole htruncate ⊢
  generalize roundUnits (value.natAbs * unit) 1 = units at hbelow hidle hpos hwhole htruncate ⊢
  simp only [isWhole, beq_iff_eq] at hwhole
  simp only [truncate?, Option.some.injEq] at htruncate
  have hunits : units / unit * unit = units := Nat.div_mul_cancel (Nat.dvd_of_mod_eq_zero hwhole)
  generalize units / unit = quotient at htruncate hunits
  have habs : whole.natAbs = quotient := by
    rw [← htruncate]
    split <;> omega
  have hsign : whole < 0 ↔ value < 0 := by
    rw [← htruncate]
    by_cases hneg : value < 0
    · -- the units are not zero, and so neither is the quotient
      have hquotient : 0 < quotient := Nat.pos_of_mul_pos_right (hunits.symm ▸ hpos (by omega))
      simp only [hneg, decide_true, if_true, iff_true]
      omega
    · simp only [hneg, decide_false, iff_false]
      exact Int.not_lt.mpr (Int.natCast_nonneg quotient)
  unfold ofInt ofQuotient ofUnits
  rw [habs, hunits, hidle, if_pos hbelow]
  simp only [hsign]

/-! ### Comparing -/

theorem same_of_rank {a b : Double} {x y : Int} (ha : a.rank = some x) (hb : b.rank = some y) :
    a.same b = decide (x = y) := by
  unfold same
  rw [ha, hb]
  rfl

theorem compare?_of_rank {a b : Double} {x y : Int} (ha : a.rank = some x)
    (hb : b.rank = some y) : a.compare? b = some (compare x y) := by
  unfold compare?
  rw [ha, hb]

/-- The order of two whole numbers, of which those with one nearest double count as equal. -/
def nearOrder (a b : Int) : Ordering :=
  if ofInt a = ofInt b then .eq else compare a b

theorem isEq_nearOrder (a b : Int) : (nearOrder a b).isEq = decide (ofInt a = ofInt b) := by
  unfold nearOrder
  by_cases h : ofInt a = ofInt b
  · simp [h]
  · have hne : compare a b ≠ .eq := by
      intro heq
      exact h (congrArg ofInt (Int.compare_eq_eq.mp heq))
    rw [if_neg h, decide_eq_false h]
    cases hcompare : compare a b with
    | eq => exact absurd hcompare hne
    | lt | gt => rfl

section order

variable {a b : Int} (ha : a.natAbs ≤ 18446744073709551616) (hb : b.natAbs ≤ 18446744073709551616)

include ha hb

/-- Two whole numbers have one nearest double if those doubles have the same place. -/
theorem ofInt_eq_iff : ofInt a = ofInt b ↔ place a = place b := by
  constructor
  · intro h
    have hrank := congrArg rank h
    rw [rank_ofInt ha, rank_ofInt hb] at hrank
    exact Option.some.inj hrank
  · intro h
    obtain ⟨hsigns, hround⟩ := place_eq_iff.mp h
    rw [ofInt_of_le ha, ofInt_of_le hb, hround]
    simp only [hsigns]

theorem same_ofInt : (ofInt a).same (ofInt b) = decide (ofInt a = ofInt b) := by
  rw [same_of_rank (rank_ofInt ha) (rank_ofInt hb)]
  exact decide_eq_decide.mpr (ofInt_eq_iff ha hb).symm

/-- The doubles nearest to two whole numbers stand in the order of these, unless they are one. -/
theorem compare?_ofInt : (ofInt a).compare? (ofInt b) = some (nearOrder a b) := by
  rw [compare?_of_rank (rank_ofInt ha) (rank_ofInt hb)]
  unfold nearOrder
  have hequal := ofInt_eq_iff ha hb
  rcases Int.lt_trichotomy a b with hlt | rfl | hgt
  · have hle := place_mono (Int.le_of_lt hlt)
    by_cases heq : place a = place b
    · rw [if_pos (hequal.mpr heq), Int.compare_eq_eq.mpr heq]
    · rw [if_neg (mt hequal.mp heq), Int.compare_eq_lt.mpr hlt,
        Int.compare_eq_lt.mpr (by omega)]
  · rw [if_pos rfl, Int.compare_eq_eq.mpr rfl]
  · have hle := place_mono (Int.le_of_lt hgt)
    by_cases heq : place a = place b
    · rw [if_pos (hequal.mpr heq), Int.compare_eq_eq.mpr heq]
    · rw [if_neg (mt hequal.mp heq), Int.compare_eq_gt.mpr hgt,
        Int.compare_eq_gt.mpr (by omega)]

/-- No other whole number has the same nearest double as one below 2⁵³ in magnitude. -/
theorem ofInt_inj (hsmall : a.natAbs < 9007199254740992 ∨ b.natAbs < 9007199254740992) :
    ofInt a = ofInt b ↔ a = b := by
  rw [ofInt_eq_iff ha hb, place_eq_iff]
  constructor
  · rintro ⟨hsigns, hround⟩
    have habs : a.natAbs = b.natAbs := by
      rcases hsmall with hsmall | hsmall
      · exact (roundUnits_mul_unit_inj hsmall).mp hround
      · exact ((roundUnits_mul_unit_inj hsmall).mp hround.symm).symm
    omega
  · rintro rfl
    exact ⟨Iff.rfl, rfl⟩

/-- Where one of two whole numbers is below 2⁵³ in magnitude, none but equal ones count as equal. -/
theorem nearOrder_eq (hsmall : a.natAbs < 9007199254740992 ∨ b.natAbs < 9007199254740992) :
    nearOrder a b = compare a b := by
  unfold nearOrder
  split
  · rename_i heq
    exact (Int.compare_eq_eq.mpr ((ofInt_inj ha hb hsmall).mp heq)).symm
  · rfl

end order

end HttpScenario.Double
