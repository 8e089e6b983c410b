import HttpScenario.Proofs.Double.Order
import HttpScenario.Proofs.Json.Equality
import HttpScenario.Proofs.Json.Rest
import HttpScenario.Proofs.Json.Tabular
/-!
# Documents that are read have no NaN in them

A number that has a fraction or an exponent is a significand that is multiplied or divided by a
power of ten.  The reader gives up where the product is not finite, and the powers that it divides
by are neither zero nor infinite (`tenTo_of_le`), so that no step gives a NaN (`scale?_ne_nan`).
-/

namespace HttpScenario.Json

open Double (roundUnits unit ceiling)

/-- A power of ten is finite and not zero as far up as the greatest power that is finite. -/
theorem tenTo_of_le {exponent greatest : Nat} (h : exponent ≤ greatest)
    (hgreatest : roundUnits (Nat.pow 10 greatest * unit) 1 < ceiling) :
    ∃ units, units ≠ 0 ∧ tenTo exponent = .finite false units := by
  have hne : Nat.pow 10 exponent * unit ≠ 0 :=
    Nat.mul_ne_zero (Nat.ne_of_gt (Nat.pow_pos (by decide))) (Nat.ne_of_gt Double.unit_pos)
  have hpower : Nat.pow 10 exponent ≤ Nat.pow 10 greatest := Nat.pow_le_pow_right (by decide) h
  have hround := Double.roundUnits_mono (Nat.mul_le_mul_right unit hpower)
  refine ⟨_, Nat.ne_of_gt (Double.roundUnits_pos hne), ?_⟩
  unfold tenTo Double.ofQuotient Double.ofUnits
  rw [if_pos (Nat.lt_of_le_of_lt hround hgreatest)]

theorem div_tenTo_ne_nan {d : Double} (hd : d ≠ .nan) {exponent : Nat} (h : exponent ≤ 308) :
    d.div (tenTo exponent) ≠ .nan := by
  obtain ⟨units, hunits, hpower⟩ := tenTo_of_le h (by decide +kernel)
  rw [hpower]
  exact Double.div_ne_nan hd false hunits

theorem scale?_ne_nan {significand : Nat} {exponent : Int} {d : Double}
    (h : scale? significand exponent = some d) : d ≠ .nan := by
  have hstart := Double.ofInt_ne_nan significand
  unfold scale? at h
  dsimp only at h
  split at h
  · obtain rfl := Option.some.inj h
    exact hstart
  split at h
  · cases h
  split at h
  · split at h
    · rename_i hfinite
      obtain rfl := Option.some.inj h
      exact Double.ne_nan_of_isFinite hfinite
    · cases h
  split at h
  · rename_i hdown
    obtain rfl := Option.some.inj h
    exact div_tenTo_ne_nan hstart hdown
  split at h
  · rename_i hdown
    obtain rfl := Option.some.inj h
    have hfirst := div_tenTo_ne_nan hstart (Nat.le_refl 308)
    exact div_tenTo_ne_nan hfirst (Nat.sub_le_of_le_add hdown)
  · obtain rfl := Option.some.inj h
    exact Double.zero_ne_nan

theorem signed_ne_nan {d : Double} (h : d ≠ .nan) (negative : Bool) : signed negative d ≠ .nan := by
  cases negative with
  | false => exact h
  | true => exact Double.neg_ne_nan h

theorem gives_finishReal (negative : Bool) (significand : Nat) (exponent : Int) (rest : Octets) :
    Gives (finishReal negative significand exponent rest) Number.NanFree := by
  unfold finishReal
  split
  · rename_i d hscale
    exact gives_ok (Number.nanFree_real (signed_ne_nan (scale?_ne_nan hscale) negative)) _
  · exact gives_error _

theorem gives_readExponent (negative : Bool) (significand : Nat) (exponent : Int) (s : Octets) :
    Gives (readExponent negative significand exponent s) Number.NanFree := by
  unfold readExponent
  -- the sign
  split
  split
  · exact gives_error _
  split
  · exact gives_error _
  dsimp only
  split
  · split
    · exact gives_error _
    · exact gives_ok (Number.nanFree_real (signed_ne_nan Double.zero_ne_nan negative)) _
  · exact gives_finishReal _ _ _ _

theorem gives_readFraction (negative : Bool) (significand : Nat) (exponent : Int) (s : Octets) :
    Gives (readFraction negative significand exponent s) Number.NanFree := by
  unfold readFraction
  split
  · dsimp only
    split
    · exact gives_error _
    split
    · split
      · exact gives_readExponent _ _ _ _
      · exact gives_finishReal _ _ _ _
    · exact gives_finishReal _ _ _ _
  · split
    · exact gives_readExponent _ _ _ _
    · exact gives_finishReal _ _ _ _
  · exact gives_finishReal _ _ _ _

theorem nanFree_wholeNumber (negative : Bool) (significand : Nat) :
    (wholeNumber negative significand).NanFree := by
  unfold wholeNumber
  split
  · exact Number.nanFree_whole _
  split
  · exact Number.nanFree_real (Double.neg_ne_nan (Double.ofInt_ne_nan _))
  · exact Number.nanFree_whole _

theorem gives_readNumber (negative : Bool) (s : Octets) :
    Gives (readNumber negative s) Number.NanFree := by
  unfold readNumber
  split
  · exact gives_error _
  split
  · exact gives_error _
  split
  · split
    · split
      · exact gives_error _
      split
      · exact gives_readFraction _ _ _ _
      · exact gives_ok (nanFree_wholeNumber _ _) _
    · exact gives_ok (nanFree_wholeNumber _ _) _
  · dsimp only
    split
    · exact gives_ok (nanFree_wholeNumber _ _) _
    · exact gives_readFraction _ _ _ _

/-- No document that is read has a NaN in it. -/
theorem nanFree_of_parse {octets : Octets} {v : Json} (h : parse octets = .ok v) : v.NanFree := by
  obtain ⟨rest, hread⟩ := exists_of_readWhole (mapError_eq_ok_iff.mp h)
  exact gives_readValue_all gives_readNumber (fun _ _ => trivial) maxLevels octets v rest hread

end HttpScenario.Json
