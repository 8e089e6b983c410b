import HttpScenario.Text.Blank
import HttpScenario.Text.Letter
/-!
# Blanks among the characters

A blank is no digit, no letter and no numeral, so that it ends each run of these.
-/

namespace HttpScenario.Text

/-- Where the blanks stand among the characters. -/
def blankPlaces : List Nat :=
  [9, 10, 11, 12, 13, 0x20, 0x85, 0xA0, 0x1680, 0x2000, 0x2001, 0x2002, 0x2003, 0x2004, 0x2005,
   0x2006, 0x2007, 0x2008, 0x2009, 0x200A, 0x2028, 0x2029, 0x202F, 0x205F, 0x3000]

theorem mem_blankPlaces {c : Char} (h : isBlank c = true) : c.toNat ∈ blankPlaces := by
  simp only [isBlank, Bool.or_eq_true, Bool.and_eq_true, decide_eq_true_eq, beq_iff_eq] at h
  simp only [blankPlaces, List.mem_cons, List.not_mem_nil, or_false]
  omega

theorem isAlphanumeric_eq_false_of_isBlank {c : Char} (h : isBlank c = true) :
    isAlphanumeric c = false := by
  have hplaces : ∀ n ∈ blankPlaces, isAlphanumeric (Char.ofNat n) = false := by decide +kernel
  have hplace := hplaces c.toNat (mem_blankPlaces h)
  rwa [Char.ofNat_toNat] at hplace

theorem isBlank_eq_false_of_isDigit {c : Char} (h : c.isDigit = true) : isBlank c = false := by
  rw [Bool.eq_false_iff]
  intro hblank
  have hnone := isAlphanumeric_eq_false_of_isBlank hblank
  have hplace : c.toNat < 0x80 := by
    have hbounds : 48 ≤ c.toNat ∧ c.toNat ≤ 57 := Char.isDigit_iff_toNat.mp h
    omega
  rw [isAlphanumeric, isNumeric_ascii hplace, h, Bool.or_true] at hnone
  cases hnone

theorem isDigit_eq_false_of_isBlank {c : Char} (h : isBlank c = true) : c.isDigit = false := by
  rw [Bool.eq_false_iff]
  intro hdigit
  rw [isBlank_eq_false_of_isDigit hdigit] at h
  cases h

end HttpScenario.Text
