import Mathlib.Data.List.TakeWhile
import HttpScenario.Proofs.Double.Whole
/-!
# Decimals

What starts with a digit is read as a decimal if it is digits with at most one point among them
(`read?_digits`, `read?_fraction`), and with a second point it is no number
(`read?_second_point`).
-/

namespace HttpScenario.Double

/-- One digit or more. -/
def Digits (cs : List Char) : Prop :=
  cs ≠ [] ∧ ∀ c ∈ cs, c.isDigit = true

theorem Digits.cons {c : Char} (hc : c.isDigit = true) {cs : List Char}
    (h : ∀ d ∈ cs, d.isDigit = true) : Digits (c :: cs) :=
  ⟨List.cons_ne_nil c cs, List.forall_mem_cons.mpr ⟨hc, h⟩⟩

theorem Digits.not_mem {digits : List Char} (h : Digits digits) {c : Char}
    (hc : c.isDigit = false) : c ∉ digits := by
  intro hmem
  rw [h.2 c hmem] at hc
  cases hc

theorem digits_decimalDigits (n : Nat) : Digits (decimalDigits n) :=
  ⟨decimalDigits_ne_nil n, fun _ => isDigit_of_mem_decimalDigits⟩

theorem Digits.takeWhile_append {digits : List Char} (h : Digits digits) (rest : List Char)
    (hrest : ∀ c ∈ rest.head?, c.isDigit = false) :
    (digits ++ rest).takeWhile Char.isDigit = digits ∧
      (digits ++ rest).dropWhile Char.isDigit = rest := by
  rw [List.takeWhile_append_of_pos h.2, List.dropWhile_append_of_pos h.2]
  cases rest with
  | nil => simp
  | cons c rest => simp [hrest c rfl]

/-- What starts with a digit is read as a decimal, and as nothing else. -/
theorem read?_of_isDigit {c : Char} (hc : c.isDigit = true) (cs : List Char) :
    read? (String.ofList (c :: cs)) =
      (decimalParts? (c :: cs)).map fun parts => ofDecimal false parts.1 parts.2 := by
  have hletters : ∀ n, 48 ≤ n → n < 58 →
      (Char.ofNat n).toLower ≠ 'i' ∧ (Char.ofNat n).toLower ≠ 'n' := by decide
  have hbounds := toNat_of_isDigit hc
  obtain ⟨hi, hn⟩ := hletters c.toNat hbounds.1 (by omega)
  rw [Char.ofNat_toNat] at hi hn
  have hunsigned : readUnsigned? false (c :: cs) =
      (decimalParts? (c :: cs)).map fun parts => ofDecimal false parts.1 parts.2 := by
    unfold readUnsigned?
    cases decimalParts? (c :: cs) with
    | some parts => rfl
    | none => simp [hi, hn]
  unfold read?
  rw [String.toList_ofList]
  split
  · rename_i heq
    obtain ⟨rfl, -⟩ := List.cons.inj heq
    exact absurd hc (by decide)
  · rename_i heq
    obtain ⟨rfl, -⟩ := List.cons.inj heq
    exact absurd hc (by decide)
  · exact hunsigned

section read

variable {digits more : List Char} (h : Digits digits)

include h

theorem read?_digits :
    read? (String.ofList digits) = some (ofDecimal false (digitsValue digits) 0) := by
  obtain ⟨c, cs, rfl⟩ := List.exists_cons_of_ne_nil h.1
  obtain ⟨htake, hdrop⟩ := h.takeWhile_append [] nofun
  rw [List.append_nil] at htake hdrop
  rw [read?_of_isDigit (h.2 c List.mem_cons_self), decimalParts?]
  simp [htake, hdrop]

theorem read?_fraction (hmore : Digits more) :
    read? (String.ofList (digits ++ '.' :: more)) =
      some (ofDecimal false (digitsValue (digits ++ more)) (-(more.length : Int))) := by
  obtain ⟨htake, hdrop⟩ := h.takeWhile_append ('.' :: more) (by simp)
  obtain ⟨htake', hdrop'⟩ := hmore.takeWhile_append [] nofun
  rw [List.append_nil] at htake' hdrop'
  obtain ⟨c, cs, rfl⟩ := List.exists_cons_of_ne_nil h.1
  rw [List.cons_append] at htake hdrop ⊢
  rw [read?_of_isDigit (h.2 c List.mem_cons_self), decimalParts?]
  simp [htake, hdrop, htake', hdrop']

/-- A decimal has one point at most. -/
theorem read?_second_point (hmore : Digits more) (rest : List Char) :
    read? (String.ofList (digits ++ '.' :: (more ++ '.' :: rest))) = none := by
  obtain ⟨htake, hdrop⟩ :=
    h.takeWhile_append ('.' :: (more ++ '.' :: rest)) (by simp)
  obtain ⟨htake', hdrop'⟩ := hmore.takeWhile_append ('.' :: rest) (by simp)
  obtain ⟨c, cs, rfl⟩ := List.exists_cons_of_ne_nil h.1
  rw [List.cons_append] at htake hdrop ⊢
  rw [read?_of_isDigit (h.2 c List.mem_cons_self), decimalParts?]
  simp [htake, hdrop, htake', hdrop']

end read

end HttpScenario.Double
