import HttpScenario.Text.Utf8
/-!
# Writing and reading UTF-8

What is encoded is decoded to the text that it was (`Utf8.decode?_encode`).  One character is read
back from the octets it is written with, whatever follows them (`next_encodeNat`): each of the four
lengths has its range of first octets, and the second octet is held to the range that keeps other
lengths, surrogates and numbers beyond the last character out.

Octets below U+0080 stand for themselves, and characters from there on are written with octets from
there on only; what looks for an ASCII character in encoded text relies on both
(`encodeNat_ascii`, `le_of_mem_encodeNat`).
-/

namespace HttpScenario.Utf8

/-! ### Octets of a character -/

theorem toNat_ofNat {n : Nat} (h : n < 256) : (UInt8.ofNat n).toNat = n :=
  UInt8.toNat_ofNat_of_lt h

theorem encodeNat_ascii {n : Nat} (h : n < 0x80) : encodeNat n = [UInt8.ofNat n] := by
  unfold encodeNat
  rw [if_pos h]

theorem encodeNat_two {n : Nat} (hlow : 0x80 ≤ n) (h : n < 0x800) :
    encodeNat n = [UInt8.ofNat (0xC0 + n / 64), UInt8.ofNat (0x80 + n % 64)] := by
  unfold encodeNat
  rw [if_neg (Nat.not_lt.mpr hlow), if_pos h]

theorem encodeNat_three {n : Nat} (hlow : 0x800 ≤ n) (h : n < 0x10000) :
    encodeNat n = [UInt8.ofNat (0xE0 + n / 4096), UInt8.ofNat (0x80 + n / 64 % 64),
      UInt8.ofNat (0x80 + n % 64)] := by
  unfold encodeNat
  rw [if_neg (by omega), if_neg (Nat.not_lt.mpr hlow), if_pos h]

theorem encodeNat_four {n : Nat} (hlow : 0x10000 ≤ n) :
    encodeNat n = [UInt8.ofNat (0xF0 + n / 262144), UInt8.ofNat (0x80 + n / 4096 % 64),
      UInt8.ofNat (0x80 + n / 64 % 64), UInt8.ofNat (0x80 + n % 64)] := by
  unfold encodeNat
  rw [if_neg (by omega), if_neg (by omega), if_neg (Nat.not_lt.mpr hlow)]

/-- The octets of a character beyond ASCII are beyond ASCII. -/
theorem le_of_mem_encodeNat {n : Nat} (hlow : 0x80 ≤ n) (h : n < 0x110000) {b : UInt8}
    (hb : b ∈ encodeNat n) : 0x80 ≤ b.toNat := by
  by_cases htwo : n < 0x800
  · rw [encodeNat_two hlow htwo] at hb
    simp only [List.mem_cons, List.not_mem_nil, or_false] at hb
    rcases hb with rfl | rfl <;> rw [toNat_ofNat (by omega)] <;> omega
  by_cases hthree : n < 0x10000
  · rw [encodeNat_three (by omega) hthree] at hb
    simp only [List.mem_cons, List.not_mem_nil, or_false] at hb
    rcases hb with rfl | rfl | rfl <;> rw [toNat_ofNat (by omega)] <;> omega
  · rw [encodeNat_four (by omega)] at hb
    simp only [List.mem_cons, List.not_mem_nil, or_false] at hb
    rcases hb with rfl | rfl | rfl | rfl <;> rw [toNat_ofNat (by omega)] <;> omega

/-! ### Reading one character -/

section next

variable {n : Nat} (rest : Octets)

theorem next_ascii (h : n < 0x80) : next (UInt8.ofNat n) rest = (some (Char.ofNat n), rest) := by
  unfold next
  rw [toNat_ofNat (by omega)]
  exact if_pos h

theorem isTail_ofNat {m : Nat} (h : m < 64) : isTail (UInt8.ofNat (0x80 + m)) = true := by
  unfold isTail
  rw [toNat_ofNat (by omega)]
  simp
  omega

theorem tailBits_ofNat {m : Nat} (h : m < 64) : tailBits (UInt8.ofNat (0x80 + m)) = m := by
  unfold tailBits
  rw [toNat_ofNat (by omega)]
  omega

theorem next_two (hlow : 0x80 ≤ n) (h : n < 0x800) :
    next (UInt8.ofNat (0xC0 + n / 64)) (UInt8.ofNat (0x80 + n % 64) :: rest) =
      (some (Char.ofNat n), rest) := by
  have hvalue : (0xC0 + n / 64 - 0xC0) * 64 + n % 64 = n := by omega
  unfold next
  simp only [toNat_ofNat (show 0xC0 + n / 64 < 256 by omega),
    toNat_ofNat (show 0x80 + n % 64 < 256 by omega), tailBits_ofNat (show n % 64 < 64 by omega)]
  rw [if_neg (by omega), if_neg (by simp; omega), if_neg, if_pos (by omega), hvalue]
  simp [secondLow, secondHigh]
  repeat' split
  all_goals omega

theorem next_three (hlow : 0x800 ≤ n) (h : n < 0x10000) (hplain : n < 0xD800 ∨ 0xDFFF < n) :
    next (UInt8.ofNat (0xE0 + n / 4096))
        (UInt8.ofNat (0x80 + n / 64 % 64) :: UInt8.ofNat (0x80 + n % 64) :: rest) =
      (some (Char.ofNat n), rest) := by
  have hvalue : (0xE0 + n / 4096 - 0xE0) * 4096 + n / 64 % 64 * 64 + n % 64 = n := by omega
  unfold next
  simp only [toNat_ofNat (show 0xE0 + n / 4096 < 256 by omega),
    toNat_ofNat (show 0x80 + n / 64 % 64 < 256 by omega),
    tailBits_ofNat (show n / 64 % 64 < 64 by omega), tailBits_ofNat (show n % 64 < 64 by omega),
    isTail_ofNat (show n % 64 < 64 by omega)]
  rw [if_neg (by omega), if_neg (by simp; omega), if_neg, if_neg (by omega), if_neg (by decide),
    if_pos (by omega), hvalue]
  simp [secondLow, secondHigh]
  repeat' split
  all_goals omega

theorem next_four (hlow : 0x10000 ≤ n) (h : n < 0x110000) :
    next (UInt8.ofNat (0xF0 + n / 262144))
        (UInt8.ofNat (0x80 + n / 4096 % 64) :: UInt8.ofNat (0x80 + n / 64 % 64) ::
          UInt8.ofNat (0x80 + n % 64) :: rest) =
      (some (Char.ofNat n), rest) := by
  have hvalue : (0xF0 + n / 262144 - 0xF0) * 262144 + n / 4096 % 64 * 4096 + n / 64 % 64 * 64
      + n % 64 = n := by omega
  unfold next
  simp only [toNat_ofNat (show 0xF0 + n / 262144 < 256 by omega),
    toNat_ofNat (show 0x80 + n / 4096 % 64 < 256 by omega),
    tailBits_ofNat (show n / 4096 % 64 < 64 by omega),
    tailBits_ofNat (show n / 64 % 64 < 64 by omega), tailBits_ofNat (show n % 64 < 64 by omega),
    isTail_ofNat (show n / 64 % 64 < 64 by omega), isTail_ofNat (show n % 64 < 64 by omega)]
  rw [if_neg (by omega), if_neg (by simp; omega), if_neg, if_neg (by omega), if_neg (by decide),
    if_neg (by omega), if_neg (by decide), hvalue]
  simp [secondLow, secondHigh]
  repeat' split
  all_goals omega

end next

/-- A character is no surrogate and not beyond the last character. -/
theorem toNat_valid (c : Char) :
    c.toNat < 0xD800 ∨ 0xDFFF < c.toNat ∧ c.toNat < 0x110000 := by
  have h := c.valid
  simp only [UInt32.isValidChar, Nat.isValidChar] at h
  exact h

theorem toNat_lt (c : Char) : c.toNat < 0x110000 := by
  have hvalid := toNat_valid c
  omega

/-- A character is read back from its octets. -/
theorem next_encodeNat (c : Char) (rest : Octets) :
    ∃ b bs, encodeNat c.toNat = b :: bs ∧ next b (bs ++ rest) = (some c, rest) := by
  have hvalid := toNat_valid c
  by_cases hone : c.toNat < 0x80
  · have hnext := next_ascii rest hone
    rw [Char.ofNat_toNat] at hnext
    exact ⟨_, _, encodeNat_ascii hone, hnext⟩
  by_cases htwo : c.toNat < 0x800
  · have hnext := next_two rest (by omega) htwo
    rw [Char.ofNat_toNat] at hnext
    exact ⟨_, _, encodeNat_two (by omega) htwo, hnext⟩
  by_cases hthree : c.toNat < 0x10000
  · have hnext := next_three rest (by omega) hthree (by omega)
    rw [Char.ofNat_toNat] at hnext
    exact ⟨_, _, encodeNat_three (by omega) hthree, hnext⟩
  · have hnext := next_four rest (show 0x10000 ≤ c.toNat by omega) (by omega)
    rw [Char.ofNat_toNat] at hnext
    exact ⟨_, _, encodeNat_four (by omega), hnext⟩

/-! ### Texts -/

theorem encodeChars_cons (c : Char) (cs : List Char) :
    encodeChars (c :: cs) = encodeNat c.toNat ++ encodeChars cs :=
  List.flatMap_cons

theorem encodeChars_append (cs ds : List Char) :
    encodeChars (cs ++ ds) = encodeChars cs ++ encodeChars ds :=
  List.flatMap_append

theorem encode_append (s t : String) : encode (s ++ t) = encode s ++ encode t := by
  unfold encode
  rw [String.toList_append, encodeChars_append]

theorem encode_join (texts : List String) :
    encode (String.join texts) = (texts.map encode).flatten := by
  induction texts with
  | nil => rfl
  | cons text texts ih => rw [String.join_cons, encode_append, ih, List.map_cons, List.flatten_cons]

/-- The ASCII octets of characters are ASCII characters among them. -/
theorem mem_of_mem_encodeChars {b : UInt8} (hb : b.toNat < 0x80) {cs : List Char}
    (h : b ∈ encodeChars cs) : Char.ofNat b.toNat ∈ cs := by
  obtain ⟨c, hc, hmem⟩ := List.mem_flatMap.mp h
  by_cases hascii : c.toNat < 0x80
  · rw [encodeNat_ascii hascii] at hmem
    obtain rfl := List.mem_singleton.mp hmem
    rw [toNat_ofNat (by omega), Char.ofNat_toNat]
    exact hc
  · have hle := le_of_mem_encodeNat (Nat.not_lt.mp hascii) (toNat_lt c) hmem
    omega

/-- Characters are read back from their octets, without a fault. -/
theorem scan_encodeChars (cs : List Char) : scan (encodeChars cs) = cs.map some := by
  induction cs with
  | nil =>
    show scan [] = []
    rw [scan]
  | cons c cs ih =>
    obtain ⟨b, bs, hencode, hnext⟩ := next_encodeNat c (encodeChars cs)
    rw [encodeChars_cons, hencode, List.cons_append, scan, hnext, ih]
    rfl

/-- The characters of a text are those that its octets are decoded to. -/
theorem decode?_encodeChars (cs : List Char) :
    decode? (encodeChars cs) = some (String.ofList cs) := by
  have hall : (cs.map some).mapM id = some cs := by
    induction cs with
    | nil => rfl
    | cons c cs ih =>
      rw [List.map_cons, List.mapM_cons, ih]
      rfl
  unfold decode? decodeChars?
  rw [scan_encodeChars, hall]
  rfl

/-- A text is decoded from what it is encoded to. -/
theorem decode?_encode (s : String) : decode? (encode s) = some s := by
  unfold encode
  rw [decode?_encodeChars, String.ofList_toList]

end HttpScenario.Utf8
