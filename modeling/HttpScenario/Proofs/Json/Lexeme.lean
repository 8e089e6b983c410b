import HttpScenario.Json.Lexeme
import HttpScenario.Json.Printer
import HttpScenario.Proofs.Double.Whole
import HttpScenario.Proofs.Sequence
import HttpScenario.Proofs.Text.Utf8
/-!
# Texts and numbers that are read back

A text that is written between quotes is read back as itself (`readText_quoted`), and so is a whole
number that is kept exactly (`readNumber_decimalDigits`), whatever follows a text and whatever does
not go on with a number.

A text is read character by character: the octets of each written character, an escape or the
character itself, put the octets of the character in front of what the rest is read as
(`scanText_escapeChar`).  The control characters without an escape of their own are few enough to be
looked at one by one.
-/

namespace HttpScenario.Json

/-! ### Texts -/

/-- Octets that a text may hold as they are. -/
def Plain (b : UInt8) : Prop :=
  b ≠ 0x22 ∧ b ≠ 0x5C ∧ 0x20 ≤ b.toNat

theorem prepend_nil (r : Except Fault (Octets × Octets)) : prepend [] r = r := by
  cases r <;> rfl

theorem prepend_append (bs cs : Octets) (r : Except Fault (Octets × Octets)) :
    prepend bs (prepend cs r) = prepend (bs ++ cs) r := by
  cases r with
  | error fault => rfl
  | ok read => simp [prepend, Except.map]

theorem scanText_plain {b : UInt8} (h : Plain b) (rest : Octets) :
    scanText (b :: rest) = prepend [b] (scanText rest) := by
  obtain ⟨hquote, hslash, hcontrol⟩ := h
  rw [scanText.eq_def]
  dsimp only
  rw [if_neg hquote, if_neg hslash, if_neg (Nat.not_lt.mpr hcontrol)]

theorem scanText_append {bs : Octets} (h : ∀ b ∈ bs, Plain b) (rest : Octets) :
    scanText (bs ++ rest) = prepend bs (scanText rest) := by
  induction bs with
  | nil => rw [prepend_nil, List.nil_append]
  | cons b bs ih =>
    have hb : Plain b := h b List.mem_cons_self
    have hbs := ih fun c hc => h c (List.mem_cons_of_mem b hc)
    rw [List.cons_append, scanText_plain hb, hbs, prepend_append, List.singleton_append]

/-- A one-letter escape. -/
theorem scanText_letter {letter octet : UInt8} (h : simpleEscape? letter = some octet)
    (rest : Octets) : scanText (0x5C :: letter :: rest) = prepend [octet] (scanText rest) := by
  rw [scanText.eq_def]
  dsimp only
  rw [if_neg (by decide), if_pos rfl, h]

/-- An escape by the number of a character that is no half of a pair. -/
theorem scanText_number {h1 h2 h3 h4 : UInt8} {n : Nat} (h : hexValue4? h1 h2 h3 h4 = some n)
    (hlead : isLeadSurrogate n = false) (htrail : isTrailSurrogate n = false) (rest : Octets) :
    scanText (0x5C :: 0x75 :: h1 :: h2 :: h3 :: h4 :: rest) =
      prepend (Utf8.encodeNat n) (scanText rest) := by
  have hletter : simpleEscape? 0x75 = none := by decide
  rw [scanText.eq_def]
  dsimp only
  rw [if_neg (by decide), if_pos rfl, hletter]
  dsimp only
  rw [if_neg (by decide), h]
  dsimp only
  rw [if_neg (by rw [htrail]; decide), if_pos (by rw [hlead]; rfl)]

/-- Each control character is written by a letter or by its number. -/
theorem scanText_control {n : Nat} (h : n < 0x20) (rest : Octets) :
    scanText (Utf8.encodeChars (escapeChar (Char.ofNat n)) ++ rest) =
      prepend (Utf8.encodeNat n) (scanText rest) := by
  have hforms : ∀ m, m < 0x20 →
      (∃ letter ∈ [0x62, 0x66, 0x6E, 0x72, 0x74],
        Utf8.encodeChars (escapeChar (Char.ofNat m)) = [0x5C, letter] ∧
          simpleEscape? letter = some (UInt8.ofNat m)) ∨
      (Utf8.encodeChars (escapeChar (Char.ofNat m)) =
          [0x5C, 0x75, 0x30, 0x30, UInt8.ofNat (hexDigit (m / 16)).toNat,
            UInt8.ofNat (hexDigit (m % 16)).toNat] ∧
        hexValue4? 0x30 0x30 (UInt8.ofNat (hexDigit (m / 16)).toNat)
          (UInt8.ofNat (hexDigit (m % 16)).toNat) = some m ∧
        isLeadSurrogate m = false ∧ isTrailSurrogate m = false) := by
    decide
  rcases hforms n h with ⟨letter, -, hchars, hoctet⟩ | ⟨hchars, hvalue, hlead, htrail⟩
  · rw [hchars, Utf8.encodeNat_ascii (by omega)]
    exact scanText_letter hoctet rest
  · rw [hchars]
    exact scanText_number hvalue hlead htrail rest

/-- A character that needs no escape is written with octets that a text may hold as they are. -/
theorem plain_of_mem_encodeNat {c : Char} (hquote : c ≠ '"') (hslash : c ≠ '\\')
    (hcontrol : 0x20 ≤ c.toNat) {b : UInt8} (hb : b ∈ Utf8.encodeNat c.toNat) : Plain b := by
  by_cases hascii : c.toNat < 0x80
  · rw [Utf8.encodeNat_ascii hascii] at hb
    obtain rfl := List.mem_singleton.mp hb
    have htoNat : (UInt8.ofNat c.toNat).toNat = c.toNat := Utf8.toNat_ofNat (by omega)
    refine ⟨?_, ?_, by omega⟩
    · intro h
      rw [h] at htoNat
      exact hquote (Char.toNat_inj.mp htoNat.symm)
    · intro h
      rw [h] at htoNat
      exact hslash (Char.toNat_inj.mp htoNat.symm)
  · have hle := Utf8.le_of_mem_encodeNat (by omega) (Utf8.toNat_lt c) hb
    refine ⟨?_, ?_, by omega⟩
    · rintro rfl
      exact absurd hle (by decide)
    · rintro rfl
      exact absurd hle (by decide)

/-- A character that is escaped if need be puts its octets in front of the text. -/
theorem scanText_escapeChar (c : Char) (rest : Octets) :
    scanText (Utf8.encodeChars (escapeChar c) ++ rest) =
      prepend (Utf8.encodeNat c.toNat) (scanText rest) := by
  by_cases hquote : c = '"'
  · subst hquote
    exact scanText_letter (by decide) rest
  by_cases hslash : c = '\\'
  · subst hslash
    exact scanText_letter (by decide) rest
  by_cases hcontrol : c.toNat < 0x20
  · have hscan := scanText_control hcontrol rest
    rw [Char.ofNat_toNat] at hscan
    exact hscan
  · have hsame : escapeChar c = [c] := by
      unfold escapeChar
      rw [if_neg hquote, if_neg hslash, if_neg hcontrol]
    rw [hsame, Utf8.encodeChars_cons, List.append_assoc]
    refine scanText_append ?_ rest
    intro b hb
    exact plain_of_mem_encodeNat hquote hslash (Nat.not_lt.mp hcontrol) hb

/-- The characters of a text, escaped where need be, are read up to the quote after them. -/
theorem scanText_escaped (cs : List Char) (rest : Octets) :
    scanText (Utf8.encodeChars (cs.flatMap escapeChar) ++ 0x22 :: rest) =
      .ok (Utf8.encodeChars cs, rest) := by
  induction cs with
  | nil =>
    show scanText (0x22 :: rest) = _
    rw [scanText.eq_def]
    rfl
  | cons c cs ih =>
    rw [List.flatMap_cons, Utf8.encodeChars_append, List.append_assoc, scanText_escapeChar, ih]
    rfl

/-- The octets of a text between quotes. -/
def quotedOctets (s : String) : Octets :=
  Utf8.encodeChars (s.toList.flatMap escapeChar) ++ [0x22]

theorem encodeChars_quoted (s : String) :
    Utf8.encodeChars (quoted s) = 0x22 :: quotedOctets s := by
  unfold quoted quotedOctets
  rw [Utf8.encodeChars_cons, Utf8.encodeChars_append]
  rfl

/-- A text between quotes is read back once its opening quote is read. -/
theorem readText_quoted (s : String) (rest : Octets) :
    readText (quotedOctets s ++ rest) = .ok (s, rest) := by
  unfold readText quotedOctets
  rw [List.append_assoc, List.singleton_append]
  refine bind_eq_ok_iff.mpr ⟨(Utf8.encodeChars s.toList, rest), scanText_escaped _ _, ?_⟩
  dsimp only
  rw [Utf8.decode?_encodeChars, String.ofList_toList]

/-! ### Numbers -/

/-- What follows a number does not go on with it. -/
def Ended (rest : Octets) : Prop :=
  ∀ b, rest.head? = some b → isDigitOctet b = false ∧ startsFraction [b] = false

theorem Ended.startsFraction {rest : Octets} (h : Ended rest) : startsFraction rest = false := by
  cases rest with
  | nil => rfl
  | cons b rest => exact (h b rfl).2

theorem Ended.takeWhile {digits rest : Octets} (hrest : Ended rest)
    (h : ∀ b ∈ digits, isDigitOctet b = true) :
    (digits ++ rest).takeWhile isDigitOctet = digits ∧
      (digits ++ rest).dropWhile isDigitOctet = rest := by
  rw [List.takeWhile_append_of_pos h, List.dropWhile_append_of_pos h]
  cases rest with
  | nil => simp
  | cons b rest => simp [(hrest b rfl).1]

theorem isDigitOctet_ofNat {c : Char} (h : c.isDigit = true) :
    isDigitOctet (UInt8.ofNat c.toNat) = true := by
  obtain ⟨hlow, hhigh⟩ := Double.toNat_of_isDigit h
  unfold isDigitOctet
  rw [Utf8.toNat_ofNat (by omega)]
  simp
  omega

theorem octetDigit_ofNat {c : Char} (h : c.isDigit = true) :
    octetDigit (UInt8.ofNat c.toNat) = Double.digitValue c := by
  obtain ⟨hlow, hhigh⟩ := Double.toNat_of_isDigit h
  unfold octetDigit
  rw [Utf8.toNat_ofNat (by omega)]
  rfl

/-- Digits are one octet each. -/
theorem encodeChars_digits {cs : List Char} (h : ∀ c ∈ cs, c.isDigit = true) :
    Utf8.encodeChars cs = cs.map fun c => UInt8.ofNat c.toNat := by
  induction cs with
  | nil => rfl
  | cons c cs ih =>
    obtain ⟨-, hhigh⟩ := Double.toNat_of_isDigit (h c List.mem_cons_self)
    rw [Utf8.encodeChars_cons, Utf8.encodeNat_ascii (by omega),
      ih fun d hd => h d (List.mem_cons_of_mem c hd)]
    rfl

theorem le_foldl_digits (digits : Octets) (n : Nat) :
    n ≤ digits.foldl (fun n b => n * 10 + octetDigit b) n := by
  induction digits generalizing n with
  | nil => exact Nat.le_refl n
  | cons b digits ih =>
    refine Nat.le_trans ?_ (ih (n * 10 + octetDigit b))
    omega

/-- Digits whose number fits the significand are all taken into it. -/
theorem takeDigits_of_le {digits : Octets} {n : Nat}
    (h : digits.foldl (fun n b => n * 10 + octetDigit b) n ≤ significandMax) :
    takeDigits n digits = (digits.foldl (fun n b => n * 10 + octetDigit b) n, []) := by
  induction digits generalizing n with
  | nil => rfl
  | cons b digits ih =>
    have hnext : n * 10 + octetDigit b ≤ significandMax := Nat.le_trans (le_foldl_digits ..) h
    rw [takeDigits, if_pos hnext]
    exact ih h

theorem octetsValue_digits {cs : List Char} (h : ∀ c ∈ cs, c.isDigit = true) (n : Nat) :
    (cs.map fun c => UInt8.ofNat c.toNat).foldl (fun n b => n * 10 + octetDigit b) n =
      cs.foldl (fun n c => n * 10 + Double.digitValue c) n := by
  induction cs generalizing n with
  | nil => rfl
  | cons c cs ih =>
    rw [List.map_cons, List.foldl_cons, List.foldl_cons,
      octetDigit_ofNat (h c List.mem_cons_self)]
    exact ih (fun d hd => h d (List.mem_cons_of_mem c hd)) _

/-- The digits of a number that fits 64 bits are read as that number. -/
theorem readNumber_decimalDigits (negative : Bool) {n : Nat} (h : n ≤ significandMax)
    {rest : Octets} (hrest : Ended rest) :
    readNumber negative (Utf8.encodeChars (Double.decimalDigits n) ++ rest) =
      .ok (wholeNumber negative n, rest) := by
  by_cases hzero : n = 0
  · subst hzero
    show readNumber negative (0x30 :: rest) = _
    unfold readNumber
    dsimp only
    rw [if_neg (by decide), if_pos rfl]
    cases rest with
    | nil => rfl
    | cons d rest =>
      have hd := hrest d rfl
      dsimp only
      rw [if_neg (by rw [hd.1]; decide), if_neg (by rw [hrest.startsFraction]; decide)]
  · obtain ⟨c, cs, hdigits, hc⟩ := Double.decimalDigits_of_pos (Nat.pos_of_ne_zero hzero)
    have hall : ∀ d ∈ c :: cs, d.isDigit = true := by
      intro d hd
      exact Double.isDigit_of_mem_decimalDigits (hdigits ▸ hd)
    have hoctets : ∀ b ∈ (c :: cs).map (fun c => UInt8.ofNat c.toNat), isDigitOctet b = true := by
      intro b hb
      obtain ⟨d, hd, rfl⟩ := List.mem_map.mp hb
      exact isDigitOctet_ofNat (hall d hd)
    have hvalue : ((c :: cs).map fun c => UInt8.ofNat c.toNat).foldl
        (fun n b => n * 10 + octetDigit b) 0 = n := by
      rw [octetsValue_digits hall, ← hdigits]
      exact Double.digitsValue_decimalDigits n
    have htaken := takeDigits_of_le (Nat.le_trans (Nat.le_of_eq hvalue) h)
    rw [hvalue] at htaken
    have hnotzero : UInt8.ofNat c.toNat ≠ 0x30 := by
      intro heq
      obtain ⟨hlow, hhigh⟩ := Double.toNat_of_isDigit (hall c List.mem_cons_self)
      have htoNat := Utf8.toNat_ofNat (show c.toNat < 256 by omega)
      rw [heq] at htoNat
      exact hc (Char.toNat_inj.mp htoNat.symm)
    obtain ⟨htake, hdrop⟩ := hrest.takeWhile hoctets
    rw [hdigits, encodeChars_digits hall]
    unfold readNumber
    simp only [List.map_cons, List.cons_append] at hoctets htake hdrop htaken ⊢
    rw [hoctets _ List.mem_cons_self, if_neg (by decide), if_neg hnotzero, htake, hdrop, htaken,
      hrest.startsFraction]
    rfl

end HttpScenario.Json
