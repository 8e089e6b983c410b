import HttpScenario.Json.Printer
import HttpScenario.Proofs.Double.Whole
import HttpScenario.Proofs.Json.Parts
import HttpScenario.Proofs.Template.InPlace
/-!
# Placeholders in written documents

The compact form of a document is one line.  If no text in the document has an opening brace, the
compact form has one for each object only, and a closing brace comes after it.  So the compact form
of a document without objects has no placeholder (`brace_not_mem_compactChars`), while in that of
any document every opening brace starts one (`shut_compactChars`).

Both are inductions over the document, together with its lists of items and of members.
-/

namespace HttpScenario

namespace Json

/-! ### Small values -/

/-- Escaping brings in no line break and no opening brace. -/
theorem not_mem_escapeChar (c : Char) :
    '\n' ∉ escapeChar c ∧ (c ≠ '\x7b' → '\x7b' ∉ escapeChar c) := by
  have hcontrols : ∀ n < 0x20,
      '\n' ∉ escapeChar (Char.ofNat n) ∧ '\x7b' ∉ escapeChar (Char.ofNat n) := by
    decide +kernel
  -- only control characters are written as other ones, and they are few enough to try them all
  by_cases hcontrol : c.toNat < 0x20
  · have hplain := hcontrols c.toNat hcontrol
    rw [Char.ofNat_toNat] at hplain
    exact ⟨hplain.1, fun _ => hplain.2⟩
  · have hline : c ≠ '\n' := by
      rintro rfl
      exact hcontrol (by decide)
    unfold escapeChar
    split
    · exact ⟨by decide, fun _ => by decide⟩
    split
    · exact ⟨by decide, fun _ => by decide⟩
    exact ⟨fun h => hline (List.mem_singleton.mp h).symm,
      fun hc h => hc (List.mem_singleton.mp h).symm⟩

/-- Between its quotes, a text has the characters that its own are written as. -/
theorem not_mem_quoted {s : String} {c : Char} (hquote : c ≠ '"')
    (h : ∀ d ∈ s.toList, c ∉ escapeChar d) : c ∉ quoted s := by
  intro hmem
  rcases List.mem_cons.mp hmem with rfl | hmem
  · exact hquote rfl
  · rcases List.mem_append.mp hmem with hmem | hmem
    · obtain ⟨d, hd, hmem⟩ := List.mem_flatMap.mp hmem
      exact h d hd hmem
    · exact hquote (List.mem_singleton.mp hmem)

theorem line_not_mem_quoted (s : String) : '\n' ∉ quoted s :=
  not_mem_quoted (by decide) fun c _ => (not_mem_escapeChar c).1

theorem brace_not_mem_quoted {s : String} (hs : '\x7b' ∉ s.toList) : '\x7b' ∉ quoted s :=
  not_mem_quoted (by decide) fun c hc =>
    (not_mem_escapeChar c).2 (ne_of_mem_of_not_mem hc hs)

/-- The text of a whole number is made of digits and a minus sign. -/
theorem isDigit_of_mem_text {n : Int} {c : Char} (h : c ∈ (Number.whole n).text.toList) :
    c = '-' ∨ c.isDigit = true := by
  unfold Number.text at h
  dsimp only at h
  split at h
  · rw [String.toList_ofList] at h
    rcases List.mem_cons.mp h with h | h
    · exact Or.inl h
    · exact Or.inr (Double.isDigit_of_mem_decimalDigits h)
  · rw [String.toList_ofList] at h
    exact Or.inr (Double.isDigit_of_mem_decimalDigits h)

theorem not_mem_text {n : Number} (h : n.Kept) {c : Char} (hminus : c ≠ '-')
    (hdigit : c.isDigit = false) : c ∉ n.text.toList := by
  intro hmem
  cases n with
  | real value => exact h
  | whole n =>
    rcases isDigit_of_mem_text hmem with rfl | hc
    · exact hminus rfl
    · rw [hdigit] at hc
      cases hc

/-! ### Documents without objects -/

mutual

/-- The compact form of a document without objects has no opening brace. -/
theorem brace_not_mem_compactChars : (v : Json) → v.Exact → v.Braceless → v.ObjectFree →
    '\x7b' ∉ compactChars v
  | .null, _, _, _ => by decide
  | .bool true, _, _, _ => by decide
  | .bool false, _, _, _ => by decide
  | .num _, hexact, _, _ => not_mem_text hexact (by decide) (by decide)
  | .str _, _, hbraces, _ => brace_not_mem_quoted hbraces
  | .arr [], _, _, _ => by decide
  | .arr (item :: items), hexact, hbraces, hfree => by
    have hfirst := brace_not_mem_compactChars item hexact.1 hbraces.1 hfree.1
    have hfurther := brace_not_mem_compactItems items hexact.2 hbraces.2 hfree.2
    rw [compactChars]
    simp [hfirst, hfurther]
  | .obj _, _, _, hfree => hfree.1.elim

theorem brace_not_mem_compactItems : (items : List Json) →
    AllItems Number.Kept (fun _ => True) items → ItemTexts (fun s => '\x7b' ∉ s.toList) items →
    AllItems (fun _ => True) (fun _ => False) items → '\x7b' ∉ compactItems items
  | [], _, _, _ => by decide
  | item :: items, hexact, hbraces, hfree => by
    have hfirst := brace_not_mem_compactChars item hexact.1 hbraces.1 hfree.1
    have hfurther := brace_not_mem_compactItems items hexact.2 hbraces.2 hfree.2
    rw [compactItems]
    simp [hfirst, hfurther]

end

/-! ### Any documents -/

open Template (Shut shut_of_not_mem)

theorem shut_cons {c : Char} (hline : c ≠ '\n') (hbrace : c ≠ '\x7b') {cs : List Char}
    (h : Shut cs) : Shut (c :: cs) :=
  .cons hline (fun hc => absurd hc hbrace) h

theorem shut_quoted {s : String} (hs : '\x7b' ∉ s.toList) : Shut (quoted s) :=
  shut_of_not_mem (line_not_mem_quoted s) (brace_not_mem_quoted hs)

theorem close_mem_compactMembers (members : List (String × Json)) :
    '\x7d' ∈ compactMembers members := by
  induction members with
  | nil => decide
  | cons member members ih =>
    obtain ⟨key, v⟩ := member
    rw [compactMembers]
    exact List.mem_append_right _ ih

mutual

/-- In the compact form every opening brace has a closing one after it. -/
theorem shut_compactChars : (v : Json) → v.Exact → v.Braceless → Shut (compactChars v)
  | .null, _, _ => shut_of_not_mem (by decide) (by decide)
  | .bool true, _, _ => shut_of_not_mem (by decide) (by decide)
  | .bool false, _, _ => shut_of_not_mem (by decide) (by decide)
  | .num _, hexact, _ =>
    shut_of_not_mem (not_mem_text hexact (by decide) (by decide))
      (not_mem_text hexact (by decide) (by decide))
  | .str _, _, hbraces => shut_quoted hbraces
  | .arr [], _, _ => shut_of_not_mem (by decide) (by decide)
  | .arr (item :: items), hexact, hbraces => by
    have hfirst := shut_compactChars item hexact.1 hbraces.1
    have hfurther := shut_compactItems items hexact.2 hbraces.2
    rw [compactChars]
    exact (shut_cons (by decide) (by decide) hfirst).append hfurther
  | .obj [], _, _ => .cons (by decide) (fun _ => by decide) (shut_of_not_mem (by decide) (by decide))
  | .obj ((key, v) :: members), hexact, hbraces => by
    have hkey := shut_quoted hbraces.1
    have hvalue := shut_compactChars v hexact.2.1 hbraces.2.1
    have hfurther := shut_compactMembers members hexact.2.2 hbraces.2.2
    rw [compactChars]
    refine .cons (by decide) (fun _ => ?_) ?_
    · exact List.mem_append_right _ (close_mem_compactMembers members)
    · exact (hkey.append (shut_cons (by decide) (by decide) hvalue)).append hfurther

theorem shut_compactItems : (items : List Json) → AllItems Number.Kept (fun _ => True) items →
    ItemTexts (fun s => '\x7b' ∉ s.toList) items → Shut (compactItems items)
  | [], _, _ => shut_of_not_mem (by decide) (by decide)
  | item :: items, hexact, hbraces => by
    have hfirst := shut_compactChars item hexact.1 hbraces.1
    have hfurther := shut_compactItems items hexact.2 hbraces.2
    rw [compactItems]
    exact (shut_cons (by decide) (by decide) hfirst).append hfurther

theorem shut_compactMembers : (members : List (String × Json)) →
    AllMembers Number.Kept (fun _ => True) members →
    MemberTexts (fun s => '\x7b' ∉ s.toList) members → Shut (compactMembers members)
  | [], _, _ => shut_of_not_mem (by decide) (by decide)
  | (key, v) :: members, hexact, hbraces => by
    have hkey := shut_quoted hbraces.1
    have hvalue := shut_compactChars v hexact.1 hbraces.2.1
    have hfurther := shut_compactMembers members hexact.2 hbraces.2.2
    rw [compactMembers]
    exact ((shut_cons (by decide) (by decide) hkey).append
      (shut_cons (by decide) (by decide) hvalue)).append hfurther

end

end Json

end HttpScenario
