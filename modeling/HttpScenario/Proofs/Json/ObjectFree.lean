import HttpScenario.Proofs.Json.Rest
import HttpScenario.Proofs.Json.Tabular
import HttpScenario.Proofs.Text.Utf8
/-!
# Documents without objects

A text without an opening brace is not read as a document with an object in it
(`objectFree_of_parseText`): the reader opens an object at a brace only, and what it leaves is an end
of what it was given, so that no brace is left either.

Equality of documents tells objects from everything else, so that a document with an object in it
equals none without (`objectFree_of_same`).
-/

namespace HttpScenario.Json

/-! ### Reading without braces -/

/-- No opening brace is among some octets. -/
def Unopened (s : Octets) : Prop :=
  0x7B ∉ s

theorem Unopened.suffix {s rest : Octets} (h : Unopened s) (hrest : rest <:+ s) : Unopened rest :=
  fun hmem => h (hrest.subset hmem)

/-- Without opening braces, a reader reads a document without objects and leaves no braces. -/
def ReadsObjectFree (read : Reader Json) : Prop :=
  ∀ s v rest, Unopened s → read s = .ok (v, rest) → v.ObjectFree ∧ Unopened rest

theorem objectFree_of_readScalar {b : UInt8} {s rest : Octets} {v : Json} (h : Unopened (b :: s))
    (hread : readScalar b s = .ok (v, rest)) : v.ObjectFree ∧ Unopened rest :=
  ⟨gives_readScalar (fun _ _ _ _ _ => trivial) b s v rest hread,
    h.suffix (leaves_readScalar b s v rest hread)⟩

theorem objectFree_of_items {item : Reader Json} (hitem : ReadsObjectFree item) {tries : Nat}
    {first : Bool} {s rest : Octets} {vs : List Json} (h : Unopened s)
    (hread : items item tries first s = .ok (vs, rest)) :
    (∀ v ∈ vs, v.ObjectFree) ∧ Unopened rest := by
  induction tries generalizing first s vs rest with
  | zero => cases hread
  | succ tries ih =>
    have hnext := leaves_nextItem first s
    rw [items] at hread
    split at hread
    · cases hread
    · rename_i s' heq
      obtain ⟨left, hend, hvs⟩ := map_eq_ok_iff.mp hread
      obtain ⟨rfl, rfl⟩ := Prod.mk.inj hvs
      have hrest := (suffix_of_endItems hend).trans (hnext _ _ heq)
      exact ⟨List.forall_mem_nil _, h.suffix hrest⟩
    · rename_i s' heq
      split at hread
      · cases hread
      · rename_i v left hv
        obtain ⟨⟨others, left'⟩, hothers, hvs⟩ := map_eq_ok_iff.mp hread
        obtain ⟨rfl, rfl⟩ := Prod.mk.inj hvs
        obtain ⟨hfirst, hleft⟩ := hitem _ _ _ (h.suffix (hnext _ _ heq)) hv
        obtain ⟨hrest, hend⟩ := ih hleft hothers
        exact ⟨List.forall_mem_cons.mpr ⟨hfirst, hrest⟩, hend⟩

/-- An object is only read from a brace on. -/
theorem readsObjectFree_readValue (levels : Nat) : ReadsObjectFree (readValue levels) := by
  induction levels with
  | zero =>
    intro s v rest h hread
    have hskip := h.suffix (skipSpaces_suffix s)
    rw [readValue] at hread
    split at hread
    · cases hread
    · rename_i b left heq
      rw [heq] at hskip
      split at hread
      · cases hread
      · exact objectFree_of_readScalar hskip hread
  | succ levels ih =>
    intro s v rest h hread
    have hskip := h.suffix (skipSpaces_suffix s)
    rw [readValue] at hread
    split at hread
    · cases hread
    · rename_i b left heq
      rw [heq] at hskip
      split at hread
      · obtain ⟨⟨vs, left'⟩, hitems, hv⟩ := map_eq_ok_iff.mp hread
        obtain ⟨rfl, rfl⟩ := Prod.mk.inj hv
        obtain ⟨hvs, hrest⟩ :=
          objectFree_of_items ih (hskip.suffix (List.suffix_cons b left)) hitems
        exact ⟨allItems_iff.mpr hvs, hrest⟩
      split at hread
      · -- there is no brace to open an object
        rename_i hbrace
        exact absurd (hbrace ▸ List.mem_cons_self) hskip
      · exact objectFree_of_readScalar hskip hread

/-- What is read from a text without opening braces has no object in it. -/
theorem objectFree_of_parseText {text : String} (h : '\x7b' ∉ text.toList) {v : Json}
    (hparse : parseText text = .ok v) : v.ObjectFree := by
  have hunopened : Unopened (Utf8.encode text) :=
    fun hmem => h (Utf8.mem_of_mem_encodeChars (by decide) hmem)
  obtain ⟨rest, hread⟩ := exists_of_readWhole (mapError_eq_ok_iff.mp hparse)
  exact (readsObjectFree_readValue maxLevels _ v rest hunopened hread).1

/-! ### Equality -/

mutual

/-- A document without objects equals no document with one. -/
theorem objectFree_of_same : {a b : Json} → a.same b = true → b.ObjectFree → a.ObjectFree
  | .null, _, _, _ => trivial
  | .bool _, _, _, _ => trivial
  | .num _, _, _, _ => trivial
  | .str _, _, _, _ => trivial
  | .arr items, b, h, hb => by
    cases b with
    | arr others => exact objectFree_of_sameItems h hb
    | null | bool | num | str | obj => cases h
  | .obj members, b, h, hb => by
    cases b with
    | obj others => exact hb.1.elim
    | null | bool | num | str | arr => cases h

theorem objectFree_of_sameItems : {as bs : List Json} → sameItems as bs = true →
    AllItems (fun _ => True) (fun _ => False) bs → AllItems (fun _ => True) (fun _ => False) as
  | [], _, _, _ => trivial
  | a :: as, bs, h, hbs => by
    cases bs with
    | nil => cases h
    | cons b bs =>
      obtain ⟨hfirst, hothers⟩ := Bool.and_eq_true_iff.mp h
      exact ⟨objectFree_of_same hfirst hbs.1, objectFree_of_sameItems hothers hbs.2⟩

end

end HttpScenario.Json
