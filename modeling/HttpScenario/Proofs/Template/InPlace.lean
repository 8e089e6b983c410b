import Mathlib
import HttpScenario.Proofs.Template.Cut
/-!
# Replacing placeholders in place

`resolve` does not put a value where its placeholder stands.  It replaces the first occurrence of
the placeholder's written form in the text built so far, and that may be another place than its own:
the same placeholder may stand in the text twice, one may be the end of another as it is written,
and a value may bring new braces.

The main statement, `resolve_in_place`, says when the difference does not show.  If no value that is
put in has an opening brace, every placeholder is replaced at its own place, and what stands between
them is kept.

The text built so far is a part that is done, and the rest as it was given.  The invariant is that
no placeholder starts in the part that is done (`Settled`): an opening brace that is left there has
a line break after it before any closing brace.  The written form of a placeholder is then not found
before its own place (`Settled.fill_eq`), and the invariant is kept by putting in a value without
opening braces (`Settled.of_token`) and by going past a character at which no placeholder starts
(`settled_of_not_starts`).

Without cached bodies every placeholder is replaced by nothing, and if each opening brace starts one
(`Shut`), none is left (`not_mem_resolve_empty`).
-/

namespace HttpScenario.Template

/-! ### Parts -/

/-- What stands between the braces, if the part is a placeholder. -/
def Part.inner? : Part → Option (List Char)
  | .hole inner => some inner
  | .plain _ => none

@[simp] theorem Part.inner?_hole (inner : List Char) : (Part.hole inner).inner? = some inner := rfl

@[simp] theorem Part.inner?_plain (c : Char) : (Part.plain c).inner? = none := rfl

/-- The text that a placeholder is replaced by; it is empty if nothing is found. -/
def filling (cache : Cache) (inner : List Char) : List Char :=
  ((value? cache inner).getD "").toList

/-- What a part becomes at its own place. -/
def Part.filled (cache : Cache) : Part → List Char
  | .plain c => [c]
  | .hole inner => filling cache inner

/-- No placeholder among the parts is replaced by a text with an opening brace. -/
def OpensNothing (cache : Cache) (ps : List Part) : Prop :=
  ∀ inner, .hole inner ∈ ps → ∀ value, value? cache inner = some value → '\x7b' ∉ value.toList

theorem holes_eq (cs : List Char) : holes cs = (parts cs).filterMap Part.inner? := by
  unfold holes
  congr

section opensNothing

variable {cache : Cache} {ps : List Part}

theorem OpensNothing.tail {part : Part} (h : OpensNothing cache (part :: ps)) :
    OpensNothing cache ps :=
  fun inner hmem => h inner (List.mem_cons_of_mem part hmem)

theorem OpensNothing.not_mem_filling {inner : List Char} (h : OpensNothing cache ps)
    (hmem : .hole inner ∈ ps) : '\x7b' ∉ filling cache inner := by
  unfold filling
  cases hvalue : value? cache inner with
  | none => exact List.not_mem_nil
  | some value => exact h inner hmem value hvalue

end opensNothing

/-! ### The first occurrence -/

/-- A text that does not start earlier is replaced where it stands. -/
theorem replaceFirst_append {target value rest : List Char} (done : List Char)
    (h : ∀ before c after, done = before ++ c :: after →
      Text.strip? target (c :: (after ++ (target ++ rest))) = none) :
    Text.replaceFirst target value (done ++ (target ++ rest)) = done ++ (value ++ rest) := by
  induction done with
  | nil =>
    have hstrip : Text.strip? target (target ++ rest) = some rest :=
      Text.strip?_eq_some_iff.mpr rfl
    rw [List.nil_append, List.nil_append]
    cases htext : target ++ rest with
    | nil => rw [Text.replaceFirst, ← htext, hstrip]
    | cons c cs => rw [Text.replaceFirst, ← htext, hstrip]
  | cons c done ih =>
    have hstrip := h [] c done rfl
    have hdone : Text.replaceFirst target value (done ++ (target ++ rest)) =
        done ++ (value ++ rest) := by
      refine ih ?_
      intro before d after hsplit
      exact h (c :: before) d after (by rw [hsplit, List.cons_append])
    rw [List.cons_append, Text.replaceFirst, hstrip, List.cons_append, ← hdone]

/-! ### The part that is done -/

/-- No placeholder starts in the part that is done and ends there or in the rest. -/
def Settled (done rest : List Char) : Prop :=
  ∀ before after, done = before ++ '\x7b' :: after → untilBrace? (after ++ rest) = none

theorem settled_nil (rest : List Char) : Settled [] rest := by
  intro before after hsplit
  simp at hsplit

theorem settled_of_not_mem {done : List Char} (h : '\x7b' ∉ done) (rest : List Char) :
    Settled done rest := by
  intro before after hsplit
  exact absurd (hsplit ▸ List.mem_append_cons_self) h

theorem settled_of_not_starts {c : Char} {rest : List Char} (h : ¬ Starts (c :: rest)) :
    Settled [c] rest := by
  intro before after hsplit
  rcases List.cons_eq_append_iff.mp hsplit with ⟨rfl, hcons⟩ | ⟨others, rfl, hothers⟩
  · obtain ⟨rfl, rfl⟩ := List.cons.inj hcons
    exact Classical.byContradiction fun hclosed => h (starts_cons_iff.mpr ⟨rfl, hclosed⟩)
  · simp at hothers

/-- What is settled with more of the text to come stays so when that is settled as well. -/
theorem Settled.append {done more rest : List Char} (h : Settled done (more ++ rest))
    (hmore : Settled more rest) : Settled (done ++ more) rest := by
  intro before after hsplit
  rcases List.append_eq_append_iff.mp hsplit with ⟨middle, -, hmiddle⟩ | ⟨middle, hdone, hmiddle⟩
  · exact hmore middle after hmiddle
  · cases middle with
    | nil => exact hmore [] after hmiddle.symm
    | cons c middle =>
      rw [List.cons_append] at hmiddle
      obtain ⟨rfl, rfl⟩ := List.cons.inj hmiddle
      rw [List.append_assoc]
      exact h before middle hdone

/-- Before a placeholder every brace that is left open has its line break already, so that it does
not matter what the placeholder is replaced by. -/
theorem Settled.of_token {done inner rest : List Char} (h : Settled done (token inner ++ rest))
    (hinner : Inner inner) (other : List Char) : Settled done other := by
  intro before after hsplit
  have hopen := h before after hsplit
  have hline : '\n' ∈ after := by
    refine Classical.byContradiction fun hline => ?_
    have hfront : '\n' ∉ after ++ '\x7b' :: inner := by
      simp [hline, hinner.line]
    apply untilBrace?_ne_none hfront rest
    rw [List.append_assoc, List.cons_append, ← token_append]
    exact hopen
  exact untilBrace?_append_eq_none hline hopen other

/-- A text without opening braces can be put in the place of a placeholder. -/
theorem Settled.replace {done inner value rest : List Char} (h : Settled done (token inner ++ rest))
    (hinner : Inner inner) (hvalue : '\x7b' ∉ value) : Settled (done ++ value) rest := by
  have hdone : Settled done (value ++ rest) := h.of_token hinner (value ++ rest)
  exact hdone.append (settled_of_not_mem hvalue rest)

/-- The first occurrence of a placeholder, as it is written, is its own place. -/
theorem Settled.fill_eq {done inner rest : List Char} (h : Settled done (token inner ++ rest))
    (hinner : Inner inner) (cache : Cache) :
    fill cache (done ++ (token inner ++ rest)) inner = done ++ (filling cache inner ++ rest) := by
  refine replaceFirst_append done ?_
  intro before c after hsplit
  cases hstrip : Text.strip? (token inner) (c :: (after ++ (token inner ++ rest))) with
  | none => rfl
  | some left =>
    have heq := Text.strip?_eq_some_iff.mp hstrip
    rw [token_append inner left] at heq
    obtain ⟨rfl, hafter⟩ := List.cons.inj heq
    have hclosed : untilBrace? (after ++ (token inner ++ rest)) = some (inner, left) :=
      untilBrace?_eq_some_iff.mpr ⟨hafter, hinner⟩
    rw [h before after hsplit] at hclosed
    cases hclosed

/-! ### At most one placeholder -/

theorem filterMap_inner?_plain (cs : List Char) :
    (cs.map Part.plain).filterMap Part.inner? = [] := by
  induction cs with
  | nil => rfl
  | cons c cs ih => exact ih

/-- A text without opening braces is left as it is. -/
theorem resolve_of_not_mem {text : String} (h : '\x7b' ∉ text.toList) (cache : Cache) :
    resolve text cache = text := by
  rw [resolve, holes_eq, parts_of_not_mem h, filterMap_inner?_plain, List.foldl_nil,
    String.ofList_toList]

/-- The only placeholder of a text is replaced where it stands, whatever its value is. -/
theorem resolve_single {front inner back : List Char} (hfront : '\x7b' ∉ front)
    (hinner : Inner inner) (hback : '\x7b' ∉ back) (cache : Cache) :
    resolve (String.ofList (front ++ (token inner ++ back))) cache =
      String.ofList (front ++ (filling cache inner ++ back)) := by
  have hholes : holes (front ++ (token inner ++ back)) = [inner] := by
    rw [holes_eq, parts_append_of_not_mem hfront, parts_token_append hinner,
      parts_of_not_mem hback, List.filterMap_append, filterMap_inner?_plain, List.nil_append,
      List.filterMap_cons_some (Part.inner?_hole inner), filterMap_inner?_plain]
  rw [resolve, String.toList_ofList, hholes, List.foldl_cons, List.foldl_nil,
    (settled_of_not_mem hfront (token inner ++ back)).fill_eq hinner]

/-! ### The whole text -/

/-- Once a part of the text is done, the placeholders of the rest are replaced at their places. -/
theorem Cut.foldl_fill {cs : List Char} {ps : List Part} (h : Cut cs ps) {cache : Cache}
    (hvalues : OpensNothing cache ps) {done : List Char} (hdone : Settled done cs) :
    (ps.filterMap Part.inner?).foldl (fill cache) (done ++ cs) =
      done ++ ps.flatMap (Part.filled cache) := by
  induction h generalizing done with
  | nil => rfl
  | @hole inner rest ps hinner hrest ih =>
    have hsettled : Settled (done ++ filling cache inner) rest :=
      hdone.replace hinner (hvalues.not_mem_filling List.mem_cons_self)
    rw [List.filterMap_cons_some (Part.inner?_hole inner), List.foldl_cons,
      hdone.fill_eq hinner, ← List.append_assoc, ih hvalues.tail hsettled, List.append_assoc]
    rfl
  | @plain c rest ps hstarts hrest ih =>
    have hsettled : Settled (done ++ [c]) rest := hdone.append (settled_of_not_starts hstarts)
    rw [List.filterMap_cons_none (Part.inner?_plain c), List.append_cons,
      ih hvalues.tail hsettled, List.append_assoc]
    rfl

theorem resolve_eq_filled {text : String} {cache : Cache}
    (hvalues : OpensNothing cache (parts text.toList)) :
    resolve text cache =
      String.ofList ((parts text.toList).flatMap (Part.filled cache)) := by
  have hfill := (cut_parts text.toList).foldl_fill hvalues (settled_nil text.toList)
  rw [List.nil_append, List.nil_append] at hfill
  rw [resolve, holes_eq, hfill]

/-- If no value that is put in has an opening brace, each placeholder is replaced at its own place,
and the rest of the text is kept. -/
theorem resolve_in_place {text : String} {cache : Cache}
    (hvalues : ∀ ps, Cut text.toList ps → OpensNothing cache ps) :
    ∃ ps, Cut text.toList ps ∧ (∀ other, Cut text.toList other → other = ps) ∧
      resolve text cache = String.ofList (ps.flatMap (Part.filled cache)) := by
  have hcut := cut_parts text.toList
  refine ⟨parts text.toList, hcut, fun other hother => cut_iff.mp hother, ?_⟩
  have hfill := hcut.foldl_fill (hvalues _ hcut) (settled_nil text.toList)
  rw [List.nil_append, List.nil_append] at hfill
  rw [resolve, holes_eq, hfill]

/-- A placeholder that is the end of the one before as it is written and comes a second time, an
opening brace before a line break, and a value that is a closing brace. -/
theorem resolve_in_place_of_overlap :
    (∀ ps, Cut "\x7ba\x7bb\x7d\x7bb\x7d\x7b\n\x7bb\x7d".toList ps →
        OpensNothing (Cache.empty.insert "b" [34, 125, 34]) ps) ∧
      resolve "\x7ba\x7bb\x7d\x7bb\x7d\x7b\n\x7bb\x7d" (Cache.empty.insert "b" [34, 125, 34]) =
        "\x7d\x7b\n\x7d" := by
  have hparts : parts "\x7ba\x7bb\x7d\x7bb\x7d\x7b\n\x7bb\x7d".toList =
      [.hole ['a', '\x7b', 'b'], .hole ['b'], .plain '\x7b', .plain '\n', .hole ['b']] := by
    cbv
  have hmissing : value? (Cache.empty.insert "b" [34, 125, 34]) ['a', '\x7b', 'b'] = none := by
    cbv
  have hfound : value? (Cache.empty.insert "b" [34, 125, 34]) ['b'] = some "\x7d" := by
    decide +kernel
  have hvalues : ∀ ps, Cut "\x7ba\x7bb\x7d\x7bb\x7d\x7b\n\x7bb\x7d".toList ps →
      OpensNothing (Cache.empty.insert "b" [34, 125, 34]) ps := by
    intro ps hcut inner hmem value hvalue
    rw [cut_iff.mp hcut, hparts] at hmem
    have hinner : inner = ['a', '\x7b', 'b'] ∨ inner = ['b'] := by
      simpa using hmem
    rcases hinner with rfl | rfl
    · rw [hmissing] at hvalue
      cases hvalue
    · rw [hfound] at hvalue
      obtain rfl := Option.some.inj hvalue
      decide
  refine ⟨hvalues, ?_⟩
  obtain ⟨ps, hcut, -, hresolve⟩ := resolve_in_place hvalues
  rw [hresolve, cut_iff.mp hcut, hparts]
  cbv

/-! ### Without cached bodies -/

theorem value?_empty (inner : List Char) : value? Cache.empty inner = none := by
  unfold value?
  split <;> rfl

theorem filling_empty (inner : List Char) : filling Cache.empty inner = [] := by
  rw [filling, value?_empty]
  rfl

/-- A text without line breaks in which every opening brace has a closing one after it. -/
inductive Shut : List Char → Prop
  | nil : Shut []
  | cons {c : Char} {cs : List Char} (hline : c ≠ '\n') (hclosed : c = '\x7b' → '\x7d' ∈ cs)
      (h : Shut cs) : Shut (c :: cs)

theorem Shut.append {front back : List Char} (hfront : Shut front) (hback : Shut back) :
    Shut (front ++ back) := by
  induction hfront with
  | nil => exact hback
  | cons hline hclosed _ ih =>
    exact .cons hline (fun hc => List.mem_append_left back (hclosed hc)) ih

theorem Shut.tail {c : Char} {cs : List Char} (h : Shut (c :: cs)) : Shut cs := by
  cases h with
  | cons _ _ h => exact h

theorem Shut.of_append {front back : List Char} (h : Shut (front ++ back)) : Shut back := by
  induction front with
  | nil => exact h
  | cons c front ih => exact ih h.tail

theorem shut_of_not_mem {cs : List Char} (hline : '\n' ∉ cs) (hbrace : '\x7b' ∉ cs) : Shut cs := by
  induction cs with
  | nil => exact .nil
  | cons c cs ih =>
    refine .cons (fun hc => hline (hc ▸ List.mem_cons_self)) ?_ ?_
    · intro hc
      exact absurd (hc ▸ List.mem_cons_self) hbrace
    · exact ih (List.not_mem_of_not_mem_cons hline) (List.not_mem_of_not_mem_cons hbrace)

theorem Shut.line {cs : List Char} (h : Shut cs) : '\n' ∉ cs := by
  induction h with
  | nil => exact List.not_mem_nil
  | cons hline _ _ ih => exact List.not_mem_cons_of_ne_of_not_mem (Ne.symm hline) ih

/-- In a text that is shut, a placeholder starts at every opening brace. -/
theorem Shut.starts {rest : List Char} (h : Shut ('\x7b' :: rest)) : Starts ('\x7b' :: rest) := by
  cases h with
  | cons _ hclosed h =>
    obtain ⟨inner, after, rfl⟩ := List.append_of_mem (hclosed rfl)
    have hline : '\n' ∉ inner := fun hmem => h.line (List.mem_append_left _ hmem)
    exact starts_cons_iff.mpr ⟨rfl, untilBrace?_ne_none hline after⟩

theorem Cut.not_mem_of_shut {cs : List Char} {ps : List Part} (h : Cut cs ps) (hshut : Shut cs) :
    .plain '\x7b' ∉ ps := by
  induction h with
  | nil => exact List.not_mem_nil
  | hole hinner hrest ih =>
    exact List.not_mem_cons_of_ne_of_not_mem nofun (ih hshut.of_append)
  | @plain c rest ps hstarts hrest ih =>
    refine List.not_mem_cons_of_ne_of_not_mem ?_ (ih hshut.tail)
    intro hc
    obtain rfl := Part.plain.inj hc
    exact hstarts hshut.starts

/-- Without cached bodies, no opening brace of a text that is shut is left. -/
theorem not_mem_resolve_empty {text : String} (h : Shut text.toList) :
    '\x7b' ∉ (resolve text Cache.empty).toList := by
  have hvalues : OpensNothing Cache.empty (parts text.toList) := by
    intro inner _ value hvalue
    rw [value?_empty] at hvalue
    cases hvalue
  rw [resolve_eq_filled hvalues, String.toList_ofList]
  intro hmem
  obtain ⟨part, hpart, hmem⟩ := List.mem_flatMap.mp hmem
  cases part with
  | plain c =>
    obtain rfl := List.mem_singleton.mp hmem
    exact (cut_parts text.toList).not_mem_of_shut h hpart
  | hole inner =>
    rw [Part.filled, filling_empty] at hmem
    cases hmem

end HttpScenario.Template
