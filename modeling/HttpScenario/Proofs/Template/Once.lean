import HttpScenario.Proofs.Template.InPlace
/-!
# Resolving once is enough

A text in which no placeholder starts is `Bare`: it has no placeholders at all, so that resolving it
with any cache leaves it as it is.  If no value that is put in has an opening brace, a text that has
been resolved is bare (`resolve_once`).  That is more than that no placeholder of the text is left:
an opening brace that was no placeholder before could become one by a closing brace in a value after
it.  It cannot, because there is a line break between the two; otherwise the brace would have been
closed by the end of the placeholder that the value replaces.

The invariant is the one by which placeholders are replaced at their own places (`Settled`), taken
to the end of the text (`Cut.settled`).
-/

namespace HttpScenario.Template

/-! ### Texts without placeholders -/

/-- Nowhere in the text does a placeholder start. -/
def Bare (cs : List Char) : Prop :=
  ∀ front rest, cs = front ++ rest → ¬ Starts rest

theorem Bare.tail {c : Char} {cs : List Char} (h : Bare (c :: cs)) : Bare cs := by
  intro front rest hsplit
  exact h (c :: front) rest (by rw [hsplit, List.cons_append])

/-- A text is bare if no placeholder starts in it and nothing is to come. -/
theorem Settled.bare {cs : List Char} (h : Settled cs []) : Bare cs := by
  intro front rest hsplit hstarts
  cases rest with
  | nil =>
    obtain ⟨inner, after, heq, -⟩ := hstarts
    simp [token] at heq
  | cons c rest =>
    obtain ⟨rfl, hclosed⟩ := starts_cons_iff.mp hstarts
    have hopen := h front rest hsplit
    rw [List.append_nil] at hopen
    exact hclosed hopen

/-- The characters of a bare text are all kept. -/
theorem Bare.parts_eq {cs : List Char} (h : Bare cs) : parts cs = cs.map .plain := by
  induction cs with
  | nil => rw [parts, List.map_nil]
  | cons c cs ih =>
    have hstarts : ¬ Starts (c :: cs) := h [] (c :: cs) rfl
    rw [parts_of_not_starts hstarts, ih h.tail, List.map_cons]

theorem Bare.holes_eq_nil {cs : List Char} (h : Bare cs) : holes cs = [] := by
  rw [holes_eq, h.parts_eq, filterMap_inner?_plain]

section bare

variable {text : String} (h : Bare text.toList) (cache : Cache)

include h

theorem resolve_of_bare : resolve text cache = text := by
  rw [resolve, h.holes_eq_nil, List.foldl_nil, String.ofList_toList]

theorem unresolved_of_bare : unresolved text cache = [] := by
  rw [unresolved, h.holes_eq_nil]
  rfl

end bare

/-! ### Texts that have been resolved -/

/-- If the part that is done is settled, it stays so when the rest of the text is resolved. -/
theorem Cut.settled {cs : List Char} {ps : List Part} (h : Cut cs ps) {cache : Cache}
    (hvalues : OpensNothing cache ps) {done : List Char} (hdone : Settled done cs) :
    Settled (done ++ ps.flatMap (Part.filled cache)) [] := by
  induction h generalizing done with
  | nil =>
    rw [List.flatMap_nil, List.append_nil]
    exact hdone
  | @hole inner rest ps hinner hrest ih =>
    have hsettled := hdone.replace hinner (hvalues.not_mem_filling List.mem_cons_self)
    rw [List.flatMap_cons, ← List.append_assoc]
    exact ih hvalues.tail hsettled
  | @plain c rest ps hstarts hrest ih =>
    have hsettled : Settled (done ++ [c]) rest := hdone.append (settled_of_not_starts hstarts)
    rw [List.flatMap_cons, ← List.append_assoc]
    exact ih hvalues.tail hsettled

/-- If no value that is put in has an opening brace, no placeholder starts in the text that comes
out, neither one that was there nor a new one.  Resolving it again, with whatever cache, finds
nothing to report and changes nothing. -/
theorem resolve_once {text : String} {cache : Cache}
    (hvalues : ∀ ps, Cut text.toList ps → OpensNothing cache ps) :
    Bare (resolve text cache).toList ∧
      ∀ other, unresolved (resolve text cache) other = [] ∧
        resolve (resolve text cache) other = resolve text cache := by
  have hbare : Bare (resolve text cache).toList := by
    have hcut := cut_parts text.toList
    have hsettled := hcut.settled (hvalues _ hcut) (settled_nil text.toList)
    rw [List.nil_append] at hsettled
    rw [resolve_eq_filled (hvalues _ hcut), String.toList_ofList]
    exact hsettled.bare
  refine ⟨hbare, ?_⟩
  intro other
  exact ⟨unresolved_of_bare hbare other, resolve_of_bare hbare other⟩

/-- A cache with one body, a text of two closing braces with a line break between them. -/
def closingBraces : Cache :=
  Cache.empty.insert "b" (Utf8.encode "\"\x7d\\n\x7d\"")

/-- An opening brace before a line break, the value with the closing braces, and a closing and an
opening brace after it. -/
theorem resolve_once_of_stray :
    (∀ ps, Cut "\x7b\n\x7bb\x7d\x7d\x7b".toList ps → OpensNothing closingBraces ps) ∧
      resolve "\x7b\n\x7bb\x7d\x7d\x7b" closingBraces = "\x7b\n\x7d\n\x7d\x7d\x7b" ∧
      Bare "\x7b\n\x7d\n\x7d\x7d\x7b".toList ∧
      ∀ other, unresolved "\x7b\n\x7d\n\x7d\x7d\x7b" other = [] ∧
        resolve "\x7b\n\x7d\n\x7d\x7d\x7b" other = "\x7b\n\x7d\n\x7d\x7d\x7b" := by
  have hparts : parts "\x7b\n\x7bb\x7d\x7d\x7b".toList =
      [.plain '\x7b', .plain '\n', .hole ['b'], .plain '\x7d', .plain '\x7b'] := by
    cbv
  have hfound : value? closingBraces ['b'] = some "\x7d\n\x7d" := by
    decide +kernel
  have hvalues : ∀ ps, Cut "\x7b\n\x7bb\x7d\x7d\x7b".toList ps →
      OpensNothing closingBraces ps := by
    intro ps hcut inner hmem value hvalue
    rw [cut_iff.mp hcut, hparts] at hmem
    obtain rfl : inner = ['b'] := by simpa using hmem
    rw [hfound] at hvalue
    obtain rfl := Option.some.inj hvalue
    decide
  have hresolve : resolve "\x7b\n\x7bb\x7d\x7d\x7b" closingBraces =
      "\x7b\n\x7d\n\x7d\x7d\x7b" := by
    rw [resolve_eq_filled (hvalues _ (cut_parts _)), hparts]
    simp [Part.filled, filling, hfound]
  have honce := resolve_once hvalues
  rw [hresolve] at honce
  exact ⟨hvalues, hresolve, honce⟩

end HttpScenario.Template
