import HttpScenario.Proofs.Shape.Kept
import HttpScenario.Shape.Reader
/-!
# Reading a written document by a shape

For each shape, what a written document that fits it is read as.  A text, a truth value, a whole
number and a word are read as they are; a list is read item by item (`reads_list`) and a table entry
by entry (`reads_table`); a record is read field by field, where a field that is left out is what
its default says (`reads_record`).

The fields of a record are gathered in the order in which they are written and looked up by name
afterwards.  So the one thing to show of a record is that each name leads to what was read under it,
and to nothing if nothing was (`assemble_written`); it needs that no two fields have one name.
-/

namespace HttpScenario.Shape

open Json (Reads ReadsAfterKey Gathers Reader Blank Ended Starts octets)

/-! ### Small values -/

/-- What is read from the first octet of a value on is read where the value is written. -/
theorem reads_atValue {α : Type} {readOn : UInt8 → Octets → Except Json.Fault (α × Octets)}
    {v : Json} {x : α}
    (h : ∀ level, ∃ b bs, octets level v = b :: bs ∧ Starts b ∧
      ∀ rest, Ended rest → readOn b (bs ++ rest) = .ok (x, rest)) :
    Reads (atValue readOn) v x := by
  refine ⟨?_, ?_⟩
  · intro level
    obtain ⟨b, bs, hoctets, hstarts, -⟩ := h level
    exact ⟨b, bs, hoctets, hstarts⟩
  · intro level spaces rest hspaces hrest
    obtain ⟨b, bs, hoctets, hstarts, hread⟩ := h level
    rw [hoctets, List.cons_append]
    unfold atValue
    rw [Json.skipSpaces_append hspaces hstarts.1]
    exact hread rest hrest

/-- A value that is read can be handed on. -/
theorem reads_bind {α β : Type} {read : Reader α} {v : Json} {x : α} {y : β} (h : Reads read v x)
    {next : α × Octets → Except Json.Fault (β × Octets)}
    (hnext : ∀ rest, next (x, rest) = .ok (y, rest)) : Reads (fun s => read s >>= next) v y := by
  refine ⟨h.starts, ?_⟩
  intro level spaces rest hspaces hrest
  show (read _ >>= next) = _
  rw [h.read_octets level hspaces hrest]
  exact hnext rest

section small

variable (levels : Nat)

theorem reads_readString (expected s : String) : Reads (readString expected) (.str s) s := by
  refine reads_atValue fun level => ⟨0x22, _, Json.octets_str level s, by decide, ?_⟩
  intro rest _
  rw [if_pos rfl, Json.readText_quoted]

theorem reads_text (s : String) : Reads (reader .text levels) (.str s) (.str s) := by
  refine ⟨(reads_readString "a string" s).starts, ?_⟩
  intro level spaces rest hspaces hrest
  show (readString "a string" _).map _ = _
  rw [(reads_readString "a string" s).read_octets level hspaces hrest]
  rfl

theorem reads_flag (value : Bool) : Reads (reader .flag levels) (.bool value) (.bool value) := by
  refine reads_atValue fun level => ?_
  obtain ⟨b, bs, hoctets, hstarts, -, -, -, hread⟩ :=
    Json.scalar_written level (v := .bool value) trivial
  refine ⟨b, bs, hoctets, hstarts, ?_⟩
  intro rest hrest
  have hb : b = 0x74 ∨ b = 0x66 := by
    cases value with
    | true => exact Or.inl (List.cons.inj hoctets).1.symm
    | false => exact Or.inr (List.cons.inj hoctets).1.symm
  rw [if_pos (by simpa using hb)]
  exact hread rest hrest

theorem reads_number (expected : String) {n : Int} (h : (Json.Number.whole n).Kept) :
    Reads (readNumberAs expected) (.int n) (.whole n) := by
  refine reads_atValue fun level => ?_
  obtain ⟨b, bs, hoctets, ⟨rfl, hread⟩ | ⟨hb, hread⟩⟩ := Json.whole_written level h
  · refine ⟨0x2D, bs, hoctets, by decide, ?_⟩
    intro rest hrest
    rw [if_pos rfl]
    exact hread rest hrest
  · refine ⟨b, bs, hoctets, Json.starts_of_isDigitOctet hb, ?_⟩
    intro rest hrest
    rw [if_neg (Json.ne_of_isDigitOctet hb (by decide)), if_pos hb]
    exact hread rest hrest

/-- A whole number is read where it is in the range that is wanted and is one that is kept. -/
theorem reads_whole (title : String) {low high n : Int} (h : (Json.Number.whole n).Kept)
    (hlow : low ≤ n) (hhigh : n ≤ high) :
    Reads (reader (.whole title low high) levels) (.int n) (.int n) := by
  refine reads_bind (reads_number title h) ?_
  intro rest
  exact if_pos ⟨hlow, hhigh⟩

theorem reads_word {known : List String} {word : String} (h : known.contains word = true) :
    Reads (reader (.word known) levels) (.str word) (.str word) := by
  refine reads_atValue fun level => ⟨0x22, _, Json.octets_str level word, by decide, ?_⟩
  intro rest _
  have hknown : knownWord known word = .ok (.str word) := if_pos h
  rw [if_pos rfl, Json.readText_quoted]
  show (knownWord known word >>= _) = _
  rw [hknown]
  rfl

/-- A value that may be missing is read as it is if it is there and does not start like null. -/
theorem reads_optional {shape : Shape} {v x : Json} (h : Reads (reader shape levels) v x)
    (hfirst : ∀ level, ∃ b bs, octets level v = b :: bs ∧ Starts b ∧ b ≠ 0x6E) :
    Reads (reader (.optional shape) levels) v x := by
  refine ⟨h.starts, ?_⟩
  intro level spaces rest hspaces hrest
  obtain ⟨b, bs, hoctets, hstarts, hb⟩ := hfirst level
  have hskip : Json.skipSpaces (spaces ++ (octets level v ++ rest)) = b :: (bs ++ rest) := by
    rw [hoctets, List.cons_append]
    exact Json.skipSpaces_append hspaces hstarts.1 _
  have hread := h.read_octets level hspaces hrest
  rw [reader]
  dsimp only
  rw [hskip]
  split
  · rename_i heq
    exact absurd (List.cons.inj heq).1 hb
  · exact hread

/-- The first alternative that what is kept fits decides. -/
theorem reads_firstOf (title : String) {alternatives : List Shape} {v x : Json} {kept : Content}
    (h : Reads (Content.read levels) v kept)
    (hfits : firstOfContent? alternatives kept = some x) :
    Reads (reader (.firstOf title alternatives) levels) v x := by
  refine reads_bind h ?_
  intro rest
  dsimp only
  rw [hfits]

end small

/-! ### Lists and tables -/

section collections

variable {levels : Nat}

/-- A list is read item by item. -/
theorem reads_list {item : Shape} {vs xs : List Json}
    (h : List.Forall₂ (Reads (reader item levels)) vs xs) :
    Reads (reader (.list item) (levels + 1)) (.arr vs) (.arr xs) := by
  refine reads_atValue fun level => ⟨0x5B, _, Json.octets_arr level vs, by decide, ?_⟩
  intro rest _
  rw [if_pos rfl]
  show (Json.items (reader item levels) _ true _).map _ = _
  rw [Json.items_written h level rest]
  rfl

/-- The entries of a sorted table are put into the table one by one, each at its end. -/
theorem gathers_table {value : Shape} {table entries : Table Json}
    (hsorted : Table.Sorted (table ++ entries))
    (h : ∀ entry ∈ entries, Reads (reader value levels) entry.2 entry.2) :
    Gathers (Json.tableMember (reader value levels)) table entries (table ++ entries) := by
  induction entries generalizing table with
  | nil =>
    rw [List.append_nil]
    exact .nil table
  | cons entry entries ih =>
    obtain ⟨key, v⟩ := entry
    have hinsert := Table.insert_of_lt v hsorted.lt_of_mem
    have hread := h (key, v) List.mem_cons_self
    have hmember : ReadsAfterKey (Json.tableMember (reader value levels) table key) v
        (table ++ [(key, v)]) := by
      rw [← hinsert]
      exact hread.afterKey fun v => Table.insert key v table
    rw [List.append_cons] at hsorted ⊢
    exact .cons hmember (ih hsorted fun entry hentry => h entry (List.mem_cons_of_mem _ hentry))

/-- A sorted table is read entry by entry. -/
theorem reads_table {value : Shape} {entries : Table Json} (hsorted : Table.Sorted entries)
    (h : ∀ entry ∈ entries, Reads (reader value levels) entry.2 entry.2) :
    Reads (reader (.table value) (levels + 1)) (.obj entries) (.obj entries) := by
  refine reads_atValue fun level => ⟨0x7B, _, Json.octets_obj level entries, by decide, ?_⟩
  intro rest _
  have hgathers : Gathers (Json.tableMember (reader value levels)) [] entries entries :=
    gathers_table hsorted h
  rw [if_pos rfl]
  show (Json.members (Json.tableMember (reader value levels)) _ true [] _).map _ = _
  rw [Json.members_written hgathers level rest]
  rfl

end collections

/-! ### Records -/

section records

/-- The members of a written record with what the record is read as: each field is written in its
place, or is left out and has a default. -/
inductive FieldsWritten : List FieldReader → List (String × Json) → List (String × Json) → Prop
  | nil : FieldsWritten [] [] []
  | written {field : FieldReader} {fields : List FieldReader} {v x : Json}
      {members values : List (String × Json)} (hread : Reads field.read v x)
      (h : FieldsWritten fields members values) :
      FieldsWritten (field :: fields) ((field.name, v) :: members) ((field.name, x) :: values)
  | leftOut {field : FieldReader} {fields : List FieldReader} {x : Json}
      {members values : List (String × Json)} (hdefault : field.default? = some x)
      (h : FieldsWritten fields members values) :
      FieldsWritten (field :: fields) members ((field.name, x) :: values)

/-- A field that has not been read yet is read where it is written. -/
theorem readsAfterKey_recordMember {fields : List FieldReader} {field : FieldReader}
    {found : List (String × Json)} {v x : Json}
    (hfield : fields.find? (·.name == field.name) = some field)
    (hfound : found.lookup field.name = none) (hread : Reads field.read v x) :
    ReadsAfterKey (recordMember fields found field.name) v ((field.name, x) :: found) := by
  intro level rest hrest
  have hcolon := hread.afterKey (fun v => (field.name, v) :: found) level hrest
  unfold recordMember
  rw [hfield]
  dsimp only
  rw [hfound]
  exact hcolon

theorem assemble_of_some {found values : List (String × Json)} {name : String} {x : Json}
    {default? : Option Json} {fields : List (String × Option Json)}
    (hlookup : found.lookup name = some x) (h : assemble found fields = .ok values) :
    assemble found ((name, default?) :: fields) = .ok ((name, x) :: values) := by
  rw [assemble.eq_def]
  dsimp only
  rw [hlookup]
  dsimp only
  rw [h]
  rfl

theorem assemble_of_none {found values : List (String × Json)} {name : String} {x : Json}
    {fields : List (String × Option Json)}
    (hlookup : found.lookup name = none) (h : assemble found fields = .ok values) :
    assemble found ((name, some x) :: fields) = .ok ((name, x) :: values) := by
  rw [assemble.eq_def]
  dsimp only
  rw [hlookup]
  dsimp only
  rw [h]
  rfl

/-- What is gathered from the members of a record is found under the names of its fields.  The
induction goes along the fields that are left; those before them do not matter, because no name
comes twice. -/
theorem assemble_written {all fields : List FieldReader} {members values : List (String × Json)}
    (h : FieldsWritten fields members values) {found : List (String × Json)}
    (hall : ∀ field ∈ fields, all.find? (·.name == field.name) = some field)
    (hnames : (fields.map (·.name)).Nodup)
    (hfound : ∀ field ∈ fields, found.lookup field.name = none) :
    ∃ final, Gathers (recordMember all) found members final ∧
      (∀ name, name ∉ fields.map (·.name) → final.lookup name = found.lookup name) ∧
      assemble final (fields.map fun field => (field.name, field.default?)) = .ok values := by
  induction h generalizing found with
  | nil => exact ⟨found, .nil found, fun _ _ => rfl, rfl⟩
  | @written field fields v x members values hread _ ih =>
    obtain ⟨hname, hnames⟩ := List.nodup_cons.mp hnames
    have hlookup : ∀ name, name ≠ field.name →
        List.lookup name ((field.name, x) :: found) = found.lookup name := by
      intro name hne
      rw [List.lookup_cons, beq_false_of_ne hne]
    have hothers : ∀ other ∈ fields, List.lookup other.name ((field.name, x) :: found) = none := by
      intro other hother
      have hne : other.name ≠ field.name := by
        intro heq
        exact hname (List.mem_map.mpr ⟨other, hother, heq⟩)
      rw [hlookup _ hne]
      exact hfound other (List.mem_cons_of_mem _ hother)
    obtain ⟨final, hgathers, hkeeps, hassemble⟩ :=
      ih (fun other hother => hall other (List.mem_cons_of_mem _ hother)) hnames hothers
    have hmember := readsAfterKey_recordMember (hall field List.mem_cons_self)
      (hfound field List.mem_cons_self) hread
    refine ⟨final, .cons hmember hgathers, ?_, ?_⟩
    · intro name hnot
      rw [List.map_cons, List.mem_cons, not_or] at hnot
      rw [hkeeps name hnot.2, hlookup name hnot.1]
    · refine assemble_of_some ?_ hassemble
      rw [hkeeps field.name hname]
      simp
  | @leftOut field fields x members values hdefault _ ih =>
    obtain ⟨hname, hnames⟩ := List.nodup_cons.mp hnames
    obtain ⟨final, hgathers, hkeeps, hassemble⟩ := ih
      (fun other hother => hall other (List.mem_cons_of_mem _ hother)) hnames
      (fun other hother => hfound other (List.mem_cons_of_mem _ hother))
    refine ⟨final, hgathers, ?_, ?_⟩
    · intro name hnot
      rw [List.map_cons, List.mem_cons, not_or] at hnot
      exact hkeeps name hnot.2
    · rw [List.map_cons, hdefault]
      refine assemble_of_none ?_ hassemble
      rw [hkeeps field.name hname]
      exact hfound field List.mem_cons_self

theorem name_fieldReaders (fields : List (String × Shape × Option Json)) (levels : Nat) :
    (fieldReaders fields levels).map (·.name) = fields.map (·.1) := by
  induction fields with
  | nil => rfl
  | cons field fields ih =>
    obtain ⟨name, shape, default?⟩ := field
    rw [fieldReaders, List.map_cons, List.map_cons, ih]

/-- Among fields with different names each is the first of its name. -/
theorem find?_of_nodup {fields : List FieldReader} (h : (fields.map (·.name)).Nodup) :
    ∀ field ∈ fields, fields.find? (·.name == field.name) = some field := by
  induction fields with
  | nil => exact fun _ h => nomatch h
  | cons first fields ih =>
    obtain ⟨hname, hnames⟩ := List.nodup_cons.mp h
    intro field hfield
    rcases List.mem_cons.mp hfield with rfl | hfield
    · simp
    · have hne : first.name ≠ field.name := by
        intro heq
        exact hname (List.mem_map.mpr ⟨field, hfield, heq.symm⟩)
      rw [List.find?_cons_of_neg (by simpa using hne)]
      exact ih hnames field hfield

/-- A record is read field by field, and fields that are left out are what their defaults say. -/
theorem reads_record (title : String) {fields : List (String × Shape × Option Json)} {levels : Nat}
    {members values : List (String × Json)} (hnames : (fields.map (·.1)).Nodup)
    (h : FieldsWritten (fieldReaders fields levels) members values) :
    Reads (reader (.record title fields) (levels + 1)) (.obj members) (.obj values) := by
  have hnodup : ((fieldReaders fields levels).map (·.name)).Nodup := by
    rw [name_fieldReaders]
    exact hnames
  obtain ⟨final, hgathers, -, hassemble⟩ :=
    assemble_written h (find?_of_nodup hnodup) hnodup fun _ _ => List.lookup_nil
  refine reads_atValue fun level => ⟨0x7B, _, Json.octets_obj level members, by decide, ?_⟩
  intro rest _
  rw [if_pos (by decide)]
  show readRecord title (fieldReaders fields levels) 0x7B _ = _
  unfold readRecord
  rw [if_neg (by decide), if_pos rfl]
  refine bind_eq_ok_iff.mpr ⟨(final, rest), Json.members_written hgathers level rest, ?_⟩
  dsimp only
  rw [hassemble]

end records

/-! ### Whole texts -/

theorem parseText_of_reads {shape : Shape} {v x : Json}
    (h : Reads (reader shape Json.maxLevels) v x) : parseText shape v.pretty = .ok x := by
  rw [parseText, parse, Json.readWhole_of_reads h]
  rfl

end HttpScenario.Shape
