import HttpScenario.Proofs.Json.Tabular
import HttpScenario.Shape.Reader
/-!
# What a shape reads is made of tables

A shape reads two parts of a document as plain data: the entries of a table, and any document.
`Shape.Tabular shape v` says of a value `v` that in the places of these parts it is made of tables.
Every value that the shape reads is so, whether it is read from a text (`Shape.gives_reader`) or
found to fit a value that was kept (`Shape.tabular_ofContent?`).

Both follow the shape.  For a record, all that is shown of a field is what its value is like: read
for the field, or standing in for it (`FieldTabular`).  How a record gathers its fields, from
members or from a list, then does not matter.
-/

namespace HttpScenario

open Json (Reader TableOf)

/-- Each member has a property that its key decides. -/
def EachMember (P : String → Json → Prop) (members : List (String × Json)) : Prop :=
  ∀ entry ∈ members, P entry.1 entry.2

theorem eachMember_nil {P : String → Json → Prop} : EachMember P [] :=
  List.forall_mem_nil _

theorem EachMember.cons {P : String → Json → Prop} {members : List (String × Json)}
    (h : EachMember P members) {key : String} {v : Json} (hv : P key v) :
    EachMember P ((key, v) :: members) :=
  List.forall_mem_cons.mpr ⟨hv, h⟩

namespace Shape

mutual

/-- In the places of plain data, a value of a shape is made of tables.  A text is no object, which
tells it from a table where either may stand. -/
def Tabular : Shape → Json → Prop
  | .text, v => ∃ s, v = .str s
  | .flag, _ => True
  | .whole _ _ _, _ => True
  | .real, _ => True
  | .any, v => v.Tables
  | .anyAsText, _ => True
  | .list item, v => ∃ items, v = .arr items ∧ ∀ x ∈ items, Tabular item x
  | .table value, v => ∃ entries, v = .obj entries ∧ TableOf (Tabular value) entries
  | .optional value, v => v = .null ∨ Tabular value v
  | .word _, _ => True
  | .record _ fields, v =>
    ∃ members, v = .obj members ∧ EachMember (FieldTabular fields) members
  | .firstOf _ alternatives, v => SomeTabular alternatives v

/-- What a record holds under a name stands in for the field of that name, or is made of tables as
the shape of the field says. -/
def FieldTabular : List (String × Shape × Option Json) → String → Json → Prop
  | [], _, _ => False
  | (name, shape, default?) :: fields, key, v =>
    (name = key ∧ (default? = some v ∨ Tabular shape v)) ∨ FieldTabular fields key v

/-- A value is made of tables as one of some shapes says. -/
def SomeTabular : List Shape → Json → Prop
  | [], _ => False
  | shape :: shapes, v => Tabular shape v ∨ SomeTabular shapes v

end

/-- What stands in for a field is what the record may hold under its name. -/
theorem fieldTabular_default {fields : List (String × Shape × Option Json)}
    {field : String × Shape × Option Json} (hfield : field ∈ fields) {v : Json}
    (hv : field.2.2 = some v) : FieldTabular fields field.1 v := by
  induction fields with
  | nil => cases hfield
  | cons other fields ih =>
    obtain ⟨name, shape, default?⟩ := other
    rcases List.mem_cons.mp hfield with rfl | hfield
    · exact Or.inl ⟨rfl, Or.inl hv⟩
    · exact Or.inr (ih hfield)

/-! ### The members of a record -/

theorem mem_of_lookup {α : Type} {key : String} {entries : List (String × α)} {v : α}
    (h : entries.lookup key = some v) : (key, v) ∈ entries := by
  obtain ⟨before, after, rfl, -⟩ := List.lookup_eq_some_iff.mp h
  exact List.mem_append_right _ List.mem_cons_self

/-- The first field of a record has some value, and the fields after it are assembled. -/
theorem assemble_cons {found : List (String × Json)} {name : String} {default? : Option Json}
    {fields : List (String × Option Json)} {members : List (String × Json)}
    (h : assemble found ((name, default?) :: fields) = .ok members) :
    ∃ v rest, (found.lookup name = some v ∨ default? = some v) ∧
      assemble found fields = .ok rest ∧ (name, v) :: rest = members := by
  rw [assemble.eq_def] at h
  dsimp only at h
  split at h
  · rename_i v hfound
    obtain ⟨rest, hrest, hmembers⟩ := map_eq_ok_iff.mp h
    exact ⟨v, rest, Or.inl hfound, hrest, hmembers⟩
  · rename_i v hfound
    obtain ⟨rest, hrest, hmembers⟩ := map_eq_ok_iff.mp h
    exact ⟨v, rest, Or.inr rfl, hrest, hmembers⟩
  · cases h

/-- The fields of a record are as what was found and as what stands in for a field. -/
theorem forall_assemble {P : String → Json → Prop} {found : List (String × Json)}
    {fields : List (String × Option Json)} {members : List (String × Json)}
    (hfound : EachMember P found)
    (hdefault : ∀ field ∈ fields, ∀ v, field.2 = some v → P field.1 v)
    (h : assemble found fields = .ok members) : EachMember P members := by
  induction fields generalizing members with
  | nil =>
    obtain rfl : [] = members := Except.ok.inj h
    exact eachMember_nil
  | cons field fields ih =>
    obtain ⟨name, default?⟩ := field
    obtain ⟨v, rest, hv, hrest, rfl⟩ := assemble_cons h
    have hname : P name v := by
      rcases hv with hv | hv
      · exact hfound (name, v) (mem_of_lookup hv)
      · exact hdefault (name, default?) List.mem_cons_self v hv
    have hothers := ih (fun other h => hdefault other (List.mem_cons_of_mem _ h)) hrest
    exact hothers.cons hname

/-! ### Records that are read -/

section record

variable {P : String → Json → Prop} {fields : List FieldReader}

theorem gives_readInOrder (title : String) (count : Nat)
    (hread : ∀ field ∈ fields, ∀ s, Gives (field.read s) (P field.name))
    (hdefault : ∀ field ∈ fields, ∀ v, field.default? = some v → P field.name v) (index : Nat)
    (first : Bool) (s : Octets) :
    Gives (readInOrder title count fields index first s) (EachMember P) := by
  induction fields generalizing index first s with
  | nil =>
    rw [readInOrder]
    exact gives_ok eachMember_nil _
  | cons field fields ih =>
    have hrest := ih (fun other h => hread other (List.mem_cons_of_mem _ h))
      fun other h => hdefault other (List.mem_cons_of_mem _ h)
    rw [readInOrder]
    split
    · exact gives_error _
    · split
      · exact gives_error _
      · rename_i v s hv
        have hfield := hread field List.mem_cons_self _ v s hv
        exact gives_map fun read h => EachMember.cons (hrest _ _ _ read.1 read.2 h) hfield
    · split
      · exact gives_error _
      · rename_i v hv
        have hfield := hdefault field List.mem_cons_self v hv
        exact gives_map fun read h => EachMember.cons (hrest _ _ _ read.1 read.2 h) hfield

theorem gives_recordMember (hread : ∀ field ∈ fields, ∀ s, Gives (field.read s) (P field.name))
    {found : List (String × Json)} (hfound : EachMember P found) (key : String) (s : Octets) :
    Gives (recordMember fields found key s) (EachMember P) := by
  unfold recordMember
  split
  · exact gives_bind fun _ _ => gives_bind fun _ _ => gives_ok hfound _
  · rename_i field hfield
    have hname : field.name = key := by simpa using List.find?_some hfield
    split
    · exact gives_error _
    · refine gives_bind fun s _ => gives_bind fun read h => gives_ok ?_ _
      have hv := hread field (List.mem_of_find?_eq_some hfield) s read.1 read.2 h
      rw [hname] at hv
      exact hfound.cons hv

theorem gives_readRecord (title : String)
    (hread : ∀ field ∈ fields, ∀ s, Gives (field.read s) (P field.name))
    (hdefault : ∀ field ∈ fields, ∀ v, field.default? = some v → P field.name v) (b : UInt8)
    (rest : Octets) :
    Gives (readRecord title fields b rest) fun v =>
      ∃ members, v = .obj members ∧ EachMember P members := by
  unfold readRecord
  split
  · refine gives_bind fun read h => gives_bind fun _ _ => gives_ok ⟨_, rfl, ?_⟩ _
    exact gives_readInOrder title _ hread hdefault _ _ _ read.1 read.2 h
  split
  · refine gives_bind fun read h => ?_
    have hstep : ∀ found key s, EachMember P found →
        Gives (recordMember fields found key s) (EachMember P) :=
      fun _ key s hfound => gives_recordMember hread hfound key s
    have hfound := Json.gives_members hstep _ true eachMember_nil _ read.1 read.2 h
    dsimp only
    split
    · rename_i members hmembers
      exact gives_ok
        ⟨members, rfl, forall_assemble hfound (List.forall_mem_map.mpr hdefault) hmembers⟩ _
    · exact gives_error _
  · exact gives_error _

end record

/-! ### Values that are kept -/

section kept

/-- What a kept value is read as has a property. -/
def FitsGive (fits : Fits) (P : Json → Prop) : Prop :=
  ∀ c v, fits c = some v → P v

theorem tableOf_tableOfContent? {fits : Fits} {P : Json → Prop} (h : FitsGive fits P)
    {members : List (Content × Content)} {table result : Table Json} (htable : TableOf P table)
    (hresult : tableOfContent? fits table members = some result) : TableOf P result := by
  induction members generalizing table with
  | nil =>
    obtain rfl : table = result := Option.some.inj hresult
    exact htable
  | cons member members ih =>
    obtain ⟨key, value⟩ := member
    rw [tableOfContent?.eq_def] at hresult
    dsimp only at hresult
    split at hresult
    · rename_i key v hv
      exact ih (htable.insert key (h _ v hv)) hresult
    · cases hresult

variable {P : String → Json → Prop} {fields : List (String × Fits × Option Json)}

theorem forall_fieldsOfMembers? (hfits : ∀ field ∈ fields, FitsGive field.2.1 (P field.1))
    {members : List (Content × Content)} {found result : List (String × Json)}
    (hfound : EachMember P found)
    (hresult : fieldsOfMembers? fields found members = some result) :
    EachMember P result := by
  induction members generalizing found with
  | nil =>
    obtain rfl : found = result := Option.some.inj hresult
    exact hfound
  | cons member members ih =>
    obtain ⟨key, value⟩ := member
    rw [fieldsOfMembers?] at hresult
    split at hresult
    · cases hresult
    · exact ih hfound hresult
    · rename_i name _
      split at hresult
      · rename_i fits default? _ hfield
        split at hresult
        · rename_i v hv
          have hname : P name v := hfits (name, fits, default?) (mem_of_lookup hfield) value v hv
          exact ih (hfound.cons hname) hresult
        · cases hresult
      · cases hresult

theorem forall_fieldsOfItems? (hfits : ∀ field ∈ fields, FitsGive field.2.1 (P field.1))
    (hdefault : ∀ field ∈ fields, ∀ v, field.2.2 = some v → P field.1 v) {items : List Content}
    {result : List (String × Json)} (hresult : fieldsOfItems? fields items = some result) :
    EachMember P result := by
  induction fields generalizing items result with
  | nil =>
    cases items with
    | nil =>
      obtain rfl : [] = result := Option.some.inj hresult
      exact eachMember_nil
    | cons item items => cases hresult
  | cons field fields ih =>
    obtain ⟨name, fits, default?⟩ := field
    have hrest : ∀ {items result}, fieldsOfItems? fields items = some result →
        EachMember P result :=
      ih (fun other h => hfits other (List.mem_cons_of_mem _ h))
        fun other h => hdefault other (List.mem_cons_of_mem _ h)
    cases items with
    | nil =>
      rw [fieldsOfItems?.eq_def] at hresult
      dsimp only at hresult
      split at hresult
      · rename_i v rest h
        obtain rfl := Option.some.inj hresult
        exact (hrest h).cons (hdefault _ List.mem_cons_self v rfl)
      · cases hresult
    | cons item items =>
      rw [fieldsOfItems?.eq_def] at hresult
      dsimp only at hresult
      split at hresult
      · rename_i v rest hv h
        obtain rfl := Option.some.inj hresult
        exact (hrest h).cons (hfits _ List.mem_cons_self item v hv)
      · cases hresult

theorem fitsGive_recordOfContent? (hfits : ∀ field ∈ fields, FitsGive field.2.1 (P field.1))
    (hdefault : ∀ field ∈ fields, ∀ v, field.2.2 = some v → P field.1 v) :
    FitsGive (recordOfContent? fields) fun v =>
      ∃ members, v = .obj members ∧ EachMember P members := by
  intro c v h
  unfold recordOfContent? at h
  split at h
  · obtain ⟨members, hmembers, rfl⟩ := Option.map_eq_some_iff.mp h
    exact ⟨members, rfl, forall_fieldsOfItems? hfits hdefault hmembers⟩
  · split at h
    · rename_i found hresult
      split at h
      · rename_i members hmembers
        obtain rfl := Option.some.inj h
        have hfound := forall_fieldsOfMembers? hfits eachMember_nil hresult
        exact ⟨members, rfl, forall_assemble hfound (List.forall_mem_map.mpr hdefault) hmembers⟩
      · cases h
    · cases h
  · cases h

end kept

end Shape

namespace Content

mutual

/-- A kept value that is taken as a plain document is made of tables. -/
theorem tables_toJson? : (c : Content) → ∀ v, c.toJson? = some v → v.Tables
  | .null, v, h => by
    obtain rfl := Option.some.inj h
    trivial
  | .bool _, v, h => by
    obtain rfl := Option.some.inj h
    trivial
  | .num (.whole _), v, h => by
    obtain rfl := Option.some.inj h
    trivial
  | .num (.real _), v, h => by
    obtain rfl := Option.some.inj h
    split <;> trivial
  | .str _, v, h => by
    obtain rfl := Option.some.inj h
    trivial
  | .seq items, v, h => by
    obtain ⟨values, hvalues, rfl⟩ := Option.map_eq_some_iff.mp h
    exact Json.tables_arr (tables_itemsToJson? items values hvalues)
  | .map members, v, h => by
    obtain ⟨table, htable, rfl⟩ := Option.map_eq_some_iff.mp h
    exact Json.tables_obj (tableOf_membersToJson? members [] Json.tableOf_nil table htable)

theorem tables_itemsToJson? : (items : List Content) →
    ∀ values, itemsToJson? items = some values → ∀ v ∈ values, v.Tables
  | [], values, h => by
    obtain rfl := Option.some.inj h
    exact List.forall_mem_nil _
  | item :: items, values, h => by
    rw [itemsToJson?] at h
    split at h
    · rename_i v rest hv hrest
      obtain rfl := Option.some.inj h
      exact List.forall_mem_cons.mpr
        ⟨tables_toJson? item v hv, tables_itemsToJson? items rest hrest⟩
    · cases h

theorem tableOf_membersToJson? : (members : List (Content × Content)) → (table : Table Json) →
    TableOf Json.Tables table → ∀ result, membersToJson? table members = some result →
    TableOf Json.Tables result
  | [], table, htable, result, h => by
    obtain rfl := Option.some.inj h
    exact htable
  | (key, value) :: members, table, htable, result, h => by
    rw [membersToJson?.eq_def] at h
    dsimp only at h
    split at h
    · rename_i key v hv
      have hinsert := htable.insert key (tables_toJson? value v hv)
      exact tableOf_membersToJson? members _ hinsert result h
    · cases h

end

end Content

namespace Shape

theorem forall_mapM {fits : Fits} {P : Json → Prop} (h : FitsGive fits P) {items : List Content}
    {values : List Json} (hvalues : items.mapM fits = some values) : ∀ v ∈ values, P v := by
  induction items generalizing values with
  | nil =>
    obtain rfl : [] = values := Option.some.inj hvalues
    exact List.forall_mem_nil _
  | cons item items ih =>
    rw [List.mapM_cons] at hvalues
    obtain ⟨v, hv, hvalues⟩ := Option.bind_eq_some_iff.mp hvalues
    obtain ⟨rest, hrest, hvalues⟩ := Option.bind_eq_some_iff.mp hvalues
    obtain rfl : v :: rest = values := Option.some.inj hvalues
    exact List.forall_mem_cons.mpr ⟨h item v hv, ih hrest⟩

mutual

/-- What a kept value is read as by a shape is made of tables. -/
theorem tabular_ofContent? : (shape : Shape) → FitsGive (ofContent? shape) (Tabular shape)
  | .text => by
    intro c v h
    rw [ofContent?] at h
    dsimp only at h
    split at h
    · exact ⟨_, (Option.some.inj h).symm⟩
    · cases h
  | .flag => fun _ _ _ => trivial
  | .whole _ _ _ => fun _ _ _ => trivial
  | .real => fun _ _ _ => trivial
  | .any => Content.tables_toJson?
  | .anyAsText => fun _ _ _ => trivial
  | .list item => by
    intro c v h
    rw [ofContent?] at h
    dsimp only at h
    split at h
    · obtain ⟨values, hvalues, rfl⟩ := Option.map_eq_some_iff.mp h
      exact ⟨values, rfl, forall_mapM (tabular_ofContent? item) hvalues⟩
    · cases h
  | .table value => by
    intro c v h
    rw [ofContent?] at h
    dsimp only at h
    split at h
    · obtain ⟨table, htable, rfl⟩ := Option.map_eq_some_iff.mp h
      exact ⟨table, rfl,
        tableOf_tableOfContent? (tabular_ofContent? value) Json.tableOf_nil htable⟩
    · cases h
  | .optional value => by
    intro c v h
    rw [ofContent?] at h
    dsimp only at h
    split at h
    · obtain rfl := Option.some.inj h
      exact Or.inl rfl
    · exact Or.inr (tabular_ofContent? value _ v h)
  | .word _ => fun _ _ _ => trivial
  | .record _ fields =>
    fitsGive_recordOfContent? (fun field h => (fieldTabular_fieldsOfContent fields field h).1)
      fun field h => (fieldTabular_fieldsOfContent fields field h).2
  | .firstOf _ alternatives => someTabular_firstOfContent? alternatives

theorem fieldTabular_fieldsOfContent : (fields : List (String × Shape × Option Json)) →
    ∀ field ∈ fieldsOfContent fields, FitsGive field.2.1 (FieldTabular fields field.1) ∧
      ∀ v, field.2.2 = some v → FieldTabular fields field.1 v
  | [], field, h => absurd h List.not_mem_nil
  | (name, shape, default?) :: fields, field, h => by
    rcases List.mem_cons.mp h with rfl | h
    · exact ⟨fun c v hv => Or.inl ⟨rfl, Or.inr (tabular_ofContent? shape c v hv)⟩,
        fun v hv => Or.inl ⟨rfl, Or.inl hv⟩⟩
    · obtain ⟨hfits, hdefault⟩ := fieldTabular_fieldsOfContent fields field h
      exact ⟨fun c v hv => Or.inr (hfits c v hv), fun v hv => Or.inr (hdefault v hv)⟩

theorem someTabular_firstOfContent? : (alternatives : List Shape) →
    FitsGive (firstOfContent? alternatives) (SomeTabular alternatives)
  | [] => by
    intro c v h
    cases h
  | shape :: shapes => by
    intro c v h
    rw [firstOfContent?] at h
    dsimp only at h
    split at h
    · rename_i v' hv
      obtain rfl := Option.some.inj h
      exact Or.inl (tabular_ofContent? shape c _ hv)
    · exact Or.inr (someTabular_firstOfContent? shapes c v h)

end

/-! ### Texts that are read -/

theorem gives_atValue {α : Type} {readOn : UInt8 → Octets → Except Json.Fault (α × Octets)}
    {P : α → Prop} (h : ∀ b rest, Gives (readOn b rest) P) (s : Octets) :
    Gives (atValue readOn s) P := by
  unfold atValue
  split
  · exact gives_error _
  · exact h _ _

theorem gives_nested {α : Type} {readOn : Nat → Except Json.Fault (α × Octets)} {P : α → Prop}
    (h : ∀ levels, Gives (readOn levels) P) (levels : Nat) (b : UInt8) (rest : Octets) :
    Gives (nested levels b rest readOn) P := by
  unfold nested
  split
  · exact gives_error _
  · exact h _

mutual

/-- What is read from a text by a shape is made of tables. -/
theorem gives_reader : (shape : Shape) → (levels : Nat) → (s : Octets) →
    Gives (reader shape levels s) (Tabular shape)
  | .text, _, _ => by
    rw [reader]
    exact gives_map fun read _ => ⟨read.1, rfl⟩
  | .flag, _, _ => fun _ _ _ => trivial
  | .whole _ _ _, _, _ => fun _ _ _ => trivial
  | .real, _, _ => fun _ _ _ => trivial
  | .any, levels, s => Json.gives_readValue levels s
  | .anyAsText, _, _ => fun _ _ _ => trivial
  | .list item, levels, s => by
    rw [reader]
    refine gives_atValue (fun b rest => ?_) s
    split
    · refine gives_nested (fun levels => gives_map fun read h => ⟨read.1, rfl, ?_⟩) levels b rest
      exact Json.gives_items (gives_reader item levels) _ true rest read.1 read.2 h
    · exact gives_error _
  | .table value, levels, s => by
    rw [reader]
    refine gives_atValue (fun b rest => ?_) s
    split
    · refine gives_nested (fun levels => gives_map fun read h => ⟨read.1, rfl, ?_⟩) levels b rest
      exact Json.gives_tableMembers (gives_reader value levels) _ rest read.1 read.2 h
    · exact gives_error _
  | .optional value, levels, s => by
    rw [reader]
    dsimp only
    split
    · exact gives_map fun _ _ => Or.inl rfl
    · exact fun v rest h => Or.inr (gives_reader value levels s v rest h)
  | .word _, _, _ => fun _ _ _ => trivial
  | .record title fields, levels, s => by
    rw [reader]
    refine gives_atValue (fun b rest => ?_) s
    split
    · refine gives_nested (fun levels => ?_) levels b rest
      exact gives_readRecord title
        (fun field h => (fieldTabular_fieldReaders fields levels field h).1)
        (fun field h => (fieldTabular_fieldReaders fields levels field h).2) b rest
    · have hnone : ∀ field : FieldReader, field ∉ [] := fun _ => List.not_mem_nil
      exact gives_readRecord (P := FieldTabular fields) title
        (fun field h => absurd h (hnone field)) (fun field h => absurd h (hnone field)) b rest
  | .firstOf _ alternatives, levels, s => by
    rw [reader]
    refine gives_bind fun kept _ => ?_
    dsimp only
    split
    · rename_i v hv
      exact gives_ok (someTabular_firstOfContent? alternatives kept.1 v hv) _
    · exact gives_error _

theorem fieldTabular_fieldReaders : (fields : List (String × Shape × Option Json)) →
    (levels : Nat) → ∀ field ∈ fieldReaders fields levels,
      (∀ s, Gives (field.read s) (FieldTabular fields field.name)) ∧
      ∀ v, field.default? = some v → FieldTabular fields field.name v
  | [], _, field, h => absurd h List.not_mem_nil
  | (name, shape, default?) :: fields, levels, field, h => by
    rcases List.mem_cons.mp h with rfl | h
    · exact ⟨fun s v rest hv => Or.inl ⟨rfl, Or.inr (gives_reader shape levels s v rest hv)⟩,
        fun v hv => Or.inl ⟨rfl, Or.inl hv⟩⟩
    · obtain ⟨hread, hdefault⟩ := fieldTabular_fieldReaders fields levels field h
      exact ⟨fun s v rest hv => Or.inr (hread s v rest hv), fun v hv => Or.inr (hdefault v hv)⟩

end

end Shape

end HttpScenario
