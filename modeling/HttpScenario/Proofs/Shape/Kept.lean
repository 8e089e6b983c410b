import HttpScenario.Proofs.Json.Written
import HttpScenario.Shape.Content
/-!
# Values that are kept as they were written

Where one of several shapes has to be found, a value is kept first.  What is kept of a written
document is the document itself in another form (`Content.ofJson`), as long as it nests no deeper
than the levels that are left (`Content.reads_ofJson`); taken as a plain document it is that
document again (`Content.toJson?_ofJson`).

Both are inductions over the document, together with its lists of items and of members.
-/

namespace HttpScenario

namespace Table

variable {α : Type}

/-- An entry whose key is above all keys goes to the end. -/
theorem insert_of_lt {key : String} (value : α) {table : Table α}
    (h : ∀ entry ∈ table, entry.1 < key) : insert key value table = table ++ [(key, value)] := by
  induction table with
  | nil => rfl
  | cons entry table ih =>
    obtain ⟨k, v⟩ := entry
    have hlt : k < key := h (k, v) List.mem_cons_self
    have hne : k ≠ key := by
      rintro rfl
      exact String.lt_irrefl k hlt
    rw [insert, if_neg hne, if_neg (String.lt_asymm hlt),
      ih fun entry hentry => h entry (List.mem_cons_of_mem _ hentry)]
    rfl

/-- The entries before the last part of a sorted table are below it. -/
theorem Sorted.lt_of_mem {table rest : Table α} {key : String} {value : α}
    (h : Sorted (table ++ (key, value) :: rest)) : ∀ entry ∈ table, entry.1 < key :=
  fun entry hentry => (List.pairwise_append.mp h).2.2 entry hentry _ List.mem_cons_self

end Table

namespace Content

mutual

/-- A document as a value that is kept. -/
def ofJson : Json → Content
  | .null => .null
  | .bool value => .bool value
  | .num value => .num value
  | .str value => .str value
  | .arr items => .seq (ofItems items)
  | .obj members => .map (ofMembers members)

/-- Documents as values that are kept. -/
def ofItems : List Json → List Content
  | [] => []
  | item :: items => ofJson item :: ofItems items

/-- Members as they are kept. -/
def ofMembers : List (String × Json) → List (Content × Content)
  | [] => []
  | (key, v) :: members => (.str key, ofJson v) :: ofMembers members

end

/-! ### A kept document as a plain one -/

mutual

/-- A document that is kept and taken as a plain one is that document. -/
theorem toJson?_ofJson : (v : Json) → v.Tables → v.Exact → (ofJson v).toJson? = some v
  | .null, _, _ => rfl
  | .bool _, _, _ => rfl
  | .num (.whole _), _, _ => rfl
  | .num (.real _), _, hexact => absurd hexact id
  | .str _, _, _ => rfl
  | .arr items, htables, hexact => by
    rw [ofJson, toJson?, itemsToJson?_ofItems items htables hexact]
    rfl
  | .obj members, htables, hexact => by
    rw [ofJson, toJson?, membersToJson?_ofMembers members [] htables.1 htables.2 hexact.2]
    rfl

theorem itemsToJson?_ofItems : (items : List Json) →
    Json.AllItems (fun _ => True) Table.Sorted items →
    Json.AllItems Json.Number.Kept (fun _ => True) items →
    itemsToJson? (ofItems items) = some items
  | [], _, _ => rfl
  | item :: items, htables, hexact => by
    rw [ofItems, itemsToJson?, toJson?_ofJson item htables.1 hexact.1,
      itemsToJson?_ofItems items htables.2 hexact.2]

/-- Members that come in order are put at the end of the table one by one. -/
theorem membersToJson?_ofMembers : (members : List (String × Json)) → (table : Table Json) →
    Table.Sorted (table ++ members) → Json.AllMembers (fun _ => True) Table.Sorted members →
    Json.AllMembers Json.Number.Kept (fun _ => True) members →
    membersToJson? table (ofMembers members) = some (table ++ members)
  | [], table, _, _, _ => by
    rw [List.append_nil]
    rfl
  | (key, v) :: members, table, hsorted, htables, hexact => by
    have hinsert := Table.insert_of_lt v hsorted.lt_of_mem
    rw [List.append_cons] at hsorted ⊢
    simp only [ofMembers, membersToJson?, toJson?_ofJson v htables.1 hexact.1, hinsert]
    exact membersToJson?_ofMembers members _ hsorted htables.2 hexact.2

end

/-! ### Keeping a document -/

open Json (Reads Gathers octets)

/-- A small value is kept as it is written, with or without levels left. -/
theorem reads_scalar (levels : Nat) {v : Json} (h : v.Scalar) :
    Reads (read levels) v (ofScalar v) := by
  refine ⟨?_, ?_⟩
  · intro level
    obtain ⟨b, bs, hoctets, hstarts, -⟩ := Json.scalar_written level h
    exact ⟨b, bs, hoctets, hstarts⟩
  · intro level spaces rest hspaces hrest
    obtain ⟨b, bs, hoctets, hstarts, hlist, hobject, -, hread⟩ := Json.scalar_written level h
    rw [hoctets, List.cons_append]
    have hskip := Json.skipSpaces_append hspaces hstarts.1 (bs ++ rest)
    cases levels with
    | zero =>
      show (Json.readValue 0 _).map _ = _
      rw [Json.readValue, hskip]
      simp only [hlist, hobject, hread rest hrest]
      rfl
    | succ levels =>
      rw [read, hskip]
      simp only [hlist, hobject, hread rest hrest]
      rfl

theorem reads_list {levels : Nat} {items : List Json} {kept : List Content}
    (h : List.Forall₂ (Reads (read levels)) items kept) :
    Reads (read (levels + 1)) (.arr items) (.seq kept) := by
  refine ⟨fun level => ⟨_, _, Json.octets_arr level items, by decide⟩, ?_⟩
  intro level spaces rest hspaces _
  rw [Json.octets_arr, List.cons_append, read, Json.skipSpaces_append hspaces (by decide)]
  dsimp only
  rw [if_pos rfl, Json.items_written h level rest]
  rfl

theorem reads_object {levels : Nat} {members : List (String × Json)}
    {kept : List (Content × Content)}
    (h : Gathers (keepMember (read levels)) [] members kept) :
    Reads (read (levels + 1)) (.obj members) (.map kept) := by
  refine ⟨fun level => ⟨_, _, Json.octets_obj level members, by decide⟩, ?_⟩
  intro level spaces rest hspaces _
  rw [Json.octets_obj, List.cons_append, read, Json.skipSpaces_append hspaces (by decide)]
  dsimp only
  rw [if_neg (by decide), if_pos rfl, Json.members_written h level rest]
  rfl

/-- A member is kept with its value, after the ones before it. -/
theorem readsAfterKey_keepMember {levels : Nat} {v : Json} {content : Content}
    (h : Reads (read levels) v content) (kept : List (Content × Content)) (key : String) :
    Json.ReadsAfterKey (keepMember (read levels) kept key) v (kept ++ [(.str key, content)]) :=
  h.afterKey fun content => kept ++ [(Content.str key, content)]

mutual

/-- A written document is kept as what it is, if enough levels are left. -/
theorem reads_ofJson : (v : Json) → (levels : Nat) → v.Exact → v.depth ≤ levels →
    Reads (read levels) v (ofJson v)
  | .null, levels, _, _ => reads_scalar levels trivial
  | .bool _, levels, _, _ => reads_scalar levels trivial
  | .num _, levels, hexact, _ => reads_scalar levels hexact
  | .str _, levels, _, _ => reads_scalar levels trivial
  | .arr items, levels, hexact, hdepth => by
    rw [Json.depth] at hdepth
    obtain ⟨levels, rfl⟩ := Nat.exists_eq_succ_of_ne_zero (show levels ≠ 0 by omega)
    exact reads_list (reads_ofItems items levels hexact (Nat.le_of_succ_le_succ hdepth))
  | .obj members, levels, hexact, hdepth => by
    rw [Json.depth] at hdepth
    obtain ⟨levels, rfl⟩ := Nat.exists_eq_succ_of_ne_zero (show levels ≠ 0 by omega)
    exact reads_object
      (gathers_ofMembers members levels [] hexact.2 (Nat.le_of_succ_le_succ hdepth))

theorem reads_ofItems : (items : List Json) → (levels : Nat) →
    Json.AllItems Json.Number.Kept (fun _ => True) items → Json.itemsDepth items ≤ levels →
    List.Forall₂ (Reads (read levels)) items (ofItems items)
  | [], _, _, _ => .nil
  | item :: items, levels, hexact, hdepth => by
    rw [Json.itemsDepth] at hdepth
    exact .cons (reads_ofJson item levels hexact.1 (by omega))
      (reads_ofItems items levels hexact.2 (by omega))

/-- Members are kept after the ones before them. -/
theorem gathers_ofMembers : (members : List (String × Json)) → (levels : Nat) →
    (kept : List (Content × Content)) →
    Json.AllMembers Json.Number.Kept (fun _ => True) members → Json.membersDepth members ≤ levels →
    Gathers (keepMember (read levels)) kept members (kept ++ ofMembers members)
  | [], _, kept, _, _ => by
    rw [ofMembers, List.append_nil]
    exact .nil kept
  | (key, v) :: members, levels, kept, hexact, hdepth => by
    rw [Json.membersDepth] at hdepth
    have hread := reads_ofJson v levels hexact.1 (by omega)
    have hmember := readsAfterKey_keepMember hread kept key
    rw [ofMembers, List.append_cons]
    exact .cons hmember (gathers_ofMembers members levels _ hexact.2 (by omega))

end

end Content

namespace Shape

/-- The first of some shapes decides if it fits. -/
theorem firstOfContent?_of_fits {shape : Shape} {shapes : List Shape} {c : Content} {v : Json}
    (h : ofContent? shape c = some v) : firstOfContent? (shape :: shapes) c = some v := by
  rw [firstOfContent?]
  dsimp only
  rw [h]

/-- A member of a kept record is read by its field, if the field has not been read yet. -/
theorem fieldsOfMembers?_cons {fields : List (String × Fits × Option Json)} {fits : Fits}
    {default? : Option Json} {found : List (String × Json)} {name : String} {c : Content} {v : Json}
    {members : List (Content × Content)} (hname : (fields.map (·.1)).contains name = true)
    (hfield : fields.lookup name = some (fits, default?)) (hfound : found.lookup name = none)
    (hfits : fits c = some v) :
    fieldsOfMembers? fields found ((.str name, c) :: members) =
      fieldsOfMembers? fields ((name, v) :: found) members := by
  rw [fieldsOfMembers?, fieldOfKey?, if_pos hname]
  simp only [hfound, hfield, hfits]

/-- A kept table of any documents is read as the plain document. -/
theorem tableOfContent?_any (table : Table Json) (members : List (Content × Content)) :
    tableOfContent? (ofContent? .any) table members = Content.membersToJson? table members := by
  induction members generalizing table with
  | nil => rfl
  | cons member members ih =>
    obtain ⟨key, value⟩ := member
    cases key with
    | str key =>
      have hvalue : ofContent? .any value = value.toJson? := rfl
      rw [tableOfContent?.eq_def, Content.membersToJson?.eq_def]
      dsimp only
      rw [hvalue]
      cases value.toJson? with
      | none => rfl
      | some v => exact ih (table.insert key v)
    | null | bool | num | seq | map => rfl

end Shape

end HttpScenario
