import HttpScenario.Proofs.Shape.Kept
import HttpScenario.Shape.Reader
/-!
# Documents that nest too deep

A document that nests deeper than the levels that are left is not read where it is written: whatever
stands before the part that is too deep is read, and at that part the reader fails
(`Content.fails_of_depth`).  Together with `Content.reads_ofJson` this says of every written document
whether it is read.

The loops over items and over members read up to the part that fails, and fail with it.
-/

namespace HttpScenario.Json

/-- A reader fails wherever the value `v` is written. -/
structure Fails {α : Type} (read : Reader α) (v : Json) : Prop where
  starts : ∀ level, ∃ b bs, octets level v = b :: bs ∧ Starts b
  read_octets : ∀ (level : Nat) {spaces rest : Octets}, Blank spaces → Ended rest →
    ∃ fault, read (spaces ++ (octets level v ++ rest)) = .error fault

/-- A reader that fails where a document is written does not read the whole text of it. -/
theorem exists_fault_of_fails {α : Type} {read : Reader α} {v : Json} (h : Fails read v) :
    ∃ fault, readWhole read (Utf8.encode v.pretty) = .error fault := by
  have hended : Ended [] := nofun
  obtain ⟨fault, hfault⟩ := h.read_octets 0 blank_nil hended
  rw [List.nil_append, List.append_nil] at hfault
  refine ⟨fault, ?_⟩
  rw [encode_pretty, readWhole, hfault]

/-! ### Lists -/

section items

variable {α : Type} {item : Reader α} {before : List Json} {xs : List α} {v : Json}

/-- The loop fails with an item that cannot be read. -/
theorem items_fault {first : Bool} {s t : Octets} {fault : Fault} {tries : Nat}
    (hnext : nextItem first s = .ok (true, t)) (hitem : item t = .error fault) :
    items item (tries + 1) first s = .error fault := by
  rw [items, hnext]
  simp only [hitem]

/-- The loop fails after an item if it fails then. -/
theorem items_step_fault {first : Bool} {s t left : Octets} {x : α} {fault : Fault} {tries : Nat}
    (hnext : nextItem first s = .ok (true, t)) (hitem : item t = .ok (x, left))
    (hrest : items item tries false left = .error fault) :
    items item (tries + 1) first s = .error fault := by
  rw [items, hnext]
  simp only [hitem, hrest]
  rfl

/-- The further items of a list are read up to one that fails. -/
theorem items_further_fault (h : List.Forall₂ (Reads item) before xs) (hv : Fails item v)
    (after : List Json) (level : Nat) (rest : Octets) (tries : Nat) :
    ∃ fault, items item tries false (itemsOctets level (before ++ v :: after) ++ rest) =
      .error fault := by
  induction h generalizing tries with
  | nil =>
    cases tries with
    | zero => exact ⟨_, rfl⟩
    | succ tries =>
      obtain ⟨b, bs, hoctets, hstarts⟩ := hv.starts (level + 1)
      obtain ⟨fault, hfault⟩ :=
        hv.read_octets (level + 1) blank_nil (ended_itemsOctets level after rest)
      rw [List.nil_append, itemsOctets_cons, List.cons_append, List.append_assoc,
        List.append_assoc, hoctets, List.cons_append]
      rw [List.nil_append, hoctets, List.cons_append] at hfault
      exact ⟨fault, items_fault (nextItem_comma (blank_breakOctets _) hstarts _) hfault⟩
  | @cons w x before xs hread _ ih =>
    cases tries with
    | zero => exact ⟨_, rfl⟩
    | succ tries =>
      obtain ⟨b, bs, hoctets, hstarts⟩ := hread.starts (level + 1)
      have hitem := hread.read_octets (level + 1) blank_nil
        (ended_itemsOctets level (before ++ v :: after) rest)
      obtain ⟨fault, hfault⟩ := ih tries
      rw [List.cons_append, itemsOctets_cons, List.cons_append, List.append_assoc,
        List.append_assoc, hoctets, List.cons_append]
      rw [List.nil_append, hoctets, List.cons_append] at hitem
      exact ⟨fault, items_step_fault (nextItem_comma (blank_breakOctets _) hstarts _) hitem hfault⟩

/-- A list is read up to an item that fails. -/
theorem items_written_fault (h : List.Forall₂ (Reads item) before xs) (hv : Fails item v)
    (after : List Json) (level : Nat) (rest : Octets) (tries : Nat) :
    ∃ fault, items item tries true (listOctets level (before ++ v :: after) ++ rest) =
      .error fault := by
  cases tries with
  | zero => exact ⟨_, rfl⟩
  | succ tries =>
    cases h with
    | nil =>
      obtain ⟨b, bs, hoctets, hstarts⟩ := hv.starts (level + 1)
      obtain ⟨fault, hfault⟩ :=
        hv.read_octets (level + 1) blank_nil (ended_itemsOctets level after rest)
      rw [List.nil_append, listOctets, List.append_assoc, List.append_assoc, hoctets,
        List.cons_append]
      rw [List.nil_append, hoctets, List.cons_append] at hfault
      exact ⟨fault, items_fault (nextItem_first (blank_breakOctets _) hstarts _) hfault⟩
    | @cons w x before xs hread hfurther =>
      obtain ⟨b, bs, hoctets, hstarts⟩ := hread.starts (level + 1)
      have hitem := hread.read_octets (level + 1) blank_nil
        (ended_itemsOctets level (before ++ v :: after) rest)
      obtain ⟨fault, hfault⟩ := items_further_fault hfurther hv after level rest tries
      rw [List.cons_append, listOctets, List.append_assoc, List.append_assoc, hoctets,
        List.cons_append]
      rw [List.nil_append, hoctets, List.cons_append] at hitem
      exact ⟨fault, items_step_fault (nextItem_first (blank_breakOctets _) hstarts _) hitem hfault⟩

end items

/-! ### Objects -/

section members

variable {σ : Type} {member : σ → String → Reader σ} {before final : σ} {key : String} {v : Json}
  {written : List (String × Json)}

/-- A reader of members fails wherever a colon and the value `v` are written. -/
def FailsAfterKey (read : Reader σ) (v : Json) : Prop :=
  ∀ (level : Nat) {rest : Octets}, Ended rest →
    ∃ fault, read (0x3A :: 0x20 :: (octets level v ++ rest)) = .error fault

/-- The loop fails with a member that cannot be read. -/
theorem members_fault {first : Bool} {s t : Octets} {fault : Fault} {tries : Nat}
    (hnext : nextMember first s = .ok (true, quotedOctets key ++ t))
    (hmember : member before key t = .error fault) :
    members member (tries + 1) first before s = .error fault := by
  rw [members, hnext]
  simp only [readText_quoted, hmember]

/-- The further members of an object are read up to one that fails. -/
theorem members_further_fault (h : Gathers member before written final)
    (hv : FailsAfterKey (member final key) v) (after : List (String × Json)) (level : Nat)
    (rest : Octets) (tries : Nat) :
    ∃ fault, members member tries false before
      (membersOctets level (written ++ (key, v) :: after) ++ rest) = .error fault := by
  induction h generalizing tries with
  | nil gathered =>
    cases tries with
    | zero => exact ⟨_, rfl⟩
    | succ tries =>
      obtain ⟨fault, hfault⟩ := hv (level + 1) (ended_membersOctets level after rest)
      refine ⟨fault, members_fault ?_ hfault⟩
      rw [List.nil_append, membersOctets_cons]
      simp only [memberOctets, List.cons_append, List.append_assoc]
      exact nextMember_comma (blank_breakOctets _) _
  | @cons before middle final other w written hread _ ih =>
    cases tries with
    | zero => exact ⟨_, rfl⟩
    | succ tries =>
      have hended := ended_membersOctets level (written ++ (key, v) :: after) rest
      rw [List.cons_append, members_step hread (level + 1) hended tries]
      · exact ih hv tries
      · rw [membersOctets_cons]
        simp only [memberOctets, List.cons_append, List.append_assoc]
        exact nextMember_comma (blank_breakOctets _) _

/-- An object is read up to a member that fails. -/
theorem members_written_fault (h : Gathers member before written final)
    (hv : FailsAfterKey (member final key) v) (after : List (String × Json)) (level : Nat)
    (rest : Octets) (tries : Nat) :
    ∃ fault, members member tries true before
      (objectOctets level (written ++ (key, v) :: after) ++ rest) = .error fault := by
  cases tries with
  | zero => exact ⟨_, rfl⟩
  | succ tries =>
    cases h with
    | nil =>
      obtain ⟨fault, hfault⟩ := hv (level + 1) (ended_membersOctets level after rest)
      refine ⟨fault, members_fault ?_ hfault⟩
      simp only [List.nil_append, objectOctets, memberOctets, List.cons_append, List.append_assoc]
      exact nextMember_first (blank_breakOctets _) _
    | @cons _ middle _ other w written hread hfurther =>
      have hended := ended_membersOctets level (written ++ (key, v) :: after) rest
      rw [List.cons_append, members_step hread (level + 1) hended tries]
      · exact members_further_fault hfurther hv after level rest tries
      · simp only [objectOctets, memberOctets, List.cons_append, List.append_assoc]
        exact nextMember_first (blank_breakOctets _) _

end members

end HttpScenario.Json

namespace HttpScenario.Content

open Json (Reads Fails FailsAfterKey Gathers octets)

theorem fails_list {levels : Nat} {before after : List Json} {kept : List Content} {v : Json}
    (h : List.Forall₂ (Reads (read levels)) before kept) (hv : Fails (read levels) v) :
    Fails (read (levels + 1)) (.arr (before ++ v :: after)) := by
  refine ⟨fun level => ⟨_, _, Json.octets_arr level _, by decide⟩, ?_⟩
  intro level spaces rest hspaces _
  obtain ⟨fault, hfault⟩ := Json.items_written_fault h hv after level rest
    ((Json.listOctets level (before ++ v :: after) ++ rest).length + 1)
  refine ⟨fault, ?_⟩
  rw [Json.octets_arr, List.cons_append, read, Json.skipSpaces_append hspaces (by decide)]
  dsimp only
  rw [if_pos rfl, hfault]
  rfl

theorem failsAfterKey_keepMember {levels : Nat} {v : Json} (hv : Fails (read levels) v)
    (kept : List (Content × Content)) (key : String) :
    FailsAfterKey (keepMember (read levels) kept key) v := by
  intro level rest hrest
  obtain ⟨fault, hfault⟩ := hv.read_octets level Json.blank_space hrest
  refine ⟨fault, ?_⟩
  unfold keepMember
  rw [Json.readColon_cons]
  show (read levels ([0x20] ++ (octets level v ++ rest)) >>= _) = _
  rw [hfault]
  rfl

theorem fails_object {levels : Nat} {written after : List (String × Json)}
    {kept : List (Content × Content)} {key : String} {v : Json}
    (h : Gathers (keepMember (read levels)) [] written kept) (hv : Fails (read levels) v) :
    Fails (read (levels + 1)) (.obj (written ++ (key, v) :: after)) := by
  refine ⟨fun level => ⟨_, _, Json.octets_obj level _, by decide⟩, ?_⟩
  intro level spaces rest hspaces _
  obtain ⟨fault, hfault⟩ := Json.members_written_fault h (failsAfterKey_keepMember hv kept key)
    after level rest ((Json.objectOctets level (written ++ (key, v) :: after) ++ rest).length + 1)
  refine ⟨fault, ?_⟩
  rw [Json.octets_obj, List.cons_append, read, Json.skipSpaces_append hspaces (by decide)]
  dsimp only
  rw [if_neg (by decide), if_pos rfl, hfault]
  rfl

/-- Without levels left, neither a list nor an object is read. -/
theorem fails_zero {v : Json} (h : 0 < v.depth) : Fails (read 0) v := by
  have hfails : ∀ b : UInt8, b = 0x5B ∨ b = 0x7B →
      (∀ level, ∃ bs, octets level v = b :: bs) → Fails (read 0) v := by
    intro b hb hoctets
    have hstarts : Json.Starts b := by
      rcases hb with rfl | rfl <;> decide
    refine ⟨?_, ?_⟩
    · intro level
      obtain ⟨bs, hoctets⟩ := hoctets level
      exact ⟨b, bs, hoctets, hstarts⟩
    · intro level spaces rest hspaces _
      obtain ⟨bs, hoctets⟩ := hoctets level
      refine ⟨.upon .tooDeep (b :: (bs ++ rest)), ?_⟩
      rw [hoctets, List.cons_append, read, Json.readValue,
        Json.skipSpaces_append hspaces hstarts.1]
      dsimp only
      rw [if_pos (by simpa using hb)]
      rfl
  cases v with
  | arr items => exact hfails 0x5B (Or.inl rfl) fun level => ⟨_, Json.octets_arr level items⟩
  | obj members => exact hfails 0x7B (Or.inr rfl) fun level => ⟨_, Json.octets_obj level members⟩
  | null | bool | num | str => exact absurd h (Nat.lt_irrefl 0)

mutual

/-- A document that nests deeper than the levels that are left is not read. -/
theorem fails_of_depth : (v : Json) → (levels : Nat) → v.Exact → levels < v.depth →
    Fails (read levels) v
  | v, 0, _, hdepth => fails_zero hdepth
  | .arr items, levels + 1, hexact, hdepth => by
    rw [Json.depth] at hdepth
    obtain ⟨before, v, after, kept, rfl, hread, hv⟩ :=
      exists_fails_of_itemsDepth items levels hexact (Nat.lt_of_succ_lt_succ hdepth)
    exact fails_list hread hv
  | .obj members, levels + 1, hexact, hdepth => by
    rw [Json.depth] at hdepth
    obtain ⟨before, key, v, after, kept, rfl, hread, hv⟩ :=
      exists_fails_of_membersDepth members levels [] hexact.2 (Nat.lt_of_succ_lt_succ hdepth)
    exact fails_object hread hv
  | .null, _ + 1, _, hdepth => absurd hdepth (Nat.not_lt_zero _)
  | .bool _, _ + 1, _, hdepth => absurd hdepth (Nat.not_lt_zero _)
  | .num _, _ + 1, _, hdepth => absurd hdepth (Nat.not_lt_zero _)
  | .str _, _ + 1, _, hdepth => absurd hdepth (Nat.not_lt_zero _)

/-- Of items one of which nests too deep, those before the first such item are read. -/
theorem exists_fails_of_itemsDepth : (items : List Json) → (levels : Nat) →
    Json.AllItems Json.Number.Kept (fun _ => True) items → levels < Json.itemsDepth items →
    ∃ before v after kept, items = before ++ v :: after ∧
      List.Forall₂ (Reads (read levels)) before kept ∧ Fails (read levels) v
  | [], _, _, hdepth => absurd hdepth (Nat.not_lt_zero _)
  | item :: items, levels, hexact, hdepth => by
    -- the part that is too deep is the first item that is, and those before it are read
    by_cases hitem : item.depth ≤ levels
    · have hread := reads_ofJson item levels hexact.1 hitem
      rw [Json.itemsDepth] at hdepth
      obtain ⟨before, v, after, kept, rfl, hbefore, hv⟩ :=
        exists_fails_of_itemsDepth items levels hexact.2 (by omega)
      exact ⟨item :: before, v, after, _ :: kept, rfl, .cons hread hbefore, hv⟩
    · have hv := fails_of_depth item levels hexact.1 (Nat.not_le.mp hitem)
      exact ⟨[], item, items, [], rfl, .nil, hv⟩

theorem exists_fails_of_membersDepth : (members : List (String × Json)) → (levels : Nat) →
    (kept : List (Content × Content)) →
    Json.AllMembers Json.Number.Kept (fun _ => True) members → levels < Json.membersDepth members →
    ∃ written key v after final, members = written ++ (key, v) :: after ∧
      Gathers (keepMember (read levels)) kept written final ∧ Fails (read levels) v
  | [], _, _, _, hdepth => absurd hdepth (Nat.not_lt_zero _)
  | (key, v) :: members, levels, kept, hexact, hdepth => by
    by_cases hv : v.depth ≤ levels
    · have hread := reads_ofJson v levels hexact.1 hv
      have hmember := readsAfterKey_keepMember hread kept key
      rw [Json.membersDepth] at hdepth
      obtain ⟨written, other, w, after, final, rfl, hwritten, hw⟩ :=
        exists_fails_of_membersDepth members levels _ hexact.2 (by omega)
      exact ⟨(key, v) :: written, other, w, after, final, rfl, .cons hmember hwritten, hw⟩
    · have hfails := fails_of_depth v levels hexact.1 (Nat.not_le.mp hv)
      exact ⟨[], key, v, members, kept, rfl, .nil kept, hfails⟩

end

end HttpScenario.Content

namespace HttpScenario.Shape

open Json (Fails)

/-- Alternatives are not read where what they are to be kept from is not. -/
theorem fails_firstOf {levels : Nat} {title : String} {alternatives : List Shape} {v : Json}
    (h : Fails (Content.read levels) v) : Fails (reader (.firstOf title alternatives) levels) v := by
  refine ⟨h.starts, ?_⟩
  intro level spaces rest hspaces hrest
  obtain ⟨fault, hfault⟩ := h.read_octets level hspaces hrest
  refine ⟨fault, ?_⟩
  rw [reader]
  dsimp only
  rw [hfault]
  rfl

theorem exists_fault_of_fails {shape : Shape} {v : Json} (h : Fails (reader shape Json.maxLevels) v) :
    ∃ fault, parseText shape v.pretty = .error fault := by
  obtain ⟨fault, hfault⟩ := Json.exists_fault_of_fails h
  refine ⟨fault.locate (Utf8.encode v.pretty), ?_⟩
  rw [parseText, parse, hfault]
  rfl

end HttpScenario.Shape
