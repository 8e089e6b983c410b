import HttpScenario.Proofs.Json.Written
import HttpScenario.Proofs.Shape.Kept
/-!
# Reading back the compact form

A document whose objects are tables and whose numbers are whole ones that are kept exactly is what
its compact form is read as, if it nests no deeper than a reader goes (`parseText_compact`).

The induction is over the document, together with its lists of items and of members; each statement
is about a value, or what is left of a list or an object, in front of any rest.  In the compact form
a value ends where a comma or a closing bracket follows, so that the rest only has to be such that
it does not go on with a number.
-/

namespace HttpScenario.Json

/-! ### The octets of the compact form -/

/-- The octets of the compact form of a value. -/
def compactOctets (v : Json) : Octets :=
  Utf8.encodeChars (compactChars v)

/-- The octets of the further items of a list and of its end. -/
def compactItemsOctets (items : List Json) : Octets :=
  Utf8.encodeChars (compactItems items)

/-- The octets of the further members of an object and of its end. -/
def compactMembersOctets (members : List (String × Json)) : Octets :=
  Utf8.encodeChars (compactMembers members)

theorem encode_compact (v : Json) : Utf8.encode v.compact = compactOctets v := by
  show Utf8.encodeChars (String.ofList (compactChars v)).toList = _
  rw [String.toList_ofList]
  rfl

/-- A small value is written the same way in both forms. -/
theorem compactOctets_of_scalar {v : Json} (h : v.Scalar) : compactOctets v = octets 0 v := by
  cases v with
  | bool value => cases value <;> rfl
  | arr items => exact absurd h id
  | obj members => exact absurd h id
  | null | num | str => rfl

theorem compactOctets_arr_cons (item : Json) (items : List Json) :
    compactOctets (.arr (item :: items)) =
      0x5B :: (compactOctets item ++ compactItemsOctets items) := by
  show Utf8.encodeChars ('[' :: compactChars item ++ compactItems items) = _
  rw [Utf8.encodeChars_append, Utf8.encodeChars_cons]
  rfl

theorem compactOctets_obj_cons (key : String) (v : Json) (members : List (String × Json)) :
    compactOctets (.obj ((key, v) :: members)) =
      0x7B :: 0x22 :: (quotedOctets key ++
        0x3A :: (compactOctets v ++ compactMembersOctets members)) := by
  show Utf8.encodeChars
    ('{' :: quoted key ++ ':' :: compactChars v ++ compactMembers members) = _
  simp only [Utf8.encodeChars_append, Utf8.encodeChars_cons, encodeChars_quoted,
    List.append_assoc, List.cons_append]
  rfl

theorem compactItemsOctets_cons (item : Json) (items : List Json) :
    compactItemsOctets (item :: items) =
      0x2C :: (compactOctets item ++ compactItemsOctets items) := by
  show Utf8.encodeChars (',' :: compactChars item ++ compactItems items) = _
  rw [Utf8.encodeChars_append, Utf8.encodeChars_cons]
  rfl

theorem compactMembersOctets_cons (key : String) (v : Json) (members : List (String × Json)) :
    compactMembersOctets ((key, v) :: members) =
      0x2C :: 0x22 :: (quotedOctets key ++
        0x3A :: (compactOctets v ++ compactMembersOctets members)) := by
  show Utf8.encodeChars
    (',' :: quoted key ++ ':' :: compactChars v ++ compactMembers members) = _
  simp only [Utf8.encodeChars_append, Utf8.encodeChars_cons, encodeChars_quoted,
    List.append_assoc, List.cons_append]
  rfl

theorem length_lt_compactItemsOctets (items : List Json) :
    items.length < (compactItemsOctets items).length := by
  induction items with
  | nil => exact Nat.zero_lt_one
  | cons item items ih =>
    rw [compactItemsOctets_cons]
    simp only [List.length_cons, List.length_append]
    omega

theorem length_lt_compactMembersOctets (members : List (String × Json)) :
    members.length < (compactMembersOctets members).length := by
  induction members with
  | nil => exact Nat.zero_lt_one
  | cons member members ih =>
    rw [compactMembersOctets_cons]
    simp only [List.length_cons, List.length_append]
    omega

/-- What follows an item does not go on with a number. -/
theorem ended_compactItemsOctets (items : List Json) (rest : Octets) :
    Ended (compactItemsOctets items ++ rest) := by
  cases items with
  | nil =>
    rintro b ⟨⟩
    decide
  | cons item items =>
    rw [compactItemsOctets_cons]
    rintro b ⟨⟩
    decide

theorem ended_compactMembersOctets (members : List (String × Json)) (rest : Octets) :
    Ended (compactMembersOctets members ++ rest) := by
  cases members with
  | nil =>
    rintro b ⟨⟩
    decide
  | cons member members =>
    rw [compactMembersOctets_cons]
    rintro b ⟨⟩
    decide

/-- The compact form starts with no blank and no end of a list. -/
theorem starts_compactOctets {v : Json} (h : v.Exact) :
    ∃ b bs, compactOctets v = b :: bs ∧ Starts b := by
  have hscalar : ∀ v : Json, v.Scalar → ∃ b bs, compactOctets v = b :: bs ∧ Starts b := by
    intro v hv
    obtain ⟨b, bs, hoctets, hstarts, -⟩ := scalar_written 0 hv
    exact ⟨b, bs, (compactOctets_of_scalar hv).trans hoctets, hstarts⟩
  match v, h with
  | .null, _ => exact hscalar _ trivial
  | .bool _, _ => exact hscalar _ trivial
  | .num _, h => exact hscalar _ h
  | .str _, _ => exact hscalar _ trivial
  | .arr [], _ => exact ⟨0x5B, _, rfl, by decide⟩
  | .arr (item :: items), _ => exact ⟨0x5B, _, compactOctets_arr_cons item items, by decide⟩
  | .obj [], _ => exact ⟨0x7B, _, rfl, by decide⟩
  | .obj ((key, v) :: members), _ =>
    exact ⟨0x7B, _, compactOctets_obj_cons key v members, by decide⟩

theorem nextItem_first_compact {v : Json} (h : v.Exact) (s : Octets) :
    nextItem true (compactOctets v ++ s) = .ok (true, compactOctets v ++ s) := by
  obtain ⟨b, bs, hoctets, hstarts⟩ := starts_compactOctets h
  rw [hoctets, List.cons_append]
  exact nextItem_first blank_nil hstarts (bs ++ s)

theorem nextItem_comma_compact {v : Json} (h : v.Exact) (s : Octets) :
    nextItem false (0x2C :: (compactOctets v ++ s)) = .ok (true, compactOctets v ++ s) := by
  obtain ⟨b, bs, hoctets, hstarts⟩ := starts_compactOctets h
  rw [hoctets, List.cons_append]
  exact nextItem_comma blank_nil hstarts (bs ++ s)

theorem nextMember_first_compact (s : Octets) : nextMember true (0x22 :: s) = .ok (true, s) :=
  nextMember_first blank_nil s

theorem nextMember_comma_compact (s : Octets) :
    nextMember false (0x2C :: 0x22 :: s) = .ok (true, s) :=
  nextMember_comma blank_nil s

/-! ### Reading -/

/-- A small value is read with or without levels left. -/
theorem readValue_of_scalar (v : Json) (levels : Nat) (h : v.Scalar) {rest : Octets}
    (hrest : Ended rest) : readValue levels (compactOctets v ++ rest) = .ok (v, rest) := by
  obtain ⟨b, bs, hoctets, hstarts, hlist, hobject, -, hread⟩ := scalar_written 0 h
  rw [compactOctets_of_scalar h, hoctets, List.cons_append]
  cases levels with
  | zero =>
    rw [readValue, skipSpaces_cons hstarts.1]
    simp only [hlist, hobject, hread rest hrest]
    rfl
  | succ levels =>
    rw [readValue, skipSpaces_cons hstarts.1]
    simp only [hlist, hobject, hread rest hrest]
    rfl

/-- A list is read as its items once its bracket is read. -/
theorem readValue_list {levels : Nat} {s rest : Octets} {xs : List Json}
    (h : items (readValue levels) (s.length + 1) true s = .ok (xs, rest)) :
    readValue (levels + 1) (0x5B :: s) = .ok (.arr xs, rest) := by
  rw [readValue, skipSpaces_cons (by decide)]
  dsimp only
  rw [if_pos rfl, h]
  rfl

/-- An object is read as its members once its brace is read. -/
theorem readValue_object {levels : Nat} {s rest : Octets} {table : Object}
    (h : members (tableMember (readValue levels)) (s.length + 1) true [] s = .ok (table, rest)) :
    readValue (levels + 1) (0x7B :: s) = .ok (.obj table, rest) := by
  rw [readValue, skipSpaces_cons (by decide)]
  dsimp only
  rw [if_neg (by decide), if_pos rfl, h]
  rfl

theorem tableMember_of_read {α : Type} {value : Reader α} {s rest : Octets} {v : α}
    (h : value s = .ok (v, rest)) (table : Table α) (key : String) :
    tableMember value table key (0x3A :: s) = .ok (table.insert key v, rest) := by
  unfold tableMember
  rw [readColon_cons]
  show (value s >>= _) = _
  rw [h]
  rfl

mutual

/-- The compact form of a value is read back, if enough levels are left. -/
theorem readValue_compact : (v : Json) → (levels : Nat) → v.Tables → v.Exact → v.depth ≤ levels →
    {rest : Octets} → Ended rest → readValue levels (compactOctets v ++ rest) = .ok (v, rest)
  | .null, levels, _, _, _, _, hrest => readValue_of_scalar .null levels trivial hrest
  | .bool value, levels, _, _, _, _, hrest =>
    readValue_of_scalar (.bool value) levels trivial hrest
  | .num n, levels, _, hexact, _, _, hrest => readValue_of_scalar (.num n) levels hexact hrest
  | .str s, levels, _, _, _, _, hrest => readValue_of_scalar (.str s) levels trivial hrest
  | .arr items, levels, htables, hexact, hdepth, rest, hrest => by
    rw [depth] at hdepth
    obtain ⟨levels, rfl⟩ := Nat.exists_eq_succ_of_ne_zero (show levels ≠ 0 by omega)
    have hlevels : itemsDepth items ≤ levels := Nat.le_of_succ_le_succ hdepth
    cases items with
    | nil => exact readValue_list (items_end (readValue levels) blank_nil true rest _)
    | cons item items =>
      rw [itemsDepth] at hlevels
      have hitem := readValue_compact item levels htables.1 hexact.1 (by omega)
        (ended_compactItemsOctets items rest)
      rw [compactOctets_arr_cons, List.cons_append, List.append_assoc]
      refine readValue_list (items_step (nextItem_first_compact hexact.1 _) hitem ?_)
      refine items_compact items levels htables.2 hexact.2 (by omega) rest ?_
      -- a try for each octet is more than enough
      have hlength := length_lt_compactItemsOctets items
      simp only [List.length_append]
      omega
  | .obj members, levels, htables, hexact, hdepth, rest, hrest => by
    rw [depth] at hdepth
    obtain ⟨levels, rfl⟩ := Nat.exists_eq_succ_of_ne_zero (show levels ≠ 0 by omega)
    have hlevels : membersDepth members ≤ levels := Nat.le_of_succ_le_succ hdepth
    cases members with
    | nil =>
      exact readValue_object
        (members_end (tableMember (readValue levels)) blank_nil true [] rest _)
    | cons member members =>
      obtain ⟨key, v⟩ := member
      rw [membersDepth] at hlevels
      have hvalue := readValue_compact v levels htables.2.1 hexact.2.1 (by omega)
        (ended_compactMembersOctets members rest)
      rw [compactOctets_obj_cons]
      simp only [List.cons_append, List.append_assoc]
      refine readValue_object ?_
      rw [members_of_next (nextMember_first_compact _) (tableMember_of_read hvalue [] key)]
      refine members_compact members levels [(key, v)] htables.1 htables.2.2 hexact.2.2 (by omega)
        rest ?_
      have hlength := length_lt_compactMembersOctets members
      simp only [List.length_cons, List.length_append]
      omega

/-- The further items of a list are read back. -/
theorem items_compact : (vs : List Json) → (levels : Nat) →
    AllItems (fun _ => True) Table.Sorted vs →
    AllItems Number.Kept (fun _ => True) vs → itemsDepth vs ≤ levels → (rest : Octets) →
    {tries : Nat} → vs.length < tries →
      items (readValue levels) tries false (compactItemsOctets vs ++ rest) = .ok (vs, rest)
  | [], levels, _, _, _, rest, tries, htries => by
    obtain ⟨tries, rfl⟩ := Nat.exists_eq_succ_of_ne_zero (Nat.ne_of_gt htries)
    exact items_end (readValue levels) blank_nil false rest tries
  | v :: vs, levels, htables, hexact, hdepth, rest, tries, htries => by
    rw [itemsDepth] at hdepth
    obtain ⟨tries, rfl⟩ := Nat.exists_eq_succ_of_ne_zero (Nat.ne_of_gt (Nat.zero_lt_of_lt htries))
    have hitem := readValue_compact v levels htables.1 hexact.1 (by omega)
      (ended_compactItemsOctets vs rest)
    rw [compactItemsOctets_cons, List.cons_append, List.append_assoc]
    exact items_step (nextItem_comma_compact hexact.1 _) hitem
      (items_compact vs levels htables.2 hexact.2 (by omega) rest (Nat.lt_of_succ_lt_succ htries))

/-- The further members of an object are read back, and put at the end of the table. -/
theorem members_compact : (written : List (String × Json)) → (levels : Nat) →
    (table : Object) → Table.Sorted (table ++ written) →
    AllMembers (fun _ => True) Table.Sorted written →
    AllMembers Number.Kept (fun _ => True) written → membersDepth written ≤ levels →
    (rest : Octets) → {tries : Nat} → written.length < tries →
      members (tableMember (readValue levels)) tries false table
          (compactMembersOctets written ++ rest) = .ok (table ++ written, rest)
  | [], levels, table, _, _, _, _, rest, tries, htries => by
    obtain ⟨tries, rfl⟩ := Nat.exists_eq_succ_of_ne_zero (Nat.ne_of_gt htries)
    rw [List.append_nil]
    exact members_end (tableMember (readValue levels)) blank_nil false table rest tries
  | (key, v) :: written, levels, table, hsorted, htables, hexact, hdepth, rest, tries, htries => by
    rw [membersDepth] at hdepth
    obtain ⟨tries, rfl⟩ := Nat.exists_eq_succ_of_ne_zero (Nat.ne_of_gt (Nat.zero_lt_of_lt htries))
    have hinsert := Table.insert_of_lt v hsorted.lt_of_mem
    have hvalue := readValue_compact v levels htables.1 hexact.1 (by omega)
      (ended_compactMembersOctets written rest)
    rw [compactMembersOctets_cons]
    simp only [List.cons_append, List.append_assoc]
    rw [members_of_next (nextMember_comma_compact _) (tableMember_of_read hvalue table key),
      hinsert]
    rw [List.append_cons] at hsorted
    rw [List.append_cons table (key, v) written]
    exact members_compact written levels _ hsorted htables.2 hexact.2 (by omega) rest
      (Nat.lt_of_succ_lt_succ htries)

end

/-- A document is what its compact form is read as. -/
theorem parseText_compact {v : Json} (htables : v.Tables) (hexact : v.Exact)
    (hdepth : v.depth ≤ maxLevels) : parseText v.compact = .ok v := by
  have hended : Ended [] := nofun
  have hread := readValue_compact v maxLevels htables hexact hdepth hended
  rw [List.append_nil] at hread
  refine mapError_eq_ok_iff.mpr ?_
  rw [encode_compact, readWhole, hread]
  rfl

end HttpScenario.Json
