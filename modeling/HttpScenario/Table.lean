/-!
# Tables

A table is a list of entries sorted by key, with at most one entry for a key.  Keys are compared
character by character, which is also the order of their octets.  `insert` keeps a table sorted
(`sorted_insert`) and puts its value where `find?` reads it (`find?_insert_self`), and leaves all
other keys alone (`find?_insert_of_ne`).
-/

namespace HttpScenario

/-- Entries sorted by key. -/
abbrev Table (α : Type) := List (String × α)

namespace Table

variable {α β : Type}

/-- The value under a key. -/
def find? (key : String) : Table α → Option α
  | [] => none
  | (k, v) :: rest => if k = key then some v else find? key rest

/-- Whether there is a value under a key. -/
def contains (key : String) (table : Table α) : Bool :=
  (find? key table).isSome

/-- Puts a value under a key, in the place of an earlier one. -/
def insert (key : String) (value : α) : Table α → Table α
  | [] => [(key, value)]
  | (k, v) :: rest =>
    if k = key then (key, value) :: rest
    else if key < k then (key, value) :: (k, v) :: rest
    else (k, v) :: insert key value rest

/-- The table of a list of entries; of two entries with one key the later one stays. -/
def ofList (entries : List (String × α)) : Table α :=
  entries.foldl (fun table entry => insert entry.1 entry.2 table) []

/-- The keys in order. -/
def keys (table : Table α) : List String :=
  table.map (·.1)

/-- Applies a function to each value. -/
def mapValues (f : α → β) (table : Table α) : Table β :=
  table.map fun entry => (entry.1, f entry.2)

/-- The keys ascend. -/
def Sorted (table : Table α) : Prop :=
  table.Pairwise (·.1 < ·.1)

@[simp] theorem find?_nil (key : String) : find? key ([] : Table α) = none := rfl

/-- What stands under a key is an entry. -/
theorem mem_of_find? {key : String} {value : α} {table : Table α}
    (h : find? key table = some value) : (key, value) ∈ table := by
  induction table with
  | nil => cases h
  | cons entry rest ih =>
    obtain ⟨k, v⟩ := entry
    rw [find?] at h
    split at h
    · rename_i hkey
      obtain rfl := Option.some.inj h
      rw [hkey]
      exact List.mem_cons_self
    · exact List.mem_cons_of_mem _ (ih h)

theorem find?_insert_self (key : String) (value : α) (table : Table α) :
    find? key (insert key value table) = some value := by
  induction table with
  | nil => simp [insert, find?]
  | cons entry rest ih =>
    obtain ⟨k, v⟩ := entry
    simp only [insert]
    split
    · simp [find?]
    · split
      · simp [find?]
      · simp_all [find?]

theorem find?_insert_of_ne {key other : String} (h : other ≠ key) (value : α) (table : Table α) :
    find? other (insert key value table) = find? other table := by
  induction table with
  | nil => simp [insert, find?, Ne.symm h]
  | cons entry rest ih =>
    obtain ⟨k, v⟩ := entry
    simp only [insert]
    split
    · rename_i hk
      subst hk
      simp [find?, Ne.symm h]
    · split
      · simp [find?, Ne.symm h]
      · simp [find?, ih]

theorem keys_mapValues (f : α → β) (table : Table α) : keys (mapValues f table) = keys table := by
  simp [keys, mapValues]

/-- Every key after an insertion was there before or is the inserted one. -/
theorem mem_keys_insert {key k : String} {value : α} {table : Table α}
    (h : k ∈ keys (insert key value table)) : k = key ∨ k ∈ keys table := by
  induction table with
  | nil => simpa [insert, keys] using h
  | cons entry rest ih =>
    obtain ⟨k', v'⟩ := entry
    simp only [insert] at h
    split at h
    · rename_i hk
      subst hk
      simp only [keys, List.map_cons, List.mem_cons] at h ⊢
      exact Or.inr h
    · split at h
      · simpa [keys] using h
      · simp only [keys, List.map_cons, List.mem_cons] at h ih ⊢
        rcases h with h | h
        · exact Or.inr (Or.inl h)
        · rcases ih h with h | h
          · exact Or.inl h
          · exact Or.inr (Or.inr h)

/-- Every entry after an insertion was there before or is the inserted one. -/
theorem mem_insert {key : String} {value : α} {table : Table α} {entry : String × α}
    (h : entry ∈ insert key value table) : entry = (key, value) ∨ entry ∈ table := by
  induction table with
  | nil => exact Or.inl (List.mem_singleton.mp h)
  | cons head rest ih =>
    obtain ⟨k, v⟩ := head
    simp only [insert] at h
    split at h
    · rcases List.mem_cons.mp h with h | h
      · exact Or.inl h
      · exact Or.inr (List.mem_cons_of_mem _ h)
    · split at h
      · exact List.mem_cons.mp h
      · rcases List.mem_cons.mp h with rfl | h
        · exact Or.inr List.mem_cons_self
        · exact (ih h).imp_right (List.mem_cons_of_mem _)

/-- Inserting keeps the keys in order. -/
theorem sorted_insert (key : String) (value : α) {table : Table α} (h : Sorted table) :
    Sorted (insert key value table) := by
  induction table with
  | nil => simp [insert, Sorted]
  | cons entry rest ih =>
    obtain ⟨k, v⟩ := entry
    have hrest : Sorted rest := (List.pairwise_cons.1 h).2
    have hhead : ∀ e ∈ rest, k < e.1 := (List.pairwise_cons.1 h).1
    simp only [insert]
    split
    · rename_i hk
      subst hk
      exact List.pairwise_cons.2 ⟨hhead, hrest⟩
    · rename_i hne
      split
      · rename_i hlt
        refine List.pairwise_cons.2 ⟨?_, h⟩
        intro e he
        rcases List.mem_cons.1 he with he | he
        · subst he
          exact hlt
        · exact String.lt_trans hlt (hhead e he)
      · rename_i hge
        refine List.pairwise_cons.2 ⟨?_, ih hrest⟩
        intro e he
        have hmem : e.1 ∈ keys (insert key value rest) := List.mem_map_of_mem he
        rcases mem_keys_insert hmem with h1 | h1
        · rw [h1]
          rcases Decidable.em (k < key) with hlt | hnlt
          · exact hlt
          · exact absurd (String.le_antisymm (String.not_lt.1 hge) (String.not_lt.1 hnlt)) hne
        · obtain ⟨e', he', hkey⟩ := List.mem_map.1 h1
          rw [← hkey]
          exact hhead e' he'

/-- A table made of any entries is sorted. -/
theorem sorted_ofList (entries : List (String × α)) : Sorted (ofList entries) := by
  have step : ∀ (entries : List (String × α)) (table : Table α), Sorted table →
      Sorted (entries.foldl (fun table entry => insert entry.1 entry.2 table) table) := by
    intro entries
    induction entries with
    | nil => intro table h; exact h
    | cons entry rest ih => intro table h; exact ih _ (sorted_insert _ _ h)
  exact step entries [] List.Pairwise.nil

end Table

end HttpScenario
