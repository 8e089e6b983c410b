import HttpScenario.Json.Reader
import HttpScenario.Proofs.Json.Parts
import HttpScenario.Proofs.Sequence
/-!
# Documents that are read are made of tables

Every object of a document that is read as plain data is a table, sorted by key, however its text
orders the members and whichever of them it repeats (`gives_readValue`).  The loops over items and
over members keep what each of their rounds keeps, and an object starts as the empty table.  Along
with it, what is true of every number that is read stays true of the numbers of a document
(`gives_readValue_all`).
-/

namespace HttpScenario.Json

/-! ### Loops -/

/-- Each item that is read has what all items that can be read have. -/
theorem gives_items {α : Type} {item : Reader α} {P : α → Prop} (h : ∀ s, Gives (item s) P)
    (tries : Nat) (first : Bool) (s : Octets) :
    Gives (items item tries first s) fun xs => ∀ x ∈ xs, P x := by
  induction tries generalizing first s with
  | zero => exact gives_error _
  | succ tries ih =>
    rw [items]
    split
    · exact gives_error _
    · exact gives_map fun _ _ => List.forall_mem_nil _
    · split
      · exact gives_error _
      · rename_i x s hx
        refine gives_map ?_
        rintro ⟨xs, rest⟩ hxs y hy
        rcases List.mem_cons.mp hy with rfl | hy
        · exact h _ _ _ hx
        · exact ih false s xs rest hxs y hy

/-- What each member keeps true of what has been gathered is true of it in the end. -/
theorem gives_members {σ : Type} {member : σ → String → Reader σ} {I : σ → Prop}
    (h : ∀ gathered key s, I gathered → Gives (member gathered key s) I) (tries : Nat)
    (first : Bool) {gathered : σ} (hgathered : I gathered) (s : Octets) :
    Gives (members member tries first gathered s) I := by
  induction tries generalizing first gathered s with
  | zero => exact gives_error _
  | succ tries ih =>
    rw [members]
    split
    · exact gives_error _
    · exact gives_ok hgathered _
    · split
      · exact gives_error _
      · split
        · exact gives_error _
        · rename_i hmember
          exact ih false (h _ _ _ hgathered _ _ hmember) _

/-- A table all of whose values have a property. -/
def TableOf {α : Type} (P : α → Prop) (table : Table α) : Prop :=
  table.Sorted ∧ ∀ entry ∈ table, P entry.2

theorem tableOf_nil {α : Type} {P : α → Prop} : TableOf P [] :=
  ⟨.nil, List.forall_mem_nil _⟩

theorem TableOf.insert {α : Type} {P : α → Prop} {table : Table α} (h : TableOf P table)
    (key : String) {value : α} (hvalue : P value) : TableOf P (table.insert key value) := by
  refine ⟨Table.sorted_insert key value h.1, ?_⟩
  intro entry hentry
  rcases Table.mem_insert hentry with rfl | hentry
  · exact hvalue
  · exact h.2 entry hentry

/-- Members that go into a table make a table, with values as they are read. -/
theorem gives_tableMembers {α : Type} {value : Reader α} {P : α → Prop}
    (h : ∀ s, Gives (value s) P) (tries : Nat) (s : Octets) :
    Gives (members (tableMember value) tries true [] s) (TableOf P) := by
  have hstep : ∀ (table : Table α) (key : String) (s : Octets), TableOf P table →
      Gives (tableMember value table key s) (TableOf P) := by
    intro table key s htable
    exact gives_bind fun s _ => gives_bind fun _ hread =>
      gives_ok (htable.insert key (h s _ _ hread)) _
  exact gives_members hstep tries true tableOf_nil s

/-! ### Any document -/

theorem tables_arr {items : List Json} (h : ∀ item ∈ items, item.Tables) : (arr items).Tables :=
  allItems_iff.mpr h

theorem tables_obj {table : Object} (h : TableOf Tables table) : (obj table).Tables :=
  ⟨h.1, allMembers_iff.mpr h.2⟩

section all

variable {number : Number → Prop} {object : Object → Prop}
  (hnumber : ∀ negative s, Gives (readNumber negative s) number)

include hnumber

/-- A small value is at most a number, and has no object in it. -/
theorem gives_readScalar (b : UInt8) (rest : Octets) :
    Gives (readScalar b rest) (All number object) := by
  unfold readScalar
  split
  · exact gives_map fun _ _ => trivial
  split
  · exact gives_map fun _ _ => trivial
  split
  · exact gives_map fun _ _ => trivial
  split
  · exact gives_map fun read hread => hnumber true rest read.1 read.2 hread
  split
  · exact gives_map fun read hread => hnumber false (b :: rest) read.1 read.2 hread
  split
  · exact gives_map fun _ _ => trivial
  · exact gives_error _

/-- What is true of every number that is read and of every table is true of all numbers and all
objects of a document that is read. -/
theorem gives_readValue_all (hobject : ∀ table : Object, table.Sorted → object table)
    (levels : Nat) (s : Octets) : Gives (readValue levels s) (All number object) := by
  induction levels generalizing s with
  | zero =>
    rw [readValue]
    split
    · exact gives_error _
    · split
      · exact gives_error _
      · exact gives_readScalar hnumber _ _
  | succ levels ih =>
    rw [readValue]
    split
    · exact gives_error _
    split
    · exact gives_map fun read hread =>
        allItems_iff.mpr (gives_items ih _ true _ read.1 read.2 hread)
    split
    · refine gives_map fun read hread => ?_
      have htable := gives_tableMembers ih _ _ read.1 read.2 hread
      exact ⟨hobject read.1 htable.1, allMembers_iff.mpr htable.2⟩
    · exact gives_readScalar hnumber _ _

end all

/-- Every object of a document that is read is a table. -/
theorem gives_readValue (levels : Nat) (s : Octets) : Gives (readValue levels s) Tables :=
  gives_readValue_all (fun _ _ _ _ _ => trivial) (fun _ hsorted => hsorted) levels s

end HttpScenario.Json
