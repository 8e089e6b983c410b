import HttpScenario.Json.Basic
/-!
# The parts of a document

How deep a document is nested (`depth`), and what it means that something holds of all its numbers
and of all its objects (`All`), or of all its texts (`AllTexts`).  Two such properties matter where
documents are written and read: an object that is read as plain data is a table, sorted by key
(`Tables`), and a number is read back as it is if it is a whole one that is kept exactly (`Exact`).
Two more matter where a written document is searched for braces: that it has no object in it
(`ObjectFree`), and that no text in it has an opening brace (`Braceless`).
-/

namespace HttpScenario.Json

mutual

/-- How many lists and objects stand around the innermost part of a document. -/
def depth : Json → Nat
  | .null => 0
  | .bool _ => 0
  | .num _ => 0
  | .str _ => 0
  | .arr items => itemsDepth items + 1
  | .obj members => membersDepth members + 1

/-- The depth of the deepest of some documents. -/
def itemsDepth : List Json → Nat
  | [] => 0
  | item :: items => max (depth item) (itemsDepth items)

/-- The depth of the deepest of the documents under some keys. -/
def membersDepth : List (String × Json) → Nat
  | [] => 0
  | (_, v) :: members => max (depth v) (membersDepth members)

end

mutual

/-- All numbers and all objects of a document have a property each. -/
def All (number : Number → Prop) (object : Object → Prop) : Json → Prop
  | .null => True
  | .bool _ => True
  | .num n => number n
  | .str _ => True
  | .arr items => AllItems number object items
  | .obj members => object members ∧ AllMembers number object members

/-- All numbers and all objects of some documents have a property each. -/
def AllItems (number : Number → Prop) (object : Object → Prop) : List Json → Prop
  | [] => True
  | item :: items => All number object item ∧ AllItems number object items

/-- All numbers and all objects of the documents under some keys have a property each. -/
def AllMembers (number : Number → Prop) (object : Object → Prop) : List (String × Json) → Prop
  | [] => True
  | (_, v) :: members => All number object v ∧ AllMembers number object members

end

/-- Every object of a document is a table. -/
def Tables (v : Json) : Prop :=
  v.All (fun _ => True) Table.Sorted

/-- The numbers that are kept exactly, whole as they are. -/
def Number.Kept : Number → Prop
  | .whole value => Number.least ≤ value ∧ value < Number.limit
  | .real _ => False

/-- Every number of a document is a whole one that is kept exactly. -/
def Exact (v : Json) : Prop :=
  v.All Number.Kept fun _ => True

/-- No object stands anywhere in a document. -/
def ObjectFree (v : Json) : Prop :=
  v.All (fun _ => True) fun _ => False

mutual

/-- All texts of a document have a property, and so have the keys of its objects. -/
def AllTexts (text : String → Prop) : Json → Prop
  | .null => True
  | .bool _ => True
  | .num _ => True
  | .str s => text s
  | .arr items => ItemTexts text items
  | .obj members => MemberTexts text members

/-- All texts and keys of some documents have a property. -/
def ItemTexts (text : String → Prop) : List Json → Prop
  | [] => True
  | item :: items => AllTexts text item ∧ ItemTexts text items

/-- Some keys and all texts and keys of the documents under them have a property. -/
def MemberTexts (text : String → Prop) : List (String × Json) → Prop
  | [] => True
  | (key, v) :: members => text key ∧ AllTexts text v ∧ MemberTexts text members

end

/-- No text and no key of a document has an opening brace. -/
def Braceless (v : Json) : Prop :=
  v.AllTexts fun s => '\x7b' ∉ s.toList

theorem allItems_iff {number : Number → Prop} {object : Object → Prop} {items : List Json} :
    AllItems number object items ↔ ∀ item ∈ items, item.All number object := by
  induction items with
  | nil => simp [AllItems]
  | cons item items ih => simp [AllItems, ih]

theorem allMembers_iff {number : Number → Prop} {object : Object → Prop}
    {members : List (String × Json)} :
    AllMembers number object members ↔ ∀ member ∈ members, member.2.All number object := by
  induction members with
  | nil => simp [AllMembers]
  | cons member members ih =>
    obtain ⟨key, v⟩ := member
    simp [AllMembers, ih]

mutual

theorem All.imp {number number' : Number → Prop} {object object' : Object → Prop}
    (hnumber : ∀ n, number n → number' n) (hobject : ∀ members, object members → object' members) :
    {v : Json} → v.All number object → v.All number' object'
  | .null, _ => trivial
  | .bool _, _ => trivial
  | .num n, h => hnumber n h
  | .str _, _ => trivial
  | .arr _, h => AllItems.imp hnumber hobject h
  | .obj members, h => ⟨hobject members h.1, AllMembers.imp hnumber hobject h.2⟩

theorem AllItems.imp {number number' : Number → Prop} {object object' : Object → Prop}
    (hnumber : ∀ n, number n → number' n) (hobject : ∀ members, object members → object' members) :
    {items : List Json} → AllItems number object items → AllItems number' object' items
  | [], _ => trivial
  | _ :: _, h => ⟨All.imp hnumber hobject h.1, AllItems.imp hnumber hobject h.2⟩

theorem AllMembers.imp {number number' : Number → Prop} {object object' : Object → Prop}
    (hnumber : ∀ n, number n → number' n) (hobject : ∀ members, object members → object' members) :
    {members : List (String × Json)} → AllMembers number object members →
      AllMembers number' object' members
  | [], _ => trivial
  | _ :: _, h => ⟨All.imp hnumber hobject h.1, AllMembers.imp hnumber hobject h.2⟩

end

theorem depth_le_itemsDepth {item : Json} {items : List Json} (h : item ∈ items) :
    item.depth ≤ itemsDepth items := by
  induction items with
  | nil => cases h
  | cons other items ih =>
    rw [itemsDepth]
    rcases List.mem_cons.mp h with rfl | h
    · exact Nat.le_max_left ..
    · exact Nat.le_trans (ih h) (Nat.le_max_right ..)

theorem depth_le_membersDepth {member : String × Json} {members : List (String × Json)}
    (h : member ∈ members) : member.2.depth ≤ membersDepth members := by
  induction members with
  | nil => cases h
  | cons other members ih =>
    rw [membersDepth]
    rcases List.mem_cons.mp h with rfl | h
    · exact Nat.le_max_left ..
    · exact Nat.le_trans (ih h) (Nat.le_max_right ..)

/-- A list takes one level, and its items the others. -/
theorem depth_arr_le {items : List Json} {levels : Nat} (h : (Json.arr items).depth ≤ levels) :
    ∃ k, levels = k + 1 ∧ ∀ item ∈ items, item.depth ≤ k := by
  rw [depth] at h
  refine ⟨levels - 1, by omega, ?_⟩
  intro item hitem
  have hle := depth_le_itemsDepth hitem
  omega

/-- An object takes one level, and its members the others. -/
theorem depth_obj_le {members : List (String × Json)} {levels : Nat}
    (h : (Json.obj members).depth ≤ levels) :
    ∃ k, levels = k + 1 ∧ ∀ member ∈ members, member.2.depth ≤ k := by
  rw [depth] at h
  refine ⟨levels - 1, by omega, ?_⟩
  intro member hmember
  have hle := depth_le_membersDepth hmember
  omega

end HttpScenario.Json
