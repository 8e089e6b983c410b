import HttpScenario.Proofs.Shape.Tabular
import HttpScenario.Yaml.Reader
/-!
# What is read from a YAML text is made of tables

The other format reads by the same shapes, and what it reads is made of tables in the same places
(`yields_readShape`).  Its readers hand on how often references have been followed; what they yield
does not depend on that.
-/

namespace HttpScenario.Yaml

open Json (TableOf)
open Shape (Tabular FieldTabular SomeTabular)

/-! ### What a reader yields -/

/-- Whatever a reader yields has a property. -/
def Yields {α : Type} (read : Reading α) (P : α → Prop) : Prop :=
  ∀ jumps, Gives (read jumps) P

section yields

variable {α β : Type} {P : α → Prop} {Q : β → Prop}

theorem yields_pure {a : α} (h : P a) : Yields (pure a) P :=
  fun jumps => gives_ok h jumps

theorem yields_fail (fault : Fault) : Yields (failWith fault) P :=
  fun _ => gives_error fault

theorem yields_any (read : Reading α) : Yields read fun _ => True :=
  fun _ _ _ _ => trivial

theorem yields_bind {read : Reading α} {next : α → Reading β} (h : Yields read P)
    (hnext : ∀ a, P a → Yields (next a) Q) : Yields (read >>= next) Q := by
  intro jumps
  show Gives (read jumps >>= fun step => next step.1 step.2) Q
  exact gives_bind fun step hstep => hnext step.1 (h jumps _ _ hstep) step.2

/-- Only what follows a step matters for what the two yield. -/
theorem yields_then {read : Reading α} {next : α → Reading β} (h : ∀ a, Yields (next a) Q) :
    Yields (read >>= next) Q :=
  yields_bind (yields_any read) fun a _ => h a

theorem yields_lift {result : Except Fault α} (h : ∀ a, result = .ok a → P a) :
    Yields (StateT.lift result) P := by
  intro jumps
  show Gives (result >>= fun a => .ok (a, jumps)) P
  exact gives_bind fun a ha => gives_ok (h a ha) jumps

theorem yields_nested {read : Nat → Reading α} (h : ∀ levels, Yields (read levels) P)
    (levels : Nat) : Yields (nested levels read) P := by
  unfold nested
  split
  · exact yields_fail _
  · exact h _

end yields

/-! ### Any value -/

theorem needed_eq_ok_iff {α : Type} {value? : Option α} {value : α} :
    needed value? = .ok value ↔ value? = some value := by
  cases value? with
  | none => exact ⟨nofun, nofun⟩
  | some other =>
    exact ⟨fun h => congrArg some (Except.ok.inj h), fun h => congrArg _ (Option.some.inj h)⟩

variable (refs : References)

theorem tables_jsonOfContent {result : Except Fault Content} {v : Json}
    (h : result >>= jsonOfContent = .ok v) : v.Tables := by
  obtain ⟨kept, -, hv⟩ := bind_eq_ok_iff.mp h
  exact Content.tables_toJson? kept v (needed_eq_ok_iff.mp hv)

theorem yields_anyOfItems {levels : Nat} (h : ∀ node, Yields (anyOf refs levels node) Json.Tables)
    (items : List Node) : Yields (anyOfItems refs levels items) fun vs => ∀ v ∈ vs, v.Tables := by
  induction items with
  | nil =>
    rw [anyOfItems]
    exact yields_pure (List.forall_mem_nil _)
  | cons item items ih =>
    rw [anyOfItems]
    exact yields_bind (h item) fun v hv => yields_bind ih fun vs hvs =>
      yields_pure (List.forall_mem_cons.mpr ⟨hv, hvs⟩)

theorem yields_anyOfMembers {levels : Nat} (h : ∀ node, Yields (anyOf refs levels node) Json.Tables)
    (members : List (Node × Node)) {table : Table Json} (htable : TableOf Json.Tables table) :
    Yields (anyOfMembers refs levels table members) (TableOf Json.Tables) := by
  induction members generalizing table with
  | nil =>
    rw [anyOfMembers]
    exact yields_pure htable
  | cons member members ih =>
    obtain ⟨key, node⟩ := member
    rw [anyOfMembers]
    exact yields_then fun k => yields_bind (h node) fun v hv => ih (htable.insert k hv)

/-- Any value is made of tables. -/
theorem yields_anyOf (levels : Nat) (node : Node) :
    Yields (anyOf refs levels node) Json.Tables := by
  induction levels generalizing node with
  | zero =>
    rw [anyOf]
    refine yields_then fun node => ?_
    split
    · exact yields_lift fun _ => tables_jsonOfContent
    · exact yields_fail _
  | succ levels ih =>
    rw [anyOf]
    refine yields_then fun node => ?_
    split
    · exact yields_lift fun _ => tables_jsonOfContent
    · split
      · exact yields_fail _
      · exact yields_bind (yields_anyOfItems refs ih _) fun _ h => yields_pure (Json.tables_arr h)
    · split
      · exact yields_fail _
      · exact yields_bind (yields_anyOfMembers refs ih _ Json.tableOf_nil) fun _ h =>
          yields_pure (Json.tables_obj h)
    · exact yields_fail _

/-! ### Collections -/

theorem yields_readItems {item : Node → Reading Json} {P : Json → Prop}
    (h : ∀ node, Yields (item node) P) (nodes : List Node) :
    Yields (readItems item nodes) fun vs => ∀ v ∈ vs, P v := by
  induction nodes with
  | nil =>
    rw [readItems]
    exact yields_pure (List.forall_mem_nil _)
  | cons node nodes ih =>
    rw [readItems]
    exact yields_bind (h node) fun v hv => yields_bind ih fun vs hvs =>
      yields_pure (List.forall_mem_cons.mpr ⟨hv, hvs⟩)

theorem yields_readEntries {value : Node → Reading Json} {P : Json → Prop}
    (h : ∀ node, Yields (value node) P) (members : List (Node × Node)) {table : Table Json}
    (htable : TableOf P table) : Yields (readEntries refs value table members) (TableOf P) := by
  induction members generalizing table with
  | nil =>
    rw [readEntries]
    exact yields_pure htable
  | cons member members ih =>
    obtain ⟨key, node⟩ := member
    rw [readEntries]
    exact yields_then fun k => yields_bind (h node) fun v hv => ih (htable.insert k hv)

theorem yields_readFields {fields : List (String × (Node → Reading Json))}
    {P : String → Json → Prop} (h : ∀ field ∈ fields, ∀ node, Yields (field.2 node) (P field.1))
    (members : List (Node × Node)) {found : List (String × Json)}
    (hfound : EachMember P found) :
    Yields (readFields refs fields found members) (EachMember P) := by
  induction members generalizing found with
  | nil =>
    rw [readFields]
    exact yields_pure hfound
  | cons member members ih =>
    obtain ⟨key, node⟩ := member
    rw [readFields]
    refine yields_then fun k => ?_
    split
    · exact ih hfound
    · rename_i value hvalue
      split
      · exact yields_fail _
      · exact yields_bind (h (k, value) (Shape.mem_of_lookup hvalue) node) fun v hv =>
          ih (hfound.cons hv)

/-! ### Values of a shape -/

theorem tabular_recordOf {fields : List (String × Shape × Option Json)}
    {found : List (String × Json)} (hfound : EachMember (FieldTabular fields) found)
    {v : Json} (h : recordOf (fields.map fun field => (field.1, field.2.2)) found = .ok v)
    (title : String) : Tabular (.record title fields) v := by
  unfold recordOf at h
  split at h
  · rename_i members hmembers
    obtain rfl := Except.ok.inj h
    have hdefault : ∀ field ∈ fields.map fun field => (field.1, field.2.2), ∀ v,
        field.2 = some v → FieldTabular fields field.1 v :=
      List.forall_mem_map.mpr fun _ hfield _ hv => Shape.fieldTabular_default hfield hv
    exact ⟨members, rfl, Shape.forall_assemble hfound hdefault hmembers⟩
  · cases h

mutual

/-- What is read from a node by a shape is made of tables. -/
theorem yields_readShape : (shape : Shape) → (levels : Nat) → (node : Node) →
    Yields (readShape refs shape levels node) (Tabular shape)
  | .text, levels, node => by
    rw [readShape]
    refine yields_then fun node => ?_
    split
    · exact yields_pure ⟨_, rfl⟩
    · exact yields_fail _
  | .flag, _, _ => fun _ _ _ _ => trivial
  | .whole _ _ _, _, _ => fun _ _ _ _ => trivial
  | .real, _, _ => fun _ _ _ _ => trivial
  | .any, levels, node => yields_anyOf refs levels node
  | .anyAsText, _, _ => fun _ _ _ _ => trivial
  | .list item, levels, node => by
    rw [readShape]
    refine yields_then fun node => ?_
    split
    · exact yields_bind (yields_nested
        (fun levels => yields_readItems (yields_readShape item levels) _) levels)
        fun items h => yields_pure ⟨items, rfl, h⟩
    · exact yields_pure ⟨[], rfl, List.forall_mem_nil _⟩
    · exact yields_fail _
  | .table value, levels, node => by
    rw [readShape]
    refine yields_then fun node => ?_
    split
    · exact yields_bind (yields_nested (fun levels => yields_readEntries refs
        (yields_readShape value levels) _ Json.tableOf_nil) levels)
        fun table h => yields_pure ⟨table, rfl, h⟩
    · exact yields_pure ⟨[], rfl, Json.tableOf_nil⟩
    · exact yields_fail _
  | .optional value, levels, node => by
    rw [readShape]
    refine yields_then fun node => yields_then fun missing => ?_
    split
    · exact yields_pure (Or.inl rfl)
    · exact fun jumps v rest h => Or.inr (yields_readShape value levels node jumps v rest h)
  | .word _, _, _ => fun _ _ _ _ => trivial
  | .record title fields, levels, node => by
    rw [readShape]
    dsimp only
    refine yields_then fun node => ?_
    split
    · exact yields_bind (yields_nested (fun levels => yields_readFields refs
        (yields_fieldShapes fields levels) _ eachMember_nil) levels)
        fun found hfound => yields_lift fun v h => tabular_recordOf hfound h title
    · exact yields_lift fun v h => tabular_recordOf eachMember_nil h title
    · exact yields_fail _
  | .firstOf _ alternatives, levels, node => by
    rw [readShape]
    refine yields_then fun kept => yields_lift fun v h => ?_
    exact Shape.someTabular_firstOfContent? alternatives kept v (needed_eq_ok_iff.mp h)

theorem yields_fieldShapes : (fields : List (String × Shape × Option Json)) → (levels : Nat) →
    ∀ field ∈ fieldShapes refs fields levels, ∀ node,
      Yields (field.2 node) (FieldTabular fields field.1)
  | [], _, field, h, _ => absurd h List.not_mem_nil
  | (name, shape, default?) :: fields, levels, field, h, node => by
    rcases List.mem_cons.mp h with rfl | h
    · exact fun jumps v rest hv =>
        Or.inl ⟨rfl, Or.inr (yields_readShape shape levels node jumps v rest hv)⟩
    · exact fun jumps v rest hv =>
        Or.inr (yields_fieldShapes fields levels field h node jumps v rest hv)

end

end HttpScenario.Yaml
