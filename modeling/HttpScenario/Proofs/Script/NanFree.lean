import HttpScenario.Proofs.Json.NanFree
import HttpScenario.Proofs.Script.Parsing
import HttpScenario.Script.Eval
/-!
# Scripts come to no NaN

A script computes with the values of a body and with its own literals.  A literal number that is
not finite is null, and so is the negative of one (`nanFree_numberValue`); everything else that a
step gives is a part of what it is given, a count or a truth value.  So from a body without a NaN a
script comes to values without one (`nanFree_evaluate`), by induction on its expression.
-/

namespace HttpScenario.Script

theorem nanFree_numberValue (d : Double) : (numberValue d).NanFree := by
  unfold numberValue
  split
  · rename_i whole htruncate
    split
    · exact Json.Number.nanFree_whole whole
    · refine Json.Number.nanFree_real ?_
      rintro rfl
      cases htruncate
  · trivial

/-! ### Literals -/

/-- No literal of an expression has a NaN in it. -/
def Expr.NanFree : Expr → Prop
  | .literal value => value.NanFree
  | .variable _ => True
  | .member target _ => target.NanFree
  | .index target key => target.NanFree ∧ key.NanFree
  | .not operand => operand.NanFree
  | .neg operand => operand.NanFree
  | .and left right => left.NanFree ∧ right.NanFree
  | .or left right => left.NanFree ∧ right.NanFree
  | .compare _ left right => left.NanFree ∧ right.NanFree

theorem Operator.nanFree_build {place : Level} {t : Token} {build : Expr → Expr → Expr}
    (h : Operator place t build) {left right : Expr} (hleft : left.NanFree)
    (hright : right.NanFree) : (build left right).NanFree := by
  cases h <;> exact ⟨hleft, hright⟩

theorem Derives.nanFree {n : Nat} {place : Level} {ts : List Token} {e : Expr}
    (h : Derives n place ts e) : e.NanFree := by
  induction h with
  | tighter _ _ ih => exact ih
  | binary hop _ _ _ ihleft ihright => exact hop.nanFree_build ihleft ihright
  | not _ ih => exact ih
  | neg _ ih => exact ih
  | member _ _ ih => exact ih
  | index _ _ ihtarget ihkey => exact ⟨ihtarget, ihkey⟩
  | number n value => exact nanFree_numberValue value
  | text | trueName | falseName | nullName | undefinedName | otherName => trivial
  | parens _ ih => exact ih

/-! ### Steps -/

section steps

variable {target key v : Json}

theorem nanFree_find? {table : Json.Object} (h : (Json.obj table).NanFree) {name : String}
    (hv : table.find? name = some v) : v.NanFree :=
  Json.allMembers_iff.mp h.2 (name, v) (Table.mem_of_find? hv)

theorem nanFree_property (h : target.NanFree) {name : String}
    (hv : property target name = .ok v) : v.NanFree := by
  cases target with
  | null => cases hv
  | bool | num =>
    obtain rfl := Except.ok.inj hv
    trivial
  | str | arr =>
    obtain rfl := Except.ok.inj hv
    split
    · exact Json.Number.nanFree_whole _
    · trivial
  | obj members =>
    obtain rfl := Except.ok.inj hv
    cases hfind : Table.find? name members with
    | none => trivial
    | some value => exact nanFree_find? h hfind

theorem nanFree_itemAt (h : target.NanFree) (hv : itemAt target key = .ok v) : v.NanFree := by
  unfold itemAt at hv
  split at hv
  · rename_i items n
    obtain rfl := Except.ok.inj hv
    cases hitem : (placeOf? n).bind fun place => items[place]? with
    | none => trivial
    | some item =>
      obtain ⟨place, -, hplace⟩ := Option.bind_eq_some_iff.mp hitem
      exact Json.allItems_iff.mp h item (List.mem_of_getElem? hplace)
  · exact nanFree_property h hv
  · cases hv
  · obtain rfl := Except.ok.inj hv
    trivial

theorem nanFree_negate (hv : negate target = .ok v) : v.NanFree := by
  cases target with
  | num n =>
    obtain rfl := Except.ok.inj hv
    exact nanFree_numberValue _
  | null | bool | str | arr | obj => cases hv

end steps

/-! ### Expressions -/

theorem nanFree_eval {body : Json.Object} (hbody : (Json.obj body).NanFree) {e : Expr}
    (he : e.NanFree) {v : Json} (hv : eval body e = .ok v) : v.NanFree := by
  induction e generalizing v with
  | literal value =>
    obtain rfl := Except.ok.inj hv
    exact he
  | «variable» name =>
    rw [eval] at hv
    split at hv
    · rename_i value hfind
      obtain rfl := Except.ok.inj hv
      exact nanFree_find? hbody hfind
    · cases hv
  | member target name ih =>
    obtain ⟨value, htarget, hproperty⟩ := bind_eq_ok_iff.mp hv
    exact nanFree_property (ih he htarget) hproperty
  | index target key ihtarget ihkey =>
    obtain ⟨value, htarget, hkey⟩ := bind_eq_ok_iff.mp hv
    obtain ⟨place, -, hitem⟩ := bind_eq_ok_iff.mp hkey
    exact nanFree_itemAt (ihtarget he.1 htarget) hitem
  | not operand ih =>
    obtain ⟨value, -, hnot⟩ := bind_eq_ok_iff.mp hv
    obtain rfl := Except.ok.inj hnot
    trivial
  | neg operand ih =>
    obtain ⟨value, -, hneg⟩ := bind_eq_ok_iff.mp hv
    exact nanFree_negate hneg
  | and left right ihleft ihright =>
    obtain ⟨value, hleft, hrest⟩ := bind_eq_ok_iff.mp hv
    split at hrest
    · exact ihright he.2 hrest
    · obtain rfl := Except.ok.inj hrest
      exact ihleft he.1 hleft
  | or left right ihleft ihright =>
    obtain ⟨value, hleft, hrest⟩ := bind_eq_ok_iff.mp hv
    split at hrest
    · obtain rfl := Except.ok.inj hrest
      exact ihleft he.1 hleft
    · exact ihright he.2 hrest
  | compare op left right ihleft ihright =>
    obtain ⟨a, -, hright⟩ := bind_eq_ok_iff.mp hv
    obtain ⟨b, -, hholds⟩ := bind_eq_ok_iff.mp hright
    obtain rfl := Except.ok.inj hholds
    trivial

/-- From a body without a NaN, a script comes to values without one. -/
theorem nanFree_evaluate {source : String} {body : Json.Object} (hbody : (Json.obj body).NanFree)
    {v : Json} (hv : evaluate source body = .ok v) : v.NanFree := by
  obtain ⟨ts, -, hparsed⟩ := bind_eq_ok_iff.mp hv
  obtain ⟨e, hparse, heval⟩ := bind_eq_ok_iff.mp hparsed
  exact nanFree_eval hbody (parse_eq_ok_iff.mp hparse).nanFree heval

end HttpScenario.Script
