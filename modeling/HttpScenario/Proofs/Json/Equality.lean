import HttpScenario.Proofs.Double.Nan
import HttpScenario.Proofs.Json.Parts
/-!
# Equality of documents

Two documents are equal if their parts are.  That is symmetric (`same_comm`) and transitive
(`same_trans`) for all documents, and reflexive for those without a NaN among their numbers
(`same_self`).  The proofs follow the mutual recursion of the comparison.
-/

namespace HttpScenario.Json

/-- A number is no NaN. -/
def Number.NanFree (n : Number) : Prop :=
  n ≠ .real .nan

/-- No number of a document is a NaN. -/
def NanFree (v : Json) : Prop :=
  v.All Number.NanFree fun _ => True

/-! ### Numbers -/

namespace Number

variable {a b c n : Number}

theorem nanFree_whole (value : Int) : (whole value).NanFree := nofun

theorem nanFree_real {d : Double} (h : d ≠ .nan) : (real d).NanFree :=
  fun heq => h (real.inj heq)

theorem NanFree.toDouble_ne_nan (h : n.NanFree) : n.toDouble ≠ .nan := by
  cases n with
  | whole value => exact Double.ofInt_ne_nan value
  | real value =>
    rintro rfl
    exact h rfl

theorem Kept.nanFree (h : n.Kept) : n.NanFree := by
  rintro rfl
  exact h

theorem same_self (h : n.NanFree) : n.same n = true := by
  cases n with
  | whole value => exact beq_self_eq_true value
  | real value => exact Double.same_self h.toDouble_ne_nan

theorem same_comm (a b : Number) : a.same b = b.same a := by
  cases a with
  | whole x =>
    cases b with
    | whole y => exact Bool.beq_comm
    | real y => rfl
  | real x =>
    cases b with
    | whole y => rfl
    | real y => exact Double.same_comm x y

theorem same_trans (hab : a.same b = true) (hbc : b.same c = true) : a.same c = true := by
  cases a with
  | whole x =>
    cases b with
    | real y => cases hab
    | whole y =>
      obtain rfl : x = y := eq_of_beq hab
      exact hbc
  | real x =>
    cases b with
    | whole y => cases hab
    | real y =>
      cases c with
      | whole z => cases hbc
      | real z => exact Double.same_trans hab hbc

end Number

/-! ### Documents -/

theorem Exact.nanFree {v : Json} (h : v.Exact) : v.NanFree :=
  h.imp (fun _ => Number.Kept.nanFree) fun _ _ => trivial

mutual

theorem same_self : {v : Json} → v.NanFree → v.same v = true
  | .null, _ => rfl
  | .bool value, _ => beq_self_eq_true value
  | .num _, h => Number.same_self h
  | .str s, _ => beq_self_eq_true s
  | .arr _, h => sameItems_self h
  | .obj _, h => sameMembers_self h.2

theorem sameItems_self : {items : List Json} →
    AllItems Number.NanFree (fun _ => True) items → sameItems items items = true
  | [], _ => rfl
  | _ :: _, h => Bool.and_eq_true_iff.mpr ⟨same_self h.1, sameItems_self h.2⟩

theorem sameMembers_self : {members : List (String × Json)} →
    AllMembers Number.NanFree (fun _ => True) members →
    sameMembers members members = true
  | [], _ => rfl
  | (key, _) :: _, h => by
    rw [sameMembers, beq_self_eq_true, same_self h.1, sameMembers_self h.2]
    rfl

end

mutual

theorem same_comm : (a b : Json) → a.same b = b.same a
  | .null, b => by cases b <;> rfl
  | .bool x, b => by
    cases b with
    | bool y => exact Bool.beq_comm
    | null | num | str | arr | obj => rfl
  | .num x, b => by
    cases b with
    | num y => exact Number.same_comm x y
    | null | bool | str | arr | obj => rfl
  | .str x, b => by
    cases b with
    | str y => exact Bool.beq_comm
    | null | bool | num | arr | obj => rfl
  | .arr items, b => by
    cases b with
    | arr others => exact sameItems_comm items others
    | null | bool | num | str | obj => rfl
  | .obj members, b => by
    cases b with
    | obj others => exact sameMembers_comm members others
    | null | bool | num | str | arr => rfl

theorem sameItems_comm : (as bs : List Json) → sameItems as bs = sameItems bs as
  | [], bs => by cases bs <;> rfl
  | a :: as, bs => by
    cases bs with
    | nil => rfl
    | cons b bs => rw [sameItems, sameItems, same_comm a b, sameItems_comm as bs]

theorem sameMembers_comm : (as bs : List (String × Json)) → sameMembers as bs = sameMembers bs as
  | [], bs => by cases bs <;> rfl
  | (k, a) :: as, bs => by
    cases bs with
    | nil => rfl
    | cons b bs =>
      rw [sameMembers, sameMembers, same_comm a b.2, sameMembers_comm as bs, Bool.beq_comm]

end

mutual

theorem same_trans : {a b c : Json} → a.same b = true → b.same c = true → a.same c = true
  | .null, b, _, hab, hbc => by
    cases b with
    | null => exact hbc
    | bool | num | str | arr | obj => cases hab
  | .bool x, b, _, hab, hbc => by
    cases b with
    | bool y =>
      obtain rfl : x = y := eq_of_beq hab
      exact hbc
    | null | num | str | arr | obj => cases hab
  | .num x, b, c, hab, hbc => by
    cases b with
    | num y =>
      cases c with
      | num z => exact Number.same_trans hab hbc
      | null | bool | str | arr | obj => cases hbc
    | null | bool | str | arr | obj => cases hab
  | .str x, b, _, hab, hbc => by
    cases b with
    | str y =>
      obtain rfl : x = y := eq_of_beq hab
      exact hbc
    | null | bool | num | arr | obj => cases hab
  | .arr items, b, c, hab, hbc => by
    cases b with
    | arr others =>
      cases c with
      | arr thirds => exact sameItems_trans hab hbc
      | null | bool | num | str | obj => cases hbc
    | null | bool | num | str | obj => cases hab
  | .obj members, b, c, hab, hbc => by
    cases b with
    | obj others =>
      cases c with
      | obj thirds => exact sameMembers_trans hab hbc
      | null | bool | num | str | arr => cases hbc
    | null | bool | num | str | arr => cases hab

theorem sameItems_trans : {as bs cs : List Json} → sameItems as bs = true →
    sameItems bs cs = true → sameItems as cs = true
  | [], bs, _, hab, hbc => by
    cases bs with
    | nil => exact hbc
    | cons b bs => cases hab
  | a :: as, bs, cs, hab, hbc => by
    cases bs with
    | nil => cases hab
    | cons b bs =>
      cases cs with
      | nil => cases hbc
      | cons c cs =>
        obtain ⟨hfirst, hothers⟩ := Bool.and_eq_true_iff.mp hab
        obtain ⟨hfirst', hothers'⟩ := Bool.and_eq_true_iff.mp hbc
        exact Bool.and_eq_true_iff.mpr
          ⟨same_trans hfirst hfirst', sameItems_trans hothers hothers'⟩

theorem sameMembers_trans : {as bs cs : List (String × Json)} → sameMembers as bs = true →
    sameMembers bs cs = true → sameMembers as cs = true
  | [], bs, _, hab, hbc => by
    cases bs with
    | nil => exact hbc
    | cons b bs => cases hab
  | (key, a) :: as, bs, cs, hab, hbc => by
    cases bs with
    | nil => cases hab
    | cons b bs =>
      cases cs with
      | nil => cases hbc
      | cons c cs =>
        obtain ⟨hfirst, hothers⟩ := Bool.and_eq_true_iff.mp hab
        obtain ⟨hkey, hvalue⟩ := Bool.and_eq_true_iff.mp hfirst
        obtain ⟨hfirst', hothers'⟩ := Bool.and_eq_true_iff.mp hbc
        obtain ⟨hkey', hvalue'⟩ := Bool.and_eq_true_iff.mp hfirst'
        have hkeys : (key == c.1) = true := by
          rw [eq_of_beq hkey]
          exact hkey'
        exact Bool.and_eq_true_iff.mpr
          ⟨Bool.and_eq_true_iff.mpr ⟨hkeys, same_trans hvalue hvalue'⟩,
            sameMembers_trans hothers hothers'⟩

end

end HttpScenario.Json
