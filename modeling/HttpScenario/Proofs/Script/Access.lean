import HttpScenario.Proofs.Json.Route
import HttpScenario.Proofs.Script.Lexing
import HttpScenario.Proofs.Script.Parsing
import HttpScenario.Script.Eval
/-!
# Accesses

An access is a text that is a path and a script at once: a name, and then members after a dot and
places between brackets.  As a path it spells a route; as a script it is cut into tokens, parsed, and
evaluated from the innermost expression outwards.  Where the route leads to a value, the script has
that value (`evaluate_access`).  Where the route ends early, the script goes on with null, and any
further step fails; only the length of a list or of a text is something that scripts know and paths
do not.

Both sides are brought to one step after the other on a value: `Access.valueAt?_text` for the walk
and `Access.eval_steps` for the script.  What is left is an induction over the steps
(`Access.follows_steps`) with one case for each kind of step (`Access.Step.follows`).
-/

namespace HttpScenario.Script

/-! ### The parts of an access -/

/-- A name that scripts can write. -/
structure Name where
  first : Char
  others : List Char
  starts : startsName first = true
  goesOn : ∀ c ∈ others, continuesName c = true

namespace Name

def chars (name : Name) : List Char :=
  name.first :: name.others

def text (name : Name) : String :=
  String.ofList name.chars

/-- ASCII letters and digits make names. -/
def ofAscii (first : Char) (others : List Char) (hfirst : startsAsciiName first = true)
    (hothers : others.all continuesAsciiName = true) : Name where
  first := first
  others := others
  starts := startsName_of_ascii hfirst
  goesOn := fun c hc => continuesName_of_ascii (List.all_eq_true.mp hothers c hc)

theorem continues (name : Name) {c : Char} (h : c ∈ name.chars) : continuesName c = true := by
  rcases List.mem_cons.mp h with rfl | h
  · exact continuesName_of_startsName name.starts
  · exact name.goesOn c h

/-- What does not go on with a name is in no name. -/
theorem not_mem_chars (name : Name) {c : Char} (hc : continuesName c = false) :
    c ∉ name.chars := by
  intro h
  rw [name.continues h] at hc
  cases hc

theorem writtenAs (name : Name) : (Token.ident name.text).WrittenAs name.chars :=
  .ident name.starts name.goesOn

theorem toList_text (name : Name) : name.text.toList = name.chars :=
  String.toList_ofList

theorem text_ne_empty (name : Name) : name.text ≠ "" := by
  intro h
  have hchars : name.chars = "".toList := by
    rw [← h, name.toList_text]
  cases hchars

/-- A path can be written with names for its keys. -/
theorem isName (name : Name) : Json.IsName name.text where
  ne_empty := name.text_ne_empty
  dot_not_mem := by
    rw [name.toList_text]
    exact name.not_mem_chars (by decide)
  bracket_not_mem := by
    rw [name.toList_text]
    exact name.not_mem_chars (by decide)

/-- Only objects have members under a name. -/
theorem memberAt?_text (name : Name) (value : Json) :
    Json.memberAt? name.text value =
      match value with
      | .obj members => Table.find? name.text members
      | _ => none := by
  have hkey : ¬ name.text.isEmpty = true := by simpa using name.text_ne_empty
  exact if_neg hkey

end Name

namespace Access

/-- A place in a list, in decimal digits.  It is below 2⁵³, where scripts keep every whole number. -/
structure Place where
  digits : List Char
  isDigits : Double.Digits digits
  isSmall : Double.digitsValue digits < 9007199254740992

def Place.value (place : Place) : Nat :=
  Double.digitsValue place.digits

/-- One step further into a value. -/
inductive Step where
  | member (name : Name)
  | item (place : Place)

namespace Step

def chars : Step → List Char
  | member name => '.' :: name.chars
  | item place => Json.bracketed place.digits

def tokens : Step → List Token
  | member name => [.dot, .ident name.text]
  | item place => [.openBracket, .number (Double.ofInt place.value), .closeBracket]

/-- The expression that a step makes of the one before it. -/
def expr (target : Expr) : Step → Expr
  | member name => .member target name.text
  | item place => .index target (.literal (.int place.value))

/-- Where a path leads by a step. -/
def find? (value : Json) : Step → Option Json
  | member name => Json.memberAt? name.text value
  | item place => Json.itemAt? [place.value] value

/-- What a script makes of a value by a step. -/
def get (value : Json) : Step → Except Fault Json
  | member name => property value name.text
  | item place => itemAt value (.int place.value)

/-- Whether a step may ask for a length. -/
def IsLength : Step → Prop
  | member name => name.text = "length"
  | item _ => False

end Step

end Access

/-- A name that stands for a key of the body, and steps from its value on. -/
structure Access where
  root : Name
  isVariable : root.text ∉ reservedNames
  steps : List Access.Step

namespace Access

def chars (access : Access) : List Char :=
  access.root.chars ++ access.steps.flatMap Step.chars

def text (access : Access) : String :=
  String.ofList access.chars

def tokens (access : Access) : List Token :=
  .ident access.root.text :: access.steps.flatMap Step.tokens

def expr (access : Access) : Expr :=
  access.steps.foldl Step.expr (.variable access.root.text)

/-! ### As a path -/

/-- The step into a document that a step is written for. -/
def Step.route : Step → Json.Step
  | member name => .member name.text
  | item place => .item place.value

theorem follow?_route (steps : List Step) (value : Json) :
    Json.follow? (steps.map Step.route) value = steps.foldlM Step.find? value := by
  induction steps generalizing value with
  | nil => rfl
  | cons step steps ih =>
    have hstep : Json.follow? (step.route :: steps.map Step.route) value =
        (step.find? value).bind (Json.follow? (steps.map Step.route)) := by
      cases step with
      | member name => exact Json.follow?_member name.text_ne_empty _ value
      | item place => exact Json.follow?_item place.value _ value
    rw [List.map_cons, hstep, List.foldlM_cons]
    exact congrArg _ (funext ih)

theorem trails_steps (steps : List Step) :
    Json.Trails (steps.map Step.route) (steps.flatMap Step.chars) := by
  induction steps with
  | nil => exact .nil
  | cons step steps ih =>
    cases step with
    | member name =>
      have hmember := ih.member name.isName
      rwa [name.toList_text] at hmember
    | item place => exact ih.item place.isDigits

/-- As a path, an access is walked step by step. -/
theorem valueAt?_text (access : Access) (value : Json) :
    Json.valueAt? (.ofText access.text) value =
      (Json.memberAt? access.root.text value).bind fun found =>
        access.steps.foldlM Step.find? found := by
  have hspells : Json.Spells (.member access.root.text :: access.steps.map Step.route)
      access.text.toList := by
    have hroot := Json.Spells.member access.root.isName (trails_steps access.steps)
    rwa [access.root.toList_text, ← String.toList_ofList (l := access.root.chars ++ _)] at hroot
  rw [hspells.valueAt?, Json.follow?_member access.root.text_ne_empty]
  exact congrArg _ (funext fun found => follow?_route access.steps found)

/-! ### As a script -/

/-- A name ends before a character that it does not go on with. -/
theorem keptApart_cons {c : Char} (hc : continuesName c = false) (name : String)
    (rest : List Char) : (Token.ident name).KeptApart (c :: rest) := by
  refine Or.inr ?_
  rintro ⟨d, more, heq, hcontinues⟩
  obtain ⟨rfl, -⟩ := List.cons.inj heq
  rw [hc] at hcontinues
  cases hcontinues

/-- Steps are cut into their tokens, and a name in front of them does not go on with them. -/
theorem spaced_steps (steps : List Step) {tail rest : List Char} {ts : List Token}
    (h : Spaced tail rest ts) (hapart : ∀ name, (Token.ident name).KeptApart rest) :
    Spaced tail (steps.flatMap Step.chars ++ rest) (steps.flatMap Step.tokens ++ ts) ∧
      ∀ name, (Token.ident name).KeptApart (steps.flatMap Step.chars ++ rest) := by
  induction steps with
  | nil => exact ⟨h, hapart⟩
  | cons step steps ih =>
    obtain ⟨hsteps, hends⟩ := ih
    cases step with
    | member name =>
      have hdot : Token.dot.WrittenAs ['.'] := .mark (fun _ => .double) trivial
      have hname := Spaced.flush name.writtenAs (hends name.text) hsteps
      have hmember := Spaced.flush hdot (Or.inr id) hname
      have hchars : (Step.member name :: steps).flatMap Step.chars ++ rest =
          '.' :: (name.chars ++ (steps.flatMap Step.chars ++ rest)) := by
        simp [Step.chars]
      rw [hchars]
      exact ⟨hmember, fun other => keptApart_cons (by decide) other _⟩
    | item place =>
      have hopen : Token.openBracket.WrittenAs ['['] := .mark (fun _ => .double) trivial
      have hclose : Token.closeBracket.WrittenAs [']'] := .mark (fun _ => .double) trivial
      have hdigits : (Token.number (Double.ofInt place.value)).KeptApart
          ([']'] ++ (steps.flatMap Step.chars ++ rest)) := by
        refine Or.inr ?_
        rintro (hdigit | ⟨more, hpoint, -⟩)
        · exact absurd (show ']'.isDigit = true from hdigit) (by decide)
        · cases hpoint
      have hclosed := Spaced.flush hclose (Or.inr id) hsteps
      have hnumber := Spaced.flush (writtenAs_digits place.isDigits) hdigits hclosed
      have hitem := Spaced.flush hopen (Or.inr id) hnumber
      have hchars : (Step.item place :: steps).flatMap Step.chars ++ rest =
          '[' :: (place.digits ++ ([']'] ++ (steps.flatMap Step.chars ++ rest))) := by
        simp [Step.chars, Json.bracketed]
      rw [hchars]
      exact ⟨hitem, fun other => keptApart_cons (by decide) other _⟩

/-- An access in front of what a name does not go on with is cut into its tokens. -/
theorem spaced (access : Access) {tail rest : List Char} {ts : List Token}
    (h : Spaced tail rest ts) (hapart : ∀ name, (Token.ident name).KeptApart rest) :
    Spaced tail (access.chars ++ rest) (access.tokens ++ ts) := by
  obtain ⟨hsteps, hends⟩ := spaced_steps access.steps h hapart
  have hroot := Spaced.flush access.root.writtenAs (hends access.root.text) hsteps
  rw [← List.append_assoc] at hroot
  exact hroot

theorem derives_steps {n : Nat} (steps : List Step) {ts : List Token} {target : Expr}
    (h : Derives (n + 1) .steps ts target) :
    Derives (n + 1) .steps (ts ++ steps.flatMap Step.tokens) (steps.foldl Step.expr target) := by
  induction steps generalizing ts target with
  | nil =>
    rw [List.flatMap_nil, List.append_nil]
    exact h
  | cons step steps ih =>
    rw [List.flatMap_cons, ← List.append_assoc, List.foldl_cons]
    apply ih
    cases step with
    | member name => exact .member name.text h
    | item place =>
      have hnumber : Derives n .primary [.number (Double.ofInt place.value)]
          (.literal (.int place.value)) := by
        have hvalue := numberValue_ofInt place.isSmall
        rw [show Json.int place.value = numberValue (Double.ofInt place.value) from hvalue.symm]
        exact .number n _
      exact .index h (hnumber.loosen (Nat.zero_le _))

/-- The tokens of an access write its expression, with one bracket around any point. -/
theorem derives (access : Access) : Derives 1 .steps access.tokens access.expr :=
  derives_steps access.steps ((Derives.otherName 1 access.isVariable).loosen (by decide))

theorem eval_steps (body : Json.Object) (steps : List Step) (target : Expr) :
    eval body (steps.foldl Step.expr target) =
      eval body target >>= fun value => steps.foldlM Step.get value := by
  induction steps generalizing target with
  | nil => simp
  | cons step steps ih =>
    have hstep : eval body (Step.expr target step) =
        eval body target >>= fun value => step.get value := by
      cases step <;> rfl
    rw [List.foldl_cons, ih, hstep, bind_assoc]
    rfl

/-- As a script, an access has the value of its expression. -/
theorem evaluate_text (access : Access) (hlimit : access.tokens.length ≤ maxTokens)
    (body : Json.Object) : evaluate access.text body = eval body access.expr := by
  have hnone : Blanks [] := nofun
  have hspaced : Spaced [] access.text.toList access.tokens := by
    have hall := access.spaced (.nil hnone) fun name => (Token.ident name).keptApart_nil
    rwa [List.append_nil, List.append_nil, ← String.toList_ofList (l := access.chars)] at hall
  exact evaluate_of_spaced hspaced hlimit (access.derives.loosen (Nat.zero_le _)) (by decide) body

/-! ### Both sides -/

/-- What a script comes to follows what a path leads to: the value if there is one, and otherwise,
unless a length may have been asked for, null or a property of null that was asked for. -/
structure Follows (isPlain : Prop) (found : Option Json) (got : Except Fault Json) : Prop where
  ok_of_some : ∀ value, found = some value → got = .ok value
  null_of_none : found = none → isPlain → got = .ok .null ∨ ∃ key, got = .error (.nullAccess key)

theorem placeOf?_natCast (n : Nat) : placeOf? (.whole n) = some n := by
  have hsign : ¬ (n : Int) < 0 := by omega
  simp [placeOf?, Json.Number.toNat?, hsign]

/-- Null has no properties and no items. -/
theorem Step.get_null (step : Step) : ∃ key, step.get Json.null = .error (.nullAccess key) := by
  cases step with
  | member name => exact ⟨name.text, rfl⟩
  | item place => exact ⟨(Json.int place.value).compact, rfl⟩

/-- A script takes each step like a path. -/
theorem Step.follows (step : Step) (value : Json) :
    Follows (¬ step.IsLength) (step.find? value) (step.get value) := by
  cases step with
  | member name =>
    rw [find?, name.memberAt?_text]
    cases value with
    | obj members =>
      show Follows _ (Table.find? name.text members)
        (.ok ((Table.find? name.text members).getD .null))
      cases Table.find? name.text members with
      | none => exact ⟨nofun, fun _ _ => Or.inl rfl⟩
      | some found => exact ⟨fun _ hfound => by rw [hfound]; rfl, nofun⟩
    | null => exact ⟨nofun, fun _ _ => Or.inr ⟨name.text, rfl⟩⟩
    | bool value => exact ⟨nofun, fun _ _ => Or.inl rfl⟩
    | num n => exact ⟨nofun, fun _ _ => Or.inl rfl⟩
    | str s =>
      refine ⟨nofun, fun _ hplain => Or.inl ?_⟩
      exact congrArg Except.ok (if_neg hplain)
    | arr items =>
      refine ⟨nofun, fun _ hplain => Or.inl ?_⟩
      exact congrArg Except.ok (if_neg hplain)
  | item place =>
    cases value with
    | arr items =>
      have hget : Step.get (.arr items) (.item place) =
          .ok ((items[place.value]?).getD .null) := by
        show Except.ok (((placeOf? (.whole place.value)).bind fun place => items[place]?).getD
          Json.null) = _
        rw [placeOf?_natCast]
        rfl
      rw [hget, show Step.find? (.arr items) (.item place) = _ from Json.itemAt?_arr _ items]
      cases items[place.value]? with
      | none => exact ⟨nofun, fun _ _ => Or.inl rfl⟩
      | some found => exact ⟨fun _ hfound => by rw [hfound]; rfl, nofun⟩
    | null => exact ⟨nofun, fun _ _ => Or.inr ⟨_, rfl⟩⟩
    | bool value => exact ⟨nofun, fun _ _ => Or.inl rfl⟩
    | num n => exact ⟨nofun, fun _ _ => Or.inl rfl⟩
    | str s => exact ⟨nofun, fun _ _ => Or.inl rfl⟩
    | obj members => exact ⟨nofun, fun _ _ => Or.inl rfl⟩

/-- Once a script has gone on with null or failed, it does not come to anything else. -/
theorem steps_after_null (steps : List Step) {got : Except Fault Json}
    (h : got = .ok .null ∨ ∃ key, got = .error (.nullAccess key)) :
    (got >>= fun value => steps.foldlM Step.get value) = .ok .null ∨
      ∃ key, (got >>= fun value => steps.foldlM Step.get value) = .error (.nullAccess key) := by
  rcases h with rfl | ⟨key, rfl⟩
  · cases steps with
    | nil => exact Or.inl rfl
    | cons step steps =>
      obtain ⟨key, hkey⟩ := step.get_null
      refine Or.inr ⟨key, ?_⟩
      show (step.get Json.null >>= fun value => steps.foldlM Step.get value) = _
      rw [hkey]
      rfl
  · exact Or.inr ⟨key, rfl⟩

/-- A script takes all steps like a path. -/
theorem follows_steps (steps : List Step) (value : Json) :
    Follows (∀ step ∈ steps, ¬ step.IsLength) (steps.foldlM Step.find? value)
      (steps.foldlM Step.get value) := by
  induction steps generalizing value with
  | nil => exact ⟨fun _ hfound => congrArg Except.ok (Option.some.inj hfound), nofun⟩
  | cons step steps ih =>
    have hstep := step.follows value
    rw [List.foldlM_cons, List.foldlM_cons]
    cases hfind : step.find? value with
    | some next =>
      rw [hstep.ok_of_some next hfind]
      obtain ⟨hok, hnull⟩ := ih next
      exact ⟨hok, fun hnone hplain => hnull hnone (List.forall_mem_cons.mp hplain).2⟩
    | none =>
      refine ⟨nofun, fun _ hplain => ?_⟩
      apply steps_after_null
      exact hstep.null_of_none hfind (List.forall_mem_cons.mp hplain).1

/-- The expression of an access follows its path. -/
theorem eval_expr (access : Access) (body : Json.Object) :
    (∀ value, Json.valueAt? (.ofText access.text) (.obj body) = some value →
      eval body access.expr = .ok value) ∧
    (Json.valueAt? (.ofText access.text) (.obj body) = none →
      (∀ step ∈ access.steps, ¬ step.IsLength) →
      eval body access.expr = .ok .null ∨
        eval body access.expr = .error (.undefined access.root.text) ∨
        ∃ key, eval body access.expr = .error (.nullAccess key)) := by
  rw [access.valueAt?_text, access.root.memberAt?_text, expr, eval_steps, eval]
  dsimp only
  cases body.find? access.root.text with
  | none => exact ⟨nofun, fun _ _ => Or.inr (Or.inl rfl)⟩
  | some value =>
    obtain ⟨hok, hnull⟩ := follows_steps access.steps value
    refine ⟨hok, fun hnone hplain => ?_⟩
    rcases hnull hnone hplain with hgot | hgot
    · exact Or.inl hgot
    · exact Or.inr (Or.inr hgot)

end Access

/-- A script that is also a path has the value that the path leads to.  If the path leads to no value
and no step is named like the length of a list, the script is null, or its first name is no key of
the body, or it asks for a property of null. -/
theorem evaluate_access (access : Access) (hlimit : access.tokens.length ≤ maxTokens)
    (body : Json.Object) :
    (∀ value, Json.valueAt? (.ofText access.text) (.obj body) = some value →
      evaluate access.text body = .ok value) ∧
    (Json.valueAt? (.ofText access.text) (.obj body) = none →
      (∀ step ∈ access.steps, ¬ step.IsLength) →
      evaluate access.text body = .ok .null ∨
        evaluate access.text body = .error (.undefined access.root.text) ∨
        ∃ key, evaluate access.text body = .error (.nullAccess key)) := by
  rw [access.evaluate_text hlimit]
  exact access.eval_expr body

/-- A list under a key, a place in it with a zero in front, and a member of the item. -/
def Access.memberOfItem : Access where
  root := .ofAscii 'i' ['d', 's'] (by decide) (by decide)
  isVariable := by decide
  steps :=
    [.item ⟨['0', '1'], .cons (by decide) (List.forall_mem_singleton.mpr (by decide)), by decide⟩,
      .member (.ofAscii 'n' ['o'] (by decide) (by decide))]

/-- With the item the script has its member, and without it the script asks null for one. -/
theorem evaluate_access_of_memberOfItem :
    Access.memberOfItem.text = "ids[01].no" ∧ Access.memberOfItem.tokens.length ≤ maxTokens ∧
      evaluate "ids[01].no" [("ids", .arr [.null, .obj [("no", .bool true)]])] =
        .ok (.bool true) ∧
      (∀ step ∈ Access.memberOfItem.steps, ¬ step.IsLength) ∧
      (evaluate "ids[01].no" [("ids", .arr [])] = .ok .null ∨
        evaluate "ids[01].no" [("ids", .arr [])] = .error (.undefined "ids") ∨
        ∃ key, evaluate "ids[01].no" [("ids", .arr [])] = .error (.nullAccess key)) := by
  have hlimit : Access.memberOfItem.tokens.length ≤ maxTokens := by decide
  have hplain : ∀ step ∈ Access.memberOfItem.steps, ¬ step.IsLength := by
    simp [Access.memberOfItem, Access.Step.IsLength, Name.ofAscii, Name.text,
      Name.chars]
  have hfound := (evaluate_access .memberOfItem hlimit
    [("ids", .arr [.null, .obj [("no", .bool true)]])]).1 (.bool true)
  have hmissing := (evaluate_access .memberOfItem hlimit [("ids", .arr [])]).2
  rw [Access.valueAt?_text] at hfound hmissing
  exact ⟨rfl, hlimit, hfound rfl, hplain, hmissing rfl hplain⟩

end HttpScenario.Script
