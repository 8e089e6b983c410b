import HttpScenario.Proofs.Script.Counting
import HttpScenario.Proofs.Script.Spacing
import HttpScenario.Script.Eval
/-!
# How far parsing and evaluating go

Parsing goes down at most as many levels as may be nested; that says nothing about the tree that it
gives, since a chain of operators or steps makes a tree that is as high as the chain is long and opens
no level.  What bounds the tree is its size: each node of it is written by a token of its own
(`Derives.nodes_le`), of which a source has no more than the limit (`length_le_of_tokenize`).

A tree is not higher than it is large, and evaluating a tree takes no more calls inside one another
than it is high.  The latter is said of an evaluation that gives nothing if that many calls are not
enough (`evalWithin`): it gives what `eval` does.
-/

namespace HttpScenario.Script

/-! ### The size of a tree -/

namespace Expr

/-- How many nodes a tree has. -/
def nodes : Expr → Nat
  | .literal _ | .variable _ => 1
  | .member target _ => target.nodes + 1
  | .index target key => target.nodes + key.nodes + 1
  | .not operand | .neg operand => operand.nodes + 1
  | .and left right | .or left right | .compare _ left right => left.nodes + right.nodes + 1

/-- How many nodes lie on the longest way down a tree. -/
def height : Expr → Nat
  | .literal _ | .variable _ => 1
  | .member target _ => target.height + 1
  | .index target key => max target.height key.height + 1
  | .not operand | .neg operand => operand.height + 1
  | .and left right | .or left right | .compare _ left right => max left.height right.height + 1

theorem height_le_nodes (e : Expr) : e.height ≤ e.nodes := by
  induction e with
  | literal value => exact Nat.le_refl 1
  | «variable» name => exact Nat.le_refl 1
  | member target name ih => exact Nat.succ_le_succ ih
  | not operand ih => exact Nat.succ_le_succ ih
  | neg operand ih => exact Nat.succ_le_succ ih
  | index left right ihleft ihright | and left right ihleft ihright
  | or left right ihleft ihright | compare op left right ihleft ihright =>
    simp only [height, nodes]
    omega

theorem height_pos (e : Expr) : 0 < e.height := by
  cases e <;> exact Nat.succ_pos _

end Expr

theorem Operator.nodes_eq {place : Level} {t : Token} {build : Expr → Expr → Expr}
    (h : Operator place t build) (left right : Expr) :
    (build left right).nodes = left.nodes + right.nodes + 1 := by
  cases h <;> rfl

/-- Each node is written by a token of its own. -/
theorem Derives.nodes_le {n : Nat} {place : Level} {ts : List Token} {e : Expr}
    (h : Derives n place ts e) : e.nodes ≤ ts.length := by
  induction h with
  | tighter _ _ ih => exact ih
  | binary hop _ _ _ ihleft ihright =>
    rw [hop.nodes_eq, List.length_append, List.length_cons]
    omega
  | not _ ih => exact Nat.succ_le_succ ih
  | neg _ ih => exact Nat.succ_le_succ ih
  | member name _ ih =>
    rw [Expr.nodes, List.length_append]
    exact Nat.add_le_add ih (Nat.le_succ 1)
  | index _ _ ihtarget ihkey =>
    simp only [Expr.nodes, List.length_append, List.length_cons, List.length_nil]
    omega
  | parens _ ih =>
    simp only [List.length_append, List.length_cons, List.length_nil]
    omega
  | number | text | trueName | falseName | nullName | undefinedName | otherName =>
    exact Nat.le_refl 1

/-! ### Evaluating with so many calls inside one another -/

/-- The value of an expression if evaluating it takes at most so many calls inside one another, and
nothing if it takes more. -/
def evalWithin (body : Json.Object) : (levels : Nat) → Expr → ExceptT Fault Option Json
  | 0, _ => ExceptT.mk none
  | _ + 1, .literal value => ExceptT.mk (some (.ok value))
  | _ + 1, .variable name =>
    match body.find? name with
    | some value => ExceptT.mk (some (.ok value))
    | none => ExceptT.mk (some (.error (.undefined name)))
  | levels + 1, .member target name => do
    let target ← evalWithin body levels target
    ExceptT.mk (some (property target name))
  | levels + 1, .index target key => do
    let target ← evalWithin body levels target
    let key ← evalWithin body levels key
    ExceptT.mk (some (itemAt target key))
  | levels + 1, .not operand => do
    let value ← evalWithin body levels operand
    ExceptT.mk (some (.ok (.bool (!truthy value))))
  | levels + 1, .neg operand => do
    let value ← evalWithin body levels operand
    ExceptT.mk (some (negate value))
  | levels + 1, .and left right => do
    let value ← evalWithin body levels left
    if truthy value then evalWithin body levels right else ExceptT.mk (some (.ok value))
  | levels + 1, .or left right => do
    let value ← evalWithin body levels left
    if truthy value then ExceptT.mk (some (.ok value)) else evalWithin body levels right
  | levels + 1, .compare op left right => do
    let a ← evalWithin body levels left
    let b ← evalWithin body levels right
    ExceptT.mk (some (.ok (.bool (op.holds a b))))

/-- One part after the other comes to what the steps do, if both parts do. -/
theorem within_bind {within : ExceptT Fault Option Json} {more : Json → ExceptT Fault Option Json}
    {step : Except Fault Json} {rest : Json → Except Fault Json}
    (hwithin : within = ExceptT.mk (some step))
    (hmore : ∀ value, more value = ExceptT.mk (some (rest value))) :
    within >>= more = ExceptT.mk (some (step >>= rest)) := by
  rw [hwithin]
  cases step with
  | error fault => rfl
  | ok value => exact hmore value

/-- As many calls inside one another as the tree is high are enough. -/
theorem evalWithin_eq (body : Json.Object) {levels : Nat} {e : Expr} (h : e.height ≤ levels) :
    evalWithin body levels e = ExceptT.mk (some (eval body e)) := by
  induction levels generalizing e with
  | zero => exact absurd h (Nat.not_le_of_lt e.height_pos)
  | succ levels ih =>
    cases e with
    | literal value => rfl
    | «variable» name =>
      rw [evalWithin, eval]
      cases body.find? name <;> rfl
    | member target name => exact within_bind (ih (Nat.le_of_succ_le_succ h)) fun _ => rfl
    | not operand => exact within_bind (ih (Nat.le_of_succ_le_succ h)) fun _ => rfl
    | neg operand => exact within_bind (ih (Nat.le_of_succ_le_succ h)) fun _ => rfl
    | index target key =>
      obtain ⟨htarget, hkey⟩ := Nat.max_le.mp (Nat.le_of_succ_le_succ h)
      exact within_bind (ih htarget) fun _ => within_bind (ih hkey) fun _ => rfl
    | compare op left right =>
      obtain ⟨hleft, hright⟩ := Nat.max_le.mp (Nat.le_of_succ_le_succ h)
      exact within_bind (ih hleft) fun _ => within_bind (ih hright) fun _ => rfl
    | and left right =>
      obtain ⟨hleft, hright⟩ := Nat.max_le.mp (Nat.le_of_succ_le_succ h)
      refine within_bind (ih hleft) fun value => ?_
      rw [ih hright]
      split <;> rfl
    | or left right =>
      obtain ⟨hleft, hright⟩ := Nat.max_le.mp (Nat.le_of_succ_le_succ h)
      refine within_bind (ih hleft) fun value => ?_
      rw [ih hright]
      split <;> rfl

example (body : Json.Object) : (evalWithin body 1 (.not (.literal .null))).run = none := rfl

/-! ### From a source to its value -/

/-- While the tokens of a source are parsed, the depth is never above its limit, each part that comes
to a result leaves it as it was, and the position never goes back and never further than one past the
end.  If that gives a tree, it has at most as many nodes as there are tokens, which are at most as
many as the limit, and evaluating it takes no more calls inside one another than that. -/
theorem parse_within_limits (source : String) (ts : List Token) (h : tokenize source = .ok ts) :
    (Counting.parse ts .start).1 = parse ts ∧ (Counting.parse ts .start).2.Kept ts ∧
      ∀ e, parse ts = .ok e →
        e.nodes ≤ ts.length ∧ ts.length ≤ maxTokens ∧ e.height ≤ e.nodes ∧
          ∀ body, (evalWithin body maxTokens e).run = some (eval body e) := by
  obtain ⟨hresult, hkept⟩ := Counting.parse_trail ts
  refine ⟨hresult, hkept, ?_⟩
  intro e hparse
  have hnodes : e.nodes ≤ ts.length := (parse_eq_ok_iff.mp hparse).nodes_le
  have htokens : ts.length ≤ maxTokens := length_le_of_tokenize h
  have hheight : e.height ≤ maxTokens := e.height_le_nodes.trans (hnodes.trans htokens)
  exact ⟨hnodes, htokens, e.height_le_nodes, fun body => evalWithin_eq body hheight⟩

/-- The three tokens of a comparison give a tree of three nodes. -/
theorem parse_within_limits_of_sample :
    tokenize "\tid <='it\\'s' " = .ok [.ident "id", .lessEqual, .text "it's"] ∧
      parse [.ident "id", .lessEqual, .text "it's"] =
        .ok (.compare .lessEqual (.variable "id") (.literal (.str "it's"))) ∧
      (Counting.parse [.ident "id", .lessEqual, .text "it's"] .start).2.Kept
        [.ident "id", .lessEqual, .text "it's"] ∧
      ∀ body, (evalWithin body maxTokens
        (.compare .lessEqual (.variable "id") (.literal (.str "it's")))).run =
          some (eval body (.compare .lessEqual (.variable "id") (.literal (.str "it's")))) := by
  have hless : [Token.ident "id", .lessEqual, .text "it's"].length < maxTokens := by decide
  have hsource : tokenize "\tid <='it\\'s' " = .ok [.ident "id", .lessEqual, .text "it's"] :=
    spaced_sample.tokenize_eq.trans (if_pos (Or.inl hless))
  have hparse : parse [.ident "id", .lessEqual, .text "it's"] =
      .ok (.compare .lessEqual (.variable "id") (.literal (.str "it's"))) := by
    rfl
  obtain ⟨-, hkept, hbounds⟩ := parse_within_limits _ _ hsource
  obtain ⟨-, -, -, heval⟩ := hbounds _ hparse
  exact ⟨hsource, hparse, hkept, heval⟩

end HttpScenario.Script
