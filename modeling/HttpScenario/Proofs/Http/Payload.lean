import HttpScenario.Proofs.Http.Build
import HttpScenario.Proofs.Json.Compact
/-!
# The body of a request

A structured payload is sent as a document, and whoever reads that document finds the payload again
(`Request.body_of_build`): the same keys in every object, the same lists, numbers, truth values and
nulls, and in place of a text that is reached through objects alone the text with its placeholders
resolved.  Texts are resolved before the document is written, so that a cached value is text in it
whatever characters it has.  Texts in lists are not resolved.

Resolving is a recursion over the payload.  It keeps the keys of every object
(`Template.keys_resolveMembers`), and so whatever holds of all objects because of their keys, whatever
holds of all numbers, and the depth; this is what reading back a document depends on.
-/

namespace HttpScenario

/-- The keys of a table decide whether it is sorted. -/
theorem Table.sorted_iff_keys {α : Type} {table : Table α} :
    Table.Sorted table ↔ (Table.keys table).Pairwise (· < ·) :=
  List.pairwise_map.symm

/-- The value that some keys lead to, each a key of the object that the ones before it lead to. -/
def Json.below? : List String → Json → Option Json
  | [], value => some value
  | key :: keys, .obj members =>
    match Table.find? key members with
    | some member => below? keys member
    | none => none
  | _ :: _, _ => none

namespace Template

/-- What a value is once its placeholders are resolved.  Of an object only the keys are looked at. -/
inductive ResolvesTo (cache : Cache) : Json → Json → Prop
  | text (s : String) : ResolvesTo cache (.str s) (.str (resolve s cache))
  | object {members resolved : Json.Object} (hkeys : Table.keys resolved = Table.keys members) :
      ResolvesTo cache (.obj members) (.obj resolved)
  | list (items : List Json) : ResolvesTo cache (.arr items) (.arr items)
  | number (n : Json.Number) : ResolvesTo cache (.num n) (.num n)
  | bool (value : Bool) : ResolvesTo cache (.bool value) (.bool value)
  | null : ResolvesTo cache .null .null

variable (cache : Cache)

theorem rel_text_iff {s : String} {found : Option Json} :
    Option.Rel (ResolvesTo cache) (some (.str s)) found ↔
      found = some (.str (resolve s cache)) := by
  constructor
  · rintro (⟨⟨⟩⟩ | -)
    rfl
  · rintro rfl
    exact .some (.text s)

theorem rel_list_iff {items : List Json} {found : Option Json} :
    Option.Rel (ResolvesTo cache) (some (.arr items)) found ↔ found = some (.arr items) := by
  constructor
  · rintro (⟨⟨⟩⟩ | -)
    rfl
  · rintro rfl
    exact .some (.list items)

/-! ### What resolving keeps -/

theorem keys_resolveMembers (members : Json.Object) :
    Table.keys (resolveMembers cache members) = Table.keys members := by
  induction members with
  | nil => rfl
  | cons member members ih =>
    obtain ⟨key, value⟩ := member
    exact congrArg (key :: ·) ih

theorem find?_resolveMembers (key : String) (members : Json.Object) :
    Table.find? key (resolveMembers cache members) =
      (Table.find? key members).map (resolveValue cache) := by
  induction members with
  | nil => rfl
  | cons member members ih =>
    obtain ⟨k, value⟩ := member
    rw [resolveMembers, Table.find?, Table.find?]
    split
    · rfl
    · exact ih

section all

variable {number : Json.Number → Prop} {object : Json.Object → Prop}

mutual

/-- What holds of all numbers and all objects still holds, if it holds of an object whose texts are
resolved. -/
theorem all_resolveValue
    (hobject : ∀ members, object members → object (resolveMembers cache members)) :
    (v : Json) → v.All number object → (resolveValue cache v).All number object
  | .null, h => h
  | .bool _, h => h
  | .num _, h => h
  | .str _, _ => trivial
  | .arr _, h => h
  | .obj members, h => ⟨hobject members h.1, allMembers_resolveMembers hobject members h.2⟩

theorem allMembers_resolveMembers
    (hobject : ∀ members, object members → object (resolveMembers cache members)) :
    (members : List (String × Json)) → Json.AllMembers number object members →
      Json.AllMembers number object (resolveMembers cache members)
  | [], h => h
  | (_, v) :: members, h =>
    ⟨all_resolveValue hobject v h.1, allMembers_resolveMembers hobject members h.2⟩

end

end all

theorem tables_resolveValue {v : Json} (h : v.Tables) : (resolveValue cache v).Tables := by
  refine all_resolveValue cache ?_ v h
  intro members hsorted
  rw [Table.sorted_iff_keys, keys_resolveMembers]
  exact Table.sorted_iff_keys.mp hsorted

theorem exact_resolveValue {v : Json} (h : v.Exact) : (resolveValue cache v).Exact :=
  all_resolveValue cache (fun _ => id) v h

mutual

theorem depth_resolveValue : (v : Json) → (resolveValue cache v).depth = v.depth
  | .null => rfl
  | .bool _ => rfl
  | .num _ => rfl
  | .str _ => rfl
  | .arr _ => rfl
  | .obj members => congrArg (· + 1) (depth_resolveMembers members)

theorem depth_resolveMembers : (members : List (String × Json)) →
    Json.membersDepth (resolveMembers cache members) = Json.membersDepth members
  | [] => rfl
  | (_, v) :: members => congrArg₂ max (depth_resolveValue v) (depth_resolveMembers members)

end

/-! ### What resolving changes -/

theorem resolvesTo_resolveValue (v : Json) : ResolvesTo cache v (resolveValue cache v) := by
  cases v with
  | null => exact .null
  | bool value => exact .bool value
  | num n => exact .number n
  | str s => exact .text s
  | arr items => exact .list items
  | obj members => exact .object (keys_resolveMembers cache members)

/-- Resolving neither opens nor closes a way through objects, and at its end there is what becomes
of the value that was there. -/
theorem below?_resolveValue (keys : List String) (v : Json) :
    Option.Rel (ResolvesTo cache) (v.below? keys) ((resolveValue cache v).below? keys) := by
  induction keys generalizing v with
  | nil => exact .some (resolvesTo_resolveValue cache v)
  | cons key keys ih =>
    cases v with
    | obj members =>
      rw [resolveValue, Json.below?, Json.below?, find?_resolveMembers]
      cases Table.find? key members with
      | none => exact .none
      | some member => exact ih member
    | null | bool | num | str | arr => exact .none

end Template

/-- The body of a request that has been built.  A structured payload is read back from it with the
same keys in every object and the same values at the end of each way through objects, but for the
texts there, which are resolved.  A raw payload is sent as it is. -/
theorem Request.body_of_build {request : Request} {cache : Cache} {built : OutboundRequest}
    (hbuilt : request.build cache = .ok built) :
    (∀ members, request.payload = some (.structured members) → (Json.obj members).Tables →
      (Json.obj members).Exact → (Json.obj members).depth ≤ Json.maxLevels →
      ∃ body document, built.body = some body ∧ Json.parse body = .ok document ∧
        ∀ keys, Option.Rel (Template.ResolvesTo cache) ((Json.obj members).below? keys)
          (document.below? keys)) ∧
    ∀ text, request.payload = some (.raw text) → built.body = some (Utf8.encode text) := by
  obtain rfl := Request.eq_outbound_of_build hbuilt
  constructor
  · intro members hpayload htables hexact hdepth
    have hbody : (request.outbound cache).body =
        some (Utf8.encode (Template.resolveValue cache (.obj members)).compact) := by
      rw [outbound, hpayload]
      rfl
    have hread : Json.parse (Utf8.encode (Template.resolveValue cache (.obj members)).compact) =
        .ok (Template.resolveValue cache (.obj members)) := by
      apply Json.parseText_compact
      · exact Template.tables_resolveValue cache htables
      · exact Template.exact_resolveValue cache hexact
      · rw [Template.depth_resolveValue]
        exact hdepth
    exact ⟨_, _, hbody, hread, fun keys => Template.below?_resolveValue cache keys _⟩
  · intro text hpayload
    rw [outbound, hpayload]
    rfl

/-- A payload with one placeholder twice, once in a list. -/
def Request.withPlaceholders : Request where
  url := "x:y"
  payload := some (.structured
    [("list", .arr [.str "\x7bk.t\x7d"]), ("o", .obj [("t", .str "\x7bk.t\x7d")])])

/-- A body whose text is a quote and a closing brace. -/
def Cache.ofQuote : Cache :=
  Cache.empty.insert "k" (Utf8.encode "\x7b\"t\":\"\\\"\\u007d\"\x7d")

/-- The quote and the brace come back as a text in the object, and the list is as it was. -/
theorem Request.body_of_build_of_quote :
    ∃ built body document, Request.withPlaceholders.build Cache.ofQuote = .ok built ∧
      built.body = some body ∧ Json.parse body = .ok document ∧
      document.below? ["o", "t"] = some (.str "\"\x7d") ∧
      document.below? ["list"] = some (.arr [.str "\x7bk.t\x7d"]) := by
  have hbuilt : Request.withPlaceholders.build Cache.ofQuote =
      .ok (Request.withPlaceholders.outbound Cache.ofQuote) := by
    decide +kernel
  have htables : (Json.obj [("list", .arr [.str "\x7bk.t\x7d"]),
      ("o", .obj [("t", .str "\x7bk.t\x7d")])]).Tables := by
    have hsorted : Table.Sorted [("list", Json.arr [.str "\x7bk.t\x7d"]),
        ("o", .obj [("t", .str "\x7bk.t\x7d")])] := List.pairwise_pair.mpr (by decide)
    exact ⟨hsorted, ⟨trivial, trivial⟩, ⟨List.pairwise_singleton _ _, trivial, trivial⟩, trivial⟩
  have hexact : (Json.obj [("list", .arr [.str "\x7bk.t\x7d"]),
      ("o", .obj [("t", .str "\x7bk.t\x7d")])]).Exact :=
    ⟨trivial, ⟨trivial, trivial⟩, ⟨trivial, trivial, trivial⟩, trivial⟩
  have htext : Template.resolve "\x7bk.t\x7d" Cache.ofQuote = "\"\x7d" := by decide +kernel
  obtain ⟨body, document, hbody, hread, hbelow⟩ :=
    (body_of_build hbuilt).1 _ rfl htables hexact (by decide)
  have hquote := (Template.rel_text_iff Cache.ofQuote).mp (hbelow ["o", "t"])
  have hlist := (Template.rel_list_iff Cache.ofQuote).mp (hbelow ["list"])
  rw [htext] at hquote
  exact ⟨_, body, document, hbuilt, hbody, hread, hquote, hlist⟩

end HttpScenario
