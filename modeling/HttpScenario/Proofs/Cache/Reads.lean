import HttpScenario.Assertion.Evaluator
import HttpScenario.Http.Outbound
import HttpScenario.Proofs.Template.InPlace
/-!
# What is read of the cache

A placeholder names the key that stands before its first dot, and nothing else of the cache is read
for it.  So what becomes of a text depends on the bodies under the keys that its own placeholders
name (`Template.Names`), and two caches that agree there (`Cache.AgreeOn`) make the same of it.  The
bodies may hold anything, placeholders included: the placeholders to be replaced are those of the
text as it was given, so that what is put in cannot name a key.

The main statement, `decided_by_named_keys`, says so of requests and of expressions.  A request
names the keys of its address, of the values of its headers, and of the texts in a structured
payload that are reached through objects alone (`Json.Holds`).  Names of headers, keys of objects,
texts in lists and raw payloads name nothing.
-/

namespace HttpScenario

/-- Two caches have the same body under each of some keys, or both have none there. -/
def Cache.AgreeOn (keys : String → Prop) (cache other : Cache) : Prop :=
  ∀ key, keys key → cache.get? key = other.get? key

theorem Cache.AgreeOn.mono {keys fewer : String → Prop} {cache other : Cache}
    (h : cache.AgreeOn keys other) (hfewer : ∀ key, fewer key → keys key) :
    cache.AgreeOn fewer other := by
  intro key hkey
  exact h key (hfewer key hkey)

theorem Cache.lookup_congr {key : String} {cache other : Cache}
    (h : cache.get? key = other.get? key) (path : Json.Path) :
    cache.lookup key path = other.lookup key path := by
  unfold Cache.lookup
  rw [h]

/-! ### Texts -/

theorem Text.pieces_eq_cons (sep : Char) (cs : List Char) :
    ∃ more, pieces sep cs = cs.takeWhile (· != sep) :: more := by
  induction cs with
  | nil => exact ⟨[], rfl⟩
  | cons c cs ih =>
    obtain ⟨more, hmore⟩ := ih
    by_cases hc : c = sep
    · exact ⟨pieces sep cs, by simp [pieces, hc]⟩
    · exact ⟨more, by simp [pieces, hc, hmore]⟩

namespace Template

/-- The key that is named between braces: what stands before the first dot. -/
def keyOf (inner : List Char) : String :=
  String.ofList (inner.takeWhile (· != '.'))

/-- A placeholder of the text names the key. -/
def Names (text key : String) : Prop :=
  ∃ ps inner, Cut text.toList ps ∧ .hole inner ∈ ps ∧ key = keyOf inner

theorem mem_holes_iff {cs inner : List Char} : inner ∈ holes cs ↔ .hole inner ∈ parts cs := by
  rw [holes_eq, List.mem_filterMap]
  constructor
  · rintro ⟨part, hpart, hinner⟩
    cases part with
    | plain c => cases hinner
    | hole found =>
      obtain rfl := Option.some.inj hinner
      exact hpart
  · intro hpart
    exact ⟨.hole inner, hpart, rfl⟩

theorem names_iff {text key : String} :
    Names text key ↔ ∃ inner ∈ holes text.toList, key = keyOf inner := by
  constructor
  · rintro ⟨ps, inner, hcut, hmem, hkey⟩
    rw [cut_iff.mp hcut, ← mem_holes_iff] at hmem
    exact ⟨inner, hmem, hkey⟩
  · rintro ⟨inner, hmem, hkey⟩
    exact ⟨_, inner, cut_parts text.toList, mem_holes_iff.mp hmem, hkey⟩

/-- The only placeholder of a text names the only key. -/
theorem eq_keyOf_of_names {text key : String} {inner : List Char}
    (hholes : holes text.toList = [inner]) (h : Names text key) : key = keyOf inner := by
  obtain ⟨found, hfound, hkey⟩ := names_iff.mp h
  rw [hholes, List.mem_singleton] at hfound
  rw [hkey, hfound]

section congr

variable {cache other : Cache}

/-- A placeholder reads the body under its key. -/
theorem value?_congr {inner : List Char}
    (h : cache.get? (keyOf inner) = other.get? (keyOf inner)) :
    value? cache inner = value? other inner := by
  obtain ⟨path, hpath⟩ := Text.pieces_eq_cons '.' inner
  unfold value?
  rw [hpath, List.map_cons]
  exact Cache.lookup_congr h _

/-- What becomes of a text depends on the bodies under the keys that it names. -/
theorem resolve_congr {text : String} (h : cache.AgreeOn (Names text) other) :
    resolve text cache = resolve text other := by
  unfold resolve
  apply congrArg String.ofList
  apply List.foldl_ext
  intro built inner hinner
  have hvalue : value? cache inner = value? other inner :=
    value?_congr (h _ (names_iff.mpr ⟨inner, hinner, rfl⟩))
  unfold fill
  rw [hvalue]

theorem resolveHeaders_congr {headers : Table String}
    (h : ∀ header ∈ headers, cache.AgreeOn (Names header.2) other) :
    resolveHeaders headers cache = resolveHeaders headers other := by
  apply List.map_congr_left
  intro header hheader
  exact congrArg (Prod.mk header.1) (resolve_congr (h header hheader))

end congr

end Template

/-! ### Payloads -/

/-- The text is in the document, and is reached through objects alone. -/
inductive Json.Holds : Json → String → Prop
  | self (text : String) : Json.Holds (.str text) text
  | member {key text : String} {v : Json} {members : List (String × Json)}
      (hmember : (key, v) ∈ members) (h : Json.Holds v text) : Json.Holds (.obj members) text

namespace Template

variable {cache other : Cache}

mutual

/-- What becomes of a payload depends on what becomes of its texts. -/
theorem resolveValue_congr : (v : Json) →
    (∀ text, v.Holds text → resolve text cache = resolve text other) →
    resolveValue cache v = resolveValue other v
  | .null, _ => rfl
  | .bool _, _ => rfl
  | .num _, _ => rfl
  | .str text, h => by rw [resolveValue, resolveValue, h text (.self text)]
  | .arr _, _ => rfl
  | .obj members, h => by
    have hmembers := resolveMembers_congr members fun _ _ hmember text htext =>
      h text (.member hmember htext)
    rw [resolveValue, resolveValue, hmembers]

theorem resolveMembers_congr : (members : List (String × Json)) →
    (∀ key v, (key, v) ∈ members →
      ∀ text, v.Holds text → resolve text cache = resolve text other) →
    resolveMembers cache members = resolveMembers other members
  | [], _ => rfl
  | (key, v) :: members, h => by
    have hfirst := resolveValue_congr v (h key v List.mem_cons_self)
    have hfurther := resolveMembers_congr members fun key' v' hmember =>
      h key' v' (List.mem_cons_of_mem _ hmember)
    rw [resolveMembers, resolveMembers, hfirst, hfurther]

end

end Template

/-! ### Requests and expressions -/

/-- A placeholder that is resolved when the request is built names the key. -/
inductive Request.Names (request : Request) (key : String) : Prop
  | url (h : Template.Names request.url key)
  | header {name value : String} (hheader : (name, value) ∈ request.headers)
      (h : Template.Names value key)
  | payload {members : Json.Object} {text : String}
      (hpayload : request.payload = some (.structured members))
      (htext : (Json.obj members).Holds text) (h : Template.Names text key)

/-- A placeholder in a script, or in the value of a rule, names the key. -/
def Expression.Names : Expression → String → Prop
  | .script source => Template.Names source
  | .rule r => Template.Names r.value

section congr

variable {cache other : Cache}

/-- What is sent of a payload depends on the bodies under the keys that its texts name. -/
theorem Request.bodyOf_congr : {payload : Payload} →
    (∀ members text, payload = .structured members → (Json.obj members).Holds text →
      cache.AgreeOn (Template.Names text) other) →
    bodyOf cache payload = bodyOf other payload
  | .raw text, _ => by rw [bodyOf, bodyOf]
  | .structured members, h => by
    have hmembers : Template.resolveValue cache (.obj members) =
        Template.resolveValue other (.obj members) := by
      apply Template.resolveValue_congr
      intro text htext
      exact Template.resolve_congr (h members text rfl htext)
    rw [Template.resolveValue, Template.resolveValue] at hmembers
    rw [bodyOf, bodyOf, hmembers]

theorem Request.outbound_congr {request : Request} (h : cache.AgreeOn request.Names other) :
    request.outbound cache = request.outbound other := by
  have hurl : Template.resolve request.url cache = Template.resolve request.url other :=
    Template.resolve_congr (h.mono fun _ => .url)
  have hheaders : Template.resolveHeaders request.headers cache =
      Template.resolveHeaders request.headers other := by
    apply Template.resolveHeaders_congr
    intro header hheader
    exact h.mono fun _ => .header hheader
  have hbody : request.payload.map (bodyOf cache) = request.payload.map (bodyOf other) := by
    apply Option.map_congr
    intro payload hpayload
    apply bodyOf_congr
    rintro members text rfl htext
    exact h.mono fun _ => .payload hpayload htext
  unfold outbound
  rw [hurl, hheaders, hbody]

theorem Request.build_congr {request : Request} (h : cache.AgreeOn request.Names other) :
    request.build cache = request.build other := by
  unfold build
  rw [outbound_congr h]

theorem EvaluatorKind.check_congr {e : Expression} (h : cache.AgreeOn e.Names other)
    (kind : EvaluatorKind) (body : Json.Object) :
    kind.check e body cache = kind.check e body other := by
  have htext : ∀ text, cache.AgreeOn (Template.Names text) other →
      Template.resolve text cache = Template.resolve text other :=
    fun _ => Template.resolve_congr
  cases kind with
  | script =>
    cases e with
    | script source => rw [check, check, htext source h]
    | rule rule => rfl
  | rules =>
    cases e with
    | script source => rfl
    | rule rule => rw [check, check, htext rule.value h]

end congr

/-- Whether a request can be built, what it is and what is wrong with it otherwise depends on the
bodies under the keys that the request names, and what an expression comes to on the bodies under
those that the expression names. -/
theorem decided_by_named_keys (cache other : Cache) :
    (∀ request : Request, cache.AgreeOn request.Names other →
      request.build cache = request.build other) ∧
    ∀ (kind : EvaluatorKind) (e : Expression) (body : Json.Object), cache.AgreeOn e.Names other →
      kind.check e body cache = kind.check e body other := by
  constructor
  · intro request h
    exact Request.build_congr h
  · intro kind e body h
    exact EvaluatorKind.check_congr h kind body

/-! ### A placeholder in a cached text -/

/-- A request with a placeholder wherever one is resolved, and another in a key and in a list. -/
def Request.withTwoKeys : Request where
  url := "x:\x7bk.t\x7d"
  headers := [("A", "\x7bk.t\x7d")]
  payload := some (.structured
    [("o", .obj [("t", .str "\x7bk.t\x7d")]), ("\x7bj.t\x7d", .arr [.str "\x7bj.t\x7d"])])

/-- A cached body whose text is a placeholder. -/
def Cache.ofPlaceholder : Cache :=
  Cache.empty.insert "k" (Utf8.encode "\x7b\"t\":\"\x7bj.t\x7d\"\x7d")

/-- The same body, and one under the key that its text names. -/
def Cache.ofNested : Cache :=
  Cache.ofPlaceholder.insert "j" (Utf8.encode "\x7b\"t\":\"1\"\x7d")

theorem Request.names_withTwoKeys {key : String} (h : withTwoKeys.Names key) : key = "k" := by
  have hplain : Template.holes "\x7bk.t\x7d".toList = [['k', '.', 't']] := by cbv
  have hurl : Template.holes "x:\x7bk.t\x7d".toList = [['k', '.', 't']] := by cbv
  cases h with
  | url h => exact Template.eq_keyOf_of_names hurl h
  | header hheader h =>
    obtain ⟨-, rfl⟩ := Prod.mk.inj (List.mem_singleton.mp hheader)
    exact Template.eq_keyOf_of_names hplain h
  | payload hpayload htext h =>
    obtain rfl := Payload.structured.inj (Option.some.inj hpayload)
    cases htext with
    | member hmember htext =>
      rcases List.mem_pair.mp hmember with hfirst | hsecond
      · obtain ⟨-, rfl⟩ := Prod.mk.inj hfirst
        cases htext with
        | member hmember htext =>
          obtain ⟨-, rfl⟩ := Prod.mk.inj (List.mem_singleton.mp hmember)
          cases htext
          exact Template.eq_keyOf_of_names hplain h
      · -- a list holds no text that is resolved
        obtain ⟨-, rfl⟩ := Prod.mk.inj hsecond
        cases htext

/-- The cached placeholder is put into the request, and what is cached under its key makes no
difference. -/
theorem decided_by_named_keys_of_nested :
    Cache.ofPlaceholder.AgreeOn Request.withTwoKeys.Names Cache.ofNested ∧
      Request.withTwoKeys.build Cache.ofPlaceholder = Request.withTwoKeys.build Cache.ofNested ∧
      Template.resolve Request.withTwoKeys.url Cache.ofNested = "x:\x7bj.t\x7d" ∧
      Cache.ofPlaceholder.AgreeOn (Expression.script "t == '\x7bk.t\x7d'").Names Cache.ofNested ∧
      ∀ body, EvaluatorKind.script.check (.script "t == '\x7bk.t\x7d'") body Cache.ofPlaceholder =
        EvaluatorKind.script.check (.script "t == '\x7bk.t\x7d'") body Cache.ofNested := by
  have hsame : Cache.ofPlaceholder.get? "k" = Cache.ofNested.get? "k" :=
    (Cache.get?_insert_of_ne (by decide) _ _).symm
  have hrequest : Cache.ofPlaceholder.AgreeOn Request.withTwoKeys.Names Cache.ofNested := by
    intro key hkey
    rw [Request.names_withTwoKeys hkey, hsame]
  have hscript : Cache.ofPlaceholder.AgreeOn (Expression.script "t == '\x7bk.t\x7d'").Names
      Cache.ofNested := by
    have hholes : Template.holes "t == '\x7bk.t\x7d'".toList = [['k', '.', 't']] := by cbv
    intro key hkey
    obtain rfl : key = "k" := Template.eq_keyOf_of_names hholes hkey
    exact hsame
  have hdecided := decided_by_named_keys .ofPlaceholder .ofNested
  have hurl : Template.resolve Request.withTwoKeys.url Cache.ofNested = "x:\x7bj.t\x7d" := by
    decide +kernel
  exact ⟨hrequest, hdecided.1 _ hrequest, hurl, hscript,
    fun body => hdecided.2 .script _ body hscript⟩

end HttpScenario
