import HttpScenario.Proofs.Case.Trial
import HttpScenario.Proofs.Http.Build
import HttpScenario.Proofs.Text.Utf8
import Mathlib
/-!
# What is sent

A request is handed on only after it has been checked, so that whatever the cache holds can keep it
from being sent, but cannot make it anything else than a request (`Request.build_wellFormed`).  The
names of the headers are those of the template.  The values may hold text of earlier answers, but no
octet that could end a header line.

There is one header that the template need not have.  Adding it takes nothing away, because no header
has that name then in any case of letters (`Table.perm_insert`).
-/

namespace HttpScenario

namespace Http

/-- A text is a token. -/
def IsToken (s : String) : Prop :=
  s ≠ "" ∧ ∀ c ∈ s.toList, isTokenChar c = true

theorem isToken_iff {s : String} : isToken s = true ↔ IsToken s := by
  unfold isToken IsToken
  simp

/-- An octet that may stand in a header line: no control but the tab. -/
def IsPlain (b : UInt8) : Prop :=
  b.toNat = 9 ∨ 0x20 ≤ b.toNat ∧ b.toNat ≠ 0x7F

/-- A character that may stand in a value is written with such octets. -/
theorem isPlain_of_mem_encodeNat {c : Char} (hc : isValueChar c = true) {b : UInt8}
    (hb : b ∈ Utf8.encodeNat c.toNat) : IsPlain b := by
  by_cases hascii : c.toNat < 0x80
  · rw [Utf8.encodeNat_ascii hascii, List.mem_singleton] at hb
    have hvalue : b.toNat = c.toNat := by
      rw [hb]
      exact Utf8.toNat_ofNat (by omega)
    unfold IsPlain
    rw [hvalue]
    simp only [isValueChar, Bool.or_eq_true, beq_iff_eq, Bool.and_eq_true, decide_eq_true_eq,
      bne_iff_ne] at hc
    rcases hc with rfl | hc
    · exact Or.inl rfl
    · exact Or.inr hc
  · have hhigh := Utf8.le_of_mem_encodeNat (by omega) (Utf8.toNat_lt c) hb
    exact Or.inr ⟨by omega, by omega⟩

theorem isPlain_of_mem_encode {s : String} (hs : isHeaderValue s = true) {b : UInt8}
    (hb : b ∈ Utf8.encode s) : IsPlain b := by
  obtain ⟨c, hc, hoctet⟩ := List.mem_flatMap.mp hb
  exact isPlain_of_mem_encodeNat (List.all_eq_true.mp hs c hc) hoctet

end Http

/-! ### Checking -/

namespace OutboundRequest

/-- A request that can be sent as it is. -/
structure WellFormed (request : OutboundRequest) : Prop where
  method_isToken : Http.IsToken request.method
  name_isToken : ∀ header ∈ request.headers, Http.IsToken header.1
  value_isPlain : ∀ header ∈ request.headers, ∀ b ∈ Utf8.encode header.2, Http.IsPlain b

theorem checkMethod_eq_ok_iff {method : String} :
    checkMethod method = .ok () ↔ Http.IsToken method := by
  rw [← Http.isToken_iff]
  unfold checkMethod
  split
  · rename_i h
    exact ⟨fun _ => h, fun _ => rfl⟩
  · rename_i h
    exact ⟨nofun, fun htoken => absurd htoken h⟩

theorem checkHeader_eq_ok_iff {name value : String} :
    checkHeader name value = .ok () ↔
      Http.isHeaderName name = true ∧ Http.isHeaderValue value = true := by
  unfold checkHeader
  cases Http.isHeaderName name <;> cases Http.isHeaderValue value <;> simp

/-- Headers pass if each of them does. -/
theorem checkHeaders_eq_ok_iff {headers : Table String} :
    checkHeaders headers = .ok () ↔ ∀ header ∈ headers,
      Http.isHeaderName header.1 = true ∧ Http.isHeaderValue header.2 = true := by
  induction headers with
  | nil => simp [checkHeaders]
  | cons header headers ih =>
    obtain ⟨name, value⟩ := header
    rw [List.forall_mem_cons, checkHeaders, ← checkHeader_eq_ok_iff]
    cases checkHeader name value with
    | ok => simpa using ih
    | error error => simp

/-- A request passes if its method is a token, its address is an absolute one, and its headers
pass. -/
theorem validate_eq_ok_iff {request : OutboundRequest} :
    request.validate = .ok () ↔
      Http.IsToken request.method ∧ (∃ scheme, schemeOf request.url = .ok scheme) ∧
        ∀ header ∈ request.headers,
          Http.isHeaderName header.1 = true ∧ Http.isHeaderValue header.2 = true := by
  unfold validate
  rw [← checkMethod_eq_ok_iff, ← checkHeaders_eq_ok_iff, bind_eq_ok_iff]
  constructor
  · rintro ⟨⟨⟩, hmethod, h⟩
    obtain ⟨scheme, hscheme, hheaders⟩ := bind_eq_ok_iff.mp h
    exact ⟨hmethod, ⟨scheme, hscheme⟩, hheaders⟩
  · rintro ⟨hmethod, ⟨scheme, hscheme⟩, hheaders⟩
    exact ⟨(), hmethod, bind_eq_ok_iff.mpr ⟨scheme, hscheme, hheaders⟩⟩

theorem wellFormed_of_validate {request : OutboundRequest} (h : request.validate = .ok ()) :
    request.WellFormed := by
  obtain ⟨hmethod, -, hheaders⟩ := validate_eq_ok_iff.mp h
  refine ⟨hmethod, ?_, ?_⟩
  · intro header hheader
    have hname := (hheaders header hheader).1
    exact Http.isToken_iff.mp (Bool.and_eq_true_iff.mp hname).1
  · intro header hheader b hb
    exact Http.isPlain_of_mem_encode (hheaders header hheader).2 hb

end OutboundRequest

/-! ### The method -/

theorem Request.isLower_effectiveMethod (request : Request) :
    ∀ c ∈ request.effectiveMethod.toList, c.isLower = false := by
  unfold effectiveMethod
  dsimp only
  split
  · show ∀ c ∈ ['G', 'E', 'T'], c.isLower = false
    simp
  · intro c hc
    rw [String.toUpper, String.toList_map] at hc
    obtain ⟨d, -, rfl⟩ := List.mem_map.mp hc
    exact Char.isLower_toUpper_eq_false d

/-! ### The headers -/

/-- A new key takes nothing away. -/
theorem Table.perm_insert {α : Type} {key : String} {table : Table α}
    (h : key ∉ Table.keys table) (value : α) :
    (Table.insert key value table).Perm ((key, value) :: table) := by
  induction table with
  | nil => exact List.Perm.refl _
  | cons entry rest ih =>
    obtain ⟨k, v⟩ := entry
    obtain ⟨hne, hrest⟩ := not_or.mp (mt List.mem_cons.mpr h)
    rw [Table.insert, if_neg (Ne.symm hne)]
    split
    · exact List.Perm.refl _
    · exact ((ih hrest).cons (k, v)).trans (List.Perm.swap ..)

namespace Request

/-- The template has a document for a body, and no header that says so. -/
def LacksContentType (request : Request) : Prop :=
  (∃ members, request.payload = some (.structured members)) ∧
    ∀ header ∈ request.headers, header.1.toLower ≠ "content-type"

theorem toLower_contentType : contentType.toLower = "content-type" := by
  decide +kernel

/-- Resolving values leaves the names alone. -/
theorem setsContentType_resolveHeaders_iff {headers : Table String} {cache : Cache} :
    setsContentType (Template.resolveHeaders headers cache) = true ↔
      ∃ header ∈ headers, header.1.toLower = "content-type" := by
  unfold setsContentType sameName Template.resolveHeaders Table.mapValues
  simp [toLower_contentType]

section headers

variable {request : Request} (cache : Cache)

theorem headers_outbound_of_lacks (h : request.LacksContentType) :
    (request.outbound cache).headers = Table.insert contentType "application/json"
      (Template.resolveHeaders request.headers cache) := by
  obtain ⟨⟨members, hpayload⟩, hnone⟩ := h
  have hset : ¬ setsContentType (Template.resolveHeaders request.headers cache) = true := by
    intro hset
    obtain ⟨header, hheader, hname⟩ := setsContentType_resolveHeaders_iff.mp hset
    exact hnone header hheader hname
  rw [outbound, hpayload]
  exact if_neg hset

theorem headers_outbound_of_not_lacks (h : ¬ request.LacksContentType) :
    (request.outbound cache).headers = Template.resolveHeaders request.headers cache := by
  unfold outbound headersFor
  dsimp only
  split
  · rename_i members hpayload
    apply if_pos
    rw [setsContentType_resolveHeaders_iff]
    by_contra hnone
    exact h ⟨⟨members, hpayload⟩, fun header hheader hname => hnone ⟨header, hheader, hname⟩⟩
  · rfl

/-- A template that lacks the header has no other one by that name, and none that is replaced. -/
theorem contentType_not_mem_keys (h : request.LacksContentType) :
    contentType ∉ Table.keys (Template.resolveHeaders request.headers cache) := by
  intro hmem
  rw [Template.resolveHeaders, Table.keys_mapValues] at hmem
  obtain ⟨header, hheader, hname⟩ := List.mem_map.mp hmem
  apply h.2 header hheader
  rw [hname, toLower_contentType]

theorem sorted_headers_outbound (h : Table.Sorted request.headers) :
    Table.Sorted (request.outbound cache).headers := by
  have hresolved : Table.Sorted (Template.resolveHeaders request.headers cache) :=
    List.pairwise_map.mpr h
  by_cases hlacks : request.LacksContentType
  · rw [headers_outbound_of_lacks cache hlacks]
    exact Table.sorted_insert _ _ hresolved
  · rw [headers_outbound_of_not_lacks cache hlacks]
    exact hresolved

end headers

/-! ### Building -/

/-- A case whose request cannot be built sends nothing. -/
theorem transport_run_of_build_eq_error {case : TestCase} {session : Session} {error : Error}
    (h : case.request.build session.cache = .error error) (context : CaseContext) :
    (case.run context session).2.transport = session.transport := by
  have hrequest : (case.trial context.evaluator session).request? = none := by
    show (case.request.build session.cache).toOption = none
    rw [h]
    rfl
  rw [(case.leaves_run context session).transport, Trial.transportAfter_of_none hrequest]
  rfl

/-- A template gives a request that can be sent, or an error of building it, and then a case with
that template sends nothing.  The headers of the request are those of the template with their values
resolved, and one for the kind of the body if the body is a document and no header of the template
says so, in whatever case of letters.  No header value has a control in it but the tab. -/
theorem build_wellFormed (request : Request) (cache : Cache) :
    (∃ error, request.build cache = .error error ∧ error.kind = .build ∧
      ∀ (case : TestCase) (context : CaseContext) (session : Session),
        case.request = request → session.cache = cache →
        (case.run context session).2.transport = session.transport) ∨
    ∃ built, request.build cache = .ok built ∧ built.WellFormed ∧
      (∀ c ∈ built.method.toList, c.isLower = false) ∧
      (request.LacksContentType → built.headers.Perm (("Content-Type", "application/json") ::
        request.headers.map fun header => (header.1, Template.resolve header.2 cache))) ∧
      (¬ request.LacksContentType → built.headers =
        request.headers.map fun header => (header.1, Template.resolve header.2 cache)) ∧
      (Table.Sorted request.headers → Table.Sorted built.headers) := by
  cases hbuild : request.build cache with
  | error error =>
    refine Or.inl ⟨error, rfl, kind_of_build_eq_error hbuild, ?_⟩
    rintro case context session rfl rfl
    exact transport_run_of_build_eq_error hbuild context
  | ok built =>
    obtain ⟨rfl, hvalid⟩ := build_eq_ok_iff.mp hbuild
    refine Or.inr ⟨_, rfl, OutboundRequest.wellFormed_of_validate hvalid,
      request.isLower_effectiveMethod, ?_, ?_, sorted_headers_outbound cache⟩
    · intro hlacks
      rw [headers_outbound_of_lacks cache hlacks]
      exact Table.perm_insert (contentType_not_mem_keys cache hlacks) _
    · exact headers_outbound_of_not_lacks cache

-- a cached text with a line end in it, which would start another header
example :
    build { url := "x:y", headers := [("A", "\x7bk.t\x7d")] }
        (Cache.empty.insert "k" (Utf8.encode "\x7b\"t\":\"1\\r\\nB: 2\"\x7d")) =
      .error (.build "invalid header value for 'A': failed to parse header value") := by
  decide +kernel

end Request

end HttpScenario
