import HttpScenario.Proofs.Shape.Written
import HttpScenario.Scenario.Basic
/-!
# The document of a scenario is read back

Each type of a scenario has a function to a document and one from the value that its shape reads.
`Restores` says that the two belong together: where the document is written, the shape reads a value
that stands for what was written.  The value need not be the document itself, because fields that
are left out when they say nothing come back as their defaults.

The statements go up from expressions to scenarios, each from those about its fields.  What they
need of the thing that is written is said once for requests, which hold all the plain data there is:
headers and structured payloads are tables (`Request.Tabular`), and the numbers in a payload are
whole ones that are kept exactly (`Request.Exact`).
-/

namespace HttpScenario

open Json (Reads)
open Shape (reader FieldsWritten)

/-- Where a document is written, the reader of a shape finds a value that stands for `x`. -/
def Restores {α : Type} (shape : Shape) (ofJson : Json → α) (levels : Nat) (v : Json) (x : α) :
    Prop :=
  ∃ value, Reads (reader shape levels) v value ∧ ofJson value = x

/-- The items of a list are restored together. -/
theorem restores_items {α : Type} {item : Shape} {ofJson : Json → α} {toJson : α → Json}
    {levels : Nat} {xs : List α} (h : ∀ x ∈ xs, Restores item ofJson levels (toJson x) x) :
    ∃ values, List.Forall₂ (Reads (reader item levels)) (xs.map toJson) values ∧
      values.map ofJson = xs := by
  induction xs with
  | nil => exact ⟨[], .nil, rfl⟩
  | cons x xs ih =>
    obtain ⟨value, hread, hvalue⟩ := h x List.mem_cons_self
    obtain ⟨values, hreads, hvalues⟩ := ih fun y hy => h y (List.mem_cons_of_mem x hy)
    exact ⟨value :: values, .cons hread hreads, by rw [List.map_cons, hvalue, hvalues]⟩

/-! ### Expectations -/

theorem Expression.restores (e : Expression) {levels : Nat} (h : e.toJson.depth ≤ levels) :
    Restores Expression.shape Expression.ofJson levels e.toJson e := by
  cases e with
  | script source =>
    have hkept := Content.reads_ofJson (.str source) levels trivial h
    exact ⟨.str source, Shape.reads_firstOf levels "Expression" hkept rfl, rfl⟩
  | rule r =>
    have hkept := Content.reads_ofJson r.toJson levels
      ⟨trivial, trivial, trivial, trivial, trivial, trivial⟩ h
    have hfits : Shape.firstOfContent? [.text, Rule.shape] (.ofJson r.toJson) = some r.toJson := rfl
    exact ⟨r.toJson, Shape.reads_firstOf levels "Expression" hkept hfits, rfl⟩

theorem starts_str (s : String) (level : Nat) :
    ∃ b bs, Json.octets level (.str s) = b :: bs ∧ Json.Starts b ∧ b ≠ 0x6E :=
  ⟨0x22, _, Json.octets_str level s, by decide, by decide⟩

theorem Expectation.restores (e : Expectation) {levels : Nat} (h : e.toJson.depth ≤ levels) :
    Restores Expectation.shape Expectation.ofJson levels e.toJson e := by
  obtain ⟨statusCode, evaluationObject, evaluate⟩ := e
  obtain ⟨levels, rfl, hmembers⟩ := Json.depth_obj_le h
  have hlist : (Json.arr (evaluate.map Expression.toJson)).depth ≤ levels :=
    hmembers ("evaluate", _) (List.mem_append_right _ List.mem_cons_self)
  obtain ⟨levels, rfl, hitems⟩ := Json.depth_arr_le hlist
  obtain ⟨values, hreads, hvalues⟩ :
      ∃ values, List.Forall₂ (Reads (reader Expression.shape levels))
        (evaluate.map Expression.toJson) values ∧ values.map Expression.ofJson = evaluate :=
    restores_items fun e he => e.restores (hitems _ (List.mem_map_of_mem he))
  have hlt : statusCode.toNat < 65536 := statusCode.toNat_lt
  have hstatus : Reads (reader .word16 (levels + 1)) (.int statusCode.toNat)
      (.int statusCode.toNat) :=
    Shape.reads_whole (levels + 1) "u16"
      (by simp only [Json.Number.Kept, Json.Number.least, Json.Number.limit]; omega)
      (by omega) (by omega)
  have hevaluate : FieldsWritten
      (Shape.fieldReaders [("evaluate", .list Expression.shape, some (.arr []))] (levels + 1))
      [("evaluate", .arr (evaluate.map Expression.toJson))] [("evaluate", .arr values)] :=
    .written (Shape.reads_list hreads) .nil
  have hback : ∀ path, Expectation.ofJson (.obj [("status_code", .int statusCode.toNat),
      ("evaluation_object", path), ("evaluate", .arr values)]) =
        ⟨statusCode, path.toText?, evaluate⟩ := by
    intro path
    show Expectation.mk (UInt16.ofNat statusCode.toNat) path.toText?
      (values.map Expression.ofJson) = _
    rw [hvalues, UInt16.ofNat_toNat]
  cases evaluationObject with
  | none =>
    exact ⟨_, Shape.reads_record "Expect" (by decide)
      (.written hstatus (.leftOut rfl hevaluate)), hback .null⟩
  | some path =>
    have hpath := Shape.reads_optional (levels + 1) (Shape.reads_text (levels + 1) path)
      (starts_str path)
    exact ⟨_, Shape.reads_record "Expect" (by decide)
      (.written hstatus (.written hpath hevaluate)), hback (.str path)⟩

/-! ### Pipelines -/

theorem Pipeline.restores (p : Pipeline) {levels : Nat} (h : p.toJson.depth ≤ levels) :
    Restores Pipeline.shape Pipeline.ofJson levels p.toJson p := by
  obtain ⟨levels, rfl, -⟩ := Json.depth_obj_le h
  refine ⟨p.toJson, Shape.reads_record "Pipeline" (by decide) ?_, ?_⟩
  · have hword : ["exit", "fallthrough"].contains p.onFailure.name = true := by
      cases p.onFailure <;> decide
    exact .written (Shape.reads_flag levels p.cache) (.written (Shape.reads_text levels p.cacheAs)
      (.written (Shape.reads_word levels hword) .nil))
  · show Pipeline.mk p.cache p.cacheAs (OnFailure.ofName p.onFailure.name) = p
    rw [OnFailure.ofName_name]

/-! ### Requests -/

/-- The headers and a structured payload are tables. -/
structure Request.Tabular (r : Request) : Prop where
  headers : r.headers.Sorted
  payload : ∀ payload, r.payload = some payload → payload.toJson.Tables

/-- The numbers in a structured payload are whole ones that are kept exactly. -/
def Request.Exact (r : Request) : Prop :=
  ∀ payload, r.payload = some payload → payload.toJson.Exact

theorem Payload.restores (p : Payload) {levels : Nat} (h : p.toJson.depth ≤ levels)
    (htables : p.toJson.Tables) (hexact : p.toJson.Exact) :
    Reads (reader (.optional Payload.shape) levels) p.toJson p.toJson ∧
      Request.payloadOfJson p.toJson = some p := by
  have hkept := Content.reads_ofJson p.toJson levels hexact h
  cases p with
  | structured members =>
    have htable : Shape.ofContent? (.table .any) (.ofJson (.obj members)) =
        some (.obj members) := by
      show (Shape.tableOfContent? (Shape.ofContent? .any) [] (Content.ofMembers members)).map
        Json.obj = _
      rw [Shape.tableOfContent?_any,
        Content.membersToJson?_ofMembers members [] htables.1 htables.2 hexact.2]
      rfl
    have hfits : Shape.firstOfContent? [.table .any, .text] (.ofJson (.obj members)) =
        some (.obj members) := Shape.firstOfContent?_of_fits htable
    have hread := Shape.reads_firstOf levels "Payload" hkept hfits
    exact ⟨Shape.reads_optional levels hread fun level =>
      ⟨0x7B, _, Json.octets_obj level members, by decide, by decide⟩, rfl⟩
  | raw text =>
    have hfits : Shape.firstOfContent? [.table .any, .text] (.ofJson (.str text)) =
        some (.str text) := rfl
    have hread := Shape.reads_firstOf levels "Payload" hkept hfits
    exact ⟨Shape.reads_optional levels hread (starts_str text), rfl⟩

theorem sorted_mapValues {α β : Type} {table : Table α} (f : α → β) (h : table.Sorted) :
    (table.mapValues f).Sorted :=
  List.pairwise_map.mpr h

theorem map_toText_mapValues (table : Table String) :
    ((table.mapValues Json.str).map fun (name, v) => (name, v.toText)) = table := by
  induction table with
  | nil => rfl
  | cons entry table ih =>
    rw [Table.mapValues, List.map_cons, List.map_cons]
    exact congrArg (entry :: ·) ih

/-- Headers are written and read back if there are any; without any, the default is none. -/
theorem Request.headers_written {headers : Table String} (hsorted : headers.Sorted) {levels : Nat}
    (hdepth : headers.isEmpty = false → (Json.obj (headers.mapValues .str)).depth ≤ levels)
    {written values : List (String × Json)}
    (h : FieldsWritten
      (Shape.fieldReaders [("payload", .optional Payload.shape, some .null)] levels) written
      values) :
    FieldsWritten
      (Shape.fieldReaders [("headers", .table .text, some (.obj [])),
        ("payload", .optional Payload.shape, some .null)] levels)
      ((if headers.isEmpty then [] else [("headers", .obj (headers.mapValues .str))]) ++ written)
      (("headers", .obj (headers.mapValues .str)) :: values) := by
  cases hempty : headers.isEmpty with
  | true =>
    obtain rfl := List.isEmpty_iff.mp hempty
    exact .leftOut rfl h
  | false =>
    obtain ⟨levels, rfl, -⟩ := Json.depth_obj_le (hdepth hempty)
    have hentries : ∀ entry ∈ headers.mapValues Json.str,
        Reads (reader .text levels) entry.2 entry.2 := by
      intro entry hentry
      obtain ⟨header, -, rfl⟩ := List.mem_map.mp hentry
      exact Shape.reads_text levels header.2
    rw [if_neg Bool.false_ne_true]
    exact .written (Shape.reads_table (sorted_mapValues Json.str hsorted) hentries) h

theorem Request.restores (r : Request) {levels : Nat} (h : r.toJson.depth ≤ levels)
    (htabular : r.Tabular) (hexact : r.Exact) :
    Restores Request.shape Request.ofJson levels r.toJson r := by
  obtain ⟨url, method, headers, payload⟩ := r
  obtain ⟨hsorted, htables⟩ := htabular
  obtain ⟨levels, rfl, hmembers⟩ := Json.depth_obj_le h
  have hdepth : headers.isEmpty = false → (Json.obj (headers.mapValues .str)).depth ≤ levels := by
    intro hempty
    refine hmembers ("headers", _) ?_
    simp [Request.toMembers, hempty]
  have hback : ∀ value, payloadOfJson value = payload →
      Request.ofJson (.obj [("url", .str url), ("method", .str method),
        ("headers", .obj (headers.mapValues .str)), ("payload", value)]) =
        ⟨url, method, headers, payload⟩ := by
    intro value hvalue
    show Request.mk url method
      ((headers.mapValues .str).map fun (name, v) => (name, Json.toText v))
      (payloadOfJson value) = _
    rw [hvalue, map_toText_mapValues]
  cases payload with
  | none =>
    have hpayload := headers_written hsorted hdepth (.leftOut rfl .nil)
    exact ⟨_, Shape.reads_record "Request" (by decide) (.written (Shape.reads_text levels url)
      (.written (Shape.reads_text levels method) hpayload)), hback .null rfl⟩
  | some payload =>
    have hpayloadDepth : payload.toJson.depth ≤ levels :=
      hmembers ("payload", payload.toJson) (List.mem_append_right _ List.mem_cons_self)
    obtain ⟨hread, hvalue⟩ :=
      payload.restores hpayloadDepth (htables payload rfl) (hexact payload rfl)
    have hpayload := headers_written hsorted hdepth (.written hread .nil)
    exact ⟨_, Shape.reads_record "Request" (by decide) (.written (Shape.reads_text levels url)
      (.written (Shape.reads_text levels method) hpayload)), hback payload.toJson hvalue⟩

/-! ### Test cases -/

theorem TestCase.restores (c : TestCase) {levels : Nat} (h : c.toJson.depth ≤ levels)
    (htabular : c.request.Tabular) (hexact : c.request.Exact) :
    Restores TestCase.shape TestCase.ofJson levels c.toJson c := by
  obtain ⟨order, name, description, request, expect, pipeline⟩ := c
  obtain ⟨levels, rfl, hmembers⟩ := Json.depth_obj_le h
  have hlt : order.toNat < 4294967296 := order.toNat_lt
  have horder : Reads (reader .word32 levels) (.int order.toNat) (.int order.toNat) :=
    Shape.reads_whole levels "u32"
      (by simp only [Json.Number.Kept, Json.Number.least, Json.Number.limit]; omega)
      (by omega) (by omega)
  obtain ⟨requestValue, hrequest, hrequestBack⟩ :=
    request.restores (hmembers ("request", request.toJson) (by simp)) htabular hexact
  obtain ⟨expectValue, hexpect, hexpectBack⟩ :=
    expect.restores (hmembers ("expect", expect.toJson) (by simp))
  obtain ⟨pipelineValue, hpipeline, hpipelineBack⟩ :=
    pipeline.restores (hmembers ("pipeline", pipeline.toJson) (by simp))
  refine ⟨_, Shape.reads_record "TestCase" (by decide) (.written horder
    (.written (Shape.reads_text levels name) (.written (Shape.reads_text levels description)
      (.written hrequest (.written hexpect (.written hpipeline .nil)))))), ?_⟩
  show TestCase.mk (UInt32.ofNat order.toNat) name description (Request.ofJson requestValue)
    (Expectation.ofJson expectValue) (Pipeline.ofJson pipelineValue) = _
  rw [hrequestBack, hexpectBack, hpipelineBack, UInt32.ofNat_toNat]

/-! ### Scenarios -/

namespace Scenario

/-- The cases stand in ascending order of their numbers. -/
def Ascending (s : Scenario) : Prop :=
  s.cases.Pairwise fun a b => a.order ≤ b.order

/-- The headers and structured payloads of all cases are tables. -/
def Tabular (s : Scenario) : Prop :=
  ∀ case ∈ s.cases, case.request.Tabular

/-- The numbers in the structured payloads of all cases are whole ones that are kept exactly. -/
def Exact (s : Scenario) : Prop :=
  ∀ case ∈ s.cases, case.request.Exact

theorem sortCases_of_ascending {cases : List TestCase}
    (h : cases.Pairwise fun a b => a.order ≤ b.order) : sortCases cases = cases :=
  List.mergeSort_of_pairwise (h.imp fun hle => decide_eq_true hle)

/-- The cases of a document, in the order in which it lists them. -/
def listedCases (v : Json) : List TestCase :=
  (v.field "cases").toItems.map TestCase.ofJson

/-- Where the document of a scenario is written, a value is read that lists the same cases, in
whatever order they are, and stands for the scenario with its cases put in order. -/
theorem exists_reads (s : Scenario) {levels : Nat} (h : s.toJson.depth ≤ levels)
    (htabular : s.Tabular) (hexact : s.Exact) :
    ∃ value, Reads (reader shape levels) s.toJson value ∧ listedCases value = s.cases ∧
      ofJson value = { s with cases := sortCases s.cases, cache := .empty } := by
  obtain ⟨levels, rfl, hmembers⟩ := Json.depth_obj_le h
  obtain ⟨levels, rfl, hitems⟩ :=
    Json.depth_arr_le (hmembers ("cases", .arr (s.cases.map TestCase.toJson)) (by simp))
  obtain ⟨values, hreads, hvalues⟩ :
      ∃ values, List.Forall₂ (Reads (reader TestCase.shape levels))
        (s.cases.map TestCase.toJson) values ∧ values.map TestCase.ofJson = s.cases :=
    restores_items fun case hcase =>
      case.restores (hitems _ (List.mem_map_of_mem hcase)) (htabular case hcase) (hexact case hcase)
  have htext : ∀ text, Reads (reader .text (levels + 1)) (.str text) (.str text) :=
    fun text => Shape.reads_text (levels + 1) text
  refine ⟨_, Shape.reads_record "ScenarioDocument" (by decide)
    (.written (htext s.id) (.written (htext s.name) (.written (htext s.description)
      (.written (htext s.environment) (.written (Shape.reads_list hreads) .nil))))), hvalues, ?_⟩
  show Scenario.mk s.id s.name s.description s.environment
    (sortCases (values.map TestCase.ofJson)) .empty = _
  rw [hvalues]

theorem restores (s : Scenario) {levels : Nat} (h : s.toJson.depth ≤ levels)
    (hascending : s.Ascending) (htabular : s.Tabular) (hexact : s.Exact) :
    Restores Scenario.shape Scenario.ofJson levels s.toJson { s with cache := .empty } := by
  obtain ⟨value, hreads, -, hvalue⟩ := s.exists_reads h htabular hexact
  refine ⟨value, hreads, ?_⟩
  rw [hvalue, sortCases_of_ascending hascending]

end Scenario

end HttpScenario
