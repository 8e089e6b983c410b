import HttpScenario.Proofs.Json.Rest
import HttpScenario.Proofs.Scenario.Written
import HttpScenario.Proofs.Yaml.Tabular
import HttpScenario.Scenario.Document
/-!
# A scenario that is written is read back

The main statement is `Scenario.parse_encode`: a scenario is written in the JSON format, and reading
the text gives that scenario with an empty cache, from which the same text is written again.  It
holds of every scenario that can come about (`Scenario.Built`), by adding cases or by reading a text
of either format, as long as its structured payloads hold whole numbers only and its document is not
nested too deep to be read.

Two things are true of a scenario however it came about: its cases stand in order, so that sorting
them on reading moves none (`Built.ascending`), and what it holds of plain data is made of tables
(`Built.tabular`).  Of a scenario that was read, the second follows from what its shape reads.
-/

namespace HttpScenario

open Shape (Tabular FieldTabular SomeTabular)

/-! ### What is read in a format -/

/-- What is read in either format is made of tables. -/
theorem Format.tabular_of_read {format : Format} {shape : Shape} {text : String} {v : Json}
    (h : format.read shape text = .ok v) : Tabular shape v := by
  cases format with
  | json =>
    have hparse := mapError_eq_ok_iff.mp (mapError_eq_ok_iff.mp h)
    obtain ⟨rest, hread⟩ := Json.exists_of_readWhole hparse
    exact Shape.gives_reader shape _ _ v rest hread
  | yaml =>
    have hparse : Yaml.parseText shape text = .ok v := mapError_eq_ok_iff.mp h
    obtain ⟨document, -, hparse⟩ := bind_eq_ok_iff.mp hparse
    obtain ⟨⟨value, jumps⟩, hread, hparse⟩ := bind_eq_ok_iff.mp hparse
    obtain rfl := Except.ok.inj hparse
    exact Yaml.yields_readShape _ shape _ _ _ _ _ hread

/-! ### Scenarios that are read -/

/-- The field of a record is missing, or what the record may hold under its name. -/
theorem Shape.Tabular.field {title : String} {fields : List (String × Shape × Option Json)}
    {v : Json} (h : Tabular (.record title fields) v) (key : String) :
    v.field key = .null ∨ FieldTabular fields key (v.field key) := by
  obtain ⟨members, rfl, hmembers⟩ := h
  show (members.lookup key).getD .null = .null ∨ _
  cases hfield : members.lookup key with
  | none => exact Or.inl rfl
  | some x =>
    refine Or.inr ?_
    show FieldTabular fields key ((members.lookup key).getD .null)
    rw [hfield]
    exact hmembers (key, x) (Shape.mem_of_lookup hfield)

/-- The headers that are read are sorted by name. -/
theorem Request.sorted_headers {v : Json} (h : Request.shape.Tabular v) :
    (Request.ofJson v).headers.Sorted := by
  have hmembers : (v.field "headers").toMembers.Pairwise (·.1 < ·.1) := by
    rcases h.field "headers" with hnull | hfield
    · rw [hnull]
      exact .nil
    · simp only [FieldTabular, String.reduceEq, false_and, true_and, or_false, false_or] at hfield
      rcases hfield with hdefault | ⟨entries, hentries, htable⟩
      · rw [← Option.some.inj hdefault]
        exact .nil
      · rw [hentries]
        exact htable.1
  exact List.pairwise_map.mpr hmembers

/-- A payload that is read as an object is a table, with tables in it. -/
theorem Request.tables_payload {v : Json} (h : Request.shape.Tabular v) {payload : Payload}
    (hpayload : (Request.ofJson v).payload = some payload) : payload.toJson.Tables := by
  have hshape : (Shape.optional Payload.shape).Tabular (v.field "payload") := by
    rcases h.field "payload" with hnull | hfield
    · exact Or.inl hnull
    · simp only [FieldTabular, String.reduceEq, false_and, true_and, or_false, false_or] at hfield
      rcases hfield with hdefault | hshape
      · exact Or.inl (Option.some.inj hdefault).symm
      · exact hshape
  replace hpayload : payloadOfJson (v.field "payload") = some payload := hpayload
  rcases hshape with hnull | ⟨entries, hentries, htable⟩ | ⟨text, htext⟩ | hnone
  · rw [hnull] at hpayload
    cases hpayload
  · rw [hentries] at hpayload
    obtain rfl := Option.some.inj hpayload
    exact Json.tables_obj htable
  · rw [htext] at hpayload
    obtain rfl := Option.some.inj hpayload
    trivial
  · cases hnone

theorem Request.tabular_ofJson {v : Json} (h : Request.shape.Tabular v) :
    (Request.ofJson v).Tabular :=
  ⟨sorted_headers h, fun _ hpayload => tables_payload h hpayload⟩

theorem TestCase.tabular_ofJson {v : Json} (h : TestCase.shape.Tabular v) :
    (TestCase.ofJson v).request.Tabular := by
  show (Request.ofJson (v.field "request")).Tabular
  rcases h.field "request" with hnull | hfield
  · rw [hnull]
    exact ⟨.nil, nofun⟩
  · simp only [FieldTabular, String.reduceEq, false_and, true_and, or_false, false_or,
      reduceCtorEq] at hfield
    exact Request.tabular_ofJson hfield

/-! ### How scenarios come about -/

theorem TestCase.order_le_trans (a b c : TestCase) (hab : decide (a.order ≤ b.order) = true)
    (hbc : decide (b.order ≤ c.order) = true) : decide (a.order ≤ c.order) = true :=
  decide_eq_true (UInt32.le_trans (of_decide_eq_true hab) (of_decide_eq_true hbc))

theorem TestCase.order_le_total (a b : TestCase) :
    (decide (a.order ≤ b.order) || decide (b.order ≤ a.order)) = true := by
  simp only [Bool.or_eq_true, decide_eq_true_eq]
  exact UInt32.le_total a.order b.order

theorem pairwise_sortCases (cases : List TestCase) :
    (sortCases cases).Pairwise fun a b => a.order ≤ b.order := by
  have hsorted : (sortCases cases).Pairwise fun a b => decide (a.order ≤ b.order) = true :=
    List.pairwise_mergeSort TestCase.order_le_trans TestCase.order_le_total cases
  exact hsorted.imp of_decide_eq_true

namespace Scenario

theorem ascending_ofJson (v : Json) : (ofJson v).Ascending :=
  pairwise_sortCases _

theorem tabular_ofJson {v : Json} (h : shape.Tabular v) : (ofJson v).Tabular := by
  intro case hcase
  replace hcase : case ∈ (v.field "cases").toItems.map TestCase.ofJson :=
    List.mem_mergeSort.mp hcase
  obtain ⟨item, hitem, rfl⟩ := List.mem_map.mp hcase
  refine TestCase.tabular_ofJson ?_
  rcases h.field "cases" with hnull | hfield
  · rw [hnull] at hitem
    cases hitem
  · simp only [FieldTabular, String.reduceEq, false_and, true_and, or_false, false_or] at hfield
    rcases hfield with hdefault | ⟨items, hitems, htabular⟩
    · rw [← Option.some.inj hdefault] at hitem
      cases hitem
    · rw [hitems] at hitem
      exact htabular item hitem

/-- The ways in which scenarios come about. -/
inductive Built : Scenario → Prop
  /-- A scenario without cases. -/
  | empty (id name description environment : String) :
    Built { id, name, description, environment }
  /-- The words about a scenario are changed. -/
  | described {s : Scenario} (id name description environment : String) (h : Built s) :
    Built { s with id, name, description, environment }
  /-- A case is added.  Headers are a table, and so are the objects of a structured payload. -/
  | addCase {s : Scenario} {case : TestCase} (hcase : case.request.Tabular) (h : Built s) :
    Built (s.addCase case)
  /-- The cache is changed, by whatever is done with it or by a run. -/
  | cached {s : Scenario} (cache : Cache) (h : Built s) : Built { s with cache }
  /-- A scenario is read from a text. -/
  | parsed {s : Scenario} {format : Format} {text : String} (h : parse format text = .ok s) :
    Built s

theorem exists_of_parse {s : Scenario} {format : Format} {text : String}
    (h : parse format text = .ok s) : ∃ v, shape.Tabular v ∧ ofJson v = s := by
  obtain ⟨v, hread, hs⟩ := map_eq_ok_iff.mp h
  exact ⟨v, Format.tabular_of_read hread, hs⟩

theorem Built.ascending {s : Scenario} (h : s.Built) : s.Ascending := by
  induction h with
  | empty => exact .nil
  | described _ _ _ _ _ ih => exact ih
  | addCase => exact pairwise_sortCases _
  | cached _ _ ih => exact ih
  | parsed h =>
    obtain ⟨v, -, rfl⟩ := exists_of_parse h
    exact ascending_ofJson v

theorem Built.tabular {s : Scenario} (h : s.Built) : s.Tabular := by
  induction h with
  | empty => exact List.forall_mem_nil _
  | described _ _ _ _ _ ih => exact ih
  | @addCase s case hcase _ ih =>
    intro other hother
    rcases List.mem_append.mp (List.mem_mergeSort.mp hother) with hother | hother
    · exact ih other hother
    · rw [List.mem_singleton.mp hother]
      exact hcase
  | cached _ _ ih => exact ih
  | parsed h =>
    obtain ⟨v, htabular, rfl⟩ := exists_of_parse h
    exact tabular_ofJson htabular

/-! ### Writing and reading -/

/-- What is read where a document is written is the value of the text that it is written as. -/
theorem read_write_of_reads {shape : Shape} {v value : Json}
    (h : Json.Reads (Shape.reader shape Json.maxLevels) v value) :
    Format.json.read shape (Format.json.write v) = .ok value :=
  mapError_eq_ok_iff.mpr (Shape.parseText_of_reads h)

/-- A text that a document is written as is read back as what the document restores. -/
theorem read_write_of_restores {α : Type} {shape : Shape} {ofJson : Json → α} {v : Json} {x : α}
    (h : Restores shape ofJson Json.maxLevels v x) :
    (Format.json.read shape (Format.json.write v)).map ofJson = .ok x := by
  obtain ⟨value, hreads, hvalue⟩ := h
  exact map_eq_ok_iff.mpr ⟨value, read_write_of_reads hreads, hvalue⟩

/-- A scenario that is written in the JSON format is read back, with an empty cache, and what is read
is written as the same text again. -/
theorem parse_encode {s : Scenario} (hbuilt : s.Built) (hexact : s.Exact)
    (hdepth : s.toJson.depth ≤ Json.maxLevels) :
    parse .json (s.encode .json) = .ok { s with cache := .empty } ∧
      (parse .json (s.encode .json)).map (encode .json) = .ok (s.encode .json) := by
  have hrestores := s.restores hdepth hbuilt.ascending hbuilt.tabular hexact
  have hparse : parse .json (s.encode .json) = .ok { s with cache := .empty } :=
    read_write_of_restores hrestores
  refine ⟨hparse, ?_⟩
  rw [hparse]
  rfl

/-- A case with a header, a structured payload and expressions of both kinds. -/
def samplePost : TestCase where
  order := 1
  name := "a \"first\" post"
  request :=
    { url := "http://api/posts/\x7bcreated.id\x7d"
      method := "post"
      headers := Table.ofList [("x-note", "tab\tand backslash \\"), ("accept", "*/*")]
      payload := some (.structured
        [("count", .int (-9223372036854775808)),
          ("items", .arr [.obj [("sku", .str "ä")], .null, .int 18446744073709551615])]) }
  expect :=
    { statusCode := 201
      evaluationObject := some ""
      evaluate := [.script "total > 0", .rule { prop := "state", operator := "eq" }] }

/-- A case with a raw payload that reads like an object, which runs when the first one fails. -/
def sampleNote : TestCase where
  order := 1
  request := { url := "http://api/posts", payload := some (.raw "\x7b\x7d") }
  expect := { statusCode := 200 }
  pipeline := { onFailure := .fallthrough }

/-- A scenario of two cases, with something in its cache. -/
def sample : Scenario :=
  { (({ name := "posts" } : Scenario).addCase samplePost).addCase sampleNote with
    cache := Cache.empty.insert "token" [0x74] }

theorem cases_sample : sample.cases = [samplePost, sampleNote] := by
  show sortCases (sortCases [samplePost] ++ [sampleNote]) = _
  rw [sortCases_of_ascending (List.pairwise_singleton _ _)]
  exact sortCases_of_ascending (by decide)

theorem built_sample : sample.Built := by
  have hpost : samplePost.request.Tabular := by
    unfold samplePost
    refine ⟨Table.sorted_ofList _, ?_⟩
    rintro payload ⟨⟩
    have hitem : (Json.obj [("sku", .str "ä")]).Tables :=
      ⟨List.pairwise_singleton _ _, trivial, trivial⟩
    exact
      ⟨List.pairwise_pair.mpr (by decide), trivial, ⟨hitem, trivial, trivial, trivial⟩, trivial⟩
  have hnote : sampleNote.request.Tabular := by
    refine ⟨.nil, ?_⟩
    rintro payload ⟨⟩
    trivial
  exact .cached _ (.addCase hnote (.addCase hpost (.empty "" "posts" "" "")))

theorem parse_encode_of_sample :
    sample.Built ∧ sample.Exact ∧ sample.toJson.depth ≤ Json.maxLevels ∧
      parse .json (sample.encode .json) = .ok { sample with cache := .empty } ∧
      (parse .json (sample.encode .json)).map (encode .json) = .ok (sample.encode .json) := by
  have hexact : sample.Exact := by
    unfold Exact
    rw [cases_sample]
    refine List.forall_mem_cons.mpr ⟨?_, List.forall_mem_singleton.mpr ?_⟩
    · rintro payload ⟨⟩
      simp [Payload.toJson, Json.Exact, Json.All, Json.AllItems, Json.AllMembers, Json.int,
        Json.Number.Kept, Json.Number.least, Json.Number.limit]
    · rintro payload ⟨⟩
      trivial
  have hdepth : sample.toJson.depth ≤ Json.maxLevels := by
    unfold toJson
    rw [cases_sample]
    decide
  exact ⟨built_sample, hexact, hdepth, parse_encode built_sample hexact hdepth⟩

end Scenario

end HttpScenario
