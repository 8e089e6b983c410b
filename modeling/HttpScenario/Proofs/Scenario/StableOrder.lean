import HttpScenario.Proofs.Scenario.CacheHistory
import HttpScenario.Proofs.Scenario.RoundTrip
/-!
# The order of cases

The cases of a scenario come from a document, which lists them in any order, and are added one at a
time.  They are sorted when the document is read, and again with each case that is added.
`StablySorted` says what should come of it, without sorting anything: the scenario has the cases
that have arrived, in ascending order of their numbers, and those of one number in the order in
which they arrived.

The main statement is `Scenario.cases_stably_sorted`.  Wherever the cases come from, a scenario has
them stably sorted, whatever else is done to it between one arrival and the next; and there is only
one way to have them so (`StablySorted.unique`).  Therefore two documents are read as the same cases
if they list the same ones of each number in the same order.

One arrival is one step (`StablySorted.append`): sorting leaves the cases of each number as they are
(`numbered_sortCases`), so that it does not matter how often it is done.
-/

namespace HttpScenario

/-! ### Cases of one number -/

/-- The cases that bear a number, in the order in which a list has them. -/
def numbered (number : UInt32) (cases : List TestCase) : List TestCase :=
  cases.filter fun case => case.order = number

theorem mem_numbered {number : UInt32} {case : TestCase} {cases : List TestCase} :
    case ∈ numbered number cases ↔ case ∈ cases ∧ case.order = number := by
  rw [numbered, List.mem_filter, decide_eq_true_eq]

theorem numbered_append (number : UInt32) (cases others : List TestCase) :
    numbered number (cases ++ others) = numbered number cases ++ numbered number others :=
  List.filter_append cases others

theorem numbered_cons_self (case : TestCase) (cases : List TestCase) :
    numbered case.order (case :: cases) = case :: numbered case.order cases :=
  List.filter_cons_of_pos (decide_eq_true rfl)

theorem numbered_cons_of_ne {number : UInt32} {case : TestCase} (h : case.order ≠ number)
    (cases : List TestCase) : numbered number (case :: cases) = numbered number cases :=
  List.filter_cons_of_neg (by rw [decide_eq_true_eq]; exact h)

/-- A case may come before or after cases that have other numbers. -/
theorem numbered_past {case : TestCase} (cases : List TestCase)
    (h : ∀ other ∈ cases, other.order ≠ case.order) (number : UInt32) (rest : List TestCase) :
    numbered number (case :: (cases ++ rest)) = numbered number (cases ++ case :: rest) := by
  rw [numbered_append number cases]
  by_cases hcase : case.order = number
  · subst hcase
    have hnone : numbered case.order cases = [] := by
      refine List.filter_eq_nil_iff.mpr fun other hother => ?_
      rw [decide_eq_true_eq]
      exact h other hother
    rw [numbered_cons_self, numbered_cons_self, numbered_append, hnone, List.nil_append,
      List.nil_append]
  · rw [numbered_cons_of_ne hcase, numbered_cons_of_ne hcase, numbered_append]

/-- Sorting keeps the cases of one number in their order. -/
theorem numbered_sortCases (number : UInt32) (cases : List TestCase) :
    numbered number (sortCases cases) = numbered number cases := by
  -- they are an ascending part of the list, which sorting keeps, and no other has their number
  have hascending : (numbered number cases).Pairwise fun a b =>
      decide (a.order ≤ b.order) = true := by
    refine List.pairwise_of_forall_mem_list fun a ha b hb => ?_
    rw [(mem_numbered.mp ha).2, (mem_numbered.mp hb).2]
    exact decide_eq_true (UInt32.le_refl number)
  have hpart : (numbered number cases).Sublist (sortCases cases) :=
    List.sublist_mergeSort TestCase.order_le_trans TestCase.order_le_total hascending
      List.filter_sublist
  have hkept : (numbered number cases).Sublist (numbered number (sortCases cases)) := by
    have hnumbered := hpart.filter fun case => decide (case.order = number)
    simp only [numbered, List.filter_filter, Bool.and_self] at hnumbered
    exact hnumbered
  have hlength : (numbered number cases).length = (numbered number (sortCases cases)).length :=
    ((List.mergeSort_perm cases _).filter _).length_eq.symm
  exact (hkept.eq_of_length hlength).symm

/-- A list has the cases that it has of their numbers. -/
theorem mem_iff_of_numbered_eq {xs ys : List TestCase}
    (h : ∀ number, numbered number xs = numbered number ys) (case : TestCase) :
    case ∈ xs ↔ case ∈ ys := by
  have hnumbered : case ∈ numbered case.order xs ↔ case ∈ numbered case.order ys := by
    rw [h]
  rwa [mem_numbered, mem_numbered, and_iff_left rfl, and_iff_left rfl] at hnumbered

/-- No case comes before the first one of an ascending list. -/
theorem order_le_of_mem {first case : TestCase} {cases : List TestCase}
    (h : (first :: cases).Pairwise fun a b => a.order ≤ b.order) (hcase : case ∈ first :: cases) :
    first.order ≤ case.order := by
  rcases List.mem_cons.mp hcase with rfl | hcase
  · exact UInt32.le_refl _
  · exact List.rel_of_pairwise_cons h hcase

/-- Ascending lists with the same cases of each number are the same. -/
theorem eq_of_numbered_eq {xs ys : List TestCase}
    (hxs : xs.Pairwise fun a b => a.order ≤ b.order)
    (hys : ys.Pairwise fun a b => a.order ≤ b.order)
    (h : ∀ number, numbered number xs = numbered number ys) : xs = ys := by
  have hmem := mem_iff_of_numbered_eq h
  induction xs generalizing ys with
  | nil => exact (List.eq_nil_iff_forall_not_mem.mpr fun y hy => by simpa using (hmem y).mpr hy).symm
  | cons x xs ih =>
    cases ys with
    | nil => exact absurd ((hmem x).mp List.mem_cons_self) List.not_mem_nil
    | cons y ys =>
      -- the first cases bear the same number, and so each is the first of that number
      have hle : x.order ≤ y.order := order_le_of_mem hxs ((hmem y).mpr List.mem_cons_self)
      have hge : y.order ≤ x.order := order_le_of_mem hys ((hmem x).mp List.mem_cons_self)
      have hnumber : y.order = x.order := UInt32.le_antisymm hge hle
      have hfirst : x :: numbered x.order xs = y :: numbered x.order ys := by
        have hself := h x.order
        rw [numbered_cons_self, ← hnumber, numbered_cons_self, hnumber] at hself
        exact hself
      obtain ⟨rfl, hrest⟩ := List.cons.inj hfirst
      have hothers : ∀ number, numbered number xs = numbered number ys := by
        intro number
        by_cases hx : x.order = number
        · rw [← hx, hrest]
        · have hnumbered := h number
          rwa [numbered_cons_of_ne hx, numbered_cons_of_ne hx] at hnumbered
      rw [ih hxs.of_cons hys.of_cons hothers (mem_iff_of_numbered_eq hothers)]

/-! ### Arrivals -/

/-- A list has the cases that have arrived, in ascending order of their numbers; those of one number
are in the order of their arrival. -/
structure StablySorted (arrival cases : List TestCase) : Prop where
  perm : cases.Perm arrival
  ascending : cases.Pairwise fun a b => a.order ≤ b.order
  numbered_eq : ∀ number, numbered number cases = numbered number arrival

namespace StablySorted

variable {arrival cases : List TestCase}

theorem nil : StablySorted [] [] :=
  ⟨.refl _, .nil, fun _ => rfl⟩

theorem unique {others : List TestCase} (h : StablySorted arrival cases)
    (hothers : StablySorted arrival others) : cases = others := by
  refine eq_of_numbered_eq h.ascending hothers.ascending fun number => ?_
  rw [h.numbered_eq, hothers.numbered_eq]

/-- More cases arrive, and all are sorted again. -/
theorem append (h : StablySorted arrival cases) (more : List TestCase) :
    StablySorted (arrival ++ more) (sortCases (cases ++ more)) where
  perm := (List.mergeSort_perm _ _).trans (h.perm.append_right more)
  ascending := pairwise_sortCases _
  numbered_eq := by
    intro number
    rw [numbered_sortCases, numbered_append, numbered_append, h.numbered_eq]

end StablySorted

theorem stablySorted_sortCases (arrival : List TestCase) :
    StablySorted arrival (sortCases arrival) :=
  StablySorted.nil.append arrival

/-- The cases that come with an operation: the one that is added, or none. -/
def Operation.arrivals : Operation → List TestCase
  | .addCase case => [case]
  | .seed _ _ => []
  | .resetCache => []
  | .run _ _ _ _ => []

namespace Scenario

theorem stablySorted_perform {scenario : Scenario} {arrival : List TestCase}
    (h : StablySorted arrival scenario.cases) (operation : Operation) :
    StablySorted (arrival ++ operation.arrivals) (scenario.perform operation).cases := by
  cases operation with
  | addCase case => exact h.append [case]
  | seed name body | resetCache | run evaluator clock transport sink =>
    rw [Operation.arrivals, List.append_nil]
    exact h

theorem stablySorted_performAll {scenario : Scenario} {arrival : List TestCase}
    (h : StablySorted arrival scenario.cases) (operations : List Operation) :
    StablySorted (arrival ++ operations.flatMap Operation.arrivals)
      (scenario.performAll operations).cases := by
  induction operations generalizing scenario arrival with
  | nil =>
    rw [List.flatMap_nil, List.append_nil]
    exact h
  | cons operation operations ih =>
    rw [List.flatMap_cons, ← List.append_assoc]
    exact ih (stablySorted_perform h operation)

/-! ### Documents -/

/-- A text that is read lists cases, and the scenario has them stably sorted. -/
theorem stablySorted_parse {format : Format} {text : String} {v : Json}
    (h : format.read shape text = .ok v) :
    ∃ scenario, parse format text = .ok scenario ∧
      StablySorted (listedCases v) scenario.cases :=
  ⟨ofJson v, map_eq_ok_iff.mpr ⟨v, h, rfl⟩, stablySorted_sortCases (listedCases v)⟩

/-- Any list of cases that can be written is listed by a document, in the order that it has. -/
theorem exists_read_listing {cases : List TestCase} (htabular : ({ cases } : Scenario).Tabular)
    (hexact : ({ cases } : Scenario).Exact)
    (hdepth : ({ cases } : Scenario).toJson.depth ≤ Json.maxLevels) :
    ∃ v, Format.json.read shape (({ cases } : Scenario).encode .json) = .ok v ∧
      listedCases v = cases := by
  obtain ⟨v, hreads, hlisted, -⟩ := ({ cases } : Scenario).exists_reads hdepth htabular hexact
  exact ⟨v, read_write_of_reads hreads, hlisted⟩

/-- A scenario has its cases stably sorted: those that a document lists, and those that are added
afterwards, among whatever else is done to it; or those that are added to a scenario without any.
There is one list that is stably sorted, and it is the same for two documents that list the same
cases of each number in the same order. -/
theorem cases_stably_sorted :
    (∀ (format : Format) (text : String) (v : Json), format.read shape text = .ok v →
      ∃ scenario, parse format text = .ok scenario ∧ ∀ operations : List Operation,
        StablySorted (listedCases v ++ operations.flatMap Operation.arrivals)
          (scenario.performAll operations).cases) ∧
      (∀ scenario : Scenario, scenario.cases = [] → ∀ operations : List Operation,
        StablySorted (operations.flatMap Operation.arrivals)
          (scenario.performAll operations).cases) ∧
      (∀ arrival cases others, StablySorted arrival cases → StablySorted arrival others →
        cases = others) ∧
      ∀ (format other : Format) (text otherText : String) (v w : Json),
        format.read shape text = .ok v → other.read shape otherText = .ok w →
        (∀ number, numbered number (listedCases v) = numbered number (listedCases w)) →
        ∃ scenario otherScenario, parse format text = .ok scenario ∧
          parse other otherText = .ok otherScenario ∧ scenario.cases = otherScenario.cases := by
  refine ⟨?_, ?_, fun _ _ _ h hothers => h.unique hothers, ?_⟩
  · intro format text v hread
    obtain ⟨scenario, hparse, hsorted⟩ := stablySorted_parse hread
    exact ⟨scenario, hparse, stablySorted_performAll hsorted⟩
  · intro scenario hcases operations
    have hsorted : StablySorted [] scenario.cases := by
      rw [hcases]
      exact StablySorted.nil
    exact stablySorted_performAll hsorted operations
  · intro format other text otherText v w hread hother hsame
    obtain ⟨scenario, hparse, hsorted⟩ := stablySorted_parse hread
    obtain ⟨otherScenario, hotherParse, hotherSorted⟩ := stablySorted_parse hother
    refine ⟨scenario, otherScenario, hparse, hotherParse, ?_⟩
    refine eq_of_numbered_eq hsorted.ascending hotherSorted.ascending fun number => ?_
    rw [hsorted.numbered_eq, hotherSorted.numbered_eq, hsame]

/-- A case of a number, known by its name. -/
def sampleNamed (order : UInt32) (name : String) : TestCase where
  order := order
  name := name
  request := { url := "http://api/posts" }
  expect := { statusCode := 200 }

theorem exists_read_of_named (cases : List TestCase)
    (h : ∀ case ∈ cases, ∃ order name, case = sampleNamed order name)
    (hdepth : ({ cases } : Scenario).toJson.depth ≤ Json.maxLevels) :
    ∃ v, Format.json.read shape (({ cases } : Scenario).encode .json) = .ok v ∧
      listedCases v = cases := by
  refine exists_read_listing ?_ ?_ hdepth
  · intro case hcase
    obtain ⟨order, name, rfl⟩ := h case hcase
    exact ⟨.nil, nofun⟩
  · intro case hcase
    obtain ⟨order, name, rfl⟩ := h case hcase
    exact nofun

/-- Two cases of one number, listed after one of a greater number. -/
def sampleLateFirst : List TestCase :=
  [sampleNamed 2 "late", sampleNamed 1 "first", sampleNamed 1 "second"]

/-- The same cases, with the one of the greater number between the others. -/
def sampleLateBetween : List TestCase :=
  [sampleNamed 1 "first", sampleNamed 2 "late", sampleNamed 1 "second"]

/-- Two cases of one number keep their order, wherever one of a greater number is listed, and a third
of their number that is added comes after them. -/
theorem cases_stably_sorted_of_named :
    ∃ v w scenario otherScenario,
      Format.json.read shape (({ cases := sampleLateFirst } : Scenario).encode .json) = .ok v ∧
      Format.json.read shape (({ cases := sampleLateBetween } : Scenario).encode .json) = .ok w ∧
      (∀ number, numbered number (listedCases v) = numbered number (listedCases w)) ∧
      parse .json (({ cases := sampleLateFirst } : Scenario).encode .json) = .ok scenario ∧
      parse .json (({ cases := sampleLateBetween } : Scenario).encode .json) = .ok otherScenario ∧
      scenario.cases = otherScenario.cases ∧
      (scenario.performAll [.seed "token" [49], .addCase (sampleNamed 1 "third")]).cases =
        [sampleNamed 1 "first", sampleNamed 1 "second", sampleNamed 1 "third",
          sampleNamed 2 "late"] ∧
      ({} : Scenario).cases = [] ∧
      (({} : Scenario).performAll
          [.addCase (sampleNamed 2 "late"), .addCase (sampleNamed 1 "first")]).cases =
        [sampleNamed 1 "first", sampleNamed 2 "late"] := by
  obtain ⟨hdocument, hblank, hunique, hsame⟩ := cases_stably_sorted
  obtain ⟨v, hread, hlisted⟩ :=
    exists_read_of_named sampleLateFirst (by simp [sampleLateFirst]) (by decide)
  obtain ⟨w, hother, hotherListed⟩ :=
    exists_read_of_named sampleLateBetween (by simp [sampleLateBetween]) (by decide)
  have hnumbered : ∀ number, numbered number (listedCases v) = numbered number (listedCases w) := by
    intro number
    rw [hlisted, hotherListed]
    exact numbered_past [sampleNamed 1 "first"] (by decide) number
      [sampleNamed 1 "second"]
  obtain ⟨scenario, otherScenario, hparse, hotherParse, hcases⟩ :=
    hsame _ _ _ _ v w hread hother hnumbered
  refine ⟨v, w, scenario, otherScenario, hread, hother, hnumbered, hparse, hotherParse, hcases,
    ?_, rfl, ?_⟩
  · obtain ⟨read, hreadParse, hsorted⟩ := hdocument _ _ v hread
    obtain rfl := Except.ok.inj (hreadParse.symm.trans hparse)
    refine hunique _ _ _ (hsorted [.seed "token" [49], .addCase (sampleNamed 1 "third")]) ?_
    rw [hlisted]
    refine ⟨List.perm_append_singleton (sampleNamed 2 "late") [sampleNamed 1 "first",
      sampleNamed 1 "second", sampleNamed 1 "third"], by decide, fun number => ?_⟩
    exact (numbered_past [sampleNamed 1 "first", sampleNamed 1 "second",
      sampleNamed 1 "third"] (by decide) number []).symm
  · refine hunique _ _ _ (hblank {} rfl _) ?_
    refine ⟨.swap _ _ [], by decide, fun number => ?_⟩
    exact (numbered_past [sampleNamed 1 "first"] (by decide) number []).symm

end Scenario

end HttpScenario
