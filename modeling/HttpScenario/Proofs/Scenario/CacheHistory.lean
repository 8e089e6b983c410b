import HttpScenario.Proofs.Case.Conditions
import HttpScenario.Proofs.Http.Exchange
import HttpScenario.Proofs.Scenario.Turns
import Mathlib
/-!
# The cache and its history

The cache of a scenario is changed by seeding it, by resetting it and by runs, in any order and any
number of times.  A history lists what that did: a `CacheEvent` for each body that was stored, and
one for each time that all bodies were dropped.  `replay` reads a history without a cache: the body
under a name is the last one that was stored there since the bodies were last dropped.

The main statement is `cache_follows_history`.  A scenario that starts without bodies has at each
moment the bodies that its history tells of, whatever is done to it; this includes the moment at
which a case is started in the middle of a run.  A run adds to the history one event for each case
that succeeds and asks for its body to be cached, and no other (`Turn.events`).

The proof is one step for each thing that can change the cache (`Cache.follows_store`,
`Cache.follows_reset`, `Turn.follows_after`), and then an induction over the turns of a run
(`Relay.follows`) and over what is done to the scenario (`Scenario.follows_performAll`).
-/

namespace HttpScenario

/-! ### Histories -/

/-- Something that changes which bodies there are. -/
inductive CacheEvent where
  /-- A body is stored under a name. -/
  | stored (name : String) (body : Octets)
  /-- All bodies are dropped. -/
  | emptied
  deriving DecidableEq, Repr

/-- The bodies by name after an event. -/
def CacheEvent.apply (bodies : String → Option Octets) : CacheEvent → String → Option Octets
  | stored name body => fun other => if other = name then some body else bodies other
  | emptied => fun _ => none

/-- The bodies by name after a history, which starts with none. -/
def replay (history : List CacheEvent) : String → Option Octets :=
  history.foldl CacheEvent.apply fun _ => none

theorem replay_append_singleton (history : List CacheEvent) (event : CacheEvent) :
    replay (history ++ [event]) = event.apply (replay history) := by
  unfold replay
  rw [List.foldl_append, List.foldl_cons, List.foldl_nil]

namespace Cache

/-- The cache has the bodies that a history tells of, and each name once. -/
structure Follows (cache : Cache) (history : List CacheEvent) : Prop where
  get?_eq : ∀ name, cache.get? name = replay history name
  sorted : cache.entries.Sorted

theorem follows_empty : empty.Follows [] :=
  ⟨fun _ => rfl, List.Pairwise.nil⟩

theorem follows_store {cache : Cache} {history : List CacheEvent} (h : cache.Follows history)
    (name : String) (body : Octets) :
    (cache.insert name body).Follows (history ++ [.stored name body]) := by
  refine ⟨?_, Table.sorted_insert name body h.sorted⟩
  intro other
  rw [replay_append_singleton]
  by_cases hname : other = name
  · subst hname
    rw [get?_insert_self]
    exact (if_pos rfl).symm
  · rw [get?_insert_of_ne hname, h.get?_eq other]
    exact (if_neg hname).symm

theorem follows_reset (history : List CacheEvent) : empty.Follows (history ++ [.emptied]) := by
  refine ⟨?_, List.Pairwise.nil⟩
  intro name
  rw [replay_append_singleton]
  rfl

end Cache

/-! ### A turn -/

namespace Turn

/-- What a turn adds to the history: its body is stored if the case succeeds and asks for that. -/
def events (turn : Turn) : List CacheEvent :=
  if turn.Succeeds ∧ turn.case.pipeline.cache = true then
    turn.body?.toList.map fun body => .stored turn.case.pipeline.cacheAs body
  else []

theorem exists_body_of_succeeds {turn : Turn} (h : turn.Succeeds) :
    ∃ body, turn.body? = some body ∧
      turn.after.cache = turn.case.cacheAfter body turn.session.cache := by
  obtain ⟨body, houtcome⟩ :=
    Trial.outcome_of_failure_eq_none (turn.leaves.failure.symm.trans h)
  refine ⟨body, body?_of_outcome_eq_ok houtcome, ?_⟩
  rw [turn.leaves.cache, Trial.cacheAfter_of_ok houtcome, case_trial, cache_trial]

/-- If the case fails, at whichever stage, the cache is left as it was. -/
theorem cache_after_of_not_succeeds {turn : Turn} (h : ¬ turn.Succeeds) :
    turn.after.cache = turn.session.cache := by
  have hfailure : turn.trial.failure ≠ none := by
    rw [← turn.leaves.failure]
    exact h
  rw [turn.leaves.cache, Trial.cacheAfter_of_failure_ne_none hfailure, cache_trial]

theorem events_of_not {turn : Turn} (h : ¬ (turn.Succeeds ∧ turn.case.pipeline.cache = true)) :
    turn.events = [] :=
  if_neg h

theorem events_of_body {turn : Turn} {body : Octets} (hbody : turn.body? = some body)
    (hsucceeds : turn.Succeeds) (hcache : turn.case.pipeline.cache = true) :
    turn.events = [.stored turn.case.pipeline.cacheAs body] := by
  rw [events, if_pos ⟨hsucceeds, hcache⟩, hbody, Option.toList_some, List.map_singleton]

/-- A turn adds its events to what the cache follows. -/
theorem follows_after {turn : Turn} {history : List CacheEvent}
    (h : turn.session.cache.Follows history) :
    turn.after.cache.Follows (history ++ turn.events) := by
  by_cases hsucceeds : turn.Succeeds
  · obtain ⟨body, hbody, hafter⟩ := exists_body_of_succeeds hsucceeds
    rw [hafter, TestCase.cacheAfter]
    by_cases hcache : turn.case.pipeline.cache = true
    · rw [if_pos hcache, events_of_body hbody hsucceeds hcache]
      exact Cache.follows_store h _ body
    · rw [if_neg hcache, events_of_not fun hboth => hcache hboth.2, List.append_nil]
      exact h
  · rw [cache_after_of_not_succeeds hsucceeds, events_of_not fun hboth => hsucceeds hboth.1,
      List.append_nil]
    exact h

/-- A turn may store a body over another one, but drops none. -/
theorem isSome_get?_after {turn : Turn} {name : String}
    (h : (turn.session.cache.get? name).isSome) : (turn.after.cache.get? name).isSome := by
  by_cases hsucceeds : turn.Succeeds
  · obtain ⟨body, -, hafter⟩ := exists_body_of_succeeds hsucceeds
    rw [hafter, TestCase.cacheAfter]
    split
    · by_cases hname : name = turn.case.pipeline.cacheAs
      · rw [hname, Cache.get?_insert_self, Option.isSome_some]
      · rw [Cache.get?_insert_of_ne hname]
        exact h
    · exact h
  · rw [cache_after_of_not_succeeds hsucceeds]
    exact h

end Turn

/-! ### A run -/

/-- Along turns that are passed a session, the cache follows their events. -/
theorem Relay.follows {session final : Session} {turns : List Turn}
    (h : Relay session turns final) {history : List CacheEvent}
    (hstart : session.cache.Follows history) :
    final.cache.Follows (history ++ turns.flatMap Turn.events) := by
  refine h.invariant
    (P := fun before session => session.cache.Follows (history ++ before.flatMap Turn.events))
    ?_ [] ?_
  · intro before turn hbefore
    rw [List.flatMap_append, List.flatMap_singleton, ← List.append_assoc]
    exact Turn.follows_after hbefore
  · rw [List.flatMap_nil, List.append_nil]
    exact hstart

theorem Relay.isSome_get? {session final : Session} {turns : List Turn}
    (h : Relay session turns final) {name : String}
    (hstart : (session.cache.get? name).isSome) : (final.cache.get? name).isSome :=
  h.invariant (P := fun _ session => (session.cache.get? name).isSome)
    (fun _ _ hbefore => Turn.isSome_get?_after hbefore) [] hstart

/-- What holds of the cache when a scenario is run that has come to its bodies by a history. -/
structure Scenario.KeepsHistory (scenario : Scenario) (history : List CacheEvent)
    (evaluator : EvaluatorKind) (clock : Nat → Int64) (transport : Transport) (sink : Sink) :
    Prop where
  /-- The turns are those of the run: each has left its result. -/
  results : (scenario.run evaluator clock transport sink).outcome.results =
    (scenario.turns evaluator clock transport sink).map (·.report.result)
  /-- A case starts with the history and what the turns before it have added. -/
  start : ∀ before turn rest,
    scenario.turns evaluator clock transport sink = before ++ turn :: rest →
      turn.session.cache.Follows (history ++ before.flatMap Turn.events)
  /-- A case that succeeds adds its body if it asks for that, and otherwise nothing. -/
  succeeded : ∀ turn ∈ scenario.turns evaluator clock transport sink, turn.Succeeds →
    ∃ body, turn.body? = some body ∧
      turn.events =
        if turn.case.pipeline.cache then [.stored turn.case.pipeline.cacheAs body] else []
  /-- A case that fails adds nothing, and leaves the cache as it was. -/
  failed : ∀ turn ∈ scenario.turns evaluator clock transport sink, ¬ turn.Succeeds →
    turn.events = [] ∧ turn.after.cache = turn.session.cache
  /-- The run ends with the history and what all turns have added. -/
  final : (scenario.run evaluator clock transport sink).scenario.cache.Follows
    (history ++ (scenario.turns evaluator clock transport sink).flatMap Turn.events)
  /-- No name loses its body. -/
  kept : ∀ name, (scenario.cache.get? name).isSome →
    ((scenario.run evaluator clock transport sink).scenario.cache.get? name).isSome
  /-- Nothing of the scenario but its cache is changed. -/
  unchanged : (scenario.run evaluator clock transport sink).scenario =
    { scenario with cache := (scenario.run evaluator clock transport sink).scenario.cache }

theorem Scenario.keepsHistory {scenario : Scenario} {history : List CacheEvent}
    (h : scenario.cache.Follows history) (evaluator : EvaluatorKind) (clock : Nat → Int64)
    (transport : Transport) (sink : Sink) :
    scenario.KeepsHistory history evaluator clock transport sink := by
  have hrelay := scenario.relay_run evaluator clock transport sink
  refine
    { results := (scenario.runs_run evaluator clock transport sink).results_eq
      start := fun before turn rest hsplit => (hrelay.before hsplit).follows h
      succeeded := ?_
      failed := ?_
      final := ?_
      kept := ?_
      unchanged := ?_ }
  · intro turn _ hsucceeds
    obtain ⟨body, hbody, -⟩ := Turn.exists_body_of_succeeds hsucceeds
    refine ⟨body, hbody, ?_⟩
    by_cases hcache : turn.case.pipeline.cache = true
    · rw [if_pos hcache, Turn.events_of_body hbody hsucceeds hcache]
    · rw [if_neg hcache, Turn.events_of_not fun hboth => hcache hboth.2]
  · intro turn _ hfails
    exact ⟨Turn.events_of_not fun hboth => hfails hboth.1,
      Turn.cache_after_of_not_succeeds hfails⟩
  · rw [cache_run]
    exact hrelay.follows h
  · intro name hname
    rw [cache_run]
    exact hrelay.isSome_get? hname
  · rw [cache_run, run_eq]

/-! ### All that is done to a scenario -/

/-- Something that is done to a scenario. -/
inductive Operation where
  | addCase (case : TestCase)
  | seed (name : String) (body : Octets)
  | resetCache
  | run (evaluator : EvaluatorKind) (clock : Nat → Int64) (transport : Transport) (sink : Sink)

namespace Scenario

/-- The scenario after an operation. -/
def perform (scenario : Scenario) : Operation → Scenario
  | .addCase case => scenario.addCase case
  | .seed name body => scenario.seed name body
  | .resetCache => scenario.resetCache
  | .run evaluator clock transport sink => (scenario.run evaluator clock transport sink).scenario

/-- The scenario after operations, in order. -/
def performAll (scenario : Scenario) (operations : List Operation) : Scenario :=
  operations.foldl perform scenario

/-- What an operation adds to the history. -/
def events (scenario : Scenario) : Operation → List CacheEvent
  | .addCase _ => []
  | .seed name body => [.stored name body]
  | .resetCache => [.emptied]
  | .run evaluator clock transport sink =>
    (scenario.turns evaluator clock transport sink).flatMap Turn.events

/-- The history that operations give a scenario. -/
def history (scenario : Scenario) : List Operation → List CacheEvent
  | [] => []
  | operation :: operations =>
    scenario.events operation ++ (scenario.perform operation).history operations

theorem follows_perform {scenario : Scenario} {history : List CacheEvent}
    (h : scenario.cache.Follows history) (operation : Operation) :
    (scenario.perform operation).cache.Follows (history ++ scenario.events operation) := by
  cases operation with
  | addCase case =>
    rw [events, List.append_nil]
    exact h
  | seed name body => exact Cache.follows_store h name body
  | resetCache => exact Cache.follows_reset history
  | run evaluator clock transport sink =>
    exact (keepsHistory h evaluator clock transport sink).final

theorem follows_performAll {scenario : Scenario} {history : List CacheEvent}
    (h : scenario.cache.Follows history) (operations : List Operation) :
    (scenario.performAll operations).cache.Follows (history ++ scenario.history operations) := by
  induction operations generalizing scenario history with
  | nil =>
    rw [Scenario.history, List.append_nil]
    exact h
  | cons operation operations ih =>
    rw [Scenario.history, ← List.append_assoc]
    exact ih (follows_perform h operation)

end Scenario

/-- A scenario that starts without bodies has the bodies that its history tells of, whatever is done
to it, and so have the cases of a run that comes next. -/
theorem cache_follows_history {scenario : Scenario} (hempty : scenario.cache = .empty)
    (operations : List Operation) :
    (scenario.performAll operations).cache.Follows (scenario.history operations) ∧
      ∀ evaluator clock transport sink,
        (scenario.performAll operations).KeepsHistory (scenario.history operations) evaluator clock
          transport sink := by
  have hstart : scenario.cache.Follows [] := by
    rw [hempty]
    exact Cache.follows_empty
  have hnow := Scenario.follows_performAll hstart operations
  rw [List.nil_append] at hnow
  exact ⟨hnow, Scenario.keepsHistory hnow⟩

/-! ### A run of two cases -/

/-- A case whose body is kept as the token if it succeeds. -/
def sampleLogin (name : String) : TestCase where
  order := 1
  name := name
  request := { url := "x:y" }
  expect := { statusCode := 200 }
  pipeline := { cache := true, cacheAs := "token" }

/-- Two such cases. -/
def sampleLogins : Scenario where
  cases := [sampleLogin "login", sampleLogin "renewal"]

/-- The first request is answered with the status that is expected, the second is not. -/
def sampleAnswers : Transport where
  replies := [.answered { status := 200 } (.ok [0x7B, 0x7D]) .zero,
    .answered { status := 500 } (.ok [0x7B, 0x7D]) .zero]

theorem build_sampleLogin (name : String) (cache : Cache) :
    (sampleLogin name).request.build cache =
      .ok { method := "GET", url := "x:y", headers := [], body := none } := by
  show Request.build { url := "x:y" } cache = _
  cbv

section sample

variable {name : String} {turn : Turn} {head : ReplyHead} {read : Except Error Octets}
  {elapsed : Double} {others : List Reply}

theorem answered_sampleLogin (hcase : turn.case = sampleLogin name)
    (hreplies : turn.session.transport.replies = .answered head read elapsed :: others) :
    turn.trial.Answered head read ∧ turn.after.transport.replies = others := by
  have hbuild : turn.trial.case.request.build turn.trial.cache =
      .ok { method := "GET", url := "x:y", headers := [], body := none } := by
    rw [Turn.case_trial, hcase]
    exact build_sampleLogin name turn.trial.cache
  refine ⟨⟨_, elapsed, hbuild, ?_⟩, ?_⟩
  · rw [Turn.transport_trial, Transport.reply_send, hreplies]
    rfl
  · rw [turn.leaves.transport, Trial.transportAfter_of_some (Trial.request?_eq_some_iff.mpr hbuild),
      Turn.transport_trial, Transport.replies_send, hreplies]
    rfl

theorem outcomeOfBody_sampleLogin (hcase : turn.case = sampleLogin name) :
    turn.trial.outcomeOfBody [0x7B, 0x7D] = .ok [0x7B, 0x7D] := by
  have hobject : bodyObject [0x7B, 0x7D] none = .ok [] := by
    cbv
  have hprojection : (sampleLogin name).expect.projection = none := rfl
  rw [Trial.outcomeOfBody, Turn.case_trial, hcase, Expectation.checkBody, hprojection, hobject]
  rfl

end sample

/-- The first case succeeds, and the second one fails. -/
theorem turns_sampleLogins {context : RunContext} {session : Session}
    (hsession : session.transport = sampleAnswers) :
    ∃ login renewal, turns context 1 sampleLogins.cases session = [login, renewal] ∧
      (login.case = sampleLogin "login" ∧ login.Succeeds ∧ login.body? = some [0x7B, 0x7D]) ∧
        renewal.case = sampleLogin "renewal" ∧ ¬ renewal.Succeeds := by
  obtain ⟨login, hlogin⟩ : ∃ login, context.turn 1 (sampleLogin "login") session = login :=
    ⟨_, rfl⟩
  have hcase : login.case = sampleLogin "login" := by
    rw [← hlogin, RunContext.case_turn]
  obtain ⟨hanswered, hleft⟩ := answered_sampleLogin hcase (by
    rw [← hlogin, RunContext.session_turn, hsession, sampleAnswers])
  have hpassed : login.trial.outcome = .ok [0x7B, 0x7D] := by
    rw [hanswered.outcome_eq, Trial.outcomeOfAnswer_of_read (by rw [Turn.case_trial, hcase]; rfl),
      outcomeOfBody_sampleLogin hcase]
  have hsucceeds : login.Succeeds := by
    rw [Turn.Succeeds, login.leaves.failure, Trial.failure_of_ok hpassed]
  obtain ⟨renewal, hrenewal⟩ :
      ∃ renewal, context.turn 2 (sampleLogin "renewal") login.after = renewal := ⟨_, rfl⟩
  have hcase' : renewal.case = sampleLogin "renewal" := by
    rw [← hrenewal, RunContext.case_turn]
  obtain ⟨hanswered', -⟩ := answered_sampleLogin hcase' (by
    rw [← hrenewal, RunContext.session_turn, hleft])
  have hfails : ¬ renewal.Succeeds := by
    have hstatus : (500 : UInt16) ≠ renewal.trial.case.expect.statusCode := by
      rw [Turn.case_trial, hcase']
      decide
    have hfailed := hanswered'.outcome_eq.trans (Trial.outcomeOfAnswer_of_ne hstatus _)
    rw [Turn.Succeeds, renewal.leaves.failure, Trial.failure_of_error hfailed]
    exact Option.some_ne_none _
  refine ⟨login, renewal, ?_, ⟨hcase, hsucceeds, Turn.body?_of_outcome_eq_ok hpassed⟩, hcase',
    hfails⟩
  have hgoes : ¬ login.Stops := fun hstops => hstops.1 hsucceeds
  show turns context 1 [sampleLogin "login", sampleLogin "renewal"] session = _
  rw [turns_cons_of_not_stops hlogin hgoes, turns_singleton, hrenewal]

/-- The body of the case that succeeds takes the place of what was seeded, and the case that fails
after it changes nothing, for all that its answer has a body too. -/
theorem cache_follows_history_of_logins :
    sampleLogins.cache = .empty ∧
      (∃ login renewal,
        (sampleLogins.performAll [.seed "token" [49]]).turns .script (fun _ => 0) sampleAnswers
          .reliable = [login, renewal] ∧
        (login.case = sampleLogin "login" ∧ login.Succeeds) ∧
        renewal.case = sampleLogin "renewal" ∧ ¬ renewal.Succeeds) ∧
      (sampleLogins.performAll
        [.seed "token" [49], .run .script (fun _ => 0) sampleAnswers .reliable]).cache.get? "token" =
          some [0x7B, 0x7D] := by
  have hempty : sampleLogins.cache = .empty := rfl
  have hkeeps := (cache_follows_history hempty [.seed "token" [49]]).2 .script (fun _ => 0)
    sampleAnswers .reliable
  obtain ⟨login, renewal, hturns, ⟨hlogin, hsucceeds, hbody⟩, hrenewal, hfails⟩ :
      ∃ login renewal,
        (sampleLogins.performAll [.seed "token" [49]]).turns .script (fun _ => 0) sampleAnswers
          .reliable = [login, renewal] ∧
        (login.case = sampleLogin "login" ∧ login.Succeeds ∧ login.body? = some [0x7B, 0x7D]) ∧
        renewal.case = sampleLogin "renewal" ∧ ¬ renewal.Succeeds := turns_sampleLogins rfl
  refine ⟨hempty, ⟨login, renewal, hturns, ⟨hlogin, hsucceeds⟩, hrenewal, hfails⟩, ?_⟩
  obtain ⟨body, hread, hstored⟩ := hkeeps.succeeded login (by simp [hturns]) hsucceeds
  obtain rfl : body = [0x7B, 0x7D] := Option.some.inj (hread.symm.trans hbody)
  have hnone := (hkeeps.failed renewal (by simp [hturns]) hfails).1
  have hfinal := hkeeps.final.get?_eq "token"
  rw [hturns, List.flatMap_cons, List.flatMap_singleton, hstored, hnone, hlogin] at hfinal
  exact hfinal

end HttpScenario
