import Mathlib.Data.List.Forall2
import StoryDirector.Merge
import StoryDirector.Proofs.Run.Feedback
/-!
# StoryDirector.Proofs.Merge.Failures

**Responses that failed contribute nothing** (`Merge.failures_contribute_nothing`). Two lists of
results that agree on all else, and differ in what workers sent and marked as failed, make the same
answer, and fed back they leave the same session and the same report of the cascade.

A response is looked at in several places: its story, its choices and its changes, the events that
it reports, those that its changes imply and those that its flags imply. Each of them is a function
of the responses that count, so it is enough that these are the same: over all results together for
the answer (`Merge.answer_congr`), result by result for the session
(`CascadeRules.integrate_congr`).
-/

namespace StoryDirector

/-- Two results of one task that differ at most in the responses that failed, and in the time it
took: it came off in both or in neither, and those responses that count are the same. -/
structure TaskResult.SameButFailures (one other : TaskResult) : Prop where
  task : one.task = other.task
  succeeded : one.succeeded = other.succeeded
  successful : one.successful = other.successful

/-- What such results agree on is the same for two lists of them. -/
theorem TaskResult.map_eq {α : Type} {results others : List TaskResult}
    (h : List.Forall₂ SameButFailures results others) {field : TaskResult → α}
    (hfield : ∀ {one other}, SameButFailures one other → field one = field other) :
    results.map field = others.map field := by
  induction h with
  | nil => rfl
  | cons hsame _ ih => rw [List.map_cons, List.map_cons, hfield hsame, ih]

variable {one other : List Response}

/-! ### What is read off responses -/

namespace Cascade

theorem derived_congr (h : successful one = successful other) (turn moment : Nat) :
    derived one turn moment = derived other turn moment := by
  rw [derived, derived, h]

theorem reported_congr (h : successful one = successful other) (turn : Nat) :
    reported one turn = reported other turn := by
  rw [reported, reported, h]

end Cascade

/-- Feeding responses back comes to the same, session and report, if those that count are the
same. -/
theorem CascadeRules.integrate_congr (h : successful one = successful other) (rules : CascadeRules)
    (session : Session) : rules.integrate one session = rules.integrate other session := by
  rw [integrate, integrate, Cascade.integrate, Cascade.integrate, Cascade.derived_congr h,
    Cascade.reported_congr h]

namespace Merge

theorem narratives?_congr (h : successful one = successful other) :
    narratives? one = narratives? other := by
  rw [narratives?, narratives?, h]

theorem stateChanges_congr (h : successful one = successful other) :
    stateChanges one = stateChanges other := by
  rw [stateChanges, stateChanges, h]

variable {results others : List TaskResult}

theorem successful_responsesOf (results : List TaskResult) :
    successful (responsesOf results) = results.flatMap (·.successful) := by
  rw [successful, responsesOf, List.filter_flatMap]
  rfl

/-- What the answer says about the run is read off the tasks and how they ended. -/
theorem metadata_congr
    (h : results.map (fun result => (result.task, result.succeeded)) =
      others.map fun result => (result.task, result.succeeded)) (facts : RunFacts) :
    metadata results facts = metadata others facts := by
  have hfailed : ∀ list : List TaskResult,
      (list.filter (!·.succeeded)).map (·.task.name) =
        ((list.map fun result => (result.task, result.succeeded)).filter (!·.2)).map
          (·.1.name) := by
    intro list
    rw [List.filter_map, List.map_map]
    rfl
  have hlength : results.length = others.length := by
    simpa only [List.length_map] using congrArg List.length h
  rw [metadata, metadata, hfailed results, hfailed others, h, hlength]

/-- The answer is a function of the responses that count, all together, and of what became of each
task. -/
theorem answer_congr
    (hcounting : successful (responsesOf results) = successful (responsesOf others))
    (htasks : results.map (fun result => (result.task, result.succeeded)) =
      others.map fun result => (result.task, result.succeeded))
    (settings : MergeSettings) (cascade : List Event) (facts : RunFacts) :
    answer settings results cascade facts = answer settings others cascade facts := by
  rw [answer, answer, narratives?_congr hcounting, hcounting, stateChanges_congr hcounting,
    Cascade.reported_congr hcounting, metadata_congr htasks]

end Merge

/-! ### Results fed back one after another -/

namespace CascadeRules

variable (rules : CascadeRules)

/-- Feeds one more contribution back; its report is added to the one so far. -/
def feedOne (sofar : Session × CascadeReport) (responses : List Response) :
    Session × CascadeReport :=
  let passed := rules.integrate responses sofar.1
  (passed.1, sofar.2.absorb passed.2)

/-- Feeds contributions back one after another; the reports are added up. -/
def feed (contributions : List (List Response)) (session : Session) : Session × CascadeReport :=
  contributions.foldl rules.feedOne (session, {})

theorem feed_concat (contributions : List (List Response)) (responses : List Response)
    (session : Session) : rules.feed (contributions ++ [responses]) session =
      rules.feedOne (rules.feed contributions session) responses := by
  rw [feed, List.foldl_append]
  rfl

/-- Contributions in which the same responses count come to the same. -/
theorem feed_congr {contributions others : List (List Response)}
    (h : contributions.map StoryDirector.successful = others.map StoryDirector.successful)
    (session : Session) : rules.feed contributions session = rules.feed others session := by
  rw [feed, feed]
  generalize (session, ({} : CascadeReport)) = sofar
  induction contributions generalizing others sofar with
  | nil =>
      obtain rfl := List.map_eq_nil_iff.mp h.symm
      rfl
  | cons responses rest ih =>
      cases others with
      | nil => cases h
      | cons other others =>
          rw [List.map_cons, List.map_cons, List.cons.injEq] at h
          have hone : rules.feedOne sofar responses = rules.feedOne sofar other := by
            rw [feedOne, feedOne, integrate_congr h.1]
          rw [List.foldl_cons, List.foldl_cons, hone]
          exact ih h.2 _

end CascadeRules

/-- What a run made of its session, and its report of the cascade, are what its results come to when
they are fed back one after another. -/
theorem Run.keeps_feed (setup : RunSetup) (start : Session) : Keeps setup fun _ run =>
    (run.session, run.report) =
      setup.cascade.feed (run.ledger.results.map (·.responses)) start where
  going := fun h _ => h
  ended := by
    intro engine after run attempt result todo h _
    have hrun : (run.session, run.report) =
        setup.cascade.feed (run.ledger.results.map (·.responses)) start := h
    show ((run.record setup result).session, (run.record setup result).report) =
      setup.cascade.feed ((run.record setup result).ledger.results.map (·.responses)) start
    rw [results_record, List.map_append, List.map_singleton, CascadeRules.feed_concat, ← hrun]
    rfl
  stopped := fun h => h

namespace Merge

variable {results others : List TaskResult}

/-- **Failed responses contribute nothing.** Of two lists of results, the responses that failed may
differ in everything: in number, place and content. The answer is the same all the same, and so are
the session and the report once the results are fed back, whatever the processor makes of events
and sessions. -/
theorem failures_contribute_nothing (h : List.Forall₂ TaskResult.SameButFailures results others)
    (settings : MergeSettings) (cascade : List Event) (facts : RunFacts) (rules : CascadeRules)
    (session : Session) :
    answer settings results cascade facts = answer settings others cascade facts ∧
      rules.feed (results.map (·.responses)) session =
        rules.feed (others.map (·.responses)) session := by
  have hcounting : results.map (·.successful) = others.map (·.successful) :=
    TaskResult.map_eq h fun hsame => hsame.successful
  have htasks : results.map (fun result => (result.task, result.succeeded)) =
      others.map fun result => (result.task, result.succeeded) :=
    TaskResult.map_eq h fun hsame => by rw [hsame.task, hsame.succeeded]
  constructor
  · refine answer_congr ?_ htasks settings cascade facts
    rw [successful_responsesOf, successful_responsesOf, List.flatMap, List.flatMap, hcounting]
  · refine rules.feed_congr ?_ session
    rw [List.map_map, List.map_map]
    exact hcounting

/-- A world simulator that failed has much to say before and after the one response that counts; in
the other run it is not heard of at all, and the historian is down. The writer's lantern is lit in
either. -/
theorem failures_contribute_nothing_gossip :
    let scene : Task := { id := "scene", name := "scene", mode := .parallel }
    let told : Response :=
      { worker := .narrativeWriter, narrative := some "A lantern is lit."
        stateChanges := [("lantern", .bool true)] }
    let gossip : Response :=
      { worker := .worldSimulator, narrative := some "The town burns."
        choices := some [{ text := "Flee" }], stateChanges := [("lantern", .bool false)]
        events := [{ id := .known ⟨4⟩, kind := .npcDeath
                     payload := .object [("name", .text "Mira")] }]
        metadata := [("world_event", .text "fire")], success := false }
    let results : List TaskResult := [{ task := scene, responses := [gossip, told, gossip] }]
    let others : List TaskResult :=
      [{ task := scene, responses := [told, .failure .historian (.unavailable "asleep")] }]
    let settings : MergeSettings := {}
    let facts : RunFacts := { kind := .exploration, turn := 2, hitRate := 0 }
    let rules := CascadeRules.standard {}
    let session : Session := { id := ⟨1⟩, turn := 2 }
    List.Forall₂ TaskResult.SameButFailures results others ∧
      answer settings results [] facts = answer settings others [] facts ∧
      rules.feed (results.map (·.responses)) session =
        rules.feed (others.map (·.responses)) session ∧
      (answer settings results [] facts).narrative = "A lantern is lit." ∧
      (rules.feed (results.map (·.responses)) session).2.events.map (·.kind) = [.stateChange] := by
  intro scene told gossip results others settings facts rules session
  have hsame : List.Forall₂ TaskResult.SameButFailures results others :=
    .cons ⟨rfl, rfl, rfl⟩ .nil
  obtain ⟨hanswer, hfed⟩ := failures_contribute_nothing hsame settings [] facts rules session
  exact ⟨hsame, hanswer, hfed, by decide +kernel, by decide +kernel⟩

end Merge

end StoryDirector
