import StoryDirector.Action.Keyword
import StoryDirector.Cascade.Derived
import StoryDirector.Plan.Task
import StoryDirector.Settings
/-!
# StoryDirector.Merge

From the results of a plan to one answer. **Responses are merged in the order in which they were
completed, only those that count are used, and the answer is never empty**: without a story there is
a placeholder, and there is always something that the player may do next.
-/

namespace StoryDirector

/-- The answer to an action. -/
structure Answer where
  /-- The story. -/
  narrative : String
  /-- What the player may do next. -/
  choices : List Choice
  /-- The changes to the state of the world. -/
  stateChanges : Dict Json
  /-- What happened. -/
  events : List Event
  /-- Facts about the run. -/
  metadata : Dict Json

/-- What the answer says about the run. -/
structure RunFacts where
  /-- The kind of the action. -/
  kind : ActionKind
  /-- The number of the turn. -/
  turn : Nat
  /-- The share of cache look-ups that were hits. -/
  hitRate : Float

namespace Merge

/-- The pieces of the story in order, with a blank line between them. -/
def narratives? (responses : List Response) : Option String :=
  match (successful responses).filterMap (·.narrativeText?) with
  | [] => none
  | parts => some ("\n\n".intercalate parts)

/-- Words for places where people live. -/
def settlementWords : List String :=
  ["町", "村", "街", "town", "village", "city", "settlement"]

/-- Words for places where no one lives. -/
def wildernessWords : List String :=
  ["森", "山", "川", "forest", "mountain", "river", "wilderness"]

/-- A choice to explore. -/
def explore (text : String) : Choice :=
  { text, kind := some .exploration }

/-- Choices that a story suggests by the places it mentions. -/
def suggested (narrative : String) : List Choice :=
  (if Keyword.anyOccurs narrative settlementWords then [explore "Explore the settlement"]
    else []) ++
  (if Keyword.anyOccurs narrative wildernessWords then [explore "Search the surroundings"]
    else [])

/-- The choices that are offered whatever the workers say; there is always one. -/
def contextual (narrative : String) : List Choice :=
  match suggested narrative with
  | [] => [explore "Look around"]
  | choices => choices

/-- The choices whose text is not among those seen before. -/
def firstOfEach (seen : List String) : List Choice → List Choice
  | [] => []
  | choice :: rest =>
    if choice.text ∈ seen then firstOfEach seen rest
    else choice :: firstOfEach (choice.text :: seen) rest

/-- Choices without repetition, at most `cap` of them. -/
def distinct (choices : List Choice) (cap : Nat) : List Choice :=
  (firstOfEach [] choices).take cap

/-- The changes of all responses that count; of two changes of one name the later stands. -/
def stateChanges (responses : List Response) : Dict Json :=
  (successful responses).foldl
    (fun changes response => Dict.putAll changes response.stateChanges) []

/-- The facts about a run as extras of the answer. -/
def metadata (results : List TaskResult) (facts : RunFacts) : Dict Json :=
  let failed := (results.filter (!·.succeeded)).map (·.task.name)
  Dict.ofEntries
    [("action_kind", .text facts.kind.name),
     ("turn_number", .int facts.turn),
     ("tasks_total", .int results.length),
     ("tasks_failed", .int failed.length),
     ("failed_tasks", .array (failed.map .text)),
     ("cache_hit_rate", Json.ofFloat facts.hitRate)]

/-- The answer that the results of a plan make. -/
def answer (settings : MergeSettings) (results : List TaskResult) (cascade : List Event)
    (facts : RunFacts) : Answer :=
  let responses := responsesOf results
  let narrative := (narratives? responses).getD settings.placeholder
  let offered := (successful responses).flatMap (·.choiceList)
  { narrative
    choices := distinct (offered ++ contextual narrative) (max settings.maxChoices 1)
    stateChanges := stateChanges responses
    events := Cascade.reported responses facts.turn ++ cascade
    metadata := metadata results facts }

theorem contextual_ne_nil (narrative : String) : contextual narrative ≠ [] := by
  unfold contextual
  split
  · simp
  · assumption

@[simp] theorem firstOfEach_nil (seen : List String) : firstOfEach seen [] = [] := rfl

theorem text_not_mem_of_mem_firstOfEach {seen : List String} {choices : List Choice}
    {choice : Choice} (h : choice ∈ firstOfEach seen choices) : choice.text ∉ seen := by
  induction choices generalizing seen with
  | nil => cases h
  | cons first rest ih =>
    unfold firstOfEach at h
    split at h
    · exact ih h
    · rcases List.mem_cons.mp h with h | h
      · subst h
        assumption
      · exact fun hmem => ih h (List.mem_cons_of_mem _ hmem)

end Merge

end StoryDirector
