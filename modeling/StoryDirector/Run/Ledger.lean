import StoryDirector.Plan.Task
/-!
# StoryDirector.Run.Ledger

The results of a run so far, in the order in which they came. **A task that depends on others goes
on at the first look at which all of them are in the ledger**, whatever else was recorded meanwhile,
and gives up at the first look after its time is over at which some are not (`Ledger.wait?`).
-/

namespace StoryDirector

/-- Results in the order in which they were recorded. -/
structure Ledger where
  /-- The results. -/
  results : List TaskResult := []

namespace Ledger

/-- The ledger with one more result. -/
def record (ledger : Ledger) (result : TaskResult) : Ledger where
  results := ledger.results ++ [result]

/-- Whether there is a result of a task with an identity. -/
def has (ledger : Ledger) (id : String) : Bool :=
  ledger.results.any (·.task.id = id)

/-- Those of some identities of which there is no result, in their order. -/
def missing (ledger : Ledger) (ids : List String) : List String :=
  ids.filter (!ledger.has ·)

/-- All responses so far, in the order of the results. -/
def responses (ledger : Ledger) : List Response :=
  responsesOf ledger.results

/-- Whether a wait for some tasks, begun at `since`, is over at `now`, and how: nothing while it
goes on, and an error once its time is up and some are still missing. -/
def wait? (ledger : Ledger) (ids : List String) (limit : Duration) (since now : Instant) :
    Option (Except TaskError Unit) :=
  if (ledger.missing ids).isEmpty then some (.ok ())
  else if since + limit ≤ now then
    some (.error (.dependencyTimeout (ledger.missing ids) limit))
  else none

@[simp] theorem missing_nil (ledger : Ledger) : ledger.missing [] = [] := rfl

theorem mem_missing {ledger : Ledger} {ids : List String} {id : String} :
    id ∈ ledger.missing ids ↔ id ∈ ids ∧ ledger.has id = false := by
  simp [missing]

theorem missing_eq_nil_iff {ledger : Ledger} {ids : List String} :
    ledger.missing ids = [] ↔ ∀ id ∈ ids, ledger.has id = true := by
  simp [missing]

@[simp] theorem responses_record (ledger : Ledger) (result : TaskResult) :
    (ledger.record result).responses = ledger.responses ++ result.responses := by
  simp [responses, record, responsesOf]

end Ledger

end StoryDirector
