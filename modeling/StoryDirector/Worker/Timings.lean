import StoryDirector.Decimal.Reading
import StoryDirector.Worker
/-!
# StoryDirector.Worker.Timings

How long workers took lately. **Of each worker the last so many call durations are kept**, and all
averages are over what is kept.
-/

namespace StoryDirector

/-- The latest call durations of the workers. -/
structure Timings where
  /-- How many durations are kept of each worker. -/
  window : Nat
  /-- The durations in seconds, oldest first. -/
  samples : WorkerKind → List Float := fun _ => []

/-- A summary of one worker's durations. -/
structure WorkerStat where
  /-- The worker. -/
  worker : WorkerKind
  /-- How many durations are kept. -/
  samples : Nat
  /-- Their average in seconds. -/
  average : Float
  /-- The latest in seconds. -/
  last : Float

namespace Timings

/-- No durations yet, with room for at least one of each worker. -/
def create (window : Nat) : Timings where
  window := max window 1

/-- One more duration. -/
def record (timings : Timings) (worker : WorkerKind) (seconds : Float) : Timings :=
  { timings with
    samples := fun kind =>
      if kind = worker then
        let all := timings.samples worker ++ [seconds]
        all.drop (all.length - timings.window)
      else timings.samples kind }

/-- The mean of some numbers, if there are any. -/
def mean? (numbers : List Float) : Option Float :=
  if numbers.isEmpty then none
  else some (numbers.foldl (· + ·) 0 / doubleOfNat numbers.length)

/-- The average duration of a worker's calls. -/
def average? (timings : Timings) (worker : WorkerKind) : Option Float :=
  mean? (timings.samples worker)

/-- The average over all durations of all workers. -/
def overall? (timings : Timings) : Option Float :=
  mean? (WorkerKind.all.flatMap timings.samples)

/-- The summary of one worker, if it has any durations. -/
def stat? (timings : Timings) (worker : WorkerKind) : Option WorkerStat :=
  match timings.average? worker, (timings.samples worker).getLast? with
  | some average, some last => some ⟨worker, (timings.samples worker).length, average, last⟩
  | _, _ => none

/-- The summaries of all workers that have durations, in the order of the workers. -/
def stats (timings : Timings) : List WorkerStat :=
  WorkerKind.all.filterMap timings.stat?

@[simp] theorem samples_record_self (timings : Timings) (worker : WorkerKind) (seconds : Float) :
    (timings.record worker seconds).samples worker =
      (timings.samples worker ++ [seconds]).drop
        ((timings.samples worker ++ [seconds]).length - timings.window) := by
  simp [record]

theorem samples_record_of_ne (timings : Timings) {worker other : WorkerKind} (h : other ≠ worker)
    (seconds : Float) : (timings.record worker seconds).samples other = timings.samples other := by
  simp [record, h]

end Timings

end StoryDirector
