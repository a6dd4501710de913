import StoryDirector.Clockwork
import StoryDirector.Run.Ledger
/-!
# StoryDirector.Run.Vigil

Waiting for the results of tasks while others record them: a `Vigil` is one wait with its time-out,
and the results that come meanwhile. **Whoever waits begins to listen before
looking, and sleeps only after having looked in vain**, so that word of a result that is recorded
between the look and the sleep is not missed. Any word of a result wakes, whether or not it is one
that is waited for; then there is another look, and the time at which the wait is given up stays the
same (`Vigil.watch?`).

A result is recorded first and announced afterwards. At one instant the recording, the announcing
and the waiting go on in any order: `turns` says who is asked first at each look. As long as it says
nothing, all that is due is recorded and announced before the wait goes on, so that a result that
comes just when the time is up still counts.
-/

namespace StoryDirector

/-- What can be done next. -/
inductive Vigil.Move where
  /-- The next result is recorded. -/
  | record
  /-- Word goes round that a result was recorded. -/
  | announce
  /-- Whoever waits goes on. -/
  | watch
  deriving DecidableEq, Repr

/-- How far a wait has come. -/
inductive Vigil.Stage where
  /-- About to listen. -/
  | awake
  /-- Listening since word had gone round so many times, and about to look. -/
  | listening (heard : Nat)
  /-- Having looked in vain, asleep until word goes round more often than so many times. -/
  | asleep (heard : Nat)
  /-- The time is up, and it is still to be seen what is missing. -/
  | late
  /-- Over since an instant. -/
  | done (instant : Instant) (result : Except TaskError Unit)

/-- Someone who waits for tasks, and results that are still to come. -/
structure Vigil where
  /-- The clock. -/
  now : Instant
  /-- The results so far. -/
  ledger : Ledger
  /-- How many of the results were not announced yet. -/
  unannounced : Nat := 0
  /-- How often word went round. -/
  calls : Nat := 0
  /-- The tasks that are waited for. -/
  ids : List String
  /-- For how long they are waited for. -/
  limit : Duration
  /-- Since when they are waited for. -/
  since : Instant
  /-- How far the wait has come. -/
  stage : Vigil.Stage := .awake
  /-- When the latest result was recorded, or when the waiting began. -/
  recordedAt : Instant
  /-- The results to come, each so much later than the one before it. -/
  coming : List (Duration × TaskResult)
  /-- Who is asked first at the looks to come. -/
  turns : List Vigil.Move := []

namespace Vigil

/-- Every move, in the order in which they are made when it is no one's turn. -/
def Move.all : List Move := [record, announce, watch]

/-- How many steps a wait can still take, when word went round so many times. -/
def Stage.left (calls : Nat) : Stage → Nat
  | .awake => 4
  | .listening heard => if heard < calls then 6 else 3
  | .asleep heard => if heard < calls then 5 else 2
  | .late => 1
  | .done _ _ => 0

/-- The start of a wait. -/
def begin (ledger : Ledger) (now : Instant) (ids : List String) (limit : Duration)
    (coming : List (Duration × TaskResult)) (turns : List Move := []) : Vigil where
  now := now
  ledger := ledger
  ids := ids
  limit := limit
  since := now
  recordedAt := now
  coming := coming
  turns := turns

/-- When the wait is given up. -/
def deadline (vigil : Vigil) : Instant :=
  vigil.since + vigil.limit

/-- When and how the waiting ended. -/
def ended (vigil : Vigil) : Option (Instant × Except TaskError Unit) :=
  match vigil.stage with
  | .done instant result => some (instant, result)
  | _ => none

/-- Records the next result, if it is due. -/
def record? (vigil : Vigil) : Option Vigil :=
  match vigil.coming with
  | [] => none
  | (later, result) :: rest =>
    if vigil.recordedAt + later ≤ vigil.now then
      some { vigil with
        ledger := vigil.ledger.record result
        unannounced := vigil.unannounced + 1
        recordedAt := vigil.recordedAt + later
        coming := rest }
    else none

/-- Sends word round of a result, if there is one that was not announced. -/
def announce? (vigil : Vigil) : Option Vigil :=
  match vigil.unannounced with
  | 0 => none
  | more + 1 => some { vigil with unannounced := more, calls := vigil.calls + 1 }

/-- The next step of the wait; there is none in sleep and after the end. Word that went round since
listening began wakes even if the time is up as well. -/
def watch? (vigil : Vigil) : Option Vigil :=
  match vigil.stage with
  | .awake => some { vigil with stage := .listening vigil.calls }
  | .listening heard =>
    some { vigil with
      stage :=
        if (vigil.ledger.missing vigil.ids).isEmpty then .done vigil.now (.ok ())
        else .asleep heard }
  | .asleep heard =>
    if heard < vigil.calls then some { vigil with stage := .awake }
    else if vigil.deadline ≤ vigil.now then some { vigil with stage := .late }
    else none
  | .late =>
    some { vigil with
      stage := .done vigil.now
        (.error (.dependencyTimeout (vigil.ledger.missing vigil.ids) vigil.limit)) }
  | .done _ _ => none

/-- Makes a move, if it can be made. -/
def move? (vigil : Vigil) : Move → Option Vigil
  | .record => vigil.record?
  | .announce => vigil.announce?
  | .watch => vigil.watch?

/-- One move is made: that of whose turn it is, or else the first that can be made. -/
def look (vigil : Vigil) : Vigil :=
  let asked := { vigil with turns := vigil.turns.tail }
  ((vigil.turns.take 1 ++ Move.all).findSome? asked.move?).getD vigil

/-- How many steps are left at most. -/
def left (vigil : Vigil) : Nat :=
  5 * vigil.coming.length + 4 * vigil.unannounced + vigil.stage.left vigil.calls

/-- The next instant at which something happens. -/
def alarm (vigil : Vigil) : Option Instant :=
  Clockwork.earlier (vigil.coming.head?.map fun (later, _) => vigil.recordedAt + later)
    (if vigil.ended.isSome then none else some vigil.deadline)

/-- A wait, driven until it is over and all results are recorded. -/
def clockwork : Clockwork Vigil where
  look := look
  left := left
  alarm := alarm
  wind instant vigil := { vigil with now := instant }

end Vigil

end StoryDirector
