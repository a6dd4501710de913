import StoryDirector.Action
import StoryDirector.Event
import StoryDirector.World
/-!
# StoryDirector.Session

What is remembered of one play session. **Histories are bounded: recording beyond the limit forgets
the oldest entries** (`Recent.record`), and nothing else ever takes an entry away. The world and the
turn come from the caller's snapshot at every action; the histories stay.
-/

namespace StoryDirector

/-- The latest entries of a history, the oldest first. -/
structure Recent (α : Type) where
  /-- How many entries are kept. -/
  limit : Nat
  /-- The entries kept. -/
  entries : List α := []

namespace Recent

variable {α : Type}

/-- The last `n` items of a list. -/
def lastOf (n : Nat) (items : List α) : List α :=
  items.drop (items.length - n)

/-- The history with one more entry. -/
def record (history : Recent α) (entry : α) : Recent α :=
  { history with entries := lastOf history.limit (history.entries ++ [entry]) }

/-- The history with several more entries, in order. -/
def recordAll (history : Recent α) (entries : List α) : Recent α :=
  entries.foldl record history

/-- The last `n` entries. -/
def last (history : Recent α) (n : Nat) : List α :=
  lastOf n history.entries

theorem length_lastOf (n : Nat) (items : List α) :
    (lastOf n items).length = min n items.length := by
  simp only [lastOf, List.length_drop]
  omega

/-- A list within the limit is kept whole. -/
theorem lastOf_of_length_le {n : Nat} {items : List α} (h : items.length ≤ n) :
    lastOf n items = items := by
  simp [lastOf, Nat.sub_eq_zero_of_le h]

/-- Only the last entries matter for what is kept after more were added. -/
theorem lastOf_lastOf_append (n : Nat) (items more : List α) :
    lastOf n (lastOf n items ++ more) = lastOf n (items ++ more) := by
  simp only [lastOf, List.length_append, List.length_drop]
  rw [show (items.length - (items.length - n) + more.length - n) =
    (items.length + more.length - n) - (items.length - n) by omega]
  rw [List.drop_append, List.drop_drop, List.drop_append]
  congr 1
  · congr 1
    omega
  · congr 1
    simp only [List.length_drop]
    omega

@[simp] theorem limit_record (history : Recent α) (entry : α) :
    (history.record entry).limit = history.limit := rfl

@[simp] theorem recordAll_nil (history : Recent α) : history.recordAll [] = history := rfl

theorem recordAll_cons (history : Recent α) (entry : α) (rest : List α) :
    history.recordAll (entry :: rest) = (history.record entry).recordAll rest := rfl

@[simp] theorem limit_recordAll (history : Recent α) (entries : List α) :
    (history.recordAll entries).limit = history.limit := by
  induction entries generalizing history with
  | nil => rfl
  | cons entry rest ih => rw [recordAll_cons, ih, limit_record]

/-- After recording, a history within its limit holds the last entries of all. -/
theorem entries_recordAll {history : Recent α} (h : history.entries.length ≤ history.limit)
    (entries : List α) :
    (history.recordAll entries).entries = lastOf history.limit (history.entries ++ entries) := by
  induction entries generalizing history with
  | nil => simp [lastOf_of_length_le h]
  | cons entry rest ih =>
    have hle : (history.record entry).entries.length ≤ (history.record entry).limit := by
      simp only [record, length_lastOf]
      exact Nat.min_le_left _ _
    rw [recordAll_cons, ih hle]
    simp only [record]
    rw [lastOf_lastOf_append, List.append_assoc, List.singleton_append]

end Recent

/-- The state of the world as the caller keeps it between actions. -/
structure Snapshot where
  /-- The number of the turn. -/
  turn : Nat := 0
  /-- The world. -/
  world : World := {}

/-- The memory of one session. -/
structure Session where
  /-- The identity of the session. -/
  id : Uuid
  /-- The number of the turn. -/
  turn : Nat
  /-- The actions that were answered lately. -/
  actions : Recent PlayerAction := { limit := 10 }
  /-- The events that happened lately. -/
  events : Recent Event := { limit := 20 }
  /-- The world. -/
  world : World := {}
  /-- How many events it has recorded so far, those forgotten included. -/
  recorded : Nat := 0

namespace Session

/-- The session with its history limits set, each at least one. -/
def withLimits (session : Session) (actions events : Nat) : Session :=
  { session with
    actions := { session.actions with limit := max actions 1 }
    events := { session.events with limit := max events 1 } }

/-- The session with the caller's turn and world in place of its own. -/
def apply (session : Session) (snapshot : Snapshot) : Session :=
  { session with turn := snapshot.turn, world := snapshot.world }

/-- The session with one more action remembered. -/
def recordAction (session : Session) (action : PlayerAction) : Session :=
  { session with actions := session.actions.record action }

/-- The session with one more event remembered. -/
def recordEvent (session : Session) (event : Event) : Session :=
  { session with
    events := session.events.record event
    recorded := session.recorded + 1 }

/-- The session with several more events remembered. -/
def recordEvents (session : Session) (events : List Event) : Session :=
  { session with
    events := session.events.recordAll events
    recorded := session.recorded + events.length }

/-- Whether an event of the anomaly family is still remembered. -/
def hasRecentAnomaly (session : Session) : Bool :=
  session.events.entries.any Event.isAnomalous

end Session

end StoryDirector
