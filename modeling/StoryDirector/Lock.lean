/-!
# StoryDirector.Lock

Locks that are granted in the order in which they were asked for. **Leaving a lock hands it over at
once**: the next in line owns it before anyone who asks later can, so no one who waits is overtaken.
Whoever gives up waiting leaves in the same way (`Lock.leave`).

Everyone who asks has a number of their own.
-/

namespace StoryDirector

/-- A lock with those who wait for it. -/
structure Lock where
  /-- Who owns the lock. -/
  owner : Option Nat := none
  /-- Those who wait, the first in line in front. -/
  queue : List Nat := []
  deriving DecidableEq

namespace Lock

/-- Someone asks for the lock. -/
def ask (lock : Lock) (who : Nat) : Lock :=
  match lock.owner with
  | none => { lock with owner := some who }
  | some _ => { lock with queue := lock.queue ++ [who] }

/-- Someone leaves the lock or the line. -/
def leave (lock : Lock) (who : Nat) : Lock :=
  if lock.owner = some who then ⟨lock.queue.head?, lock.queue.tail⟩
  else { lock with queue := lock.queue.filter (· ≠ who) }

/-- Whether someone owns the lock. -/
def ownedBy (lock : Lock) (who : Nat) : Bool :=
  lock.owner = some who

/-- The owner and those who wait, in the order in which the lock is theirs. -/
def line (lock : Lock) : List Nat :=
  lock.owner.toList ++ lock.queue

end Lock

end StoryDirector
