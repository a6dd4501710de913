import StoryDirector.Progress
/-!
# StoryDirector.Progress.Broadcast

Notices for any number of subscribers. **A channel keeps the latest notices, and every subscriber
reads them at its own pace**, from the moment it subscribed. A subscriber that was overtaken is told
so once and goes on with the oldest notice still kept. Without subscribers nothing is kept and
sending fails.
-/

namespace StoryDirector

/-- Why a notice was not taken. -/
inductive SinkError where
  /-- No one listens. -/
  | noSubscribers
  /-- The sink is closed. -/
  | closed
  deriving DecidableEq

/-- The wording of a refusal. -/
def SinkError.message : SinkError → String
  | .noSubscribers => "no subscribers"
  | .closed => "sink closed"

/-- A channel of notices. -/
structure Broadcast where
  /-- How many notices are kept. -/
  capacity : Nat
  /-- How many notices have been sent. -/
  sent : Nat := 0
  /-- The notices kept, the latest last. -/
  kept : List Notice := []
  /-- For each subscriber the number of the notice that it reads next, or nothing once it left. -/
  cursors : List (Option Nat) := []

/-- What a subscriber finds. -/
inductive Broadcast.Reading where
  /-- The next notice. -/
  | notice (n : Notice)
  /-- There is none, or some were missed. -/
  | nothing
  /-- The subscriber has left. -/
  | gone

namespace Broadcast

/-- A channel for at least so many notices. Room comes in powers of two. -/
def create (capacity : Nat) : Broadcast where
  capacity := (max capacity 1).nextPowerOfTwo

/-- One more subscriber. -/
def subscribe (channel : Broadcast) : Broadcast :=
  { channel with cursors := channel.cursors ++ [some channel.sent] }

/-- A subscriber leaves. -/
def leave (channel : Broadcast) (who : Nat) : Broadcast :=
  { channel with cursors := channel.cursors.set who none }

/-- How many subscribers there are. -/
def listeners (channel : Broadcast) : Nat :=
  channel.cursors.countP (·.isSome)

/-- Sends a notice. -/
def send (channel : Broadcast) (notice : Notice) : Except SinkError Broadcast :=
  if channel.listeners = 0 then .error .noSubscribers
  else
    let all := channel.kept ++ [notice]
    .ok { channel with
      sent := channel.sent + 1
      kept := all.drop (all.length - channel.capacity) }

/-- The number of the oldest notice kept. -/
def oldest (channel : Broadcast) : Nat :=
  channel.sent - channel.kept.length

/-- A subscriber reads. -/
def receive (channel : Broadcast) (who : Nat) : Broadcast × Reading :=
  let moveTo (n : Nat) : Broadcast :=
    { channel with cursors := channel.cursors.set who (some n) }
  match (channel.cursors[who]?).join with
  | none => (channel, .gone)
  | some next =>
    if next < channel.oldest then (moveTo channel.oldest, .nothing)
    else
      match channel.kept[next - channel.oldest]? with
      | some notice => (moveTo (next + 1), .notice notice)
      | none => (channel, .nothing)

end Broadcast

end StoryDirector
