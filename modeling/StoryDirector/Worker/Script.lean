import StoryDirector.Worker.Registry
/-!
# StoryDirector.Worker.Script

Workers that reply by a script. **The first call gets the first reply, the second call the second,
and once the script is at its end its last reply is repeated.** A worker without any reply is
unavailable.
-/

namespace StoryDirector

/-- Replies in the order in which they are given. -/
abbrev Script := List Reply

namespace Script

/-- The reply of a worker without a script. -/
def silence : Reply where
  outcome := .erred (.unavailable "empty script")

/-- The reply to a call after so many earlier ones. -/
def replyAt (script : Script) (calls : Nat) : Reply :=
  ((script[calls]?).or script.getLast?).getD silence

/-- The worker of a kind that follows a script. -/
def worker (script : Script) (kind : WorkerKind) : Worker where
  kind := kind
  reply heard _ := script.replyAt heard.length

end Script

/-- The reply that comes so much later. -/
def Reply.after (reply : Reply) (delay : Duration) : Reply :=
  { reply with delay := delay + reply.delay }

end StoryDirector
