import StoryDirector.Cache.Inquiry
import StoryDirector.Clockwork
/-!
# StoryDirector.Cache.Traffic

Callers of the cache on the clock. **Each caller comes at its instant, computes for some time if it
has to, and may give up after some time**; what completes at the instant of giving up completes.
-/

namespace StoryDirector

/-- How far a caller has come. -/
inductive CallerStage where
  /-- It has not come yet. -/
  | ahead
  /-- It waits for someone else's computation; perhaps it gives up at an instant. -/
  | waiting (inquiry : Inquiry) (giveUpAt : Option Instant)
  /-- It computes until an instant; perhaps it gives up before. -/
  | computing (inquiry : Inquiry) (due : Instant) (giveUpAt : Option Instant)
  /-- It left at an instant, with a response or without. -/
  | gone (response : Option Response) (computed : Bool) (left : Instant)

/-- Someone who wants a response and could compute it. -/
structure Caller where
  /-- When it comes. -/
  startAt : Instant
  /-- What it asks. -/
  key : CacheKey
  /-- How long what it computes is kept. -/
  ttl : Duration
  /-- What it would compute. -/
  response : Response
  /-- How long that would take. -/
  delay : Duration
  /-- After which time it gives up, if ever. -/
  patience : Option Duration := none
  /-- How far it has come. -/
  stage : CallerStage := .ahead

/-- Callers and the store on a clock. -/
structure Traffic where
  /-- The clock. -/
  now : Instant
  /-- The store. -/
  store : Store
  /-- The callers, in the order in which they are looked at. -/
  callers : List Caller

namespace Caller

/-- Whether it is time to give up. -/
def isDue (giveUpAt : Option Instant) (now : Instant) : Bool :=
  giveUpAt.any (· ≤ now)

/-- A caller at work is done when it is time. -/
def attend (caller : Caller) (inquiry : Inquiry) (due : Instant) (giveUpAt : Option Instant)
    (now : Instant) (store : Store) : Store × Caller :=
  if due ≤ now then
    ((inquiry.supply caller.response now store).1,
     { caller with stage := .gone (some caller.response) true now })
  else if isDue giveUpAt now then
    ((inquiry.abandon store).1, { caller with stage := .gone none true now })
  else (store, { caller with stage := .computing inquiry due giveUpAt })

/-- A caller goes on as far as it gets. -/
def pursue (caller : Caller) (inquiry : Inquiry) (giveUpAt : Option Instant) (now : Instant)
    (store : Store) : Store × Caller :=
  let (store, inquiry) := inquiry.approach now store
  match inquiry.stage with
  | .answered response => (store, { caller with stage := .gone (some response) false now })
  | .computing _ => caller.attend inquiry (now + caller.delay) giveUpAt now store
  | .fresh | .queued _ | .abandoned =>
    if isDue giveUpAt now then
      ((inquiry.abandon store).1, { caller with stage := .gone none false now })
    else (store, { caller with stage := .waiting inquiry giveUpAt })

/-- A caller does what it can at the present instant. -/
def look (caller : Caller) (now : Instant) (store : Store) : Store × Caller :=
  match caller.stage with
  | .ahead =>
    if caller.startAt ≤ now then
      caller.pursue { key := caller.key, ttl := caller.ttl } (caller.patience.map (now + ·)) now
        store
    else (store, caller)
  | .waiting inquiry giveUpAt => caller.pursue inquiry giveUpAt now store
  | .computing inquiry due giveUpAt => caller.attend inquiry due giveUpAt now store
  | .gone _ _ _ => (store, caller)

/-- How many steps are left at most. -/
def left (caller : Caller) : Nat :=
  match caller.stage with
  | .ahead => 3
  | .waiting _ _ => 2
  | .computing _ _ _ => 1
  | .gone _ _ _ => 0

/-- The next instant at which the caller can go on by itself. -/
def alarm (caller : Caller) : Option Instant :=
  match caller.stage with
  | .ahead => some caller.startAt
  | .waiting _ giveUpAt => giveUpAt
  | .computing _ due giveUpAt => Clockwork.earlier (some due) giveUpAt
  | .gone _ _ _ => none

/-- Some callers are looked at in order. -/
def lookAll (now : Instant) : List Caller → Store → Store × List Caller
  | [], store => (store, [])
  | caller :: rest, store =>
    let (store, caller) := caller.look now store
    let (store, rest) := lookAll now rest store
    (store, caller :: rest)

end Caller

namespace Traffic

/-- All callers are looked at in order. -/
def look (traffic : Traffic) : Traffic :=
  let (store, callers) := Caller.lookAll traffic.now traffic.callers traffic.store
  { traffic with store, callers }

/-- Callers and the store, driven until everyone has left. -/
def clockwork : Clockwork Traffic where
  look := look
  left traffic := Clockwork.total (traffic.callers.map Caller.left)
  alarm traffic := Clockwork.earliest (traffic.callers.map Caller.alarm)
  wind instant traffic := { traffic with now := instant }

end Traffic

end StoryDirector
