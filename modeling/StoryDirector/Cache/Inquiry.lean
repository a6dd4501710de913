import StoryDirector.Cache.Flight
/-!
# StoryDirector.Cache.Inquiry

One caller's way to a response, from the request that gets a response or computes it to its end.
**It looks into the cache; on a miss it waits at the gate of the key;
once it may work it looks again, and only when there is still nothing does it compute.** The caller
is held up at two places only, at the gate and during its own computation, and may give up at either
of them (`Inquiry.abandon`). Everything between two such places is one step.
-/

namespace StoryDirector

/-- The cache together with the work that is under way. -/
structure Store where
  /-- The cache. -/
  cache : Cache
  /-- The work under way. -/
  flights : Flights := {}

/-- How far an inquiry has come. -/
inductive InquiryStage where
  /-- It has not begun. -/
  | fresh
  /-- It waits at the gate. -/
  | queued (pass : Pass)
  /-- It computes. -/
  | computing (pass : Pass)
  /-- It has its response. -/
  | answered (response : Response)
  /-- It was given up. -/
  | abandoned

/-- One caller who wants a response. -/
structure Inquiry where
  /-- What is asked. -/
  key : CacheKey
  /-- How long a computed response is kept. -/
  ttl : Duration
  /-- How far it has come. -/
  stage : InquiryStage := .fresh

namespace Inquiry

/-- The caller may work if it owns the gate. It looks into the cache again; what it finds it takes,
and leaves the gate. -/
def enter (inquiry : Inquiry) (pass : Pass) (now : Instant) (store : Store) : Store × Inquiry :=
  if store.flights.mayWork pass then
    match store.cache.lookup inquiry.key now with
    | (some response, cache) =>
      (⟨cache.countHit, store.flights.leave pass⟩, { inquiry with stage := .answered response })
    | (none, cache) =>
      ({ store with cache := cache.countMiss }, { inquiry with stage := .computing pass })
  else (store, { inquiry with stage := .queued pass })

/-- The caller goes on as far as it gets without computing. -/
def approach (inquiry : Inquiry) (now : Instant) (store : Store) : Store × Inquiry :=
  match inquiry.stage with
  | .fresh =>
    match store.cache.lookup inquiry.key now with
    | (some response, cache) =>
      ({ store with cache := cache.countHit }, { inquiry with stage := .answered response })
    | (none, cache) =>
      let (flights, pass) := store.flights.join inquiry.key
      inquiry.enter pass now ⟨cache, flights⟩
  | .queued pass => inquiry.enter pass now store
  | .computing _ | .answered _ | .abandoned => (store, inquiry)

/-- The computation ends: its response is kept, and the gate is left. -/
def supply (inquiry : Inquiry) (response : Response) (now : Instant) (store : Store) :
    Store × Inquiry :=
  match inquiry.stage with
  | .computing pass =>
    (⟨store.cache.insert inquiry.key response inquiry.ttl now, store.flights.leave pass⟩,
     { inquiry with stage := .answered response })
  | .fresh | .queued _ | .answered _ | .abandoned => (store, inquiry)

/-- The caller gives up. -/
def abandon (inquiry : Inquiry) (store : Store) : Store × Inquiry :=
  match inquiry.stage with
  | .fresh => (store, { inquiry with stage := .abandoned })
  | .queued pass | .computing pass =>
    ({ store with flights := store.flights.leave pass }, { inquiry with stage := .abandoned })
  | .answered _ | .abandoned => (store, inquiry)

end Inquiry

end StoryDirector
