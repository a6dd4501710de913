import StoryDirector.Briefing.Fingerprint
import StoryDirector.Duration
import StoryDirector.Worker
/-!
# StoryDirector.Cache

Responses that are kept for a while. **An entry is alive until the clock reaches its expiry, and
only responses that count are ever kept.** Dead entries may linger: they are removed when they are
asked for, when room is needed and when the cache is purged, and they are never answered with.

When a new key needs room in a full cache, dead entries go first, and if there are none the entry
nearest to its expiry goes.
-/

namespace StoryDirector

/-- Which worker was asked what. -/
structure CacheKey where
  /-- The worker. -/
  worker : WorkerKind
  /-- The fingerprint of the briefing. -/
  fingerprint : Fingerprint
  deriving DecidableEq

/-- The key of a call. -/
def CacheKey.of (worker : WorkerKind) (briefing : Briefing) : CacheKey :=
  ⟨worker, briefing.fingerprint⟩

/-- A response that is kept. -/
structure CacheEntry where
  /-- What it answers. -/
  key : CacheKey
  /-- The response. -/
  response : Response
  /-- The instant from which it is dead. -/
  expiresAt : Instant

/-- Whether an entry may still be answered with. -/
def CacheEntry.isLive (entry : CacheEntry) (now : Instant) : Bool :=
  decide (now < entry.expiresAt)

/-- Responses that are kept, with counts of the look-ups. -/
structure Cache where
  /-- How long a response is kept unless told otherwise. -/
  ttl : Duration
  /-- How many responses are kept. -/
  capacity : Nat
  /-- The responses, no two under one key. -/
  entries : List CacheEntry := []
  /-- How many look-ups found something. -/
  hits : Nat := 0
  /-- How many look-ups found nothing. -/
  misses : Nat := 0

namespace Cache

/-- An empty cache with room for at least one response. -/
def create (ttl : Duration) (maxEntries : Nat) : Cache where
  ttl := ttl
  capacity := max maxEntries 1

/-- The entry under a key, dead or alive. -/
def kept? (cache : Cache) (key : CacheKey) : Option CacheEntry :=
  cache.entries.find? (·.key = key)

/-- The cache without what stands under a key. -/
def drop (cache : Cache) (key : CacheKey) : Cache :=
  { cache with entries := cache.entries.filter (·.key ≠ key) }

/-- The live response under a key; a dead one is removed. -/
def lookup (cache : Cache) (key : CacheKey) (now : Instant) : Option Response × Cache :=
  match cache.kept? key with
  | none => (none, cache)
  | some entry =>
    if entry.isLive now then (some entry.response, cache) else (none, cache.drop key)

/-- Counts a look-up that found something. -/
def countHit (cache : Cache) : Cache :=
  { cache with hits := cache.hits + 1 }

/-- Counts a look-up that found nothing. -/
def countMiss (cache : Cache) : Cache :=
  { cache with misses := cache.misses + 1 }

/-- Looks a response up and counts. -/
def get (cache : Cache) (key : CacheKey) (now : Instant) : Option Response × Cache :=
  match cache.lookup key now with
  | (some response, cache) => (some response, cache.countHit)
  | (none, cache) => (none, cache.countMiss)

/-- The cache without its dead entries. -/
def purge (cache : Cache) (now : Instant) : Cache :=
  { cache with entries := cache.entries.filter (·.isLive now) }

/-- The entry that is nearest to its expiry. -/
def soonest? : List CacheEntry → Option CacheEntry
  | [] => none
  | entry :: rest =>
    match soonest? rest with
    | none => some entry
    | some other => if other.expiresAt < entry.expiresAt then some other else some entry

/-- Makes room for one more entry. -/
def makeRoom (cache : Cache) (now : Instant) : Cache :=
  let purged := cache.purge now
  if purged.entries.length < purged.capacity then purged
  else
    match soonest? purged.entries with
    | some victim => purged.drop victim.key
    | none => purged

/-- Keeps a response until `now + ttl`, in place of an earlier one under its key. One that does not
count is not kept. -/
def insert (cache : Cache) (key : CacheKey) (response : Response) (ttl : Duration)
    (now : Instant) : Cache :=
  if response.success then
    let roomy :=
      if cache.capacity ≤ cache.entries.length ∧ (cache.kept? key).isNone then cache.makeRoom now
      else cache
    let others := roomy.drop key
    { others with entries := others.entries ++ [⟨key, response, now + ttl⟩] }
  else cache

/-- The cache with nothing in it and all counts at zero. -/
def clear (cache : Cache) : Cache :=
  { cache with entries := [], hits := 0, misses := 0 }

/-- The share of look-ups that found something, zero before the first. -/
def hitRate (cache : Cache) : Float :=
  if cache.hits + cache.misses = 0 then 0
  else doubleOfNat cache.hits / doubleOfNat (cache.hits + cache.misses)

theorem insert_of_not_success {response : Response} (h : response.success = false) (cache : Cache)
    (key : CacheKey) (ttl : Duration) (now : Instant) :
    cache.insert key response ttl now = cache := by
  simp [insert, h]

theorem mem_drop {cache : Cache} {key : CacheKey} {entry : CacheEntry} :
    entry ∈ (cache.drop key).entries ↔ entry ∈ cache.entries ∧ entry.key ≠ key := by
  simp [drop]

theorem mem_of_mem_lookup {cache : Cache} {key : CacheKey} {now : Instant} {entry : CacheEntry}
    (h : entry ∈ (cache.lookup key now).2.entries) : entry ∈ cache.entries := by
  unfold lookup at h
  split at h
  · exact h
  · split at h
    · exact h
    · exact (mem_drop.mp h).1

end Cache

end StoryDirector
