import StoryDirector.Cache.Inquiry
import StoryDirector.Proofs.Cache.Alone
import Mathlib.Data.Set.Card
import Mathlib.Logic.Function.Basic
/-!
# StoryDirector.Proofs.Cache.BoundedMap

**Seen from outside, the cache is a bounded map whose entries vanish when they expire.** A `Shelf`
is that map: it holds only what is alive, and storing takes something off only when the room is used
up (`Shelf.Stores`), always something that expires first among the rest. The cache keeps dead
entries until it comes across them, but no answer ever shows them.

A `Desk` is a store that is asked by one caller at a time, with the clock: the cache as it is used.
Its `Tray` is that cache without its dead entries. The shelf of a cache is read off its live entries
(`Shelf.ofEntries`), and every call changes these as the map prescribes. A desk serves as its tray
does (`Desk.serve_tray`), and a tray does not notice purges (`Tray.serveAll_unpurged`).
-/

namespace StoryDirector

/-- A map from keys to responses and the instants at which they expire. -/
abbrev Shelf := CacheKey → Option (Response × Instant)

namespace Shelf

/-- Nothing is held. -/
def empty : Shelf := fun _ => none

/-- What is still held at an instant. -/
def asOf (shelf : Shelf) (now : Instant) : Shelf :=
  fun key => (shelf key).filter fun held => now < held.2

/-- The shelf with a response under a key. -/
def put (shelf : Shelf) (key : CacheKey) (response : Response) (expiry : Instant) : Shelf :=
  Function.update shelf key (some (response, expiry))

/-- The shelf with nothing under a key. -/
def remove (shelf : Shelf) (key : CacheKey) : Shelf :=
  Function.update shelf key none

/-- The other keys under which something is held. -/
def others (shelf : Shelf) (key : CacheKey) : Set CacheKey :=
  { other | other ≠ key ∧ shelf other ≠ none }

/-- Of the keys other than one, this is one that expires first. -/
def ExpiresFirst (shelf : Shelf) (key victim : CacheKey) : Prop :=
  victim ≠ key ∧ ∃ response expiry, shelf victim = some (response, expiry) ∧
    ∀ other ∈ shelf.others key, ∀ kept, shelf other = some kept → expiry ≤ kept.2

/-- What storing may do to a shelf with so much room. -/
inductive Stores (room : Nat) (shelf : Shelf) (key : CacheKey) (response : Response)
    (expiry : Instant) : Shelf → Prop where
  /-- A response that does not count changes nothing. -/
  | refused (h : response.success = false) : Stores room shelf key response expiry shelf
  /-- While there is room nothing is taken off. -/
  | roomy (h : response.success = true) (hroom : (shelf.others key).ncard ≠ room) :
      Stores room shelf key response expiry (shelf.put key response expiry)
  /-- When the others take all the room, one that expires first makes way. -/
  | full (h : response.success = true) (hroom : (shelf.others key).ncard = room)
      (victim : CacheKey) (hvictim : shelf.ExpiresFirst key victim) :
      Stores room shelf key response expiry ((shelf.remove victim).put key response expiry)

end Shelf

/-- A call to a cache. -/
inductive CacheCall where
  /-- Something that takes no time. -/
  | perform (usage : CacheUse)
  /-- Asking for a response, and computing it for some time if there is none. -/
  | compute (key : CacheKey) (ttl : Duration) (response : Response) (delay : Duration)
  /-- Time passes. -/
  | wait (span : Duration)

/-- Whether a call throws out what is dead. -/
def CacheCall.isPurge : CacheCall → Bool
  | .perform .purge => true
  | .perform (.get _) | .perform (.set _ _ _) | .perform .clear => false
  | .compute _ _ _ _ | .wait _ => false

theorem CacheCall.eq_of_isPurge {call : CacheCall} (h : call.isPurge = true) :
    call = .perform .purge := by
  cases call with
  | perform usage =>
      cases usage with
      | purge => rfl
      | _ => cases h
  | _ => cases h

/-- What a caller is told. -/
structure CacheAnswer where
  /-- The response. -/
  response : Option Response
  /-- Whether it was computed for this call. -/
  computed : Bool

/-- Only asking is answered. -/
def CacheUse.answers (found : Option Response) : CacheUse → List CacheAnswer
  | .get _ => [⟨found, false⟩]
  | .set _ _ _ | .purge | .clear => []

namespace Shelf

/-- A call to a shelf at an instant, what it answers and what it leaves behind. -/
inductive Serves (room : Nat) : Instant → Shelf → CacheCall → List CacheAnswer → Instant → Shelf →
    Prop where
  | get {now : Instant} {shelf : Shelf} {key : CacheKey} :
      Serves room now shelf (.perform (.get key)) [⟨(shelf key).map (·.1), false⟩] now shelf
  | set {now : Instant} {shelf after : Shelf} {key : CacheKey} {response : Response}
      {ttl : Duration} (h : Stores room shelf key response (now + ttl) after) :
      Serves room now shelf (.perform (.set key response ttl)) [] now (after.asOf now)
  | purge {now : Instant} {shelf : Shelf} : Serves room now shelf (.perform .purge) [] now shelf
  | clear {now : Instant} {shelf : Shelf} : Serves room now shelf (.perform .clear) [] now empty
  | found {now : Instant} {shelf : Shelf} {key : CacheKey} {response computed : Response}
      {expiry : Instant} {ttl delay : Duration} (h : shelf key = some (response, expiry)) :
      Serves room now shelf (.compute key ttl computed delay) [⟨some response, false⟩] now shelf
  | computed {now : Instant} {shelf after : Shelf} {key : CacheKey} {response : Response}
      {ttl delay : Duration} (h : shelf key = none)
      (hstores : Stores room (shelf.asOf (now + delay)) key response (now + delay + ttl) after) :
      Serves room now shelf (.compute key ttl response delay) [⟨some response, true⟩] (now + delay)
        (after.asOf (now + delay))
  | wait {now : Instant} {shelf : Shelf} {span : Duration} :
      Serves room now shelf (.wait span) [] (now + span) (shelf.asOf (now + span))

/-- Several calls in order. -/
inductive Runs (room : Nat) : Instant → Shelf → List CacheCall → List CacheAnswer → Instant →
    Shelf → Prop where
  | nil {now : Instant} {shelf : Shelf} : Runs room now shelf [] [] now shelf
  | cons {now between later : Instant} {shelf served after : Shelf} {call : CacheCall}
      {calls : List CacheCall} {told answers : List CacheAnswer}
      (h : Serves room now shelf call told between served)
      (hrest : Runs room between served calls answers later after) :
      Runs room now shelf (call :: calls) (told ++ answers) later after

end Shelf

/-- A store that one caller at a time comes to. -/
structure Desk where
  /-- The clock. -/
  now : Instant
  /-- The store. -/
  store : Store

/-- The response that an inquiry has. -/
def Inquiry.response? (inquiry : Inquiry) : Option Response :=
  match inquiry.stage with
  | .answered response => some response
  | .fresh | .queued _ | .computing _ | .abandoned => none

namespace Desk

/-- A desk before the first call. -/
def opened (ttl : Duration) (maxEntries : Nat) (now : Instant) : Desk :=
  ⟨now, { cache := Cache.create ttl maxEntries }⟩

/-- Someone asks for a response, and computes it for some time if need be. -/
def compute (desk : Desk) (key : CacheKey) (ttl : Duration) (response : Response)
    (delay : Duration) : List CacheAnswer × Desk :=
  let (store, inquiry) := Inquiry.approach { key, ttl } desk.now desk.store
  match inquiry.stage with
  | .computing _ =>
    let (store, inquiry) := inquiry.supply response (desk.now + delay) store
    ([⟨inquiry.response?, true⟩], ⟨desk.now + delay, store⟩)
  | .fresh | .queued _ | .answered _ | .abandoned =>
    ([⟨inquiry.response?, false⟩], { desk with store })

/-- A call is served. -/
def serve (desk : Desk) : CacheCall → List CacheAnswer × Desk
  | .perform usage =>
    let (found, cache) := desk.store.cache.perform desk.now usage
    (usage.answers found, { desk with store.cache := cache })
  | .compute key ttl response delay => desk.compute key ttl response delay
  | .wait span => ([], { desk with now := desk.now + span })

/-- Calls are served in order. -/
def serveAll (desk : Desk) : List CacheCall → List CacheAnswer × Desk
  | [] => ([], desk)
  | call :: rest =>
    let (told, served) := desk.serve call
    let (answers, after) := served.serveAll rest
    (told ++ answers, after)

end Desk

/-! ### The shelf of some entries -/

namespace Shelf

/-- What the entries hold, key by key. -/
def ofEntries (entries : List CacheEntry) : Shelf :=
  fun key => (entries.find? (·.key = key)).map fun entry => (entry.response, entry.expiresAt)

variable {entries : List CacheEntry} {key : CacheKey} {now : Instant}

theorem ofEntries_eq_some_iff (h : (entries.map (·.key)).Nodup) {held : Response × Instant} :
    ofEntries entries key = some held ↔ ⟨key, held.1, held.2⟩ ∈ entries := by
  rw [ofEntries, Option.map_eq_some_iff]
  constructor
  · rintro ⟨entry, hentry, rfl⟩
    obtain rfl : entry.key = key := by simpa using List.find?_some hentry
    exact List.mem_of_find?_eq_some hentry
  · intro hmem
    exact ⟨_, find?_key_of_mem h hmem, rfl⟩

/-- A shelf is that of some entries as soon as it holds what they hold. -/
theorem eq_ofEntries (h : (entries.map (·.key)).Nodup) {shelf : Shelf}
    (hheld : ∀ key held, shelf key = some held ↔ ⟨key, held.1, held.2⟩ ∈ entries) :
    shelf = ofEntries entries := by
  funext key
  refine Option.ext fun held => ?_
  rw [hheld, ofEntries_eq_some_iff h]

theorem asOf_ofEntries (h : (entries.map (·.key)).Nodup) (now : Instant) :
    (ofEntries entries).asOf now = ofEntries (entries.filter (·.isLive now)) := by
  refine eq_ofEntries (h.sublist (List.filter_sublist.map _)) fun key held => ?_
  rw [asOf, Option.filter_eq_some_iff, ofEntries_eq_some_iff h, List.mem_filter,
    CacheEntry.isLive_iff, decide_eq_true_iff]

theorem remove_ofEntries (h : (entries.map (·.key)).Nodup) (victim : CacheKey) :
    (ofEntries entries).remove victim = ofEntries (entries.filter (·.key ≠ victim)) := by
  refine eq_ofEntries (h.sublist (List.filter_sublist.map _)) fun key held => ?_
  rw [remove, Function.update_apply, List.mem_filter, ← ofEntries_eq_some_iff h]
  by_cases hkey : key = victim
  · simp [hkey]
  · simp [hkey]

theorem nodup_append_key (h : (entries.map (·.key)).Nodup) (entry : CacheEntry) :
    ((entries.filter (·.key ≠ entry.key) ++ [entry]).map (·.key)).Nodup := by
  rw [List.map_append, List.nodup_append]
  refine ⟨h.sublist (List.filter_sublist.map _), List.nodup_singleton _, ?_⟩
  intro old hold new hnew
  obtain ⟨other, hother, rfl⟩ := List.mem_map.mp hold
  rw [List.mem_singleton.mp hnew]
  simpa using (List.mem_filter.mp hother).2

theorem put_ofEntries (h : (entries.map (·.key)).Nodup) (entry : CacheEntry) :
    (ofEntries entries).put entry.key entry.response entry.expiresAt =
      ofEntries (entries.filter (·.key ≠ entry.key) ++ [entry]) := by
  refine eq_ofEntries (nodup_append_key h entry) fun key held => ?_
  rw [put, Function.update_apply, List.mem_append, List.mem_singleton, List.mem_filter,
    ← ofEntries_eq_some_iff h]
  by_cases hkey : key = entry.key
  · subst hkey
    obtain ⟨_, _, _⟩ := entry
    obtain ⟨_, _⟩ := held
    simp [eq_comm]
  · have hne : (⟨key, held.1, held.2⟩ : CacheEntry) ≠ entry := fun heq =>
      hkey (congrArg CacheEntry.key heq)
    simp [hkey, hne]

/-- The keys that others take are as many as the entries under them. -/
theorem ncard_others (h : (entries.map (·.key)).Nodup) (key : CacheKey) :
    ((ofEntries entries).others key).ncard = (entries.filter (·.key ≠ key)).length := by
  have hnodup : ((entries.filter (·.key ≠ key)).map (·.key)).Nodup :=
    h.sublist (List.filter_sublist.map _)
  have hothers : (ofEntries entries).others key =
      ↑((entries.filter (·.key ≠ key)).map (·.key)).toFinset := by
    ext other
    rw [others, Set.mem_ofPred_eq, Option.ne_none_iff_exists', List.coe_toFinset, Set.mem_ofPred_eq,
      List.mem_map]
    constructor
    · rintro ⟨hne, held, hheld⟩
      have hmem := (ofEntries_eq_some_iff h).mp hheld
      exact ⟨_, List.mem_filter.mpr ⟨hmem, by simpa using hne⟩, rfl⟩
    · rintro ⟨entry, hentry, rfl⟩
      obtain ⟨hmem, hne⟩ := List.mem_filter.mp hentry
      exact ⟨by simpa using hne, (entry.response, entry.expiresAt),
        (ofEntries_eq_some_iff h).mpr hmem⟩
  rw [hothers, Set.ncard_coe_finset, List.toFinset_card_of_nodup hnodup, List.length_map]

/-- Keeping an entry among those held is one of the ways of storing it. -/
theorem stores_keepIn {room : Nat} (hroomy : 0 < room) (h : (entries.map (·.key)).Nodup)
    (hlength : entries.length ≤ room) {entry : CacheEntry}
    (hsuccess : entry.response.success = true) :
    Stores room (ofEntries entries) entry.key entry.response entry.expiresAt
      (ofEntries (CacheEntry.keepIn room entries entry)) := by
  have hcard := ncard_others h entry.key
  rw [CacheEntry.keepIn, CacheEntry.roomAmong]
  split
  case isTrue hlt =>
      rw [← put_ofEntries h]
      refine Stores.roomy hsuccess ?_
      rw [hcard]
      exact Nat.ne_of_lt hlt
  case isFalse hfull =>
      -- There was room before, so the others take it up exactly.
      have hroom : (entries.filter (·.key ≠ entry.key)).length = room :=
        Nat.le_antisymm ((List.length_filter_le _ _).trans hlength) (Nat.le_of_not_lt hfull)
      cases hsoonest : Cache.soonest? (entries.filter (·.key ≠ entry.key)) with
      | none =>
          rw [Cache.soonest?_eq_none_iff.mp hsoonest] at hroom
          exact absurd hroom (Nat.ne_of_lt hroomy)
      | some victim =>
          obtain ⟨hvictim, hfirst⟩ := Cache.soonest?_spec hsoonest
          obtain ⟨hmem, hne⟩ := List.mem_filter.mp hvictim
          -- The cache makes room after taking out the key, the shelf before.
          have hswap : (entries.filter (·.key ≠ entry.key)).filter (·.key ≠ victim.key) =
              (entries.filter (·.key ≠ victim.key)).filter (·.key ≠ entry.key) := by
            rw [List.filter_filter, List.filter_filter]
            exact List.filter_congr fun _ _ => Bool.and_comm _ _
          show Stores room (ofEntries entries) entry.key entry.response entry.expiresAt
            (ofEntries
              ((entries.filter (·.key ≠ entry.key)).filter (·.key ≠ victim.key) ++ [entry]))
          rw [hswap, ← put_ofEntries (h.sublist (List.filter_sublist.map _)), ← remove_ofEntries h]
          refine Stores.full hsuccess (hcard.trans hroom) victim.key ⟨by simpa using hne, ?_⟩
          refine ⟨victim.response, victim.expiresAt, (ofEntries_eq_some_iff h).mpr hmem, ?_⟩
          rintro other ⟨hother, -⟩ kept hkept
          have hkeptMem := (ofEntries_eq_some_iff h).mp hkept
          exact hfirst _ (List.mem_filter.mpr ⟨hkeptMem, by simpa using hother⟩)

end Shelf

/-! ### The live entries alone -/

/-- What is alive in a cache at an instant, and how much it has room for. -/
structure Tray where
  /-- How much there is room for. -/
  room : Nat
  /-- The clock. -/
  now : Instant
  /-- The live entries. -/
  held : List CacheEntry

namespace Tray

/-- The tray at a later instant. -/
def later (tray : Tray) (instant : Instant) : Tray :=
  { tray with now := instant, held := tray.held.filter (·.isLive instant) }

/-- The tray after a response was stored. -/
def keep (tray : Tray) (key : CacheKey) (response : Response) (ttl : Duration) : Tray :=
  if response.success then
    { tray with
      held := (CacheEntry.keepIn tray.room tray.held ⟨key, response, tray.now + ttl⟩).filter
        (·.isLive tray.now) }
  else tray

/-- A call is served from what is alive. -/
def serve (tray : Tray) : CacheCall → List CacheAnswer × Tray
  | .perform (.get key) =>
    ([⟨(tray.held.find? (·.key = key)).map (·.response), false⟩], tray)
  | .perform (.set key response ttl) => ([], tray.keep key response ttl)
  | .perform .purge => ([], tray)
  | .perform .clear => ([], { tray with held := [] })
  | .compute key ttl response delay =>
    match tray.held.find? (·.key = key) with
    | some entry => ([⟨some entry.response, false⟩], tray)
    | none => ([⟨some response, true⟩], (tray.later (tray.now + delay)).keep key response ttl)
  | .wait span => ([], tray.later (tray.now + span))

/-- Calls are served in order. -/
def serveAll (tray : Tray) : List CacheCall → List CacheAnswer × Tray
  | [] => ([], tray)
  | call :: rest =>
    let (told, served) := tray.serve call
    let (answers, after) := served.serveAll rest
    (told ++ answers, after)

/-- The shelf of a tray. -/
def shelf (tray : Tray) : Shelf := Shelf.ofEntries tray.held

/-- What holds of the tray of a cache. -/
structure Proper (tray : Tray) : Prop where
  /-- No key has two entries. -/
  keys : (tray.held.map (·.key)).Nodup
  /-- There is room for at least one entry, -/
  roomy : 0 < tray.room
  /-- and no more are held than there is room for. -/
  bounded : tray.held.length ≤ tray.room
  /-- All that is held is alive. -/
  live : tray.held.filter (·.isLive tray.now) = tray.held

variable {tray : Tray}

@[simp] theorem room_keep (tray : Tray) (key : CacheKey) (response : Response) (ttl : Duration) :
    (tray.keep key response ttl).room = tray.room := by
  rw [keep]
  split <;> rfl

@[simp] theorem now_keep (tray : Tray) (key : CacheKey) (response : Response) (ttl : Duration) :
    (tray.keep key response ttl).now = tray.now := by
  rw [keep]
  split <;> rfl

@[simp] theorem room_serve (tray : Tray) (call : CacheCall) :
    (tray.serve call).2.room = tray.room := by
  cases call with
  | perform usage =>
      cases usage with
      | set key response ttl => exact room_keep tray key response ttl
      | _ => rfl
  | compute key ttl response delay =>
      rw [serve]
      split
      · rfl
      · rw [room_keep]
        rfl
  | wait span => rfl

theorem proper_later (h : tray.Proper) (instant : Instant) : (tray.later instant).Proper where
  keys := h.keys.sublist (List.filter_sublist.map _)
  roomy := h.roomy
  bounded := (List.length_filter_le _ _).trans h.bounded
  live := by
    rw [later, List.filter_filter]
    simp

theorem shelf_later (h : tray.Proper) (instant : Instant) :
    (tray.later instant).shelf = tray.shelf.asOf instant :=
  (Shelf.asOf_ofEntries h.keys instant).symm

/-- Storing into a tray is storing into its shelf. -/
theorem stores_keep (h : tray.Proper) (key : CacheKey) (response : Response) (ttl : Duration) :
    ∃ after, Shelf.Stores tray.room tray.shelf key response (tray.now + ttl) after ∧
      (tray.keep key response ttl).shelf = after.asOf tray.now := by
  cases hsuccess : response.success with
  | false =>
      have hkeep : tray.keep key response ttl = tray := by simp [keep, hsuccess]
      refine ⟨tray.shelf, Shelf.Stores.refused hsuccess, ?_⟩
      rw [hkeep, shelf, Shelf.asOf_ofEntries h.keys, h.live]
  | true =>
      have hkeep : (tray.keep key response ttl).held =
          (CacheEntry.keepIn tray.room tray.held ⟨key, response, tray.now + ttl⟩).filter
            (·.isLive tray.now) := by simp [keep, hsuccess]
      have hnodup : ((CacheEntry.keepIn tray.room tray.held
          ⟨key, response, tray.now + ttl⟩).map (·.key)).Nodup := by
        refine (Shelf.nodup_append_key h.keys ⟨key, response, tray.now + ttl⟩).sublist ?_
        exact ((CacheEntry.roomAmong_sublist _ _).append_right _).map _
      have hcounts : (⟨key, response, tray.now + ttl⟩ : CacheEntry).response.success = true :=
        hsuccess
      refine ⟨_, Shelf.stores_keepIn h.roomy h.keys h.bounded hcounts, ?_⟩
      rw [shelf, hkeep, Shelf.asOf_ofEntries hnodup]

/-- Serving from a tray is serving from its shelf. -/
theorem serves (h : tray.Proper) (call : CacheCall) :
    Shelf.Serves tray.room tray.now tray.shelf call (tray.serve call).1 (tray.serve call).2.now
      (tray.serve call).2.shelf := by
  cases call with
  | perform usage =>
      cases usage with
      | get key =>
          have hanswer : (tray.held.find? (·.key = key)).map (·.response) =
              (tray.shelf key).map (·.1) := by
            rw [shelf, Shelf.ofEntries, Option.map_map]
            rfl
          rw [serve, hanswer]
          exact Shelf.Serves.get
      | set key response ttl =>
          obtain ⟨after, hstores, hshelf⟩ := stores_keep h key response ttl
          rw [serve, now_keep, hshelf]
          exact Shelf.Serves.set hstores
      | purge => exact Shelf.Serves.purge
      | clear => exact Shelf.Serves.clear
  | compute key ttl response delay =>
      rw [serve]
      cases hfound : tray.held.find? (·.key = key) with
      | some entry =>
          have hheld : tray.shelf key = some (entry.response, entry.expiresAt) := by
            rw [shelf, Shelf.ofEntries, hfound]
            rfl
          exact Shelf.Serves.found hheld
      | none =>
          have hheld : tray.shelf key = none := by
            rw [shelf, Shelf.ofEntries, hfound]
            rfl
          obtain ⟨after, hstores, hshelf⟩ :=
            stores_keep (proper_later h (tray.now + delay)) key response ttl
          rw [shelf_later h] at hstores
          dsimp only
          rw [now_keep, hshelf]
          exact Shelf.Serves.computed hheld hstores
  | wait span =>
      rw [serve, shelf_later h]
      exact Shelf.Serves.wait

theorem serveAll_cons (tray : Tray) (call : CacheCall) (rest : List CacheCall) :
    tray.serveAll (call :: rest) =
      ((tray.serve call).1 ++ ((tray.serve call).2.serveAll rest).1,
       ((tray.serve call).2.serveAll rest).2) := rfl

/-- Purges may be left out. -/
theorem serveAll_unpurged (tray : Tray) (calls : List CacheCall) :
    tray.serveAll (calls.filter (!·.isPurge)) = tray.serveAll calls := by
  induction calls generalizing tray with
  | nil => rfl
  | cons call rest ih =>
      cases hcall : call.isPurge with
      | true =>
          rw [List.filter_cons_of_neg (by simp [hcall]), ih, CacheCall.eq_of_isPurge hcall]
          rfl
      | false =>
          rw [List.filter_cons_of_pos (by simp [hcall]), serveAll_cons, serveAll_cons, ih]

end Tray

/-! ### A desk serves what its tray serves -/

namespace Desk

/-- What is alive in the cache of a desk. -/
def tray (desk : Desk) : Tray :=
  ⟨desk.store.cache.capacity, desk.now, desk.store.cache.live desk.now⟩

/-- What holds of a desk between two calls. -/
structure Proper (desk : Desk) : Prop where
  /-- The cache is as it should be. -/
  cache : desk.store.cache.Proper
  /-- No one is at work. -/
  idle : desk.store.flights.Idle

variable {desk : Desk}

theorem proper_tray (h : desk.Proper) : desk.tray.Proper where
  keys := Cache.nodup_live h.cache desk.now
  roomy := h.cache.roomy
  bounded := (Cache.length_live_le _ _).trans h.cache.bounded
  live := Cache.filter_live (Nat.le_refl desk.now)

/-- What stands in the tray after a response was stored in the cache. -/
theorem keep_tray (desk : Desk) (h : desk.store.cache.Proper) (key : CacheKey) (response : Response)
    (ttl : Duration) (flights : Flights) :
    tray ⟨desk.now, desk.store.cache.insert key response ttl desk.now, flights⟩ =
      desk.tray.keep key response ttl := by
  cases hsuccess : response.success with
  | false => simp [Tray.keep, hsuccess, Cache.insert_of_not_success, tray]
  | true =>
      rw [Tray.keep, if_pos hsuccess, tray]
      dsimp only
      rw [Cache.live_insert h hsuccess, Cache.capacity_insert]
      rfl

theorem compute_of_hit {key : CacheKey} {found : Response}
    (h : (desk.store.cache.lookup key desk.now).1 = some found) (ttl : Duration)
    (response : Response) (delay : Duration) :
    desk.compute key ttl response delay =
      ([⟨some found, false⟩],
       { desk with store.cache := (desk.store.cache.lookup key desk.now).2.countHit }) := by
  rw [compute, Inquiry.approach_of_hit rfl h]
  rfl

theorem compute_of_miss (hidle : desk.store.flights.Idle) {key : CacheKey}
    (h : (desk.store.cache.lookup key desk.now).1 = none) (ttl : Duration) (response : Response)
    (delay : Duration) :
    desk.compute key ttl response delay =
      ([⟨some response, true⟩],
       ⟨desk.now + delay,
        (desk.store.cache.lookup key desk.now).2.countMiss.insert key response ttl
          (desk.now + delay),
        (desk.store.flights.join key).1.leave (desk.store.flights.join key).2⟩) := by
  rw [compute, Inquiry.approach_of_miss rfl hidle h]
  rfl

/-- What the look-up of an answer finds is what the tray holds. -/
theorem find?_tray (h : desk.Proper) (key : CacheKey) :
    (desk.tray.held.find? (·.key = key)).map (·.response) =
      (desk.store.cache.lookup key desk.now).1 :=
  (Cache.fst_lookup h.cache key desk.now).symm

/-- What a desk answers to a call and what its cache then shows is what the tray says, and the desk
is again as it should be. -/
def Mirrors (desk : Desk) (call : CacheCall) : Prop :=
  (desk.serve call).1 = (desk.tray.serve call).1 ∧
    (desk.serve call).2.tray = (desk.tray.serve call).2 ∧ (desk.serve call).2.Proper

theorem mirrors_perform (h : desk.Proper) (usage : CacheUse) : desk.Mirrors (.perform usage) := by
  have hproper : (desk.serve (.perform usage)).2.Proper :=
    ⟨Cache.proper_perform h.cache desk.now usage, h.idle⟩
  cases usage with
  | get key =>
      refine ⟨?_, ?_, hproper⟩
      · show [CacheAnswer.mk (desk.store.cache.get key desk.now).1 false] = _
        rw [Cache.fst_get, ← find?_tray h]
        rfl
      · show tray ⟨desk.now, (desk.store.cache.get key desk.now).2, desk.store.flights⟩ = desk.tray
        simp only [tray, Cache.capacity_get, Cache.live_get h.cache]
  | set key response ttl => exact ⟨rfl, keep_tray desk h.cache key response ttl _, hproper⟩
  | purge =>
      refine ⟨rfl, ?_, hproper⟩
      show tray ⟨desk.now, desk.store.cache.purge desk.now, desk.store.flights⟩ = desk.tray
      rw [tray, Cache.live_purge (Nat.le_refl _)]
      rfl
  | clear => exact ⟨rfl, rfl, hproper⟩

/-- A hit is counted, and nothing else changes. -/
theorem tray_countHit (h : desk.Proper) (key : CacheKey) :
    tray ⟨desk.now, (desk.store.cache.lookup key desk.now).2.countHit, desk.store.flights⟩ =
      desk.tray := by
  simp only [tray, Cache.countHit, Cache.capacity_lookup,
    ← Cache.live_lookup h.cache key desk.now]
  rfl

/-- After a miss the computation takes a while, during which what was alive may die. -/
theorem tray_countMiss (h : desk.Proper) (key : CacheKey) (delay : Duration) :
    tray ⟨desk.now + delay, (desk.store.cache.lookup key desk.now).2.countMiss,
      desk.store.flights⟩ = desk.tray.later (desk.now + delay) := by
  have hdead : (desk.store.cache.live desk.now).filter (·.isLive (desk.now + delay)) =
      (desk.store.cache.lookup key desk.now).2.live (desk.now + delay) := by
    rw [← Cache.live_lookup h.cache key desk.now]
    exact Cache.filter_live (Nat.le_add_right desk.now delay)
  rw [Tray.later, tray, tray, hdead]
  simp only [Cache.countMiss, Cache.capacity_lookup]
  rfl

theorem mirrors_compute (h : desk.Proper) (key : CacheKey) (ttl : Duration) (response : Response)
    (delay : Duration) : desk.Mirrors (.compute key ttl response delay) := by
  have hfound := find?_tray h key
  have hlookup := Cache.proper_lookup h.cache key desk.now
  rw [Mirrors, serve, Tray.serve]
  cases hheld : desk.tray.held.find? (·.key = key) with
  | some entry =>
      rw [hheld] at hfound
      rw [compute_of_hit hfound.symm]
      exact ⟨rfl, tray_countHit h key, Cache.proper_countHit hlookup, h.idle⟩
  | none =>
      rw [hheld] at hfound
      have hmissed : (desk.store.cache.lookup key desk.now).2.countMiss.Proper :=
        Cache.proper_countMiss hlookup
      rw [compute_of_miss h.idle hfound.symm]
      refine ⟨rfl, ?_, Cache.proper_insert hmissed _ _ _ _, Flights.idle_leave_join h.idle key⟩
      show tray ⟨desk.now + delay, _, _⟩ =
        (desk.tray.later (desk.now + delay)).keep key response ttl
      rw [← tray_countMiss h key delay]
      exact keep_tray ⟨desk.now + delay, _, desk.store.flights⟩ hmissed key response ttl _

/-- Between calls, what was alive may die. -/
theorem mirrors_wait (h : desk.Proper) (span : Duration) : desk.Mirrors (.wait span) := by
  refine ⟨rfl, ?_, h.cache, h.idle⟩
  show tray ⟨desk.now + span, desk.store⟩ = desk.tray.later (desk.now + span)
  rw [tray, Tray.later, tray, Cache.filter_live (Nat.le_add_right _ _)]

/-- **A desk serves as its tray does.** -/
theorem serve_tray (h : desk.Proper) (call : CacheCall) : desk.Mirrors call := by
  cases call with
  | perform usage => exact mirrors_perform h usage
  | compute key ttl response delay => exact mirrors_compute h key ttl response delay
  | wait span => exact mirrors_wait h span

theorem serveAll_cons (desk : Desk) (call : CacheCall) (rest : List CacheCall) :
    desk.serveAll (call :: rest) =
      ((desk.serve call).1 ++ ((desk.serve call).2.serveAll rest).1,
       ((desk.serve call).2.serveAll rest).2) := rfl

/-- A desk answers what its tray answers, to any calls. -/
theorem answers_tray (h : desk.Proper) (calls : List CacheCall) :
    (desk.serveAll calls).1 = (desk.tray.serveAll calls).1 := by
  induction calls generalizing desk with
  | nil => rfl
  | cons call rest ih =>
      obtain ⟨hanswers, htray, hserved⟩ := serve_tray h call
      rw [serveAll_cons, Tray.serveAll_cons, hanswers, ih hserved, htray]

theorem proper_serveAll (h : desk.Proper) (calls : List CacheCall) :
    (desk.serveAll calls).2.Proper ∧
      (desk.serveAll calls).2.store.cache.capacity = desk.store.cache.capacity := by
  induction calls generalizing desk with
  | nil => exact ⟨h, rfl⟩
  | cons call rest ih =>
      obtain ⟨-, htray, hserved⟩ := serve_tray h call
      obtain ⟨hafter, hcapacity⟩ := ih hserved
      have hroom : (desk.serve call).2.tray.room = desk.tray.room := by rw [htray, Tray.room_serve]
      exact ⟨hafter, hcapacity.trans hroom⟩

/-- Calls to a desk are calls to its shelf. -/
theorem runs_serveAll (h : desk.Proper) (calls : List CacheCall) :
    Shelf.Runs desk.tray.room desk.now desk.tray.shelf calls (desk.serveAll calls).1
      (desk.serveAll calls).2.now (desk.serveAll calls).2.tray.shelf := by
  induction calls generalizing desk with
  | nil => exact Shelf.Runs.nil
  | cons call rest ih =>
      obtain ⟨hanswers, htray, hserved⟩ := serve_tray h call
      have hserves : Shelf.Serves desk.tray.room desk.now desk.tray.shelf call (desk.serve call).1
          (desk.serve call).2.now (desk.serve call).2.tray.shelf := by
        have hnow : (desk.serve call).2.now = (desk.tray.serve call).2.now :=
          congrArg Tray.now htray
        rw [hanswers, htray, hnow]
        exact Tray.serves (proper_tray h) call
      have hrest := ih hserved
      rw [htray, Tray.room_serve, ← htray] at hrest
      exact Shelf.Runs.cons hserves hrest

theorem proper_opened (ttl : Duration) (maxEntries : Nat) (now : Instant) :
    (opened ttl maxEntries now).Proper :=
  ⟨Cache.proper_create ttl maxEntries, Flights.idle_empty⟩

/-- From a new cache on, whatever calls come: the answers are those of a bounded map with room for
`max maxEntries 1` responses, the cache keeps no more than that and only what counts, and calls that
differ in purges only are answered alike. -/
theorem refines_bounded_map (ttl : Duration) (maxEntries : Nat) (now : Instant)
    (calls : List CacheCall) :
    let served := (opened ttl maxEntries now).serveAll calls
    Shelf.Runs (max maxEntries 1) now Shelf.empty calls served.1 served.2.now
        (Shelf.ofEntries (served.2.store.cache.live served.2.now)) ∧
      served.2.store.cache.entries.length ≤ max maxEntries 1 ∧
      (∀ entry ∈ served.2.store.cache.entries, entry.response.success = true) ∧
      ∀ others : List CacheCall,
        others.filter (!·.isPurge) = calls.filter (!·.isPurge) →
          ((opened ttl maxEntries now).serveAll others).1 = served.1 := by
  intro served
  have hopened := proper_opened ttl maxEntries now
  obtain ⟨hproper, hcapacity⟩ := proper_serveAll hopened calls
  refine ⟨runs_serveAll hopened calls, ?_, hproper.cache.success, ?_⟩
  · exact hproper.cache.bounded.trans (Nat.le_of_eq hcapacity)
  · intro others hothers
    rw [answers_tray hopened, ← Tray.serveAll_unpurged, hothers, Tray.serveAll_unpurged,
      ← answers_tray hopened]

end Desk

end StoryDirector
