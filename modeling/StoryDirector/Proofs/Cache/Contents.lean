import StoryDirector.Cache
import Mathlib.Data.List.Nodup
/-!
# StoryDirector.Proofs.Cache.Contents

**What a cache holds and what it answers with.** A `Cache` may keep dead entries; what counts is
what is alive (`Cache.live`). Three things hold of every cache that came out of `Cache.create` by
any use: no key repeats, there are at most as many entries as there is room for, and every response
succeeded (`Cache.Proper`).

For such caches each operation is an equation on the live entries: look-ups and purges change
nothing (`live_lookup`, `live_purge`), and keeping a response is `CacheEntry.keepIn`, which never
looks at a dead entry (`live_insert`). What is alive later is a part of what is alive now
(`filter_live`), so two caches that hold the same live entries cannot be told apart any more.
-/

namespace StoryDirector

/-- In a list in which no key repeats, looking for the key of an item finds that item. -/
theorem find?_key_of_mem {α κ : Type} [DecidableEq κ] {key : α → κ} {items : List α}
    (h : (items.map key).Nodup) {item : α} (hitem : item ∈ items) :
    items.find? (key · = key item) = some item := by
  induction items with
  | nil => cases hitem
  | cons first rest ih =>
      obtain ⟨hfirst, hrest⟩ := List.nodup_cons.mp h
      rcases List.mem_cons.mp hitem with rfl | hmem
      · exact List.find?_cons_of_pos (decide_eq_true rfl)
      · have hne : key first ≠ key item := fun heq => hfirst (heq ▸ List.mem_map_of_mem hmem)
        rw [List.find?_cons_of_neg (by simpa using hne)]
        exact ih hrest hmem

namespace CacheEntry

theorem isLive_iff {entry : CacheEntry} {now : Instant} :
    entry.isLive now = true ↔ now < entry.expiresAt :=
  decide_eq_true_iff

/-- Some entries with room for one more: if they fill the room, the one nearest to its expiry is
left out. -/
def roomAmong (capacity : Nat) (entries : List CacheEntry) : List CacheEntry :=
  if entries.length < capacity then entries
  else
    match Cache.soonest? entries with
    | some victim => entries.filter (·.key ≠ victim.key)
    | none => entries

/-- Some entries with one more, in place of the one under its key. -/
def keepIn (capacity : Nat) (held : List CacheEntry) (entry : CacheEntry) : List CacheEntry :=
  roomAmong capacity (held.filter (·.key ≠ entry.key)) ++ [entry]

theorem roomAmong_sublist (capacity : Nat) (entries : List CacheEntry) :
    (roomAmong capacity entries).Sublist entries := by
  rw [roomAmong]
  split
  · exact List.Sublist.refl _
  · cases Cache.soonest? entries with
    | none => exact List.Sublist.refl _
    | some victim => exact List.filter_sublist

end CacheEntry

namespace Cache

/-- What holds of a cache between any two uses. -/
structure Proper (cache : Cache) : Prop where
  /-- No key has two entries. -/
  keys : (cache.entries.map (·.key)).Nodup
  /-- There is room for at least one entry, -/
  roomy : 0 < cache.capacity
  /-- and never more than there is room for. -/
  bounded : cache.entries.length ≤ cache.capacity
  /-- All that is kept succeeded. -/
  success : ∀ entry ∈ cache.entries, entry.response.success = true

/-- The entries that may still be answered with. -/
def live (cache : Cache) (now : Instant) : List CacheEntry :=
  cache.entries.filter (·.isLive now)

variable {cache : Cache} {key : CacheKey} {response : Response} {ttl : Duration}
  {now later : Instant}

theorem mem_live {entry : CacheEntry} :
    entry ∈ cache.live now ↔ entry ∈ cache.entries ∧ now < entry.expiresAt := by
  rw [live, List.mem_filter, CacheEntry.isLive_iff]

/-- What is alive later is alive now. -/
theorem filter_live (h : now ≤ later) :
    (cache.live now).filter (·.isLive later) = cache.live later := by
  rw [live, live, List.filter_filter]
  refine List.filter_congr fun entry _ => ?_
  rw [Bool.and_eq_left_iff_imp, CacheEntry.isLive_iff, CacheEntry.isLive_iff]
  exact fun hlater => Nat.lt_of_le_of_lt h hlater

theorem nodup_live (h : cache.Proper) (now : Instant) : ((cache.live now).map (·.key)).Nodup :=
  h.keys.sublist (List.filter_sublist.map _)

theorem length_live_le (cache : Cache) (now : Instant) :
    (cache.live now).length ≤ cache.entries.length :=
  List.length_filter_le _ _

/-! ### Removing entries -/

theorem proper_of_sublist {kept : List CacheEntry} (h : cache.Proper)
    (hkept : kept.Sublist cache.entries) {hits misses : Nat} :
    Proper { cache with entries := kept, hits, misses } where
  keys := h.keys.sublist (hkept.map _)
  roomy := h.roomy
  bounded := Nat.le_trans hkept.length_le h.bounded
  success := fun entry hentry => h.success entry (hkept.subset hentry)

theorem proper_drop (h : cache.Proper) (key : CacheKey) : (cache.drop key).Proper :=
  proper_of_sublist h List.filter_sublist

theorem proper_purge (h : cache.Proper) (now : Instant) : (cache.purge now).Proper :=
  proper_of_sublist h List.filter_sublist

theorem live_purge (h : now ≤ later) : (cache.purge now).live later = cache.live later :=
  filter_live h

/-- Dropping a key drops the live entry under it, if there is one. -/
theorem live_drop (key : CacheKey) :
    (cache.drop key).live now = (cache.live now).filter (·.key ≠ key) := by
  simp only [live, drop, List.filter_filter, Bool.and_comm]

/-! ### Looking up -/

theorem find?_live (h : cache.Proper) (key : CacheKey) (now : Instant) :
    (cache.live now).find? (·.key = key) = (cache.kept? key).filter (·.isLive now) := by
  cases hentry : cache.kept? key with
  | none =>
      rw [Option.filter_none, List.find?_eq_none]
      intro entry hlive
      exact List.find?_eq_none.mp hentry entry (mem_live.mp hlive).1
  | some entry =>
      have hmem : entry ∈ cache.entries := List.mem_of_find?_eq_some hentry
      obtain rfl : entry.key = key := by simpa using List.find?_some hentry
      rw [Option.filter_some]
      split
      case isTrue hlive =>
          exact find?_key_of_mem (nodup_live h now) (List.mem_filter.mpr ⟨hmem, hlive⟩)
      case isFalse hdead =>
          rw [List.find?_eq_none]
          intro other hother hsame
          obtain ⟨hmem', hlive⟩ := List.mem_filter.mp hother
          have heq : other = entry :=
            List.inj_on_of_nodup_map h.keys hmem' hmem (of_decide_eq_true hsame)
          exact hdead (heq ▸ hlive)

/-- A look-up finds what is alive under the key. -/
theorem fst_lookup (h : cache.Proper) (key : CacheKey) (now : Instant) :
    (cache.lookup key now).1 = ((cache.live now).find? (·.key = key)).map (·.response) := by
  rw [find?_live h, lookup]
  cases cache.kept? key with
  | none => rfl
  | some entry =>
      dsimp only
      rw [Option.filter_some]
      split <;> rfl

theorem fst_lookup_eq_none_iff (h : cache.Proper) {key : CacheKey} {now : Instant} :
    (cache.lookup key now).1 = none ↔
      ∀ entry ∈ cache.entries, entry.key = key → entry.expiresAt ≤ now := by
  rw [fst_lookup h, Option.map_eq_none_iff, List.find?_eq_none]
  refine forall_congr' fun entry => ?_
  rw [mem_live, decide_eq_true_iff]
  constructor
  · intro hnone hentry hkey
    exact Nat.le_of_not_lt fun hlt => hnone ⟨hentry, hlt⟩ hkey
  · rintro hdead ⟨hentry, hlt⟩ hkey
    exact Nat.not_le_of_lt hlt (hdead hentry hkey)

/-- Nothing that is alive is lost by a look-up. -/
theorem live_lookup (h : cache.Proper) (key : CacheKey) (now : Instant) :
    (cache.lookup key now).2.live now = cache.live now := by
  rw [lookup]
  cases hentry : cache.kept? key with
  | none => rfl
  | some entry =>
      dsimp only
      split
      case isTrue => rfl
      case isFalse hdead =>
          have hnone := find?_live h key now
          rw [hentry, Option.filter_some, if_neg hdead] at hnone
          rw [live_drop, List.filter_eq_self]
          intro other hother
          simpa using List.find?_eq_none.mp hnone other hother

theorem proper_lookup (h : cache.Proper) (key : CacheKey) (now : Instant) :
    (cache.lookup key now).2.Proper := by
  rw [lookup]
  cases cache.kept? key with
  | none => exact h
  | some entry =>
      dsimp only
      split
      · exact h
      · exact proper_drop h key

@[simp] theorem capacity_lookup (cache : Cache) (key : CacheKey) (now : Instant) :
    (cache.lookup key now).2.capacity = cache.capacity := by
  rw [lookup]
  cases cache.kept? key with
  | none => rfl
  | some entry =>
      dsimp only
      split <;> rfl

/-! ### Keeping a response -/

theorem soonest?_cons (entry : CacheEntry) (rest : List CacheEntry) :
    soonest? (entry :: rest) =
      match soonest? rest with
      | none => some entry
      | some other => if other.expiresAt < entry.expiresAt then some other else some entry := rfl

theorem soonest?_eq_none_iff {entries : List CacheEntry} :
    soonest? entries = none ↔ entries = [] := by
  cases entries with
  | nil => exact ⟨fun _ => rfl, fun _ => rfl⟩
  | cons entry rest =>
      refine ⟨fun h => ?_, nofun⟩
      rw [soonest?_cons] at h
      split at h
      · cases h
      · split at h <;> cases h

/-- The entry nearest to its expiry is one of the entries, and none is nearer. -/
theorem soonest?_spec {entries : List CacheEntry} {victim : CacheEntry}
    (h : soonest? entries = some victim) :
    victim ∈ entries ∧ ∀ entry ∈ entries, victim.expiresAt ≤ entry.expiresAt := by
  induction entries generalizing victim with
  | nil => cases h
  | cons first rest ih =>
      rw [soonest?_cons] at h
      cases hrest : soonest? rest with
      | none =>
          rw [hrest] at h
          obtain rfl := Option.some.inj h
          obtain rfl := soonest?_eq_none_iff.mp hrest
          exact ⟨List.mem_singleton_self _, fun entry hentry =>
            List.mem_singleton.mp hentry ▸ Nat.le_refl _⟩
      | some other =>
          rw [hrest] at h
          obtain ⟨hmem, hleast⟩ := ih hrest
          dsimp only at h
          -- The first one stays unless one of the rest expires strictly earlier.
          split at h
          case isTrue hlt =>
              obtain rfl := Option.some.inj h
              refine ⟨List.mem_cons_of_mem _ hmem, fun entry hentry => ?_⟩
              rcases List.mem_cons.mp hentry with rfl | hentry
              · exact Nat.le_of_lt hlt
              · exact hleast entry hentry
          case isFalse hge =>
              obtain rfl := Option.some.inj h
              refine ⟨List.mem_cons_self, fun entry hentry => ?_⟩
              rcases List.mem_cons.mp hentry with rfl | hentry
              · exact Nat.le_refl _
              · exact Nat.le_trans (Nat.le_of_not_lt hge) (hleast entry hentry)

/-- A list with what has the key of one of its items taken out is shorter. -/
theorem length_filter_key_lt {entries : List CacheEntry} {entry : CacheEntry}
    (h : entry ∈ entries) : (entries.filter (·.key ≠ entry.key)).length < entries.length :=
  List.length_filter_lt_length_iff_exists.mpr ⟨entry, h, by simp⟩

theorem makeRoom_sublist (cache : Cache) (now : Instant) :
    (cache.makeRoom now).entries.Sublist cache.entries := by
  rw [makeRoom]
  split
  · exact List.filter_sublist
  · cases soonest? (cache.purge now).entries with
    | none => exact List.filter_sublist
    | some victim => exact List.filter_sublist.trans List.filter_sublist

/-- Making room makes room. -/
theorem length_makeRoom_lt (h : cache.Proper) (now : Instant) :
    (cache.makeRoom now).entries.length < cache.capacity := by
  rw [makeRoom]
  split
  case isTrue hroomy => exact hroomy
  case isFalse hfull =>
      cases hvictim : soonest? (cache.purge now).entries with
      | none =>
          rw [soonest?_eq_none_iff.mp hvictim] at hfull
          exact absurd h.roomy hfull
      | some victim =>
          exact Nat.lt_of_lt_of_le (length_filter_key_lt (soonest?_spec hvictim).1)
            (proper_purge h now).bounded

/-- The cache with room for a response under a key. -/
def roomFor (cache : Cache) (key : CacheKey) (now : Instant) : Cache :=
  if cache.capacity ≤ cache.entries.length ∧ (cache.kept? key).isNone then cache.makeRoom now
  else cache

theorem roomFor_sublist (cache : Cache) (key : CacheKey) (now : Instant) :
    (cache.roomFor key now).entries.Sublist cache.entries := by
  rw [roomFor]
  split
  · exact makeRoom_sublist cache now
  · exact List.Sublist.refl _

@[simp] theorem capacity_makeRoom (cache : Cache) (now : Instant) :
    (cache.makeRoom now).capacity = cache.capacity := by
  rw [makeRoom]
  split
  · rfl
  · cases soonest? (cache.purge now).entries <;> rfl

@[simp] theorem capacity_roomFor (cache : Cache) (key : CacheKey) (now : Instant) :
    (cache.roomFor key now).capacity = cache.capacity := by
  rw [roomFor]
  split
  · exact capacity_makeRoom cache now
  · rfl

/-- With room made for it, the entries under all other keys leave room for one more. -/
theorem length_drop_roomFor_lt (h : cache.Proper) (key : CacheKey) (now : Instant) :
    ((cache.roomFor key now).drop key).entries.length < cache.capacity := by
  rw [roomFor]
  split
  case isTrue =>
      exact Nat.lt_of_le_of_lt (List.length_filter_le _ _) (length_makeRoom_lt h now)
  case isFalse hroomy =>
      rcases Nat.lt_or_ge cache.entries.length cache.capacity with hlt | hfull
      · exact Nat.lt_of_le_of_lt (List.length_filter_le _ _) hlt
      · cases hentry : cache.kept? key with
        | none => exact absurd ⟨hfull, by rw [hentry]; rfl⟩ hroomy
        | some entry =>
            obtain rfl : entry.key = key := by simpa using List.find?_some hentry
            exact Nat.lt_of_lt_of_le (length_filter_key_lt (List.mem_of_find?_eq_some hentry))
              h.bounded

theorem insert_of_success (h : response.success = true) :
    cache.insert key response ttl now =
      { cache.roomFor key now with
        entries :=
          ((cache.roomFor key now).drop key).entries ++ [⟨key, response, now + ttl⟩] } := by
  rw [insert, if_pos h]
  rfl

@[simp] theorem capacity_insert (cache : Cache) (key : CacheKey) (response : Response)
    (ttl : Duration) (now : Instant) :
    (cache.insert key response ttl now).capacity = cache.capacity := by
  cases h : response.success with
  | true => rw [insert_of_success h, capacity_roomFor]
  | false => rw [insert_of_not_success h]

/-- All that is in a cache after keeping a response was in it before or is that response. -/
theorem mem_of_mem_insert {entry : CacheEntry}
    (h : entry ∈ (cache.insert key response ttl now).entries) :
    entry ∈ cache.entries ∨ response.success = true ∧ entry = ⟨key, response, now + ttl⟩ := by
  cases hsuccess : response.success with
  | true =>
      rw [insert_of_success hsuccess] at h
      rcases List.mem_append.mp h with hold | hnew
      · exact Or.inl ((roomFor_sublist cache key now).subset (mem_drop.mp hold).1)
      · exact Or.inr ⟨rfl, List.mem_singleton.mp hnew⟩
  | false =>
      rw [insert_of_not_success hsuccess] at h
      exact Or.inl h

theorem proper_insert (h : cache.Proper) (key : CacheKey) (response : Response) (ttl : Duration)
    (now : Instant) : (cache.insert key response ttl now).Proper := by
  cases hsuccess : response.success with
  | false =>
      rw [insert_of_not_success hsuccess]
      exact h
  | true =>
      refine ⟨?_, ?_, ?_, fun entry hentry => ?_⟩
      · rw [insert_of_success hsuccess, List.map_append, List.nodup_append]
        refine ⟨h.keys.sublist ((List.filter_sublist.trans (roomFor_sublist cache key now)).map _),
          List.nodup_singleton _, fun old hold new hnew => ?_⟩
        obtain ⟨entry, hentry, rfl⟩ := List.mem_map.mp hold
        rw [List.mem_singleton.mp hnew]
        exact (mem_drop.mp hentry).2
      · rw [capacity_insert]
        exact h.roomy
      · rw [capacity_insert, insert_of_success hsuccess, List.length_append]
        exact length_drop_roomFor_lt h key now
      · rcases mem_of_mem_insert hentry with hold | ⟨-, rfl⟩
        · exact h.success entry hold
        · exact hsuccess

theorem live_drop_makeRoom (hkey : ∀ entry ∈ cache.live now, entry.key ≠ key) :
    ((cache.makeRoom now).drop key).live now =
      CacheEntry.roomAmong cache.capacity (cache.live now) := by
  have hpurged : (cache.purge now).live now = cache.live now := live_purge (Nat.le_refl now)
  have hlive : (cache.purge now).entries = cache.live now := rfl
  rw [live_drop, makeRoom, CacheEntry.roomAmong, hlive, show (cache.purge now).capacity =
    cache.capacity from rfl]
  split
  · rw [hpurged, List.filter_eq_self]
    simpa using hkey
  · cases soonest? (cache.live now) with
    | none =>
        dsimp only
        rw [hpurged, List.filter_eq_self]
        simpa using hkey
    | some victim =>
        dsimp only
        rw [live_drop, hpurged, List.filter_eq_self]
        intro entry hentry
        simpa using hkey entry (List.mem_filter.mp hentry).1

/-- Room is made among the live entries: the dead ones do not count. -/
theorem live_drop_roomFor (h : cache.Proper) (key : CacheKey) (now : Instant) :
    ((cache.roomFor key now).drop key).live now =
      CacheEntry.roomAmong cache.capacity ((cache.live now).filter (·.key ≠ key)) := by
  have hlength := length_drop_roomFor_lt h key now
  rw [roomFor] at hlength ⊢
  split
  case isTrue hfull =>
      have hkey : ∀ entry ∈ cache.live now, entry.key ≠ key := by
        intro entry hentry heq
        have hnone := Option.isNone_iff_eq_none.mp hfull.2
        exact List.find?_eq_none.mp hnone entry (mem_live.mp hentry).1 (decide_eq_true heq)
      rw [live_drop_makeRoom hkey, List.filter_eq_self.mpr (by simpa using hkey)]
  case isFalse hroomy =>
      rw [if_neg hroomy] at hlength
      rw [live_drop, CacheEntry.roomAmong, if_pos]
      rw [← live_drop]
      exact Nat.lt_of_le_of_lt (length_live_le _ now) hlength

/-- Which entries are alive after keeping a response does not depend on the dead ones. -/
theorem live_insert (h : cache.Proper) (hsuccess : response.success = true) (key : CacheKey)
    (ttl : Duration) (now : Instant) :
    (cache.insert key response ttl now).live now =
      (CacheEntry.keepIn cache.capacity (cache.live now) ⟨key, response, now + ttl⟩).filter
        (·.isLive now) := by
  have hroom := live_drop_roomFor h key now
  have hlive : (CacheEntry.roomAmong cache.capacity ((cache.live now).filter (·.key ≠ key))).filter
      (·.isLive now) =
      CacheEntry.roomAmong cache.capacity ((cache.live now).filter (·.key ≠ key)) := by
    rw [List.filter_eq_self]
    intro entry hentry
    have hmem := (CacheEntry.roomAmong_sublist _ _).subset hentry
    exact (List.mem_filter.mp (List.mem_filter.mp hmem).1).2
  rw [insert_of_success hsuccess, live, List.filter_append, CacheEntry.keepIn, List.filter_append,
    hlive, ← hroom]
  rfl

/-! ### Using a cache at once -/

end Cache

/-- A use of a cache that takes no time. -/
inductive CacheUse where
  /-- Asking for the response under a key. -/
  | get (key : CacheKey)
  /-- Keeping a response. -/
  | set (key : CacheKey) (response : Response) (ttl : Duration)
  /-- Throwing out what is dead. -/
  | purge
  /-- Throwing out everything. -/
  | clear

/-- What a use answers and leaves behind. -/
def Cache.perform (cache : Cache) (now : Instant) : CacheUse → Option Response × Cache
  | .get key => cache.get key now
  | .set key response ttl => (none, cache.insert key response ttl now)
  | .purge => (none, cache.purge now)
  | .clear => (none, cache.clear)

namespace Cache

theorem proper_create (ttl : Duration) (maxEntries : Nat) : (create ttl maxEntries).Proper where
  keys := List.nodup_nil
  roomy := Nat.lt_of_lt_of_le Nat.zero_lt_one (Nat.le_max_right _ _)
  bounded := Nat.zero_le _
  success := fun _ hentry => absurd hentry List.not_mem_nil

variable {cache : Cache}

theorem proper_countHit (h : cache.Proper) : cache.countHit.Proper :=
  proper_of_sublist h (List.Sublist.refl _)

theorem proper_countMiss (h : cache.Proper) : cache.countMiss.Proper :=
  proper_of_sublist h (List.Sublist.refl _)

theorem fst_get (cache : Cache) (key : CacheKey) (now : Instant) :
    (cache.get key now).1 = (cache.lookup key now).1 := by
  rw [get]
  split <;> simp_all

theorem entries_get (cache : Cache) (key : CacheKey) (now : Instant) :
    (cache.get key now).2.entries = (cache.lookup key now).2.entries := by
  rw [get]
  split <;> simp_all [countHit, countMiss]

@[simp] theorem capacity_get (cache : Cache) (key : CacheKey) (now : Instant) :
    (cache.get key now).2.capacity = cache.capacity := by
  rw [← capacity_lookup cache key now, get]
  split <;> simp_all [countHit, countMiss]

theorem live_get (h : cache.Proper) (key : CacheKey) (now : Instant) :
    (cache.get key now).2.live now = cache.live now := by
  rw [← live_lookup h key now, live, live, entries_get]

theorem proper_perform (h : cache.Proper) (now : Instant) (usage : CacheUse) :
    (cache.perform now usage).2.Proper := by
  cases usage with
  | get key =>
      have hlookup := proper_lookup h key now
      simp only [Cache.perform, get]
      split
      case h_1 heq =>
          rw [heq] at hlookup
          exact proper_countHit hlookup
      case h_2 heq =>
          rw [heq] at hlookup
          exact proper_countMiss hlookup
  | set key response ttl => exact proper_insert h key response ttl now
  | purge => exact proper_purge h now
  | clear => exact proper_of_sublist h (List.nil_sublist _)

end Cache

end StoryDirector
