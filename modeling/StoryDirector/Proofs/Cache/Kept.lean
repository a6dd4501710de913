import StoryDirector.Proofs.Cache.SingleFlight
/-!
# StoryDirector.Proofs.Cache.Kept

What is known of every response in the cache. **What holds of each response that is handed in, of
the response and the key, holds of each that is found** (`Cache.Holds`): looking up removes entries
and keeping adds the one that is handed in, and there is no other way into the cache. So it also
holds of each response with which an inquiry comes back (`Inquiry.holds_approach`).
-/

namespace StoryDirector

namespace Cache

variable {P Q : CacheKey → Response → Prop} {cache : Cache} {key : CacheKey} {response : Response}
  {now : Instant}

/-- What a look-up finds is alive and stands under the key. -/
theorem mem_of_lookup (h : (cache.lookup key now).1 = some response) :
    ∃ entry ∈ cache.entries,
      entry.key = key ∧ now < entry.expiresAt ∧ entry.response = response := by
  cases hkept : cache.kept? key with
  | none =>
      have hlookup : cache.lookup key now = (none, cache) := by rw [lookup, hkept]
      rw [hlookup] at h
      cases h
  | some entry =>
      have hlookup : cache.lookup key now =
          if entry.isLive now then (some entry.response, cache) else (none, cache.drop key) := by
        rw [lookup, hkept]
      have hkey : entry.key = key := by simpa using List.find?_some hkept
      rw [hlookup] at h
      split at h
      case isTrue hlive =>
          exact ⟨entry, List.mem_of_find?_eq_some hkept, hkey, CacheEntry.isLive_iff.mp hlive,
            Option.some.inj h⟩
      case isFalse => cases h

/-- Something holds of every key and the response that is kept under it. -/
def Holds (P : CacheKey → Response → Prop) (cache : Cache) : Prop :=
  ∀ entry ∈ cache.entries, P entry.key entry.response

theorem holds_create (ttl : Duration) (maxEntries : Nat) : (create ttl maxEntries).Holds P :=
  fun _ hentry => absurd hentry List.not_mem_nil

theorem Holds.mono (h : cache.Holds P) (hmore : ∀ key response, P key response → Q key response) :
    cache.Holds Q :=
  fun entry hentry => hmore _ _ (h entry hentry)

theorem Holds.of_subset {other : Cache} (h : cache.Holds P)
    (hless : other.entries ⊆ cache.entries) : other.Holds P :=
  fun entry hentry => h entry (hless hentry)

theorem Holds.of_lookup (h : cache.Holds P) (hfound : (cache.lookup key now).1 = some response) :
    P key response := by
  obtain ⟨entry, hentry, rfl, -, rfl⟩ := mem_of_lookup hfound
  exact h entry hentry

theorem holds_lookup (h : cache.Holds P) (key : CacheKey) (now : Instant) :
    (cache.lookup key now).2.Holds P :=
  fun entry hentry => h entry (mem_of_mem_lookup hentry)

theorem holds_insert (h : cache.Holds P) (hresponse : P key response) (ttl : Duration)
    (now : Instant) : (cache.insert key response ttl now).Holds P := by
  intro entry hentry
  rcases mem_of_mem_insert hentry with hold | ⟨-, rfl⟩
  · exact h entry hold
  · exact hresponse

end Cache

namespace Inquiry

variable {P : CacheKey → Response → Prop} {inquiry : Inquiry} {pass : Pass} {response : Response}
  {now : Instant} {store : Store}

/-- If the inquiry has a response, it holds of the key and the response. -/
def Holds (P : CacheKey → Response → Prop) (inquiry : Inquiry) : Prop :=
  ∀ response, inquiry.stage = .answered response → P inquiry.key response

theorem holds_fresh (key : CacheKey) (ttl : Duration) : Holds P ⟨key, ttl, .fresh⟩ :=
  fun _ hanswered => by cases hanswered

theorem holds_enter (h : store.cache.Holds P) :
    (inquiry.enter pass now store).1.cache.Holds P ∧ (inquiry.enter pass now store).2.Holds P := by
  have hafter := Cache.holds_lookup h inquiry.key now
  rw [enter]
  split
  · split
    case h_1 response cache hfound =>
        rw [hfound] at hafter
        have hresponse : P inquiry.key response := h.of_lookup (congrArg Prod.fst hfound)
        exact ⟨hafter, fun other hother => InquiryStage.answered.inj hother ▸ hresponse⟩
    case h_2 cache hfound =>
        rw [hfound] at hafter
        exact ⟨hafter, (fun _ hanswered => by cases hanswered)⟩
  · exact ⟨h, (fun _ hanswered => by cases hanswered)⟩

/-- What holds of all that is kept holds of what an inquiry finds. -/
theorem holds_approach (h : store.cache.Holds P) (hinquiry : inquiry.Holds P) (now : Instant) :
    (inquiry.approach now store).1.cache.Holds P ∧ (inquiry.approach now store).2.Holds P := by
  have hafter := Cache.holds_lookup h inquiry.key now
  rw [approach]
  split
  · split
    case h_1 response cache hfound =>
        rw [hfound] at hafter
        have hresponse : P inquiry.key response := h.of_lookup (congrArg Prod.fst hfound)
        exact ⟨hafter, fun other hother => InquiryStage.answered.inj hother ▸ hresponse⟩
    case h_2 cache hfound =>
        rw [hfound] at hafter
        exact holds_enter hafter
  · exact holds_enter h
  case h_3 | h_4 | h_5 => exact ⟨h, hinquiry⟩

theorem holds_supply (h : store.cache.Holds P) (hresponse : P inquiry.key response) :
    (inquiry.supply response now store).1.cache.Holds P := by
  rw [supply]
  split
  · exact Cache.holds_insert h hresponse _ _
  case h_2 | h_3 | h_4 | h_5 => exact h

theorem cache_abandon (inquiry : Inquiry) (store : Store) :
    (inquiry.abandon store).1.cache = store.cache := by
  rw [abandon]
  split <;> rfl

end Inquiry

end StoryDirector
