import StoryDirector.Cache.Inquiry
import StoryDirector.Proofs.Cache.Gates
/-!
# StoryDirector.Proofs.Cache.Alone

A caller with no one else about. **It is never held up**: either the cache answers at once
(`Inquiry.approach_of_hit`), or the caller is let through its gate and computes
(`Inquiry.approach_of_miss`), and when it leaves the gate no one is at work again.
-/

namespace StoryDirector

namespace Cache

variable {cache : Cache} {key : CacheKey} {now : Instant}

/-- After a look-up that found nothing, there is nothing left to remove for the next one. -/
theorem lookup_again (h : (cache.lookup key now).1 = none) :
    (cache.lookup key now).2.lookup key now = (none, (cache.lookup key now).2) := by
  cases hentry : cache.kept? key with
  | none =>
      have hlookup : cache.lookup key now = (none, cache) := by rw [lookup, hentry]
      rw [hlookup, hlookup]
  | some entry =>
      have hlookup : cache.lookup key now =
          if entry.isLive now then (some entry.response, cache) else (none, cache.drop key) := by
        rw [lookup, hentry]
      have hdead : ¬ entry.isLive now = true := by
        intro hlive
        rw [hlookup, if_pos hlive] at h
        cases h
      have hgone : (cache.drop key).kept? key = none := by
        rw [Cache.kept?, List.find?_eq_none]
        intro other hother
        simpa using (mem_drop.mp hother).2
      rw [hlookup, if_neg hdead, lookup, hgone]

end Cache

namespace Flights

variable {flights : Flights}

/-- No one is at work. -/
def Idle (flights : Flights) : Prop :=
  ∃ nextGate nextTicket, flights = ofBays [] nextGate nextTicket

theorem idle_empty : Idle {} := ⟨0, 0, rfl⟩

/-- Who comes when no one is at work opens the only bay and is first in its line. -/
theorem join_of_idle (h : flights.Idle) (key : CacheKey) :
    ∃ bays nextGate nextTicket,
      (flights.join key).1 = ofBays bays nextGate nextTicket ∧
      Bay.Proper bays nextGate nextTicket ∧ Bay.Fronts bays (flights.join key).2 ∧
      ∀ pass, Bay.Holds bays pass → pass = (flights.join key).2 := by
  obtain ⟨nextGate, nextTicket, rfl⟩ := h
  have hnone : ∀ bay ∈ ([] : List Bay), bay.key ≠ key ∧ bay.number < nextGate :=
    fun _ hbay => absurd hbay List.not_mem_nil
  have hproper : Bay.Proper ([] ++ [⟨key, nextGate, [nextTicket]⟩]) (nextGate + 1)
      (nextTicket + 1) :=
    Bay.proper_open Bay.proper_nil fun bay hbay => (hnone bay hbay).1
  rw [join_ofBays_of_new (fun bay hbay => (hnone bay hbay).1) fun bay hbay => (hnone bay hbay).2]
  refine ⟨_, _, _, rfl, hproper, ?_, ?_⟩
  · exact ⟨_, List.mem_singleton_self _, rfl, rfl, rfl⟩
  · rintro ⟨_, _, ticket⟩ ⟨bay, hbay, rfl, rfl, hticket⟩
    obtain rfl := List.mem_singleton.mp hbay
    obtain rfl : ticket = nextTicket := List.mem_singleton.mp hticket
    rfl

theorem mayWork_of_idle (h : flights.Idle) (key : CacheKey) :
    (flights.join key).1.mayWork (flights.join key).2 = true := by
  obtain ⟨bays, nextGate, nextTicket, heq, hproper, hfronts, -⟩ := join_of_idle h key
  rw [heq]
  exact (mayWork_iff_fronts hproper hfronts.holds).mpr hfronts

/-- Once the only one leaves, no one is at work. -/
theorem idle_leave_join (h : flights.Idle) (key : CacheKey) :
    ((flights.join key).1.leave (flights.join key).2).Idle := by
  obtain ⟨bays, nextGate, nextTicket, heq, hproper, hfronts, honly⟩ := join_of_idle h key
  obtain ⟨left, hleave, hleft, hholds, -⟩ := leave_spec hproper hfronts.holds
  have hempty : left = [] := by
    refine List.eq_nil_iff_forall_not_mem.mpr fun bay hbay => ?_
    obtain ⟨ticket, hticket⟩ := List.exists_mem_of_ne_nil _ (hleft.manned bay hbay)
    obtain ⟨hbefore, hne⟩ :=
      (hholds ⟨bay.key, bay.number, ticket⟩).mp ⟨bay, hbay, rfl, rfl, hticket⟩
    exact hne (honly _ hbefore)
  rw [heq, hleave, hempty]
  exact ⟨nextGate, nextTicket, rfl⟩

end Flights

namespace Inquiry

variable {inquiry : Inquiry} {now : Instant} {store : Store}

/-- What the cache has is taken at once. -/
theorem approach_of_hit (hfresh : inquiry.stage = .fresh) {response : Response}
    (h : (store.cache.lookup inquiry.key now).1 = some response) :
    inquiry.approach now store =
      ({ store with cache := (store.cache.lookup inquiry.key now).2.countHit },
       { inquiry with stage := .answered response }) := by
  generalize hlookup : store.cache.lookup inquiry.key now = found at h
  obtain ⟨_, cache⟩ := found
  obtain rfl : _ = some response := h
  rw [approach, hfresh]
  simp only [hlookup]

/-- What the cache has not is computed at once if no one is at work. -/
theorem approach_of_miss (hfresh : inquiry.stage = .fresh) (hidle : store.flights.Idle)
    (h : (store.cache.lookup inquiry.key now).1 = none) :
    inquiry.approach now store =
      (⟨(store.cache.lookup inquiry.key now).2.countMiss, (store.flights.join inquiry.key).1⟩,
       { inquiry with stage := .computing (store.flights.join inquiry.key).2 }) := by
  have hagain := Cache.lookup_again h
  generalize hlookup : store.cache.lookup inquiry.key now = found at h hagain
  obtain ⟨_, cache⟩ := found
  obtain rfl : _ = none := h
  rw [approach, hfresh]
  simp only [hlookup, enter, Flights.mayWork_of_idle hidle, hagain, if_true]

end Inquiry

end StoryDirector
