import StoryDirector.Proofs.Cache.Alone
/-!
# StoryDirector.Proofs.Cache.Clear

Questions that no one asks. **Where no one is at work on a question and no answer to it is alive,
who comes with it computes at once** (`Inquiry.approach_of_clear`), whatever others do at other
gates, and when they leave, the way stays clear (`Inquiry.clear_supply`).

`Store.Clear` says so of several questions together, beside the passes that some callers hold on to
meanwhile: a caller who comes turns one of the questions into one more pass, and one who is done
takes a pass away.
-/

namespace StoryDirector

/-- Who holds the only pass of a key is at the front. -/
theorem Bay.fronts_of_alone {bays : List Bay} {pass : Pass} (h : Holds bays pass)
    (halone : ∀ other, Holds bays other → other.key = pass.key → other = pass) :
    Fronts bays pass := by
  obtain ⟨bay, hbay, hkey, hgate, hticket⟩ := h
  refine ⟨bay, hbay, hkey, hgate, ?_⟩
  cases hholders : bay.holders with
  | nil =>
      rw [hholders] at hticket
      cases hticket
  | cons first rest =>
      have hfirst : Holds bays ⟨bay.key, bay.number, first⟩ :=
        ⟨bay, hbay, rfl, rfl, by rw [hholders]; exact List.mem_cons_self⟩
      rw [← halone _ hfirst hkey]
      rfl

/-- No one is at work on any of some questions, and no answer to them is alive; some passes are
held. -/
structure Store.Clear (store : Store) (now : Instant) (keys : List CacheKey)
    (passes : List Pass) : Prop where
  /-- Callers behave, and the passes are held, none of them for one of the questions, -/
  flights : ∃ bays nextGate nextTicket, store.flights = .ofBays bays nextGate nextTicket ∧
    Bay.Proper bays nextGate nextTicket ∧ (∀ pass ∈ passes, Bay.Holds bays pass) ∧
    ∀ pass, Bay.Holds bays pass → pass.key ∉ keys
  /-- and what is kept for the questions is dead. -/
  dead : ∀ entry ∈ store.cache.entries, entry.key ∈ keys → entry.expiresAt ≤ now

namespace Store.Clear

variable {store : Store} {now : Instant} {keys others : List CacheKey} {passes held : List Pass}

theorem mono (h : store.Clear now keys passes) (hkeys : others ⊆ keys) (hpasses : held ⊆ passes) :
    store.Clear now others held := by
  obtain ⟨⟨bays, nextGate, nextTicket, hflights, hproper, hholds, hfree⟩, hdead⟩ := h
  exact ⟨⟨bays, nextGate, nextTicket, hflights, hproper,
    fun pass hpass => hholds pass (hpasses hpass), fun pass hpass hkey =>
      hfree pass hpass (hkeys hkey)⟩, fun entry hentry hkey => hdead entry hentry (hkeys hkey)⟩

/-- What is dead stays dead. -/
theorem wait (h : store.Clear now keys passes) {instant : Instant} (hle : now ≤ instant) :
    store.Clear instant keys passes :=
  ⟨h.flights, fun entry hentry hkey => Nat.le_trans (h.dead entry hentry hkey) hle⟩

theorem lookup_eq_none (h : store.Clear now keys passes) {key : CacheKey} (hkey : key ∈ keys) :
    (store.cache.lookup key now).1 = none := by
  rw [Cache.lookup]
  cases hkept : store.cache.kept? key with
  | none => rfl
  | some entry =>
      have hentry : entry.key = key := by simpa using List.find?_some hkept
      have hdead : entry.expiresAt ≤ now :=
        h.dead entry (List.mem_of_find?_eq_some hkept) (hentry ▸ hkey)
      have hlive : ¬ entry.isLive now = true := by
        rw [CacheEntry.isLive_iff]
        exact Nat.not_lt_of_le hdead
      dsimp only
      rw [if_neg hlive]

end Store.Clear

namespace Inquiry

variable {inquiry : Inquiry} {now : Instant} {store : Store} {keys : List CacheKey}
  {passes : List Pass}

/-- Who comes with a question that no one asks computes at once. -/
theorem approach_of_clear (h : store.Clear now (inquiry.key :: keys) passes)
    (hfresh : inquiry.stage = .fresh) (hnew : inquiry.key ∉ keys) :
    ∃ after pass, inquiry.approach now store =
        (after, { inquiry with stage := .computing pass }) ∧
      pass.key = inquiry.key ∧ after.Clear now keys (pass :: passes) := by
  have hnone := h.lookup_eq_none List.mem_cons_self
  have hagain := Cache.lookup_again hnone
  obtain ⟨⟨bays, nextGate, nextTicket, hflights, hproper, hholds, hfree⟩, hdead⟩ := h
  obtain ⟨joined, after, gate, hjoin, hjoined, hmore, -⟩ :=
    Flights.join_spec hproper inquiry.key
  have hpass : Bay.Holds joined ⟨inquiry.key, gate, nextTicket⟩ := (hmore _).mpr (Or.inr rfl)
  -- No one else holds a pass for the question, so the caller is first in line.
  have hfronts : Bay.Fronts joined ⟨inquiry.key, gate, nextTicket⟩ := by
    refine Bay.fronts_of_alone hpass fun other hother hkey => ?_
    rcases (hmore other).mp hother with hold | hsame
    · exact absurd (hkey ▸ List.mem_cons_self) (hfree other hold)
    · exact hsame
  have hmay := (Flights.mayWork_iff_fronts hjoined hpass).mpr hfronts
  refine ⟨⟨(store.cache.lookup inquiry.key now).2.countMiss,
    .ofBays joined after (nextTicket + 1)⟩, ⟨inquiry.key, gate, nextTicket⟩, ?_, rfl, ?_, ?_⟩
  · generalize hlookup : store.cache.lookup inquiry.key now = found at hnone hagain
    obtain ⟨_, cache⟩ := found
    obtain rfl : _ = none := hnone
    rw [← hflights] at hjoin
    rw [approach, hfresh]
    simp only [hlookup, hjoin, enter, hmay, hagain, if_true]
  · refine ⟨joined, after, nextTicket + 1, rfl, hjoined, fun pass hin => ?_, fun pass hin => ?_⟩
    · rcases List.mem_cons.mp hin with rfl | hold
      · exact hpass
      · exact (hmore pass).mpr (Or.inl (hholds pass hold))
    · rcases (hmore pass).mp hin with hold | rfl
      · exact fun hkey => hfree pass hold (List.mem_cons_of_mem _ hkey)
      · exact hnew
  · exact fun entry hentry hkey =>
      hdead entry (Cache.mem_of_mem_lookup hentry) (List.mem_cons_of_mem _ hkey)

/-- Who is done gives its pass back, and the way stays clear for all other questions. -/
theorem clear_supply {pass : Pass} (h : store.Clear now keys (pass :: passes))
    (hstage : inquiry.stage = .computing pass) (hkey : inquiry.key ∉ keys) (hpass : pass ∉ passes)
    (response : Response) : (inquiry.supply response now store).1.Clear now keys passes := by
  obtain ⟨⟨bays, nextGate, nextTicket, hflights, hproper, hholds, hfree⟩, hdead⟩ := h
  obtain ⟨left, hleave, hleft, hless, -⟩ :=
    Flights.leave_spec hproper (hholds pass List.mem_cons_self)
  rw [supply, hstage]
  refine ⟨⟨left, nextGate, nextTicket, ?_, hleft, fun other hother => ?_, fun other hother => ?_⟩,
    fun entry hentry hin => ?_⟩
  · rw [← hleave, ← hflights]
  · exact (hless other).mpr ⟨hholds other (List.mem_cons_of_mem _ hother),
      fun heq => hpass (heq ▸ hother)⟩
  · exact hfree other ((hless other).mp hother).1
  · rcases Cache.mem_of_mem_insert hentry with hold | ⟨-, rfl⟩
    · exact hdead entry hold hin
    · exact absurd hin hkey

end Inquiry

end StoryDirector
