import StoryDirector.Cache.Inquiry
import StoryDirector.Proofs.Cache.Gates
import Mathlib.Logic.Function.Basic
/-!
# StoryDirector.Proofs.Cache.SingleFlight

**However callers interleave, no two compute for one key at the same time.** A `Crowd` is any number
of requests to one store that are under way together. Whoever moves does one thing without
interruption: it comes or is let through the gate (`Crowd.Move.go`), its computation ends, or it
gives up; between moves time passes and others use the cache.

The invariant `Crowd.Orderly` ties everything together that the gates depend on:

* the flights are those of a list of bays (`Flights.ofBays`), so locks and holders agree;
* the passes that the bays know are exactly the passes of callers at a gate or at work;
* no two callers have one pass, and each has a pass for its own key;
* whoever computes is at the front of its bay.

A new pass has a new ticket, so joining keeps this; leaving takes one pass out of both sides, and
the bay closes with its last pass. That is why a gate stays on its key exactly as long as someone is
there.
-/

namespace StoryDirector

namespace Inquiry

/-- The caller's place at a gate, from its first miss to its end. -/
def pass? (inquiry : Inquiry) : Option Pass :=
  match inquiry.stage with
  | .queued pass | .computing pass => some pass
  | .fresh | .answered _ | .abandoned => none

/-- Whether the caller computes. -/
def isComputing (inquiry : Inquiry) : Bool :=
  match inquiry.stage with
  | .computing _ => true
  | .fresh | .queued _ | .answered _ | .abandoned => false

theorem isComputing_iff {inquiry : Inquiry} :
    inquiry.isComputing = true ↔ ∃ pass, inquiry.stage = .computing pass := by
  rw [isComputing]
  cases inquiry.stage with
  | computing pass => exact ⟨fun _ => ⟨pass, rfl⟩, fun _ => rfl⟩
  | _ => exact ⟨nofun, nofun⟩

theorem pass?_of_computing {inquiry : Inquiry} {pass : Pass} (h : inquiry.stage = .computing pass) :
    inquiry.pass? = some pass := by
  rw [pass?, h]

theorem pass?_of_queued {inquiry : Inquiry} {pass : Pass} (h : inquiry.stage = .queued pass) :
    inquiry.pass? = some pass := by
  rw [pass?, h]

variable {inquiry : Inquiry} {pass : Pass} {now : Instant} {store : Store}

/-- What a caller does at its gate depends on its key only. -/
theorem enter_stage (inquiry : Inquiry) (stage : InquiryStage) (pass : Pass) (now : Instant)
    (store : Store) :
    ({ inquiry with stage } : Inquiry).enter pass now store = inquiry.enter pass now store := rfl

theorem key_enter : (inquiry.enter pass now store).2.key = inquiry.key := by
  rw [enter]
  split
  · split <;> rfl
  · rfl

theorem key_approach : (inquiry.approach now store).2.key = inquiry.key := by
  rw [approach]
  split
  · split
    · rfl
    · exact key_enter
  · exact key_enter
  case h_3 | h_4 | h_5 => rfl

theorem key_supply {response : Response} :
    (inquiry.supply response now store).2.key = inquiry.key := by
  rw [supply]
  split <;> rfl

theorem key_abandon : (inquiry.abandon store).2.key = inquiry.key := by
  rw [abandon]
  split <;> rfl

theorem proper_enter (h : store.cache.Proper) : (inquiry.enter pass now store).1.cache.Proper := by
  have hlookup := Cache.proper_lookup h inquiry.key now
  rw [enter]
  split
  · split
    case h_1 heq =>
        rw [heq] at hlookup
        exact Cache.proper_countHit hlookup
    case h_2 heq =>
        rw [heq] at hlookup
        exact Cache.proper_countMiss hlookup
  · exact h

theorem proper_approach (h : store.cache.Proper) :
    (inquiry.approach now store).1.cache.Proper := by
  have hlookup := Cache.proper_lookup h inquiry.key now
  rw [approach]
  split
  · split
    case h_1 heq =>
        rw [heq] at hlookup
        exact Cache.proper_countHit hlookup
    case h_2 heq =>
        rw [heq] at hlookup
        exact proper_enter hlookup
  · exact proper_enter h
  case h_3 | h_4 | h_5 => exact h

/-- Nobody is let to work without having looked just before. -/
theorem lookup_of_enter (h : (inquiry.enter pass now store).2.isComputing = true) :
    (store.cache.lookup inquiry.key now).1 = none := by
  rw [enter] at h
  split at h
  · split at h
    case h_1 => cases h
    case h_2 heq => rw [heq]
  · cases h

/-- A caller goes to work only after it found nothing. -/
theorem lookup_of_approach (hbefore : inquiry.isComputing = false)
    (h : (inquiry.approach now store).2.isComputing = true) :
    (store.cache.lookup inquiry.key now).1 = none := by
  rw [approach] at h
  split at h
  · split at h
    case h_1 => cases h
    case h_2 heq => rw [heq]
  · exact lookup_of_enter h
  case h_3 | h_4 | h_5 =>
      rw [hbefore] at h
      cases h

/-- No one begins to compute by handing in a response, -/
theorem computing_of_supply {response : Response}
    (h : (inquiry.supply response now store).2.isComputing = true) :
    inquiry.isComputing = true := by
  rw [supply] at h
  split at h
  case h_1 => cases h
  case h_2 | h_3 | h_4 | h_5 => exact h

/-- nor by giving up. -/
theorem computing_of_abandon (h : (inquiry.abandon store).2.isComputing = true) :
    inquiry.isComputing = true := by
  rw [abandon] at h
  split at h
  case h_1 | h_2 | h_3 => cases h
  case h_4 | h_5 => exact h

end Inquiry

/-- Callers with one store. -/
structure Crowd (ι : Type) where
  /-- The clock. -/
  now : Instant
  /-- The store. -/
  store : Store
  /-- The callers. -/
  callers : ι → Inquiry

/-- Something that happens without interruption. -/
inductive Crowd.Move (ι : Type) where
  /-- A caller comes, or is let through its gate if it is its turn. -/
  | go (who : ι)
  /-- A caller's computation ends. -/
  | supply (who : ι) (response : Response)
  /-- A caller gives up. -/
  | giveUp (who : ι)
  /-- Time passes. -/
  | wait (span : Duration)
  /-- Someone else uses the cache. -/
  | perform (usage : CacheUse)

namespace Crowd

variable {ι : Type} [DecidableEq ι]

/-- The crowd after a caller did something. -/
def moved (crowd : Crowd ι) (who : ι) (done : Store × Inquiry) : Crowd ι :=
  { crowd with store := done.1, callers := Function.update crowd.callers who done.2 }

@[simp] theorem callers_moved (crowd : Crowd ι) (who : ι) (done : Store × Inquiry) :
    (crowd.moved who done).callers = Function.update crowd.callers who done.2 := rfl

/-- The crowd after a move. -/
def step (crowd : Crowd ι) : Move ι → Crowd ι
  | .go who => crowd.moved who ((crowd.callers who).approach crowd.now crowd.store)
  | .supply who response =>
      crowd.moved who ((crowd.callers who).supply response crowd.now crowd.store)
  | .giveUp who => crowd.moved who ((crowd.callers who).abandon crowd.store)
  | .wait span => { crowd with now := crowd.now + span }
  | .perform usage => { crowd with store.cache := (crowd.store.cache.perform crowd.now usage).2 }

/-- The crowd after several moves in order. -/
def run (crowd : Crowd ι) (moves : List (Move ι)) : Crowd ι :=
  moves.foldl step crowd

/-- A crowd before its first move: the cache is empty, no one has come yet, and each caller knows
what it will ask and for how long what it computes is kept. -/
def start (ttl : Duration) (maxEntries : Nat) (now : Instant) (asks : ι → CacheKey × Duration) :
    Crowd ι where
  now := now
  store := { cache := Cache.create ttl maxEntries }
  callers who := { key := (asks who).1, ttl := (asks who).2 }

/-! ### The invariant -/

/-- What ties the flights to the callers. -/
structure Orderly (flights : Flights) (callers : ι → Inquiry) (bays : List Bay)
    (nextGate nextTicket : Nat) : Prop where
  /-- The flights are those of the bays. -/
  flights_eq : flights = Flights.ofBays bays nextGate nextTicket
  /-- The bays are in order. -/
  proper : Bay.Proper bays nextGate nextTicket
  /-- The bays know the passes of the callers and no others. -/
  holds_iff : ∀ pass, Bay.Holds bays pass ↔ ∃ who, (callers who).pass? = some pass
  /-- No two callers have one pass. -/
  unique : ∀ pass who other, (callers who).pass? = some pass → (callers other).pass? = some pass →
    who = other
  /-- A caller has a pass for the key that it asks. -/
  own_key : ∀ who pass, (callers who).pass? = some pass → pass.key = (callers who).key
  /-- Whoever computes is at the front. -/
  fronts : ∀ who pass, (callers who).stage = .computing pass → Bay.Fronts bays pass

variable {flights : Flights} {callers : ι → Inquiry} {bays : List Bay} {nextGate nextTicket : Nat}

/-! #### One caller changes -/

section Changed

variable {who : ι} {inquiry : Inquiry}

/-- If the changed caller has a pass for its own key, all have. -/
theorem Orderly.own_key_update (h : Orderly flights callers bays nextGate nextTicket)
    (hown : ∀ pass, inquiry.pass? = some pass → pass.key = inquiry.key) (other : ι) (pass : Pass)
    (hother : (Function.update callers who inquiry other).pass? = some pass) :
    pass.key = (Function.update callers who inquiry other).key := by
  rcases eq_or_ne other who with rfl | hne
  · rw [Function.update_self] at hother ⊢
    exact hown pass hother
  · rw [Function.update_of_ne hne] at hother ⊢
    exact h.own_key other pass hother

/-- If the changed caller is at the front if it computes, and so are all others, all are. -/
theorem fronts_update {after : List Bay}
    (hself : ∀ pass, inquiry.stage = .computing pass → Bay.Fronts after pass)
    (hrest : ∀ other, other ≠ who → ∀ pass, (callers other).stage = .computing pass →
      Bay.Fronts after pass) (other : ι) (pass : Pass)
    (hother : (Function.update callers who inquiry other).stage = .computing pass) :
    Bay.Fronts after pass := by
  rcases eq_or_ne other who with rfl | hne
  · rw [Function.update_self] at hother
    exact hself pass hother
  · rw [Function.update_of_ne hne] at hother
    exact hrest other hne pass hother

/-- A caller that keeps its pass leaves all passes where they are. -/
theorem pass?_update (h : inquiry.pass? = (callers who).pass?) (other : ι) :
    (Function.update callers who inquiry other).pass? = (callers other).pass? := by
  rcases eq_or_ne other who with rfl | hne
  · rw [Function.update_self, h]
  · rw [Function.update_of_ne hne]

/-- When a caller without a pass gets one, all others keep theirs. -/
theorem pass?_update_of_none (hwho : (callers who).pass? = none) {own : Pass}
    (hown : inquiry.pass? = some own) (other : ι) (pass : Pass) :
    (Function.update callers who inquiry other).pass? = some pass ↔
      (callers other).pass? = some pass ∨ other = who ∧ pass = own := by
  rcases eq_or_ne other who with rfl | hne
  · rw [Function.update_self, hown, hwho]
    exact ⟨fun hpass => Or.inr ⟨rfl, (Option.some.inj hpass).symm⟩,
      fun hpass => hpass.elim nofun fun ⟨_, heq⟩ => heq ▸ rfl⟩
  · rw [Function.update_of_ne hne]
    exact ⟨Or.inl, fun hpass => hpass.elim id fun ⟨heq, _⟩ => absurd heq hne⟩

/-- When a caller gives its pass away, no one has it any more, because only the caller had it. -/
theorem Orderly.pass?_update_gone (h : Orderly flights callers bays nextGate nextTicket)
    {gone : Pass} (hwho : (callers who).pass? = some gone) (hafter : inquiry.pass? = none)
    (other : ι) (pass : Pass) :
    (Function.update callers who inquiry other).pass? = some pass ↔
      (callers other).pass? = some pass ∧ pass ≠ gone := by
  rcases eq_or_ne other who with rfl | hne
  · rw [Function.update_self, hafter, hwho]
    exact ⟨nofun, fun ⟨heq, hpass⟩ => absurd (Option.some.inj heq).symm hpass⟩
  · rw [Function.update_of_ne hne]
    refine ⟨fun hpass => ⟨hpass, ?_⟩, And.left⟩
    rintro rfl
    exact hne (h.unique pass other who hpass hwho)

omit [DecidableEq ι] in
/-- No one has a pass with a ticket that is yet to be drawn. -/
theorem Orderly.pass?_ne_of_new (h : Orderly flights callers bays nextGate nextTicket) {own : Pass}
    (hticket : own.ticket = nextTicket) (other : ι) : (callers other).pass? ≠ some own := by
  intro hother
  obtain ⟨bay, hbay, -, -, hin⟩ := (h.holds_iff own).mpr ⟨other, hother⟩
  exact Nat.lt_irrefl _ (hticket ▸ h.proper.tickets bay hbay own.ticket hin)

end Changed

/-- A caller without a pass may become any other caller without a pass. -/
theorem Orderly.without (h : Orderly flights callers bays nextGate nextTicket) {who : ι}
    {inquiry : Inquiry} (hbefore : (callers who).pass? = none) (hafter : inquiry.pass? = none) :
    Orderly flights (Function.update callers who inquiry) bays nextGate nextTicket := by
  have hpass := pass?_update (hafter.trans hbefore.symm)
  refine ⟨h.flights_eq, h.proper, ?_, ?_, h.own_key_update ?_,
    fronts_update ?_ fun other _ => h.fronts other⟩
  · simpa only [hpass] using h.holds_iff
  · simpa only [hpass] using h.unique
  · intro pass hother
    rw [hafter] at hother
    cases hother
  · intro pass hcomputing
    rw [Inquiry.pass?_of_computing hcomputing] at hafter
    cases hafter

/-- A caller that has nothing yet joins: its ticket is new, so its pass is no one else's. -/
theorem Orderly.join (h : Orderly flights callers bays nextGate nextTicket) {who : ι}
    (hwho : (callers who).pass? = none) :
    ∃ joined after, Orderly (flights.join (callers who).key).1
      (Function.update callers who
        { callers who with stage := .queued (flights.join (callers who).key).2 })
      joined after (nextTicket + 1) := by
  obtain ⟨joined, after, gate, hjoin, hproper, hholds, hfronts⟩ :=
    Flights.join_spec h.proper (callers who).key
  refine ⟨joined, after, ?_⟩
  rw [h.flights_eq, hjoin]
  dsimp only
  generalize hpass : (⟨(callers who).key, gate, nextTicket⟩ : Pass) = own at hholds ⊢
  have hkey : own.key = (callers who).key := by rw [← hpass]
  have hnew : ∀ other, (callers other).pass? ≠ some own := h.pass?_ne_of_new (by rw [← hpass])
  have hmoved := @pass?_update_of_none _ _ callers who { callers who with stage := .queued own }
    hwho own rfl
  refine ⟨rfl, hproper, fun pass => ?_, fun pass one other hone hother => ?_,
    h.own_key_update ?_, fronts_update nofun fun other _ pass hother => ?_⟩
  · rw [hholds, h.holds_iff]
    simp only [hmoved]
    constructor
    · rintro (⟨other, hother⟩ | rfl)
      · exact ⟨other, Or.inl hother⟩
      · exact ⟨who, Or.inr ⟨rfl, rfl⟩⟩
    · rintro ⟨other, hother | ⟨-, rfl⟩⟩
      · exact Or.inl ⟨other, hother⟩
      · exact Or.inr rfl
  · rcases (hmoved one pass).mp hone with hfirst | ⟨rfl, rfl⟩
    · rcases (hmoved other pass).mp hother with hsecond | ⟨-, rfl⟩
      · exact h.unique pass one other hfirst hsecond
      · exact absurd hfirst (hnew one)
    · rcases (hmoved other pass).mp hother with hsecond | ⟨hsame, -⟩
      · exact absurd hsecond (hnew other)
      · exact hsame.symm
  · intro pass hother
    obtain rfl := Option.some.inj hother
    exact hkey
  · exact hfronts pass (h.fronts other pass hother)

/-- A caller leaves with the pass that it has. -/
theorem Orderly.leave (h : Orderly flights callers bays nextGate nextTicket) {who : ι} {gone : Pass}
    (hwho : (callers who).pass? = some gone) (inquiry : Inquiry) (hafter : inquiry.pass? = none) :
    ∃ left, Orderly (flights.leave gone) (Function.update callers who inquiry) left nextGate
      nextTicket := by
  have hgone : Bay.Holds bays gone := (h.holds_iff gone).mpr ⟨who, hwho⟩
  obtain ⟨left, hleave, hproper, hholds, hfronts⟩ := Flights.leave_spec h.proper hgone
  have hother := h.pass?_update_gone hwho hafter
  refine ⟨left, h.flights_eq ▸ hleave, hproper, fun pass => ?_, fun pass one other hone hpass => ?_,
    h.own_key_update ?_, fronts_update ?_ fun other hne pass hpass => ?_⟩
  · rw [hholds, h.holds_iff]
    simp only [hother]
    exact ⟨fun ⟨⟨other, hpass⟩, hne⟩ => ⟨other, hpass, hne⟩,
      fun ⟨other, hpass, hne⟩ => ⟨⟨other, hpass⟩, hne⟩⟩
  · exact h.unique pass one other ((hother one pass).mp hone).1 ((hother other pass).mp hpass).1
  · intro pass hpass
    rw [hafter] at hpass
    cases hpass
  · intro pass hcomputing
    rw [Inquiry.pass?_of_computing hcomputing] at hafter
    cases hafter
  · refine hfronts pass (h.fronts other pass hpass) ?_
    rintro rfl
    exact hne (h.unique pass other who (Inquiry.pass?_of_computing hpass) hwho)

/-- A caller at the front of its bay goes to work. -/
theorem Orderly.work (h : Orderly flights callers bays nextGate nextTicket) {who : ι} {pass : Pass}
    (hwho : (callers who).stage = .queued pass) (hmay : flights.mayWork pass = true) :
    Orderly flights (Function.update callers who { callers who with stage := .computing pass }) bays
      nextGate nextTicket := by
  have hown : (callers who).pass? = some pass := Inquiry.pass?_of_queued hwho
  have hsame :=
    @pass?_update _ _ callers who { callers who with stage := .computing pass } hown.symm
  refine ⟨h.flights_eq, h.proper, ?_, ?_, h.own_key_update ?_,
    fronts_update ?_ fun other _ => h.fronts other⟩
  · simpa only [hsame] using h.holds_iff
  · simpa only [hsame] using h.unique
  · intro other hother
    exact h.own_key who other (hown.trans hother)
  · intro other hother
    obtain rfl := InquiryStage.computing.inj hother
    rw [h.flights_eq] at hmay
    exact (Flights.mayWork_iff_fronts h.proper ((h.holds_iff pass).mpr ⟨_, hown⟩)).mp hmay

/-- A caller in line does what it can at its gate. -/
theorem Orderly.enter (store : Store) (h : Orderly store.flights callers bays nextGate nextTicket)
    {who : ι} {pass : Pass} (hwho : (callers who).stage = .queued pass) (now : Instant) :
    ∃ after, Orderly ((callers who).enter pass now store).1.flights
      (Function.update callers who ((callers who).enter pass now store).2) after nextGate
      nextTicket := by
  rw [Inquiry.enter]
  split
  case isTrue hmay =>
      split
      · exact h.leave (Inquiry.pass?_of_queued hwho) _ rfl
      · exact ⟨bays, h.work hwho hmay⟩
  case isFalse =>
      have hsame : { callers who with stage := .queued pass } = callers who := by rw [← hwho]
      refine ⟨bays, ?_⟩
      rw [hsame, Function.update_eq_self]
      exact h

/-! ### The invariant along a run -/

/-- What holds of a crowd between any two moves. -/
structure InOrder (crowd : Crowd ι) : Prop where
  /-- The cache is as it should be. -/
  cache : crowd.store.cache.Proper
  /-- Flights and callers fit together. -/
  flights : ∃ bays nextGate nextTicket,
    Orderly crowd.store.flights crowd.callers bays nextGate nextTicket

variable {crowd : Crowd ι}

omit [DecidableEq ι] in
theorem inOrder_start (ttl : Duration) (maxEntries : Nat) (now : Instant)
    (asks : ι → CacheKey × Duration) : (start ttl maxEntries now asks).InOrder where
  cache := Cache.proper_create ttl maxEntries
  flights := by
    refine ⟨[], 0, 0, rfl, Bay.proper_nil, ?_, nofun, nofun, nofun⟩
    exact fun pass => ⟨fun hpass => absurd hpass (Bay.holds_nil pass), nofun⟩

theorem inOrder_go (h : crowd.InOrder) (who : ι) : (crowd.step (.go who)).InOrder := by
  refine ⟨Inquiry.proper_approach h.cache, ?_⟩
  obtain ⟨bays, nextGate, nextTicket, horderly⟩ := h.flights
  show ∃ bays nextGate nextTicket,
    Orderly ((crowd.callers who).approach crowd.now crowd.store).1.flights
      (Function.update crowd.callers who
        ((crowd.callers who).approach crowd.now crowd.store).2) bays nextGate nextTicket
  rw [Inquiry.approach]
  split
  case h_1 hfresh =>
      have hnone : (crowd.callers who).pass? = none := by rw [Inquiry.pass?, hfresh]
      split
      · exact ⟨bays, nextGate, nextTicket, horderly.without hnone rfl⟩
      case h_2 cache _ =>
          -- The caller stands in line first and then does what it can there, all in one step.
          obtain ⟨joined, after, hjoined⟩ := horderly.join hnone
          obtain ⟨entered, hentered⟩ := Orderly.enter ⟨cache, _⟩ hjoined
            (by rw [Function.update_self]) crowd.now
          rw [Function.update_self, Function.update_idem, Inquiry.enter_stage] at hentered
          exact ⟨entered, after, nextTicket + 1, hentered⟩
  case h_2 pass hqueued =>
      obtain ⟨after, hafter⟩ := horderly.enter crowd.store hqueued crowd.now
      exact ⟨after, nextGate, nextTicket, hafter⟩
  case h_3 | h_4 | h_5 =>
      rw [Function.update_eq_self]
      exact ⟨bays, nextGate, nextTicket, horderly⟩

theorem inOrder_supply (h : crowd.InOrder) (who : ι) (response : Response) :
    (crowd.step (.supply who response)).InOrder := by
  obtain ⟨bays, nextGate, nextTicket, horderly⟩ := h.flights
  show InOrder (crowd.moved who ((crowd.callers who).supply response crowd.now crowd.store))
  rw [Inquiry.supply]
  split
  case h_1 pass hcomputing =>
      obtain ⟨left, hleft⟩ := horderly.leave (Inquiry.pass?_of_computing hcomputing)
        { crowd.callers who with stage := .answered response } rfl
      exact ⟨Cache.proper_insert h.cache _ _ _ _, left, nextGate, nextTicket, hleft⟩
  case h_2 | h_3 | h_4 | h_5 =>
      refine ⟨h.cache, bays, nextGate, nextTicket, ?_⟩
      rw [moved, Function.update_eq_self]
      exact horderly

theorem inOrder_giveUp (h : crowd.InOrder) (who : ι) : (crowd.step (.giveUp who)).InOrder := by
  obtain ⟨bays, nextGate, nextTicket, horderly⟩ := h.flights
  have hleave : ∀ pass, (crowd.callers who).pass? = some pass →
      InOrder (crowd.moved who ({ crowd.store with flights := crowd.store.flights.leave pass },
        { crowd.callers who with stage := .abandoned })) := by
    intro pass hpass
    obtain ⟨left, hleft⟩ := horderly.leave hpass
      { crowd.callers who with stage := .abandoned } rfl
    exact ⟨h.cache, left, nextGate, nextTicket, hleft⟩
  show InOrder (crowd.moved who ((crowd.callers who).abandon crowd.store))
  rw [Inquiry.abandon]
  split
  case h_1 hfresh =>
      have hnone : (crowd.callers who).pass? = none := by rw [Inquiry.pass?, hfresh]
      exact ⟨h.cache, bays, nextGate, nextTicket, horderly.without hnone rfl⟩
  case h_2 pass hqueued => exact hleave pass (Inquiry.pass?_of_queued hqueued)
  case h_3 pass hcomputing => exact hleave pass (Inquiry.pass?_of_computing hcomputing)
  case h_4 | h_5 =>
      refine ⟨h.cache, bays, nextGate, nextTicket, ?_⟩
      rw [moved, Function.update_eq_self]
      exact horderly

theorem inOrder_step (h : crowd.InOrder) (move : Move ι) : (crowd.step move).InOrder := by
  cases move with
  | go who => exact inOrder_go h who
  | supply who response => exact inOrder_supply h who response
  | giveUp who => exact inOrder_giveUp h who
  | wait span => exact ⟨h.cache, h.flights⟩
  | perform usage => exact ⟨Cache.proper_perform h.cache crowd.now usage, h.flights⟩

theorem inOrder_run (h : crowd.InOrder) (moves : List (Move ι)) : (crowd.run moves).InOrder := by
  induction moves generalizing crowd with
  | nil => exact h
  | cons move rest ih => exact ih (inOrder_step h move)

/-! ### Keys -/

theorem key_step (crowd : Crowd ι) (move : Move ι) (who : ι) :
    ((crowd.step move).callers who).key = (crowd.callers who).key := by
  have hupdate : ∀ mover (inquiry : Inquiry), inquiry.key = (crowd.callers mover).key →
      (Function.update crowd.callers mover inquiry who).key = (crowd.callers who).key := by
    intro mover inquiry hkey
    rcases eq_or_ne who mover with rfl | hne
    · rw [Function.update_self, hkey]
    · rw [Function.update_of_ne hne]
  cases move with
  | go mover => exact hupdate mover _ Inquiry.key_approach
  | supply mover response => exact hupdate mover _ Inquiry.key_supply
  | giveUp mover => exact hupdate mover _ Inquiry.key_abandon
  | wait span => rfl
  | perform usage => rfl

theorem key_run (crowd : Crowd ι) (moves : List (Move ι)) (who : ι) :
    ((crowd.run moves).callers who).key = (crowd.callers who).key := by
  induction moves generalizing crowd with
  | nil => rfl
  | cons move rest ih => exact (ih (crowd.step move)).trans (key_step crowd move who)

/-! ### Single flight -/

omit [DecidableEq ι] in
/-- No two compute for one key. -/
theorem eq_of_computing (h : crowd.InOrder) {who other : ι}
    (hwho : (crowd.callers who).isComputing = true)
    (hother : (crowd.callers other).isComputing = true)
    (hkey : (crowd.callers who).key = (crowd.callers other).key) : who = other := by
  obtain ⟨bays, nextGate, nextTicket, horderly⟩ := h.flights
  obtain ⟨pass, hpass⟩ := Inquiry.isComputing_iff.mp hwho
  obtain ⟨own, hown⟩ := Inquiry.isComputing_iff.mp hother
  have hkeys : pass.key = own.key := by
    rw [horderly.own_key who pass (Inquiry.pass?_of_computing hpass), hkey,
      horderly.own_key other own (Inquiry.pass?_of_computing hown)]
  obtain rfl := Bay.eq_of_fronts horderly.proper (horderly.fronts who pass hpass)
    (horderly.fronts other own hown) hkeys
  exact horderly.unique pass who other (Inquiry.pass?_of_computing hpass)
    (Inquiry.pass?_of_computing hown)

/-- A computation begins only when nothing alive is under its key. -/
theorem dead_of_begins (h : crowd.InOrder) {move : Move ι} {who : ι}
    (hbefore : (crowd.callers who).isComputing = false)
    (hafter : ((crowd.step move).callers who).isComputing = true) :
    ∀ entry ∈ crowd.store.cache.entries, entry.key = (crowd.callers who).key →
      entry.expiresAt ≤ crowd.now := by
  -- Only the caller's own moves change it, and of these only `go` lets it begin.
  have hmoved : ∀ mover (inquiry : Inquiry),
      (inquiry.isComputing = true → (crowd.callers mover).isComputing = true) →
      (Function.update crowd.callers mover inquiry who).isComputing ≠ true := by
    intro mover inquiry honly hupdated
    rcases eq_or_ne who mover with rfl | hne
    · rw [Function.update_self] at hupdated
      rw [honly hupdated] at hbefore
      cases hbefore
    · rw [Function.update_of_ne hne, hbefore] at hupdated
      cases hupdated
  cases move with
  | go mover =>
      rcases eq_or_ne who mover with rfl | hne
      · have hbegun :
            ((crowd.callers who).approach crowd.now crowd.store).2.isComputing = true := by
          rw [step, callers_moved, Function.update_self] at hafter
          exact hafter
        exact (Cache.fst_lookup_eq_none_iff h.cache).mp
          (Inquiry.lookup_of_approach hbefore hbegun)
      · rw [step, callers_moved, Function.update_of_ne hne, hbefore] at hafter
        cases hafter
  | supply mover response => exact absurd hafter (hmoved mover _ Inquiry.computing_of_supply)
  | giveUp mover => exact absurd hafter (hmoved mover _ Inquiry.computing_of_abandon)
  | wait span =>
      rw [step, hbefore] at hafter
      cases hafter
  | perform usage =>
      rw [step, hbefore] at hafter
      cases hafter

/-- Whatever moves were made so far: no two callers compute for one key; the next move lets a caller
begin to compute only if the cache holds nothing alive under its key; everyone between the first
miss and the end holds on to the gate to which the key leads; and a key at which no one is leads to
none. -/
theorem single_flight (ttl : Duration) (maxEntries : Nat) (now : Instant)
    (asks : ι → CacheKey × Duration) (moves : List (Move ι)) :
    let crowd := (start ttl maxEntries now asks).run moves
    (∀ who other, (crowd.callers who).isComputing = true →
      (crowd.callers other).isComputing = true → (asks who).1 = (asks other).1 → who = other) ∧
    (∀ move who, (crowd.callers who).isComputing = false →
      ((crowd.step move).callers who).isComputing = true →
      ∀ entry ∈ crowd.store.cache.entries, entry.key = (asks who).1 →
        entry.expiresAt ≤ crowd.now) ∧
    (∀ who pass, (crowd.callers who).pass? = some pass →
      pass.key = (asks who).1 ∧ crowd.store.flights.gateOf? (asks who).1 = some pass.gate ∧
      ∃ gate, crowd.store.flights.gate? pass.gate = some gate ∧ pass.ticket ∈ gate.holders) ∧
    ∀ key, (∀ who, (asks who).1 = key → (crowd.callers who).pass? = none) →
      crowd.store.flights.gateOf? key = none := by
  intro crowd
  have hinOrder : crowd.InOrder := inOrder_run (inOrder_start ttl maxEntries now asks) moves
  have hkeys : ∀ who, (crowd.callers who).key = (asks who).1 := fun who =>
    key_run (start ttl maxEntries now asks) moves who
  obtain ⟨bays, nextGate, nextTicket, horderly⟩ := hinOrder.flights
  refine ⟨?_, ?_, ?_, ?_⟩
  · intro who other hwho hother hsame
    exact eq_of_computing hinOrder hwho hother (by rw [hkeys, hkeys, hsame])
  · intro move who hbefore hafter
    rw [← hkeys who]
    exact dead_of_begins hinOrder hbefore hafter
  · intro who pass hpass
    have hkey : pass.key = (asks who).1 := (horderly.own_key who pass hpass).trans (hkeys who)
    have hholds : Bay.Holds bays pass := (horderly.holds_iff pass).mpr ⟨who, hpass⟩
    refine ⟨hkey, ?_⟩
    rw [← hkey, horderly.flights_eq]
    exact Flights.gate_of_holds horderly.proper hholds
  · intro key hnone
    rw [horderly.flights_eq]
    refine Flights.gateOf?_of_not_holds horderly.proper fun pass hpass => ?_
    obtain ⟨who, hwho⟩ := (horderly.holds_iff pass).mp hpass
    rintro rfl
    rw [hnone who ((hkeys who).symm.trans (horderly.own_key who pass hwho).symm)] at hwho
    cases hwho

end Crowd

end StoryDirector
