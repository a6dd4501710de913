import StoryDirector.Proofs.Cache.Gates
import StoryDirector.Proofs.Director.House
/-!
# StoryDirector.Proofs.Director.Exclusion

**No two visits run in one room.** The lock of a room is the line of those who are in the room or
wait for it (`Seating`): whoever asks goes to its end, whoever leaves is missing from it, and only
the first may run. So of the visits of one session only one runs at a time, unless the session was
ended after one of them had found its room and started again before the other looked for it. Then
the two are in different rooms (`House.exclusion`, `House.not_onePerSession_overtaken`).

`House.InOrder` is the invariant:

* locks and guests fit together, and whoever runs owns the lock of its room;
* whoever stands in line does so where it was shown the way;
* each room was made for one session, and an identity leads only to rooms that were made for it.
-/

namespace StoryDirector

namespace Lock

variable {lock : Lock} {who other : Nat}

/-- Who owns a lock keeps it when others ask. -/
theorem ownedBy_ask (h : lock.ownedBy who = true) (other : Nat) :
    (lock.ask other).ownedBy who = true := by
  have howner : lock.owner = some who := of_decide_eq_true h
  rw [ownedBy, ask, howner]
  simp

/-- Who owns a lock keeps it when others leave. -/
theorem ownedBy_leave (h : lock.ownedBy who = true) (hne : other ≠ who) :
    (lock.leave other).ownedBy who = true := by
  have howner : lock.owner = some who := of_decide_eq_true h
  rw [ownedBy, leave, howner, if_neg]
  · simp
  · exact fun heq => hne (Option.some.inj heq).symm

end Lock

/-! ### Lines -/

variable {ι : Type}

/-- What ties locks to those who stand in line for them, each with the room and its number. -/
structure Seating (locks : Nat → Option Lock) (next : Nat) (places : ι → Option (Nat × Nat)) :
    Prop where
  /-- Each lock is the line of those who stand in line for it. -/
  lines : ∀ room lock, locks room = some lock → ∃ line, lock = Lock.ofLine line ∧ line.Nodup ∧
    ∀ ticket, ticket ∈ line ↔ ∃ who, places who = some (room, ticket)
  /-- Everyone stands in line for a lock that is there, with a number that was given out. -/
  given : ∀ who room ticket, places who = some (room, ticket) →
    (∃ lock, locks room = some lock) ∧ ticket < next
  /-- No number was given out twice. -/
  unique : ∀ who other room elsewhere ticket, places who = some (room, ticket) →
    places other = some (elsewhere, ticket) → who = other

namespace Seating

variable {locks : Nat → Option Lock} {next : Nat} {places : ι → Option (Nat × Nat)}

section Update

variable [DecidableEq ι] {who : ι} {room ticket : Nat}

/-- The places of the others stay as they are. -/
theorem update_eq_some {other : ι} {place : Option (Nat × Nat)} {spot : Nat × Nat} :
    Function.update places who place other = some spot ↔
      (other = who ∧ place = some spot) ∨ (other ≠ who ∧ places other = some spot) := by
  rcases eq_or_ne other who with rfl | hne
  · rw [Function.update_self]
    simp
  · rw [Function.update_of_ne hne]
    simp [hne]

/-- Once someone without a place has one, that is taken as well. -/
theorem taken_ask (hnone : places who = none) {spot place : Nat × Nat} :
    (∃ other, Function.update places who (some place) other = some spot) ↔
      (∃ other, places other = some spot) ∨ spot = place := by
  constructor
  · rintro ⟨other, hother⟩
    rcases update_eq_some.mp hother with ⟨-, hplace⟩ | ⟨-, hplace⟩
    · exact Or.inr (Option.some.inj hplace).symm
    · exact Or.inl ⟨other, hplace⟩
  · rintro (⟨other, hother⟩ | rfl)
    · refine ⟨other, update_eq_some.mpr (Or.inr ⟨?_, hother⟩)⟩
      rintro rfl
      rw [hnone] at hother
      cases hother
    · exact ⟨who, update_eq_some.mpr (Or.inl ⟨rfl, rfl⟩)⟩

/-- Once someone has given up its place, all others are taken as before. -/
theorem taken_leave (h : Seating locks next places) (hplace : places who = some (room, ticket))
    {elsewhere number : Nat} :
    (∃ other, Function.update places who none other = some (elsewhere, number)) ↔
      (∃ other, places other = some (elsewhere, number)) ∧
        (elsewhere, number) ≠ (room, ticket) := by
  constructor
  · rintro ⟨other, hother⟩
    rcases update_eq_some.mp hother with ⟨-, hnone⟩ | ⟨hne, hold⟩
    · cases hnone
    · refine ⟨⟨other, hold⟩, fun heq => hne ?_⟩
      obtain ⟨rfl, rfl⟩ := Prod.mk.inj heq
      exact h.unique other who elsewhere elsewhere number hold hplace
  · rintro ⟨⟨other, hold⟩, hnot⟩
    refine ⟨other, update_eq_some.mpr (Or.inr ⟨?_, hold⟩)⟩
    rintro rfl
    exact hnot (Option.some.inj (hold.symm.trans hplace))

/-- Asking puts a new number at the end of a line. -/
theorem ask (h : Seating locks next places) {lock : Lock} (hlock : locks room = some lock)
    (hnone : places who = none) :
    Seating (fun elsewhere => if room = elsewhere then (locks room).map (·.ask next)
      else locks elsewhere) (next + 1) (Function.update places who (some (room, next))) where
  lines := by
    intro elsewhere asked hasked
    rcases eq_or_ne room elsewhere with rfl | hne
    · rw [if_pos rfl, hlock] at hasked
      obtain rfl := Option.some.inj hasked
      obtain ⟨line, rfl, hnodup, hline⟩ := h.lines room lock hlock
      -- The number is new, so it does not stand in line yet.
      have hnew : next ∉ line := by
        intro hmem
        obtain ⟨someone, hplace⟩ := (hline next).mp hmem
        exact Nat.lt_irrefl _ (h.given someone room next hplace).2
      refine ⟨line ++ [next], Lock.ask_ofLine line next, ?_, fun ticket => ?_⟩
      · exact List.nodup_append_comm.mp (List.nodup_cons.mpr ⟨hnew, hnodup⟩)
      · rw [taken_ask hnone, List.mem_append, List.mem_singleton, hline, Prod.mk.injEq]
        simp
    · rw [if_neg hne] at hasked
      obtain ⟨line, hofLine, hnodup, hline⟩ := h.lines elsewhere asked hasked
      refine ⟨line, hofLine, hnodup, fun ticket => ?_⟩
      rw [taken_ask hnone, hline, Prod.mk.injEq]
      simp [hne.symm]
  given := by
    have hthere : ∀ elsewhere, (∃ lock, locks elsewhere = some lock) →
        ∃ lock, (if room = elsewhere then (locks room).map (·.ask next) else locks elsewhere) =
          some lock := by
      rintro elsewhere ⟨other, hother⟩
      split
      · exact ⟨_, by rw [hlock, Option.map_some]⟩
      · exact ⟨other, hother⟩
    intro other elsewhere number hplace
    rcases update_eq_some.mp hplace with ⟨-, hnew⟩ | ⟨-, hold⟩
    · obtain ⟨rfl, rfl⟩ := Prod.mk.inj (Option.some.inj hnew)
      exact ⟨hthere room ⟨lock, hlock⟩, Nat.lt_succ_self _⟩
    · obtain ⟨hlocked, hless⟩ := h.given other elsewhere number hold
      exact ⟨hthere elsewhere hlocked, Nat.lt_succ_of_lt hless⟩
  unique := by
    intro one other here there number hone hother
    rcases update_eq_some.mp hone with ⟨rfl, hnew⟩ | ⟨-, hold⟩
    · rcases update_eq_some.mp hother with ⟨rfl, -⟩ | ⟨-, hold⟩
      · rfl
      · obtain ⟨-, rfl⟩ := Prod.mk.inj (Option.some.inj hnew)
        exact absurd (h.given other there _ hold).2 (Nat.lt_irrefl _)
    · rcases update_eq_some.mp hother with ⟨rfl, hnew⟩ | ⟨-, hother⟩
      · obtain ⟨-, rfl⟩ := Prod.mk.inj (Option.some.inj hnew)
        exact absurd (h.given one here _ hold).2 (Nat.lt_irrefl _)
      · exact h.unique one other here there number hold hother

/-- Leaving takes a number out of a line. -/
theorem leave (h : Seating locks next places) (hplace : places who = some (room, ticket)) :
    Seating (fun elsewhere => if room = elsewhere then (locks room).map (·.leave ticket)
      else locks elsewhere) next (Function.update places who none) where
  lines := by
    intro elsewhere left hleft
    rcases eq_or_ne room elsewhere with rfl | hne
    · rw [if_pos rfl] at hleft
      obtain ⟨lock, hlock, rfl⟩ := Option.map_eq_some_iff.mp hleft
      obtain ⟨line, rfl, hnodup, hline⟩ := h.lines room lock hlock
      refine ⟨line.filter (· ≠ ticket), Lock.leave_ofLine hnodup ticket, hnodup.filter _,
        fun number => ?_⟩
      rw [taken_leave h hplace, List.mem_filter, hline]
      simp
    · rw [if_neg hne] at hleft
      obtain ⟨line, hofLine, hnodup, hline⟩ := h.lines elsewhere left hleft
      refine ⟨line, hofLine, hnodup, fun number => ?_⟩
      rw [taken_leave h hplace, hline]
      simp [hne.symm]
  given := by
    intro other elsewhere number hother
    rcases update_eq_some.mp hother with ⟨-, hnone⟩ | ⟨-, hold⟩
    · cases hnone
    · obtain ⟨⟨lock, hlock⟩, hless⟩ := h.given other elsewhere number hold
      refine ⟨?_, hless⟩
      split
      case isTrue heq =>
          subst heq
          exact ⟨_, by rw [hlock, Option.map_some]⟩
      case isFalse => exact ⟨lock, hlock⟩
  unique := by
    intro one other here there number hone hother
    rcases update_eq_some.mp hone with ⟨-, hnone⟩ | ⟨-, hone⟩
    · cases hnone
    · rcases update_eq_some.mp hother with ⟨-, hnone⟩ | ⟨-, hother⟩
      · cases hnone
      · exact h.unique one other here there number hone hother

end Update

/-- A new lock has no line. -/
theorem opened (h : Seating locks next places) {after : Nat → Option Lock}
    (hkept : ∀ room lock, locks room = some lock → after room = some lock)
    (hnew : ∀ room lock, after room = some lock →
      locks room = some lock ∨ locks room = none ∧ lock = {}) : Seating after next places where
  lines := by
    intro room lock hlock
    rcases hnew room lock hlock with hold | ⟨hnone, rfl⟩
    · exact h.lines room lock hold
    · refine ⟨[], rfl, List.nodup_nil, fun ticket => ?_⟩
      refine ⟨fun hmem => absurd hmem List.not_mem_nil, ?_⟩
      rintro ⟨who, hplace⟩
      obtain ⟨⟨other, hother⟩, -⟩ := h.given who room ticket hplace
      rw [hnone] at hother
      cases hother
  given := by
    intro who room ticket hplace
    obtain ⟨⟨lock, hlock⟩, hless⟩ := h.given who room ticket hplace
    exact ⟨⟨lock, hkept room lock hlock⟩, hless⟩
  unique := h.unique

/-- A lock is free, or someone who stands in line owns it. -/
theorem free_or_owned (h : Seating locks next places) {room : Nat} {lock : Lock}
    (hlock : locks room = some lock) : lock.owner = none ∨
      ∃ who ticket, places who = some (room, ticket) ∧ lock.ownedBy ticket = true := by
  obtain ⟨line, rfl, -, hline⟩ := h.lines room lock hlock
  cases line with
  | nil => exact Or.inl rfl
  | cons first rest =>
      obtain ⟨who, hplace⟩ := (hline first).mp List.mem_cons_self
      exact Or.inr ⟨who, first, hplace, Lock.ownedBy_ofLine.mpr rfl⟩

end Seating

/-! ### What a step of a guest does to the lines -/

namespace Guest

variable {setup : DirectorSetup} {director : Director} {guest : Guest} {done : Director × Guest}

/-- What a step of a guest does to the lines. -/
inductive Shift (director : Director) (guest : Guest) (done : Director × Guest) : Prop where
  /-- Everyone stays in place. -/
  | stays (hlocks : done.1.lockOf? = director.lockOf?)
      (hnext : done.1.nextTicket = director.nextTicket) (hplace : done.2.place? = guest.place?)
  /-- The guest, who had no place, goes to the end of the line for its room. -/
  | asks (room : Nat) (hnone : guest.place? = none) (hshown : guest.shown = some room)
      (hlocks : done.1.lockOf? = fun elsewhere =>
        if room = elsewhere then (director.lockOf? room).map (·.ask director.nextTicket)
        else director.lockOf? elsewhere)
      (hnext : done.1.nextTicket = director.nextTicket + 1)
      (hplace : done.2.place? = some (room, director.nextTicket))
  /-- The guest leaves its place. -/
  | leaves (room ticket : Nat) (hsome : guest.place? = some (room, ticket))
      (hlocks : done.1.lockOf? = fun elsewhere =>
        if room = elsewhere then (director.lockOf? room).map (·.leave ticket)
        else director.lockOf? elsewhere)
      (hnext : done.1.nextTicket = director.nextTicket) (hplace : done.2.place? = none)

theorem place?_of_fresh (h : guest.visit.stage = .fresh) : guest.place? = none := by
  rw [place?, h]

theorem place?_of_queued {room ticket : Nat} (h : guest.visit.stage = .queued room ticket) :
    guest.place? = some (room, ticket) := by
  rw [place?, h]

theorem place?_of_running {room ticket : Nat} {plan : Plan} {run : Run}
    (h : guest.visit.stage = .running room ticket plan run) :
    guest.place? = some (room, ticket) := by
  rw [place?, h]

theorem Turn.shift (h : Turn setup director guest done) : Shift director guest done := by
  cases h with
  | rests => exact .stays rfl rfl rfl
  | leaves engine error hfresh => exact .stays rfl rfl (place?_of_fresh hfresh).symm
  | finds room hfresh hnew hroom => exact .stays rfl rfl rfl
  | asks room hfresh hshown =>
      exact .asks room (place?_of_fresh hfresh) hshown (funext (director.lockOf?_askFor room)) rfl
        rfl
  | turnsBack room ticket engine hqueued =>
      exact .leaves room ticket (place?_of_queued hqueued)
        (funext (director.lockOf?_leave room ticket)) rfl rfl
  | takesUp room ticket found plan engine hqueued howns hfound hplan =>
      exact .stays rfl rfl (place?_of_queued hqueued).symm
  | pauses room ticket plan run hrunning hbusy =>
      exact .stays rfl rfl (place?_of_running hrunning).symm
  | goesOn room ticket plan run next engine hrunning hlook hbusy =>
      exact .stays rfl rfl (place?_of_running hrunning).symm
  | stops room ticket plan run engine hrunning =>
      refine .leaves room ticket (place?_of_running hrunning) (funext fun elsewhere => ?_) rfl rfl
      have hleft := (director.putBack room run.session).lockOf?_leave room ticket elsewhere
      rwa [Director.lockOf?_putBack, Director.lockOf?_putBack] at hleft
  | finishes room ticket plan run ended seen engine hrunning hlook hdone =>
      refine .leaves room ticket (place?_of_running hrunning) (funext fun elsewhere => ?_) rfl rfl
      have hleft := (director.putBack room
        (ended.session.recordAction guest.visit.action)).lockOf?_leave room ticket elsewhere
      rwa [Director.lockOf?_putBack, Director.lockOf?_putBack] at hleft

/-- A step of a guest starts and ends no session and adds no room. -/
theorem Turn.frame (h : Turn setup director guest done) :
    done.1.current = director.current ∧ done.1.rooms.length = director.rooms.length := by
  cases h with
  | stops room ticket plan run engine hrunning =>
      refine ⟨rfl, ?_⟩
      exact (Director.length_rooms_atRoom _ room _).trans (director.length_rooms_atRoom room _)
  | finishes room ticket plan run ended seen engine hrunning hlook hdone =>
      refine ⟨rfl, ?_⟩
      exact (Director.length_rooms_atRoom _ room _).trans (director.length_rooms_atRoom room _)
  | asks room hfresh hshown => exact ⟨rfl, director.length_rooms_atRoom room _⟩
  | turnsBack room ticket engine hqueued => exact ⟨rfl, director.length_rooms_atRoom room _⟩
  | _ => exact ⟨rfl, rfl⟩

/-- A guest keeps its errand. -/
theorem Turn.errand (h : Turn setup director guest done) :
    done.2.visit.errand = guest.visit.errand := by
  cases h <;> rfl

theorem Turn.session (h : Turn setup director guest done) :
    done.2.visit.session = guest.visit.session := by
  have hsame := congrArg Visit.session h.errand
  exact hsame

/-- A guest is shown a room by the director, and keeps to it. -/
theorem Turn.shown (h : Turn setup director guest done) : done.2.shown = guest.shown ∨
    ∃ room, guest.shown = none ∧ done.2.shown = some room ∧
      director.room? guest.visit.session = some room := by
  cases h with
  | finds room hfresh hnew hroom => exact Or.inr ⟨room, hnew, rfl, hroom⟩
  | _ => exact Or.inl rfl

/-- Whoever runs after its step owned the lock of its room before. -/
theorem Turn.owns (h : Turn setup director guest done) {room ticket : Nat} {plan : Plan} {run : Run}
    (hrunning : done.2.visit.stage = .running room ticket plan run) :
    done.1.lockOf? = director.lockOf? ∧ (director.owns room ticket = true ∨
      ∃ before, guest.visit.stage = .running room ticket plan before) := by
  cases h with
  | rests => exact ⟨rfl, Or.inr ⟨run, hrunning⟩⟩
  | finds other hfresh hnew hroom =>
      rw [hfresh] at hrunning
      cases hrunning
  | takesUp other number found planned engine hqueued howns hfound hplan =>
      obtain ⟨rfl, rfl, rfl, rfl⟩ := VisitStage.running.inj hrunning
      exact ⟨rfl, Or.inl howns⟩
  | pauses other number planned before hbefore hbusy =>
      obtain ⟨rfl, rfl, rfl, rfl⟩ := VisitStage.running.inj hrunning
      exact ⟨rfl, Or.inr ⟨before, hbefore⟩⟩
  | goesOn other number planned before next engine hbefore hlook hbusy =>
      obtain ⟨rfl, rfl, rfl, rfl⟩ := VisitStage.running.inj hrunning
      exact ⟨rfl, Or.inr ⟨before, hbefore⟩⟩
  | leaves | asks | turnsBack | stops | finishes => cases hrunning

/-- The guest has taken the session in a room and is not done with it. -/
def RunsIn (guest : Guest) (room : Nat) : Prop :=
  ∃ ticket plan run, guest.visit.stage = .running room ticket plan run

/-- Which room a running visit holds, and by which ticket. -/
def held? (guest : Guest) : Option (Nat × Nat) :=
  match guest.visit.stage with
  | .running room ticket _ _ => some (room, ticket)
  | .fresh | .queued _ _ | .over _ => none

theorem held?_eq_some {guest : Guest} {room ticket : Nat} :
    guest.held? = some (room, ticket) ↔
      ∃ plan run, guest.visit.stage = .running room ticket plan run := by
  rw [held?]
  cases guest.visit.stage <;> simp

theorem runsIn_iff {guest : Guest} {room : Nat} :
    guest.held?.map (·.1) = some room ↔ guest.RunsIn room := by
  simp [RunsIn, ← held?_eq_some]

instance (guest : Guest) (room : Nat) : Decidable (guest.RunsIn room) :=
  decidable_of_iff _ runsIn_iff

/-- The guest has taken a session and is not done with it. -/
def Runs (guest : Guest) : Prop :=
  ∃ room, guest.RunsIn room

end Guest

/-! ### The invariant -/

namespace House

variable {setup : DirectorSetup} {house : House ι}

/-- What holds of a house between any two moves. -/
structure InOrder (house : House ι) : Prop where
  /-- Locks and guests fit together. -/
  seating : Seating house.director.lockOf? house.director.nextTicket
    fun who => (house.guests who).place?
  /-- Whoever runs owns the lock of its room. -/
  owners : ∀ who room ticket plan run,
    (house.guests who).visit.stage = .running room ticket plan run →
      house.director.owns room ticket = true
  /-- Whoever stands in line does so where it was shown the way. -/
  placed : ∀ who room ticket, (house.guests who).place? = some (room, ticket) →
    (house.guests who).shown = some room
  /-- Each room was made for a session, -/
  plated : house.plates.length = house.director.rooms.length
  /-- an identity leads to a room that was made for it, -/
  leads : ∀ entry ∈ house.director.current, house.plates[entry.2]? = some entry.1
  /-- and guests are shown rooms that were made for their sessions. -/
  shown : ∀ who room, (house.guests who).shown = some room →
    house.plates[room]? = some (house.guests who).visit.session

theorem InOrder.plate_of_room? (h : house.InOrder) {session : Uuid} {room : Nat}
    (hroom : house.director.room? session = some room) : house.plates[room]? = some session := by
  obtain ⟨entry, hfind, rfl⟩ := Option.map_eq_some_iff.mp hroom
  have hsession : entry.1 = session := by simpa using List.find?_some hfind
  rw [h.leads entry (List.mem_of_find?_eq_some hfind), hsession]

theorem inOrder_opening (engine : Engine) (visits : ι → Visit) :
    (opening engine visits).InOrder where
  seating := ⟨(fun _ _ hlock => by cases hlock), (fun _ _ _ hplace => by cases hplace),
    (fun _ _ _ _ _ hplace => by cases hplace)⟩
  owners := fun _ _ _ _ _ hrunning => by cases hrunning
  placed := fun _ _ _ hplace => by cases hplace
  plated := rfl
  leads := fun _ hentry => absurd hentry List.not_mem_nil
  shown := fun _ _ hshown => by cases hshown

/-- A new room leaves the old ones alone. -/
theorem inOrder_open (h : house.InOrder) (session : Uuid) (fresh : Session) :
    InOrder { house with
      director := { house.director with
        current := house.director.current ++ [(session, house.director.rooms.length)]
        rooms := house.director.rooms ++ [{ session := fresh }] }
      plates := house.plates ++ [session] } := by
  have hplate : ∀ {room : Nat} {plate : Uuid}, house.plates[room]? = some plate →
      (house.plates ++ [session])[room]? = some plate := by
    intro room plate hold
    rw [List.getElem?_append_left (List.getElem?_eq_some_iff.mp hold).1]
    exact hold
  have hkept : ∀ room lock, house.director.lockOf? room = some lock →
      room ≠ house.director.rooms.length := by
    rintro room lock hlock rfl
    rw [Director.lockOf?, List.getElem?_eq_none (Nat.le_refl _)] at hlock
    cases hlock
  refine ⟨h.seating.opened ?_ ?_, ?_, h.placed, ?_, ?_, fun who room hshown =>
    hplate (h.shown who room hshown)⟩
  · intro room lock hlock
    rw [Director.lockOf?_open, if_neg (hkept room lock hlock), hlock]
  · intro room lock hlock
    rw [Director.lockOf?_open] at hlock
    split at hlock
    case isTrue hroom =>
        rw [Director.lockOf?, hroom, List.getElem?_eq_none (Nat.le_refl _)]
        exact Or.inr ⟨rfl, (Option.some.inj hlock).symm⟩
    case isFalse => exact Or.inl hlock
  · intro who room ticket plan run hrunning
    obtain ⟨lock, hlock, howned⟩ :=
      (Director.owns_iff _).mp (h.owners who room ticket plan run hrunning)
    refine (Director.owns_iff _).mpr ⟨lock, ?_, howned⟩
    rw [Director.lockOf?_open, if_neg (hkept room lock hlock), hlock]
  · dsimp only
    rw [List.length_append, List.length_append, h.plated]
    rfl
  · intro entry hentry
    rcases List.mem_append.mp hentry with hold | hnew
    · exact hplate (h.leads entry hold)
    · obtain rfl := List.mem_singleton.mp hnew
      dsimp only
      rw [← h.plated, List.getElem?_concat_length]

variable [DecidableEq ι] {who : ι} {done : Director × Guest}

theorem guests_moved (house : House ι) (who other : ι) (done : Director × Guest) :
    (house.moved who done).guests other =
      if other = who then done.2 else house.guests other := by
  exact Function.update_apply house.guests who done.2 other

theorem places_moved (house : House ι) (who : ι) (done : Director × Guest) :
    (fun other => ((house.moved who done).guests other).place?) =
      Function.update (fun other => (house.guests other).place?) who done.2.place? := by
  funext other
  rw [guests_moved, Function.update_apply]
  split <;> rfl

/-- After a step of a guest, locks and guests still fit together. -/
theorem seating_moved (h : house.InOrder)
    (hturn : Guest.Turn setup house.director (house.guests who) done) :
    Seating (house.moved who done).director.lockOf? (house.moved who done).director.nextTicket
      fun other => ((house.moved who done).guests other).place? := by
  rw [places_moved]
  show Seating done.1.lockOf? done.1.nextTicket _
  cases hturn.shift with
  | stays hlocks hnext hplace =>
      have hsame : Function.update (fun other => (house.guests other).place?) who
          (house.guests who).place? = fun other => (house.guests other).place? :=
        Function.update_eq_self who _
      rw [hlocks, hnext, hplace, hsame]
      exact h.seating
  | asks room hnone hshown hlocks hnext hplace =>
      obtain ⟨inside, -⟩ := List.getElem?_eq_some_iff.mp (h.shown who room hshown)
      rw [h.plated] at inside
      have hlock : house.director.lockOf? room = some (house.director.rooms[room]).lock := by
        rw [Director.lockOf?, List.getElem?_eq_getElem inside, Option.map_some]
      rw [hlocks, hnext, hplace]
      exact h.seating.ask hlock hnone
  | leaves room ticket hsome hlocks hnext hplace =>
      rw [hlocks, hnext, hplace]
      exact h.seating.leave hsome

/-- After a step of a guest, whoever runs owns the lock of its room. -/
theorem owners_moved (h : house.InOrder)
    (hturn : Guest.Turn setup house.director (house.guests who) done) (other : ι)
    {room ticket : Nat} {plan : Plan} {run : Run}
    (hrunning : ((house.moved who done).guests other).visit.stage = .running room ticket plan run) :
    done.1.owns room ticket = true := by
  rw [guests_moved] at hrunning
  split at hrunning
  case isTrue hself =>
      obtain ⟨hlocks, howned⟩ := hturn.owns hrunning
      have howns : house.director.owns room ticket = true :=
        howned.elim id fun ⟨before, hbefore⟩ => h.owners who room ticket plan before hbefore
      rwa [Director.owns_iff, hlocks, ← Director.owns_iff]
  case isFalse hother =>
      have howns := h.owners other room ticket plan run hrunning
      obtain ⟨lock, hlock, howned⟩ := (Director.owns_iff _).mp howns
      rw [Director.owns_iff]
      cases hturn.shift with
      | stays hlocks hnext hplace => exact ⟨lock, by rw [hlocks, hlock], howned⟩
      | asks asked hnone hshown hlocks hnext hplace =>
          rw [hlocks]
          dsimp only
          split
          case isTrue hroom =>
              subst hroom
              exact ⟨_, by rw [hlock, Option.map_some], Lock.ownedBy_ask howned _⟩
          case isFalse => exact ⟨lock, hlock, howned⟩
      | leaves left number hsome hlocks hnext hplace =>
          rw [hlocks]
          dsimp only
          split
          case isTrue hroom =>
              subst hroom
              -- The one who leaves has another number.
              refine ⟨_, by rw [hlock, Option.map_some], Lock.ownedBy_leave howned ?_⟩
              rintro rfl
              exact hother (h.seating.unique other who left left number
                (Guest.place?_of_running hrunning) hsome)
          case isFalse => exact ⟨lock, hlock, howned⟩

theorem inOrder_moved (h : house.InOrder)
    (hturn : Guest.Turn setup house.director (house.guests who) done) :
    (house.moved who done).InOrder where
  seating := seating_moved h hturn
  owners := fun other _ _ _ _ hrunning => owners_moved h hturn other hrunning
  placed := by
    intro other room ticket hplace
    rw [guests_moved] at hplace ⊢
    split at hplace
    case isTrue hself =>
        have hkept : ∀ {room}, (house.guests who).shown = some room → done.2.shown = some room := by
          intro room hshown
          rcases hturn.shown with hsame | ⟨found, hnew, -, -⟩
          · rw [hsame, hshown]
          · rw [hnew] at hshown
            cases hshown
        rw [if_pos hself]
        cases hturn.shift with
        | stays hlocks hnext hsame => exact hkept (h.placed who room ticket (hsame ▸ hplace))
        | asks asked hnone hshown hlocks hnext hasked =>
            obtain ⟨rfl, -⟩ := Prod.mk.inj (Option.some.inj (hasked.symm.trans hplace))
            exact hkept hshown
        | leaves left number hsome hlocks hnext hleft =>
            rw [hleft] at hplace
            cases hplace
    case isFalse hother =>
        rw [if_neg hother]
        exact h.placed other room ticket hplace
  plated := h.plated.trans hturn.frame.2.symm
  leads := by
    intro entry hentry
    rw [moved, hturn.frame.1] at hentry
    exact h.leads entry hentry
  shown := by
    intro other room hshown
    rw [guests_moved] at hshown ⊢
    split at hshown
    case isTrue hself =>
        rw [if_pos hself]
        rw [hturn.session]
        rcases hturn.shown with hsame | ⟨found, -, hfound, hroom⟩
        · exact h.shown who room (hsame ▸ hshown)
        · obtain rfl := Option.some.inj (hfound.symm.trans hshown)
          exact h.plate_of_room? hroom
    case isFalse hother =>
        rw [if_neg hother]
        exact h.shown other room hshown

theorem inOrder_step (h : house.InOrder) (move : Move ι) : (house.step setup move).InOrder := by
  refine step_induction (fun session fresh _ => inOrder_open h session fresh) ?_ ?_ ?_
    (fun who done hturn => inOrder_moved h hturn) h move
  · intro session
    refine ⟨h.seating, h.owners, h.placed, h.plated, fun entry hentry => ?_, h.shown⟩
    exact h.leads entry (List.mem_of_mem_filter hentry)
  · exact ⟨h.seating, h.owners, h.placed, h.plated, h.leads, h.shown⟩
  · exact fun engine => ⟨h.seating, h.owners, h.placed, h.plated, h.leads, h.shown⟩

theorem inOrder_run (h : house.InOrder) (moves : List (Move ι)) :
    (house.run setup moves).InOrder :=
  run_induction (P := InOrder) (fun _ move h => inOrder_step h move) h moves

/-! ### Exclusion -/

omit [DecidableEq ι] in
/-- No two run in one room. -/
theorem eq_of_runsIn (h : house.InOrder) {who other : ι} {room : Nat}
    (hwho : (house.guests who).RunsIn room) (hother : (house.guests other).RunsIn room) :
    who = other := by
  obtain ⟨ticket, plan, run, hrunning⟩ := hwho
  obtain ⟨number, planned, ran, hran⟩ := hother
  obtain ⟨lock, hlock, howned⟩ :=
    (Director.owns_iff _).mp (h.owners who room ticket plan run hrunning)
  obtain ⟨same, hsame, hheld⟩ :=
    (Director.owns_iff _).mp (h.owners other room number planned ran hran)
  obtain rfl := Option.some.inj (hlock.symm.trans hsame)
  have hticket : some ticket = some number :=
    (of_decide_eq_true howned).symm.trans (of_decide_eq_true hheld)
  obtain rfl := Option.some.inj hticket
  exact h.seating.unique who other room room ticket (Guest.place?_of_running hrunning)
    (Guest.place?_of_running hran)

omit [DecidableEq ι] in
/-- Whoever runs in a room was shown it. -/
theorem shown_of_runsIn (h : house.InOrder) {who : ι} {room : Nat}
    (hwho : (house.guests who).RunsIn room) : (house.guests who).shown = some room := by
  obtain ⟨ticket, plan, run, hrunning⟩ := hwho
  exact h.placed who room ticket (Guest.place?_of_running hrunning)

theorem errand_step (setup : DirectorSetup) (house : House ι) (move : Move ι) (who : ι) :
    ((house.step setup move).guests who).visit.errand = (house.guests who).visit.errand := by
  refine step_induction (P := fun after =>
    (after.guests who).visit.errand = (house.guests who).visit.errand) (fun _ _ _ => rfl)
    (fun _ => rfl) rfl (fun _ => rfl) (fun mover done hturn => ?_) rfl move
  rw [guests_moved]
  split
  case isTrue hself =>
      subst hself
      exact hturn.errand
  case isFalse => rfl

theorem errand_run (setup : DirectorSetup) (house : House ι) (moves : List (Move ι)) (who : ι) :
    ((house.run setup moves).guests who).visit.errand = (house.guests who).visit.errand :=
  run_induction
    (P := fun after => (after.guests who).visit.errand = (house.guests who).visit.errand)
    (fun before move h => (errand_step setup before move who).trans h) rfl moves

/-- A guest keeps to the session that it came for. -/
theorem session_run (setup : DirectorSetup) (engine : Engine) (visits : ι → Visit)
    (moves : List (Move ι)) (who : ι) :
    (((opening engine visits).run setup moves).guests who).visit.session =
      (visits who).session := by
  have herrand := congrArg Visit.session (errand_run setup (opening engine visits) moves who)
  exact herrand

/-- Those of some guests who came for a session and were shown a room were shown the one to which
the session leads. -/
def Follow (house : House ι) (late : ι → Prop) (session : Uuid) : Prop :=
  ∀ who, late who → (house.guests who).visit.session = session →
    ∀ room, (house.guests who).shown = some room → house.director.room? session = some room

/-- As long as the session is not ended, they follow each other. -/
theorem follow_step {late : ι → Prop} {session : Uuid} (h : house.Follow late session)
    {move : Move ι} (hmove : move ≠ .endSession session) :
    (house.step setup move).Follow late session := by
  cases move with
  | endSession other =>
      intro who hlate hsession room hshown
      have hne : other ≠ session := fun heq => hmove (congrArg _ heq)
      exact (Director.room?_endSession_of_ne _ hne).trans (h who hlate hsession room hshown)
  | openSession other turn =>
      rw [step]
      cases hopened : house.director.openSession setup other turn with
      | error error => exact h
      | ok opened =>
          obtain ⟨-, fresh, rfl⟩ := Director.openSession_eq_ok hopened
          intro who hlate hsession room hshown
          exact Director.room?_open (h who hlate hsession room hshown) _ _
  | shutDown => exact h
  | stir engine => exact h
  | act mover deed =>
      intro who hlate hsession room hshown
      obtain ⟨done, hturn, hstep⟩ := exists_turn setup house mover deed
      have hroom : (house.moved mover done).director.room? session =
          house.director.room? session := by
        rw [Director.room?, Director.room?, moved, hturn.frame.1]
      rw [hstep, hroom]
      rw [hstep, guests_moved] at hsession hshown
      split at hsession
      case isTrue hself =>
          subst hself
          rw [if_pos rfl] at hshown
          rw [hturn.session] at hsession
          rcases hturn.shown with hsame | ⟨found, -, hfound, hled⟩
          · exact h who hlate hsession room (hsame ▸ hshown)
          · obtain rfl := Option.some.inj (hfound.symm.trans hshown)
            rw [← hsession]
            exact hled
      case isFalse hother =>
          rw [if_neg hother] at hshown
          exact h who hlate hsession room hshown

theorem follow_run {late : ι → Prop} {session : Uuid} (h : house.Follow late session)
    {moves : List (Move ι)} (hmoves : Move.endSession session ∉ moves) :
    (house.run setup moves).Follow late session := by
  induction moves generalizing house with
  | nil => exact h
  | cons move rest ih =>
      obtain ⟨hmove, hrest⟩ := not_or.mp (mt List.mem_cons.mpr hmoves)
      exact ih (follow_step h (Ne.symm hmove)) hrest

/-- **At most one visit runs in a room.** Each room was made for one session, and of the visits of a
session that found their room after the session was last ended, at most one runs. -/
theorem exclusion (setup : DirectorSetup) (engine : Engine) (visits : ι → Visit)
    (moves : List (Move ι)) :
    let house := (opening engine visits).run setup moves
    (∀ who other room, (house.guests who).RunsIn room → (house.guests other).RunsIn room →
      who = other) ∧
    (∀ who room, (house.guests who).RunsIn room →
      house.plates[room]? = some (visits who).session) ∧
    ∀ session before after, moves = before ++ after → Move.endSession session ∉ after →
      ∀ who other, (visits who).session = session → (visits other).session = session →
        (((opening engine visits).run setup before).guests who).shown = none →
        (((opening engine visits).run setup before).guests other).shown = none →
        (house.guests who).Runs → (house.guests other).Runs → who = other := by
  intro house
  have hinOrder : house.InOrder := inOrder_run (inOrder_opening engine visits) moves
  have hsession : ∀ who, (house.guests who).visit.session = (visits who).session :=
    session_run setup engine visits moves
  refine ⟨fun who other room hwho hother => eq_of_runsIn hinOrder hwho hother, ?_, ?_⟩
  · intro who room hwho
    rw [← hsession who]
    exact hinOrder.shown who room (shown_of_runsIn hinOrder hwho)
  · rintro session before after rfl hkept who other hwho hother hnew hlate ⟨room, hruns⟩
      ⟨elsewhere, hran⟩
    -- Those who find their room after that point follow each other, and so these two do.
    let late : ι → Prop := fun guest =>
      (((opening engine visits).run setup before).guests guest).shown = none
    have hstart : ((opening engine visits).run setup before).Follow late session := by
      intro guest hguest _ room hshown
      rw [hguest] at hshown
      cases hshown
    have hfollow : house.Follow late session := by
      rw [show house = _ from run_append before after]
      exact follow_run hstart hkept
    have hroom := hfollow who hnew ((hsession who).trans hwho) room (shown_of_runsIn hinOrder hruns)
    have hsame := hfollow other hlate ((hsession other).trans hother) elsewhere
      (shown_of_runsIn hinOrder hran)
    obtain rfl := Option.some.inj (hroom.symm.trans hsame)
    exact eq_of_runsIn hinOrder hruns hran

/-- At most one visit of each session runs. -/
def OnePerSession (house : House ι) : Prop :=
  ∀ who other, (house.guests who).visit.session = (house.guests other).visit.session →
    (house.guests who).Runs → (house.guests other).Runs → who = other

/-- A session is ended and started again while a visit runs, and then another visit comes. -/
def overtaken (session : Uuid) : List (Move Bool) :=
  [.openSession session 1, .act false .find, .act false .ask, .act false .takeUp,
   .endSession session, .openSession session 1, .act true .find, .act true .ask, .act true .takeUp]

/-- Then both visits run, each in a room of its own. -/
theorem not_onePerSession_overtaken : ¬ OnePerSession
    ((opening (Engine.create {} {}) fun _ : Bool =>
        { session := ⟨7⟩, action := { text := "look" }, snapshot := {} }).run
      (DirectorSetup.of {} {}) (overtaken ⟨7⟩)) := by
  intro h
  exact Bool.false_ne_true (h false true rfl ⟨0, 0, _, _, rfl⟩ ⟨1, 1, _, _, rfl⟩)

end House

end StoryDirector
