import StoryDirector.Director.Timeline
import StoryDirector.Proofs.Director.House
import StoryDirector.Proofs.Plan.Story
import StoryDirector.Proofs.Run.AtOnce
import StoryDirector.Proofs.Run.Driving
/-!
# StoryDirector.Proofs.Director.Quiet

A director between two requests, when workers answer at once and from the question alone. **It is
quiet** (`Director.Quiet`): no one holds a lock or waits for one, no one is at work, the cache holds
what the workers would answer, and no two identities lead to one room.

A quiet director answers a request as soon as it comes and is quiet again. What the request does to
the sessions is said for each of the three kinds: one session is there
(`Quiet.sessionOf?_withSession`), or is gone (`sessionOf?_endSession`), or is what its action makes
of it (`Quiet.look_visit`, `Quiet.sessionOf?_visited`), and no other has changed.
-/

namespace StoryDirector

/-! ### One request alone on the clock -/

/-- A request that is answered as soon as it comes is answered when it comes. -/
theorem Timeline.serve_of_begin {setup : DirectorSetup} {director after : Director}
    {later : Duration} {request : Request} {finding : Finding} {answered : Instant}
    (h : Item.begin ⟨director.engine.now + later, request, .ahead⟩ setup
      { director with engine.now := director.engine.now + later } =
        (after, ⟨director.engine.now + later, request, .done finding answered⟩)) :
    serve setup director [(later, request)] =
      ⟨after, [⟨director.engine.now + later, request, .done finding answered⟩]⟩ := by
  let item : Item := ⟨director.engine.now + later, request, .ahead⟩
  let come : Timeline := ⟨{ director with engine.now := director.engine.now + later }, [item]⟩
  let gone : Timeline :=
    ⟨after, [⟨director.engine.now + later, request, .done finding answered⟩]⟩
  have hlook : (clockwork setup).look come = gone := by
    show look setup come = gone
    have hdue : item.look setup come.director = item.begin setup come.director :=
      if_pos (Nat.le_refl _)
    simp only [look, lookItems, come, gone, hdue]
    exact congrArg (fun seen : Director × Item => (⟨seen.1, [seen.2]⟩ : Timeline)) h
  have hsilent : (clockwork setup).alarm gone = none := rfl
  rcases Nat.eq_zero_or_pos later with rfl | hlater
  · exact Clockwork.play_of_look hlook rfl hsilent
  · have hidle : (clockwork setup).look ⟨director, [item]⟩ = ⟨director, [item]⟩ := by
      have hearly : item.look setup director = (director, item) :=
        if_neg (Nat.not_le_of_lt (Nat.lt_add_of_pos_right hlater))
      show look setup ⟨director, [item]⟩ = _
      simp only [look, lookItems, hearly]
    exact Clockwork.play_of_wind hidle rfl hlook rfl hsilent

/-- Whoever has a free lock to itself and leaves it leaves it free. -/
@[simp] theorem Lock.leave_ask (who : Nat) : (({} : Lock).ask who).leave who = {} := by
  simp [ask, leave]

/-- What an action comes to that is answered at once: the session as it is left, and the answer. -/
def Session.answered (found : Session) (setup : DirectorSetup) (answer : AnswerRule)
    (action : PlayerAction) (snapshot : Snapshot) (draw : Float32) (hitRate : Float) :
    Session × Answer :=
  let session := found.apply snapshot
  let plan := setup.planner.plan action session draw
  let done := Run.promptly setup.run answer plan.tasks action plan.kind session
  (done.session.recordAction action,
   Merge.answer setup.merge done.ledger.results done.report.events
    { kind := plan.kind, turn := done.session.turn, hitRate })

namespace Visit

variable {setup : DirectorSetup} {director : Director} {visit : Visit} {room ticket : Nat}

/-- Whoever owns the lock takes the session, plans, and starts to run the plan. -/
theorem enter_of_owned {found : Session} (howns : director.owns room ticket = true)
    (hfound : director.sessionIn? room = some found) :
    let session := found.apply visit.snapshot
    let plan := setup.planner.plan visit.action session visit.draw
    let told := director.notify setup (Progress.planned visit.session plan.tasks plan.estimate)
    visit.enter setup room ticket director = visit.proceed setup room ticket plan
      (Run.begin plan.tasks visit.action plan.kind session told.engine.now) told := by
  simp only [enter, howns, hfound]

/-- When the run is over, the session is put back with the action remembered. -/
theorem proceed_of_finished {plan : Plan} {run done : Run} {seen : Engine}
    (hlook : run.look setup.run director.shutDown director.engine = (seen, done))
    (hdone : done.stage = .finished) :
    visit.proceed setup room ticket plan run director =
      ({ (director.putBack room (done.session.recordAction visit.action)).leave room ticket with
          engine := seen.notify setup.run
            (Progress.completed visit.session done.ledger.results.length) },
       { visit with stage := .over (.ok (answerOf setup { director with engine := seen } plan
          done)) }) := by
  rw [proceed, hlook]
  dsimp only
  rw [hdone]
  rfl

end Visit

namespace Director

variable {setup : DirectorSetup} {answer : AnswerRule} {director : Director}

/-- The session to which an identity leads. -/
def sessionOf? (director : Director) (session : Uuid) : Option Session :=
  (director.room? session).bind director.sessionIn?

/-- No one is in a room, waits for one or is at work, and the cache holds what the workers would
answer. -/
structure Quiet (answer : AnswerRule) (director : Director) : Prop where
  /-- No one is at work, and the cache holds what the workers would answer. -/
  fair : director.engine.Fair answer
  /-- Runs are not to stop. -/
  goes : director.shutDown = false
  /-- No one owns a lock or waits for one. -/
  free : ∀ room lock, director.lockOf? room = some lock → lock = {}
  /-- Where an identity leads there is a room, -/
  housed : ∀ session room, director.room? session = some room → room < director.rooms.length
  /-- and no other identity leads there. -/
  apart : ∀ session other room, director.room? session = some room →
    director.room? other = some room → session = other

/-- A director without sessions is quiet. -/
theorem quiet_create (answer : AnswerRule) (settings : Settings) :
    (create settings).Quiet answer where
  fair := ⟨Flights.idle_empty, fun _ hentry => absurd hentry List.not_mem_nil⟩
  goes := rfl
  free := fun _ _ hlock => by cases hlock
  housed := fun _ _ hroom => by cases hroom
  apart := fun _ _ _ hroom => by cases hroom

/-- Time may pass. -/
theorem Quiet.later (h : director.Quiet answer) (now : Instant) :
    Quiet answer { director with engine.now := now } where
  fair := ⟨h.fair.idle, h.fair.truthful⟩
  goes := h.goes
  free := h.free
  housed := h.housed
  apart := h.apart

/-- Where an identity leads there is a session. -/
theorem Quiet.exists_sessionIn (h : director.Quiet answer) {session : Uuid} {room : Nat}
    (hroom : director.room? session = some room) :
    ∃ found, director.sessionIn? room = some found ∧
      director.sessionOf? session = some found := by
  obtain ⟨place, hplace⟩ : ∃ place, director.rooms[room]? = some place :=
    ⟨_, List.getElem?_eq_getElem (h.housed session room hroom)⟩
  have hfound : director.sessionIn? room = some place.session := by
    rw [sessionIn?, hplace]
    rfl
  exact ⟨place.session, hfound, by rw [sessionOf?, hroom, Option.bind_some, hfound]⟩

theorem sessionOf?_of_not_room (session : Uuid) (h : director.room? session = none) :
    director.sessionOf? session = none := by
  rw [sessionOf?, h, Option.bind_none]

/-- There is a session where an identity leads somewhere. -/
theorem Quiet.hasSession_eq (h : director.Quiet answer) (session : Uuid) :
    director.hasSession session = (director.sessionOf? session).isSome := by
  rw [hasSession]
  cases hroom : director.room? session with
  | none => rw [sessionOf?_of_not_room session hroom]; rfl
  | some room =>
      obtain ⟨found, -, hof⟩ := h.exists_sessionIn hroom
      rw [hof]
      rfl

/-! ### A session is started or ended -/

/-- The director with one more session, in a room behind all others. -/
def withSession (director : Director) (session : Uuid) (fresh : Session) : Director :=
  { director with
    current := director.current ++ [(session, director.rooms.length)]
    rooms := director.rooms ++ [{ session := fresh }] }

/-- The new identity leads to the new room, and the others lead where they led. -/
theorem room?_withSession {session : Uuid} (hnew : director.room? session = none)
    (fresh : Session) (other : Uuid) :
    (director.withSession session fresh).room? other =
      if other = session then some director.rooms.length else director.room? other := by
  have hconcat : (director.withSession session fresh).room? other = (director.room? other).or
      (if session = other then some director.rooms.length else none) := by
    rw [room?, withSession, List.find?_append, Option.map_or, room?, List.find?_singleton]
    by_cases hsame : session = other <;> simp [hsame]
  rw [hconcat]
  split
  case isTrue hsame => rw [← hsame, hnew, if_pos rfl, Option.none_or]
  case isFalse hne => rw [if_neg (Ne.symm hne), Option.or_none]

/-- The new session is in the new room, and the others are where they were. -/
theorem sessionIn?_withSession (director : Director) (session : Uuid) (fresh : Session)
    (room : Nat) :
    (director.withSession session fresh).sessionIn? room =
      if room = director.rooms.length then some fresh else director.sessionIn? room := by
  rw [sessionIn?, withSession, sessionIn?]
  split
  case isTrue hroom => simp [hroom]
  case isFalse hroom =>
      rcases Nat.lt_or_gt_of_ne hroom with hless | hmore
      · rw [List.getElem?_append_left hless]
      · rw [List.getElem?_eq_none (by simp; omega), List.getElem?_eq_none (by omega)]

/-- No one else is led to the new room. -/
theorem Quiet.withSession (h : director.Quiet answer) {session : Uuid}
    (hnew : director.room? session = none) (fresh : Session) :
    (director.withSession session fresh).Quiet answer where
  fair := h.fair
  goes := h.goes
  free := by
    intro room lock hlock
    rw [Director.withSession, lockOf?_open] at hlock
    split at hlock
    · exact (Option.some.inj hlock).symm
    · exact h.free room lock hlock
  housed := by
    intro one room hroom
    have hlength : (director.withSession session fresh).rooms.length =
        director.rooms.length + 1 := List.length_append
    rw [room?_withSession hnew] at hroom
    split at hroom
    · obtain rfl := Option.some.inj hroom
      omega
    · have hless := h.housed one room hroom
      omega
  apart := by
    intro one other room hone hother
    rw [room?_withSession hnew] at hone hother
    -- The rooms of old are before the new one.
    split at hone <;> split at hother
    · simp [*]
    · obtain rfl := Option.some.inj hone
      exact absurd (h.housed other _ hother) (Nat.lt_irrefl _)
    · obtain rfl := Option.some.inj hother
      exact absurd (h.housed one _ hone) (Nat.lt_irrefl _)
    · exact h.apart one other room hone hother

/-- A session is started where there was none, and no other has changed. -/
theorem Quiet.sessionOf?_withSession (h : director.Quiet answer) {session : Uuid}
    (hnew : director.room? session = none) (fresh : Session) (other : Uuid) :
    (director.withSession session fresh).sessionOf? other =
      if other = session then some fresh else director.sessionOf? other := by
  rw [sessionOf?, room?_withSession hnew]
  split
  case isTrue => rw [Option.bind_some, sessionIn?_withSession, if_pos rfl]
  case isFalse hne =>
      rw [sessionOf?]
      cases hroom : director.room? other with
      | none => rfl
      | some room =>
          rw [Option.bind_some, Option.bind_some, sessionIn?_withSession,
            if_neg (Nat.ne_of_lt (h.housed other room hroom))]

/-- An identity that still leads somewhere leads where it led before. -/
theorem room?_of_endSession {session other : Uuid} {room : Nat}
    (h : (director.endSession session).room? other = some room) :
    director.room? other = some room := by
  by_cases hsame : other = session
  · rw [hsame, room?_endSession] at h
    cases h
  · rwa [director.room?_endSession_of_ne (Ne.symm hsame)] at h

theorem Quiet.endSession (h : director.Quiet answer) (session : Uuid) :
    (director.endSession session).Quiet answer where
  fair := h.fair
  goes := h.goes
  free := h.free
  housed := fun other room hroom => h.housed other room (room?_of_endSession hroom)
  apart := fun one other room hone hother =>
    h.apart one other room (room?_of_endSession hone) (room?_of_endSession hother)

/-- A session is ended, if there is one, and no other has changed. -/
theorem sessionOf?_endSession (director : Director) (session other : Uuid) :
    (director.endSession session).sessionOf? other =
      if other = session then none else director.sessionOf? other := by
  split
  case isTrue hsame =>
      rw [hsame, sessionOf?_of_not_room session (director.room?_endSession session)]
  case isFalse hne =>
      rw [sessionOf?, director.room?_endSession_of_ne (Ne.symm hne)]
      rfl

/-! ### An action is answered -/

/-- The director after someone asked for a room, put a session back and left. -/
def visited (director : Director) (room : Nat) (left : Session) (engine : Engine) : Director :=
  { ((director.askFor room).1.putBack room left).leave room director.nextTicket with engine }

theorem lockOf?_visited (director : Director) (room : Nat) (left : Session) (engine : Engine)
    (place : Nat) :
    (director.visited room left engine).lockOf? place =
      if room = place then (director.lockOf? room).map fun lock =>
        (lock.ask director.nextTicket).leave director.nextTicket
      else director.lockOf? place := by
  have hleave := lockOf?_leave ((director.askFor room).1.putBack room left) room
    director.nextTicket place
  rw [lockOf?_putBack, lockOf?_putBack, lockOf?_askFor, lockOf?_askFor, if_pos rfl,
    Option.map_map] at hleave
  refine hleave.trans ?_
  split <;> rfl

theorem sessionIn?_visited (director : Director) (room : Nat) (left : Session) (engine : Engine)
    (place : Nat) :
    (director.visited room left engine).sessionIn? place =
      if room = place then (director.sessionIn? room).map fun _ => left
      else director.sessionIn? place := by
  have hleave := sessionIn?_leave ((director.askFor room).1.putBack room left) room
    director.nextTicket place
  rwa [sessionIn?_putBack, sessionIn?_askFor, sessionIn?_askFor] at hleave

theorem Quiet.visited (h : director.Quiet answer) (room : Nat) (left : Session) {engine : Engine}
    (hfair : engine.Fair answer) : (director.visited room left engine).Quiet answer where
  fair := hfair
  goes := h.goes
  free := by
    intro place lock hplace
    rw [lockOf?_visited] at hplace
    split at hplace
    case isTrue =>
        obtain ⟨before, hbefore, rfl⟩ := Option.map_eq_some_iff.mp hplace
        rw [h.free room before hbefore, Lock.leave_ask]
    case isFalse => exact h.free place lock hplace
  housed := by
    intro one place hplace
    have hlength : (director.visited room left engine).rooms.length = director.rooms.length := by
      simp [Director.visited, Director.leave, putBack, askFor]
    rw [hlength]
    exact h.housed one place hplace
  apart := h.apart

/-- The session is as it was put back, and no other has changed. -/
theorem Quiet.sessionOf?_visited (h : director.Quiet answer) {session : Uuid} {room : Nat}
    (hroom : director.room? session = some room) (left : Session) (engine : Engine)
    (other : Uuid) :
    (director.visited room left engine).sessionOf? other =
      if other = session then some left else director.sessionOf? other := by
  show (director.room? other).bind (director.visited room left engine).sessionIn? = _
  split
  case isTrue hsame =>
      obtain ⟨found, hfound, -⟩ := h.exists_sessionIn hroom
      rw [hsame, hroom, Option.bind_some, sessionIn?_visited, if_pos rfl, hfound]
      rfl
  case isFalse hne =>
      cases hplace : director.room? other with
      | none => rw [Option.bind_none, sessionOf?_of_not_room other hplace]
      | some place =>
          have hapart : room ≠ place := by
            rintro rfl
            exact hne (h.apart other session room hplace hroom)
          rw [Option.bind_some, sessionIn?_visited, if_neg hapart, sessionOf?, hplace,
            Option.bind_some]

/-- Whoever asks for a room of a quiet director owns its lock. -/
theorem Quiet.owns_askFor (h : director.Quiet answer) {room : Nat} {found : Session}
    (hfound : director.sessionIn? room = some found) :
    (director.askFor room).1.owns room director.nextTicket = true := by
  obtain ⟨place, hplace, -⟩ := Option.map_eq_some_iff.mp hfound
  have hlock : director.lockOf? room = some place.lock := by rw [lockOf?, hplace]; rfl
  refine (director.askFor room).1.owns_iff.mpr ⟨place.lock.ask director.nextTicket, ?_, ?_⟩
  · rw [lockOf?_askFor, if_pos rfl, hlock]
    rfl
  · rw [h.free room place.lock hlock]
    simp [Lock.ask, Lock.ownedBy]

/-- **An action is answered at the first look**, and what it comes to depends on the session alone,
but for the share of look-ups that the cache could answer. -/
theorem Quiet.look_visit (h : director.Quiet answer) (hprompt : setup.run.registry.Prompt answer)
    (visit : Visit) (hfresh : visit.stage = .fresh) {room : Nat} {found : Session}
    (hroom : director.room? visit.session = some room)
    (hfound : director.sessionIn? room = some found) :
    ∃ engine hitRate, engine.Fair answer ∧
      let answered := found.answered setup answer visit.action visit.snapshot visit.draw hitRate
      visit.look setup false director =
        (director.visited room answered.1 engine,
         { visit with stage := .over (.ok answered.2) }) := by
  let asked := (director.askFor room).1
  let session := found.apply visit.snapshot
  let plan := setup.planner.plan visit.action session visit.draw
  let told := asked.notify setup (Progress.planned visit.session plan.tasks plan.estimate)
  let done := Run.promptly setup.run answer plan.tasks visit.action plan.kind session
  have htold : told.engine.Fair answer := ⟨h.fair.idle, h.fair.truthful⟩
  obtain ⟨seen, _, hlook, hserved⟩ := Run.look_of_ready hprompt htold
    (setup.planner.ready_plan visit.action session visit.draw) visit.action plan.kind session
  rw [← (show told.shutDown = false from h.goes)] at hlook
  have hin : asked.sessionIn? room = some found := by rw [sessionIn?_askFor, hfound]
  have hlooks : visit.look setup false director =
      visit.enter setup room director.nextTicket asked := by
    rw [Visit.look, hfresh]
    dsimp only
    rw [Visit.arrive, hroom]
    rfl
  refine ⟨seen.notify setup.run (Progress.completed visit.session done.ledger.results.length),
    seen.store.cache.hitRate, ⟨hserved.fair.idle, hserved.fair.truthful⟩, ?_⟩
  rw [hlooks, Visit.enter_of_owned (h.owns_askFor hfound) hin,
    Visit.proceed_of_finished hlook (Run.stage_promptly _ _ _ _ _ _)]
  rfl

end Director

end StoryDirector
