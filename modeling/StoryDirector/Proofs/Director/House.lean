import StoryDirector.Director.Visit
import StoryDirector.Proofs.Run.Stepwise
import Mathlib.Logic.Function.Basic
/-!
# StoryDirector.Proofs.Director.House

Any number of visits to one director, in steps. A *house* is a director together with everyone who
asks it to answer an action; a *guest* is one of them, a visit that may be held up between any two
steps; a *room* is the state of one session behind its lock, and its *plate* says for which session
it was made. **A guest looks for the room, asks for its lock, takes up its action and works on it,
each without interruption**; between any two steps others may take theirs: other guests, those who
start and end sessions, the one who shuts the director down, and whoever else uses the engine
(`House.Move`).

A look at a visit takes these steps in a row (`Guest.look_eq`), so what holds however guests
interleave holds however visits are looked at. Whoever only reads a session asks for the lock and
gives up. What a guest can do in one step is said once, by `Guest.Turn`; everything about houses is
read off that.
-/

namespace StoryDirector

/-! ### The rooms of a director -/

namespace Director

variable (director : Director)

/-- The lock of a room. -/
def lockOf? (room : Nat) : Option Lock :=
  director.rooms[room]?.map (·.lock)

theorem getElem?_rooms_atRoom (room elsewhere : Nat) (change : Room → Room) :
    (director.atRoom room change).rooms[elsewhere]? =
      if room = elsewhere then director.rooms[room]?.map change
      else director.rooms[elsewhere]? := by
  rw [atRoom, List.getElem?_modify]
  split
  case isTrue h =>
      rw [h]
      cases director.rooms[elsewhere]? <;> rfl
  case isFalse => cases director.rooms[elsewhere]? <;> rfl

/-- A change of locks leaves the sessions alone. -/
theorem sessionIn?_atRoom {change : Room → Room} (h : ∀ room, (change room).session = room.session)
    (room elsewhere : Nat) :
    (director.atRoom room change).sessionIn? elsewhere = director.sessionIn? elsewhere := by
  rw [sessionIn?, getElem?_rooms_atRoom]
  split
  case isTrue hroom =>
      subst hroom
      rw [Option.map_map, sessionIn?]
      exact congrArg (director.rooms[room]?.map ·) (funext h)
  case isFalse => rfl

@[simp] theorem sessionIn?_askFor (room elsewhere : Nat) :
    (director.askFor room).1.sessionIn? elsewhere = director.sessionIn? elsewhere :=
  director.sessionIn?_atRoom (fun _ => by rfl) room elsewhere

@[simp] theorem sessionIn?_leave (room ticket elsewhere : Nat) :
    (director.leave room ticket).sessionIn? elsewhere = director.sessionIn? elsewhere :=
  director.sessionIn?_atRoom (fun _ => by rfl) room elsewhere

theorem sessionIn?_putBack (room elsewhere : Nat) (session : Session) :
    (director.putBack room session).sessionIn? elsewhere =
      if room = elsewhere then (director.sessionIn? room).map fun _ => session
      else director.sessionIn? elsewhere := by
  rw [sessionIn?, putBack, getElem?_rooms_atRoom]
  split
  · rw [Option.map_map, sessionIn?, Option.map_map]
    rfl
  · rfl

theorem lockOf?_askFor (room elsewhere : Nat) :
    (director.askFor room).1.lockOf? elsewhere =
      if room = elsewhere then (director.lockOf? room).map (·.ask director.nextTicket)
      else director.lockOf? elsewhere := by
  have hrooms := director.getElem?_rooms_atRoom room elsewhere fun r =>
    { r with lock := r.lock.ask director.nextTicket }
  rw [lockOf?, askFor, hrooms]
  split
  · rw [Option.map_map, lockOf?, Option.map_map]
    rfl
  · rfl

theorem lockOf?_leave (room ticket elsewhere : Nat) :
    (director.leave room ticket).lockOf? elsewhere =
      if room = elsewhere then (director.lockOf? room).map (·.leave ticket)
      else director.lockOf? elsewhere := by
  rw [lockOf?, leave, getElem?_rooms_atRoom]
  split
  · rw [Option.map_map, lockOf?, Option.map_map]
    rfl
  · rfl

@[simp] theorem lockOf?_putBack (room elsewhere : Nat) (session : Session) :
    (director.putBack room session).lockOf? elsewhere = director.lockOf? elsewhere := by
  rw [lockOf?, putBack, getElem?_rooms_atRoom]
  split
  case isTrue hroom =>
      subst hroom
      rw [Option.map_map, lockOf?]
      rfl
  case isFalse => rfl

/-- A room that is added has a free lock. -/
theorem lockOf?_open (current : List (Uuid × Nat)) (fresh : Session) (room : Nat) :
    lockOf? { director with current, rooms := director.rooms ++ [{ session := fresh }] } room =
      if room = director.rooms.length then some {} else director.lockOf? room := by
  rw [lockOf?, List.getElem?_append]
  rcases Nat.lt_trichotomy room director.rooms.length with hless | rfl | hmore
  · rw [if_pos hless, if_neg (Nat.ne_of_lt hless), lockOf?]
  · rw [if_neg (Nat.lt_irrefl _), if_pos rfl, Nat.sub_self]
    rfl
  · have hbeyond : 1 ≤ room - director.rooms.length := Nat.sub_pos_of_lt hmore
    rw [if_neg (Nat.lt_asymm hmore), if_neg (Nat.ne_of_gt hmore),
      List.getElem?_eq_none hbeyond, lockOf?, List.getElem?_eq_none (Nat.le_of_lt hmore)]

@[simp] theorem length_rooms_atRoom (room : Nat) (change : Room → Room) :
    (director.atRoom room change).rooms.length = director.rooms.length :=
  List.length_modify change director.rooms room

theorem owns_iff {room ticket : Nat} : director.owns room ticket = true ↔
    ∃ lock, director.lockOf? room = some lock ∧ lock.ownedBy ticket = true := by
  rw [owns, lockOf?]
  cases director.rooms[room]? with
  | none => simp
  | some found => simp

/-- A session is started in a new room behind all others, and only if there was none. -/
theorem openSession_eq_ok {director opened : Director} {setup : DirectorSetup} {session : Uuid}
    {turn : Nat} (h : director.openSession setup session turn = .ok opened) :
    director.room? session = none ∧ ∃ fresh, opened =
      { director with
        current := director.current ++ [(session, director.rooms.length)]
        rooms := director.rooms ++ [{ session := fresh }] } := by
  rw [openSession] at h
  split at h
  case isTrue => cases h
  case isFalse hnew =>
      refine ⟨?_, _, (Except.ok.inj h).symm⟩
      rw [hasSession, Option.isSome_iff_ne_none] at hnew
      exact Decidable.not_not.mp hnew

/-- An identity that leads to a room leads there also after another session was started. -/
theorem room?_open {director : Director} {session : Uuid} {room : Nat}
    (h : director.room? session = some room) (entry : Uuid × Nat) (rooms : List Room) :
    room? { director with current := director.current ++ [entry], rooms } session = some room := by
  obtain ⟨led, hfind, hroom⟩ := Option.map_eq_some_iff.mp h
  rw [room?, List.find?_append, hfind]
  exact congrArg some hroom

/-- Ending one session leaves the others alone. -/
theorem room?_endSession_of_ne {session other : Uuid} (h : other ≠ session) :
    (director.endSession other).room? session = director.room? session := by
  have hboth : ∀ entry : Uuid × Nat, (decide (entry.1 ≠ other) = true ∧
      decide (entry.1 = session) = true) ↔ entry.1 = session := by
    intro entry
    simp only [decide_eq_true_eq, and_iff_right_iff_imp]
    exact fun hentry heq => h (heq.symm.trans hentry)
  simp only [room?, endSession, List.find?_filter, hboth]

end Director

/-! ### Guests -/

/-- What a visitor came for. -/
def Visit.errand (visit : Visit) : Visit := { visit with stage := .fresh }

/-- A visit with what its visitor knows. -/
structure Guest where
  /-- The visit. -/
  visit : Visit
  /-- The place of the room that the visitor found, once it did. -/
  shown : Option Nat := none

/-- What a guest does without interruption. -/
inductive Deed where
  /-- It looks for the room. -/
  | find
  /-- It asks for the lock of the room. -/
  | ask
  /-- If it owns the lock, it takes the session and plans. -/
  | takeUp
  /-- It sees to its next task, and to none after it. -/
  | attend
  /-- It runs the plan as far as it gets. -/
  | work
  /-- It is told to stop, or no one cares for it any more. -/
  | giveUp

namespace Guest

/-- Where the guest waits for a lock or owns it, and under which number. -/
def place? (guest : Guest) : Option (Nat × Nat) :=
  match guest.visit.stage with
  | .queued room ticket | .running room ticket _ _ => some (room, ticket)
  | .fresh | .over _ => none

/-- The guest with its visit at another stage. -/
def withStage (guest : Guest) (stage : VisitStage) : Guest :=
  { guest with visit.stage := stage }

/-- The guest looks for the room. -/
def find (guest : Guest) (director : Director) : Director × Guest :=
  match guest.visit.stage, guest.shown with
  | .fresh, none =>
    match director.room? guest.visit.session with
    | none => (director, guest.withStage (.over (.error (.unknownSession guest.visit.session))))
    | some room => (director, { guest with shown := some room })
  | _, _ => (director, guest)

/-- The guest asks for the lock of its room. -/
def ask (guest : Guest) (director : Director) : Director × Guest :=
  match guest.visit.stage, guest.shown with
  | .fresh, some room =>
    let (asked, ticket) := director.askFor room
    (asked, guest.withStage (.queued room ticket))
  | _, _ => (director, guest)

/-- The guest takes up its action if it owns the lock. -/
def takeUp (guest : Guest) (setup : DirectorSetup) (director : Director) : Director × Guest :=
  match guest.visit.stage with
  | .queued room ticket =>
    match director.owns room ticket, director.sessionIn? room with
    | true, some found =>
      let session := found.apply guest.visit.snapshot
      let plan := setup.planner.plan guest.visit.action session guest.visit.draw
      let told := director.notify setup
        (Progress.planned guest.visit.session plan.tasks plan.estimate)
      let run := Run.begin plan.tasks guest.visit.action plan.kind session told.engine.now
      (told, guest.withStage (.running room ticket plan run))
    | _, _ => (director, guest)
  | _ => (director, guest)

/-- The guest runs its plan as far as it gets. -/
def work (guest : Guest) (setup : DirectorSetup) (director : Director) : Director × Guest :=
  match guest.visit.stage with
  | .running room ticket plan run =>
    let (after, visit) := guest.visit.proceed setup room ticket plan run director
    (after, { guest with visit })
  | _ => (director, guest)

/-- The guest sees to its next task. With the last one its run is over. -/
def attend (guest : Guest) (setup : DirectorSetup) (director : Director) : Director × Guest :=
  match guest.visit.stage with
  | .running room ticket plan run =>
    match run.stage, director.shutDown with
    | .busy _ (_ :: _), false =>
      let (engine, next) := run.attend setup.run director.engine
      ({ director with engine }, guest.withStage (.running room ticket plan next))
    | _, _ => guest.work setup director
  | _ => (director, guest)

/-- The guest gives up. -/
def giveUp (guest : Guest) (setup : DirectorSetup) (director : Director) : Director × Guest :=
  match guest.visit.stage, guest.shown with
  | .fresh, some _ =>
    let (after, visit) := guest.visit.stopped setup director
    (after, { guest with visit })
  | _, _ =>
    let (after, visit) := guest.visit.look setup true director
    (after, { guest with visit })

/-- The guest does something. -/
def does (setup : DirectorSetup) (deed : Deed) (guest : Guest) (director : Director) :
    Director × Guest :=
  match deed with
  | .find => guest.find director
  | .ask => guest.ask director
  | .takeUp => guest.takeUp setup director
  | .attend => guest.attend setup director
  | .work => guest.work setup director
  | .giveUp => guest.giveUp setup director

/-- What a guest can do in one step, with all that the director sees of it. -/
inductive Turn (setup : DirectorSetup) (director : Director) (guest : Guest) :
    Director × Guest → Prop where
  /-- Nothing. -/
  | rests : Turn setup director guest (director, guest)
  /-- It goes away before it has asked for a lock. -/
  | leaves (engine : Engine) (error : DirectorError) (hfresh : guest.visit.stage = .fresh) :
      Turn setup director guest ({ director with engine }, guest.withStage (.over (.error error)))
  /-- It finds the room. -/
  | finds (room : Nat) (hfresh : guest.visit.stage = .fresh) (hnew : guest.shown = none)
      (hroom : director.room? guest.visit.session = some room) :
      Turn setup director guest (director, { guest with shown := some room })
  /-- It asks for the lock of the room. -/
  | asks (room : Nat) (hfresh : guest.visit.stage = .fresh) (hshown : guest.shown = some room) :
      Turn setup director guest
        ((director.askFor room).1, guest.withStage (.queued room director.nextTicket))
  /-- It gives up waiting. -/
  | turnsBack (room ticket : Nat) (engine : Engine)
      (hqueued : guest.visit.stage = .queued room ticket) :
      Turn setup director guest
        ({ director.leave room ticket with engine }, guest.withStage (.over (.error .cancelled)))
  /-- It owns the lock, takes the session and plans. -/
  | takesUp (room ticket : Nat) (found : Session) (plan : Plan) (engine : Engine)
      (hqueued : guest.visit.stage = .queued room ticket) (howns : director.owns room ticket = true)
      (hfound : director.sessionIn? room = some found)
      (hplan : plan = setup.planner.plan guest.visit.action (found.apply guest.visit.snapshot)
        guest.visit.draw) :
      Turn setup director guest
        ({ director with engine }, guest.withStage (.running room ticket plan
          (Run.begin plan.tasks guest.visit.action plan.kind (found.apply guest.visit.snapshot)
            engine.now)))
  /-- It has seen to a task, and its run goes on. -/
  | pauses (room ticket : Nat) (plan : Plan) (run : Run)
      (hrunning : guest.visit.stage = .running room ticket plan run)
      (hbusy : (run.attend setup.run director.engine).2.isBusy = true) :
      Turn setup director guest
        ({ director with engine := (run.attend setup.run director.engine).1 },
         guest.withStage (.running room ticket plan (run.attend setup.run director.engine).2))
  /-- Its run goes on. -/
  | goesOn (room ticket : Nat) (plan : Plan) (run next : Run) (engine : Engine)
      (hrunning : guest.visit.stage = .running room ticket plan run)
      (hlook : run.look setup.run director.shutDown director.engine = (engine, next))
      (hbusy : next.isBusy = true) :
      Turn setup director guest
        ({ director with engine }, guest.withStage (.running room ticket plan next))
  /-- It stops, and puts the session back as the run left it. -/
  | stops (room ticket : Nat) (plan : Plan) (run : Run) (engine : Engine)
      (hrunning : guest.visit.stage = .running room ticket plan run) :
      Turn setup director guest
        ({ (director.putBack room run.session).leave room ticket with engine },
         guest.withStage (.over (.error .cancelled)))
  /-- Its run finishes, and it puts the session back with the action remembered. -/
  | finishes (room ticket : Nat) (plan : Plan) (run done : Run) (seen engine : Engine)
      (hrunning : guest.visit.stage = .running room ticket plan run)
      (hlook : run.look setup.run director.shutDown director.engine = (seen, done))
      (hdone : done.stage = .finished) :
      Turn setup director guest
        ({ (director.putBack room (done.session.recordAction guest.visit.action)).leave room ticket
            with engine },
         guest.withStage
          (.over (.ok (Visit.answerOf setup { director with engine := seen } plan done))))

variable {setup : DirectorSetup} {director : Director} {guest : Guest}

theorem turn_find : Turn setup director guest (guest.find director) := by
  rw [find]
  split
  case h_1 hfresh hnew =>
      split
      · exact .leaves director.engine _ hfresh
      case h_2 room hroom => exact .finds room hfresh hnew hroom
  case h_2 => exact .rests

theorem turn_ask : Turn setup director guest (guest.ask director) := by
  rw [ask]
  split
  case h_1 room hfresh hshown => exact .asks room hfresh hshown
  case h_2 => exact .rests

theorem turn_takeUp : Turn setup director guest (guest.takeUp setup director) := by
  rw [takeUp]
  split
  case h_1 room ticket hqueued =>
      split
      case h_1 found howns hfound => exact .takesUp room ticket found _ _ hqueued howns hfound rfl
      case h_2 => exact .rests
  case h_2 => exact .rests

theorem turn_work : Turn setup director guest (guest.work setup director) := by
  rw [work]
  split
  case h_1 room ticket plan run hrunning =>
      rw [Visit.proceed]
      cases hlook : run.look setup.run director.shutDown director.engine with
      | mk seen after =>
          dsimp only
          split
          case h_1 hbusy =>
              exact .goesOn room ticket plan run after seen hrunning hlook
                (by rw [Run.isBusy, hbusy])
          case h_2 hcancelled =>
              -- A look that stops the run does nothing else to it.
              have hsession : after.session = run.session := by
                have hkept := Run.session_of_look_cancelled
                  (congrArg (·.2.stage) hlook |>.trans hcancelled)
                rwa [hlook] at hkept
              rw [hsession]
              exact .stops room ticket plan run _ hrunning
          case h_3 hfinished =>
              exact .finishes room ticket plan run after seen _ hrunning hlook hfinished
  case h_2 => exact .rests

theorem turn_attend : Turn setup director guest (guest.attend setup director) := by
  rw [attend]
  split
  case h_1 room ticket plan run hrunning =>
      split
      case h_1 attempt next rest hstage hopen =>
          refine .pauses room ticket plan run hrunning ?_
          rw [Run.attend, hstage]
          dsimp only
          split <;> rfl
      case h_2 => exact turn_work
  case h_2 => exact .rests

theorem turn_giveUp : Turn setup director guest (guest.giveUp setup director) := by
  rw [giveUp]
  split
  case h_1 hfresh hshown => exact .leaves _ _ hfresh
  case h_2 =>
      rw [Visit.look]
      cases hstage : guest.visit.stage with
      | fresh =>
          dsimp only
          rw [Visit.arrive]
          cases director.room? guest.visit.session with
          | none => exact .leaves director.engine _ hstage
          | some room => exact .leaves _ _ hstage
      | queued room ticket => exact .turnsBack room ticket _ hstage
      | running room ticket plan run => exact .stops room ticket plan run _ hstage
      | _ => exact .rests

/-- Whatever a guest does is one of these. -/
theorem turn_does (deed : Deed) : Turn setup director guest (guest.does setup deed director) := by
  cases deed with
  | find => exact turn_find
  | ask => exact turn_ask
  | takeUp => exact turn_takeUp
  | attend => exact turn_attend
  | work => exact turn_work
  | giveUp => exact turn_giveUp

/-- Whoever stands in line goes in, if it can, as at a look. -/
theorem work_takeUp (setup : DirectorSetup) (director : Director) (visit : Visit)
    (shown : Option Nat) (room ticket : Nat) :
    let waits : Guest := ⟨{ visit with stage := .queued room ticket }, shown⟩
    let taken := waits.takeUp setup director
    let worked := taken.2.work setup taken.1
    (worked.1, worked.2.visit) = visit.enter setup room ticket director := by
  simp only [takeUp, Visit.enter]
  cases director.owns room ticket with
  | false => rfl
  | true => cases director.sessionIn? room <;> rfl

/-- A look at a visit is these steps in a row. -/
theorem look_eq (setup : DirectorSetup) (director : Director) (guest : Guest)
    (hnew : guest.visit.stage = .fresh → guest.shown = none) :
    let found := guest.find director
    let asked := found.2.ask found.1
    let taken := asked.2.takeUp setup asked.1
    let worked := taken.2.work setup taken.1
    (worked.1, worked.2.visit) = guest.visit.look setup false director := by
  obtain ⟨visit, shown⟩ := guest
  obtain ⟨session, action, snapshot, draw, stage⟩ := visit
  cases stage with
  | fresh =>
      obtain rfl : shown = none := hnew rfl
      simp only [find, Visit.look, Visit.arrive]
      cases director.room? session with
      | none => rfl
      | some room =>
          exact work_takeUp setup (director.askFor room).1
            ⟨session, action, snapshot, draw, .fresh⟩ (some room) room director.nextTicket
  | queued room ticket =>
      exact work_takeUp setup director ⟨session, action, snapshot, draw, .queued room ticket⟩ shown
        room ticket
  | running room ticket plan run => rfl
  | _ => rfl

end Guest

/-! ### Houses -/

/-- A director with guests. -/
structure House (ι : Type) where
  /-- The director. -/
  director : Director
  /-- The guests. -/
  guests : ι → Guest
  /-- The sessions for which the rooms were made. -/
  plates : List Uuid := []

/-- Something that happens without interruption. -/
inductive House.Move (ι : Type) where
  /-- Someone starts a session. -/
  | openSession (session : Uuid) (turn : Nat)
  /-- Someone ends a session. -/
  | endSession (session : Uuid)
  /-- The director is shut down. -/
  | shutDown
  /-- Time passes, and others use the engine. -/
  | stir (engine : Engine)
  /-- A guest does something. -/
  | act (who : ι) (deed : Deed)

namespace House

variable {ι : Type} [DecidableEq ι]

/-- The house after a guest did something. -/
def moved (house : House ι) (who : ι) (done : Director × Guest) : House ι :=
  { house with director := done.1, guests := Function.update house.guests who done.2 }

/-- The house after a move. -/
def step (setup : DirectorSetup) (house : House ι) : Move ι → House ι
  | .openSession session turn =>
    match house.director.openSession setup session turn with
    | .ok opened => { house with director := opened, plates := house.plates ++ [session] }
    | .error _ => house
  | .endSession session => { house with director := house.director.endSession session }
  | .shutDown => { house with director := house.director.stop }
  | .stir engine => { house with director.engine := engine }
  | .act who deed => house.moved who ((house.guests who).does setup deed house.director)

/-- The house after several moves in order. -/
def run (setup : DirectorSetup) (house : House ι) (moves : List (Move ι)) : House ι :=
  moves.foldl (step setup) house

/-- A house before its first move: there are no sessions, and no visit has begun. -/
def opening (engine : Engine) (visits : ι → Visit) : House ι where
  director := { engine }
  guests who := { visit := (visits who).errand }

variable {setup : DirectorSetup} {house : House ι}

theorem run_append (before after : List (Move ι)) :
    house.run setup (before ++ after) = (house.run setup before).run setup after :=
  List.foldl_append

theorem run_concat (before : List (Move ι)) (move : Move ι) :
    house.run setup (before ++ [move]) = (house.run setup before).step setup move :=
  run_append before [move]

/-- What a guest does is one of its turns. -/
theorem exists_turn (setup : DirectorSetup) (house : House ι) (who : ι) (deed : Deed) :
    ∃ done, Guest.Turn setup house.director (house.guests who) done ∧
      house.step setup (.act who deed) = house.moved who done :=
  ⟨_, Guest.turn_does deed, rfl⟩

/-- What every move keeps, a run keeps. -/
theorem run_induction {P : House ι → Prop}
    (hstep : ∀ house move, P house → P (house.step setup move)) (h : P house)
    (moves : List (Move ι)) : P (house.run setup moves) := by
  induction moves generalizing house with
  | nil => exact h
  | cons move rest ih => exact ih (hstep house move h)

/-- What holds at the start, survives the moves of those who are no guests, and survives whatever a
guest can do in one step, holds of every house that comes about. -/
theorem step_induction {P : House ι → Prop} {house : House ι}
    (hopen : ∀ session fresh, house.director.room? session = none →
      P { house with
        director := { house.director with
          current := house.director.current ++ [(session, house.director.rooms.length)]
          rooms := house.director.rooms ++ [{ session := fresh }] }
        plates := house.plates ++ [session] })
    (hend : ∀ session, P { house with director := house.director.endSession session })
    (hdown : P { house with director := house.director.stop })
    (hstir : ∀ engine, P { house with director.engine := engine })
    (hact : ∀ who done, Guest.Turn setup house.director (house.guests who) done →
      P (house.moved who done)) (h : P house) (move : Move ι) : P (house.step setup move) := by
  cases move with
  | openSession session turn =>
      rw [step]
      cases hopened : house.director.openSession setup session turn with
      | error error => exact h
      | ok opened =>
          obtain ⟨hnew, fresh, rfl⟩ := Director.openSession_eq_ok hopened
          exact hopen session fresh hnew
  | endSession session => exact hend session
  | shutDown => exact hdown
  | stir engine => exact hstir engine
  | act who deed =>
      obtain ⟨done, hturn, hstep⟩ := exists_turn setup house who deed
      rw [hstep]
      exact hact who done hturn

end House

end StoryDirector
