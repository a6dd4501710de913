import StoryDirector.Proofs.Director.Leaving
/-!
# StoryDirector.Proofs.Director.Histories

What a session remembers is a window of a longer history that no one keeps. **The history of a room
is what its moves bring, one after another** (`House.along`), and a memory of the room retains its
end (`Recent.Retains`).

While someone runs in a room, the session of the run is the one that counts there, and whoever
leaves puts that one back. `House.Stands` says which session it is, and `House.Change` all that one
move can do to it: it starts anew, it gets the snapshot of whoever takes it up, it goes on with a
run, or it is put back. Each history is an induction over the moves with these cases.
-/

namespace StoryDirector

/-! ### Memories -/

namespace Recent

variable {α : Type} {limit : Nat} {history : Recent α} {all : List α}

/-- Of a long history, the end is remembered. -/
structure Retains (limit : Nat) (all : List α) (history : Recent α) : Prop where
  /-- The memory has the limit, -/
  bound : history.limit = limit
  /-- and holds as many of the last entries as that allows. -/
  entries : history.entries = lastOf limit all

theorem Retains.length_le (h : history.Retains limit all) :
    history.entries.length ≤ history.limit := by
  rw [h.entries, h.bound, length_lastOf]
  exact Nat.min_le_left _ _

theorem Retains.recordAll (h : history.Retains limit all) (more : List α) :
    (history.recordAll more).Retains limit (all ++ more) where
  bound := by rw [limit_recordAll, h.bound]
  entries := by rw [entries_recordAll h.length_le, h.bound, h.entries, lastOf_lastOf_append]

theorem Retains.record (h : history.Retains limit all) (entry : α) :
    (history.record entry).Retains limit (all ++ [entry]) :=
  h.recordAll [entry]

/-- Whatever is not remembered any more was followed by as many entries as are. -/
theorem Retains.le_of_not_mem (h : history.Retains limit all) {earlier later : List α} {entry : α}
    (hall : all = earlier ++ entry :: later) (hgone : entry ∉ history.entries) :
    limit ≤ later.length := by
  by_contra hmore
  refine hgone ?_
  rw [h.entries, hall, lastOf, List.drop_append_of_le_length (by simp; omega)]
  simp

end Recent

/-! ### What looks make of a run -/

namespace Run

/-- One run is what looks at its attempts made of another. -/
def Becomes (setup : RunSetup) (run next : Run) : Prop :=
  ∀ P : Run → Prop, Keeps setup (fun _ run => P run) → P run → P next

variable {setup : RunSetup} {run next : Run}

theorem Becomes.refl (run : Run) : Becomes setup run run :=
  fun _ _ hrun => hrun

theorem becomes_attend (run : Run) (engine : Engine) :
    Becomes setup run (run.attend setup engine).2 :=
  fun P hP hrun => @attend_induction setup (fun _ run => P run) hP engine run hrun

theorem becomes_look (run : Run) (cancelled : Bool) (engine : Engine) :
    Becomes setup run (run.look setup cancelled engine).2 :=
  fun P hP hrun => @look_induction setup (fun _ run => P run) hP cancelled engine run hrun

/-- The results of a run that looks are made at only grow, and what is new is fed back. -/
theorem Becomes.exists_new (h : Becomes setup run next) :
    ∃ new, next.ledger.results = run.ledger.results ++ new ∧
      next.session = setup.cascade.fed (new.map (·.responses)) run.session := by
  refine h (fun next => ∃ new, next.ledger.results = run.ledger.results ++ new ∧
    next.session = setup.cascade.fed (new.map (·.responses)) run.session) ?_ ⟨[], by simp, rfl⟩
  refine ⟨fun hnew _ => hnew, ?_, fun hnew => hnew⟩
  rintro engine after next attempt result todo ⟨new, hresults, hsession⟩ -
  refine ⟨new ++ [result], ?_, ?_⟩
  · show next.ledger.results ++ [result] = _
    rw [show next.ledger.results = _ from hresults, List.append_assoc]
  · show (setup.cascade.integrate result.responses next.session).1 = _
    rw [show next.session = _ from hsession, List.map_append, CascadeRules.fed_append]
    rfl

end Run

/-! ### Sessions that are started -/

/-- A session as it is started. -/
def Session.started (memory : SessionSettings) (id : Uuid) (turn : Nat) : Session :=
  Session.withLimits { id, turn } memory.recentActions memory.recentEvents

theorem Session.retains_started (memory : SessionSettings) (id : Uuid) (turn : Nat) :
    (started memory id turn).actions.Retains (max memory.recentActions 1) [] ∧
      (started memory id turn).events.Retains (max memory.recentEvents 1) [] :=
  ⟨⟨rfl, by simp [Recent.lastOf, started, withLimits]⟩,
    ⟨rfl, by simp [Recent.lastOf, started, withLimits]⟩⟩

/-- A session is started in the room behind all others, and nothing else changes. -/
theorem Director.sessionIn?_openSession {director opened : Director} {setup : DirectorSetup}
    {session : Uuid} {turn : Nat} (h : director.openSession setup session turn = .ok opened)
    (room : Nat) :
    opened.sessionIn? room = if room = director.rooms.length
      then some (Session.started setup.memory session turn) else director.sessionIn? room := by
  unfold openSession at h
  split at h
  · cases h
  · obtain rfl := Except.ok.inj h
    rcases Nat.lt_trichotomy room director.rooms.length with hless | rfl | hmore
    · simp [sessionIn?, List.getElem?_append_left hless, Nat.ne_of_lt hless]
    · simp [sessionIn?, Session.started]
    · have hbeyond : 1 ≤ room - director.rooms.length := Nat.sub_pos_of_lt hmore
      rw [if_neg (Nat.ne_of_gt hmore), sessionIn?, List.getElem?_append_right (Nat.le_of_lt hmore),
        List.getElem?_eq_none hbeyond, sessionIn?, List.getElem?_eq_none (Nat.le_of_lt hmore)]

namespace House

variable {ι α : Type} [DecidableEq ι] {setup : DirectorSetup} {house : House ι}

/-! ### What moves bring -/

/-- What some moves bring, one after another. -/
def along (setup : DirectorSetup) (brings : House ι → Move ι → List α) (house : House ι) :
    List (Move ι) → List α
  | [] => []
  | move :: rest => brings house move ++ along setup brings (house.step setup move) rest

theorem along_concat (brings : House ι → Move ι → List α) (moves : List (Move ι)) (move : Move ι) :
    house.along setup brings (moves ++ [move]) =
      house.along setup brings moves ++ brings (house.run setup moves) move := by
  induction moves generalizing house with
  | nil => simp [along, run]
  | cons first rest ih =>
      rw [List.cons_append, along, ih, along, List.append_assoc]
      rfl

/-- No room is ever closed. -/
theorem plate_of_step {room : Nat} {move : Move ι}
    (h : (house.step setup move).plates[room]? = none) : house.plates[room]? = none := by
  cases move with
  | openSession session turn =>
      rw [step] at h
      split at h
      · simp only [List.getElem?_eq_none_iff, List.length_append] at h ⊢
        omega
      · exact h
  | endSession | shutDown | stir | act => exact h

/-- Where runs bring all there is to a room, nothing has come to a room that is not there yet. -/
theorem along_eq_nil {room : Nat} {brings : House ι → Move ι → List α}
    (hbrings : ∀ house move, (∀ who, ¬ (house.guests who).RunsIn room) → brings house move = [])
    (engine : Engine) (visits : ι → Visit) (moves : List (Move ι))
    (hnew : ((opening engine visits).run setup moves).plates[room]? = none) :
    (opening engine visits).along setup brings moves = [] := by
  induction moves using List.reverseRecOn with
  | nil => rfl
  | append_singleton moves move ih =>
      rw [run_concat] at hnew
      have hbefore := plate_of_step hnew
      have hin : ((opening engine visits).run setup moves).InOrder :=
        inOrder_run (inOrder_opening engine visits) moves
      rw [along_concat, ih hbefore, hbrings _ move fun who hruns => ?_, List.append_nil]
      rw [hin.shown who room (shown_of_runsIn hin hruns)] at hbefore
      cases hbefore

/-! ### The session that counts in a room -/

/-- The session counts in a room: someone runs there and the run has it, or no one does and it is in
the room. -/
inductive Stands (house : House ι) (room : Nat) : Session → Prop where
  /-- No one runs in the room. -/
  | rests (session : Session) (hsession : house.director.sessionIn? room = some session)
      (hidle : ∀ who, ¬ (house.guests who).RunsIn room) : Stands house room session
  /-- Someone runs in the room. -/
  | runs (who : ι) (ticket : Nat) (plan : Plan) (run : Run)
      (hrunning : (house.guests who).visit.stage = .running room ticket plan run) :
      Stands house room run.session

/-- What a move makes of the session that counts in a room. -/
inductive Change (setup : DirectorSetup) (house : House ι) (move : Move ι) (room : Nat) :
    Session → Prop where
  /-- It is started. -/
  | starts (session : Uuid) (turn : Nat) (hmove : move = .openSession session turn)
      (hnew : house.plates[room]? = none) :
      Change setup house move room (Session.started setup.memory session turn)
  /-- It stays as it was, and no one who runs in the room moves. -/
  | stays (session : Session) (hstands : house.Stands room session)
      (hothers : ∀ who deed, move = .act who deed → ¬ (house.guests who).RunsIn room) :
      Change setup house move room session
  /-- Someone takes it up with a snapshot. -/
  | takenUp (who : ι) (deed : Deed) (session : Session) (snapshot : Snapshot)
      (hstands : house.Stands room session) (hmove : move = .act who deed)
      (hidle : ¬ (house.guests who).RunsIn room) :
      Change setup house move room (session.apply snapshot)
  /-- The run in the room goes on with it. -/
  | goesOn (who : ι) (deed : Deed) (ticket : Nat) (plan : Plan) (run next : Run)
      (hmove : move = .act who deed)
      (hrunning : (house.guests who).visit.stage = .running room ticket plan run)
      (hnext : ((house.step setup move).guests who).visit.stage = .running room ticket plan next)
      (hbecomes : Run.Becomes setup.run run next) : Change setup house move room next.session
  /-- The run in the room stops, and it is put back. -/
  | stops (who : ι) (deed : Deed) (ticket : Nat) (plan : Plan) (run : Run)
      (hmove : move = .act who deed)
      (hrunning : (house.guests who).visit.stage = .running room ticket plan run)
      (hover : ((house.step setup move).guests who).visit.stage = .over (.error .cancelled)) :
      Change setup house move room run.session
  /-- The run in the room finishes, and it is put back with the action remembered. -/
  | finishes (who : ι) (deed : Deed) (ticket : Nat) (plan : Plan) (run done : Run)
      (answer : Answer) (hmove : move = .act who deed)
      (hrunning : (house.guests who).visit.stage = .running room ticket plan run)
      (hlook : (run.look setup.run house.director.shutDown house.director.engine).2 = done)
      (hover : ((house.step setup move).guests who).visit.stage = .over (.ok answer)) :
      Change setup house move room (done.session.recordAction (house.guests who).visit.action)

omit [DecidableEq ι] in
/-- In a room where someone runs, that run's session counts and no other. -/
theorem Stands.eq_of_running (hin : house.InOrder) {who : ι} {room ticket : Nat} {plan : Plan}
    {run : Run} {session : Session}
    (hrunning : (house.guests who).visit.stage = .running room ticket plan run)
    (h : house.Stands room session) : session = run.session := by
  cases h with
  | rests _ _ hidle => exact absurd ⟨ticket, plan, run, hrunning⟩ (hidle who)
  | runs other number planned ran hran =>
      obtain rfl := eq_of_runsIn hin ⟨ticket, plan, run, hrunning⟩ ⟨number, planned, ran, hran⟩
      obtain ⟨-, -, -, rfl⟩ := VisitStage.running.inj (hrunning.symm.trans hran)
      rfl

omit [DecidableEq ι] in
/-- In every room some session counts. -/
theorem exists_stands (hin : house.InOrder) {room : Nat} {id : Uuid}
    (hplate : house.plates[room]? = some id) : ∃ session, house.Stands room session := by
  by_cases hruns : ∃ who, (house.guests who).RunsIn room
  · obtain ⟨who, ticket, plan, run, hrunning⟩ := hruns
    exact ⟨run.session, .runs who ticket plan run hrunning⟩
  · obtain ⟨inside, -⟩ := List.getElem?_eq_some_iff.mp hplate
    rw [hin.plated] at inside
    have hsession : house.director.sessionIn? room =
        some house.director.rooms[room].session := by
      rw [Director.sessionIn?, List.getElem?_eq_getElem inside, Option.map_some]
    exact ⟨_, .rests _ hsession fun who hwho => hruns ⟨who, hwho⟩⟩

omit [DecidableEq ι] in
/-- No one runs in a room whose lock is owned by someone who does not. -/
theorem not_runsIn_of_owns (hin : house.InOrder) {who : ι} {room ticket : Nat}
    (hqueued : (house.guests who).visit.stage = .queued room ticket)
    (howns : house.director.owns room ticket = true) (other : ι) :
    ¬ (house.guests other).RunsIn room := by
  rintro ⟨number, plan, run, hrunning⟩
  obtain ⟨lock, hlock, howned⟩ := (Director.owns_iff _).mp howns
  obtain ⟨same, hsame, hheld⟩ :=
    (Director.owns_iff _).mp (hin.owners other room number plan run hrunning)
  obtain rfl := Option.some.inj (hlock.symm.trans hsame)
  have hticket : some ticket = some number :=
    (of_decide_eq_true howned).symm.trans (of_decide_eq_true hheld)
  obtain rfl := Option.some.inj hticket
  obtain rfl := hin.seating.unique who other room room ticket (Guest.place?_of_queued hqueued)
    (Guest.place?_of_running hrunning)
  rw [hqueued] at hrunning
  cases hrunning

end House

/-- Whoever comes to run in a room owned its lock, took the session there and planned. -/
structure Guest.TakesUp (setup : DirectorSetup) (director : Director) (guest : Guest)
    (room ticket : Nat) (plan : Plan) (run : Run) (found : Session) : Prop where
  /-- It stood in line for the lock -/
  queued : guest.visit.stage = .queued room ticket
  /-- and owned it, -/
  owns : director.owns room ticket = true
  /-- and this session was in the room. -/
  there : director.sessionIn? room = some found
  /-- The plan was made for that session with the snapshot applied, -/
  planned : plan = setup.planner.plan guest.visit.action (found.apply guest.visit.snapshot)
    guest.visit.draw
  /-- and so the run begins. -/
  begun : run.session = found.apply guest.visit.snapshot

theorem Guest.Turn.exists_takesUp {setup : DirectorSetup} {director : Director} {guest : Guest}
    {done : Director × Guest} (h : Turn setup director guest done) {room ticket : Nat} {plan : Plan}
    {run : Run} (hout : ¬ guest.RunsIn room)
    (hrunning : done.2.visit.stage = .running room ticket plan run) :
    ∃ found, guest.TakesUp setup director room ticket plan run found := by
  cases h with
  | takesUp other number found planned engine hqueued howns hfound hplan =>
      obtain ⟨rfl, rfl, rfl, rfl⟩ := VisitStage.running.inj hrunning
      exact ⟨found, hqueued, howns, hfound, hplan, rfl⟩
  | rests => exact absurd ⟨ticket, plan, run, hrunning⟩ hout
  | finds other hfresh hnew hroom =>
      rw [hfresh] at hrunning
      cases hrunning
  | pauses other number planned before hbefore hbusy =>
      obtain ⟨rfl, rfl, rfl, rfl⟩ := VisitStage.running.inj hrunning
      exact absurd ⟨_, _, _, hbefore⟩ hout
  | goesOn other number planned before next engine hbefore hlook hbusy =>
      obtain ⟨rfl, rfl, rfl, rfl⟩ := VisitStage.running.inj hrunning
      exact absurd ⟨_, _, _, hbefore⟩ hout
  | leaves | asks | turnsBack | stops | finishes => cases hrunning

namespace House

variable {ι : Type} [DecidableEq ι] {setup : DirectorSetup} {house : House ι}

omit [DecidableEq ι] in
/-- Whatever does not touch rooms and guests leaves standing what stands. -/
theorem Stands.congr {after : House ι} {room : Nat} {session : Session}
    (h : after.Stands room session) (hguests : after.guests = house.guests)
    (hsession : after.director.sessionIn? room = house.director.sessionIn? room) :
    house.Stands room session := by
  cases h with
  | rests _ hfound hidle => exact .rests session (hsession ▸ hfound) (hguests ▸ hidle)
  | runs who ticket plan run hrunning => exact .runs who ticket plan run (hguests ▸ hrunning)

/-- Whoever has put a session back left that session in the room and no run. -/
theorem Stands.eq_of_back {mover : ι} {done : Director × Guest} {room : Nat}
    {session back : Session} (hin : house.InOrder) (hmover : (house.guests mover).RunsIn room)
    (hover : done.2.visit.result?.isSome = true)
    (hback : done.1.sessionIn? = Function.update house.director.sessionIn? room
      ((house.director.sessionIn? room).map fun _ => back))
    (h : (house.moved mover done).Stands room session) : session = back := by
  cases h with
  | rests _ hfound _ =>
      have hput : done.1.sessionIn? room = some session := hfound
      rw [hback, Function.update_self] at hput
      obtain ⟨_, -, hsame⟩ := Option.map_eq_some_iff.mp hput
      exact hsame.symm
  | runs who ticket plan run hrunning =>
      rw [guests_moved] at hrunning
      split at hrunning
      · rw [Visit.result?, hrunning] at hover
        cases hover
      · next hother =>
          exact absurd (eq_of_runsIn hin ⟨ticket, plan, run, hrunning⟩ hmover) hother

/-- What someone who runs in the room makes of the session. -/
theorem change_of_running (hin : house.InOrder) {who : ι} {deed : Deed} {room ticket : Nat}
    {plan : Plan} {run : Run} {session : Session}
    (hrunning : (house.guests who).visit.stage = .running room ticket plan run)
    (h : (house.step setup (.act who deed)).Stands room session) :
    house.Change setup (.act who deed) room session := by
  have hafter : (house.step setup (.act who deed)).InOrder := inOrder_step hin _
  have hruns : (house.guests who).RunsIn room := ⟨ticket, plan, run, hrunning⟩
  obtain ⟨done, hturn, hstep⟩ := exists_turn setup house who deed
  have hguest : (house.step setup (.act who deed)).guests who = done.2 := by
    rw [hstep, guests_moved, if_pos rfl]
  -- As long as the run goes on, it has the session.
  have hgoes : ∀ next, done.2.visit.stage = .running room ticket plan next →
      Run.Becomes setup.run run next → house.Change setup (.act who deed) room session := by
    intro next hnext hbecomes
    rw [← hguest] at hnext
    obtain rfl := h.eq_of_running hafter hnext
    exact .goesOn who deed ticket plan run next rfl hrunning hnext hbecomes
  cases hturn with
  | rests => exact hgoes run hrunning (.refl run)
  | leaves _ _ hstage | finds _ hstage _ _ | asks _ hstage _ | turnsBack _ _ _ hstage
  | takesUp _ _ _ _ _ hstage _ _ _ =>
      rw [hstage] at hrunning
      cases hrunning
  | pauses other number planned before hbefore hbusy =>
      obtain ⟨rfl, rfl, rfl, rfl⟩ := VisitStage.running.inj (hbefore.symm.trans hrunning)
      exact hgoes _ rfl (Run.becomes_attend _ _)
  | goesOn other number planned before next engine hbefore hlook hbusy =>
      obtain ⟨rfl, rfl, rfl, rfl⟩ := VisitStage.running.inj (hbefore.symm.trans hrunning)
      refine hgoes next rfl ?_
      have hlooked : Run.Becomes setup.run before _ :=
        Run.becomes_look before house.director.shutDown house.director.engine
      rwa [hlook] at hlooked
  | stops other number planned before engine hbefore =>
      obtain ⟨rfl, rfl, rfl, rfl⟩ := VisitStage.running.inj (hbefore.symm.trans hrunning)
      rw [hstep] at h
      obtain rfl := h.eq_of_back hin hruns rfl (house.director.sessionIn?_giveBack _ _ _)
      exact .stops who deed _ _ before rfl hrunning (by rw [hguest]; rfl)
  | finishes other number planned before ended seen engine hbefore hlook hdone =>
      obtain ⟨rfl, rfl, rfl, rfl⟩ := VisitStage.running.inj (hbefore.symm.trans hrunning)
      rw [hstep] at h
      obtain rfl := h.eq_of_back hin hruns rfl (house.director.sessionIn?_giveBack _ _ _)
      exact .finishes who deed _ _ before ended _ rfl hrunning (by rw [hlook]) (by rw [hguest]; rfl)

/-- **All that a move can do to the session that counts in a room.** -/
theorem change_of_stands (hin : house.InOrder) {move : Move ι} {room : Nat} {session : Session}
    (h : (house.step setup move).Stands room session) : house.Change setup move room session := by
  cases move with
  | openSession id turn =>
      rw [step] at h
      cases hopened : house.director.openSession setup id turn with
      | error error =>
          rw [hopened] at h
          exact .stays session h fun _ _ hmove => by cases hmove
      | ok opened =>
          rw [hopened] at h
          have hroom := Director.sessionIn?_openSession hopened room
          by_cases hnew : room = house.director.rooms.length
          · rw [if_pos hnew] at hroom
            cases h with
            | rests _ hsession _ =>
                obtain rfl := Option.some.inj (hroom.symm.trans hsession)
                refine .starts id turn rfl (List.getElem?_eq_none ?_)
                rw [hin.plated, hnew]
            | runs who ticket plan run hrunning =>
                exact .stays run.session (.runs who ticket plan run hrunning)
                  fun _ _ hmove => by cases hmove
          · rw [if_neg hnew] at hroom
            exact .stays session (h.congr rfl hroom) fun _ _ hmove => by cases hmove
  | endSession id => exact .stays session (h.congr rfl rfl) fun _ _ hmove => by cases hmove
  | shutDown => exact .stays session (h.congr rfl rfl) fun _ _ hmove => by cases hmove
  | stir engine => exact .stays session (h.congr rfl rfl) fun _ _ hmove => by cases hmove
  | act who deed =>
      by_cases hruns : (house.guests who).RunsIn room
      · obtain ⟨ticket, plan, run, hrunning⟩ := hruns
        exact change_of_running hin hrunning h
      · obtain ⟨done, hturn, hstep⟩ := exists_turn setup house who deed
        have hothers : ∀ mover other, (.act who deed : Move ι) = .act mover other →
            ¬ (house.guests mover).RunsIn room := by
          rintro mover other hmove
          obtain ⟨rfl, -⟩ := Move.act.inj hmove
          exact hruns
        rw [hstep] at h
        cases h with
        | rests _ hsession hidle =>
            refine .stays session (.rests session ?_ fun other hother => ?_) hothers
            · rw [← hsession]
              exact (hturn.sessionIn?_of_not_runsIn hruns).symm
            · by_cases hself : other = who
              · exact hruns (hself ▸ hother)
              · refine hidle other ?_
                rwa [guests_moved, if_neg hself]
        | runs other ticket plan run hrunning =>
            rw [guests_moved] at hrunning
            split at hrunning
            · obtain ⟨found, htakes⟩ := hturn.exists_takesUp hruns hrunning
              rw [htakes.begun]
              exact .takenUp who deed found _
                (.rests found htakes.there (not_runsIn_of_owns hin htakes.queued htakes.owns)) rfl
                hruns
            · exact .stays run.session (.runs other ticket plan run hrunning) hothers

/-- What every change keeps holds, after any moves, of whatever session counts in a room. -/
theorem stands_induction {engine : Engine} {visits : ι → Visit} {room : Nat}
    {P : List (Move ι) → Session → Prop}
    (hchange : ∀ moves move session,
      (∀ before, ((opening engine visits).run setup moves).Stands room before → P moves before) →
      ((opening engine visits).run setup moves).Change setup move room session →
      P (moves ++ [move]) session)
    (moves : List (Move ι)) {session : Session}
    (h : ((opening engine visits).run setup moves).Stands room session) : P moves session := by
  induction moves using List.reverseRecOn generalizing session with
  | nil =>
      cases h with
      | rests _ hsession _ => cases hsession
      | runs _ _ _ _ hrunning => cases hrunning
  | append_singleton moves move ih =>
      rw [run_concat] at h
      exact hchange moves move session (fun _ hbefore => ih hbefore)
        (change_of_stands (inOrder_run (inOrder_opening engine visits) moves) h)

end House

end StoryDirector
