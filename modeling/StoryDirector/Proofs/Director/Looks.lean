import StoryDirector.Proofs.Director.Leaving
import StoryDirector.Proofs.Plan.Story
import StoryDirector.Proofs.Run.Alarms
import StoryDirector.Proofs.Run.Hearing
/-!
# StoryDirector.Proofs.Director.Looks

Looks at a visit, at a director that others use as well. **All that a look can come to is said once,
by `Visit.Looked`**: what the visit finds out, why it stops if it does, what is left to be done, and
what happens to the director meanwhile. At a director that is shut down no look makes a worker hear
anything (`Visit.hushed_look`).

What is left is counted with an allowance for the run that is still to be planned, and no plan takes
more (`Planner.total_steps_plan_le`).
-/

namespace StoryDirector

/-! ### How long plans are -/

/-- A template takes so few steps that there is room for an anomaly. -/
theorem Template.total_steps_tasks_le (kind : ActionKind) (action : PlayerAction) (world : World) :
    Clockwork.total ((tasks kind action world).map Run.steps) ≤ 57 := by
  have hplace : (environmentCheck action).workers = [.worldSimulator] := by
    unfold environmentCheck
    cases destination? action <;> rfl
  cases kind with
  | movement | combat | quest =>
      simp only [tasks]
      split <;> simp [Run.steps, check, narrative, hplace]
  | dialogue | exploration | itemUse | skillUse | systemCommand | unknown =>
      simp [tasks, Run.steps, check, narrative]

/-- No plan takes more steps than are allowed for. -/
theorem Planner.total_steps_plan_le (planner : Planner) (action : PlayerAction) (session : Session)
    (draw : Float32) :
    Clockwork.total ((planner.plan action session draw).tasks.map Run.steps) ≤
      Visit.planAllowance := by
  have htemplate := Template.total_steps_tasks_le (planner.lexicon.classify action) action
    session.world
  have hanomaly : Clockwork.total
      ((anomaly? planner.settings session draw).toList.map Run.steps) ≤ 7 := by
    cases hplanned : anomaly? planner.settings session draw with
    | none => exact Nat.zero_le _
    | some task =>
        obtain ⟨chance, rfl⟩ := exists_chance hplanned
        exact Nat.le_refl _
  rw [tasks_plan, List.map_append, Clockwork.total_append, Visit.planAllowance]
  omega

theorem Run.left_begin (tasks : List Task) (action : PlayerAction) (kind : ActionKind)
    (session : Session) (now : Instant) :
    (Run.begin tasks action kind session now).left = Clockwork.total (tasks.map steps) := by
  cases tasks <;> rfl

/-- To give a run up is what a look does that tells it to stop. -/
theorem Run.abandon_eq (run : Run) (setup : RunSetup) (engine : Engine) :
    run.abandon engine = (run.look setup true engine).1 := by
  unfold abandon look
  cases run.stage <;> rfl

/-- Whoever is busy and told to stop stops. -/
theorem Run.stage_look_of_isBusy {run : Run} (setup : RunSetup) (engine : Engine)
    (hbusy : run.isBusy = true) : (run.look setup true engine).2.stage = .cancelled := by
  unfold isBusy at hbusy
  unfold look
  split at hbusy
  case h_1 | h_2 => cases hbusy
  case h_3 => simp

/-! ### What a look at a visit comes to -/

/-- The clock, the ways to the rooms and the word on shutting down are as they were. -/
structure Director.Steady (director after : Director) : Prop where
  /-- No time has passed, -/
  now : after.engine.now = director.engine.now
  /-- no session was started or ended, -/
  current : after.current = director.current
  /-- and the director was not shut down. -/
  shutDown : after.shutDown = director.shutDown

/-- The director is shut down, and this is all that workers have heard. -/
structure Director.Hushed (heard : List Hearing) (director : Director) : Prop where
  /-- It is shut down. -/
  shutDown : director.shutDown = true
  /-- Workers have heard this. -/
  hearings : director.engine.hearings = heard

theorem Director.exists_sessionIn?_of_owns {director : Director} {room ticket : Nat}
    (h : director.owns room ticket = true) : ∃ found, director.sessionIn? room = some found := by
  unfold owns at h
  unfold sessionIn?
  cases hroom : director.rooms[room]? with
  | none => simp [hroom] at h
  | some found => exact ⟨_, rfl⟩

namespace Visit

/-- If the visit runs, it runs the plan that was made for it. -/
def Ongoing (setup : DirectorSetup) (visit : Visit) : Prop :=
  ∀ room ticket plan run, visit.stage = .running room ticket plan run →
    run.isBusy = true ∧ ∃ found, visit.Working setup found plan run

/-- The visit is not over, and if it has not begun, there is a session that it can find. -/
structure Open (director : Director) (visit : Visit) : Prop where
  /-- It is not over. -/
  goes : visit.result? = none
  /-- There is a session to be found. -/
  known : visit.stage = .fresh → director.hasSession visit.session = true

/-- The visit stands in line for a room: it has just asked for the lock, or it did before. -/
inductive InLine (director : Director) (visit : Visit) : Director → Nat → Nat → Prop where
  /-- It has found the room and asked for the lock. -/
  | asks (room : Nat) (hfresh : visit.stage = .fresh)
      (hroom : director.room? visit.session = some room) :
      InLine director visit (director.askFor room).1 room director.nextTicket
  /-- It has a number. -/
  | stays (room ticket : Nat) (hqueued : visit.stage = .queued room ticket) :
      InLine director visit director room ticket

/-- All that a look at a visit can come to. -/
inductive Looked (setup : DirectorSetup) (cancelled : Bool) (director : Director) (visit : Visit) :
    Director × Visit → Prop where
  /-- It was over before. -/
  | rests (result : Except DirectorError Answer) (hover : visit.stage = .over result) :
      Looked setup cancelled director visit (director, visit)
  /-- There is no such session. -/
  | turnedAway (hfresh : visit.stage = .fresh)
      (hnone : director.hasSession visit.session = false) :
      Looked setup cancelled director visit
        (director, { visit with stage := .over (.error (.unknownSession visit.session)) })
  /-- It waits for the lock. -/
  | waits (after : Director) (room ticket : Nat) (hopen : visit.Open director)
      (hfree : cancelled = false) (hline : visit.InLine director after room ticket)
      (hlocked : after.owns room ticket = false) :
      Looked setup cancelled director visit (after, { visit with stage := .queued room ticket })
  /-- It runs. There is less to be done than before if its alarm was due or it has moved. -/
  | runs (after : Director) (room ticket : Nat) (found : Session) (plan : Plan) (run : Run)
      (hsteady : director.Steady after) (hopen : visit.Open director) (hfree : cancelled = false)
      (hup : director.shutDown = false) (hbusy : run.isBusy = true)
      (hworking : visit.Working setup found plan run) (hleft : run.left + 1 ≤ visit.left)
      (hdue : ∀ instant, visit.alarm setup = some instant → instant ≤ director.engine.now →
        run.left + 1 < visit.left)
      (hstill : run.left + 1 = visit.left → after.rooms = director.rooms)
      (hahead : ∀ instant, run.alarm setup.run = some instant → director.engine.now < instant) :
      Looked setup cancelled director visit
        (after, { visit with stage := .running room ticket plan run })
  /-- It is stopped, by its caller or because the director is shut down. -/
  | stops (after : Director) (hsteady : director.Steady after) (hopen : visit.Open director)
      (hcause : cancelled = true ∨ director.shutDown = true) :
      Looked setup cancelled director visit
        (after, { visit with stage := .over (.error .cancelled) })
  /-- Its run is finished, and the answer is made of the results. -/
  | finishes (after seen : Director) (found : Session) (plan : Plan) (run : Run)
      (hsteady : director.Steady after) (hopen : visit.Open director) (hfree : cancelled = false)
      (hup : director.shutDown = false) (hworking : visit.Working setup found plan run)
      (hdone : run.stage = .finished) :
      Looked setup cancelled director visit
        (after, { visit with stage := .over (.ok (answerOf setup seen plan run)) })

variable {setup : DirectorSetup} {visit : Visit} {director told : Director}

/-! ### Whatever it comes to -/

section

variable {cancelled : Bool} {done : Director × Visit}

theorem InLine.steady {room ticket : Nat} (h : visit.InLine director told room ticket) :
    director.Steady told := by
  cases h <;> exact ⟨rfl, rfl, rfl⟩

theorem Looked.steady (h : visit.Looked setup cancelled director done) :
    director.Steady done.1 := by
  cases h with
  | waits after room ticket hopen hfree hline hlocked => exact hline.steady
  | runs _ _ _ _ _ _ hsteady | stops _ hsteady | finishes _ _ _ _ _ hsteady => exact hsteady
  | rests | turnedAway => exact ⟨rfl, rfl, rfl⟩

/-- A visit keeps its errand. -/
theorem Looked.errand (h : visit.Looked setup cancelled director done) :
    done.2.errand = visit.errand := by
  cases h <;> rfl

theorem Looked.ongoing (h : visit.Looked setup cancelled director done)
    (hongoing : visit.Ongoing setup) : done.2.Ongoing setup := by
  intro room ticket plan run hrunning
  cases h with
  | rests => exact hongoing room ticket plan run hrunning
  | runs after other number found planned next hsteady hopen hfree hup hbusy hworking =>
      obtain ⟨rfl, rfl, rfl, rfl⟩ := VisitStage.running.inj hrunning
      exact ⟨hbusy, found, hworking.congr rfl⟩
  | turnedAway | waits | stops | finishes => cases hrunning

/-- If the visit can go on by itself, the time for it is yet to come. -/
theorem Looked.lt_of_alarm (h : visit.Looked setup cancelled director done) {instant : Instant}
    (hset : done.2.alarm setup = some instant) : director.engine.now < instant := by
  cases h with
  | rests result hover => simp [alarm, hover] at hset
  | runs _ _ _ _ _ _ _ _ _ _ _ _ _ _ _ hahead => exact hahead instant hset
  | turnedAway | waits | stops | finishes => cases hset

theorem left_pos (hgoes : visit.result? = none) : 0 < visit.left := by
  unfold result? at hgoes
  unfold left
  split at hgoes
  case h_1 => cases hgoes
  case h_2 hstage | h_3 hstage | h_4 hstage =>
      rw [hstage]
      exact Nat.succ_pos _

/-- No more is left to be done than before, -/
theorem Looked.left_le (h : visit.Looked setup cancelled director done) :
    done.2.left ≤ visit.left := by
  cases h with
  | rests => exact Nat.le_refl _
  | waits after room ticket hopen hfree hline hlocked =>
      cases hline with
      | asks _ hfresh _ => simp [left, hfresh]
      | stays _ _ hqueued => simp [left, hqueued]
  | runs _ _ _ _ _ _ _ _ _ _ _ _ hleft => exact hleft
  | turnedAway | stops | finishes => exact Nat.zero_le _

/-- and less if an alarm is due. -/
theorem Looked.left_lt (h : visit.Looked setup cancelled director done) {instant : Instant}
    (hset : visit.alarm setup = some instant) (hover : instant ≤ director.engine.now) :
    done.2.left < visit.left := by
  cases h with
  | rests result hstage => simp [alarm, hstage] at hset
  | turnedAway hfresh hnone => simp [alarm, hfresh] at hset
  | waits after room ticket hopen hfree hline hlocked =>
      cases hline with
      | asks _ hfresh _ => simp [alarm, hfresh] at hset
      | stays _ _ hqueued => simp [alarm, hqueued] at hset
  | runs _ _ _ _ _ _ _ _ _ _ _ _ _ hdue => exact hdue instant hset hover
  | stops _ _ hopen => exact left_pos hopen.goes
  | finishes _ _ _ _ _ _ hopen => exact left_pos hopen.goes

/-- A look that gets nothing done changes no room, and whoever waits does not own the lock. -/
theorem Looked.idle (h : visit.Looked setup cancelled director done)
    (hgoes : done.2.result? = none) (hsame : done.2.left = visit.left) :
    done.1.rooms = director.rooms ∧ ∀ room ticket, done.2.stage = .queued room ticket →
      director.owns room ticket = false := by
  cases h with
  | rests result hover => simp [result?, hover] at hgoes
  | waits after room ticket hopen hfree hline hlocked =>
      cases hline with
      | asks _ hfresh _ => simp [left, hfresh] at hsame
      | stays _ _ hqueued =>
          refine ⟨rfl, fun other number hstage => ?_⟩
          obtain ⟨rfl, rfl⟩ := VisitStage.queued.inj hstage
          exact hlocked
  | runs _ _ _ _ _ _ _ _ _ _ _ _ _ _ hstill =>
      exact ⟨hstill hsame, fun _ _ hstage => by cases hstage⟩
  | turnedAway | stops | finishes => cases hgoes

end

/-! ### The look -/

/-- At a director that is shut down, the run of a visit goes no further. -/
theorem looked_proceed_of_shutDown {room ticket : Nat} {plan : Plan} {run : Run}
    (hsteady : director.Steady told) (hopen : visit.Open director) (hbusy : run.isBusy = true)
    (hdown : told.shutDown = true) :
    visit.Looked setup false director (visit.proceed setup room ticket plan run told) := by
  have hstage := Run.stage_look_of_isBusy setup.run told.engine hbusy
  have hnow := (Run.now_look setup.run run true told.engine).trans hsteady.now
  unfold proceed
  rw [hdown]
  generalize run.look setup.run true told.engine = looked at hstage hnow
  obtain ⟨engine, next⟩ := looked
  simp only at hstage
  simp only [hstage]
  exact .stops _ ⟨hnow, hsteady.current, hdown.symm.trans hsteady.shutDown⟩ hopen
    (Or.inr (hsteady.shutDown.symm.trans hdown))

/-- The run of a visit goes on, after the visit has found its way to it. -/
theorem looked_proceed {found : Session} {room ticket : Nat} {plan : Plan} {run : Run}
    (hsteady : director.Steady told) (hopen : visit.Open director) (hbusy : run.isBusy = true)
    (hworking : visit.Working setup found plan run)
    (hleft : run.left + 1 < visit.left ∨
      visit.stage = .running room ticket plan run ∧ told.rooms = director.rooms) :
    visit.Looked setup false director (visit.proceed setup room ticket plan run told) := by
  cases hdown : told.shutDown with
  | true => exact looked_proceed_of_shutDown hsteady hopen hbusy hdown
  | false =>
      have hup : director.shutDown = false := hsteady.shutDown.symm.trans hdown
      obtain ⟨-, horderly, hless, hdue⟩ :=
        @Run.look_spec setup.run run told.engine plan.tasks hworking.orderly
      have hworked : visit.Working setup found plan (run.look setup.run false told.engine).2 :=
        hworking.look rfl horderly.goes
      have hlook := (Run.now_look setup.run run false told.engine).trans hsteady.now
      have hahead := fun instant => @Run.lt_of_alarm_look setup.run run false told.engine instant
      unfold proceed
      rw [hdown]
      generalize run.look setup.run false told.engine = looked
        at horderly hless hdue hworked hlook hahead
      obtain ⟨engine, next⟩ := looked
      dsimp only at horderly hless hdue hworked hlook hahead ⊢
      cases hstage : next.stage with
      | cancelled => exact absurd hstage horderly.goes
      | finished =>
          exact .finishes _ _ found plan next ⟨hlook, hsteady.current, hup.symm⟩ hopen rfl hup
            hworked hstage
      | busy attempt todo =>
          refine .runs _ room ticket found plan next ⟨hlook, hsteady.current, hup.symm⟩ hopen rfl
            hup (by rw [Run.isBusy, hstage]) hworked ?_ ?_ ?_
            fun instant hset => hsteady.now ▸ hahead instant hset
          · rcases hleft with hroomy | ⟨hrunning, -⟩
            · omega
            · simp only [left, hrunning]
              omega
          · intro instant hset hover
            rcases hleft with hroomy | ⟨hrunning, -⟩
            · omega
            · simp only [alarm, hrunning] at hset
              simp only [left, hrunning]
              exact Nat.succ_lt_succ (hdue instant hset (hsteady.now.symm ▸ hover))
          · intro hsame
            rcases hleft with hroomy | ⟨-, hrooms⟩
            · omega
            · exact hrooms

/-- Whoever stands in line goes in or waits. -/
theorem looked_enter {room ticket : Nat} (hline : visit.InLine director told room ticket) :
    visit.Looked setup false director (visit.enter setup room ticket told) := by
  have hsteady : director.Steady told := hline.steady
  have hopen : visit.Open director := by
    cases hline with
    | asks _ hfresh hroom =>
        refine ⟨by rw [result?, hfresh], fun _ => ?_⟩
        rw [Director.hasSession, hroom]
        rfl
    | stays _ _ hqueued =>
        refine ⟨by rw [result?, hqueued], fun hfresh => ?_⟩
        rw [hqueued] at hfresh
        cases hfresh
  have hroomy : planAllowance + 2 ≤ visit.left := by
    cases hline with
    | asks _ hfresh _ => simp only [left, hfresh]; omega
    | stays _ _ hqueued => simp only [left, hqueued]; omega
  unfold enter
  cases howns : told.owns room ticket with
  | false => exact .waits told room ticket hopen rfl hline howns
  | true =>
      obtain ⟨found, hfound⟩ := Director.exists_sessionIn?_of_owns howns
      rw [hfound]
      dsimp only
      refine looked_proceed ⟨hsteady.now, hsteady.current, hsteady.shutDown⟩ hopen
        (Run.isBusy_begin (Planner.tasks_plan_ne_nil _ _ _ _) _ _ _ _)
        (working_begin setup visit found _) (Or.inl ?_)
      have hplan := Planner.total_steps_plan_le setup.planner visit.action
        (found.apply visit.snapshot) visit.draw
      rw [Run.left_begin]
      omega

/-- **All that a look at a visit comes to.** -/
theorem looked_look (hongoing : visit.Ongoing setup) (cancelled : Bool) (director : Director) :
    visit.Looked setup cancelled director (visit.look setup cancelled director) := by
  unfold look
  cases hstage : visit.stage with
  | «over» result => exact .rests result hstage
  | fresh =>
      dsimp only
      unfold arrive
      cases hroom : director.room? visit.session with
      | none => exact .turnedAway hstage (by rw [Director.hasSession, hroom]; rfl)
      | some room =>
          cases cancelled with
          | false => exact looked_enter (.asks room hstage hroom)
          | true =>
              refine .stops _ ⟨rfl, rfl, rfl⟩ ⟨by rw [result?, hstage], fun _ => ?_⟩ (Or.inl rfl)
              rw [Director.hasSession, hroom]
              rfl
  | queued room ticket =>
      cases cancelled with
      | false => exact looked_enter (.stays room ticket hstage)
      | true =>
          exact .stops _ ⟨rfl, rfl, rfl⟩
            ⟨by rw [result?, hstage], fun hfresh => by rw [hstage] at hfresh; cases hfresh⟩
            (Or.inl rfl)
  | running room ticket plan run =>
      obtain ⟨hbusy, found, hworking⟩ := hongoing room ticket plan run hstage
      have hopen : visit.Open director :=
        ⟨by rw [result?, hstage], fun hfresh => by rw [hstage] at hfresh; cases hfresh⟩
      cases cancelled with
      | false =>
          exact looked_proceed ⟨rfl, rfl, rfl⟩ hopen hbusy hworking (Or.inr ⟨hstage, rfl⟩)
      | true =>
          refine .stops _ ⟨?_, rfl, rfl⟩ hopen (Or.inl rfl)
          show (run.abandon director.engine).now = director.engine.now
          rw [Run.abandon_eq run setup.run, Run.now_look]

/-! ### Looks at a director that is shut down -/

theorem hushed_proceed {heard : List Hearing} (h : told.Hushed heard) (visit : Visit)
    (setup : DirectorSetup) (room ticket : Nat) (plan : Plan) (run : Run) :
    (visit.proceed setup room ticket plan run told).1.Hushed heard := by
  obtain ⟨hdown, rfl⟩ := h
  have hquiet := Run.hearings_look_cancelled run setup.run told.engine
  unfold proceed
  rw [hdown]
  generalize run.look setup.run true told.engine = looked at hquiet
  obtain ⟨engine, next⟩ := looked
  dsimp only at hquiet ⊢
  split <;> exact ⟨rfl, hquiet⟩

theorem hushed_enter {heard : List Hearing} (h : told.Hushed heard) (visit : Visit)
    (setup : DirectorSetup) (room ticket : Nat) :
    (visit.enter setup room ticket told).1.Hushed heard := by
  have hnotified : ∀ notice, (told.notify setup notice).Hushed heard :=
    fun _ => ⟨h.shutDown, h.hearings⟩
  unfold enter
  split
  · exact hushed_proceed (hnotified _) visit setup room ticket _ _
  · exact h

/-- Whatever visit is looked at, no worker hears anything more. -/
theorem hushed_look {heard : List Hearing} (h : director.Hushed heard) (visit : Visit)
    (setup : DirectorSetup) (cancelled : Bool) :
    (visit.look setup cancelled director).1.Hushed heard := by
  have hstopped : ∀ after : Director, after.Hushed heard →
      (visit.stopped setup after).1.Hushed heard :=
    fun _ hafter => ⟨hafter.shutDown, hafter.hearings⟩
  unfold look
  cases visit.stage with
  | «over» result => exact h
  | fresh =>
      dsimp only
      unfold arrive
      split
      case h_1 => exact h
      case h_2 room hroom =>
          have hasked : (director.askFor room).1.Hushed heard := ⟨h.shutDown, h.hearings⟩
          split
          · exact hstopped _ h
          · exact hushed_enter hasked visit setup room _
  | queued room ticket =>
      dsimp only
      split
      · exact hstopped _ ⟨h.shutDown, h.hearings⟩
      · exact hushed_enter h visit setup room ticket
  | running room ticket plan run =>
      dsimp only
      split
      · refine hstopped _ ⟨h.shutDown, ?_⟩
        rw [← h.hearings]
        show (run.abandon director.engine).hearings = director.engine.hearings
        rw [Run.abandon_eq run setup.run, Run.hearings_look_cancelled]
      · exact hushed_proceed h visit setup room ticket plan run

end Visit

end StoryDirector
