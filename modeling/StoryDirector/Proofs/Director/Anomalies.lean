import StoryDirector.Proofs.Director.SameEvents
import StoryDirector.Proofs.Director.Histories
import StoryDirector.Proofs.Plan.Story
/-!
# StoryDirector.Proofs.Director.Anomalies

**After an anomaly no other is planned until the session has forgotten it**
(`House.no_repeated_anomaly`), and it forgets nothing until as many events have followed as it
remembers. Events come into the memory of a session from responses, from workers' reports and from
the cascade, in runs that finish and in runs that are stopped midway; snapshots do not touch it.

The history of a room is what the new results of the run there bring, move by move
(`House.recording`), and `House.retains_events` says that the session remembers the end of that. The
planner asks that memory and nothing else.
-/

namespace StoryDirector

/-! ### Plans with an anomaly -/

/-- Putting tasks in order drops dependencies and nothing else. -/
theorem Task.mem_inOrder {tasks : List Task} {task : Task} (h : task ∈ inOrder tasks) :
    ∃ given ∈ tasks, resolve tasks given = task := by
  have hsome : some task ∈ (inOrder tasks).map some := List.mem_map_of_mem h
  rw [map_some_inOrder] at hsome
  obtain ⟨place, -, hplace⟩ := List.mem_map.mp hsome
  have hranked : task ∈ ranking tasks := List.mem_of_getElem? hplace
  exact List.mem_map.mp ((isRanking_ranked _).perm.mem_iff.mp hranked)

/-- Tasks of templates go by their identities. -/
theorem Template.name_eq_id (kind : ActionKind) (action : PlayerAction) (world : World) :
    ∀ task ∈ tasks kind action world, task.name = task.id := by
  have henvironment : (environmentCheck action).name = (environmentCheck action).id := by
    unfold environmentCheck
    cases destination? action <;> rfl
  cases kind with
  | movement | combat | quest =>
      rw [tasks]
      split <;> simp [check, narrative, henvironment]
  | dialogue | exploration | itemUse | skillUse | systemCommand | unknown =>
      simp [tasks, check, narrative]

namespace Planner

variable {planner : Planner} {action : PlayerAction} {session : Session} {draw : Float32}
  {task : Task}

theorem name_eq_id (h : task ∈ (planner.plan action session draw).tasks) : task.name = task.id := by
  obtain ⟨given, hgiven, rfl⟩ := Task.mem_inOrder h
  show given.name = given.id
  rcases List.mem_append.mp hgiven with htemplate | hanomaly
  · exact Template.name_eq_id _ _ _ given htemplate
  · obtain ⟨chance, rfl⟩ := exists_chance (Option.mem_toList.mp hanomaly)
    rfl

/-- As long as an anomaly is remembered, none is planned. -/
theorem id_ne_of_recent (hrecent : session.hasRecentAnomaly = true)
    (h : task ∈ (planner.plan action session draw).tasks) : task.id ≠ anomalyName := by
  obtain ⟨others, story, hstory⟩ := planner.exists_story action session draw
  have hnone : anomaly? planner.settings session draw = none := by
    rw [anomaly?, if_pos hrecent]
  rw [hnone] at hstory
  exact fun hname => absurd ((hstory.anomalous task h).mp hname) List.not_mem_nil

end Planner

/-! ### What a contribution adds to the memory -/

theorem CascadeRules.events_fed {rules : CascadeRules} (h : rules.process.Worldly)
    (contributions : List (List Response)) (session : Session) :
    (rules.fed contributions session).events =
      session.events.recordAll (rules.recorded contributions session) := by
  obtain ⟨after, events, hlives⟩ :=
    lives_fed h contributions session.turn session.world session.recorded
  have hlife := hlives session session.seen_self
  rw [show rules.recorded contributions session = events from congrArg Prod.fst hlife,
    show rules.fed contributions session = _ from congrArg Prod.snd hlife]
  rfl

namespace House

variable {ι : Type} [DecidableEq ι] {setup : DirectorSetup} {house : House ι} {who : ι} {room : Nat}
  {move : Move ι}

/-- The run of a guest as a move leaves it, whether it goes on, finishes or is stopped. -/
def runAfter (setup : DirectorSetup) (house : House ι) (move : Move ι) (who : ι)
    (run : Run) : Run :=
  match ((house.step setup move).guests who).visit.stage with
  | .running _ _ _ next => next
  | .over (.ok _) => (run.look setup.run house.director.shutDown house.director.engine).2
  | .fresh | .queued _ _ | .over (.error _) => run

/-- The events that the new results of a run bring to its session. -/
def newEvents (setup : DirectorSetup) (run next : Run) : List Event :=
  setup.run.cascade.recorded
    ((next.ledger.results.drop run.ledger.results.length).map (·.responses)) run.session

/-- The events that are recorded in a room by a move. -/
def recording (setup : DirectorSetup) (room : Nat) (house : House ι) (move : Move ι) :
    List Event :=
  match move with
  | .act who _ =>
    match (house.guests who).visit.stage with
    | .running elsewhere _ _ run =>
      if elsewhere = room then newEvents setup run (runAfter setup house move who run) else []
    | .fresh | .queued _ _ | .over _ => []
  | _ => []

theorem recording_of_running {deed : Deed} {ticket : Nat} {plan : Plan} {run : Run}
    (hrunning : (house.guests who).visit.stage = .running room ticket plan run) :
    recording setup room house (.act who deed) =
      newEvents setup run (runAfter setup house (.act who deed) who run) := by
  simp [recording, hrunning]

/-- Events are recorded in a room by whoever runs there. -/
theorem recording_eq_nil
    (h : ∀ who deed, move = .act who deed → ¬ (house.guests who).RunsIn room) :
    recording setup room house move = [] := by
  unfold recording
  split
  case h_2 => rfl
  case h_1 who deed =>
      split
      case h_2 | h_3 | h_4 => rfl
      case h_1 elsewhere ticket plan run hrunning =>
          refine if_neg ?_
          rintro rfl
          exact h who deed rfl ⟨ticket, plan, run, hrunning⟩

end House

/-- What looks make of a run adds its new events to the memory of the session. -/
theorem Run.Becomes.events {setup : DirectorSetup} {run next : Run}
    (h : Becomes setup.run run next) (hworldly : setup.run.cascade.process.Worldly) :
    next.session.events = run.session.events.recordAll (House.newEvents setup run next) := by
  obtain ⟨new, hresults, hsession⟩ := h.exists_new
  rw [hsession, CascadeRules.events_fed hworldly, House.newEvents, hresults, List.drop_left]

namespace House

variable {ι : Type} [DecidableEq ι] {setup : DirectorSetup}

/-- The session that counts in a room remembers the latest of the events that were recorded
there. -/
theorem retains_events (hworldly : setup.run.cascade.process.Worldly) (engine : Engine)
    (visits : ι → Visit) (moves : List (Move ι)) {room : Nat} {session : Session}
    (h : ((opening engine visits).run setup moves).Stands room session) :
    session.events.Retains (max setup.memory.recentEvents 1)
      ((opening engine visits).along setup (recording setup room) moves) := by
  refine stands_induction (P := fun moves session =>
    session.events.Retains (max setup.memory.recentEvents 1)
      ((opening engine visits).along setup (recording setup room) moves)) ?_ moves h
  intro moves move session ih hchange
  let before := (opening engine visits).run setup moves
  rw [along_concat]
  -- Whoever runs in the room brings the events that the run has then recorded.
  have hruns : ∀ {who : ι} {deed ticket plan} {run next : Run}, move = .act who deed →
      (before.guests who).visit.stage = .running room ticket plan run →
      runAfter setup before move who run = next → Run.Becomes setup.run run next →
      next.session.events.Retains (max setup.memory.recentEvents 1)
        ((opening engine visits).along setup (recording setup room) moves ++
          recording setup room before move) := by
    rintro who deed ticket plan run next rfl hrunning rfl hbecomes
    rw [recording_of_running hrunning, hbecomes.events hworldly]
    exact (ih _ (.runs who ticket plan run hrunning)).recordAll _
  cases hchange with
  | starts id turn hmove hnew =>
      subst hmove
      rw [along_eq_nil (fun _ _ hidle => recording_eq_nil fun who _ _ => hidle who) engine visits
        moves hnew]
      exact (Session.retains_started setup.memory id turn).2
  | stays _ hstands hothers =>
      rw [recording_eq_nil hothers, List.append_nil]
      exact ih _ hstands
  | takenUp who deed found snapshot hstands hmove hidle =>
      have hnone : recording setup room before move = [] := recording_eq_nil fun other _ heq => by
        obtain ⟨rfl, -⟩ := Move.act.inj (hmove.symm.trans heq)
        exact hidle
      have hretains := ih _ hstands
      rw [hnone, List.append_nil]
      exact hretains
  | goesOn who deed ticket plan run next hmove hrunning hnext hbecomes =>
      exact hruns hmove hrunning (by rw [runAfter, hnext]) hbecomes
  | stops who deed ticket plan run hmove hrunning hover =>
      exact hruns hmove hrunning (by rw [runAfter, hover]) (.refl run)
  | finishes who deed ticket plan run done answer hmove hrunning hlook hover =>
      have hbecomes : Run.Becomes setup.run run done := hlook ▸ Run.becomes_look run _ _
      exact hruns hmove hrunning (by rw [runAfter, hover]; exact hlook) hbecomes

/-- **After an anomaly no other is planned until the session has forgotten it.** Someone takes up
its action in a room and plans. If fewer events have been recorded there since an event of the
anomaly family than a session remembers, its plan injects no anomaly, whatever planner, draws,
snapshots and workers there are. -/
theorem no_repeated_anomaly {threshold : Float32}
    (hstandard : setup.run.cascade.process = Cascade.worldProcessor threshold) (engine : Engine)
    (visits : ι → Visit) (moves : List (Move ι)) (who : ι) (deed : Deed) {room ticket : Nat}
    {plan : Plan} {run : Run}
    (hidle : ¬ (((opening engine visits).run setup moves).guests who).RunsIn room)
    (hplans :
      (((opening engine visits).run setup (moves ++ [.act who deed])).guests who).visit.stage =
        .running room ticket plan run)
    {earlier later : List Event} {event : Event}
    (hhistory : (opening engine visits).along setup (recording setup room) moves =
      earlier ++ event :: later)
    (hanomalous : event.isAnomalous = true)
    (hrecent : later.length < max setup.memory.recentEvents 1) :
    ∀ task ∈ plan.tasks, task.name ≠ Planner.anomalyName ∧ task.id ≠ Planner.anomalyName := by
  let house := (opening engine visits).run setup moves
  have hworldly : setup.run.cascade.process.Worldly := by
    rw [hstandard]
    exact Cascade.worldProcessor_worldly threshold
  have hin : house.InOrder := (reached_run setup engine visits moves).1
  obtain ⟨done, hturn, hstep⟩ := exists_turn setup house who deed
  rw [run_concat, hstep, guests_moved, if_pos rfl] at hplans
  obtain ⟨found, htakes⟩ := hturn.exists_takesUp hidle hplans
  have hstands : house.Stands room found :=
    .rests found htakes.there (not_runsIn_of_owns hin htakes.queued htakes.owns)
  have hretains := retains_events hworldly engine visits moves hstands
  -- The event is still among those that are remembered when the plan is made.
  have hremembered : event ∈ found.events.entries := by
    by_contra hgone
    exact Nat.not_lt_of_le (hretains.le_of_not_mem hhistory hgone) hrecent
  have hanomaly : (found.apply (house.guests who).visit.snapshot).hasRecentAnomaly = true :=
    List.any_eq_true.mpr ⟨event, hremembered, hanomalous⟩
  intro task htask
  rw [htakes.planned] at htask
  rw [Planner.name_eq_id htask]
  exact ⟨Planner.id_ne_of_recent hanomaly htask, Planner.id_ne_of_recent hanomaly htask⟩

end House

/-! ### An anomaly that is reported -/

/-- Whoever sees omens reports an anomaly. -/
def Registry.omens : Registry :=
  uniform fun worker => { worker, events := [{ id := .known ⟨3⟩, kind := .anomaly }] }

namespace House

/-- Someone asks for help and gets an answer, and then someone else comes for the same session. -/
def foretold (session : Uuid) : List (Move Bool) :=
  [.openSession session 1, .act false .find, .act false .ask, .act false .takeUp,
   .act false .work, .act true .find, .act true .ask]

/-- Whoever comes after omens were seen plans no anomaly. -/
theorem no_repeated_anomaly_omens :
    let setup := DirectorSetup.of {} Registry.omens
    let house := (opening (Engine.create {} {}) fun _ : Bool => Visit.plea).run setup
      (foretold ⟨7⟩ ++ [.act true .takeUp])
    ∃ plan run, (house.guests true).visit.stage = .running 0 1 plan run ∧
      ∀ task ∈ plan.tasks, task.name ≠ Planner.anomalyName ∧ task.id ≠ Planner.anomalyName := by
  intro setup house
  let start := opening (Engine.create {} {}) fun _ : Bool => Visit.plea
  -- The first of them brought one event, and the second owned the lock only then.
  have hhistory : (start.along setup (recording setup 0) (foretold ⟨7⟩)).map Event.isAnomalous =
      [true] := by decide +kernel
  obtain ⟨event, hevents, hanomalous⟩ := List.map_eq_singleton_iff.mp hhistory
  have hidle : ¬ ((start.run setup (foretold ⟨7⟩)).guests true).RunsIn 0 := by decide +kernel
  have hheld : (house.guests true).held? = some (0, 1) := by decide +kernel
  obtain ⟨plan, run, hplans⟩ := Guest.held?_eq_some.mp hheld
  have hlast : start.along setup (recording setup 0) (foretold ⟨7⟩) = [] ++ event :: [] := hevents
  exact ⟨plan, run, hplans, no_repeated_anomaly rfl (Engine.create {} {})
    (fun _ : Bool => Visit.plea) (foretold ⟨7⟩) true .takeUp hidle hplans hlast hanomalous
    (by decide)⟩

end House

end StoryDirector
