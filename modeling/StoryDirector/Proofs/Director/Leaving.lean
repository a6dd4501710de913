import StoryDirector.Proofs.Director.Exclusion
import StoryDirector.Proofs.Plan.Dependencies
import StoryDirector.Proofs.Run.Ending
import StoryDirector.Proofs.Run.Feedback
/-!
# StoryDirector.Proofs.Director.Leaving

What a guest leaves behind. **Of all its moves only the one that ends its visit can change a
session, and only the one in its own room** (`House.exists_endsBy`, `Guest.Turn.ending`). Whatever
it does not change stays as it was found, since no one else runs in the room.

A guest that is cancelled leaves the session at the boundary of a task: with the snapshot applied,
and the responses of the first tasks of the plan fed back, all of each or nothing
(`House.cancelled_at_boundary`).

The invariant is `Guest.AtWork`: the session in the room is still the one that was found, the plan
was made for it, the run follows the plan (`Run.Orderly`), and the run's own session is what the
responses so far made of it (`Run.Fed`).
-/

namespace StoryDirector

/-! ### Plans have tasks -/

theorem Template.tasks_ne_nil (kind : ActionKind) (action : PlayerAction) (world : World) :
    Template.tasks kind action world ≠ [] := by
  cases kind with
  | movement | combat | quest =>
      rw [Template.tasks]
      split <;> exact List.cons_ne_nil _ _
  | dialogue | exploration | itemUse | skillUse | systemCommand | unknown =>
      exact List.cons_ne_nil _ _

/-- Putting tasks in order loses none of them. -/
theorem Task.length_inOrder (tasks : List Task) : (inOrder tasks).length = tasks.length := by
  have hsome : (inOrder tasks).map some =
      (places tasks).map fun place => (ranking tasks)[place]? := map_some_inOrder
  have hplaces := congrArg List.length hsome
  rw [List.length_map, List.length_map, perm_places.length_eq, List.length_range] at hplaces
  rw [hplaces, ranking, (isRanking_ranked _).perm.length_eq, List.length_map]

theorem Planner.tasks_plan_ne_nil (planner : Planner) (action : PlayerAction) (session : Session)
    (draw : Float32) : (planner.plan action session draw).tasks ≠ [] := by
  rw [← List.length_pos_iff]
  simp only [plan, Task.length_inOrder, List.length_append]
  exact Nat.add_pos_left (List.length_pos_iff.mpr (Template.tasks_ne_nil _ _ _)) _

/-! ### Runs that follow a plan -/

namespace Run

/-- A run stays orderly until someone stops it. -/
theorem keeps_orderly (setup : RunSetup) (tasks : List Task) :
    Keeps setup fun _ run => run.stage ≠ .cancelled → run.Orderly tasks where
  going := by
    intro engine after run attempt next todo h hlook _
    have horderly := h RunStage.noConfusion
    obtain ⟨-, hattempted⟩ :=
      lookAttempt_spec setup run engine (horderly.sound attempt todo rfl)
    rw [hlook] at hattempted
    obtain ⟨htask, hsound, -⟩ := hattempted.going next rfl
    have hfollows : run.ledger.results.map (·.task) ++ attempt.task :: todo = tasks :=
      horderly.follows
    rw [← htask] at hfollows
    exact orderly_busy run hfollows horderly.lawful hsound
  ended := by
    intro engine after run attempt result todo h hlook _
    have horderly := h RunStage.noConfusion
    obtain ⟨-, hattempted⟩ :=
      lookAttempt_spec setup run engine (horderly.sound attempt todo rfl)
    rw [hlook] at hattempted
    obtain ⟨htask, hvain⟩ := hattempted.ended result rfl
    rw [← htask] at hvain
    have hlawful : (run.record setup result).ledger.Lawful :=
      Ledger.lawful_record horderly.lawful hvain
    have hfollows : run.ledger.results.map (·.task) ++ attempt.task :: todo = tasks :=
      horderly.follows
    have hresults : (run.record setup result).ledger.results.map (·.task) ++ todo = tasks := by
      rw [results_record, List.map_append, List.append_assoc, ← hfollows, ← htask]
      rfl
    cases todo with
    | nil =>
        rw [List.append_nil] at hresults
        exact orderly_finished (run.record setup result) hresults hlawful
    | cons task rest => exact orderly_busy (run.record setup result) hresults hlawful trivial
  stopped := fun _ hgoes => absurd rfl hgoes

theorem stage_ne_cancelled_of_busy {run : Run} (h : run.isBusy = true) :
    run.stage ≠ .cancelled := by
  intro hstage
  rw [isBusy, hstage] at h
  cases h

theorem pending_ne_nil_of_busy {run : Run} (h : run.isBusy = true) : run.pending ≠ [] := by
  rw [isBusy] at h
  rw [pending]
  split at h
  case h_1 | h_2 => cases h
  case h_3 hstage =>
      rw [hstage]
      exact List.cons_ne_nil _ _

theorem isBusy_begin {tasks : List Task} (h : tasks ≠ []) (action : PlayerAction)
    (kind : ActionKind) (session : Session) (now : Instant) :
    (begin tasks action kind session now).isBusy = true := by
  cases tasks with
  | nil => exact absurd rfl h
  | cons task rest => rfl

end Run

/-! ### Visits at the boundary of a task -/

namespace Visit

variable {setup : DirectorSetup} {visit other : Visit} {found : Session} {plan : Plan} {run : Run}

/-- The run of a visit that found a session in its room has done all tasks of its plan but `rest`,
and its session is the one that was found, with the snapshot applied and the responses fed back. -/
structure AtBoundary (setup : DirectorSetup) (visit : Visit) (found : Session) (run : Run)
    (rest : List Task) : Prop where
  /-- The results belong to the first tasks of the plan. -/
  tasks : run.ledger.results.map (·.task) ++ rest =
    (setup.planner.plan visit.action (found.apply visit.snapshot) visit.draw).tasks
  /-- The session is what their responses made of the one that was found. -/
  session : run.session =
    setup.run.cascade.fed (run.ledger.results.map (·.responses)) (found.apply visit.snapshot)

/-- The run of a visit that found a session in its room is under way. -/
structure Working (setup : DirectorSetup) (visit : Visit) (found : Session) (plan : Plan)
    (run : Run) : Prop where
  /-- The plan was made for that session with the snapshot applied, -/
  planned : plan = setup.planner.plan visit.action (found.apply visit.snapshot) visit.draw
  /-- the run follows it, -/
  orderly : run.Orderly plan.tasks
  /-- and the responses so far were fed back. -/
  fed : run.Fed setup.run.cascade (found.apply visit.snapshot)

/-- How far the visit has come otherwise does not matter for that. -/
theorem Working.congr (h : visit.Working setup found plan run)
    (herrand : visit.errand = other.errand) : other.Working setup found plan run := by
  obtain ⟨session, action, snapshot, draw, stage⟩ := visit
  obtain ⟨_, _, _, _, _⟩ := other
  obtain ⟨rfl, rfl, rfl, rfl, -⟩ := Visit.mk.inj herrand
  exact ⟨h.planned, h.orderly, h.fed⟩

theorem Working.atBoundary (h : visit.Working setup found plan run) :
    visit.AtBoundary setup found run run.pending where
  tasks := h.orderly.follows.trans (congrArg Plan.tasks h.planned)
  session := h.fed.session

theorem working_begin (setup : DirectorSetup) (visit : Visit) (found : Session) (now : Instant) :
    let session := found.apply visit.snapshot
    let plan := setup.planner.plan visit.action session visit.draw
    visit.Working setup found plan
      (Run.begin plan.tasks visit.action plan.kind session now) where
  planned := rfl
  orderly := Run.orderly_begin _ _ _ _ _
  fed := Run.fed_begin _ _ _ _ _ _

/-- A look at the run that does not stop it keeps it under way. -/
theorem Working.look (h : visit.Working setup found plan run) {cancelled : Bool}
    {engine seen : Engine} {next : Run}
    (hlook : run.look setup.run cancelled engine = (seen, next)) (hgoes : next.stage ≠ .cancelled) :
    visit.Working setup found plan next := by
  obtain rfl : (run.look setup.run cancelled engine).2 = next := congrArg Prod.snd hlook
  exact ⟨h.planned,
    Run.look_induction (Run.keeps_orderly setup.run plan.tasks) cancelled (fun _ => h.orderly)
      hgoes,
    Run.look_induction (Run.keeps_fed setup.run _) cancelled h.fed⟩

theorem Working.attend (h : visit.Working setup found plan run) {engine : Engine}
    (hgoes : (run.attend setup.run engine).2.stage ≠ .cancelled) :
    visit.Working setup found plan (run.attend setup.run engine).2 where
  planned := h.planned
  orderly := Run.attend_induction (Run.keeps_orderly setup.run plan.tasks) (fun _ => h.orderly)
    hgoes
  fed := Run.attend_induction (Run.keeps_fed setup.run _) h.fed

theorem result?_eq_some {result : Except DirectorError Answer} :
    visit.result? = some result ↔ visit.stage = .over result := by
  rw [result?]
  cases visit.stage <;> simp

end Visit

/-! ### Sessions in their rooms -/

namespace Director

variable (director : Director)

/-- Whoever puts a session back and leaves changes that room's session only. -/
theorem sessionIn?_giveBack (room ticket : Nat) (session : Session) :
    ((director.putBack room session).leave room ticket).sessionIn? =
      Function.update director.sessionIn? room
        ((director.sessionIn? room).map fun _ => session) := by
  funext elsewhere
  rw [sessionIn?_leave, sessionIn?_putBack, Function.update_apply]
  rcases eq_or_ne room elsewhere with rfl | hne
  · rw [if_pos rfl]
  · rw [if_neg hne, if_neg hne.symm]

/-- A new room leaves the sessions in the others alone. -/
theorem sessionIn?_open {room : Nat} {session : Session}
    (h : director.sessionIn? room = some session) (current : List (Uuid × Nat)) (added : Room) :
    sessionIn? { director with current, rooms := director.rooms ++ [added] } room =
      some session := by
  obtain ⟨kept, hkept, hsession⟩ := Option.map_eq_some_iff.mp h
  rw [sessionIn?, List.getElem?_append_left (List.getElem?_eq_some_iff.mp hkept).1, hkept]
  exact congrArg some hsession

end Director

namespace Guest

variable {setup : DirectorSetup} {director : Director} {guest : Guest} {done : Director × Guest}

/-- The session in the room of a guest that runs is the one that the guest found there. -/
def AtWork (setup : DirectorSetup) (director : Director) (guest : Guest) : Prop :=
  ∀ room ticket plan run, guest.visit.stage = .running room ticket plan run →
    ∃ found, director.sessionIn? room = some found ∧
      guest.visit.Working setup found plan run ∧ run.isBusy = true

theorem Turn.atWork (h : Turn setup director guest done) (hwork : guest.AtWork setup director) :
    done.2.AtWork setup done.1 := by
  intro room ticket plan run hrunning
  cases h with
  | rests => exact hwork room ticket plan run hrunning
  | finds other hfresh hnew hroom =>
      rw [hfresh] at hrunning
      cases hrunning
  | takesUp other number found planned engine hqueued howns hfound hplan =>
      obtain ⟨rfl, rfl, rfl, rfl⟩ := VisitStage.running.inj hrunning
      subst hplan
      have hworking := Visit.working_begin setup guest.visit found engine.now
      exact ⟨found, hfound, hworking.congr rfl,
        Run.isBusy_begin (Planner.tasks_plan_ne_nil _ _ _ _) _ _ _ _⟩
  | pauses other number planned before hbefore hbusy =>
      obtain ⟨rfl, rfl, rfl, rfl⟩ := VisitStage.running.inj hrunning
      obtain ⟨found, hfound, hworking, -⟩ := hwork _ _ _ _ hbefore
      have hattended := hworking.attend (Run.stage_ne_cancelled_of_busy hbusy)
      exact ⟨found, hfound, hattended.congr rfl, hbusy⟩
  | goesOn other number planned before next engine hbefore hlook hbusy =>
      obtain ⟨rfl, rfl, rfl, rfl⟩ := VisitStage.running.inj hrunning
      obtain ⟨found, hfound, hworking, -⟩ := hwork _ _ _ _ hbefore
      have hlooked := hworking.look hlook (Run.stage_ne_cancelled_of_busy hbusy)
      exact ⟨found, hfound, hlooked.congr rfl, hbusy⟩
  | leaves | asks | turnsBack | stops | finishes => cases hrunning

/-- A guest that is over does nothing more. -/
theorem Turn.eq_of_over (h : Turn setup director guest done) {result : Except DirectorError Answer}
    (hover : guest.visit.result? = some result) : done = (director, guest) := by
  rw [Visit.result?_eq_some] at hover
  cases h with
  | rests => rfl
  | leaves _ _ hstage | finds _ hstage _ _ | asks _ hstage _ | turnsBack _ _ _ hstage
  | takesUp _ _ _ _ _ hstage _ _ _ | pauses _ _ _ _ hstage _ | goesOn _ _ _ _ _ _ hstage _ _
  | stops _ _ _ _ _ hstage | finishes _ _ _ _ _ _ _ hstage _ _ =>
      rw [hstage] at hover
      cases hover

/-- As long as a guest is not over, it leaves every session alone. -/
theorem Turn.sessionIn?_of_goes (h : Turn setup director guest done)
    (hgoes : done.2.visit.result? = none) : done.1.sessionIn? = director.sessionIn? := by
  cases h with
  | rests | finds | takesUp | pauses | goesOn => rfl
  | asks room hfresh hshown => exact funext (director.sessionIn?_askFor room)
  | leaves | turnsBack | stops | finishes => cases hgoes

/-- How a guest ends. -/
inductive Ending (setup : DirectorSetup) (director : Director) (guest : Guest) (after : Director) :
    Except DirectorError Answer → Prop where
  /-- It never ran, and leaves every session alone. -/
  | turnedAway (error : DirectorError) (hsame : after.sessionIn? = director.sessionIn?) :
      Ending setup director guest after (.error error)
  /-- It is stopped, and puts the session back as the run left it. -/
  | stopped (room ticket : Nat) (plan : Plan) (run : Run)
      (hrunning : guest.visit.stage = .running room ticket plan run)
      (hback : after.sessionIn? = Function.update director.sessionIn? room
        ((director.sessionIn? room).map fun _ => run.session)) :
      Ending setup director guest after (.error .cancelled)
  /-- Its run finishes, and it puts the session back with the action remembered. -/
  | finished (room ticket : Nat) (plan : Plan) (run done : Run) (seen : Engine)
      (hrunning : guest.visit.stage = .running room ticket plan run)
      (hlook : run.look setup.run director.shutDown director.engine = (seen, done))
      (hdone : done.stage = .finished)
      (hback : after.sessionIn? = Function.update director.sessionIn? room
        ((director.sessionIn? room).map fun _ => done.session.recordAction guest.visit.action)) :
      Ending setup director guest after
        (.ok (Visit.answerOf setup { director with engine := seen } plan done))

theorem Turn.ending (h : Turn setup director guest done) (hgoes : guest.visit.result? = none)
    {result : Except DirectorError Answer} (hover : done.2.visit.result? = some result) :
    Ending setup director guest done.1 result := by
  cases h with
  | rests =>
      rw [hgoes] at hover
      cases hover
  | finds room hfresh hnew hroom =>
      rw [Visit.result?_eq_some, hfresh] at hover
      cases hover
  | leaves engine error hfresh =>
      obtain rfl := Option.some.inj hover
      exact .turnedAway error rfl
  | turnsBack room ticket engine hqueued =>
      obtain rfl := Option.some.inj hover
      exact .turnedAway .cancelled (funext (director.sessionIn?_leave room ticket))
  | stops room ticket plan run engine hrunning =>
      obtain rfl := Option.some.inj hover
      exact .stopped room ticket plan run hrunning (director.sessionIn?_giveBack room ticket _)
  | finishes room ticket plan run ended seen engine hrunning hlook hdone =>
      obtain rfl := Option.some.inj hover
      exact .finished room ticket plan run ended seen hrunning hlook hdone
        (director.sessionIn?_giveBack room ticket _)
  | asks | takesUp | pauses | goesOn => cases hover

/-- A guest touches no session but the one in the room in which it runs. -/
theorem Turn.sessionIn?_of_not_runsIn (h : Turn setup director guest done) {room : Nat}
    (hout : ¬ guest.RunsIn room) : done.1.sessionIn? room = director.sessionIn? room := by
  have hother : ∀ {other ticket plan run}, guest.visit.stage = .running other ticket plan run →
      room ≠ other := by
    rintro other ticket plan run hrunning rfl
    exact hout ⟨ticket, plan, run, hrunning⟩
  cases hafter : done.2.visit.result? with
  | none => rw [h.sessionIn?_of_goes hafter]
  | some result =>
      cases hbefore : guest.visit.result? with
      | some earlier => rw [h.eq_of_over hbefore]
      | none =>
          cases h.ending hbefore hafter with
          | turnedAway error hsame => rw [hsame]
          | stopped other ticket plan run hrunning hback =>
              rw [hback, Function.update_of_ne (hother hrunning)]
          | finished other ticket plan run ended seen hrunning hlook hdone hback =>
              rw [hback, Function.update_of_ne (hother hrunning)]

end Guest

namespace House

variable {ι : Type} [DecidableEq ι] {setup : DirectorSetup} {house : House ι} {who : ι}

/-- Every guest that runs is at work on the session that it found. -/
def AtWork (setup : DirectorSetup) (house : House ι) : Prop :=
  ∀ who, (house.guests who).AtWork setup house.director

omit [DecidableEq ι] in
theorem atWork_opening (setup : DirectorSetup) (engine : Engine) (visits : ι → Visit) :
    (opening engine visits).AtWork setup :=
  fun _ _ _ _ _ hrunning => by cases hrunning

theorem atWork_step (hin : house.InOrder) (h : house.AtWork setup) (move : Move ι) :
    (house.step setup move).AtWork setup := by
  refine step_induction (P := fun after => after.AtWork setup) ?_ (fun _ => h) h (fun _ => h) ?_ h
    move
  · intro session fresh _ who room ticket plan run hrunning
    obtain ⟨found, hfound, hworking⟩ := h who room ticket plan run hrunning
    exact ⟨found, house.director.sessionIn?_open hfound _ _, hworking⟩
  · intro mover done hturn who
    rw [guests_moved]
    split
    case isTrue => exact hturn.atWork (h mover)
    case isFalse hother =>
        intro room ticket plan run hrunning
        -- The one who moves does not run in the same room.
        have hout : ¬ (house.guests mover).RunsIn room := fun hmover =>
          hother (eq_of_runsIn hin ⟨ticket, plan, run, hrunning⟩ hmover)
        obtain ⟨found, hfound, hworking⟩ := h who room ticket plan run hrunning
        exact ⟨found, (hturn.sessionIn?_of_not_runsIn hout).trans hfound, hworking⟩

theorem reached_run (setup : DirectorSetup) (engine : Engine) (visits : ι → Visit)
    (moves : List (Move ι)) :
    ((opening engine visits).run setup moves).InOrder ∧
      ((opening engine visits).run setup moves).AtWork setup :=
  run_induction (P := fun house => house.InOrder ∧ house.AtWork setup)
    (fun _ move h => ⟨inOrder_step h.1 move, atWork_step h.1 h.2 move⟩)
    ⟨inOrder_opening engine visits, atWork_opening setup engine visits⟩ moves

/-! ### The move that ends a visit -/

/-- A guest that does not move stays as it is. -/
theorem guests_step_of_ne {move : Move ι} (h : ∀ deed, move ≠ .act who deed) :
    (house.step setup move).guests who = house.guests who := by
  cases move with
  | openSession session turn =>
      rw [step]
      split <;> rfl
  | endSession session => rfl
  | shutDown => rfl
  | stir engine => rfl
  | act mover deed =>
      have hother : who ≠ mover := fun heq => h deed (by rw [heq])
      rw [step, guests_moved, if_neg hother]

variable {result : Except DirectorError Answer}

theorem result?_step (setup : DirectorSetup)
    (h : (house.guests who).visit.result? = some result) (move : Move ι) :
    ((house.step setup move).guests who).visit.result? = some result := by
  by_cases hmove : ∃ deed, move = .act who deed
  · obtain ⟨deed, rfl⟩ := hmove
    obtain ⟨done, hturn, hstep⟩ := exists_turn setup house who deed
    rw [hstep, guests_moved, if_pos rfl, hturn.eq_of_over h]
    exact h
  · rw [guests_step_of_ne fun deed heq => hmove ⟨deed, heq⟩]
    exact h

/-- A guest that is over stays over. -/
theorem result?_run (setup : DirectorSetup)
    (h : (house.guests who).visit.result? = some result) (moves : List (Move ι)) :
    ((house.run setup moves).guests who).visit.result? = some result :=
  run_induction (P := fun after => (after.guests who).visit.result? = some result)
    (fun _ move hbefore => result?_step setup hbefore move) h moves

/-- None of a guest's own moves touches a session. -/
def Spares (setup : DirectorSetup) (house : House ι) (who : ι) (moves : List (Move ι)) : Prop :=
  ∀ before deed after, moves = before ++ .act who deed :: after →
    (house.run setup (before ++ [.act who deed])).director.sessionIn? =
      (house.run setup before).director.sessionIn?

theorem spares_of_over (h : (house.guests who).visit.result? = some result)
    (moves : List (Move ι)) : house.Spares setup who moves := by
  intro before deed after _
  obtain ⟨done, hturn, hstep⟩ := exists_turn setup (house.run setup before) who deed
  rw [run_concat, hstep, moved, hturn.eq_of_over (result?_run setup h before)]

theorem spares_of_goes {moves : List (Move ι)}
    (h : ((house.run setup moves).guests who).visit.result? = none) :
    house.Spares setup who moves := by
  rintro before deed after rfl
  obtain ⟨done, hturn, hstep⟩ := exists_turn setup (house.run setup before) who deed
  rw [run_concat, hstep]
  refine hturn.sessionIn?_of_goes ?_
  -- If it were over here, it would be over in the end.
  cases hover : done.2.visit.result? with
  | none => rfl
  | some result =>
      have hmoved : ((house.run setup (before ++ [.act who deed])).guests who).visit.result? =
          some result := by
        rw [run_concat, hstep, guests_moved, if_pos rfl, hover]
      have hends := result?_run setup hmoved after
      rw [← run_append, List.append_assoc, List.singleton_append, h] at hends
      cases hends

/-- A guest comes to a result by one of its own moves, and its moves before and after that touch no
session. -/
structure EndsBy (setup : DirectorSetup) (house : House ι) (who : ι)
    (result : Except DirectorError Answer) (before : List (Move ι)) (deed : Deed)
    (after : List (Move ι)) : Prop where
  /-- Before the move it has no result, -/
  goes : ((house.run setup before).guests who).visit.result? = none
  /-- and then it has. -/
  ended : ((house.run setup (before ++ [.act who deed])).guests who).visit.result? = some result
  /-- Its moves before touch no session, -/
  early : house.Spares setup who before
  /-- and neither do those after. -/
  late : (house.run setup (before ++ [.act who deed])).Spares setup who after

/-- Whoever comes to a result does so by one move of its own. -/
theorem exists_endsBy {moves : List (Move ι)} (hstart : (house.guests who).visit.result? = none)
    (hover : ((house.run setup moves).guests who).visit.result? = some result) :
    ∃ before deed after, moves = before ++ .act who deed :: after ∧
      house.EndsBy setup who result before deed after := by
  induction moves using List.reverseRecOn with
  | nil =>
      have hnone : ((house.run setup []).guests who).visit.result? = none := hstart
      rw [hnone] at hover
      cases hover
  | append_singleton moves move ih =>
      cases hbefore : ((house.run setup moves).guests who).visit.result? with
      | some earlier =>
          -- It was over before this move, and with the same result.
          have hsame := result?_step setup hbefore move
          rw [← run_concat, hover] at hsame
          obtain rfl := Option.some.inj hsame
          obtain ⟨before, deed, after, rfl, hends⟩ := ih hbefore
          exact ⟨before, deed, after ++ [move], by simp, hends.goes, hends.ended, hends.early,
            spares_of_over hends.ended _⟩
      | none =>
          -- This move ended it, and only its own moves can.
          by_cases hmove : ∃ deed, move = .act who deed
          · obtain ⟨deed, rfl⟩ := hmove
            exact ⟨moves, deed, [], rfl, hbefore, hover, spares_of_goes hbefore,
              spares_of_over hover _⟩
          · rw [run_concat, guests_step_of_ne fun deed heq => hmove ⟨deed, heq⟩, hbefore] at hover
            cases hover

/-- How the visit ends in that move. -/
theorem EndsBy.ending {before after : List (Move ι)} {deed : Deed}
    (h : house.EndsBy setup who result before deed after) :
    Guest.Ending setup (house.run setup before).director ((house.run setup before).guests who)
      (house.run setup (before ++ [.act who deed])).director result := by
  obtain ⟨done, hturn, hstep⟩ := exists_turn setup (house.run setup before) who deed
  have hended := h.ended
  rw [run_concat, hstep] at hended ⊢
  rw [guests_moved, if_pos rfl] at hended
  exact hturn.ending h.goes hended

/-- In a room that was made for a session, one takes the place of another, and all other rooms are
left alone. -/
structure Exchanges (house left : House ι) (session : Uuid) (room : Nat) (found after : Session) :
    Prop where
  /-- The room was made for the session. -/
  plate : house.plates[room]? = some session
  /-- This was found in it, -/
  found : house.director.sessionIn? room = some found
  /-- and that is left in it and nothing else changed. -/
  left : left.director.sessionIn? = Function.update house.director.sessionIn? room (some after)

omit [DecidableEq ι] in
/-- Whoever puts a session back does so in the room of its visit's session, and its run is under way
there. -/
theorem exists_exchanges (hin : house.InOrder) (hwork : house.AtWork setup) {left : House ι}
    {room ticket : Nat} {plan : Plan} {run : Run} {after : Session}
    (hrunning : (house.guests who).visit.stage = .running room ticket plan run)
    (hback : left.director.sessionIn? = Function.update house.director.sessionIn? room
      ((house.director.sessionIn? room).map fun _ => after)) :
    ∃ found, house.Exchanges left (house.guests who).visit.session room found after ∧
      (house.guests who).visit.Working setup found plan run ∧ run.isBusy = true := by
  obtain ⟨found, hfound, hworking⟩ := hwork who room ticket plan run hrunning
  refine ⟨found, ⟨?_, hfound, ?_⟩, hworking⟩
  · exact hin.shown who room (hin.placed who room ticket (Guest.place?_of_running hrunning))
  · rw [hback, hfound, Option.map_some]

/-- No lock is kept by a guest: each is free, or someone else who stands in line for it owns it. -/
def FreeOf (house : House ι) (who : ι) : Prop :=
  ∀ room lock, house.director.lockOf? room = some lock → lock.owner = none ∨
    ∃ other ticket, other ≠ who ∧ (house.guests other).place? = some (room, ticket) ∧
      lock.ownedBy ticket = true

omit [DecidableEq ι] in
theorem freeOf_of_over (hin : house.InOrder)
    (hover : (house.guests who).visit.result? = some result) : house.FreeOf who := by
  intro room lock hlock
  rcases hin.seating.free_or_owned hlock with hfree | ⟨other, ticket, hplace, howned⟩
  · exact Or.inl hfree
  · refine Or.inr ⟨other, ticket, ?_, hplace, howned⟩
    rintro rfl
    rw [Visit.result?_eq_some] at hover
    rw [Guest.place?, hover] at hplace
    cases hplace

/-- A guest that runs stops at the boundary of a task, with others to follow, and puts the session
back as its run left it. -/
def StopsAtBoundary (setup : DirectorSetup) (house left : House ι) (who : ι) (visit : Visit) :
    Prop :=
  ∃ room ticket plan run found rest,
    (house.guests who).visit.stage = .running room ticket plan run ∧
    house.Exchanges left visit.session room found run.session ∧
    visit.AtBoundary setup found run rest ∧ rest ≠ [] ∧
    (setup.run.cascade.process.SparesActions → run.session.actions = found.actions)

/-- **A visit that is cancelled stops at the boundary of a task.** By one of its own moves it came
to be over; its other moves touched no session, and that one touched none, or it put the session of
the visit back with the snapshot applied and the responses of the first tasks of the plan fed back,
some task being left. No action was remembered, and no lock is kept. -/
theorem cancelled_at_boundary (setup : DirectorSetup) (engine : Engine) (visits : ι → Visit)
    (moves : List (Move ι)) (who : ι)
    (hcancelled : (((opening engine visits).run setup moves).guests who).visit.result? =
      some (.error .cancelled)) :
    ((opening engine visits).run setup moves).FreeOf who ∧
    ∃ before deed after, moves = before ++ .act who deed :: after ∧
      (opening engine visits).EndsBy setup who (.error .cancelled) before deed after ∧
      let house := (opening engine visits).run setup before
      let left := (opening engine visits).run setup (before ++ [.act who deed])
      left.director.sessionIn? = house.director.sessionIn? ∨
        house.StopsAtBoundary setup left who (visits who) := by
  have hreached := reached_run setup engine visits
  refine ⟨freeOf_of_over (hreached moves).1 hcancelled, ?_⟩
  obtain ⟨before, deed, after, hmoves, hends⟩ := exists_endsBy rfl hcancelled
  refine ⟨before, deed, after, hmoves, hends, ?_⟩
  cases hends.ending with
  | turnedAway error hsame => exact Or.inl hsame
  | stopped room ticket plan run hrunning hback =>
      right
      obtain ⟨hin, hwork⟩ := hreached before
      obtain ⟨found, hexchanges, hworking, hbusy⟩ := exists_exchanges hin hwork hrunning hback
      rw [session_run] at hexchanges
      have hwhose : (visits who).Working setup found plan run :=
        hworking.congr (errand_run setup (opening engine visits) before who)
      have hboundary := hwhose.atBoundary
      refine ⟨room, ticket, plan, run, found, run.pending, hrunning, hexchanges,
        hboundary, Run.pending_ne_nil_of_busy hbusy, fun hspares => ?_⟩
      rw [hboundary.session]
      exact CascadeRules.actions_fed hspares _ _

/-- A guest gives up its run while another waits for the same room. -/
def givenUp (session : Uuid) : List (Move Bool) :=
  [.openSession session 1, .act false .find, .act false .ask, .act false .takeUp, .act true .find,
   .act true .ask, .act false .giveUp]

/-- It stops at the boundary of a task, and the lock is the other's. -/
theorem cancelled_at_boundary_givenUp :
    let setup := DirectorSetup.of {} {}
    let visit : Visit := { session := ⟨7⟩, action := { text := "look" }, snapshot := { turn := 2 } }
    let start := opening (Engine.create {} {}) fun _ : Bool => visit
    let ended := start.run setup (givenUp ⟨7⟩)
    (ended.guests false).visit.result? = some (.error .cancelled) ∧
    (ended.director.lockOf? 0).map (·.owner) = some (some 1) ∧ ended.FreeOf false ∧
    ∃ before deed after, givenUp ⟨7⟩ = before ++ .act false deed :: after ∧
      start.EndsBy setup false (.error .cancelled) before deed after ∧
      let house := start.run setup before
      let left := start.run setup (before ++ [.act false deed])
      left.director.sessionIn? = house.director.sessionIn? ∨
        house.StopsAtBoundary setup left false visit :=
  ⟨rfl, rfl, cancelled_at_boundary (DirectorSetup.of {} {}) (Engine.create {} {})
    (fun _ : Bool => { session := ⟨7⟩, action := { text := "look" }, snapshot := { turn := 2 } })
    (givenUp ⟨7⟩) false rfl⟩

end House

end StoryDirector
