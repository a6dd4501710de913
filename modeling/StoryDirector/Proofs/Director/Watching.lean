import StoryDirector.Proofs.Director.Histories
import StoryDirector.Proofs.Director.SameEvents
import StoryDirector.Proofs.Run.News
/-!
# StoryDirector.Proofs.Director.Watching

What whoever watches a visit gets to know. **An answered visit is announced from its plan to its
completion, and one that is cancelled breaks off somewhere before the completion and says so**
(`House.watched`). Nothing is known of a visit for a session that does not exist.

The whole of the announcements follows the results of the tasks (`Visit.Announces`): a notice of the
plan, what `Progress.OfTasks` makes known of each task, and a notice of the completion. What is said
of a notice is what can be read off it, not how it was made. What is known of a visit at each stage
is `Visit.Told`, and every deed of a guest carries it on (`Guest.tells_does`), whatever the sink
refuses.

The notices of a run name the session that the run has. That this is the one that was asked for, as
long as the processor leaves identities alone, is a matter of the whole house
(`House.id_of_stands`).
-/

namespace StoryDirector

/-! ### Identities of sessions -/

/-- The processor leaves the identities of sessions alone. -/
def Processor.SparesId (process : Processor) : Prop :=
  ∀ event session, (process event session).1.id = session.id

theorem Cascade.worldProcessor_sparesId (threshold : Float32) :
    (worldProcessor threshold).SparesId := by
  intro event session
  obtain ⟨after, hprocess⟩ := worldProcessor_world threshold event session
  rw [hprocess]

theorem CascadeRules.id_integrate {rules : CascadeRules} (h : rules.process.SparesId)
    (responses : List Response) (session : Session) :
    (rules.integrate responses session).1.id = session.id :=
  @integrate_spares rules _ Session.id (fun _ _ => rfl) h responses session

theorem Run.Becomes.id {setup : RunSetup} {run next : Run} (h : Becomes setup run next)
    (hspares : setup.cascade.process.SparesId) : next.session.id = run.session.id := by
  refine h (fun next => next.session.id = run.session.id) ?_ rfl
  refine ⟨fun hid _ => hid, fun hid _ => ?_, fun hid => hid⟩
  exact (CascadeRules.id_integrate hspares _ _).trans hid

namespace House

variable {ι : Type} [DecidableEq ι] {setup : DirectorSetup} {house : House ι}

omit [DecidableEq ι] in
/-- A session that counts in a room counts in one that was made for a session. -/
theorem exists_plate_of_stands (hin : house.InOrder) {room : Nat} {session : Session}
    (h : house.Stands room session) : ∃ id, house.plates[room]? = some id := by
  cases h with
  | rests _ hsession _ =>
      obtain ⟨found, hfound, -⟩ := Option.map_eq_some_iff.mp hsession
      have inside := (List.getElem?_eq_some_iff.mp hfound).1
      rw [← hin.plated] at inside
      exact ⟨_, List.getElem?_eq_getElem inside⟩
  | runs who ticket plan run hrunning =>
      exact ⟨_, hin.shown who room (shown_of_runsIn hin ⟨ticket, plan, run, hrunning⟩)⟩

/-- A room that was made for a session stays that session's. -/
theorem plate_step {room : Nat} {id : Uuid} (h : house.plates[room]? = some id) (move : Move ι) :
    (house.step setup move).plates[room]? = some id := by
  cases move with
  | openSession session turn =>
      rw [step]
      split
      · exact (List.getElem?_append_left (List.getElem?_eq_some_iff.mp h).1).trans h
      · exact h
  | endSession | shutDown | stir | act => exact h

/-- A room that a move adds is made for the session that it starts. -/
theorem plate_openSession {room : Nat} {session id : Uuid} {turn : Nat}
    (hnew : house.plates[room]? = none)
    (h : (house.step setup (.openSession session turn)).plates[room]? = some id) :
    id = session := by
  rw [step] at h
  split at h
  · dsimp only at h
    rw [List.getElem?_append_right (List.getElem?_eq_none_iff.mp hnew)] at h
    exact List.mem_singleton.mp (List.mem_of_getElem? h)
  · rw [hnew] at h
    cases h

/-- **The session that counts in a room is the one for which the room was made.** -/
theorem id_of_stands (hspares : setup.run.cascade.process.SparesId) (engine : Engine)
    (visits : ι → Visit) (moves : List (Move ι)) {room : Nat} {session : Session}
    (h : ((opening engine visits).run setup moves).Stands room session) :
    ((opening engine visits).run setup moves).plates[room]? = some session.id := by
  have hinOrder : ∀ moves, ((opening engine visits).run setup moves).InOrder :=
    inOrder_run (inOrder_opening engine visits)
  obtain ⟨id, hplate⟩ := exists_plate_of_stands (hinOrder moves) h
  suffices hid : session.id = id by rw [hplate, hid]
  refine stands_induction (P := fun moves session => ∀ id,
    ((opening engine visits).run setup moves).plates[room]? = some id → session.id = id) ?_ moves h
    id hplate
  intro moves move session ih hchange id hplate
  rw [run_concat] at hplate
  -- A session that counted before counted in the same room.
  have hkept : ∀ before, ((opening engine visits).run setup moves).Stands room before →
      before.id = id := by
    intro before hstands
    obtain ⟨same, hsame⟩ := exists_plate_of_stands (hinOrder moves) hstands
    rw [plate_step hsame move] at hplate
    exact (ih before hstands same hsame).trans (Option.some.inj hplate)
  cases hchange with
  | starts started turn hmove hnew =>
      subst hmove
      exact (plate_openSession hnew hplate).symm
  | stays _ hstands _ => exact hkept session hstands
  | takenUp who deed found snapshot hstands _ _ => exact hkept found hstands
  | goesOn who deed ticket plan run next _ hrunning _ hbecomes =>
      exact (hbecomes.id hspares).trans (hkept _ (.runs who ticket plan run hrunning))
  | stops who deed ticket plan run _ hrunning _ =>
      exact hkept _ (.runs who ticket plan run hrunning)
  | finishes who deed ticket plan run done answer _ hrunning hlook _ =>
      have hbecomes : Run.Becomes setup.run run done := hlook ▸ Run.becomes_look run _ _
      exact (hbecomes.id hspares).trans (hkept _ (.runs who ticket plan run hrunning))

/-- Whoever owns the lock of a room finds the session there for which it came. -/
theorem id_of_owns (hspares : setup.run.cascade.process.SparesId) (engine : Engine)
    (visits : ι → Visit) (moves : List (Move ι)) {who : ι} {room ticket : Nat} {found : Session}
    (hqueued : (((opening engine visits).run setup moves).guests who).visit.stage =
      .queued room ticket)
    (howns : ((opening engine visits).run setup moves).director.owns room ticket = true)
    (hfound : ((opening engine visits).run setup moves).director.sessionIn? room = some found) :
    found.id = (visits who).session := by
  have hin : ((opening engine visits).run setup moves).InOrder :=
    inOrder_run (inOrder_opening engine visits) moves
  have hstands := id_of_stands hspares engine visits moves
    (.rests found hfound (not_runsIn_of_owns hin hqueued howns))
  have hplate := hin.shown who room (hin.placed who room ticket (Guest.place?_of_queued hqueued))
  rw [session_run, hstands] at hplate
  exact Option.some.inj hplate

end House

/-! ### What is known of a visit -/

namespace Visit

/-- The sessions that notices of a visit name: its own, if the processor leaves identities alone. -/
def Names (setup : DirectorSetup) (visit : Visit) (id : Uuid) : Prop :=
  setup.run.cascade.process.SparesId → id = visit.session

/-- Some notices are all that is made known of a visit that is answered, when it found a session,
made a plan for it, and the tasks came to some results. -/
inductive Announces (setup : DirectorSetup) (visit : Visit) (found : Session) (plan : Plan)
    (results : List TaskResult) : List Notice → Prop where
  /-- First the plan, then the tasks, and then the completion. -/
  | intro (first last : Notice) (news : List Notice)
      (hplan : plan = setup.planner.plan visit.action found visit.draw)
      (htasks : results.map (·.task) = plan.tasks)
      (hfirst : first.IsPlan visit.session plan.tasks)
      (hnews : Progress.OfTasks (visit.Names setup) plan.tasks.length results news)
      (hlast : last.IsCompletion visit.session plan.tasks.length) :
      Announces setup visit found plan results (first :: (news ++ [last]))

/-- Some notices are the beginning of what could have been made known of a visit, and not all of
it. -/
def BreaksOff (setup : DirectorSetup) (visit : Visit) (part : List Notice) : Prop :=
  ∃ found plan results whole, visit.Announces setup found plan results whole ∧ part <+: whole ∧
    part ≠ whole ∧ ∀ notice ∈ part, notice.kind ≠ .completed

variable {setup : DirectorSetup} {visit : Visit}

theorem names_session (setup : DirectorSetup) (visit : Visit) : visit.Names setup visit.session :=
  fun _ => rfl

theorem Names.integrate {session : Session} (h : visit.Names setup session.id)
    (responses : List Response) :
    visit.Names setup (setup.run.cascade.integrate responses session).1.id :=
  fun hspares => (CascadeRules.id_integrate hspares responses session).trans (h hspares)

/-- What a run of some tasks makes known, with the plan before it and the completion after it. -/
theorem announces_planned {found : Session} {plan : Plan} {results : List TaskResult}
    {news : List Notice} (hplan : plan = setup.planner.plan visit.action found visit.draw)
    (htasks : results.map (·.task) = plan.tasks)
    (hnews : Progress.OfTasks (visit.Names setup) plan.tasks.length results news) :
    visit.Announces setup found plan results
      (Progress.planned visit.session plan.tasks plan.estimate ::
        (news ++ [Progress.completed visit.session results.length])) := by
  have hlength : results.length = plan.tasks.length := by rw [← htasks, List.length_map]
  rw [hlength]
  exact .intro _ _ news hplan htasks (Progress.isPlan_planned _ _ _) hnews
    (Progress.isCompletion_completed _ _)

/-- If the processor leaves identities alone, every notice names the session of the visit. -/
theorem Announces.session_eq {found : Session} {plan : Plan} {results : List TaskResult}
    {news : List Notice} (h : visit.Announces setup found plan results news)
    (hspares : setup.run.cascade.process.SparesId) :
    ∀ notice ∈ news, notice.session = visit.session := by
  obtain ⟨first, last, middle, -, -, hfirst, hnews, hlast⟩ := h
  refine List.forall_mem_cons.mpr ⟨hfirst.about, fun notice hnotice => ?_⟩
  rcases List.mem_append.mp hnotice with hmiddle | hend
  · exact hnews.named notice hmiddle hspares
  · exact List.mem_singleton.mp hend ▸ hlast.about

/-- What is known of a visit whose run goes on breaks off before the end. -/
theorem breaksOff_planned {found : Session} {plan : Plan} {run : Run} {news : List Notice}
    (hplan : plan = setup.planner.plan visit.action found visit.draw)
    (hcontinues : run.Continues (visit.Names setup) plan.tasks news) :
    visit.BreaksOff setup (Progress.planned visit.session plan.tasks plan.estimate :: news) := by
  obtain ⟨results, rest, -, htasks, hnews⟩ := hcontinues
  refine ⟨found, plan, results, _, announces_planned hplan htasks hnews, ?_, ?_, ?_⟩
  · rw [List.append_assoc]
    exact List.cons_prefix_cons.mpr ⟨rfl, List.prefix_append _ _⟩
  · intro hsame
    have hlength := congrArg List.length hsame
    simp only [List.length_cons, List.length_append, List.length_nil] at hlength
    omega
  · intro notice hnotice
    rcases List.mem_cons.mp hnotice with rfl | hnew
    · simp [Progress.planned]
    · exact hnews.kind_ne notice (List.mem_append_left _ hnew)

/-- Nothing at all breaks off before the end. -/
theorem breaksOff_nil (setup : DirectorSetup) (visit : Visit) : visit.BreaksOff setup [] := by
  let found : Session := { id := visit.session, turn := 0 }
  let plan := setup.planner.plan visit.action found visit.draw
  have hnone : Progress.OfTasks (visit.Names setup) plan.tasks.length [] [] := .nil
  obtain ⟨results, news, htasks, hnews⟩ :=
    hnone.exists_skipped (names_session setup visit) plan.tasks
  refine ⟨found, plan, results, _, announces_planned rfl htasks hnews, List.nil_prefix, ?_, ?_⟩
  · exact (List.cons_ne_nil _ _).symm
  · intro notice hnotice
    cases hnotice

/-- So much is known of a visit that has come so far. -/
inductive Told (setup : DirectorSetup) (visit : Visit) : VisitStage → List Notice → Prop where
  /-- Nothing as long as it has no room -/
  | fresh : Told setup visit .fresh []
  /-- or waits for the lock. -/
  | queued (room ticket : Nat) : Told setup visit (.queued room ticket) []
  /-- Its plan, and what the run made known. -/
  | running (room ticket : Nat) (found : Session) (plan : Plan) (run : Run) (news : List Notice)
      (hplan : plan = setup.planner.plan visit.action found visit.draw)
      (hrecounts : Run.Recounts setup.run (visit.Names setup) plan.tasks visit.action plan.kind
        found news run) :
      Told setup visit (.running room ticket plan run)
        (Progress.planned visit.session plan.tasks plan.estimate :: news)
  /-- All there is, with the results that the answer was made of. -/
  | answered (found : Session) (plan : Plan) (results : List TaskResult) (events : List Event)
      (turn : Nat) (hitRate : Float) (news : List Notice)
      (hannounces : visit.Announces setup found plan results news) :
      Told setup visit
        (.over (.ok (Merge.answer setup.merge results events { kind := plan.kind, turn, hitRate })))
        news
  /-- Not all there would be, and that it is over. -/
  | cancelled (part : List Notice) (hpart : visit.BreaksOff setup part) :
      Told setup visit (.over (.error .cancelled)) (part ++ [Progress.cancelled visit.session])
  /-- Nothing if there is no such session. -/
  | unknown : Told setup visit (.over (.error (.unknownSession visit.session))) []

/-- Something that was done made something known, and with it so much is known of the visit. -/
def Tells (setup : DirectorSetup) (visit : Visit) (told start : List Notice)
    (done : Director × Visit) : Prop :=
  ∃ new, done.1.engine.notices = start ++ new ∧ visit.Told setup done.2.stage (told ++ new)

variable {told start : List Notice} {director : Director}

/-- Nothing was done. -/
theorem tells_rest {other : Visit} (h : visit.Told setup other.stage told) :
    visit.Tells setup told director.engine.notices (director, other) :=
  ⟨[], (List.append_nil _).symm, by rwa [List.append_nil]⟩

/-- Whoever stops makes known that it does. -/
theorem tells_stopped {new : List Notice} (hnotices : director.engine.notices = start ++ new)
    (hpart : visit.BreaksOff setup (told ++ new)) (stage : VisitStage) :
    visit.Tells setup told start (stopped { visit with stage } setup director) := by
  refine ⟨new ++ [Progress.cancelled visit.session], ?_, ?_⟩
  · show director.engine.notices ++ [Progress.cancelled visit.session] = _
    rw [hnotices, List.append_assoc]
  · rw [← List.append_assoc]
    exact .cancelled _ hpart

/-- Whoever has nothing to go on with makes known nothing but that it stops. -/
theorem tells_stopped_nil (stage : VisitStage) :
    visit.Tells setup [] director.engine.notices (stopped { visit with stage } setup director) :=
  tells_stopped (List.append_nil _).symm (breaksOff_nil setup visit) stage

section Running

variable {room ticket : Nat} {found : Session} {plan : Plan} {run : Run} {news : List Notice}
  (hplan : plan = setup.planner.plan visit.action found visit.draw)
  (hrecounts : Run.Recounts setup.run (visit.Names setup) plan.tasks visit.action plan.kind found
    news run)

include hplan hrecounts

/-- Whoever is stopped as it runs makes known that it stops. -/
theorem tells_abandoned (stage : VisitStage) :
    visit.Tells setup (Progress.planned visit.session plan.tasks plan.estimate :: news)
      director.engine.notices (stopped { visit with stage } setup
        ((Director.putBack { director with engine := run.abandon director.engine } room
          run.session).leave room ticket)) := by
  have hnotices : (run.abandon director.engine).notices = director.engine.notices := by
    unfold Run.abandon
    split
    · rfl
    · rfl
    · exact Run.notices_abandonAttempt _ _
  refine tells_stopped (hnotices.trans (List.append_nil _).symm) ?_ stage
  rw [List.append_nil]
  exact breaksOff_planned hplan hrecounts.continues

/-- **Whoever works makes known what its run does**, and its end with the run's. -/
theorem tells_proceed (stage : VisitStage) :
    visit.Tells setup (Progress.planned visit.session plan.tasks plan.estimate :: news)
      director.engine.notices
      (proceed { visit with stage } setup room ticket plan run director) := by
  obtain ⟨new, hnotices, hnext⟩ := hrecounts.look (fun responses _ hnamed => hnamed.integrate
    responses) director.shutDown director.engine
  unfold proceed
  cases hlook : run.look setup.run director.shutDown director.engine with
  | mk engine next =>
      rw [hlook] at hnotices hnext
      dsimp only at hnotices hnext ⊢
      split
      case h_1 attempt todo hbusy =>
          exact ⟨new, hnotices, .running room ticket found plan next _ hplan hnext⟩
      case h_2 hcancelled =>
          exact tells_stopped hnotices (breaksOff_planned hplan hnext.continues) stage
      case h_3 hfinished =>
          refine ⟨new ++ [Progress.completed visit.session next.ledger.results.length], ?_, ?_⟩
          · show engine.notices ++ [_] = _
            rw [hnotices, List.append_assoc]
          · obtain ⟨htasks, hnews⟩ := hnext.of_finished hfinished
            rw [← List.append_assoc, List.cons_append, List.cons_append]
            exact .answered found plan _ _ _ _ _ (announces_planned hplan htasks hnews)

end Running

end Visit

/-! ### What the deeds of a guest make known -/

namespace Guest

variable {setup : DirectorSetup} {visit : Visit} {stage : VisitStage} {shown : Option Nat}
  {told : List Notice} {director : Director}

/-- What a guest did made something known of its visit. -/
def TellsOf (setup : DirectorSetup) (visit : Visit) (told : List Notice) (director : Director)
    (done : Director × Guest) : Prop :=
  visit.Tells setup told director.engine.notices (done.1, done.2.visit)

section Deeds

variable (h : visit.Told setup stage told)

include h

theorem tells_rest :
    TellsOf setup visit told director (director, ⟨{ visit with stage }, shown⟩) :=
  Visit.tells_rest h

theorem tells_find :
    TellsOf setup visit told director (find ⟨{ visit with stage }, shown⟩ director) := by
  unfold find
  split
  case h_1 hfresh hnew =>
      obtain rfl : stage = .fresh := hfresh
      cases h
      split
      · exact ⟨[], (List.append_nil _).symm, .unknown⟩
      · exact Visit.tells_rest .fresh
  case h_2 => exact tells_rest h

theorem tells_ask :
    TellsOf setup visit told director (ask ⟨{ visit with stage }, shown⟩ director) := by
  unfold ask
  split
  case h_1 room hfresh hshown =>
      obtain rfl : stage = .fresh := hfresh
      cases h
      exact ⟨[], (List.append_nil _).symm, .queued room _⟩
  case h_2 => exact tells_rest h

theorem tells_takeUp (hfound : ∀ room ticket found, stage = .queued room ticket →
      director.owns room ticket = true → director.sessionIn? room = some found →
      visit.Names setup found.id) :
    TellsOf setup visit told director (takeUp ⟨{ visit with stage }, shown⟩ setup director) := by
  unfold takeUp
  split
  case h_1 room ticket hqueued =>
      obtain rfl : stage = .queued room ticket := hqueued
      split
      case h_1 found howns hthere =>
          have hnamed : visit.Names setup (found.apply visit.snapshot).id :=
            hfound room ticket found rfl howns hthere
          cases h
          exact ⟨[_], rfl, .running room ticket _ _ _ _ rfl (Run.recounts_begin _ hnamed _ _ _ _)⟩
      case h_2 => exact tells_rest h
  case h_2 => exact tells_rest h

theorem tells_work :
    TellsOf setup visit told director (work ⟨{ visit with stage }, shown⟩ setup director) := by
  unfold work
  split
  case h_1 room ticket plan run hrunning =>
      obtain rfl : stage = .running room ticket plan run := hrunning
      cases h with
      | running _ _ found _ _ news hplan hrecounts =>
          exact Visit.tells_proceed hplan hrecounts _
  case h_2 => exact tells_rest h

theorem tells_attend :
    TellsOf setup visit told director (attend ⟨{ visit with stage }, shown⟩ setup director) := by
  unfold attend
  split
  case h_1 room ticket plan run hrunning =>
      obtain rfl : stage = .running room ticket plan run := hrunning
      split
      case h_1 =>
          cases h with
          | running _ _ found _ _ news hplan hrecounts =>
              obtain ⟨new, hnotices, hnext⟩ := hrecounts.attend
                (fun responses _ hnamed => hnamed.integrate responses) director.engine
              exact ⟨new, hnotices, .running room ticket found plan _ _ hplan hnext⟩
      case h_2 => exact tells_work h
  case h_2 => exact tells_rest h

theorem tells_giveUp :
    TellsOf setup visit told director (giveUp ⟨{ visit with stage }, shown⟩ setup director) := by
  unfold giveUp
  split
  case h_1 room hfresh hshown =>
      obtain rfl : stage = .fresh := hfresh
      cases h
      exact Visit.tells_stopped_nil _
  case h_2 =>
      unfold Visit.look
      cases stage with
      | fresh =>
          cases h
          unfold Visit.arrive
          dsimp only
          split
          · exact ⟨[], (List.append_nil _).symm, .unknown⟩
          · exact Visit.tells_stopped_nil _
      | queued room ticket =>
          cases h
          exact Visit.tells_stopped_nil _
      | running room ticket plan run =>
          cases h with
          | running _ _ found _ _ news hplan hrecounts =>
              exact Visit.tells_abandoned hplan hrecounts _
      | _ => exact tells_rest h

/-- **Whatever a guest does is made known as it should be.** -/
theorem tells_does (hfound : ∀ room ticket found, stage = .queued room ticket →
      director.owns room ticket = true → director.sessionIn? room = some found →
      visit.Names setup found.id) (deed : Deed) :
    TellsOf setup visit told director (does setup deed ⟨{ visit with stage }, shown⟩ director) := by
  cases deed with
  | find => exact tells_find h
  | ask => exact tells_ask h
  | takeUp => exact tells_takeUp h hfound
  | attend => exact tells_attend h
  | work => exact tells_work h
  | giveUp => exact tells_giveUp h

end Deeds

end Guest

namespace House

variable {ι : Type} [DecidableEq ι] {setup : DirectorSetup} {house : House ι} {who : ι}

/-- The notices that a move of a guest sends. -/
def heralded (setup : DirectorSetup) (who : ι) (house : House ι) (move : Move ι) : List Notice :=
  match move with
  | .act mover _ =>
    if mover = who then
      (house.step setup move).director.engine.notices.drop house.director.engine.notices.length
    else []
  | .openSession _ _ | .endSession _ | .shutDown | .stir _ => []

/-- The guest keeps to the visit for which it came. -/
theorem exists_visit_eq (setup : DirectorSetup) (engine : Engine) (visits : ι → Visit)
    (moves : List (Move ι)) (who : ι) :
    ∃ stage shown, ((opening engine visits).run setup moves).guests who =
      ⟨{ visits who with stage }, shown⟩ := by
  have herrand := errand_run setup (opening engine visits) moves who
  cases hguest : ((opening engine visits).run setup moves).guests who with
  | mk visit shown =>
      rw [hguest] at herrand
      obtain ⟨hsession, haction, hsnapshot, hdraw, -⟩ := Visit.mk.inj herrand
      obtain ⟨session, action, snapshot, draw, stage⟩ := visit
      dsimp only at hsession haction hsnapshot hdraw
      subst hsession haction hsnapshot hdraw
      exact ⟨stage, shown, rfl⟩

/-- **What is known of a visit at any moment.** -/
theorem told_run (setup : DirectorSetup) (engine : Engine) (visits : ι → Visit)
    (moves : List (Move ι)) (who : ι) :
    (visits who).Told setup (((opening engine visits).run setup moves).guests who).visit.stage
      ((opening engine visits).along setup (heralded setup who) moves) := by
  induction moves using List.reverseRecOn with
  | nil => exact .fresh
  | append_singleton moves move ih =>
      rw [along_concat, run_concat]
      by_cases hmove : ∃ deed, move = .act who deed
      · obtain ⟨deed, rfl⟩ := hmove
        obtain ⟨stage, shown, hguest⟩ := exists_visit_eq setup engine visits moves who
        rw [hguest] at ih
        have hfound : ∀ room ticket found, stage = .queued room ticket →
            ((opening engine visits).run setup moves).director.owns room ticket = true →
            ((opening engine visits).run setup moves).director.sessionIn? room = some found →
            (visits who).Names setup found.id := by
          intro room ticket found hqueued howns hthere hspares
          refine id_of_owns hspares engine visits moves ?_ howns hthere
          rw [hguest, ← hqueued]
        obtain ⟨new, hnotices, htold⟩ := @Guest.tells_does setup (visits who) stage shown _
          ((opening engine visits).run setup moves).director ih hfound deed
        rw [← hguest] at hnotices htold
        have hheralded : heralded setup who ((opening engine visits).run setup moves)
            (.act who deed) = new := by
          simp only [heralded, if_pos, step, moved]
          rw [hnotices, List.drop_left]
        rw [hheralded, step, guests_moved, if_pos rfl]
        exact htold
      · have hother : ∀ deed, move ≠ .act who deed := fun deed heq => hmove ⟨deed, heq⟩
        have hnone : heralded setup who ((opening engine visits).run setup moves) move = [] := by
          unfold heralded
          split
          case h_1 mover deed =>
              rw [if_neg]
              rintro rfl
              exact hother deed rfl
          all_goals rfl
        rw [guests_step_of_ne hother, hnone, List.append_nil]
        exact ih

/-- **Whoever watches a visit is told of it from its plan to its completion.** If it is answered,
the notices are all there is to tell of the results that the answer was made of. If it is cancelled,
they break off before the completion, and the last one says so. If it is refused for another reason,
there are none. As long as it is under way, they are the beginning of what there is to tell. -/
theorem watched (setup : DirectorSetup) (engine : Engine) (visits : ι → Visit)
    (moves : List (Move ι)) (who : ι) :
    let visit := visits who
    let told := (opening engine visits).along setup (heralded setup who) moves
    let result := (((opening engine visits).run setup moves).guests who).visit.result?
    (∀ answer, result = some (.ok answer) → ∃ found plan results events turn hitRate,
      visit.Announces setup found plan results told ∧
        answer = Merge.answer setup.merge results events { kind := plan.kind, turn, hitRate }) ∧
    (result = some (.error .cancelled) → ∃ part last, told = part ++ [last] ∧
      last.IsCancellation visit.session ∧ visit.BreaksOff setup part) ∧
    (∀ error, error ≠ .cancelled → result = some (.error error) → told = []) ∧
    (result = none → visit.BreaksOff setup told) := by
  intro visit told result
  have htold : visit.Told setup
      (((opening engine visits).run setup moves).guests who).visit.stage told :=
    told_run setup engine visits moves who
  have hstage : ∀ outcome, result = some outcome →
      (((opening engine visits).run setup moves).guests who).visit.stage = .over outcome :=
    fun _ hover => Visit.result?_eq_some.mp hover
  refine ⟨?_, ?_, ?_, ?_⟩
  · intro answer hover
    rw [hstage _ hover] at htold
    cases htold with
    | answered found plan results events turn hitRate _ hannounces =>
        exact ⟨found, plan, results, events, turn, hitRate, hannounces, rfl⟩
  · intro hover
    rw [hstage _ hover] at htold
    generalize told = notices at htold ⊢
    cases htold with
    | cancelled part hpart =>
        exact ⟨part, _, rfl, Progress.isCancellation_cancelled visit.session, hpart⟩
  · intro error hne hover
    rw [hstage _ hover] at htold
    generalize told = notices at htold ⊢
    cases htold with
    | cancelled part hpart => exact absurd rfl hne
    | unknown => rfl
  · intro hgoes
    have hopen : (((opening engine visits).run setup moves).guests who).visit.result? = none :=
      hgoes
    unfold Visit.result? at hopen
    generalize told = notices at htold ⊢
    generalize (((opening engine visits).run setup moves).guests who).visit.stage = stage
      at htold hopen
    cases htold with
    | fresh => exact Visit.breaksOff_nil setup visit
    | queued room ticket => exact Visit.breaksOff_nil setup visit
    | running room ticket found plan run news hplan hrecounts =>
        exact Visit.breaksOff_planned hplan hrecounts.continues
    | answered | cancelled | unknown => cases hopen

end House

/-- Workers who take a second to say nothing. -/
def Registry.dawdlers : Registry where
  workers := WorkerKind.all.map fun kind =>
    { kind,
      reply _ _ := { delay := Duration.ofSeconds 1, outcome := .responded { worker := kind } } }

namespace House

/-- Someone gives up while a worker is busy. -/
def interrupted (session : Uuid) : List (Move Unit) :=
  answered session ++ [.act () .giveUp]

/-- Whoever asks for help is told of the plan, of the one task and its worker, that one of one task
is done, and of the completion, all for its session. Whoever gives up while the worker is busy is
told of no progress after the call, and that it gave up. -/
theorem watched_plea :
    let helped := DirectorSetup.of {} Registry.heralds
    let slow := DirectorSetup.of {} Registry.dawdlers
    let start := opening (Engine.create {} {}) fun _ : Unit => Visit.plea
    let told := start.along helped (heralded helped ()) (answered ⟨7⟩)
    let broken := start.along slow (heralded slow ()) (interrupted ⟨7⟩)
    told.map (·.kind) =
        [.progress, .taskStarted, .workerCallStarted, .progress, .completed] ∧
      (told.map fun notice => (notice.detail? "tasks_done").bind Json.whole?) =
        [none, none, none, some 1, none] ∧
      (told.map fun notice => (notice.detail? "tasks_total").bind Json.whole?) =
        [none, none, none, some 1, none] ∧
      (∀ notice ∈ told, notice.session = ⟨7⟩) ∧
      broken.map (·.kind) = [.progress, .taskStarted, .workerCallStarted, .error] ∧
      ∃ part last, broken = part ++ [last] ∧ last.IsCancellation ⟨7⟩ ∧
        Visit.plea.BreaksOff slow part := by
  intro helped slow start told broken
  have hanswered : ((start.run helped (answered ⟨7⟩)).guests ()).visit.answer?.isSome = true := by
    decide +kernel
  obtain ⟨answer, hanswer⟩ := Option.isSome_iff_exists.mp hanswered
  obtain ⟨found, plan, results, -, -, -, hannounces, -⟩ :=
    (watched helped (Engine.create {} {}) (fun _ : Unit => Visit.plea) (answered ⟨7⟩) ()).1 answer
      (Visit.result?_of_answer? hanswer)
  have hspares : helped.run.cascade.process.SparesId := Cascade.worldProcessor_sparesId _
  have hcancelled : ((start.run slow (interrupted ⟨7⟩)).guests ()).visit.refusal? =
      some .cancelled := by
    decide +kernel
  exact ⟨by decide +kernel, by decide +kernel, by decide +kernel, hannounces.session_eq hspares,
    by decide +kernel, (watched slow (Engine.create {} {}) (fun _ : Unit => Visit.plea)
      (interrupted ⟨7⟩) ()).2.1 (Visit.result?_of_refusal? hcancelled)⟩

end House

end StoryDirector
