import StoryDirector.Proofs.Director.Histories
import StoryDirector.Proofs.Director.SameEvents
import StoryDirector.Proofs.Run.Hearing
/-!
# StoryDirector.Proofs.Director.Actions

**No action is lost and none is remembered twice** (`House.actions_remembered`). However visits wait
for each other, give up or are stopped midway, a session remembers at every moment the latest
actions of those whose runs have finished in its room, in the order in which they finished; and
whoever is called by a run is shown the end of that.

Snapshots replace the world and the turn only, and feeding contributions back is no action, as long
as the processor leaves the actions alone. So the list changes by the one move that finishes a run.
-/

namespace StoryDirector

/-! ### What the workers of a run are shown -/

namespace Run

variable {setup : RunSetup} {run next : Run} {engine : Engine} {tasks : List Task}
  {action : PlayerAction} {kind : ActionKind} {session : Session} {call : Call}

/-- Every worker that is called is shown the session of the run. -/
theorem Briefed.view_of_mem_calls (h : Briefed setup tasks action kind session run)
    (hcall : call ∈ run.calls setup engine) :
    call.briefing.view = SceneView.of setup.view run.session := by
  unfold calls at hcall
  split at hcall
  case h_1 | h_2 => cases hcall
  case h_3 attempt todo hstage =>
      have htold := told_called (h.informed attempt todo hstage) engine
      obtain ⟨prior, hbriefing⟩ := htold.exists_prior hcall
      rw [hbriefing, Run.briefing]

/-- A run that looks are made at leaves the actions of its session alone. -/
theorem Becomes.actions (h : Becomes setup run next)
    (hspares : setup.cascade.process.SparesActions) :
    next.session.actions = run.session.actions := by
  obtain ⟨new, -, hsession⟩ := h.exists_new
  rw [hsession, CascadeRules.actions_fed hspares]

/-- Whoever the run calls from now on is shown these texts of earlier actions. -/
def Shows (setup : RunSetup) (run : Run) (texts : List String) : Prop :=
  ∀ next engine, Becomes setup run next → ∀ call ∈ next.calls setup engine,
    call.briefing.view.actions = texts

end Run

namespace Guest

variable {setup : DirectorSetup} {director : Director} {guest : Guest} {done : Director × Guest}

/-- The run of the guest, if there is one, came of its plan. -/
def Begun (setup : DirectorSetup) (guest : Guest) : Prop :=
  ∀ room ticket plan run, guest.visit.stage = .running room ticket plan run → ∃ session now,
    Run.Becomes setup.run (Run.begin plan.tasks guest.visit.action plan.kind session now) run

theorem Turn.begun (h : Turn setup director guest done) (hbegun : guest.Begun setup) :
    done.2.Begun setup := by
  intro room ticket plan run hrunning
  cases h with
  | rests => exact hbegun room ticket plan run hrunning
  | finds _ hfresh _ _ =>
      rw [hfresh] at hrunning
      cases hrunning
  | takesUp other number found planned engine _ _ _ _ =>
      obtain ⟨rfl, rfl, rfl, rfl⟩ := VisitStage.running.inj hrunning
      exact ⟨_, _, .refl _⟩
  | pauses other number planned before hbefore hbusy =>
      obtain ⟨rfl, rfl, rfl, rfl⟩ := VisitStage.running.inj hrunning
      obtain ⟨session, now, hcame⟩ := hbegun _ _ _ _ hbefore
      exact ⟨session, now, fun P hP hrun => Run.becomes_attend _ _ P hP (hcame P hP hrun)⟩
  | goesOn other number planned before next engine hbefore hlook hbusy =>
      obtain ⟨rfl, rfl, rfl, rfl⟩ := VisitStage.running.inj hrunning
      obtain ⟨session, now, hcame⟩ := hbegun _ _ _ _ hbefore
      refine ⟨session, now, fun P hP hrun => ?_⟩
      have hlooked := Run.becomes_look before director.shutDown director.engine P hP
        (hcame P hP hrun)
      rwa [hlook] at hlooked
  | leaves | asks | turnsBack | stops | finishes => cases hrunning

end Guest

namespace House

variable {ι : Type} [DecidableEq ι] {setup : DirectorSetup} {house : House ι} {who : ι}

theorem begun_run (setup : DirectorSetup) (engine : Engine) (visits : ι → Visit)
    (moves : List (Move ι)) (who : ι) :
    (((opening engine visits).run setup moves).guests who).Begun setup := by
  refine run_induction (P := fun house => ∀ who, (house.guests who).Begun setup) ?_
    (fun _ _ _ _ _ hrunning => by cases hrunning) moves who
  intro house move h
  refine step_induction (P := fun house => ∀ who, (house.guests who).Begun setup)
    (fun _ _ _ => h) (fun _ => h) h (fun _ => h) (fun mover done hturn who => ?_) h move
  rw [guests_moved]
  split
  · exact hturn.begun (h mover)
  · exact h who

/-! ### Whose runs have finished -/

/-- Whoever finishes its run in a room by a move. -/
def finishing (setup : DirectorSetup) (room : Nat) (house : House ι) (move : Move ι) : List ι :=
  match move with
  | .act who _ =>
    match (house.guests who).visit.stage, ((house.step setup move).guests who).visit.stage with
    | .running elsewhere _ _ _, .over (.ok _) => if elsewhere = room then [who] else []
    | _, _ => []
  | _ => []

theorem finishing_of_running {deed : Deed} {room ticket : Nat} {plan : Plan} {run : Run}
    {answer : Answer} (hrunning : (house.guests who).visit.stage = .running room ticket plan run)
    (hover : ((house.step setup (.act who deed)).guests who).visit.stage = .over (.ok answer)) :
    finishing setup room house (.act who deed) = [who] := by
  simp [finishing, hrunning, hover]

/-- Whoever finishes a run had it in the room and has an answer. -/
theorem of_mem_finishing {room : Nat} {move : Move ι}
    (h : who ∈ finishing setup room house move) :
    finishing setup room house move = [who] ∧ (∃ deed, move = .act who deed) ∧
      (house.guests who).RunsIn room ∧
      ∃ answer, ((house.step setup move).guests who).visit.stage = .over (.ok answer) := by
  unfold finishing at h
  split at h
  case h_2 => cases h
  case h_1 mover deed =>
      split at h
      case h_2 => cases h
      case h_1 elsewhere ticket plan run answer hrunning hover =>
          split at h
          case isFalse => cases h
          case isTrue hroom =>
              subst hroom
              obtain rfl := List.mem_singleton.mp h
              exact ⟨finishing_of_running hrunning hover, ⟨deed, rfl⟩,
                ⟨ticket, plan, run, hrunning⟩, answer, hover⟩

theorem finishing_eq_nil {room : Nat} {move : Move ι}
    (h : ∀ who deed, move = .act who deed → ¬ (house.guests who).RunsIn room ∨
      ∀ answer, ((house.step setup move).guests who).visit.stage ≠ .over (.ok answer)) :
    finishing setup room house move = [] := by
  refine List.eq_nil_iff_forall_not_mem.mpr fun who hwho => ?_
  obtain ⟨-, ⟨deed, hmove⟩, hruns, answer, hover⟩ := of_mem_finishing hwho
  rcases h who deed hmove with hidle | hnever
  · exact hidle hruns
  · exact hnever answer hover

/-- Someone has finished its run in a room and has an answer. -/
def AnsweredIn (house : House ι) (room : Nat) (who : ι) : Prop :=
  (house.guests who).shown = some room ∧
    ∃ answer, (house.guests who).visit.result? = some (.ok answer)

/-- A move makes those finish who have an answer after it and had none before. -/
theorem answeredIn_step (hin : house.InOrder) (room : Nat) (move : Move ι) (who : ι) :
    (house.step setup move).AnsweredIn room who ↔
      house.AnsweredIn room who ∨ who ∈ finishing setup room house move := by
  by_cases hmove : ∃ deed, move = .act who deed
  · obtain ⟨deed, rfl⟩ := hmove
    obtain ⟨done, hturn, hstep⟩ := exists_turn setup house who deed
    have hguest : (house.step setup (.act who deed)).guests who = done.2 := by
      rw [hstep, guests_moved, if_pos rfl]
    cases hbefore : (house.guests who).visit.result? with
    | some result =>
        -- Whoever is over does nothing.
        have hsame := hturn.eq_of_over hbefore
        have hnone : who ∉ finishing setup room house (.act who deed) := by
          intro hmem
          obtain ⟨-, -, ⟨ticket, plan, run, hrunning⟩, -⟩ := of_mem_finishing hmem
          rw [Visit.result?, hrunning] at hbefore
          cases hbefore
        simp [AnsweredIn, hguest, hsame, hnone]
    | none =>
        have hnever : ¬ house.AnsweredIn room who := by
          rintro ⟨-, answer, hanswer⟩
          rw [hbefore] at hanswer
          cases hanswer
        simp only [hnever, false_or]
        constructor
        · rintro ⟨hshown, answer, hanswer⟩
          have hover := Visit.result?_eq_some.mp hanswer
          rw [hguest] at hanswer
          cases hturn.ending hbefore hanswer with
          | finished elsewhere ticket plan run ended seen hrunning _ _ _ =>
              -- It was shown the room in which it ran.
              have hruns : (house.guests who).RunsIn elsewhere := ⟨ticket, plan, run, hrunning⟩
              have hsame : done.2.shown = (house.guests who).shown := by
                rcases hturn.shown with hsame | ⟨_, hnew, -, -⟩
                · exact hsame
                · rw [shown_of_runsIn hin hruns] at hnew
                  cases hnew
              rw [hguest, hsame, shown_of_runsIn hin hruns] at hshown
              obtain rfl := Option.some.inj hshown
              rw [finishing_of_running hrunning hover]
              exact List.mem_singleton_self who
        · intro hmem
          obtain ⟨-, -, hruns, answer, hover⟩ := of_mem_finishing hmem
          refine ⟨?_, answer, Visit.result?_eq_some.mpr hover⟩
          rcases hturn.shown with hsame | ⟨_, hnew, -, -⟩
          · rw [hguest, hsame, shown_of_runsIn hin hruns]
          · rw [shown_of_runsIn hin hruns] at hnew
            cases hnew
  · -- Whoever does not move stays as it is.
    have hsame : (house.step setup move).guests who = house.guests who :=
      guests_step_of_ne fun deed heq => hmove ⟨deed, heq⟩
    have hnone : who ∉ finishing setup room house move := by
      intro hmem
      exact hmove (of_mem_finishing hmem).2.1
    simp [AnsweredIn, hsame, hnone]

/-- Those who have finished a run in a room are those who have an answer from there, each once. -/
theorem answered_along (setup : DirectorSetup) (engine : Engine) (visits : ι → Visit)
    (moves : List (Move ι)) (room : Nat) :
    ((opening engine visits).along setup (finishing setup room) moves).Nodup ∧
      ∀ who, who ∈ (opening engine visits).along setup (finishing setup room) moves ↔
        ((opening engine visits).run setup moves).AnsweredIn room who := by
  induction moves using List.reverseRecOn with
  | nil =>
      refine ⟨List.nodup_nil, fun who => ⟨fun h => absurd h List.not_mem_nil, ?_⟩⟩
      rintro ⟨hshown, -⟩
      cases hshown
  | append_singleton moves move ih =>
      obtain ⟨hnodup, hmem⟩ := ih
      have hin := (reached_run setup engine visits moves).1
      refine ⟨?_, fun who => ?_⟩
      · rw [along_concat]
        refine List.nodup_append.mpr ⟨hnodup, ?_, ?_⟩
        · cases hlist : finishing setup room ((opening engine visits).run setup moves) move with
          | nil => exact List.nodup_nil
          | cons first rest =>
              have hfirst := of_mem_finishing (hlist ▸ List.mem_cons_self :
                first ∈ finishing setup room ((opening engine visits).run setup moves) move)
              rw [← hlist, hfirst.1]
              exact List.nodup_singleton first
        · rintro who hold _ hnew rfl
          obtain ⟨-, answer, hanswer⟩ := (hmem who).mp hold
          obtain ⟨-, -, ⟨ticket, plan, run, hrunning⟩, -⟩ := of_mem_finishing hnew
          rw [Visit.result?, hrunning] at hanswer
          cases hanswer
      · rw [along_concat, run_concat, answeredIn_step hin, List.mem_append, hmem]

/-! ### What is remembered -/

/-- The session that counts in a room remembers the latest of the actions whose runs have finished
there. -/
theorem retains_actions {setup : DirectorSetup}
    (hspares : setup.run.cascade.process.SparesActions) (engine : Engine) (visits : ι → Visit)
    (moves : List (Move ι)) {room : Nat} {session : Session}
    (h : ((opening engine visits).run setup moves).Stands room session) :
    session.actions.Retains (max setup.memory.recentActions 1)
      (((opening engine visits).along setup (finishing setup room) moves).map
        fun who => (visits who).action) := by
  refine stands_induction (P := fun moves session =>
    session.actions.Retains (max setup.memory.recentActions 1)
      (((opening engine visits).along setup (finishing setup room) moves).map
        fun who => (visits who).action)) ?_ moves h
  intro moves move session ih hchange
  rw [along_concat, List.map_append]
  cases hchange with
  | starts id turn hmove hnew =>
      have hnone : (opening engine visits).along setup (finishing setup room) moves = [] :=
        along_eq_nil (fun _ _ hidle => finishing_eq_nil fun who _ _ => Or.inl (hidle who))
          engine visits moves hnew
      subst hmove
      rw [hnone]
      exact (Session.retains_started setup.memory id turn).1
  | stays _ hstands hothers =>
      rw [finishing_eq_nil fun who deed hmove => Or.inl (hothers who deed hmove)]
      simpa using ih _ hstands
  | takenUp who deed found snapshot hstands hmove hidle =>
      rw [finishing_eq_nil fun other _ heq => Or.inl (by
        obtain ⟨rfl, -⟩ := Move.act.inj (hmove.symm.trans heq)
        exact hidle)]
      have hretains := ih _ hstands
      rw [List.map_nil, List.append_nil]
      exact hretains
  | goesOn who deed ticket plan run next hmove hrunning hnext hbecomes =>
      rw [finishing_eq_nil fun other _ heq => Or.inr (by
        obtain ⟨rfl, -⟩ := Move.act.inj (hmove.symm.trans heq)
        rw [hnext]
        exact fun _ => VisitStage.noConfusion), hbecomes.actions hspares]
      simpa using ih _ (.runs who ticket plan run hrunning)
  | stops who deed ticket plan run hmove hrunning hover =>
      rw [finishing_eq_nil fun other _ heq => Or.inr (by
        obtain ⟨rfl, -⟩ := Move.act.inj (hmove.symm.trans heq)
        rw [hover]
        intro answer hanswer
        cases hanswer)]
      simpa using ih _ (.runs who ticket plan run hrunning)
  | finishes who deed ticket plan run done answer hmove hrunning hlook hover =>
      subst hmove
      have hbecomes : Run.Becomes setup.run run done := hlook ▸ Run.becomes_look run _ _
      have haction := congrArg Visit.action (errand_run setup (opening engine visits) moves who)
      rw [finishing_of_running hrunning hover]
      have hretains := ih _ (.runs who ticket plan run hrunning)
      rw [← hbecomes.actions hspares] at hretains
      exact haction ▸ hretains.record _

/-- **No action is lost and none is remembered twice.** In every room, those who have finished their
runs are those who found the room and have an answer, each once; the session that counts there
remembers the latest of their actions, in the order in which they finished, and whoever a run in the
room calls is shown the last five of these. -/
theorem actions_remembered (settings : Settings) (registry : Registry) {cascade : CascadeRules}
    (hspares : cascade.process.SparesActions) (refusal : Notice → Option SinkError)
    (engine : Engine) (visits : ι → Visit) (moves : List (Move ι)) (room : Nat) :
    let setup := DirectorSetup.of settings registry cascade refusal
    let house := (opening engine visits).run setup moves
    let finished := (opening engine visits).along setup (finishing setup room) moves
    let remembered := Recent.lastOf (max settings.session.recentActions 1)
      (finished.map fun who => (visits who).action)
    finished.Nodup ∧
    (∀ who, who ∈ finished ↔ (house.guests who).shown = some room ∧
      ∃ answer, (house.guests who).visit.result? = some (.ok answer)) ∧
    (∀ session, house.Stands room session → session.actions.entries = remembered) ∧
    ∀ who ticket plan run, (house.guests who).visit.stage = .running room ticket plan run →
      run.Shows setup.run ((Recent.lastOf 5 remembered).map (·.text)) := by
  intro setup house finished remembered
  obtain ⟨hnodup, hmem⟩ := answered_along setup engine visits moves room
  have hretains : ∀ session, house.Stands room session →
      session.actions.entries = remembered := by
    intro session hstands
    exact (retains_actions hspares engine visits moves hstands).entries
  refine ⟨hnodup, hmem, hretains, ?_⟩
  intro who ticket plan run hrunning next engine hbecomes call hcall
  obtain ⟨session, now, hbegun⟩ := begun_run setup _ visits moves who room ticket plan run hrunning
  have hbriefed : Run.Briefed setup.run plan.tasks _ plan.kind session next :=
    hbecomes _ (Run.keeps_briefed setup.run _ _ _ _)
      (hbegun _ (Run.keeps_briefed setup.run _ _ _ _) (Run.briefed_begin _ _ _ _ _ _))
  have hactions : next.session.actions = run.session.actions := hbecomes.actions hspares
  rw [hbriefed.view_of_mem_calls hcall, SceneView.of, hactions, Recent.last,
    hretains _ (.runs who ticket plan run hrunning)]
  rfl

/-- What each of five guests asks for. -/
def wish (guest : Fin 5) : Visit :=
  { Visit.plea with
    action :=
      { kind := some .systemCommand
        text := ["/help", "/map", "/save", "/load", "/quit"].getD guest "" } }

/-- All five find the session before anyone asks for it, and they ask in another order than they
came. The second in line gives up in the middle of its run, and the last is still at work. -/
def wishes (session : Uuid) : List (Move (Fin 5)) :=
  [.openSession session 1, .act 0 .find, .act 1 .find, .act 2 .find, .act 3 .find, .act 4 .find,
   .act 2 .ask, .act 0 .ask, .act 3 .ask, .act 1 .ask, .act 4 .ask,
   .act 2 .takeUp, .act 2 .work, .act 0 .takeUp, .act 0 .giveUp,
   .act 3 .takeUp, .act 3 .work, .act 1 .takeUp, .act 1 .work, .act 4 .takeUp]

/-- A session that remembers two actions knows the last two of the three that were finished, in the
order in which they were, and so does whoever the last guest calls. -/
theorem actions_remembered_wishes :
    let settings : Settings := { session := { recentActions := 2 } }
    let setup := DirectorSetup.of settings Registry.heralds
    let start := opening (Engine.create {} {}) wish
    let house := start.run setup (wishes ⟨7⟩)
    start.along setup (finishing setup 0) (wishes ⟨7⟩) = [2, 3, 1] ∧
      (∃ session, house.Stands 0 session ∧
        session.actions.entries.map (·.text) = ["/load", "/map"]) ∧
      ∃ plan run, (house.guests 4).visit.stage = .running 0 4 plan run ∧
        run.Shows setup.run ["/load", "/map"] := by
  intro settings setup start house
  have hspares : (CascadeRules.standard settings.cascade).process.SparesActions :=
    Cascade.worldProcessor_sparesActions _
  obtain ⟨-, -, hremembered, hshows⟩ := actions_remembered settings Registry.heralds hspares
    (fun _ => none) (Engine.create {} {}) wish (wishes ⟨7⟩) 0
  have hfinished : start.along setup (finishing setup 0) (wishes ⟨7⟩) = [2, 3, 1] := by
    decide +kernel
  have hheld : (house.guests 4).held? = some (0, 4) := by decide +kernel
  obtain ⟨plan, run, hrunning⟩ := Guest.held?_eq_some.mp hheld
  have hstands : house.Stands 0 run.session := .runs 4 4 plan run hrunning
  have hknown := hremembered _ hstands
  have hlast := hshows 4 4 plan run (by with_reducible exact hrunning)
  rw [hfinished] at hknown hlast
  let remembered := Recent.lastOf (max settings.session.recentActions 1)
    ([2, 3, 1].map fun who => (wish who).action)
  have htexts : remembered.map (·.text) = ["/load", "/map"] := by decide
  have hshown : (Recent.lastOf 5 remembered).map (·.text) = ["/load", "/map"] := by decide
  refine ⟨hfinished, ⟨run.session, hstands, ?_⟩, plan, run, hrunning, ?_⟩
  · rw [hknown]
    with_reducible exact htexts
  · rw [hshown] at hlast
    with_reducible exact hlast

end House

end StoryDirector
