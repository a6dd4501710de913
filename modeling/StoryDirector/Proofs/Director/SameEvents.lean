import StoryDirector.Proofs.Cascade.Identities
import StoryDirector.Proofs.Director.Leaving
import StoryDirector.Proofs.Run.Prompt
/-!
# StoryDirector.Proofs.Director.SameEvents

**Whoever gets an answer and whoever remembers the session see the same events**
(`House.same_events`). Three ways lead to them. What the workers report reaches the answer when the
results are merged, what the cascade brings about reaches it by the reports of the cascade, and the
session is told of both as each contribution is fed back. The two lists differ in their order only.

The standard processor is needed for two things: it leaves the turn alone, by which reports are
stamped a second time when they are merged, and it remembers no events by itself.
-/

namespace StoryDirector

namespace Visit

variable {setup : DirectorSetup} {visit : Visit} {found : Session} {plan : Plan} {run : Run}

/-- What the responses of a run make of its session, with a processor that looks at nothing but the
world and the turn. -/
theorem Working.lived (h : visit.Working setup found plan run)
    (hworldly : setup.run.cascade.process.Worldly) :
    let start := found.apply visit.snapshot
    let contributions := run.ledger.results.map (·.responses)
    let recorded := setup.run.cascade.recorded contributions start
    run.session.turn = start.turn ∧ run.session.events = found.events.recordAll recorded ∧
      ∀ history, (setup.run.cascade.fed contributions { start with events := history }).events =
        history.recordAll recorded := by
  intro start contributions recorded
  obtain ⟨after, events, hlives⟩ :=
    CascadeRules.lives_fed hworldly contributions start.turn start.world start.recorded
  have hstart := hlives start start.seen_self
  have hrecorded : recorded = events := congrArg Prod.fst hstart
  have hsession : run.session = start.lived after events :=
    h.fed.session.trans (congrArg Prod.snd hstart)
  refine ⟨?_, ?_, fun history => ?_⟩
  · rw [hsession]
    rfl
  · rw [hsession, hrecorded]
    rfl
  · have hhistory := congrArg Prod.snd (hlives { start with events := history } ⟨rfl, rfl, rfl⟩)
    rw [hrecorded]
    exact congrArg Session.events hhistory

/-- What the answer names was told by workers or came about on the way. -/
theorem Working.events_answerOf (h : visit.Working setup found plan run)
    (hworldly : setup.run.cascade.process.Worldly) (director : Director) :
    (answerOf setup director plan run).events =
      setup.run.cascade.told (run.ledger.results.map (·.responses)) (found.apply visit.snapshot) ++
        setup.run.cascade.named (run.ledger.results.map (·.responses))
          (found.apply visit.snapshot) := by
  obtain ⟨hturn, -⟩ := h.lived hworldly
  rw [CascadeRules.told_eq hworldly, ← hturn, ← h.fed.named, ← List.flatMap_def]
  rfl

end Visit

namespace House

variable {ι : Type} [DecidableEq ι]

/-- The run of a guest finishes all tasks of its plan, and the guest puts the session back with the
action remembered. -/
def Finishes (setup : DirectorSetup) (house left : House ι) (who : ι) (visit : Visit)
    (found : Session) (done : Run) : Prop :=
  ∃ room ticket plan run seen,
    (house.guests who).visit.stage = .running room ticket plan run ∧
    run.look setup.run house.director.shutDown house.director.engine = (seen, done) ∧
    house.Exchanges left visit.session room found (done.session.recordAction visit.action) ∧
    visit.AtBoundary setup found done []

/-- Whoever is answered finished its plan by one of its own moves, and its answer is made of the
results. -/
theorem exists_finishes {setup : DirectorSetup} (engine : Engine) (visits : ι → Visit)
    {moves : List (Move ι)} {who : ι} {answer : Answer}
    (hanswered : (((opening engine visits).run setup moves).guests who).visit.result? =
      some (.ok answer)) :
    ∃ before deed after, moves = before ++ .act who deed :: after ∧
      (opening engine visits).EndsBy setup who (.ok answer) before deed after ∧
      ∃ found done plan director,
        ((opening engine visits).run setup before).Finishes setup
          ((opening engine visits).run setup (before ++ [.act who deed])) who (visits who) found
          done ∧
        (visits who).Working setup found plan done ∧
        answer = Visit.answerOf setup director plan done := by
  obtain ⟨before, deed, after, hmoves, hends⟩ := exists_endsBy rfl hanswered
  refine ⟨before, deed, after, hmoves, hends, ?_⟩
  cases hends.ending with
  | finished room ticket plan run done seen hrunning hlook hdone hback =>
      obtain ⟨hin, hwork⟩ := reached_run setup engine visits before
      obtain ⟨found, hexchanges, hworking, -⟩ := exists_exchanges hin hwork hrunning hback
      have herrand := errand_run setup (opening engine visits) before who
      have haction : (((opening engine visits).run setup before).guests who).visit.action =
          (visits who).action := by
        have hsame := congrArg Visit.action herrand
        exact hsame
      rw [session_run, haction] at hexchanges
      have hgoes : done.stage ≠ .cancelled := by simp [hdone]
      have hworked : (visits who).Working setup found plan done :=
        (hworking.look hlook hgoes).congr herrand
      have hboundary := hworked.atBoundary
      rw [Run.pending, hdone] at hboundary
      exact ⟨found, done, plan, _,
        ⟨room, ticket, plan, run, seen, hrunning, hlook, hexchanges, hboundary⟩, hworked, rfl⟩

/-- **The answer and the session name the same events.** A visit that is answered put its session
back by one of its own moves; its other moves touched no session. With the standard processor, the
session recorded what the responses of each task brought: what they imply, what they report and what
followed from that. These are the events of the answer, in another order, and the session remembers
them as far as it has room, whatever it remembered before. Those that came about on the way have new
identities, no two the same. -/
theorem same_events {setup : DirectorSetup} {threshold : Float32}
    (hstandard : setup.run.cascade.process = Cascade.worldProcessor threshold) (engine : Engine)
    (visits : ι → Visit) (moves : List (Move ι)) (who : ι) {answer : Answer}
    (hanswered : (((opening engine visits).run setup moves).guests who).visit.result? =
      some (.ok answer)) :
    ∃ before deed after, moves = before ++ .act who deed :: after ∧
      (opening engine visits).EndsBy setup who (.ok answer) before deed after ∧
      let house := (opening engine visits).run setup before
      let left := (opening engine visits).run setup (before ++ [.act who deed])
      ∃ found done, house.Finishes setup left who (visits who) found done ∧
        let start := found.apply (visits who).snapshot
        let contributions := done.ledger.results.map (·.responses)
        ∃ made told recorded,
          setup.run.cascade.Brought contributions start made told recorded done.session ∧
          EventId.Given start.recorded done.session.recorded (made.map (·.id)) ∧
          done.session.events = found.events.recordAll recorded ∧
          (∀ history, (setup.run.cascade.fed contributions
            { start with events := history }).events = history.recordAll recorded) ∧
          answer.events = told ++ made ∧ answer.events.Perm recorded := by
  have hworldly : setup.run.cascade.process.Worldly := by
    rw [hstandard]
    exact Cascade.worldProcessor_worldly threshold
  have hnumbers : setup.run.cascade.process.Numbers := by
    rw [hstandard]
    exact Cascade.worldProcessor_numbers threshold
  obtain ⟨before, deed, after, hmoves, hends, found, done, plan, director, hfinishes, hworked,
    rfl⟩ := exists_finishes engine visits hanswered
  refine ⟨before, deed, after, hmoves, hends, found, done, hfinishes, ?_⟩
  intro start contributions
  obtain ⟨-, hevents, hhistory⟩ := hworked.lived hworldly
  have hbrought := CascadeRules.brought_fed setup.run.cascade contributions start
  rw [← hworked.fed.session] at hbrought
  have hanswer := hworked.events_answerOf hworldly director
  exact ⟨_, _, _, hbrought, hbrought.given hnumbers, hevents, hhistory, hanswer,
    hanswer ▸ hbrought.perm⟩

end House

/-! ### A visit that is answered -/

/-- The answer, once there is one. -/
def Visit.answer? (visit : Visit) : Option Answer :=
  visit.result?.bind (·.toOption)

theorem Visit.result?_of_answer? {visit : Visit} {answer : Answer}
    (h : visit.answer? = some answer) : visit.result? = some (.ok answer) := by
  obtain ⟨result, hresult, hanswer⟩ := Option.bind_eq_some_iff.mp h
  cases result with
  | error error => cases hanswer
  | ok other =>
      obtain rfl := Option.some.inj hanswer
      exact hresult

/-- The reason why there is no answer, once there is one. -/
def Visit.refusal? (visit : Visit) : Option DirectorError :=
  match visit.stage with
  | .over (.error error) => some error
  | .over (.ok _) | .fresh | .queued _ _ | .running _ _ _ _ => none

theorem Visit.result?_of_refusal? {visit : Visit} {error : DirectorError}
    (h : visit.refusal? = some error) : visit.result? = some (.error error) := by
  unfold refusal? at h
  split at h
  case h_1 hover =>
      obtain rfl := Option.some.inj h
      exact result?_eq_some.mpr hover
  all_goals cases h

/-- Workers of every kind, each of which says the same to everything. -/
def Registry.uniform (say : WorkerKind → Response) : Registry where
  workers := WorkerKind.all.map fun kind =>
    { kind, reply _ _ := { outcome := .responded (say kind) } }

theorem Registry.prompt_uniform (say : WorkerKind → Response) :
    (uniform say).Prompt fun kind _ => .responded (say kind) := by
  intro worker hworker heard briefing
  obtain ⟨kind, -, rfl⟩ := List.mem_map.mp hworker
  rfl

/-- Heralds report that something befell the world. -/
def Registry.heralds : Registry :=
  uniform fun worker => { worker, events := [{ id := .known ⟨3⟩, kind := .worldEvent }] }

/-- The visit of someone who asks for help. -/
def Visit.plea : Visit where
  session := ⟨7⟩
  action := { kind := some .systemCommand, text := "/help" }
  snapshot := { turn := 2 }

namespace House

/-- A session is started, and someone comes for it and works. -/
def answered (session : Uuid) : List (Move Unit) :=
  [.openSession session 1, .act () .find, .act () .ask, .act () .takeUp, .act () .work]

/-- The writer raises chaos beyond the threshold and reports that Mira died. The answer and the
session name the change, the report, the surge that follows from the one and the news of her fall
that follows from the other. -/
theorem same_events_wake :
    let mira : Npc := { id := .known ⟨1⟩, name := "Mira", spawnedTurn := 1 }
    let death : Event :=
      { id := .known ⟨3⟩, kind := .npcDeath, payload := .object [("name", .text "Mira")] }
    let mourners := Registry.uniform fun worker =>
      { worker, stateChanges := [("chaos_level", .float 0.9)], events := [death] }
    let wake : Visit :=
      { Visit.plea with snapshot := { turn := 2, world := { npcs := [(mira.id, mira)] } } }
    let setup := DirectorSetup.of {} mourners
    let ended := (opening (Engine.create {} {}) fun _ : Unit => wake).run setup (answered ⟨7⟩)
    ∃ answer, (ended.guests ()).visit.result? = some (.ok answer) ∧
      answer.events.map (fun event => (event.id, event.kind)) =
        [(.known ⟨3⟩, .npcDeath), (.made 0 0, .stateChange), (.made 2 0, .anomaly),
         (.made 3 0, .worldEvent)] ∧
      answer.events.map (fun event => (event.source, event.turn)) =
        [(some "narrative_writer", 2), (some "narrative_writer", 2), (some "cascade", 2),
         (some "cascade", 2)] ∧
      (ended.director.sessionIn? 0).map (fun session => session.events.entries.map (·.id)) =
        some [.made 0 0, .known ⟨3⟩, .made 2 0, .made 3 0] ∧
      ∃ (found : Session) (done : Run) (made told recorded : List Event),
        setup.run.cascade.Brought (done.ledger.results.map (·.responses))
          (found.apply wake.snapshot) made told recorded done.session ∧
        done.session.events = found.events.recordAll recorded ∧ answer.events.Perm recorded := by
  intro mira death mourners wake setup ended
  have hnamed : (ended.guests ()).visit.answer?.map
      (fun answer => answer.events.map fun event => (event.id, event.kind)) =
        some [(.known ⟨3⟩, .npcDeath), (.made 0 0, .stateChange), (.made 2 0, .anomaly),
          (.made 3 0, .worldEvent)] := by
    decide +kernel
  have hstamped : (ended.guests ()).visit.answer?.map
      (fun answer => answer.events.map fun event => (event.source, event.turn)) =
        some [(some "narrative_writer", 2), (some "narrative_writer", 2), (some "cascade", 2),
          (some "cascade", 2)] := by
    decide +kernel
  obtain ⟨answer, hanswer, hnames⟩ := Option.map_eq_some_iff.mp hnamed
  rw [hanswer] at hstamped
  have hresult := Visit.result?_of_answer? hanswer
  obtain ⟨-, -, -, -, -, found, done, -, made, told, recorded, hbrought, -, hevents, -, -, hperm⟩ :=
    same_events rfl (Engine.create {} {}) (fun _ : Unit => wake) (answered ⟨7⟩) () hresult
  exact ⟨answer, hresult, hnames, Option.some.inj hstamped, by decide +kernel, found, done, made,
    told, recorded, hbrought, hevents, hperm⟩

end House

end StoryDirector
