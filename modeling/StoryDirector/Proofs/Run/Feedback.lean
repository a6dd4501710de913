import StoryDirector.Merge
import StoryDirector.Proofs.Cascade.Trace
import StoryDirector.Proofs.Run.Stepwise
/-!
# StoryDirector.Proofs.Run.Feedback

What a run does to its session. **The session is at every moment as the responses of the tasks that
are over left it, fed back task by task** (`Run.Fed`), and with a processor that looks at nothing
but the world, the turn and how many events were recorded, that is all that becomes of it: another
world, and more events remembered (`Session.Lives`, `CascadeRules.lives_fed`).

Which events are recorded does not depend on which ones were remembered before, however much of them
is left. They are, contribution by contribution, those that are derived, those that are reported and
the follow-ups (`CascadeRules.recorded`). Workers report some of them (`CascadeRules.told`), and the
reports of the cascade name the others (`CascadeRules.named`).
-/

namespace StoryDirector

theorem Recent.recordAll_append {α : Type} (history : Recent α) (first second : List α) :
    history.recordAll (first ++ second) = (history.recordAll first).recordAll second :=
  List.foldl_append

/-! ### Sessions that differ in what they remember -/

namespace Session

/-- The session in another world, with more events remembered. -/
def lived (session : Session) (world : World) (events : List Event) : Session :=
  { session with
    world
    events := session.events.recordAll events
    recorded := session.recorded + events.length }

theorem lived_lived (session : Session) (world after : World) (first second : List Event) :
    (session.lived world first).lived after second = session.lived after (first ++ second) := by
  rw [lived, lived, lived, Recent.recordAll_append, List.length_append, ← Nat.add_assoc]

/-- What a processor may look at: the turn, the world, and how many events were recorded. -/
structure Seen (session : Session) (turn : Nat) (world : World) (recorded : Nat) : Prop where
  /-- The turn. -/
  turn : session.turn = turn
  /-- The world. -/
  world : session.world = world
  /-- The number of events. -/
  recorded : session.recorded = recorded

theorem seen_self (session : Session) :
    session.Seen session.turn session.world session.recorded := ⟨rfl, rfl, rfl⟩

/-- In another world a session shows that world. -/
theorem Seen.withWorld {session : Session} {turn recorded : Nat} {world : World}
    (h : session.Seen turn world recorded) (after : World) :
    Session.Seen { session with world := after } turn after recorded :=
  ⟨h.turn, rfl, h.recorded⟩

/-- Something that happens to a session leaves another world and events to remember, and which they
are depends on nothing else than a processor may look at. -/
def Lives (life : Session → List Event × Session) : Prop :=
  ∀ turn world recorded, ∃ after events, ∀ session : Session, session.Seen turn world recorded →
    life session = (events, session.lived after events)

/-- Nothing at all. -/
theorem lives_pure : Lives fun session => ([], session) :=
  fun _ world _ => ⟨world, [], fun session hseen => by rw [← hseen.world]; rfl⟩

/-- One thing after another, which may depend on the events of the first. -/
theorem Lives.bind {first : Session → List Event × Session}
    {second : List Event → Session → List Event × Session} (hfirst : Lives first)
    (hsecond : ∀ events, Lives (second events)) : Lives fun session =>
      ((first session).1 ++ (second (first session).1 (first session).2).1,
        (second (first session).1 (first session).2).2) := by
  intro turn world recorded
  obtain ⟨between, earlier, hearlier⟩ := hfirst turn world recorded
  obtain ⟨after, later, hlater⟩ := hsecond earlier turn between (recorded + earlier.length)
  refine ⟨after, earlier ++ later, fun session hseen => ?_⟩
  have hbetween : (session.lived between earlier).Seen turn between (recorded + earlier.length) :=
    ⟨hseen.turn, rfl, congrArg (· + earlier.length) hseen.recorded⟩
  dsimp only
  rw [hearlier session hseen]
  dsimp only
  rw [hlater _ hbetween, lived_lived]

end Session

/-! ### Processors that look at little -/

/-- Of a session nothing but the turn, the world and the number of events recorded counts for the
processor, and it changes nothing but the world. -/
def Processor.Worldly (process : Processor) : Prop :=
  ∀ event turn world recorded, ∃ after outcome, ∀ session : Session,
    session.Seen turn world recorded →
      process event session = ({ session with world := after }, outcome)

/-- The processor leaves the actions alone that the session remembers. -/
def Processor.SparesActions (process : Processor) : Prop :=
  ∀ event session, (process event session).1.actions = session.actions

namespace Cascade

variable (threshold : Float32)

/-- The changes of a state change are applied by what a processor may look at. -/
theorem applyChanges_worldly (turn recorded : Nat) (changes : List (String × Json))
    (found : List Event) (world : World) : ∃ after outcome, ∀ session : Session,
      session.Seen turn world recorded → applyChanges threshold session found changes =
        ({ session with world := after }, outcome) := by
  induction changes generalizing found world with
  | nil => exact ⟨world, .ok found, fun session hseen => by rw [← hseen.world]; rfl⟩
  | cons change rest ih =>
      obtain ⟨key, value⟩ := change
      by_cases hchaos : key = "chaos_level"
      · cases hnumber : value.number? with
        | none =>
            refine ⟨world, .error (.malformed .stateChange .chaosLevel), fun session hseen => ?_⟩
            rw [applyChanges, if_pos hchaos, hnumber, ← hseen.world]
        | some level =>
            let moved : Session :=
              { id := ⟨0⟩, turn, world := world.setChaos (narrow level), recorded }
            obtain ⟨after, outcome, hrest⟩ :=
              ih (found ++ surge threshold found.length world.chaos moved) moved.world
            refine ⟨after, outcome, fun session hseen => ?_⟩
            obtain ⟨rfl, rfl, rfl⟩ := hseen
            rw [applyChanges, if_pos hchaos, hnumber]
            exact hrest { session with world := moved.world } ⟨rfl, rfl, rfl⟩
      · by_cases hplace : key = "location" ∨ key = "current_location"
        · cases htext : value.text? with
          | none =>
              refine ⟨world, .error (.malformed .stateChange .location), fun session hseen => ?_⟩
              rw [applyChanges, if_neg hchaos, if_pos hplace, htext, ← hseen.world]
          | some place =>
              obtain ⟨after, outcome, hrest⟩ := ih found (world.enter place)
              refine ⟨after, outcome, fun session hseen => ?_⟩
              rw [applyChanges, if_neg hchaos, if_pos hplace, htext]
              obtain ⟨-, rfl, -⟩ := id hseen
              exact hrest _ (hseen.withWorld _)
        · cases hflag : Flag.ofJson? value with
          | none =>
              obtain ⟨after, outcome, hrest⟩ := ih found world
              refine ⟨after, outcome, fun session hseen => ?_⟩
              rw [applyChanges, if_neg hchaos, if_neg hplace, hflag]
              exact hrest session hseen
          | some flag =>
              obtain ⟨after, outcome, hrest⟩ := ih found (world.setFlag key flag)
              refine ⟨after, outcome, fun session hseen => ?_⟩
              rw [applyChanges, if_neg hchaos, if_neg hplace, hflag]
              obtain ⟨-, rfl, -⟩ := id hseen
              exact hrest _ (hseen.withWorld _)

theorem stateChange_worldly : (stateChange threshold).Worldly := by
  intro event turn world recorded
  cases hfields : event.payload.fields? with
  | none =>
      refine ⟨world, .error (.malformed event.kind .notAnObject), fun session hseen => ?_⟩
      rw [stateChange, hfields, ← hseen.world]
  | some changes =>
      obtain ⟨after, outcome, happlied⟩ :=
        applyChanges_worldly threshold turn recorded changes [] world
      refine ⟨after, outcome, fun session hseen => ?_⟩
      rw [stateChange, hfields]
      exact happlied session hseen

theorem npcSpawn_worldly : npcSpawn.Worldly := by
  intro event turn world recorded
  cases hname : event.detail? "name" with
  | none =>
      refine ⟨world, .error (.malformed event.kind .missingName), fun session hseen => ?_⟩
      rw [npcSpawn, hname, ← hseen.world]
  | some name =>
      let disposition := ((event.detail? "disposition").bind Disposition.ofLabel?).getD .neutral
      let id := world.npcs.freshId
      refine ⟨world.spawn { id, name, disposition, spawnedTurn := turn }, .ok [],
        fun session hseen => ?_⟩
      obtain ⟨rfl, rfl, -⟩ := hseen
      rw [npcSpawn, hname]
      rfl

theorem npcDeath_worldly : npcDeath.Worldly := by
  intro event turn world recorded
  cases hname : event.detail? "name" with
  | none =>
      refine ⟨world, .error (.malformed event.kind .missingName), fun session hseen => ?_⟩
      rw [npcDeath, hname, ← hseen.world]
  | some name =>
      cases hfound : world.npcs.remove name with
      | none =>
          refine ⟨world, .ok [], fun session hseen => ?_⟩
          obtain ⟨-, rfl, -⟩ := hseen
          simp only [npcDeath, hname, hfound]
      | some removed =>
          refine ⟨{ world with npcs := removed.2 }, .ok [fallen (.made recorded 0) name turn],
            fun session hseen => ?_⟩
          obtain ⟨rfl, rfl, rfl⟩ := hseen
          simp only [npcDeath, hname, hfound]
          rfl

theorem worldEvent_worldly : (worldEvent threshold).Worldly := by
  intro event turn world recorded
  -- First the player may be moved, and what follows starts from there.
  let arrived : World := (event.detail? "location").elim world world.enter
  cases hdelta : event.payload.field? "chaos_delta" with
  | none =>
      refine ⟨arrived, .ok [], fun session hseen => ?_⟩
      obtain ⟨-, rfl, -⟩ := hseen
      simp only [worldEvent, hdelta, arrived]
      cases event.detail? "location" <;> rfl
  | some value =>
      cases hnumber : value.number? with
      | none =>
          refine ⟨arrived, .error (.malformed event.kind .chaosDelta), fun session hseen => ?_⟩
          obtain ⟨-, rfl, -⟩ := hseen
          simp only [worldEvent, hdelta, hnumber, arrived]
          cases event.detail? "location" <;> rfl
      | some delta =>
          let moved : Session :=
            { id := ⟨0⟩, turn, world := arrived.shiftChaos (narrow delta), recorded }
          refine ⟨moved.world, .ok (surge threshold 0 arrived.chaos moved), fun session hseen => ?_⟩
          obtain ⟨rfl, rfl, rfl⟩ := hseen
          simp only [worldEvent, hdelta, hnumber, moved, arrived]
          cases event.detail? "location" <;> rfl

/-- The standard processor is one of them. -/
theorem worldProcessor_worldly : (worldProcessor threshold).Worldly := by
  intro event
  simp only [worldProcessor]
  cases event.kind with
  | stateChange => exact stateChange_worldly threshold event
  | npcSpawn => exact npcSpawn_worldly event
  | npcDeath => exact npcDeath_worldly event
  | worldEvent => exact worldEvent_worldly threshold event
  | anomaly =>
      intro turn world recorded
      refine ⟨world.setFlag "last_anomaly_turn" (.int turn), .ok [], fun session hseen => ?_⟩
      rw [← hseen.turn, ← hseen.world]
      rfl
  | questUpdate =>
      intro turn world recorded
      simp only [questUpdate]
      split
      case h_1 quest status _ _ =>
          refine ⟨world.setFlag ("quest:" ++ quest) (.text status), .ok [],
            fun session hseen => ?_⟩
          rw [← hseen.world]
          rfl
      case h_2 => exact ⟨world, .ok [], fun session hseen => by rw [← hseen.world]⟩

/-- What a session has besides its world, the standard processor leaves alone. -/
theorem worldProcessor_world (event : Event) (session : Session) :
    ∃ after, (worldProcessor threshold event session).1 = { session with world := after } := by
  obtain ⟨after, outcome, hprocess⟩ :=
    worldProcessor_worldly threshold event session.turn session.world session.recorded
  exact ⟨after, congrArg Prod.fst (hprocess session session.seen_self)⟩

theorem worldProcessor_sparesActions : (worldProcessor threshold).SparesActions := by
  intro event session
  obtain ⟨after, hprocess⟩ := worldProcessor_world threshold event session
  rw [hprocess]

/-! ### What happens to a session as contributions are fed back -/

variable {process : Processor}

theorem lives_handle (h : process.Worldly) (event : Event) : Session.Lives fun session =>
    ((handle process event session).followups, (handle process event session).after) := by
  intro turn world recorded
  obtain ⟨after, outcome, hprocess⟩ := h event turn world recorded
  cases outcome with
  | ok followups =>
      refine ⟨after, followups, fun session hseen => ?_⟩
      simp only [handle, hprocess session hseen]
      rfl
  | error error =>
      refine ⟨after, [], fun session hseen => ?_⟩
      simp only [handle, hprocess session hseen]
      rfl

theorem lives_round (h : process.Worldly) (queue : List Event) : Session.Lives fun session =>
    ((round process queue session).1.flatMap (·.followups), (round process queue session).2) := by
  induction queue with
  | nil => exact Session.lives_pure
  | cons event rest ih => exact (lives_handle h event).bind fun _ => ih

theorem lives_trace (h : process.Worldly) (depth : Nat) (queue : List Event) :
    Session.Lives fun session =>
      ((trace process depth queue session).handlings.flatMap (·.followups),
        (trace process depth queue session).session) := by
  induction depth generalizing queue with
  | zero =>
      simp only [trace_zero]
      exact Session.lives_pure
  | succ depth ih =>
      cases queue with
      | nil =>
          simp only [trace_nil]
          exact Session.lives_pure
      | cons event rest =>
          have hrounds := (lives_round h (event :: rest)).bind ih
          simp only [← List.flatMap_append] at hrounds
          exact hrounds

/-! ### What a session keeps -/

section Spared

variable {α : Type} {field : Session → α}
  (hevents : ∀ session events, field (Session.recordEvents session events) = field session)
  (hspares : ∀ event session, field (process event session).1 = field session)

include hevents hspares

/-- What neither the processor nor remembering events changes, no round changes, -/
theorem round_spares (queue : List Event) (session : Session) :
    field (round process queue session).2 = field session := by
  induction queue generalizing session with
  | nil => rfl
  | cons event rest ih =>
      have hhandle : field (handle process event session).after = field session := by
        rw [← hspares event session]
        simp only [handle]
        cases (process event session).2 with
        | ok followups => exact hevents _ _
        | error error => rfl
      rw [round_cons]
      exact (ih _).trans hhandle

/-- and so it stays until the queue is drained. -/
theorem trace_spares (depth : Nat) (queue : List Event) (session : Session) :
    field (trace process depth queue session).session = field session := by
  induction depth generalizing queue session with
  | zero => rw [trace_zero]
  | succ depth ih =>
      cases queue with
      | nil => rw [trace_nil]
      | cons event rest =>
          exact (ih _ _).trans (round_spares hevents hspares (event :: rest) session)

end Spared

end Cascade

namespace CascadeRules

variable (rules : CascadeRules)

/-- The session after some contributions were fed back one by one. -/
def fed (contributions : List (List Response)) (session : Session) : Session :=
  contributions.foldl (fun session responses => (rules.integrate responses session).1) session

/-- The contributions, each with the session that it is fed back into. -/
def stages : (contributions : List (List Response)) → Session → List (List Response × Session)
  | [], _ => []
  | responses :: rest, session =>
    (responses, session) :: stages rest (rules.integrate responses session).1

/-- The events that one contribution brings: those that are derived from it, those that it reports,
and the follow-ups. -/
def noted (responses : List Response) (session : Session) : List Event :=
  Cascade.derived responses session.turn session.recorded ++
    Cascade.reported responses session.turn ++
    (Cascade.integration rules.process rules.depth responses session).handlings.flatMap
      (·.followups)

/-- The events that some contributions bring. -/
def recorded (contributions : List (List Response)) (session : Session) : List Event :=
  (rules.stages contributions session).flatMap fun stage => rules.noted stage.1 stage.2

/-- The events that workers report in some contributions. -/
def told (contributions : List (List Response)) (session : Session) : List Event :=
  (rules.stages contributions session).flatMap fun stage =>
    Cascade.reported stage.1 stage.2.turn

/-- The events that the reports of the cascade name as some contributions are fed back. -/
def named (contributions : List (List Response)) (session : Session) : List Event :=
  (rules.stages contributions session).flatMap fun stage =>
    (rules.integrate stage.1 stage.2).2.events

variable {rules}

theorem fed_append (first second : List (List Response)) (session : Session) :
    rules.fed (first ++ second) session = rules.fed second (rules.fed first session) :=
  List.foldl_append

theorem stages_append (first second : List (List Response)) (session : Session) :
    rules.stages (first ++ second) session =
      rules.stages first session ++ rules.stages second (rules.fed first session) := by
  induction first generalizing session with
  | nil => rfl
  | cons responses rest ih =>
      rw [List.cons_append, stages, stages, ih, List.cons_append]
      rfl

theorem named_append (first second : List (List Response)) (session : Session) :
    rules.named (first ++ second) session =
      rules.named first session ++ rules.named second (rules.fed first session) := by
  rw [named, stages_append, List.flatMap_append]
  rfl

/-- A contribution leaves the session that the last call of its cascade leaves, -/
theorem session_integrate (responses : List Response) (session : Session) :
    (rules.integrate responses session).1 =
      (Cascade.integration rules.process rules.depth responses session).session :=
  congrArg Prod.fst (Cascade.integrate_eq rules.process rules.depth responses session)

/-- and the report names what was derived and what followed. -/
theorem events_integrate (responses : List Response) (session : Session) :
    (rules.integrate responses session).2.events =
      Cascade.derived responses session.turn session.recorded ++
        (Cascade.integration rules.process rules.depth responses session).handlings.flatMap
          (·.followups) :=
  congrArg (·.2.events) (Cascade.integrate_eq rules.process rules.depth responses session)

/-- A contribution leaves another world and the events that it brings. -/
theorem lives_integrate (h : rules.process.Worldly) (responses : List Response) :
    Session.Lives fun session =>
      (rules.noted responses session, (rules.integrate responses session).1) := by
  intro turn world recorded
  let events := Cascade.derived responses turn recorded ++ Cascade.reported responses turn
  obtain ⟨after, followups, hdrain⟩ :=
    Cascade.lives_trace h rules.depth events turn world (recorded + events.length)
  refine ⟨after, events ++ followups, fun session hseen => ?_⟩
  obtain ⟨rfl, rfl, rfl⟩ := hseen
  have hdrained := hdrain (session.recordEvents events) ⟨rfl, rfl, rfl⟩
  have hsession := congrArg Prod.snd hdrained
  have hfollowups := congrArg Prod.fst hdrained
  refine Prod.ext ?_ ?_
  · exact congrArg (events ++ ·) hfollowups
  · exact (session_integrate responses session).trans
      (hsession.trans (Session.lived_lived session session.world after events followups))

/-- Some contributions leave another world and the events that they bring. -/
theorem lives_fed (h : rules.process.Worldly) (contributions : List (List Response)) :
    Session.Lives fun session =>
      (rules.recorded contributions session, rules.fed contributions session) := by
  induction contributions with
  | nil => exact Session.lives_pure
  | cons responses rest ih => exact (lives_integrate h responses).bind fun _ => ih

/-- What neither the processor nor remembering events changes, a contribution leaves alone. -/
theorem integrate_spares {α : Type} {field : Session → α}
    (hevents : ∀ session events, field (Session.recordEvents session events) = field session)
    (hspares : ∀ event session, field (rules.process event session).1 = field session)
    (responses : List Response) (session : Session) :
    field (rules.integrate responses session).1 = field session := by
  rw [session_integrate]
  exact (Cascade.trace_spares hevents hspares rules.depth _ _).trans (hevents session _)

/-- Feeding contributions back is no action. -/
theorem actions_fed (h : rules.process.SparesActions) (contributions : List (List Response))
    (session : Session) : (rules.fed contributions session).actions = session.actions := by
  induction contributions generalizing session with
  | nil => rfl
  | cons responses rest ih =>
      exact (ih _).trans
        (@integrate_spares rules _ Session.actions (fun _ _ => rfl) h responses session)

theorem turn_integrate (h : rules.process.Worldly) (responses : List Response) (session : Session) :
    (rules.integrate responses session).1.turn = session.turn := by
  obtain ⟨after, events, hlives⟩ :=
    lives_integrate h responses session.turn session.world session.recorded
  exact congrArg (·.2.turn) (hlives session session.seen_self)

/-- The turn stays, so what is reported can be told without looking at the sessions in between. -/
theorem told_eq (h : rules.process.Worldly) (contributions : List (List Response))
    (session : Session) :
    rules.told contributions session =
      Cascade.reported contributions.flatten session.turn := by
  induction contributions generalizing session with
  | nil => rfl
  | cons responses rest ih =>
      have hrest := ih (rules.integrate responses session).1
      rw [turn_integrate h] at hrest
      rw [told, stages, List.flatMap_cons, List.flatten_cons, Cascade.reported_append, ← hrest]
      rfl

end CascadeRules

namespace Run

/-- The session and the report of a run are what the responses so far made of them. -/
structure Fed (rules : CascadeRules) (start : Session) (run : Run) : Prop where
  /-- The responses so far were fed back into the session at the start, -/
  session : run.session = rules.fed (run.ledger.results.map (·.responses)) start
  /-- and the report names the events that the cascade brought about. -/
  named : run.report.events = rules.named (run.ledger.results.map (·.responses)) start

variable {setup : RunSetup} {start : Session} {run : Run}

theorem fed_begin (rules : CascadeRules) (tasks : List Task) (action : PlayerAction)
    (kind : ActionKind) (session : Session) (now : Instant) :
    (begin tasks action kind session now).Fed rules session := ⟨rfl, rfl⟩

theorem fed_record (h : run.Fed setup.cascade start) (result : TaskResult) :
    (run.record setup result).Fed setup.cascade start := by
  have hresponses : (run.record setup result).ledger.results.map (·.responses) =
      run.ledger.results.map (·.responses) ++ [result.responses] := by
    rw [results_record, List.map_append, List.map_singleton]
  constructor
  · rw [hresponses, CascadeRules.fed_append, ← h.session]
    rfl
  · rw [hresponses, CascadeRules.named_append, ← h.session, ← h.named]
    exact congrArg (run.report.events ++ ·) (List.append_nil _).symm

/-- Whatever a look at a run does, the session stays the one that the responses so far made. -/
theorem keeps_fed (setup : RunSetup) (start : Session) :
    Keeps setup fun _ run => run.Fed setup.cascade start where
  going := fun h _ => ⟨h.session, h.named⟩
  ended := by
    rintro engine after run attempt result todo ⟨hsession, hnamed⟩ -
    have hrun : run.Fed setup.cascade start := ⟨hsession, hnamed⟩
    have hrecorded := fed_record hrun result
    exact ⟨hrecorded.session, hrecorded.named⟩
  stopped := fun h => ⟨h.session, h.named⟩

end Run

end StoryDirector
