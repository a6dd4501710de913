import StoryDirector.Director.Timeline
import StoryDirector.Proofs.Director.Looks
import StoryDirector.Proofs.Run.Driving
/-!
# StoryDirector.Proofs.Director.Commands

What a director answers when it is told to start and to end sessions, to answer actions and to shut
down, at any instants and with any number of visits under way. **A session is known exactly from
when it is started until it is ended, and whether it is known decides what a command is answered**
(`Command.Answered`).

The director stands as some commands have left it (`Director.Heeds`), and how far a command has come
that was given after them is one of three things (`Command.Stands`). `Command.stands_acted` is the
case of an action: whichever way a look at its visit turns out, the action stands as it should.
-/

namespace StoryDirector

/-- What a director can be told to do. -/
inductive Command where
  /-- To start a session at a turn. -/
  | openSession (session : Uuid) (turn : Nat)
  /-- To end a session. -/
  | endSession (session : Uuid)
  /-- To answer an action; the caller may cancel after some time. -/
  | act (session : Uuid) (action : PlayerAction) (snapshot : Snapshot) (draw : Float32)
      (cancelAfter : Option Duration)
  /-- To stop every run. -/
  | shutDown

/-! ### Commands and their answers -/

namespace Command

/-- The command as a request. -/
def request : Command → Request
  | .openSession session turn => .openSession session turn
  | .endSession session => .endSession session
  | .act session action snapshot draw cancelAfter =>
    .act { session, action, snapshot, draw } cancelAfter
  | .shutDown => .shutDown

/-- Some commands with their instants, when each comes so much later than the one before it. -/
def timed (since : Instant) : List (Duration × Command) → List (Instant × Command)
  | [] => []
  | (later, command) :: rest => (since + later, command) :: timed (since + later) rest

/-- The commands before one of them. -/
def before (calls : List (Instant × Command)) (place : Nat) : List Command :=
  (calls.take place).map (·.2)

/-- By an instant the director was told to stop every run. -/
def ShutBy (calls : List (Instant × Command)) (instant : Instant) : Prop :=
  ∃ given, (given, .shutDown) ∈ calls ∧ given ≤ instant

/-- Among some commands there is one to start a session, and none to end it after that. -/
def Known (session : Uuid) (earlier : List Command) : Prop :=
  ∃ before turn after, earlier = before ++ .openSession session turn :: after ∧
    .endSession session ∉ after

variable {session : Uuid} {earlier : List Command} {command : Command}

theorem not_known_nil : ¬ Known session [] := by
  rintro ⟨before, turn, after, hsplit, -⟩
  simp at hsplit

/-- The last command decides, if it is about the session. -/
theorem known_concat : Known session (earlier ++ [command]) ↔
    (∃ turn, command = .openSession session turn) ∨
      command ≠ .endSession session ∧ Known session earlier := by
  constructor
  · rintro ⟨before, turn, after, hsplit, hkept⟩
    rcases List.eq_nil_or_concat after with rfl | ⟨rest, last, rfl⟩
    · exact Or.inl ⟨turn, List.singleton_inj.mp (List.append_inj_right' hsplit rfl)⟩
    · have hlast : earlier ++ [command] =
          (before ++ .openSession session turn :: rest) ++ [last] := by
        simpa using hsplit
      obtain ⟨rfl, hsame⟩ := List.append_inj' hlast rfl
      obtain rfl := List.singleton_inj.mp hsame
      rw [List.concat_eq_append, List.mem_append, not_or, List.mem_singleton] at hkept
      exact Or.inr ⟨Ne.symm hkept.2, before, turn, rest, rfl, hkept.1⟩
  · rintro (⟨turn, rfl⟩ | ⟨hother, before, turn, after, rfl, hkept⟩)
    · exact ⟨earlier, turn, [], rfl, List.not_mem_nil⟩
    · refine ⟨before, turn, after ++ [command], by simp, ?_⟩
      simp [hkept, Ne.symm hother]

end Command

/-- What is found about an action on a session that was given at an instant, after some commands,
and answered at another; `counted` tells which answers there may be. -/
structure Command.Acted (stopped : Instant → Prop) (counted : Answer → Prop)
    (earlier : List Command) (session : Uuid) (cancelAfter : Option Duration)
    (given answered : Instant) (result : Except DirectorError Answer) : Prop where
  /-- The session is unknown exactly if it was not started since it was last ended. -/
  unknown : result = .error (.unknownSession session) ↔ ¬ Known session earlier
  /-- If the director was shut down before, the action is cancelled. -/
  late : Known session earlier → .shutDown ∈ earlier → result = .error .cancelled
  /-- It is cancelled only if its caller cancelled it or the director was shut down by then. -/
  cause : result = .error .cancelled →
    (∃ span, cancelAfter = some span ∧ given + span ≤ answered) ∨ stopped answered
  /-- In every other case there is an answer. -/
  otherwise : Known session earlier → result ≠ .error .cancelled →
    ∃ answer, result = .ok answer ∧ counted answer

/-- What is found about a command that was given at an instant, after some others, and answered at
another; `counted` tells which answers to a visit there may be. -/
def Command.Answered (stopped : Instant → Prop) (counted : Visit → Answer → Prop)
    (earlier : List Command) (given answered : Instant) : Command → Finding → Prop
  | .openSession session _, .opened result =>
    (Known session earlier → result = .error (.sessionExists session)) ∧
      (¬ Known session earlier → result = .ok ())
  | .endSession session, .ended existed => existed = true ↔ Known session earlier
  | .act session action snapshot draw cancelAfter, .acted result =>
    Acted stopped (counted { session, action, snapshot, draw }) earlier session cancelAfter given
      answered result
  | .shutDown, .stopped all => all = true
  | _, _ => False

/-- What is known of all answers that are given can be added. -/
theorem Command.Answered.counted {stopped : Instant → Prop} {counted : Visit → Answer → Prop}
    {earlier : List Command} {given answered : Instant} {command : Command} {finding : Finding}
    (h : command.Answered stopped (fun _ _ => True) earlier given answered finding)
    (hcounted : ∀ visit cancelAfter answer, command.request = .act visit cancelAfter →
      finding = .acted (.ok answer) → counted visit answer) :
    command.Answered stopped counted earlier given answered finding := by
  cases command with
  | act session action snapshot draw cancelAfter =>
      cases finding with
      | acted result =>
          refine ⟨h.unknown, h.late, h.cause, fun hknown hother => ?_⟩
          obtain ⟨answer, rfl, -⟩ := h.otherwise hknown hother
          exact ⟨answer, rfl, hcounted _ cancelAfter answer rfl rfl⟩
      | _ => exact h
  | _ => cases finding <;> exact h

/-! ### The director after some commands -/

/-- The director stands as some commands have left it. -/
structure Director.Heeds (director : Director) (earlier : List Command) : Prop where
  /-- It has those sessions that are known. -/
  sessions : ∀ session, director.hasSession session = true ↔ Command.Known session earlier
  /-- It is shut down if it was told to. -/
  shutDown : director.shutDown = true ↔ .shutDown ∈ earlier

namespace Director

variable {director after : Director} {earlier : List Command}

theorem Steady.hasSession (h : director.Steady after) (session : Uuid) :
    after.hasSession session = director.hasSession session := by
  unfold Director.hasSession room?
  rw [h.current]

theorem Heeds.steady (h : director.Heeds earlier) (hsteady : director.Steady after) :
    after.Heeds earlier where
  sessions session := by rw [hsteady.hasSession, h.sessions]
  shutDown := by rw [hsteady.shutDown, h.shutDown]

theorem Heeds.acted (h : director.Heeds earlier) (session : Uuid) (action : PlayerAction)
    (snapshot : Snapshot) (draw : Float32) (cancelAfter : Option Duration) :
    director.Heeds (earlier ++ [.act session action snapshot draw cancelAfter]) where
  sessions other := by simp [Command.known_concat, h.sessions]
  shutDown := by simp [h.shutDown]

theorem Heeds.stop (h : director.Heeds earlier) : director.stop.Heeds (earlier ++ [.shutDown]) where
  sessions session := by
    rw [Command.known_concat, ← h.sessions]
    simp [Director.stop, hasSession, room?]
  shutDown := by simp [Director.stop]

theorem Heeds.endSession (h : director.Heeds earlier) (session : Uuid) :
    (director.endSession session).Heeds (earlier ++ [.endSession session]) where
  sessions other := by
    rw [Command.known_concat, ← h.sessions]
    by_cases hsame : session = other
    · simp [hasSession, hsame]
    · simp [hasSession, room?_endSession_of_ne _ hsame, hsame]
  shutDown := by
    rw [List.mem_append, ← h.shutDown]
    simp [Director.endSession]

/-- A session is started exactly if it is not known. -/
theorem Heeds.openSession (h : director.Heeds earlier) (setup : DirectorSetup) (session : Uuid)
    (turn : Nat) :
    (¬ Command.Known session earlier ∧ ∃ opened,
        director.openSession setup session turn = .ok opened ∧ opened.engine = director.engine ∧
        opened.Heeds (earlier ++ [.openSession session turn])) ∨
      (Command.Known session earlier ∧
        director.openSession setup session turn = .error (.sessionExists session) ∧
        director.Heeds (earlier ++ [.openSession session turn])) := by
  have hdown : ∀ shut : Bool, (shut = true ↔ .shutDown ∈ earlier) →
      (shut = true ↔ .shutDown ∈ earlier ++ [.openSession session turn]) := by
    intro shut hshut
    rw [hshut]
    simp
  unfold Director.openSession
  split
  case isTrue hhas =>
      have hknown := (h.sessions session).mp hhas
      refine Or.inr ⟨hknown, rfl, fun other => ?_, hdown _ h.shutDown⟩
      rw [Command.known_concat, h.sessions]
      refine ⟨fun hother => Or.inr ⟨Command.noConfusion, hother⟩, ?_⟩
      rintro (⟨_, hsame⟩ | ⟨-, hother⟩)
      · obtain ⟨rfl, -⟩ := Command.openSession.inj hsame
        exact hknown
      · exact hother
  case isFalse hnew =>
      refine Or.inl ⟨fun hknown => hnew ((h.sessions session).mpr hknown), _, rfl, rfl,
        fun other => ?_, hdown _ h.shutDown⟩
      rw [Command.known_concat, ← h.sessions]
      by_cases hsame : session = other
      · simp [hasSession, room?, List.find?_append, hsame]
      · simp [hasSession, room?, List.find?_append, hsame]

end Director

/-! ### How far a command has come -/

/-- How far a command has come that was given at an instant, after some others. -/
inductive Command.Stands (setup : DirectorSetup) (stopped : Instant → Prop)
    (earlier : List Command) (given now : Instant) (command : Command) : ItemStage → Prop where
  /-- It is still to come. -/
  | ahead : Stands setup stopped earlier given now command .ahead
  /-- The session was known, and the visit stands in line or runs. -/
  | acting (session : Uuid) (action : PlayerAction) (snapshot : Snapshot) (draw : Float32)
      (cancelAfter : Option Duration) (visit : Visit) (cancelAt : Option Instant)
      (cancelled : Bool)
      (hcommand : command = .act session action snapshot draw cancelAfter) (hgiven : given ≤ now)
      (herrand : visit.errand = { session, action, snapshot, draw })
      (hgoes : visit.result? = none) (hbegun : visit.stage ≠ .fresh)
      (hongoing : visit.Ongoing setup) (hknown : Known session earlier)
      (hcancelAt : ∀ instant, cancelAt = some instant →
        ∃ span, cancelAfter = some span ∧ given + span ≤ instant)
      (hcancelled : cancelled = true → ∃ span, cancelAfter = some span ∧ given + span ≤ now) :
      Stands setup stopped earlier given now command (.acting visit cancelAt cancelled)
  /-- It is answered. -/
  | done (finding : Finding) (answered : Instant) (hgiven : given ≤ answered)
      (hanswered : answered ≤ now)
      (hright : command.Answered stopped (fun _ _ => True) earlier given answered finding) :
      Stands setup stopped earlier given now command (.done finding answered)

variable {setup : DirectorSetup} {stopped : Instant → Prop} {earlier : List Command}
  {given : Instant} {director : Director}

theorem Command.Stands.later {now after : Instant} {command : Command} {stage : ItemStage}
    (h : command.Stands setup stopped earlier given now stage) (hlater : now ≤ after) :
    command.Stands setup stopped earlier given after stage := by
  cases h with
  | ahead => exact .ahead
  | acting session action snapshot draw cancelAfter visit cancelAt cancelled hcommand hgiven herrand
      hgoes hbegun hongoing hknown hcancelAt hcancelled =>
      refine .acting session action snapshot draw cancelAfter visit cancelAt cancelled hcommand
        (Nat.le_trans hgiven hlater) herrand hgoes hbegun hongoing hknown hcancelAt fun hflag => ?_
      obtain ⟨span, hspan, hdue⟩ := hcancelled hflag
      exact ⟨span, hspan, Nat.le_trans hdue hlater⟩
  | done finding answered hgiven hanswered hright =>
      exact .done finding answered hgiven (Nat.le_trans hanswered hlater) hright

/-- The stage of an item whose visit was looked at. -/
def ItemStage.ofVisit (visit : Visit) (cancelAt : Option Instant) (cancelled : Bool)
    (now : Instant) : ItemStage :=
  match visit.result? with
  | some result => .done (.acted result) now
  | none => .acting visit cancelAt (cancelled || cancelAt.any fun instant => decide (instant ≤ now))

theorem Item.act_eq (item : Item) (setup : DirectorSetup) (visit : Visit)
    (cancelAt : Option Instant) (cancelled : Bool) (director : Director) :
    item.act setup visit cancelAt cancelled director =
      let seen := visit.look setup cancelled director
      (seen.1, { item with stage := .ofVisit seen.2 cancelAt cancelled seen.1.engine.now }) := by
  unfold act ItemStage.ofVisit
  generalize visit.look setup cancelled director = seen
  obtain ⟨after, visit⟩ := seen
  dsimp only
  cases visit.result? with
  | some result => rfl
  | none => cases cancelAt <;> rfl

/-! ### Actions -/

/-- What is known of an action that was given at an instant, after some others, when its visit is
looked at. -/
structure Visit.Taken (setup : DirectorSetup) (stopped : Instant → Prop) (earlier : List Command)
    (given : Instant) (session : Uuid) (action : PlayerAction) (snapshot : Snapshot)
    (draw : Float32) (cancelAfter : Option Duration) (director : Director) (visit : Visit)
    (cancelAt : Option Instant) (cancelled : Bool) : Prop where
  /-- Its instant has come. -/
  come : given ≤ director.engine.now
  /-- The visit is for this action, -/
  errand : visit.errand = { session, action, snapshot, draw }
  /-- it is not over, -/
  goes : visit.result? = none
  /-- and if it runs, it runs its plan. -/
  ongoing : visit.Ongoing setup
  /-- If it has not begun, it finds a room exactly if the session is known, -/
  finds : visit.stage = .fresh →
    (director.hasSession session = true ↔ Command.Known session earlier)
  /-- and otherwise it has found one. -/
  found : visit.stage ≠ .fresh → Command.Known session earlier
  /-- If the director was told to shut down before, it is shut down, -/
  heeded : .shutDown ∈ earlier → director.shutDown = true
  /-- and if it is shut down, it was told to. -/
  told : director.shutDown = true → stopped director.engine.now
  /-- If the caller is going to cancel, it is not before its time, -/
  patient : ∀ instant, cancelAt = some instant →
    ∃ span, cancelAfter = some span ∧ given + span ≤ instant
  /-- and if it has cancelled, it was not either. -/
  due : cancelled = true → ∃ span, cancelAfter = some span ∧ given + span ≤ director.engine.now

section Acted

variable {session : Uuid} {action : PlayerAction} {snapshot : Snapshot} {draw : Float32}
  {cancelAfter : Option Duration} {visit : Visit} {cancelAt : Option Instant} {cancelled : Bool}
  (h : visit.Taken setup stopped earlier given session action snapshot draw cancelAfter director
    cancelAt cancelled)

include h

theorem Visit.Taken.known (hopen : visit.Open director) : Command.Known session earlier := by
  by_cases hfresh : visit.stage = .fresh
  · have hhas := hopen.known hfresh
    rw [show visit.session = session from congrArg Visit.session h.errand] at hhas
    exact (h.finds hfresh).mp hhas
  · exact h.found hfresh

/-- The visit goes on. Its caller may cancel now. -/
theorem Visit.Taken.stands_acting {now : Instant} {stage : VisitStage}
    (hnow : now = director.engine.now) (hbegun : stage ≠ .fresh)
    (hnone : Visit.result? { visit with stage } = none)
    (hstill : Visit.Ongoing setup { visit with stage })
    (hknown : Command.Known session earlier) :
    Command.Stands setup stopped earlier given director.engine.now
      (.act session action snapshot draw cancelAfter)
      (.ofVisit { visit with stage } cancelAt cancelled now) := by
  unfold ItemStage.ofVisit
  rw [hnone]
  refine .acting session action snapshot draw cancelAfter _ cancelAt _ rfl h.come h.errand hnone
    hbegun hstill hknown h.patient fun hflag => ?_
  rcases Bool.or_eq_true_iff.mp hflag with hbefore | hdue
  · exact h.due hbefore
  · obtain ⟨instant, hset, hover⟩ := (Option.any_eq_true _ _).mp hdue
    obtain ⟨span, hspan, hle⟩ := h.patient instant hset
    exact ⟨span, hspan, Nat.le_trans hle (hnow ▸ of_decide_eq_true hover)⟩

/-- The visit is over. -/
theorem Visit.Taken.stands_done {now : Instant} {result : Except DirectorError Answer}
    (hnow : now = director.engine.now)
    (hacted : Command.Acted stopped (fun _ => True) earlier session cancelAfter given
      director.engine.now result) :
    Command.Stands setup stopped earlier given director.engine.now
      (.act session action snapshot draw cancelAfter)
      (.ofVisit { visit with stage := .over result } cancelAt cancelled now) := by
  subst hnow
  exact .done _ _ h.come (Nat.le_refl _) hacted

/-- After a look at its visit, an action is as far as it should be. -/
theorem Command.stands_acted {seen : Director × Visit}
    (hlooked : visit.Looked setup cancelled director seen) :
    Stands setup stopped earlier given director.engine.now
      (.act session action snapshot draw cancelAfter)
      (.ofVisit seen.2 cancelAt cancelled seen.1.engine.now) := by
  have hnow := hlooked.steady.now
  have hstill := hlooked.ongoing h.ongoing
  cases hlooked with
  | rests result hover =>
      have hgoes := h.goes
      rw [Visit.result?, hover] at hgoes
      cases hgoes
  | turnedAway hfresh hnone =>
      have haim : visit.session = session := congrArg Visit.session h.errand
      rw [haim] at hnone ⊢
      have hunknown : ¬ Known session earlier := by simp [← h.finds hfresh, hnone]
      exact h.stands_done hnow ⟨by simp [hunknown], fun hknown => absurd hknown hunknown,
        (fun hother => by cases hother), fun hknown => absurd hknown hunknown⟩
  | waits after room ticket hopen hfree hline hlocked =>
      exact h.stands_acting hnow VisitStage.noConfusion rfl hstill (h.known hopen)
  | runs after room ticket found plan run hsteady hopen =>
      exact h.stands_acting hnow VisitStage.noConfusion rfl hstill (h.known hopen)
  | stops after hsteady hopen hcause =>
      refine h.stands_done hnow ⟨?_, fun _ _ => rfl, fun _ => ?_, fun _ hother => absurd rfl hother⟩
      · simp [h.known hopen]
      · exact hcause.imp h.due h.told
  | finishes after seen found plan run hsteady hopen hfree hup hworking hfinished =>
      refine h.stands_done hnow ⟨?_, fun _ hlate => ?_, fun hother => (by cases hother),
        fun _ _ => ⟨_, rfl, trivial⟩⟩
      · simp [h.known hopen]
      · rw [h.heeded hlate] at hup
        cases hup

end Acted

end StoryDirector
