import StoryDirector.Proofs.Run.Ending
/-!
# StoryDirector.Proofs.Run.Alarms

The alarms of a run and the clock. **A look at a run leaves the clock alone and no alarm behind that
is due** (`Run.now_look`, `Run.lt_of_alarm_look`), whoever looks, whatever the workers do, and
whether or not the run is told to stop. So whoever winds the clock to the earliest alarm winds it
forwards.
-/

namespace StoryDirector

/-! ### Calls -/

namespace Call

/-- The alarm of a call, if it is set, is yet to come. -/
def Ahead (now : Instant) (call : Call) : Prop :=
  ∀ instant, call.alarm = some instant → now < instant

variable (setup : RunSetup) (call : Call) (engine : Engine)

theorem ahead_attend (inquiry : Inquiry) (began : Instant) (reply : Reply) :
    (call.attend inquiry began reply engine).2.Ahead engine.now := by
  intro instant hset
  unfold attend at hset
  split at hset
  case isTrue => cases hset
  case isFalse hearly =>
      obtain rfl := Option.some.inj hset
      exact Nat.lt_of_not_le hearly

theorem ahead_pursue (worker : Worker) (inquiry : Inquiry) :
    (call.pursue worker inquiry engine).2.Ahead engine.now := by
  unfold pursue
  dsimp only
  split
  · exact fun _ hset => by cases hset
  · exact ahead_attend call _ _ _ _
  case h_3 | h_4 | h_5 => exact fun _ hset => by cases hset

/-- A look at a call leaves no alarm behind that is due. -/
theorem ahead_look : (call.look setup engine).2.Ahead engine.now := by
  unfold look
  split
  · unfold begin
    dsimp only
    split
    · exact fun _ hset => by cases hset
    · exact ahead_pursue call _ _ _
  · exact ahead_pursue call engine _ _
  · exact ahead_attend call engine _ _ _
  case h_4 hanswered =>
      intro instant hset
      simp [alarm, hanswered] at hset

theorem ahead_lookAll (calls : List Call) :
    ∀ looked ∈ (lookAll setup calls engine).2, looked.Ahead engine.now := by
  induction calls generalizing engine with
  | nil => exact fun _ hlooked => absurd hlooked List.not_mem_nil
  | cons first rest ih =>
      intro looked hlooked
      rcases List.mem_cons.mp hlooked with rfl | hrest
      · exact ahead_look setup first engine
      · have hahead := ih (first.look setup engine).1 looked hrest
        rwa [(look_spec setup first engine).1] at hahead

end Call

/-! ### Tasks at work -/

namespace Execution

variable (setup : RunSetup)

theorem ahead_callNext (briefing : Briefing) {calls : List Call} (waiting : List WorkerKind)
    {engine : Engine} (h : ∀ call ∈ calls, call.Ahead engine.now) :
    ∀ call ∈ (callNext setup briefing calls waiting engine).2.1, call.Ahead engine.now := by
  induction waiting generalizing calls engine with
  | nil => exact h
  | cons worker rest ih =>
      rw [callNext]
      cases Call.responses? calls with
      | none => exact h
      | some responses =>
          obtain ⟨hnow, -⟩ := Call.look_spec setup
            { worker, briefing := { briefing with prior := briefing.prior ++ responses } } engine
          have hahead := Call.ahead_look setup
            { worker, briefing := { briefing with prior := briefing.prior ++ responses } } engine
          dsimp only
          generalize Call.look
            { worker, briefing := { briefing with prior := briefing.prior ++ responses } }
            setup engine = looked at hnow hahead ⊢
          obtain ⟨seen, called⟩ := looked
          dsimp only at hnow
          rw [← hnow] at h hahead ⊢
          refine ih fun call hcall => ?_
          rcases List.mem_append.mp hcall with hold | hnew
          · exact h call hold
          · obtain rfl := List.mem_singleton.mp hnew
            exact hahead

/-- A task that goes on after a look has no alarm that is due. -/
theorem lt_of_alarm_look {execution next : Execution} {engine : Engine}
    (hgoes : (execution.look setup engine).2 = .going next) {instant : Instant}
    (hset : next.alarm setup = some instant) : engine.now < instant := by
  obtain ⟨hnow, -, -⟩ := Call.lookAll_spec setup engine execution.calls
  have hcalls := Call.ahead_lookAll setup engine execution.calls
  generalize hlook : Call.lookAll setup execution.calls engine = looked at hnow hcalls
  obtain ⟨seen, calls⟩ := looked
  have hcalled := ahead_callNext setup execution.briefing execution.waiting
    (show ∀ call ∈ calls, call.Ahead seen.now by rwa [hnow])
  obtain ⟨hnowNext, -⟩ := callNext_spec setup seen execution.briefing calls execution.waiting
  generalize hnext : callNext setup execution.briefing calls execution.waiting seen = called
    at hnowNext hcalled
  obtain ⟨after, called, waiting⟩ := called
  rcases look_cases setup execution engine hlook hnext with
    ⟨result, hover, -⟩ | ⟨result, hover, -⟩ | ⟨hlooked, hintime⟩
  · rw [hover] at hgoes
    cases hgoes
  · rw [hover] at hgoes
    cases hgoes
  · rw [hlooked] at hgoes
    obtain rfl := Standing.going.inj hgoes
    rcases List.mem_cons.mp (Clockwork.mem_of_earliest hset) with hdeadline | hcall
    · rw [Option.some.inj hdeadline, ← hnow, ← hnowNext]
      exact hintime
    · obtain ⟨call, hmem, halarm⟩ := List.mem_map.mp hcall
      rw [← hnow]
      exact hcalled call hmem instant halarm

end Execution

/-! ### Runs -/

namespace Run

variable (setup : RunSetup) (run : Run)

theorem now_lookAttempt (attempt : Attempt) (engine : Engine) :
    (run.lookAttempt setup attempt engine).1.now = engine.now := by
  cases attempt with
  | waiting task since => exact (lookWaiting_spec setup run engine task since).1
  | executing execution =>
      obtain ⟨hnow, -⟩ := Execution.look_spec setup execution engine
      rw [← hnow, lookAttempt]
      split <;> simp [*]

theorem now_pursue (todo : List Task) (attempt : Attempt) (engine : Engine) :
    (pursue setup todo attempt engine run).1.now = engine.now := by
  induction todo generalizing attempt engine run with
  | nil =>
      have hnow := now_lookAttempt setup run attempt engine
      rw [pursue]
      split
      case h_1 hlook => simpa [hlook] using hnow
      case h_2 hlook => simpa [hlook, now_close] using hnow
  | cons task rest ih =>
      have hnow := now_lookAttempt setup run attempt engine
      rw [pursue]
      split
      case h_1 hlook => simpa [hlook] using hnow
      case h_2 hlook => simpa [hlook, ih, now_close] using hnow

/-- A look at a run leaves the clock alone. -/
theorem now_look (cancelled : Bool) (engine : Engine) :
    (run.look setup cancelled engine).1.now = engine.now := by
  unfold look
  split
  case h_1 | h_2 => rfl
  case h_3 attempt todo hbusy =>
      split
      · cases attempt with
        | waiting task since => rfl
        | executing execution => exact Call.now_abandonAll engine execution.calls
      · exact now_pursue setup run todo attempt engine

/-- A task that is still at work after a look has no alarm that is due. -/
theorem lt_of_alarm_lookExecution {execution : Execution} {next : Attempt} {engine : Engine}
    (hgoes : (run.lookAttempt setup (.executing execution) engine).2 = .going next)
    {instant : Instant} (hset : next.alarm setup = some instant) : engine.now < instant := by
  rw [lookAttempt] at hgoes
  cases hlook : execution.look setup engine with
  | mk after standing =>
      rw [hlook] at hgoes
      rcases standing with going | result
      · obtain rfl := Standing.going.inj hgoes
        exact Execution.lt_of_alarm_look setup (congrArg Prod.snd hlook) hset
      · cases hgoes

/-- An attempt that goes on after a look has no alarm that is due. -/
theorem lt_of_alarm_lookAttempt {attempt next : Attempt} {engine : Engine}
    (hgoes : (run.lookAttempt setup attempt engine).2 = .going next) {instant : Instant}
    (hset : next.alarm setup = some instant) : engine.now < instant := by
  cases attempt with
  | executing execution => exact lt_of_alarm_lookExecution setup run hgoes hset
  | waiting task since =>
      have hwaited := waited_lookAttempt setup run engine task since
      generalize run.lookAttempt setup (.waiting task since) engine = seen at hwaited hgoes
      cases hwaited with
      | waits hearly =>
          obtain rfl := Standing.going.inj hgoes
          rw [← Option.some.inj hset]
          exact hearly
      | vain hmissing => cases hgoes
      | idle hmet hworkers => cases hgoes
      | begins hmet hworkers => exact lt_of_alarm_lookExecution setup run hgoes hset

theorem lt_of_alarm_pursue (todo : List Task) (attempt : Attempt) {engine : Engine}
    {instant : Instant}
    (hset : (pursue setup todo attempt engine run).2.alarm setup = some instant) :
    engine.now < instant := by
  induction todo generalizing attempt engine run with
  | nil =>
      rw [pursue] at hset
      cases hlook : run.lookAttempt setup attempt engine with
      | mk after standing =>
          rw [hlook] at hset
          rcases standing with next | result
          · rw [alarm_of_busy setup rfl] at hset
            exact lt_of_alarm_lookAttempt setup run (congrArg Prod.snd hlook) hset
          · cases hset
  | cons task rest ih =>
      rw [pursue] at hset
      cases hlook : run.lookAttempt setup attempt engine with
      | mk after standing =>
          have hnow := now_lookAttempt setup run attempt engine
          rw [hlook] at hset hnow
          rcases standing with next | result
          · rw [alarm_of_busy setup rfl] at hset
            exact lt_of_alarm_lookAttempt setup run (congrArg Prod.snd hlook) hset
          · have hlater := ih _ _ hset
            have hclosed := now_close setup run after result
            exact (hclosed.trans hnow) ▸ hlater

/-- After a look at a run, every alarm is yet to come. -/
theorem lt_of_alarm_look (cancelled : Bool) {engine : Engine} {instant : Instant}
    (hset : (run.look setup cancelled engine).2.alarm setup = some instant) :
    engine.now < instant := by
  unfold look at hset
  split at hset
  case h_1 hfinished => simp [alarm, hfinished] at hset
  case h_2 hcancelled => simp [alarm, hcancelled] at hset
  case h_3 attempt todo hbusy =>
      split at hset
      · cases hset
      · exact lt_of_alarm_pursue setup run todo attempt hset

end Run

end StoryDirector
