import StoryDirector.Proofs.Run.Accounts
import StoryDirector.Proofs.Run.Transparency
import StoryDirector.Proofs.Settings.Overriding
/-!
# StoryDirector.Proofs.Run.Horizon

How far into the future the engine reckons. Two spans from the settings are added to the clock: a
response that is kept is dead after the one, and a task that waits gives up after the other
(`Engine.Reckons`). The clock counts `2 ^ 63` seconds. **As long as it has not reached a horizon,
the engine reckons with no instant that the clock cannot show, exactly if neither span is longer
than what the clock counts beyond the horizon** (`Settings.keepsTime_iff`).

The invariant is that all that is kept was kept, and all that waits began to wait, before the
horizon (`Engine.ReachedBefore.dated`). What the environment sets is short enough
(`Settings.keepsTime_overriddenBy_iff`). What a file says need not be, and is found acceptable
nevertheless (`Settings.not_keepsTime_of_acceptable`).
-/

namespace StoryDirector

/-! ### The clock -/

namespace Instant

/-- An instant comes before so many seconds are over. -/
def Before (seconds : Nat) (instant : Instant) : Prop :=
  Duration.wholeSeconds instant < seconds

/-- How far the clock counts: its seconds are a number of 64 bits, one of them the sign. -/
def clockSeconds : Nat := Nat.pow 2 63

/-- The clock can show an instant. -/
def OnClock (instant : Instant) : Prop :=
  Before clockSeconds instant

/-- The last instant before so many seconds are over. -/
def lastBefore (seconds : Nat) : Instant :=
  Duration.ofSeconds seconds - 1

variable {horizon seconds : Nat}

theorem before_lastBefore (h : 0 < horizon) : Before horizon (lastBefore horizon) := by
  simp only [Before, lastBefore, Duration.wholeSeconds, Duration.ofSeconds, Duration.perSecond]
  omega

/-- As many seconds as the clock counts beyond a horizon can be added to any instant before it, -/
theorem onClock_add {instant : Instant} (h : Before horizon instant)
    (hseconds : horizon + seconds ≤ clockSeconds) :
    OnClock (instant + Duration.ofSeconds seconds) := by
  simp only [Before, OnClock, Duration.wholeSeconds, Duration.ofSeconds, Duration.perSecond] at *
  omega

/-- and no more can be added to the last of these instants. -/
theorem le_of_onClock_add (hhorizon : 0 < horizon)
    (h : OnClock (lastBefore horizon + Duration.ofSeconds seconds)) :
    horizon + seconds ≤ clockSeconds := by
  simp only [Before, lastBefore, OnClock, Duration.wholeSeconds, Duration.ofSeconds,
    Duration.perSecond] at *
  omega

end Instant

/-! ### Runs before a horizon -/

namespace Engine

/-- The engines that come about with some settings while the clock has not reached a horizon, each
with the runs that are under way. Runs may begin at any time, see to their attempts in any order,
and be cancelled or given up. -/
inductive ReachedBefore (horizon : Nat) (settings : Settings) : Engine → List Run → Prop where
  /-- No run was begun, and the cache is empty. -/
  | opened (engine : Engine) (hbefore : Instant.Before horizon engine.now) :
      ReachedBefore horizon settings
        { engine with
          store := { cache := Cache.create settings.cache.ttl settings.cache.maxEntries } } []
  /-- A run begins. -/
  | begin {engine : Engine} {runs : List Run} (h : ReachedBefore horizon settings engine runs)
      (tasks : List Task) (action : PlayerAction) (kind : ActionKind) (session : Session) :
      ReachedBefore horizon settings engine (Run.begin tasks action kind session engine.now :: runs)
  /-- A run sees to its attempt. -/
  | attend {engine : Engine} {before after : List Run} {run : Run}
      (h : ReachedBefore horizon settings engine (before ++ run :: after)) (setup : RunSetup)
      (hlimits : setup.limits = settings.run) :
      ReachedBefore horizon settings (run.attend setup engine).1
        (before ++ (run.attend setup engine).2 :: after)
  /-- A run is cancelled. -/
  | cancel {engine : Engine} {before after : List Run} {run : Run}
      (h : ReachedBefore horizon settings engine (before ++ run :: after)) (setup : RunSetup) :
      ReachedBefore horizon settings (run.look setup true engine).1
        (before ++ (run.look setup true engine).2 :: after)
  /-- A run is given up. -/
  | leave {engine : Engine} {before after : List Run} {run : Run}
      (h : ReachedBefore horizon settings engine (before ++ run :: after)) :
      ReachedBefore horizon settings (run.abandon engine) (before ++ after)
  /-- The clock moves. -/
  | wind {engine : Engine} {runs : List Run} (h : ReachedBefore horizon settings engine runs)
      (now : Instant) (hbefore : Instant.Before horizon now) :
      ReachedBefore horizon settings { engine with now } runs

/-- An instant with which the engine reckons. A response that makes room for another in the course
of one step is not among those that are kept, but it was to be dead at the same instant as the
other. -/
inductive Reckons (settings : Settings) (engine : Engine) (runs : List Run) : Instant → Prop where
  /-- A response that is kept is dead. -/
  | expiry {entry : CacheEntry} (hentry : entry ∈ engine.store.cache.entries) :
      Reckons settings engine runs entry.expiresAt
  /-- A task that waits gives up. -/
  | deadline {run : Run} {task : Task} {since : Instant} {todo : List Task} (hrun : run ∈ runs)
      (hwaits : run.stage = .busy (.waiting task since) todo) :
      Reckons settings engine runs (since + settings.run.dependencyTimeout)

end Engine

namespace Run

variable {setup : RunSetup} {engine after : Engine} {run : Run} {attempt next : Attempt}
  {todo : List Task} {result : TaskResult}

theorem attend_of_going (h : run.lookAttempt setup attempt engine = (after, .going next)) :
    attend { run with stage := .busy attempt todo } setup engine =
      (after, { run with stage := .busy next todo }) := by
  have hsame : lookAttempt { run with stage := .busy attempt todo } setup attempt engine =
      (after, .going next) := h
  simp only [attend, hsame]

theorem attend_of_over (h : run.lookAttempt setup attempt engine = (after, .over result)) :
    attend { run with stage := .busy attempt todo } setup engine =
      ((run.close setup result after).1,
       { (run.close setup result after).2 with
         stage := stageOf (run.close setup result after).1.now todo }) := by
  have hsame : lookAttempt { run with stage := .busy attempt todo } setup attempt engine =
      (after, .over result) := h
  simp only [attend, hsame]
  rw [close, close]
  cases result.error <;> rfl

end Run

namespace Engine

variable {horizon : Nat} {settings : Settings} {engine : Engine} {runs before after : List Run}
  {run : Run}

/-- A look at a run is one of the ways in which engines come about. -/
theorem ReachedBefore.look (h : ReachedBefore horizon settings engine (before ++ run :: after))
    {setup : RunSetup} (hlimits : setup.limits = settings.run) (cancelled : Bool) :
    ReachedBefore horizon settings (run.look setup cancelled engine).1
      (before ++ (run.look setup cancelled engine).2 :: after) := by
  have hkeeps : Run.Keeps setup fun engine run =>
      ReachedBefore horizon settings engine (before ++ run :: after) := by
    refine ⟨fun hrun hlook => ?_, fun hrun hlook => ?_, fun hrun => hrun.cancel setup⟩
    · have hattended := hrun.attend setup hlimits
      rwa [Run.attend_of_going hlook] at hattended
    · have hattended := hrun.attend setup hlimits
      rwa [Run.attend_of_over hlook] at hattended
  exact Run.look_induction hkeeps cancelled h

end Engine

/-! ### What is reckoned -/

/-- What holds of all items of a list holds of one of them and of all others. -/
theorem forall_mem_middle {α : Type} {P : α → Prop} {before after : List α} {item : α} :
    (∀ other ∈ before ++ item :: after, P other) ↔
      P item ∧ ∀ other ∈ before ++ after, P other := by
  simp only [List.forall_mem_append, List.forall_mem_cons]
  exact and_left_comm

namespace Cache

variable {horizon : Nat} {span : Duration} {cache : Cache} {key : CacheKey} {response : Response}
  {now : Instant}

/-- Responses are kept for one span, and those in the cache were kept before a horizon. -/
structure Dated (horizon : Nat) (span : Duration) (cache : Cache) : Prop where
  /-- It is the span for which responses are kept. -/
  ttl : cache.ttl = span
  /-- Each response is dead when the span has passed since it was kept. -/
  entries : ∀ entry ∈ cache.entries,
    ∃ kept, Instant.Before horizon kept ∧ entry.expiresAt = kept + span

theorem dated_create (span : Duration) (maxEntries : Nat) :
    (create span maxEntries).Dated horizon span :=
  ⟨rfl, fun _ hentry => absurd hentry List.not_mem_nil⟩

theorem dated_lookup (h : cache.Dated horizon span) (key : CacheKey) (now : Instant) :
    (cache.lookup key now).2.Dated horizon span :=
  ⟨(ttl_lookup cache key now).trans h.ttl, fun entry hentry =>
    h.entries entry (mem_of_mem_lookup hentry)⟩

theorem dated_insert (h : cache.Dated horizon span) (key : CacheKey) (response : Response)
    (hbefore : Instant.Before horizon now) :
    (cache.insert key response span now).Dated horizon span := by
  refine ⟨(ttl_insert cache key response span now).trans h.ttl, fun entry hentry => ?_⟩
  rcases mem_of_mem_insert hentry with hold | ⟨-, rfl⟩
  · exact h.entries entry hold
  · exact ⟨now, hbefore, rfl⟩

end Cache

namespace Inquiry

variable {horizon : Nat} {span : Duration} {inquiry : Inquiry} {store : Store} {pass : Pass}
  {now : Instant}

theorem ttl_enter : (inquiry.enter pass now store).2.ttl = inquiry.ttl := by
  rw [enter]
  split
  · split <;> rfl
  · rfl

theorem ttl_approach : (inquiry.approach now store).2.ttl = inquiry.ttl := by
  rw [approach]
  split
  · split
    · rfl
    · exact ttl_enter
  · exact ttl_enter
  case h_3 | h_4 | h_5 => rfl

theorem dated_enter (h : store.cache.Dated horizon span) :
    (inquiry.enter pass now store).1.cache.Dated horizon span := by
  have hlookup := Cache.dated_lookup h inquiry.key now
  rw [enter]
  split
  · split
    case h_1 heq | h_2 heq =>
        rw [heq] at hlookup
        exact ⟨hlookup.ttl, hlookup.entries⟩
  · exact h

theorem dated_approach (h : store.cache.Dated horizon span) :
    (inquiry.approach now store).1.cache.Dated horizon span := by
  have hlookup := Cache.dated_lookup h inquiry.key now
  rw [approach]
  split
  · split
    case h_1 heq =>
        rw [heq] at hlookup
        exact ⟨hlookup.ttl, hlookup.entries⟩
    case h_2 heq =>
        rw [heq] at hlookup
        exact dated_enter hlookup
  · exact dated_enter h
  case h_3 | h_4 | h_5 => exact h

theorem dated_supply (h : store.cache.Dated horizon inquiry.ttl) (response : Response)
    (hbefore : Instant.Before horizon now) :
    (inquiry.supply response now store).1.cache.Dated horizon inquiry.ttl := by
  rw [supply]
  split
  · exact Cache.dated_insert h inquiry.key response hbefore
  case h_2 | h_3 | h_4 | h_5 => exact h

end Inquiry

/-- A call asks for its response to be kept for a span. -/
def Call.Lasts (span : Duration) (call : Call) : Prop :=
  match call.stage with
  | .queued _ inquiry | .working inquiry _ _ => inquiry.ttl = span
  | .fresh | .answered _ => True

/-- The clock has not reached the horizon, and all that is kept was kept before it. -/
structure Engine.Dated (horizon : Nat) (span : Duration) (engine : Engine) : Prop where
  /-- The clock has not reached the horizon, -/
  clock : Instant.Before horizon engine.now
  /-- and neither had it when the responses were kept. -/
  cache : engine.store.cache.Dated horizon span

theorem Engine.Dated.notify {horizon : Nat} {span : Duration} {engine : Engine}
    (h : engine.Dated horizon span) (setup : RunSetup) (notice : Notice) :
    (engine.notify setup notice).Dated horizon span :=
  ⟨h.clock, h.cache⟩

/-- What is known of an attempt: its calls ask for one span, and its wait began before the
horizon. -/
def Attempt.Dated (horizon : Nat) (span : Duration) : Attempt → Prop
  | .waiting _ since => Instant.Before horizon since
  | .executing execution => ∀ call ∈ execution.calls, call.Lasts span

/-- It is known of the attempt that is under way. -/
def Run.Dated (horizon : Nat) (span : Duration) (run : Run) : Prop :=
  match run.stage with
  | .busy attempt _ => attempt.Dated horizon span
  | .finished | .cancelled => True

namespace Call

variable {horizon : Nat} {span : Duration} {setup : RunSetup} {engine : Engine} {call : Call}
  {worker : Worker} {inquiry : Inquiry}

/-- Asking leaves the cache dated, and what is asked for is asked for with its span. -/
theorem Asks.dated {asked : Inquiry} {store : Store}
    (h : call.Asks setup engine worker inquiry) (hcall : call.Lasts span)
    (hengine : engine.Dated horizon span)
    (happroach : inquiry.approach engine.now engine.store = (store, asked)) :
    store.cache.Dated horizon span ∧ asked.ttl = span := by
  have hcache : (inquiry.approach engine.now engine.store).1.cache.Dated horizon span :=
    Inquiry.dated_approach hengine.cache
  have httl : (inquiry.approach engine.now engine.store).2.ttl = inquiry.ttl := Inquiry.ttl_approach
  rw [happroach] at hcache httl
  refine ⟨hcache, httl.trans ?_⟩
  cases h with
  | first => exact hengine.cache.ttl
  | again hqueued =>
      rw [Lasts, hqueued] at hcall
      exact hcall

/-- Every step of a call leaves everything dated. -/
theorem dated_step {next : Engine} {stepped : Call}
    (hstep : Step setup (engine, call) (next, stepped)) (hengine : engine.Dated horizon span)
    (hcall : call.Lasts span) : next.Dated horizon span ∧ stepped.Lasts span := by
  cases hstep with
  | told => exact ⟨hengine.notify setup _, hcall⟩
  | refused => exact ⟨hengine, trivial⟩
  | found hasks happroach =>
      obtain ⟨hcache, -⟩ := hasks.dated hcall hengine happroach
      exact ⟨⟨hengine.clock, hcache⟩, trivial⟩
  | queues hasks happroach =>
      obtain ⟨hcache, httl⟩ := hasks.dated hcall hengine happroach
      exact ⟨⟨hengine.clock, hcache⟩, httl⟩
  | starts hasks happroach =>
      obtain ⟨hcache, httl⟩ := hasks.dated hcall hengine happroach
      exact ⟨⟨hengine.clock, hcache⟩, httl⟩
  | ends response hworking =>
      -- The response is kept for the span that the call asked for, which is that of the cache.
      rw [Lasts, hworking] at hcall
      subst hcall
      exact ⟨⟨hengine.clock, Inquiry.dated_supply hengine.cache response hengine.clock⟩, trivial⟩

/-- Whichever of some calls takes a step, all stays dated. -/
theorem kept_dated (setup : RunSetup) (span : Duration) :
    Kept setup fun engine calls => engine.Dated horizon span ∧ ∀ call ∈ calls, call.Lasts span where
  step := by
    intro engine next call stepped before after hstep h
    obtain ⟨hengine, hcalls⟩ := h
    obtain ⟨hcall, hothers⟩ := forall_mem_middle.mp hcalls
    obtain ⟨hnext, hstepped⟩ := dated_step hstep hengine hcall
    exact ⟨hnext, forall_mem_middle.mpr ⟨hstepped, hothers⟩⟩
  more := by
    intro engine calls call same h _ hfresh
    obtain ⟨hengine, hcalls⟩ := h
    refine ⟨hengine, List.forall_mem_append.mpr ⟨hcalls, List.forall_mem_singleton.mpr ?_⟩⟩
    rw [Lasts, hfresh]
    trivial

end Call

namespace Run

variable {horizon : Nat} {span : Duration} {engine : Engine} {attempt : Attempt}

theorem dated_abandonAll (h : engine.Dated horizon span) (calls : List Call) :
    (Call.abandonAll calls engine).Dated horizon span :=
  ⟨(Call.now_abandonAll engine calls).symm ▸ h.clock,
    (Call.cache_abandonAll calls engine).symm ▸ h.cache⟩

theorem dated_executing (setup : RunSetup) {execution : Execution}
    (hengine : engine.Dated horizon span) (hcalls : ∀ call ∈ execution.calls, call.Lasts span)
    (run : Run) :
    (run.lookAttempt setup (.executing execution) engine).1.Dated horizon span ∧
      ∀ next, (run.lookAttempt setup (.executing execution) engine).2 = .going next →
        next.Dated horizon span := by
  obtain ⟨hacted, hlasts⟩ :=
    Execution.act_induction (Call.kept_dated setup span).upheld ⟨hengine, hcalls⟩
  rw [lookAttempt]
  rcases Execution.look_of_act execution setup engine with
    ⟨result, hover, -⟩ | ⟨result, hover, -⟩ | hgoes
  · rw [hover]
    exact ⟨hacted, (fun _ hnext => by cases hnext)⟩
  · rw [hover]
    exact ⟨dated_abandonAll hacted _, (fun _ hnext => by cases hnext)⟩
  · rw [hgoes]
    refine ⟨hacted, fun next hnext => ?_⟩
    obtain rfl := Standing.going.inj hnext
    exact hlasts

theorem dated_lookAttempt (setup : RunSetup) (hengine : engine.Dated horizon span)
    (hattempt : attempt.Dated horizon span) (run : Run) :
    (run.lookAttempt setup attempt engine).1.Dated horizon span ∧
      ∀ next, (run.lookAttempt setup attempt engine).2 = .going next → next.Dated horizon span := by
  cases attempt with
  | executing execution => exact dated_executing setup hengine hattempt run
  | waiting task since =>
      have hwaited := waited_lookAttempt setup run engine task since
      generalize run.lookAttempt setup (.waiting task since) engine = seen at hwaited ⊢
      cases hwaited with
      | waits =>
          refine ⟨hengine, fun next hnext => ?_⟩
          obtain rfl := Standing.going.inj hnext
          exact hattempt
      | vain => exact ⟨hengine, (fun _ hnext => by cases hnext)⟩
      | idle => exact ⟨hengine.notify setup _, (fun _ hnext => by cases hnext)⟩
      | begins =>
          refine dated_executing setup (hengine.notify setup _) (fun call hcall => ?_) run
          rw [Call.Lasts, (Execution.fresh_begin task _ engine.now call hcall).1]
          trivial

theorem dated_abandonAttempt (h : engine.Dated horizon span) (attempt : Attempt) :
    (abandonAttempt attempt engine).Dated horizon span := by
  cases attempt with
  | waiting task since => exact h
  | executing execution => exact dated_abandonAll h execution.calls

/-- A run whose next task begins to wait before the horizon. -/
theorem dated_of_stageOf {run : Run} {now : Instant} {todo : List Task}
    (hstage : run.stage = stageOf now todo) (hbefore : Instant.Before horizon now) :
    run.Dated horizon span := by
  rw [Dated, hstage]
  cases todo with
  | nil => trivial
  | cons task rest => exact hbefore

/-- A look at a run leaves everything dated. -/
theorem keeps_dated (setup : RunSetup) (span : Duration) :
    Keeps setup fun engine run => engine.Dated horizon span ∧ run.Dated horizon span where
  going := by
    intro engine after run attempt next todo h hlook
    obtain ⟨hafter, hgoes⟩ := dated_lookAttempt setup h.1 h.2 run
    rw [hlook] at hafter hgoes
    exact ⟨hafter, hgoes next rfl⟩
  ended := by
    intro engine after run attempt result todo h hlook
    obtain ⟨hafter, -⟩ := dated_lookAttempt setup h.1 h.2 run
    rw [hlook] at hafter
    have hclosed : (run.close setup result after).1.Dated horizon span :=
      ⟨(now_close setup run after result).symm ▸ hafter.clock,
        (store_close run setup result after).symm ▸ hafter.cache⟩
    exact ⟨hclosed, dated_of_stageOf rfl hclosed.clock⟩
  stopped := fun h => ⟨dated_abandonAttempt h.1 _, trivial⟩

end Run

namespace Engine

variable {horizon : Nat} {settings : Settings} {engine : Engine} {runs : List Run}

theorem ReachedBefore.dated (h : ReachedBefore horizon settings engine runs) :
    engine.Dated horizon settings.cache.ttl ∧
      ∀ run ∈ runs, run.Dated horizon settings.cache.ttl := by
  induction h with
  | opened engine hbefore =>
      exact ⟨⟨hbefore, Cache.dated_create _ _⟩, fun run hrun => absurd hrun List.not_mem_nil⟩
  | begin _ tasks action kind session ih =>
      exact ⟨ih.1, List.forall_mem_cons.mpr ⟨Run.dated_of_stageOf rfl ih.1.clock, ih.2⟩⟩
  | attend _ setup hlimits ih =>
      obtain ⟨hrun, hothers⟩ := forall_mem_middle.mp ih.2
      obtain ⟨hattended, hran⟩ :=
        Run.attend_induction (Run.keeps_dated setup settings.cache.ttl) ⟨ih.1, hrun⟩
      exact ⟨hattended, forall_mem_middle.mpr ⟨hran, hothers⟩⟩
  | cancel _ setup ih =>
      obtain ⟨hrun, hothers⟩ := forall_mem_middle.mp ih.2
      obtain ⟨hlooked, hran⟩ :=
        Run.look_induction (Run.keeps_dated setup settings.cache.ttl) true ⟨ih.1, hrun⟩
      exact ⟨hlooked, forall_mem_middle.mpr ⟨hran, hothers⟩⟩
  | @leave engine before after run _ ih =>
      refine ⟨?_, (forall_mem_middle.mp ih.2).2⟩
      rw [Run.abandon]
      split
      case h_1 | h_2 => exact ih.1
      case h_3 attempt todo _ => exact Run.dated_abandonAttempt ih.1 attempt
  | wind _ now hbefore ih => exact ⟨⟨hbefore, ih.1.cache⟩, ih.2⟩

end Engine

/-! ### A response that is kept -/

/-- A call that finds nothing and no one else about, and whose worker answers at once, leaves its
response in the cache. -/
theorem Call.look_kept {setup : RunSetup} {engine : Engine} {call : Call} {worker : Worker}
    {outcome : Outcome} (hfresh : call.stage = .fresh)
    (hworker : setup.registry.get? call.worker = some worker)
    (hreply : ∀ heard, worker.reply heard call.briefing = { outcome })
    (hsuccess : (outcome.response call.worker 0).success = true)
    (hidle : engine.store.flights.Idle) (hempty : engine.store.cache.entries = []) :
    ∃ after response, call.look setup engine = (after, call.answered response) ∧
      after.now = engine.now ∧ ∃ entry ∈ after.store.cache.entries,
        entry.expiresAt = engine.now + engine.store.cache.ttl := by
  have hmiss : ∀ key, engine.store.cache.lookup key engine.now = (none, engine.store.cache) := by
    intro key
    rw [Cache.lookup, Cache.kept?, hempty, List.find?_nil]
  have happroach : ∀ inquiry : Inquiry, inquiry.stage = .fresh →
      inquiry.approach engine.now engine.store =
        (⟨engine.store.cache.countMiss, (engine.store.flights.join inquiry.key).1⟩,
         { inquiry with stage := .computing (engine.store.flights.join inquiry.key).2 }) := by
    intro inquiry hinquiry
    rw [Inquiry.approach_of_miss hinquiry hidle (congrArg Prod.fst (hmiss inquiry.key)), hmiss]
  simp only [look, hfresh, begin, hworker, pursue, Engine.notify, happroach]
  rw [start_prompt _ _ _ (hreply _)]
  refine ⟨_, _, rfl, rfl, ?_⟩
  simp only [Inquiry.supply]
  rw [Cache.insert_of_success hsuccess]
  exact ⟨_, List.mem_append_right _ (List.mem_singleton_self _), rfl⟩

/-- A run with a task for the worker that always remembers the same leaves its response in the
cache. -/
theorem Run.attend_kept {engine : Engine} (hidle : engine.store.flights.Idle)
    (hempty : engine.store.cache.entries = []) (limits : RunSettings) (action : PlayerAction)
    (kind : ActionKind) (session : Session) :
    ∃ entry ∈ ((begin [Task.steady] action kind session engine.now).attend
        { RunSetup.steady with limits } engine).1.store.cache.entries,
      entry.expiresAt = engine.now + engine.store.cache.ttl := by
  let setup : RunSetup := { RunSetup.steady with limits }
  let run : Run := begin [Task.steady] action kind session engine.now
  let told : Engine := engine.notify setup
    (Progress.taskStarted run.session.id Task.steady run.ledger.results.length run.total)
  let call : Call := { worker := .historian, briefing := run.briefing setup Task.steady }
  obtain ⟨after, response, hlook, hnow, entry, hentry, hexpires⟩ :=
    @Call.look_kept setup told call Worker.steady _ rfl rfl (fun _ => rfl) rfl hidle hempty
  have hall : Call.lookAll setup [call] told = (after, [call.answered response]) := by
    rw [Call.lookAll, hlook]
    rfl
  have hover := @Execution.over_of_responses setup told
    (Execution.begin Task.steady (run.briefing setup Task.steady) engine.now) after after _ _ _ hall
    rfl (Call.responses?_cons (Call.response?_answered call response) rfl) hnow
  have hmet : run.ledger.missing Task.steady.dependsOn = [] := rfl
  rcases lookAttempt_of_met setup run engine hmet engine.now with ⟨hworkers, -⟩ | ⟨-, hbegins⟩
  · cases hworkers
  · have hlooked := hbegins.trans (by rw [lookAttempt, hover])
    have hattend : run.attend setup engine = _ := attend_of_over hlooked
    refine ⟨entry, ?_, hexpires⟩
    rw [hattend]
    dsimp only
    rw [store_close]
    exact hentry

/-! ### Settings -/

namespace Settings

variable {horizon : Nat} {settings : Settings}

/-- With an engine under some settings, a clock that has not reached a horizon never comes to an
instant that it cannot show. -/
def KeepsTime (horizon : Nat) (settings : Settings) : Prop :=
  ∀ engine runs, Engine.ReachedBefore horizon settings engine runs →
    ∀ instant, engine.Reckons settings runs instant → Instant.OnClock instant

theorem keepsTime_of_le (httl : horizon + settings.cache.ttlSeconds ≤ Instant.clockSeconds)
    (htimeout : horizon + settings.run.dependencyTimeoutSeconds ≤ Instant.clockSeconds) :
    settings.KeepsTime horizon := by
  intro engine runs hreached instant hreckons
  obtain ⟨hengine, hruns⟩ := hreached.dated
  cases hreckons with
  | expiry hentry =>
      obtain ⟨kept, hbefore, hexpires⟩ := hengine.cache.entries _ hentry
      rw [hexpires]
      exact Instant.onClock_add hbefore httl
  | deadline hrun hwaits =>
      have hsince := hruns _ hrun
      rw [Run.Dated, hwaits] at hsince
      exact Instant.onClock_add hsince htimeout

/-- A run of a task for the worker that always remembers the same. -/
def steadyRun (now : Instant) : Run :=
  Run.begin [Task.steady] { text := "look" } .dialogue { id := ⟨7⟩, turn := 1 } now

theorem le_of_keepsTime (hhorizon : 0 < horizon) (h : settings.KeepsTime horizon) :
    horizon + settings.cache.ttlSeconds ≤ Instant.clockSeconds ∧
      horizon + settings.run.dependencyTimeoutSeconds ≤ Instant.clockSeconds := by
  let engine : Engine :=
    { Engine.create settings.cache settings.run with now := Instant.lastBefore horizon }
  have hopened : Engine.ReachedBefore horizon settings engine [] :=
    .opened engine (Instant.before_lastBefore hhorizon)
  have hbegun : Engine.ReachedBefore horizon settings engine [steadyRun engine.now] :=
    hopened.begin _ _ _ _
  -- The task waits from the start, and one look later its response is kept.
  constructor
  · have hattended := @Engine.ReachedBefore.attend horizon settings engine [] [] _ hbegun
      { RunSetup.steady with limits := settings.run } rfl
    obtain ⟨entry, hentry, hexpires⟩ := @Run.attend_kept engine Flights.idle_empty rfl
      settings.run { text := "look" } .dialogue { id := ⟨7⟩, turn := 1 }
    have hclock := h _ _ hattended entry.expiresAt (.expiry hentry)
    rw [hexpires] at hclock
    exact Instant.le_of_onClock_add hhorizon hclock
  · exact Instant.le_of_onClock_add hhorizon
      (h _ _ hbegun _ (.deadline (List.mem_singleton_self _) rfl))

theorem keepsTime_iff (hhorizon : 0 < horizon) (settings : Settings) :
    settings.KeepsTime horizon ↔
      horizon + settings.cache.ttlSeconds ≤ Instant.clockSeconds ∧
        horizon + settings.run.dependencyTimeoutSeconds ≤ Instant.clockSeconds :=
  ⟨le_of_keepsTime hhorizon, fun h => keepsTime_of_le h.1 h.2⟩

/-- A span of all the seconds that the clock counts but one is too long as soon as one is over. -/
theorem not_keepsTime_of_long (hhorizon : 2 ≤ horizon)
    (hlong : Instant.clockSeconds ≤ settings.cache.ttlSeconds + 1 ∨
      Instant.clockSeconds ≤ settings.run.dependencyTimeoutSeconds + 1) :
    ¬ settings.KeepsTime horizon := by
  intro hkeeps
  obtain ⟨httl, htimeout⟩ := le_of_keepsTime (Nat.zero_lt_of_lt hhorizon) hkeeps
  omega

/-- What the environment sets is short enough for a horizon a day before the end of the clock. -/
theorem keepsTime_overriddenBy_iff (hhorizon : 0 < horizon)
    (hday : horizon + 86400 ≤ Instant.clockSeconds) (settings : Settings) (env : Environment) :
    (settings.overriddenBy env).KeepsTime horizon ↔
      (horizon + settings.cache.ttlSeconds ≤ Instant.clockSeconds ∨ env.Sets .ttl) ∧
        (horizon + settings.run.dependencyTimeoutSeconds ≤ Instant.clockSeconds ∨
          env.Sets .dependencyTimeout) := by
  have hshort : ∀ {n}, n ≤ 86400 → horizon + n ≤ Instant.clockSeconds := by
    intro n hn
    omega
  have httl : ∀ n, env.setting? .ttl = some n → horizon + n ≤ Instant.clockSeconds :=
    fun n hn => hshort (Environment.range_of_wholeOf? hn).2
  have htimeout : ∀ n, env.setting? .dependencyTimeout = some n →
      horizon + n ≤ Instant.clockSeconds :=
    fun n hn => hshort (Nat.le_trans (Environment.range_of_wholeOf? hn).2 (by decide))
  rw [keepsTime_iff hhorizon, overriddenBy_eq, ← Environment.isSome_setting?_iff,
    ← Environment.isSome_setting?_iff]
  exact and_congr (getD_iff (P := (horizon + · ≤ Instant.clockSeconds)) httl _)
    (getD_iff (P := (horizon + · ≤ Instant.clockSeconds)) htimeout _)

/-- **Which settings keep time.** While the clock has not reached a horizon, those do with which a
response is kept, and a task waits, for no longer than the clock counts beyond the horizon, and no
others. A span that is too long is mended by what is acceptable in its variable, and only by that.
What is loaded without a file keeps time. -/
theorem keepsTime_exactly (settings : Settings) :
    (∀ horizon, 0 < horizon → (settings.KeepsTime horizon ↔
      horizon + settings.cache.ttlSeconds ≤ Instant.clockSeconds ∧
        horizon + settings.run.dependencyTimeoutSeconds ≤ Instant.clockSeconds)) ∧
    (∀ horizon env, 0 < horizon → horizon + 86400 ≤ Instant.clockSeconds →
      ((settings.overriddenBy env).KeepsTime horizon ↔
        (horizon + settings.cache.ttlSeconds ≤ Instant.clockSeconds ∨ env.Sets .ttl) ∧
          (horizon + settings.run.dependencyTimeoutSeconds ≤ Instant.clockSeconds ∨
            env.Sets .dependencyTimeout))) ∧
    ∀ horizon env loaded, 0 < horizon → horizon + 86400 ≤ Instant.clockSeconds →
      loadFrom .missing env = .ok loaded → loaded.KeepsTime horizon := by
  refine ⟨fun horizon hhorizon => settings.keepsTime_iff hhorizon,
    fun horizon env hhorizon hday => settings.keepsTime_overriddenBy_iff hhorizon hday env,
    fun horizon env loaded hhorizon hday hloaded => ?_⟩
  rw [loadFrom_missing] at hloaded
  obtain rfl := Except.ok.inj hloaded
  have httl : horizon + ({} : Settings).cache.ttlSeconds ≤ Instant.clockSeconds :=
    Nat.le_trans (Nat.add_le_add_left (by decide) horizon) hday
  have htimeout : horizon + ({} : Settings).run.dependencyTimeoutSeconds ≤ Instant.clockSeconds :=
    Nat.le_trans (Nat.add_le_add_left (by decide) horizon) hday
  exact (keepsTime_overriddenBy_iff hhorizon hday {} env).mpr ⟨.inl httl, .inl htimeout⟩

/-- A file whose settings are acceptable need not keep time: it may have responses kept, or tasks
wait, for as many seconds as the clock counts, and then a clock that shows one second is too far
on. -/
theorem not_keepsTime_of_acceptable :
    (∃ settings, ofToml? "[cache]\nttl_secs = 9223372036854775807\n" = some settings ∧
      settings.isValid = true ∧ ¬ settings.KeepsTime (Nat.pow 2 62) ∧ ¬ settings.KeepsTime 2) ∧
    ∃ settings, ofToml? "[scheduler]\ndependency_timeout_secs = 9223372036854775807\n" =
      some settings ∧ settings.isValid = true ∧ ¬ settings.KeepsTime (Nat.pow 2 62) ∧
        ¬ settings.KeepsTime 2 := by
  have httl : (ofToml? "[cache]\nttl_secs = 9223372036854775807\n").map
      (fun settings => (settings.isValid, settings.cache.ttlSeconds)) =
        some (true, 9223372036854775807) := by decide +kernel
  have htimeout : (ofToml? "[scheduler]\ndependency_timeout_secs = 9223372036854775807\n").map
      (fun settings => (settings.isValid, settings.run.dependencyTimeoutSeconds)) =
        some (true, 9223372036854775807) := by decide +kernel
  constructor
  · obtain ⟨settings, hread, hspan⟩ := Option.map_eq_some_iff.mp httl
    obtain ⟨hvalid, hspan⟩ := Prod.mk.inj hspan
    have hlong : Instant.clockSeconds ≤ settings.cache.ttlSeconds + 1 := by
      rw [hspan]
      decide
    exact ⟨settings, hread, hvalid, not_keepsTime_of_long (by decide) (.inl hlong),
      not_keepsTime_of_long (by decide) (.inl hlong)⟩
  · obtain ⟨settings, hread, hspan⟩ := Option.map_eq_some_iff.mp htimeout
    obtain ⟨hvalid, hspan⟩ := Prod.mk.inj hspan
    have hlong : Instant.clockSeconds ≤ settings.run.dependencyTimeoutSeconds + 1 := by
      rw [hspan]
      decide
    exact ⟨settings, hread, hvalid, not_keepsTime_of_long (by decide) (.inr hlong),
      not_keepsTime_of_long (by decide) (.inr hlong)⟩

end Settings

end StoryDirector
