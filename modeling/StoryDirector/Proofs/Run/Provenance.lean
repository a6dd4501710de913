import StoryDirector.Proofs.Briefing.Question
import StoryDirector.Proofs.Run.Accounts
import StoryDirector.Proofs.Run.Verdict
/-!
# StoryDirector.Proofs.Run.Provenance

**What the cache answers with was said in reply to the same question** (`Engine.faithful_key`). Who
is told what the cache holds gets what the worker replied to a briefing that it heard, and the two
briefings differ in nothing that counts (`Briefing.SameQuestion`), unless SHA-256 has one digest for
two texts (`Sha256.Collide`).

The invariant follows a response on its way: a worker at work for a call has replied to the briefing
of the call (`Call.Traced`), so what is kept under a key came of a reply to a briefing with that key
(`Engine.Gave`), and so did what is found under it. Runs matter only for the calls that they make,
so all this is shown of calls in any order (`Engine.Calling`), and then it is shown that a look at a
run is some looks at its calls (`Run.keeps_calling`).
-/

namespace StoryDirector

/-! ### Where responses come from -/

/-- Two texts have one digest though they differ. -/
def Sha256.Collide (s t : String) : Prop :=
  s ≠ t ∧ hexDigest s = hexDigest t

namespace Engine

variable {registry : Registry} {engine next : Engine} {kind : WorkerKind}
  {briefing asked : Briefing} {reply : Reply} {key : CacheKey} {response : Response}
  {calls others : List Call} {told : List Hearing}

/-- A worker heard a briefing, after others, and this was its reply. -/
def Replied (registry : Registry) (engine : Engine) (kind : WorkerKind) (asked : Briefing)
    (reply : Reply) : Prop :=
  ∃ worker earlier later, registry.get? kind = some worker ∧
    engine.heardBy kind = earlier ++ asked :: later ∧ reply = worker.reply earlier asked

/-- A response came of the reply to a briefing that has a key. -/
def Gave (registry : Registry) (engine : Engine) (key : CacheKey) (response : Response) : Prop :=
  ∃ asked reply took, engine.Replied registry key.worker asked reply ∧
    CacheKey.of key.worker asked = key ∧ response = reply.outcome.response key.worker took

/-- A response answers a briefing: it came of the worker's reply to a briefing that asks the same
question, unless the digests of two texts collide. -/
def Answers (registry : Registry) (engine : Engine) (kind : WorkerKind) (briefing : Briefing)
    (response : Response) : Prop :=
  ∃ asked reply took, engine.Replied registry kind asked reply ∧
    response = reply.outcome.response kind took ∧
    (asked.SameQuestion briefing ∨
      Sha256.Collide asked.canonicalText briefing.canonicalText)

theorem Gave.answers (h : engine.Gave registry (CacheKey.of kind briefing) response) :
    engine.Answers registry kind briefing response := by
  obtain ⟨asked, reply, took, hreplied, hkey, hresponse⟩ := h
  refine ⟨asked, reply, took, hreplied, hresponse, ?_⟩
  have hdigest : Sha256.hexDigest asked.canonicalText = Sha256.hexDigest briefing.canonicalText :=
    congrArg (fun key : CacheKey => key.fingerprint.hex) hkey
  by_cases htext : asked.canonicalText = briefing.canonicalText
  · exact Or.inl (Briefing.sameQuestion_of_canonicalText htext)
  · exact Or.inr ⟨htext, hdigest⟩

/-- What was heard stays heard. -/
theorem Replied.mono (h : engine.Replied registry kind asked reply)
    (hears : engine.Hears told next) : next.Replied registry kind asked reply := by
  obtain ⟨worker, earlier, later, hworker, hheard, hreply⟩ := h
  obtain ⟨new, hnew, -⟩ := hears
  refine ⟨worker, earlier, later ++ (new.filter (·.worker = kind)).map (·.briefing), hworker, ?_,
    hreply⟩
  rw [heardBy] at hheard ⊢
  rw [hnew, List.filter_append, List.map_append, hheard, List.append_assoc, List.cons_append]

theorem Gave.mono (h : engine.Gave registry key response) (hears : engine.Hears told next) :
    next.Gave registry key response := by
  obtain ⟨asked, reply, took, hreplied, hkey, hresponse⟩ := h
  exact ⟨asked, reply, took, hreplied.mono hears, hkey, hresponse⟩

end Engine

namespace Call

variable {setup : RunSetup} {registry : Registry} {engine next : Engine} {call : Call}
  {inquiry : Inquiry} {worker : Worker} {reply : Reply} {told : List Hearing}

/-- It is known where the call's response comes from, and until it has one, what it asks of whom. -/
def Traced (registry : Registry) (engine : Engine) (call : Call) : Prop :=
  match call.stage with
  | .fresh => True
  | .queued worker inquiry =>
    registry.get? call.worker = some worker ∧
      inquiry.key = CacheKey.of call.worker call.briefing ∧ inquiry.Holds (engine.Gave registry)
  | .working inquiry _ reply =>
    inquiry.key = CacheKey.of call.worker call.briefing ∧
      engine.Replied registry call.worker call.briefing reply
  | .answered response =>
    registry.has call.worker = true →
      engine.Gave registry (CacheKey.of call.worker call.briefing) response

theorem Traced.mono (h : call.Traced registry engine) (hears : engine.Hears told next) :
    call.Traced registry next := by
  rw [Traced] at h ⊢
  cases hstage : call.stage with
  | fresh => trivial
  | queued worker inquiry =>
      rw [hstage] at h
      obtain ⟨hworker, hkey, hinquiry⟩ := h
      exact ⟨hworker, hkey, fun response hanswered => (hinquiry response hanswered).mono hears⟩
  | working inquiry began reply =>
      rw [hstage] at h
      exact ⟨h.1, h.2.mono hears⟩
  | answered response =>
      rw [hstage] at h
      exact fun hhas => (h hhas).mono hears

/-- What comes of a look at a call: all that is kept came of replies, and so did the response. -/
structure Found (registry : Registry) (seen : Engine × Call) : Prop where
  /-- All that is kept came of replies. -/
  cache : seen.1.store.cache.Holds (seen.1.Gave registry)
  /-- It is known where the call's response comes from. -/
  traced : seen.2.Traced registry seen.1

theorem found_attend (h : engine.store.cache.Holds (engine.Gave registry))
    (hkey : inquiry.key = CacheKey.of call.worker call.briefing)
    (hreplied : engine.Replied registry call.worker call.briefing reply) (began : Instant) :
    Found registry (call.attend inquiry began reply engine) := by
  have hgave : ∀ took, engine.Gave registry (CacheKey.of call.worker call.briefing)
      (reply.outcome.response call.worker took) :=
    fun took => ⟨call.briefing, reply, took, hreplied, rfl, rfl⟩
  rw [attend]
  split
  · refine ⟨Inquiry.holds_supply h ?_, fun _ => hgave _⟩
    rw [hkey]
    exact hgave _
  · exact ⟨h, hkey, hreplied⟩

theorem found_start (h : engine.store.cache.Holds (engine.Gave registry))
    (hkey : inquiry.key = CacheKey.of call.worker call.briefing)
    (hworker : registry.get? call.worker = some worker) :
    Found registry (call.start worker inquiry engine) := by
  let heard : Engine := { engine with hearings := engine.hearings ++ [call.hearing] }
  have hears : engine.Hears [call.hearing] heard := ⟨[call.hearing], rfl, List.Subset.refl _⟩
  have hcache : heard.store.cache.Holds (heard.Gave registry) :=
    h.mono fun _ _ hgave => hgave.mono hears
  have hheard : heard.heardBy call.worker = engine.heardBy call.worker ++ call.briefing :: [] :=
    (Engine.heardBy_of_concat rfl call.worker).trans (if_pos rfl)
  exact found_attend hcache hkey ⟨worker, _, [], hworker, hheard, rfl⟩ engine.now

theorem found_pursue (h : engine.store.cache.Holds (engine.Gave registry))
    (hkey : inquiry.key = CacheKey.of call.worker call.briefing)
    (hinquiry : inquiry.Holds (engine.Gave registry))
    (hworker : registry.get? call.worker = some worker) :
    Found registry (call.pursue worker inquiry engine) := by
  obtain ⟨hcache, hasked⟩ := Inquiry.holds_approach h hinquiry engine.now
  have hsame : (inquiry.approach engine.now engine.store).2.key =
      CacheKey.of call.worker call.briefing := by
    rw [Inquiry.key_approach, hkey]
  rw [pursue]
  generalize inquiry.approach engine.now engine.store = approached at hcache hasked hsame ⊢
  obtain ⟨store, asked⟩ := approached
  dsimp only at hcache hasked hsame ⊢
  split
  case h_1 response hanswered =>
      refine ⟨hcache, fun _ => ?_⟩
      rw [← hsame]
      exact hasked response hanswered
  case h_2 =>
      let asking : Engine := { engine with store }
      have hasking : asking.store.cache.Holds (asking.Gave registry) := hcache
      exact found_start hasking hsame hworker
  case h_3 | h_4 | h_5 => exact ⟨hcache, hworker, hsame, hasked⟩

/-- **Whatever a call does, it is known where its response comes from.** -/
theorem found_look (h : engine.store.cache.Holds (engine.Gave setup.registry))
    (hcall : call.Traced setup.registry engine) :
    Found setup.registry (call.look setup engine) := by
  rw [Traced] at hcall
  rw [look]
  cases hstage : call.stage with
  | fresh =>
      dsimp only
      rw [begin]
      cases hworker : setup.registry.get? call.worker with
      | none =>
          refine ⟨h, fun hhas => ?_⟩
          rw [Registry.has, hworker] at hhas
          cases hhas
      | some worker =>
          let told : Engine := engine.notify setup
            (Progress.workerCalled call.briefing.view.session call.worker call.briefing.task)
          have htold : told.store.cache.Holds (told.Gave setup.registry) := h
          exact found_pursue htold rfl (Inquiry.holds_fresh _ _) hworker
  | queued worker inquiry =>
      rw [hstage] at hcall
      exact found_pursue h hcall.2.1 hcall.2.2 hcall.1
  | working inquiry began reply =>
      rw [hstage] at hcall
      exact found_attend h hcall.1 hcall.2 began
  | answered response =>
      refine ⟨h, ?_⟩
      rw [Traced, hstage]
      rw [hstage] at hcall
      exact hcall

end Call

namespace Engine

variable {setup : RunSetup} {registry : Registry} {engine next : Engine} {calls others : List Call}

/-! ### Calls in any order -/

/-- The engines that come about when workers of a registry are called, each with the calls that are
under way. Calls may be made at any time and looked at in any order. -/
inductive Calling (registry : Registry) : Engine → List Call → Prop where
  /-- No call was made, and the cache is empty. -/
  | opened (engine : Engine) (ttl : Duration) (maxEntries : Nat) :
      Calling registry { engine with store := { cache := Cache.create ttl maxEntries } } []
  /-- There is one more call to be made. -/
  | make {engine : Engine} {calls : List Call} (h : Calling registry engine calls) {call : Call}
      (hfresh : call.stage = .fresh) : Calling registry engine (call :: calls)
  /-- A call is looked at. -/
  | look {engine : Engine} {call : Call} {calls : List Call}
      (h : Calling registry engine (call :: calls)) (setup : RunSetup)
      (hsetup : setup.registry = registry) :
      Calling registry (call.look setup engine).1 ((call.look setup engine).2 :: calls)
  /-- A call is given up, if it has no response yet. -/
  | leave {engine : Engine} {call : Call} {calls : List Call}
      (h : Calling registry engine (call :: calls)) : Calling registry (call.abandon engine) calls
  /-- It does not matter in which order the calls are listed. -/
  | arrange {engine : Engine} {calls others : List Call} (h : Calling registry engine calls)
      (hperm : calls.Perm others) : Calling registry engine others
  /-- Time passes, and other things happen that are no business of the cache and the workers. -/
  | pass {engine next : Engine} {calls : List Call} (h : Calling registry engine calls)
      (hstore : next.store = engine.store) (hhearings : next.hearings = engine.hearings) :
      Calling registry next calls
  /-- The cache loses entries, by a purge or otherwise. -/
  | forget {engine : Engine} {calls : List Call} (h : Calling registry engine calls) {cache : Cache}
      (hless : cache.entries ⊆ engine.store.cache.entries) :
      Calling registry { engine with store := { engine.store with cache } } calls

/-- It is known where everything in the cache and in some calls comes from. -/
structure Traced (registry : Registry) (engine : Engine) (calls : List Call) : Prop where
  /-- All that is kept came of replies. -/
  cache : engine.store.cache.Holds (engine.Gave registry)
  /-- So did the responses of the calls. -/
  calls : ∀ call ∈ calls, call.Traced registry engine

/-- Nothing is kept and nothing is heard that was not. -/
theorem Traced.later (h : engine.Traced registry calls)
    (hless : next.store.cache.entries ⊆ engine.store.cache.entries)
    (hhearings : next.hearings = engine.hearings) : next.Traced registry calls := by
  have hears : engine.Hears [] next := Hears.of_eq hhearings
  refine ⟨?_, fun call hcall => (h.calls call hcall).mono hears⟩
  exact (h.cache.of_subset hless).mono fun _ _ hgave => hgave.mono hears

/-- A look at one call leaves all others traced, for what was heard stays heard. -/
theorem Traced.look {call : Call} (h : engine.Traced setup.registry (call :: calls)) :
    (call.look setup engine).1.Traced setup.registry ((call.look setup engine).2 :: calls) := by
  obtain ⟨hcall, hcalls⟩ := List.forall_mem_cons.mp h.calls
  have hfound := Call.found_look h.cache hcall
  obtain ⟨-, hears⟩ := Call.look_hears setup call engine
  exact ⟨hfound.cache, List.forall_mem_cons.mpr
    ⟨hfound.traced, fun other hother => (hcalls other hother).mono hears⟩⟩

/-- Whatever calls are made, it is known where everything comes from. -/
theorem Calling.traced (h : Calling registry engine calls) : engine.Traced registry calls := by
  induction h with
  | opened engine ttl maxEntries =>
      exact ⟨Cache.holds_create ttl maxEntries, fun call hcall => absurd hcall List.not_mem_nil⟩
  | make _ hfresh ih =>
      refine ⟨ih.cache, List.forall_mem_cons.mpr ⟨?_, ih.calls⟩⟩
      rw [Call.Traced, hfresh]
      trivial
  | look _ setup hsetup ih =>
      subst hsetup
      exact ih.look
  | @leave engine call calls _ ih =>
      have hcalls : engine.Traced registry calls :=
        ⟨ih.cache, fun other hother => ih.calls other (List.mem_cons_of_mem _ hother)⟩
      have hcache : (call.abandon engine).store.cache = engine.store.cache :=
        Call.cache_abandonAll [call] engine
      exact hcalls.later (hcache ▸ List.Subset.refl _) (Call.hearings_abandonAll [call] engine)
  | arrange _ hperm ih =>
      exact ⟨ih.cache, fun call hcall => ih.calls call (hperm.mem_iff.mpr hcall)⟩
  | pass _ hstore hhearings ih => exact ih.later (hstore ▸ List.Subset.refl _) hhearings
  | forget _ hless ih => exact ih.later hless rfl

/-- Several calls are given up. -/
theorem Calling.leaveAll (h : Calling registry engine (calls ++ others)) :
    Calling registry (Call.abandonAll calls engine) others := by
  induction calls generalizing engine with
  | nil => exact h
  | cons call rest ih => exact ih h.leave

/-- Calls that have their responses can be left at any time. -/
theorem Calling.settle (h : Calling registry engine (calls ++ others))
    (hanswered : ∀ call ∈ calls, ∃ response, call.stage = .answered response) :
    Calling registry engine others := by
  induction calls with
  | nil => exact h
  | cons call rest ih =>
      obtain ⟨⟨response, hstage⟩, hrest⟩ := List.forall_mem_cons.mp hanswered
      have hleft : call.abandon engine = engine := by rw [Call.abandon, hstage]
      have hothers := h.leave
      rw [hleft] at hothers
      exact ih hothers hrest

theorem Calling.makeAll (h : Calling registry engine others)
    (hfresh : ∀ call ∈ calls, call.stage = .fresh) : Calling registry engine (calls ++ others) := by
  induction calls with
  | nil => exact h
  | cons call rest ih =>
      obtain ⟨hcall, hrest⟩ := List.forall_mem_cons.mp hfresh
      exact (ih hrest).make hcall

/-- The calls of a task are such calls. -/
theorem upheld_calling (setup : RunSetup) (others : List Call) :
    Call.Upheld setup fun engine calls => Calling setup.registry engine (calls ++ others) where
  look := by
    intro engine call before after h
    simp only [List.append_assoc, List.cons_append] at h ⊢
    exact ((h.arrange List.perm_middle).look setup rfl).arrange List.perm_middle.symm
  more := by
    intro engine calls call same h _ hfresh
    simp only [List.append_assoc, List.singleton_append]
    exact (h.make hfresh).arrange List.perm_middle.symm

end Engine

/-! ### Attempts and runs -/

namespace Run

variable {setup : RunSetup} {registry : Registry} {run : Run} {attempt : Attempt}
  {engine : Engine} {others : List Call}

/-- What a look at an attempt makes of its calls, with those of others. -/
structure Busied (registry : Registry) (others : List Call) (seen : Engine × Standing Attempt) :
    Prop where
  /-- It goes on with its calls under way, -/
  going : ∀ next, seen.2 = .going next → seen.1.Calling registry (next.calls ++ others)
  /-- or it is over and has left them. -/
  ended : ∀ result, seen.2 = .over result → seen.1.Calling registry others

theorem busied_executing {execution : Execution}
    (h : engine.Calling setup.registry (execution.calls ++ others)) (run : Run) :
    Busied setup.registry others (run.lookAttempt setup (.executing execution) engine) := by
  have hacted := Execution.act_induction (Engine.upheld_calling setup others) h
  rw [lookAttempt]
  rcases Execution.look_of_act execution setup engine with
    ⟨result, hover, -, hresponses, -⟩ | ⟨result, hover, -⟩ | hgoes
  · rw [hover]
    obtain ⟨-, hanswered⟩ := Execution.responses?_eq_some.mp hresponses
    exact ⟨(fun _ hnext => by cases hnext), fun _ _ =>
      hacted.settle (Call.answered_of_responses? hanswered)⟩
  · rw [hover]
    exact ⟨(fun _ hnext => by cases hnext), fun _ _ => hacted.leaveAll⟩
  · rw [hgoes]
    refine ⟨fun next hnext => ?_, fun _ hother => by cases hother⟩
    obtain rfl := Standing.going.inj hnext
    exact hacted

theorem busied_waiting (h : engine.Calling setup.registry others) (run : Run) (task : Task)
    (since : Instant) :
    Busied setup.registry others (run.lookAttempt setup (.waiting task since) engine) := by
  have htold : (engine.notify setup (Progress.taskStarted run.session.id task
      run.ledger.results.length run.total)).Calling setup.registry others := h.pass rfl rfl
  have hwaited := waited_lookAttempt setup run engine task since
  generalize run.lookAttempt setup (.waiting task since) engine = seen at hwaited ⊢
  cases hwaited with
  | waits hearly =>
      refine ⟨fun next hnext => ?_, fun _ hother => by cases hother⟩
      obtain rfl := Standing.going.inj hnext
      exact h
  | vain hmissing => exact ⟨(fun _ hnext => by cases hnext), fun _ _ => h⟩
  | idle hmet hworkers => exact ⟨(fun _ hnext => by cases hnext), fun _ _ => htold⟩
  | begins hmet hworkers =>
      have hfresh := Execution.fresh_begin task (run.briefing setup task) engine.now
      exact busied_executing (htold.makeAll fun call hcall => (hfresh call hcall).1) run

theorem busied_lookAttempt (h : engine.Calling setup.registry (attempt.calls ++ others))
    (run : Run) : Busied setup.registry others (run.lookAttempt setup attempt engine) := by
  cases attempt with
  | waiting task since => exact busied_waiting h run task since
  | executing execution => exact busied_executing h run

theorem calling_abandonAttempt (h : engine.Calling registry (attempt.calls ++ others)) :
    (abandonAttempt attempt engine).Calling registry others := by
  cases attempt with
  | waiting task since => exact h
  | executing execution => exact h.leaveAll

/-- Giving up a run is giving up its calls. -/
theorem calling_abandon (h : engine.Calling registry (run.underway ++ others)) :
    (run.abandon engine).Calling registry others := by
  rw [underway] at h
  rw [abandon]
  cases hstage : run.stage with
  | finished | cancelled =>
      rw [hstage] at h
      exact h
  | busy attempt todo =>
      rw [hstage] at h
      exact calling_abandonAttempt h

/-- A look at a run is some looks at its calls. -/
theorem keeps_calling (setup : RunSetup) (others : List Call) :
    Keeps setup fun engine run => engine.Calling setup.registry (run.underway ++ others) where
  going := by
    intro engine after run attempt next todo h hlook
    have hbusied := busied_lookAttempt h run
    rw [hlook] at hbusied
    exact hbusied.going next rfl
  ended := by
    intro engine after run attempt result todo h hlook
    have hbusied := busied_lookAttempt h run
    rw [hlook] at hbusied
    rw [underway_stageOf]
    exact (hbusied.ended result rfl).pass (store_close run setup result after)
      (hearings_close run setup result after)
  stopped := fun h => calling_abandonAttempt h

end Run

theorem Run.underway_middle (before after : List Run) (run : Run) :
    ((before ++ run :: after).flatMap underway).Perm
      (run.underway ++ (before ++ after).flatMap underway) :=
  List.perm_middle.flatMap_right underway

/-- The engines that come about with runs come about with the calls that these have under way. -/
theorem Engine.Reached.calling {registry : Registry} {engine : Engine} {runs : List Run}
    (h : Engine.Reached registry engine runs) :
    engine.Calling registry (runs.flatMap Run.underway) := by
  induction h with
  | opened engine ttl maxEntries => exact .opened engine ttl maxEntries
  | @begin engine runs _ tasks action kind session ih =>
      have hnone : (Run.begin tasks action kind session engine.now).underway = [] :=
        Run.underway_stageOf (Run.begin tasks action kind session engine.now) engine.now tasks
      rw [List.flatMap_cons, hnone]
      exact ih
  | @look engine before after run _ setup hsetup cancelled ih =>
      subst hsetup
      have hfirst := ih.arrange (Run.underway_middle before after run)
      exact (Run.look_induction (Run.keeps_calling setup _) cancelled hfirst).arrange
        (Run.underway_middle before after _).symm
  | @leave engine before after run _ ih =>
      exact Run.calling_abandon (ih.arrange (Run.underway_middle before after run))
  | wind _ now ih => exact ih.pass rfl rfl

/-- **The text of a question is a faithful key.** Two briefings have the same text exactly if they
ask the same question, where the extras of both are in order. And whatever calls of the workers of a
registry were made, at any time and in any order, and whatever the cache lost meanwhile:

* what is found in the cache for a briefing, at any time, came of the worker's reply to a briefing
  that asks the same question, unless digests collide;
* so did the response of each call of a worker that is there.

The calls of all runs are such calls. -/
theorem Engine.faithful_key :
    (∀ a b : Briefing, (Json.object a.action.metadata).Ordered →
      (Json.object b.action.metadata).Ordered →
        (a.canonicalText = b.canonicalText ↔ a.SameQuestion b)) ∧
    (∀ registry engine calls, Engine.Calling registry engine calls →
      (∀ kind briefing now response,
        (engine.store.cache.lookup (CacheKey.of kind briefing) now).1 = some response →
          engine.Answers registry kind briefing response) ∧
      ∀ call ∈ calls, registry.has call.worker = true →
        ∀ response, call.stage = .answered response →
          engine.Answers registry call.worker call.briefing response) ∧
    ∀ registry engine runs, Engine.Reached registry engine runs →
      Engine.Calling registry engine (runs.flatMap Run.underway) := by
  refine ⟨fun a b ha hb => Briefing.canonicalText_eq_iff ha hb, fun registry engine calls h => ?_,
    fun registry engine runs h => h.calling⟩
  have htraced := h.traced
  refine ⟨fun kind briefing now response hfound => (htraced.cache.of_lookup hfound).answers,
    fun call hcall hhas response hstage => ?_⟩
  have hknown := htraced.calls call hcall
  rw [Call.Traced, hstage] at hknown
  exact (hknown hhas).answers

/-- Someone leaves for the harbor, with something among the extras. -/
def Briefing.departure (session : Uuid) (present : List String) (time : String) (cargo : Json) :
    Briefing where
  task := "movement_narrative"
  action := {
    text := "go \"east\", quickly"
    metadata := [("cargo", .object [("kinds", .array [.text "a,b", cargo])]),
      ("timestamp", .text time)] }
  kind := .movement
  view := {
    session
    turn := 3
    location := "Quay"
    chaos := 0.5
    npcs := present
    actions := []
    events := []
    ambience := Ambience.of {} }
  prior := []

theorem Briefing.ordered_departure (session : Uuid) (present : List String) (time : String)
    {cargo : Json} (h : cargo.Ordered) :
    (Json.object (departure session present time cargo).action.metadata).Ordered := by
  have hkinds : (Json.array [.text "a,b", cargo]).Ordered := .array (by simp [h, Json.Ordered.text])
  have hcargo : (Json.object [("kinds", .array [.text "a,b", cargo])]).Ordered :=
    .object (List.pairwise_singleton _ _) (by simpa using hkinds)
  have hrising : Dict.Rising (departure session present time cargo).action.metadata :=
    List.pairwise_pair.mpr (show "cargo" < "timestamp" by decide)
  exact .object hrising (List.forall_mem_cons.mpr ⟨hcargo, by simp [Json.Ordered.text]⟩)

/-- The call of a worker that hears of it. -/
def Call.departure : Call where
  worker := .historian
  briefing := Briefing.departure ⟨1⟩ ["Mira", "Oren"] "noon" (.int 7)

/-- The engine on which the call was made, and the call. -/
def Engine.departed : Engine × Call :=
  Call.departure.look RunSetup.steady (Engine.create {} {})

/-- The cache answers someone else who asks at another time; it would not if what is loaded were the
text of the number. -/
theorem Engine.faithful_key_departure :
    let noon := Briefing.departure ⟨1⟩ ["Mira", "Oren"] "noon" (.int 7)
    let night := Briefing.departure ⟨2⟩ ["Oren", "Mira"] "night" (.int 7)
    let other := Briefing.departure ⟨1⟩ ["Mira", "Oren"] "noon" (.text "7")
    noon.canonicalText = night.canonicalText ∧ noon.canonicalText ≠ other.canonicalText ∧
      (∃ response,
        (departed.1.store.cache.lookup (CacheKey.of .historian night) 0).1 = some response ∧
          departed.1.Answers RunSetup.steady.registry .historian night response) ∧
      (∃ response, departed.2.stage = .answered response ∧
        departed.1.Answers RunSetup.steady.registry .historian noon response) ∧
      ∃ runs : List Run,
        Engine.steady.Calling RunSetup.steady.registry (runs.flatMap Run.underway) := by
  intro noon night other
  have hnoon := Briefing.ordered_departure ⟨1⟩ ["Mira", "Oren"] "noon" (.int 7)
  have hnight := Briefing.ordered_departure ⟨2⟩ ["Oren", "Mira"] "night" (.int 7)
  have hother := Briefing.ordered_departure ⟨1⟩ ["Mira", "Oren"] "noon" (.text "7")
  obtain ⟨htext, hanswers, hruns⟩ := Engine.faithful_key
  have hsame : noon.canonicalText = night.canonicalText := (htext noon night hnoon hnight).mpr {
    task := rfl
    kind := rfl
    action := rfl
    metadata := by
      intro name hname
      have htime : "timestamp" ≠ name := fun hsame => hname (hsame ▸ by decide)
      simp only [noon, night, Briefing.departure, Dict.value?, if_neg htime]
      split
      · exact .some (.refl _)
      · exact .none
    turn := rfl
    location := rfl
    chaos := rfl
    npcs := List.Perm.swap _ _ _ }
  have hmade : (Engine.create {} {}).Calling RunSetup.steady.registry [Call.departure] :=
    (Calling.opened (Engine.create {} {}) _ _).make rfl
  have hcalling : departed.1.Calling RunSetup.steady.registry [departed.2] := hmade.look _ rfl
  obtain ⟨hkept, hcalls⟩ := hanswers _ _ _ hcalling
  have hsteady : Engine.Reached RunSetup.steady.registry Engine.steady _ :=
    (Engine.Reached.opened (Engine.create {} {}) _ _).play rfl [Task.steady] { text := "look" }
      .dialogue { id := ⟨7⟩, turn := 1 } none
  refine ⟨hsame, fun hsame => ?_, ?_, ?_, _, hruns _ _ _ hsteady⟩
  · have hcargo := ((htext noon other hnoon hother).mp hsame).metadata "cargo" (by decide)
    have hkinds := Json.alike_object_iff.mp (Option.rel_some_some.mp hcargo) "kinds"
    have hitems := Json.alike_array_iff.mp (Option.rel_some_some.mp hkinds)
    cases hitems with
    | cons _ hlast =>
        cases hlast with
        | cons hcargo _ =>
            cases hcargo with
            | number _ hnumber => cases hnumber
  · have hkey : CacheKey.of .historian night = CacheKey.of .historian noon := by
      rw [CacheKey.of, CacheKey.of, Briefing.fingerprint, Briefing.fingerprint, hsame]
    obtain ⟨entry, hentries, hentry, hlive⟩ : ∃ entry,
        departed.1.store.cache.entries = [entry] ∧ entry.key = CacheKey.of .historian noon ∧
          entry.isLive 0 = true := ⟨_, rfl, rfl, rfl⟩
    have hfound : (departed.1.store.cache.lookup (CacheKey.of .historian night) 0).1 =
        some entry.response := by
      simp [Cache.lookup, Cache.kept?, hentries, hentry, hkey, hlive]
    exact ⟨_, hfound, hkept _ _ _ _ hfound⟩
  · exact ⟨_, rfl, hcalls _ List.mem_cons_self rfl _ rfl⟩

end StoryDirector
