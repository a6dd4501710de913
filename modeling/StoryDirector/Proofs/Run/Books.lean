import StoryDirector.Proofs.Run.AtWork
/-!
# StoryDirector.Proofs.Run.Books

What the counts of the cache and the timings of the workers come to while a task is worked at
(`Engine.Balances`). **Every call of a worker that is there ends up as a hit or as a miss, a miss is
a call that the worker hears, and the worker's timings are those of the calls it has heard, but for
the one that it is at work for.**

Each step of a call moves the books in one of three ways: no worker has a part in it
(`Balances.pass`), a worker goes to work (`Balances.start`), or its work ends (`Balances.finish`).
The second and the third need that no worker is at work for two calls at once: otherwise the later
of them might end first, and its duration would be kept in the wrong place.
-/

namespace StoryDirector

/-! ### How long workers take -/

/-- How long the worker is at work for each of some briefings, in seconds, if it hears them one
after another and has heard others before. -/
def Worker.durations (worker : Worker) (heard : List Briefing) : List Briefing → List Float
  | [] => []
  | briefing :: rest =>
    Duration.seconds (worker.reply heard briefing).delay ::
      worker.durations (heard ++ [briefing]) rest

/-- How long the worker of a kind is at work for each of some briefings, if it hears them one after
another and there is one. -/
def Registry.durations (registry : Registry) (kind : WorkerKind) (heard : List Briefing) :
    List Float :=
  match registry.get? kind with
  | none => []
  | some worker => worker.durations [] heard

theorem Worker.durations_concat (worker : Worker) (heard more : List Briefing)
    (briefing : Briefing) :
    worker.durations heard (more ++ [briefing]) =
      worker.durations heard more ++
        [Duration.seconds (worker.reply (heard ++ more) briefing).delay] := by
  induction more generalizing heard with
  | nil => simp [durations]
  | cons first rest ih => simp [durations, ih]

@[simp] theorem Worker.length_durations (worker : Worker) (heard more : List Briefing) :
    (worker.durations heard more).length = more.length := by
  induction more generalizing heard with
  | nil => rfl
  | cons first rest ih => simp [durations, ih]

theorem Timings.samples_record (timings : Timings) (worker : WorkerKind) (seconds : Float) :
    (timings.record worker seconds).samples worker =
      Recent.lastOf timings.window (timings.samples worker ++ [seconds]) :=
  timings.samples_record_self worker seconds

/-! ### What supplying counts -/

theorem Cache.counts_insert (cache : Cache) (key : CacheKey) (response : Response) (ttl : Duration)
    (now : Instant) :
    (cache.insert key response ttl now).hits = cache.hits ∧
      (cache.insert key response ttl now).misses = cache.misses := by
  have hroom : (cache.makeRoom now).hits = cache.hits ∧
      (cache.makeRoom now).misses = cache.misses := by
    unfold makeRoom
    dsimp only
    split
    · exact ⟨rfl, rfl⟩
    · split <;> exact ⟨rfl, rfl⟩
  unfold insert
  split
  · dsimp only
    split
    · exact hroom
    · exact ⟨rfl, rfl⟩
  · exact ⟨rfl, rfl⟩

/-- Keeping a response is neither a hit nor a miss. -/
theorem Inquiry.counts_supply (inquiry : Inquiry) (response : Response) (now : Instant)
    (store : Store) :
    (inquiry.supply response now store).1.cache.hits = store.cache.hits ∧
      (inquiry.supply response now store).1.cache.misses = store.cache.misses := by
  unfold supply
  split
  · exact Cache.counts_insert _ _ _ _ _
  case h_2 | h_3 | h_4 | h_5 => exact ⟨rfl, rfl⟩

/-! ### Calls -/

namespace Call

variable {setup : RunSetup} {call : Call} {engine : Engine}

/-- Where all calls have responses, each is answered. -/
theorem answered_of_responses? {calls : List Call} {responses : List Response}
    (h : responses? calls = some responses) :
    ∀ call ∈ calls, ∃ response, call.stage = .answered response := by
  induction calls generalizing responses with
  | nil => exact fun call hcall => absurd hcall List.not_mem_nil
  | cons first rest ih =>
      obtain ⟨response, others, hfirst, hrest, -⟩ := responses?_cons_eq_some.mp h
      intro call hcall
      rcases List.mem_cons.mp hcall with rfl | hin
      · unfold response? at hfirst
        split at hfirst
        case h_1 own hstage => exact ⟨own, hstage⟩
        case h_2 | h_3 | h_4 => cases hfirst
      · exact ih hrest call hin

/-- Whether the call is of a worker that is there, and the cache has counted it. -/
def isCounted (registry : Registry) (call : Call) : Bool :=
  match call.stage with
  | .working _ _ _ | .answered _ => registry.has call.worker
  | .fresh | .queued _ _ => false

@[simp] theorem isCounted_answered (call : Call) (response : Response) (registry : Registry) :
    isCounted registry { call with stage := .answered response } = registry.has call.worker := rfl

@[simp] theorem isCounted_working (call : Call) (inquiry : Inquiry) (began : Instant)
    (reply : Reply) (registry : Registry) :
    isCounted registry { call with stage := .working inquiry began reply } =
      registry.has call.worker := rfl

@[simp] theorem isCounted_queued (call : Call) (worker : Worker) (inquiry : Inquiry)
    (registry : Registry) :
    isCounted registry { call with stage := .queued worker inquiry } = false := rfl

@[simp] theorem span?_answered (call : Call) (response : Response) (kind : WorkerKind) :
    span? kind { call with stage := .answered response } = none := rfl

@[simp] theorem span?_queued (call : Call) (worker : Worker) (inquiry : Inquiry)
    (kind : WorkerKind) : span? kind { call with stage := .queued worker inquiry } = none := rfl

/-- Who asks the cache is not counted yet, and no worker is at work for it. -/
theorem Asks.isCounted_eq {worker : Worker} {inquiry : Inquiry}
    (hasks : call.Asks setup engine worker inquiry) (registry : Registry) :
    call.isCounted registry = false ∧ ∀ kind, call.span? kind = none := by
  cases hasks with
  | first hfresh hworker => simp [isCounted, span?, hfresh]
  | again hqueued => simp [isCounted, span?, hqueued]

theorem span?_of_working {inquiry : Inquiry} {began : Instant} {reply : Reply}
    (h : call.stage = .working inquiry began reply) (kind : WorkerKind) :
    call.span? kind =
      if call.worker = kind then some (Duration.seconds reply.delay) else none := by
  unfold span?
  rw [h]

end Call

/-! ### The books -/

namespace Engine

variable {setup : RunSetup} {registry : Registry} {window total : Nat} {engine next : Engine}
  {calls before after : List Call} {call stepped : Call}

theorem heardBy_of_hearings (h : next.hearings = engine.hearings) (kind : WorkerKind) :
    next.heardBy kind = engine.heardBy kind := by
  rw [heardBy, heardBy, h]

theorem heardBy_of_concat {hearing : Hearing} (h : next.hearings = engine.hearings ++ [hearing])
    (kind : WorkerKind) :
    next.heardBy kind =
      if hearing.worker = kind then engine.heardBy kind ++ [hearing.briefing]
      else engine.heardBy kind := by
  by_cases hworker : hearing.worker = kind
  · simp [heardBy, h, hworker]
  · simp [heardBy, h, hworker]

/-- The books while some calls are under way, after so many others that were counted. -/
structure Balances (registry : Registry) (window total : Nat) (engine : Engine)
    (calls : List Call) : Prop where
  /-- Every miss is a call that a worker heard. -/
  served : engine.store.cache.misses = engine.hearings.length
  /-- Every call that is counted is a hit or a miss. -/
  counted : engine.store.cache.hits + engine.store.cache.misses =
    total + calls.countP (Call.isCounted registry)
  /-- So many durations are kept of each worker. -/
  room : engine.timings.window = window
  /-- A worker that is not there hears nothing. -/
  known : ∀ kind, registry.get? kind = none → engine.heardBy kind = []
  /-- What is kept are the last durations of the calls that a worker has heard, without the call
  that it is at work for. -/
  timed : ∀ kind, ∃ past, engine.timings.samples kind = Recent.lastOf window past ∧
    registry.durations kind (engine.heardBy kind) = past ++ calls.filterMap (Call.span? kind)

/-- The count of some calls changes by the one that moves. -/
theorem countP_move (registry : Registry) (before after : List Call) (call stepped : Call) :
    (before ++ stepped :: after).countP (Call.isCounted registry) +
        (call.isCounted registry).toNat =
      (before ++ call :: after).countP (Call.isCounted registry) +
        (stepped.isCounted registry).toNat := by
  have hone : ∀ one : Call, (if one.isCounted registry then 1 else 0) =
      (one.isCounted registry).toNat := by
    intro one
    cases one.isCounted registry <;> rfl
  simp only [List.countP_append, List.countP_cons, hone]
  omega

/-- No worker has a part in the step. -/
theorem Balances.pass (h : Balances registry window total engine (before ++ call :: after))
    (hhearings : next.hearings = engine.hearings) (htimings : next.timings = engine.timings)
    (hmisses : next.store.cache.misses = engine.store.cache.misses)
    (hhits : next.store.cache.hits + (call.isCounted registry).toNat =
      engine.store.cache.hits + (stepped.isCounted registry).toNat)
    (hspans : ∀ kind, stepped.span? kind = call.span? kind) :
    Balances registry window total next (before ++ stepped :: after) where
  served := by rw [hmisses, hhearings, h.served]
  counted := by
    have hcounted := h.counted
    have hmoved := countP_move registry before after call stepped
    omega
  room := by rw [htimings, h.room]
  known := fun kind hnone => (heardBy_of_hearings hhearings kind).trans (h.known kind hnone)
  timed := by
    intro kind
    obtain ⟨past, hkept, hpast⟩ := h.timed kind
    refine ⟨past, by rw [htimings, hkept], ?_⟩
    rw [heardBy_of_hearings hhearings, hpast]
    simp [List.filterMap_cons, hspans kind]

/-- A worker goes to work for a call that was counted as a miss. No worker is at work for any other
call of the task that names it. -/
theorem Balances.start (h : Balances registry window total engine (before ++ call :: after))
    {worker : Worker} (hworker : registry.get? call.worker = some worker)
    (hhearings : next.hearings = engine.hearings ++ [call.hearing])
    (htimings : next.timings = engine.timings)
    (hmisses : next.store.cache.misses = engine.store.cache.misses + 1)
    (hhits : next.store.cache.hits = engine.store.cache.hits)
    (hcall : call.isCounted registry = false) (hstepped : stepped.isCounted registry = true)
    (hidle : ∀ kind, call.span? kind = none)
    (hspan : ∀ kind, stepped.span? kind =
      if call.worker = kind then
        some (Duration.seconds (worker.reply (engine.heardBy call.worker) call.briefing).delay)
      else none)
    (hlone : before.filterMap (Call.span? call.worker) = [] ∧
      after.filterMap (Call.span? call.worker) = []) :
    Balances registry window total next (before ++ stepped :: after) where
  served := by
    rw [hmisses, hhearings, h.served]
    simp
  counted := by
    have hcounted := h.counted
    have hmoved := countP_move registry before after call stepped
    rw [hcall, hstepped] at hmoved
    simp only [Bool.toNat_false, Bool.toNat_true] at hmoved
    omega
  room := by rw [htimings, h.room]
  known := by
    intro kind hnone
    have hne : call.hearing.worker ≠ kind := by
      rintro rfl
      cases hnone.symm.trans hworker
    rw [heardBy_of_concat hhearings, if_neg hne]
    exact h.known kind hnone
  timed := by
    intro kind
    obtain ⟨past, hkept, hpast⟩ := h.timed kind
    refine ⟨past, by rw [htimings, hkept], ?_⟩
    rw [heardBy_of_concat hhearings]
    by_cases hkind : call.worker = kind
    · subst hkind
      obtain ⟨hbefore, hafter⟩ := hlone
      simp only [Registry.durations, hworker, List.filterMap_append, List.filterMap_cons, hidle,
        hbefore, hafter, List.append_nil] at hpast
      simp [Registry.durations, hworker, Call.hearing, Worker.durations_concat, hpast, hspan,
        hbefore, hafter]
    · have hne : call.hearing.worker ≠ kind := hkind
      rw [if_neg hne, hpast]
      simp [hidle, hspan, hkind]

/-- The work of a worker for a call ends when it said that it would. -/
theorem Balances.finish (h : Balances registry window total engine (before ++ call :: after))
    {seconds : Float} (hhearings : next.hearings = engine.hearings)
    (htimings : next.timings = engine.timings.record call.worker seconds)
    (hmisses : next.store.cache.misses = engine.store.cache.misses)
    (hhits : next.store.cache.hits = engine.store.cache.hits)
    (hcounted : stepped.isCounted registry = call.isCounted registry)
    (hspan : ∀ kind, call.span? kind = if call.worker = kind then some seconds else none)
    (hidle : ∀ kind, stepped.span? kind = none)
    (hlone : before.filterMap (Call.span? call.worker) = [] ∧
      after.filterMap (Call.span? call.worker) = []) :
    Balances registry window total next (before ++ stepped :: after) where
  served := by rw [hmisses, hhearings, h.served]
  counted := by
    have hbefore := h.counted
    have hmoved := countP_move registry before after call stepped
    rw [hcounted] at hmoved
    omega
  room := by
    rw [htimings]
    exact h.room
  known := fun kind hnone => (heardBy_of_hearings hhearings kind).trans (h.known kind hnone)
  timed := by
    intro kind
    obtain ⟨past, hkept, hpast⟩ := h.timed kind
    rw [heardBy_of_hearings hhearings, htimings]
    by_cases hkind : call.worker = kind
    · subst hkind
      obtain ⟨hbefore, hafter⟩ := hlone
      refine ⟨past ++ [seconds], ?_, ?_⟩
      · rw [Timings.samples_record, h.room, hkept, Recent.lastOf_lastOf_append]
      · rw [hpast]
        simp [hspan, hidle, hbefore, hafter]
    · refine ⟨past, ?_, ?_⟩
      · rw [Timings.samples_record_of_ne _ (Ne.symm hkind), hkept]
      · rw [hpast]
        simp [hspan, hidle, hkind]

/-- Every step of a call keeps the books balanced. -/
theorem balances_step (hstep : Call.Step setup (engine, call) (next, stepped))
    (hserves : Serves setup.registry engine (before ++ call :: after))
    (h : Balances setup.registry window total engine (before ++ call :: after)) :
    Balances setup.registry window total next (before ++ stepped :: after) := by
  have hserved := serves_step hstep hserves
  have hsound : call.Sound setup.registry engine.now := hserves.sound call (by simp)
  cases hstep with
  | told notice => exact ⟨h.served, h.counted, h.room, h.known, h.timed⟩
  | refused response hfresh hnone =>
      have hcall : call.isCounted setup.registry = false := by simp [Call.isCounted, hfresh]
      refine h.pass rfl rfl rfl ?_ fun kind => by simp [Call.span?, hfresh]
      simp [hcall, Registry.has, hnone]
  | @found _ _ worker inquiry asked store response hasks happroach hanswered =>
      obtain ⟨hcall, hidle⟩ := hasks.isCounted_eq setup.registry
      obtain ⟨-, happroached⟩ := hasks.approached hsound happroach
      rw [hanswered] at happroached
      cases happroached with
      | answered _ hhits hmisses =>
          refine h.pass rfl rfl hmisses ?_ fun kind => by simp [hidle kind]
          simp [hcall, Registry.has, hasks.get?_eq hsound, hhits]
  | @queues _ _ worker inquiry asked store hasks happroach hopen hheld =>
      obtain ⟨hcall, hidle⟩ := hasks.isCounted_eq setup.registry
      obtain ⟨-, happroached⟩ := hasks.approached hsound happroach
      generalize hstage : asked.stage = stage at happroached
      cases happroached with
      | answered response => exact absurd hstage (hopen response)
      | computing pass => exact absurd hstage (hheld pass)
      | queued pass hhits hmisses =>
          refine h.pass rfl rfl hmisses ?_ fun kind => by simp [hidle kind]
          simp [hcall, hhits]
  | @starts _ _ worker inquiry asked store pass hasks happroach hcomputing =>
      obtain ⟨hcall, hidle⟩ := hasks.isCounted_eq setup.registry
      have hworker := hasks.get?_eq hsound
      obtain ⟨-, happroached⟩ := hasks.approached hsound happroach
      rw [hcomputing] at happroached
      cases happroached with
      | computing _ hhits hmisses =>
          refine h.start hworker rfl rfl hmisses hhits hcall ?_ hidle
            (Call.span?_of_working rfl) (hserved.spans_eq_nil ?_)
          · simp [Registry.has, hworker]
          · simp [Call.span?]
  | @ends _ _ inquiry began reply response hworking hdue =>
      obtain ⟨hhits, hmisses⟩ := Inquiry.counts_supply inquiry response engine.now engine.store
      have hspan := Call.span?_of_working hworking
      obtain ⟨-, -, -, hintime⟩ := hsound.of_working hworking
      -- The reply is taken at the instant at which it is due.
      have htook : engine.now - began = reply.delay := by
        rw [Nat.le_antisymm hintime hdue]
        exact Nat.add_sub_cancel_left began reply.delay
      rw [← htook] at hspan
      refine h.finish rfl rfl hmisses hhits ?_ hspan (fun kind => by simp)
        (hserves.spans_eq_nil ?_)
      · simp [Call.isCounted, hworking]
      · simp [Call.span?, hworking]

/-! ### From task to task -/

/-- What holds while some calls are under way. -/
structure Books (registry : Registry) (window total : Nat) (engine : Engine) (calls : List Call) :
    Prop where
  /-- No worker is at work for two of them at once, -/
  serves : Serves registry engine calls
  /-- and the books are balanced. -/
  balances : Balances registry window total engine calls

theorem books_create (registry : Registry) (cache : CacheSettings) (limits : RunSettings) :
    Books registry (max limits.statsWindow 1) 0 (Engine.create cache limits) [] where
  serves := serves_create registry cache limits
  balances := {
    served := rfl
    counted := rfl
    room := rfl
    known := fun _ _ => rfl
    timed := by
      intro kind
      refine ⟨[], by simp [Engine.create, Timings.create, Recent.lastOf], ?_⟩
      unfold Registry.durations
      cases registry.get? kind <;> rfl }

/-- The books are the same whatever the calls are, if as many are counted and workers are at work
for them as long. -/
theorem Balances.recount {others : List Call} {sum : Nat}
    (h : Balances registry window total engine calls)
    (hcount : total + calls.countP (Call.isCounted registry) =
      sum + others.countP (Call.isCounted registry))
    (hspans : ∀ kind, others.filterMap (Call.span? kind) = calls.filterMap (Call.span? kind)) :
    Balances registry window sum engine others where
  served := h.served
  counted := h.counted.trans hcount
  room := h.room
  known := h.known
  timed := by
    intro kind
    obtain ⟨past, hkept, hpast⟩ := h.timed kind
    exact ⟨past, hkept, by rw [hpast, hspans kind]⟩

/-- Nothing changes but the clock and the notices, and no worker is at work for longer than it said.
-/
theorem Books.later (h : Books registry window total engine calls)
    (hstore : next.store = engine.store) (hhearings : next.hearings = engine.hearings)
    (htimings : next.timings = engine.timings)
    (hahead : ∀ call ∈ calls, ∀ due, call.alarm = some due → next.now ≤ due) :
    Books registry window total next calls where
  serves := h.serves.later hstore hahead
  balances := {
    served := by rw [hstore, hhearings, h.balances.served]
    counted := by rw [hstore, h.balances.counted]
    room := by rw [htimings, h.balances.room]
    known := fun kind hnone =>
      (heardBy_of_hearings hhearings kind).trans (h.balances.known kind hnone)
    timed := by
      intro kind
      rw [htimings, heardBy_of_hearings hhearings]
      exact h.balances.timed kind }

/-- Calls that are yet to be made take the places of others that have their responses, or join them.
-/
theorem Books.join {others : List Call} (h : Books registry window total engine calls)
    (hanswered : ∀ call ∈ calls, ∃ response, call.stage = .answered response)
    (hfresh : ∀ other ∈ others, other.stage = .fresh)
    (halike : ∀ one ∈ others, ∀ other ∈ others, one.briefing = other.briefing) :
    Books registry window total engine (calls ++ others) where
  serves := by
    have hsilent : ∀ call ∈ calls, call.asking? = none := by
      intro call hcall
      obtain ⟨response, hstage⟩ := hanswered call hcall
      simp [Call.asking?, hstage]
    refine h.serves.resettle hsilent (fun other hother => ?_)
      fun one hone other hother hopen hopenToo => ?_
    · rcases List.mem_append.mp hother with hold | hnew
      · exact hsilent other hold
      · simp [Call.asking?, hfresh other hnew]
    · have hnew : ∀ call ∈ calls ++ others, call.response? = none → call ∈ others := by
        intro call hcall hopen
        refine (List.mem_append.mp hcall).resolve_left fun hold => ?_
        obtain ⟨response, hstage⟩ := hanswered call hold
        simp [Call.response?, hstage] at hopen
      exact halike one (hnew one hone hopen) other (hnew other hother hopenToo)
  balances := by
    have hcount : others.countP (Call.isCounted registry) = 0 :=
      List.countP_eq_zero.mpr fun other hother => by simp [Call.isCounted, hfresh other hother]
    have hspans : ∀ kind, others.filterMap (Call.span? kind) = [] := fun kind =>
      List.filterMap_eq_nil_iff.mpr fun other hother => by simp [Call.span?, hfresh other hother]
    refine h.balances.recount ?_ fun kind => ?_
    · rw [List.countP_append, hcount, Nat.add_zero]
    · rw [List.filterMap_append, hspans, List.append_nil]

/-- Once all calls have their responses, those of workers that are there were counted. -/
theorem Books.settle (h : Books registry window total engine calls)
    (hanswered : ∀ call ∈ calls, ∃ response, call.stage = .answered response) :
    Books registry window (total + (calls.map (·.worker)).countP registry.has) engine [] where
  serves := by
    refine h.serves.resettle (fun call hcall => ?_) (fun _ hother => absurd hother List.not_mem_nil)
      fun _ hone => absurd hone List.not_mem_nil
    obtain ⟨response, hstage⟩ := hanswered call hcall
    simp [Call.asking?, hstage]
  balances := by
    have hcount : calls.countP (Call.isCounted registry) =
        (calls.map (·.worker)).countP registry.has := by
      rw [List.countP_map]
      refine List.countP_congr fun call hcall => ?_
      obtain ⟨response, hstage⟩ := hanswered call hcall
      simp [Call.isCounted, hstage]
    have hspans : ∀ kind, calls.filterMap (Call.span? kind) = [] := by
      intro kind
      refine List.filterMap_eq_nil_iff.mpr fun call hcall => ?_
      obtain ⟨response, hstage⟩ := hanswered call hcall
      simp [Call.span?, hstage]
    refine h.balances.recount ?_ fun kind => ?_
    · rw [hcount, List.countP_nil, Nat.add_zero]
    · rw [hspans, List.filterMap_nil]

/-- Every step of a call keeps the books. -/
theorem kept_books (setup : RunSetup) (window total : Nat) :
    Call.Kept setup (Books setup.registry window total) where
  step := fun hstep h => ⟨serves_step hstep h.serves, balances_step hstep h.serves h.balances⟩
  more := by
    intro engine calls call same h hsame hfresh
    refine h.join (Call.answered_of_responses? hsame) ?_ ?_
    · intro other hother
      obtain rfl := List.mem_singleton.mp hother
      exact hfresh
    · intro one hone other hother
      rw [List.mem_singleton.mp hone, List.mem_singleton.mp hother]

end Engine

end StoryDirector
