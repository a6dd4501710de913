import StoryDirector.Proofs.Cache.SingleFlight
import StoryDirector.Proofs.Run.Calling
/-!
# StoryDirector.Proofs.Run.AtWork

Calls that are under way side by side. **No worker is at work for two calls of a task at once**
(`Engine.Serves.eq_of_working`), not even for a task that names it twice: the calls that have no
response yet are told the same, so both have the same question for the cache, and of those with the
same question the gate lets one work at a time.

The calls of a task are callers of the cache, each at its place in the list (`Engine.Hosts`); so
what is known of crowds of callers holds of them (`Crowd.eq_of_computing`). `Engine.Serves` adds
what a call says of itself (`Call.Sound`), and that no worker is at work for longer than it said.
-/

namespace StoryDirector

/-! ### Coming to the cache -/

namespace Inquiry

variable {inquiry : Inquiry} {now : Instant} {store : Store}

/-- What comes of approaching the cache: a response, which is a hit, or the leave to compute, which
is a miss, or a place in line, which is neither. -/
inductive Approached (before after : Cache) : InquiryStage → Prop where
  /-- There is a response. -/
  | answered (response : Response) (hhits : after.hits = before.hits + 1)
      (hmisses : after.misses = before.misses) : Approached before after (.answered response)
  /-- There is none, and no one computes. -/
  | computing (pass : Pass) (hhits : after.hits = before.hits)
      (hmisses : after.misses = before.misses + 1) : Approached before after (.computing pass)
  /-- Someone else computes. -/
  | queued (pass : Pass) (hhits : after.hits = before.hits)
      (hmisses : after.misses = before.misses) : Approached before after (.queued pass)

/-- What was looked up before without being counted makes no difference. -/
theorem Approached.since {before between after : Cache} {stage : InquiryStage}
    (h : Approached between after stage)
    (hsame : between.hits = before.hits ∧ between.misses = before.misses) :
    Approached before after stage := by
  obtain ⟨hhits, hmisses⟩ := hsame
  cases h with
  | answered response hhit hmiss => exact .answered _ (by rw [hhit, hhits]) (by rw [hmiss, hmisses])
  | computing pass hhit hmiss => exact .computing _ (by rw [hhit, hhits]) (by rw [hmiss, hmisses])
  | queued pass hhit hmiss => exact .queued _ (by rw [hhit, hhits]) (by rw [hmiss, hmisses])

theorem counts_lookup (cache : Cache) (key : CacheKey) (now : Instant) :
    (cache.lookup key now).2.hits = cache.hits ∧
      (cache.lookup key now).2.misses = cache.misses := by
  unfold Cache.lookup
  split
  · exact ⟨rfl, rfl⟩
  · split <;> exact ⟨rfl, rfl⟩

theorem approached_enter (inquiry : Inquiry) (pass : Pass) (now : Instant) (store : Store) :
    Approached store.cache (inquiry.enter pass now store).1.cache
      (inquiry.enter pass now store).2.stage := by
  obtain ⟨hhits, hmisses⟩ := counts_lookup store.cache inquiry.key now
  unfold enter
  split
  · split
    case h_1 hlookup =>
        rw [hlookup] at hhits hmisses
        exact .answered _ (congrArg (· + 1) hhits) hmisses
    case h_2 hlookup =>
        rw [hlookup] at hhits hmisses
        exact .computing _ hhits (congrArg (· + 1) hmisses)
  · exact .queued _ rfl rfl

/-- Whoever comes, or stands in line, approaches the cache. -/
theorem approached_approach (h : inquiry.stage = .fresh ∨ ∃ pass, inquiry.stage = .queued pass) :
    Approached store.cache (inquiry.approach now store).1.cache
      (inquiry.approach now store).2.stage := by
  unfold approach
  rcases h with hfresh | ⟨pass, hqueued⟩
  · rw [hfresh]
    obtain ⟨hhits, hmisses⟩ := counts_lookup store.cache inquiry.key now
    dsimp only
    split
    case h_1 hlookup =>
        rw [hlookup] at hhits hmisses
        exact .answered _ (congrArg (· + 1) hhits) hmisses
    case h_2 cache hlookup =>
        rw [hlookup] at hhits hmisses
        have hentered := approached_enter inquiry (store.flights.join inquiry.key).2 now
          ⟨cache, (store.flights.join inquiry.key).1⟩
        exact hentered.since ⟨hhits, hmisses⟩
  · rw [hqueued]
    exact approached_enter inquiry pass now store

end Inquiry

/-! ### Calls -/

namespace Call

variable {setup : RunSetup} {call stepped : Call} {engine next : Engine}

/-- The question with which the call waits or works. -/
def asking? (call : Call) : Option Inquiry :=
  match call.stage with
  | .queued _ inquiry | .working inquiry _ _ => some inquiry
  | .fresh | .answered _ => none

/-- A call that waits or works does so with its own question, its worker is there, and no worker is
at work for longer than it said. -/
def Sound (registry : Registry) (now : Instant) (call : Call) : Prop :=
  match call.stage with
  | .fresh | .answered _ => True
  | .queued worker inquiry =>
    registry.get? call.worker = some worker ∧
      inquiry.key = CacheKey.of call.worker call.briefing ∧ ∃ pass, inquiry.stage = .queued pass
  | .working inquiry began reply =>
    (registry.get? call.worker).isSome ∧ inquiry.key = CacheKey.of call.worker call.briefing ∧
      (∃ pass, inquiry.stage = .computing pass) ∧ now ≤ began + reply.delay

theorem Sound.of_queued {registry : Registry} {now : Instant} {worker : Worker}
    {inquiry : Inquiry} (h : call.Sound registry now)
    (hqueued : call.stage = .queued worker inquiry) :
    registry.get? call.worker = some worker ∧
      inquiry.key = CacheKey.of call.worker call.briefing ∧
      ∃ pass, inquiry.stage = .queued pass := by
  unfold Sound at h
  rwa [hqueued] at h

theorem Sound.of_working {registry : Registry} {now began : Instant} {inquiry : Inquiry}
    {reply : Reply} (h : call.Sound registry now)
    (hworking : call.stage = .working inquiry began reply) :
    (registry.get? call.worker).isSome ∧ inquiry.key = CacheKey.of call.worker call.briefing ∧
      (∃ pass, inquiry.stage = .computing pass) ∧ now ≤ began + reply.delay := by
  unfold Sound at h
  rwa [hworking] at h

/-- How long the worker of a kind is going to have been at work for the call, in seconds, if it is
at work for it. -/
def span? (kind : WorkerKind) (call : Call) : Option Float :=
  match call.stage with
  | .working _ _ reply => if call.worker = kind then some (Duration.seconds reply.delay) else none
  | .fresh | .queued _ _ | .answered _ => none

theorem working_of_span? {kind : WorkerKind} (h : (call.span? kind).isSome) :
    ∃ inquiry began reply, call.stage = .working inquiry began reply ∧ call.worker = kind := by
  unfold span? at h
  cases hstage : call.stage with
  | working inquiry began reply =>
      rw [hstage] at h
      by_cases hworker : call.worker = kind
      · exact ⟨inquiry, began, reply, rfl, hworker⟩
      · simp [hworker] at h
  | fresh | queued worker inquiry | answered response => simp [hstage] at h

theorem Asks.get?_eq {worker : Worker} {inquiry : Inquiry}
    (hasks : call.Asks setup engine worker inquiry) (h : call.Sound setup.registry engine.now) :
    setup.registry.get? call.worker = some worker := by
  cases hasks with
  | first hfresh hworker => exact hworker
  | again hqueued => exact (h.of_queued hqueued).1

/-- Who asks is about to come, or stands in line, with the question of the call. -/
theorem Asks.asking {worker : Worker} {inquiry : Inquiry}
    (hasks : call.Asks setup engine worker inquiry) (h : call.Sound setup.registry engine.now) :
    inquiry.key = CacheKey.of call.worker call.briefing ∧
      (inquiry.stage = .fresh ∨ ∃ pass, inquiry.stage = .queued pass) := by
  cases hasks with
  | first hfresh hworker => exact ⟨rfl, Or.inl rfl⟩
  | again hqueued =>
      obtain ⟨-, hkey, hstage⟩ := h.of_queued hqueued
      exact ⟨hkey, Or.inr hstage⟩

theorem Asks.approached {worker : Worker} {inquiry asked : Inquiry} {store : Store}
    (hasks : call.Asks setup engine worker inquiry) (h : call.Sound setup.registry engine.now)
    (happroach : inquiry.approach engine.now engine.store = (store, asked)) :
    asked.key = CacheKey.of call.worker call.briefing ∧
      Inquiry.Approached engine.store.cache store.cache asked.stage := by
  obtain ⟨hkey, hstage⟩ := hasks.asking h
  have hsame := @Inquiry.key_approach inquiry engine.now engine.store
  have happroached := @Inquiry.approached_approach inquiry engine.now engine.store hstage
  rw [happroach] at hsame happroached
  exact ⟨hsame.trans hkey, happroached⟩

theorem now_step (h : Step setup (engine, call) (next, stepped)) : next.now = engine.now := by
  cases h <;> rfl

theorem hearing_step (h : Step setup (engine, call) (next, stepped)) :
    stepped.hearing = call.hearing := by
  cases h <;> rfl

/-- A response is not taken back. -/
theorem response?_step (h : Step setup (engine, call) (next, stepped))
    (hopen : stepped.response? = none) : call.response? = none := by
  have hasked : ∀ worker inquiry, call.Asks setup engine worker inquiry →
      call.response? = none := by
    intro worker inquiry hasks
    cases hasks with
    | first hfresh hworker => simp [response?, hfresh]
    | again hqueued => simp [response?, hqueued]
  cases h with
  | told notice => exact hopen
  | queues hasks => exact hasked _ _ hasks
  | starts hasks => exact hasked _ _ hasks
  | refused response => cases hopen
  | found hasks happroach hanswered => cases hopen
  | ends response => cases hopen

theorem sound_step (h : Step setup (engine, call) (next, stepped))
    (hcall : call.Sound setup.registry engine.now) : stepped.Sound setup.registry next.now := by
  cases h with
  | told notice => exact hcall
  | refused response => trivial
  | found hasks happroach hanswered => trivial
  | @queues _ _ worker _ asked _ hasks happroach hopen hheld =>
      obtain ⟨hkey, happroached⟩ := hasks.approached hcall happroach
      refine ⟨hasks.get?_eq hcall, hkey, ?_⟩
      generalize asked.stage = stage at happroached hopen hheld ⊢
      cases happroached with
      | answered response => exact absurd rfl (hopen response)
      | computing pass => exact absurd rfl (hheld pass)
      | queued pass => exact ⟨pass, rfl⟩
  | starts hasks happroach hcomputing =>
      obtain ⟨hkey, -⟩ := hasks.approached hcall happroach
      exact ⟨by rw [hasks.get?_eq hcall]; rfl, hkey, ⟨_, hcomputing⟩, Nat.le_add_right _ _⟩
  | ends response => trivial

end Call

/-! ### Calls as callers -/

namespace Engine

variable {setup : RunSetup} {registry : Registry} {engine next : Engine}
  {calls before after : List Call} {call stepped : Call} {callers : Nat → Inquiry}

/-- The callers of the cache are the calls, each at its place. -/
structure Hosts (engine : Engine) (calls : List Call) (callers : Nat → Inquiry) : Prop where
  /-- The crowd is in order. -/
  inOrder : Crowd.InOrder ⟨engine.now, engine.store, callers⟩
  /-- A call that waits or works does so with the question of the caller at its place. -/
  asking : ∀ index inquiry, calls[index]?.bind Call.asking? = some inquiry →
    callers index = inquiry
  /-- No one else is at a gate. -/
  idle : ∀ index, calls[index]?.bind Call.asking? = none → (callers index).pass? = none

theorem getElem?_middle_of_ne {index : Nat} (h : index ≠ before.length) (call stepped : Call) :
    (before ++ stepped :: after)[index]? = (before ++ call :: after)[index]? := by
  rcases Nat.lt_or_gt_of_ne h with hlt | hgt
  · rw [List.getElem?_append_left hlt, List.getElem?_append_left hlt]
  · obtain ⟨rest, hrest⟩ : ∃ rest, index - before.length = rest + 1 :=
      ⟨index - before.length - 1, by omega⟩
    rw [List.getElem?_append_right (Nat.le_of_lt hgt),
      List.getElem?_append_right (Nat.le_of_lt hgt), hrest]
    rfl

/-- One call and its caller move together. -/
theorem Hosts.move (h : engine.Hosts (before ++ call :: after) callers) {inquiry : Inquiry}
    (horder : Crowd.InOrder
      ⟨next.now, next.store, Function.update callers before.length inquiry⟩)
    (hasking : ∀ own, stepped.asking? = some own → inquiry = own)
    (hidle : stepped.asking? = none → inquiry.pass? = none) :
    next.Hosts (before ++ stepped :: after) (Function.update callers before.length inquiry) where
  inOrder := horder
  asking := by
    intro index own hown
    by_cases hindex : index = before.length
    · subst hindex
      rw [Function.update_self]
      refine hasking own ?_
      simpa using hown
    · rw [getElem?_middle_of_ne hindex call stepped] at hown
      rw [Function.update_of_ne hindex]
      exact h.asking index own hown
  idle := by
    intro index hnone
    by_cases hindex : index = before.length
    · subst hindex
      rw [Function.update_self]
      refine hidle ?_
      simpa using hnone
    · rw [getElem?_middle_of_ne hindex call stepped] at hnone
      rw [Function.update_of_ne hindex]
      exact h.idle index hnone

/-- The call approaches the cache. -/
theorem Hosts.approach (h : engine.Hosts (before ++ call :: after) callers) {worker : Worker}
    {inquiry : Inquiry} (hasks : call.Asks setup engine worker inquiry) :
    Crowd.InOrder ⟨engine.now, (inquiry.approach engine.now engine.store).1,
      Function.update callers before.length (inquiry.approach engine.now engine.store).2⟩ := by
  have hplace : (before ++ call :: after)[before.length]?.bind Call.asking? = call.asking? := by
    simp
  -- The caller at the place of the call has the question that the call has.
  have hready : Crowd.InOrder
      ⟨engine.now, engine.store, Function.update callers before.length inquiry⟩ := by
    cases hasks with
    | first hfresh hworker =>
        obtain ⟨bays, nextGate, nextTicket, horderly⟩ := h.inOrder.flights
        have hnone : (callers before.length).pass? = none :=
          h.idle _ (hplace.trans (by rw [Call.asking?, hfresh]))
        exact ⟨h.inOrder.cache, bays, nextGate, nextTicket, horderly.without hnone rfl⟩
    | again hqueued =>
        have hown : callers before.length = inquiry :=
          h.asking _ _ (hplace.trans (by rw [Call.asking?, hqueued]))
        rw [← hown, Function.update_eq_self]
        exact h.inOrder
  have hgone := Crowd.inOrder_step hready (.go before.length)
  simp only [Crowd.step, Crowd.moved, Function.update_self, Function.update_idem] at hgone
  exact hgone

theorem hosts_step (hstep : Call.Step setup (engine, call) (next, stepped))
    (hcall : call.Sound setup.registry engine.now)
    (h : engine.Hosts (before ++ call :: after) callers) :
    ∃ callers, next.Hosts (before ++ stepped :: after) callers := by
  have hplace : (before ++ call :: after)[before.length]?.bind Call.asking? = call.asking? := by
    simp
  cases hstep with
  | told notice => exact ⟨callers, ⟨h.inOrder.cache, h.inOrder.flights⟩, h.asking, h.idle⟩
  | refused response hfresh hnone =>
      have hidle : (callers before.length).pass? = none :=
        h.idle _ (hplace.trans (by rw [Call.asking?, hfresh]))
      have horder : Crowd.InOrder ⟨engine.now, engine.store,
          Function.update callers before.length (callers before.length)⟩ := by
        rw [Function.update_eq_self]
        exact h.inOrder
      exact ⟨_, h.move horder (fun _ hown => by cases hown) fun _ => hidle⟩
  | @found _ _ _ inquiry asked store response hasks happroach hanswered =>
      have horder := h.approach hasks
      rw [happroach] at horder
      exact ⟨_, h.move horder (fun _ hown => by cases hown)
        fun _ => by rw [Inquiry.pass?, hanswered]⟩
  | @queues _ _ worker inquiry asked store hasks happroach hopen hheld =>
      have horder := h.approach hasks
      rw [happroach] at horder
      exact ⟨_, h.move horder (fun _ hown => Option.some.inj hown) fun hnone => by cases hnone⟩
  | @starts _ _ worker inquiry asked store pass hasks happroach hcomputing =>
      have horder := h.approach hasks
      rw [happroach] at horder
      exact ⟨_, h.move ⟨horder.cache, horder.flights⟩ (fun _ hown => Option.some.inj hown)
        fun hnone => by cases hnone⟩
  | @ends _ _ inquiry began reply response hworking hdue =>
      have hown : callers before.length = inquiry :=
        h.asking _ _ (hplace.trans (by rw [Call.asking?, hworking]))
      have hsupplied := Crowd.inOrder_step h.inOrder (.supply before.length response)
      simp only [Crowd.step, Crowd.moved, hown] at hsupplied
      obtain ⟨-, -, ⟨pass, hcomputing⟩, -⟩ := hcall.of_working hworking
      refine ⟨_, h.move ⟨hsupplied.cache, hsupplied.flights⟩ (fun _ hother => by cases hother)
        fun _ => ?_⟩
      rw [Inquiry.supply, hcomputing, Inquiry.pass?]

/-! ### One call at a time -/

/-- The calls of a task that is worked at. -/
structure Serves (registry : Registry) (engine : Engine) (calls : List Call) : Prop where
  /-- Each is sound. -/
  sound : ∀ call ∈ calls, call.Sound registry engine.now
  /-- Those without a response are told the same. -/
  alike : ∀ call ∈ calls, ∀ other ∈ calls, call.response? = none → other.response? = none →
    call.briefing = other.briefing
  /-- They are the callers of the cache. -/
  hosted : ∃ callers, engine.Hosts calls callers

theorem serves_create (registry : Registry) (cache : CacheSettings) (limits : RunSettings) :
    Serves registry (Engine.create cache limits) [] where
  sound := fun _ hcall => absurd hcall List.not_mem_nil
  alike := fun _ hcall => absurd hcall List.not_mem_nil
  hosted := by
    have hstart := Crowd.inOrder_start cache.ttl cache.maxEntries 0
      fun _ : Nat => (⟨.historian, ⟨""⟩⟩, 0)
    exact ⟨_, hstart, (fun _ _ hasking => by cases hasking), fun _ _ => rfl⟩

/-- Every step of a call keeps this. -/
theorem serves_step (hstep : Call.Step setup (engine, call) (next, stepped))
    (h : Serves setup.registry engine (before ++ call :: after)) :
    Serves setup.registry next (before ++ stepped :: after) := by
  have hbriefing := congrArg Hearing.briefing (Call.hearing_step hstep)
  have hcall : call.Sound setup.registry engine.now := h.sound call (by simp)
  -- Whoever has no response after the step had none before, and was told the same.
  have hbefore : ∀ one ∈ before ++ stepped :: after, one.response? = none →
      ∃ other ∈ before ++ call :: after, other.response? = none ∧
        other.briefing = one.briefing := by
    intro one hone hopen
    rcases List.mem_append.mp hone with hin | hin
    · exact ⟨one, List.mem_append_left _ hin, hopen, rfl⟩
    · rcases List.mem_cons.mp hin with rfl | hin
      · exact ⟨call, by simp, Call.response?_step hstep hopen, hbriefing.symm⟩
      · exact ⟨one, by simp [hin], hopen, rfl⟩
  refine ⟨fun one hone => ?_, fun one hone other hother hopen hopenOther => ?_, ?_⟩
  · have hnow := Call.now_step hstep
    rcases List.mem_append.mp hone with hin | hin
    · rw [hnow]
      exact h.sound one (List.mem_append_left _ hin)
    · rcases List.mem_cons.mp hin with rfl | hin
      · exact Call.sound_step hstep hcall
      · rw [hnow]
        exact h.sound one (by simp [hin])
  · obtain ⟨first, hfirst, hfirstOpen, hfirstTold⟩ := hbefore one hone hopen
    obtain ⟨second, hsecond, hsecondOpen, hsecondTold⟩ := hbefore other hother hopenOther
    rw [← hfirstTold, ← hsecondTold]
    exact h.alike first hfirst second hsecond hfirstOpen hsecondOpen
  · obtain ⟨callers, hhosts⟩ := h.hosted
    exact hosts_step hstep hcall hhosts

/-- Where no call waits or works, any others that neither wait nor work may take their places. -/
theorem Serves.resettle {others : List Call} (h : Serves registry engine calls)
    (hcalls : ∀ call ∈ calls, call.asking? = none)
    (hothers : ∀ other ∈ others, other.asking? = none)
    (halike : ∀ one ∈ others, ∀ other ∈ others, one.response? = none → other.response? = none →
      one.briefing = other.briefing) : Serves registry engine others where
  sound := by
    intro other hother
    have hnone := hothers other hother
    unfold Call.asking? at hnone
    unfold Call.Sound
    cases hstage : other.stage with
    | fresh | answered response => trivial
    | queued worker inquiry | working inquiry began reply => simp [hstage] at hnone
  alike := halike
  hosted := by
    have hfree : ∀ {row : List Call}, (∀ call ∈ row, call.asking? = none) → ∀ index : Nat,
        row[index]?.bind Call.asking? = none := by
      intro row hnone index
      rw [Option.bind_eq_none_iff]
      exact fun call hcall => hnone call (List.mem_of_getElem? hcall)
    obtain ⟨callers, hhosts⟩ := h.hosted
    refine ⟨callers, hhosts.inOrder, fun index inquiry hasking => ?_, fun index _ => ?_⟩
    · rw [hfree hothers index] at hasking
      cases hasking
    · exact hhosts.idle index (hfree hcalls index)

/-- Nor does it matter what else happens, as long as no worker is at work for longer than it
said. -/
theorem Serves.later (h : Serves registry engine calls) (hstore : next.store = engine.store)
    (hahead : ∀ call ∈ calls, ∀ due, call.alarm = some due → next.now ≤ due) :
    Serves registry next calls where
  sound := by
    intro call hcall
    have hsound := h.sound call hcall
    unfold Call.Sound
    cases hstage : call.stage with
    | fresh | answered response => trivial
    | queued worker inquiry => exact hsound.of_queued hstage
    | working inquiry began reply =>
        obtain ⟨hthere, hkey, hcomputing, -⟩ := hsound.of_working hstage
        exact ⟨hthere, hkey, hcomputing, hahead call hcall _ (by rw [Call.alarm, hstage])⟩
  alike := h.alike
  hosted := by
    obtain ⟨callers, hhosts⟩ := h.hosted
    obtain ⟨hcache, hflights⟩ := hhosts.inOrder
    refine ⟨callers, ⟨?_, ?_⟩, hhosts.asking, hhosts.idle⟩
    · rw [hstore]
      exact hcache
    · rw [hstore]
      exact hflights

/-- No worker is at work for two calls at once. -/
theorem Serves.eq_of_working (h : Serves registry engine calls) {kind : WorkerKind}
    {index place : Nat} {one other : Call} (hone : calls[index]? = some one)
    (hother : calls[place]? = some other) (hworks : (one.span? kind).isSome)
    (hworksToo : (other.span? kind).isSome) : index = place := by
  obtain ⟨callers, hhosts⟩ := h.hosted
  have hat : ∀ {index : Nat} {call : Call}, calls[index]? = some call → (call.span? kind).isSome →
      call.response? = none ∧ (callers index).isComputing = true ∧
        (callers index).key = CacheKey.of kind call.briefing := by
    intro index call hcall hspan
    obtain ⟨inquiry, began, reply, hstage, hworker⟩ := Call.working_of_span? hspan
    have hsound := h.sound call (List.mem_of_getElem? hcall)
    obtain ⟨-, hkey, hcomputing, -⟩ := hsound.of_working hstage
    have hcaller : callers index = inquiry :=
      hhosts.asking index inquiry (by simp [hcall, Call.asking?, hstage])
    rw [hcaller, Inquiry.isComputing_iff]
    exact ⟨by simp [Call.response?, hstage], hcomputing, by rw [hkey, hworker]⟩
  obtain ⟨hopen, hcomputing, hkey⟩ := hat hone hworks
  obtain ⟨hopenToo, hcomputingToo, hkeyToo⟩ := hat hother hworksToo
  have htold := h.alike one (List.mem_of_getElem? hone) other (List.mem_of_getElem? hother) hopen
    hopenToo
  exact Crowd.eq_of_computing hhosts.inOrder hcomputing hcomputingToo
    (by rw [hkey, hkeyToo, htold])

/-- So, while a worker is at work for a call, it is not for any before or after it. -/
theorem Serves.spans_eq_nil (h : Serves registry engine (before ++ call :: after))
    {kind : WorkerKind} (hworks : (call.span? kind).isSome) :
    before.filterMap (Call.span? kind) = [] ∧ after.filterMap (Call.span? kind) = [] := by
  have hplace : (before ++ call :: after)[before.length]? = some call := by simp
  have hidle : ∀ {other : Call} {index : Nat}, (before ++ call :: after)[index]? = some other →
      index ≠ before.length → other.span? kind = none := by
    intro other index hother hne
    by_contra hspan
    exact hne (h.eq_of_working hother hplace (Option.isSome_iff_ne_none.mpr hspan) hworks)
  constructor
  · refine List.filterMap_eq_nil_iff.mpr fun other hother => ?_
    obtain ⟨index, hindex⟩ := List.mem_iff_getElem?.mp hother
    have hlt : index < before.length := (List.getElem?_eq_some_iff.mp hindex).1
    refine hidle ?_ (Nat.ne_of_lt hlt)
    rw [List.getElem?_append_left hlt, hindex]
  · refine List.filterMap_eq_nil_iff.mpr fun other hother => ?_
    obtain ⟨index, hindex⟩ := List.mem_iff_getElem?.mp hother
    refine @hidle other (before.length + (index + 1)) ?_ (by omega)
    rw [List.getElem?_append_right (Nat.le_add_right _ _), Nat.add_sub_cancel_left]
    exact hindex

end Engine

end StoryDirector
