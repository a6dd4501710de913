import Mathlib.Data.List.Forall2
import StoryDirector.Proofs.Cache.Clear
import StoryDirector.Proofs.Run.AtWork
/-!
# StoryDirector.Proofs.Run.Stints

The workers of one task and the clock. **What a task's workers do is settled when the task begins**:
each has a stint, its one call within the task: what it is told, when it is called and what it
replies (`Task.stints`).
Workers that are called at once start at once; of those that are called one after another, each
starts when the one before it is done.

While nothing stands between the task and its workers (`Stint.Underway`), the calls of the task at
any instant are as the stints say (`Stint.Stands`): those whose stint is over have its response,
those whose stint has begun are at work, and the others are not made yet. In which order the workers
answer is of no account.
-/

namespace StoryDirector

/-- What a worker of a kind replies if it is told something now. -/
def Engine.replyOf (engine : Engine) (registry : Registry) (kind : WorkerKind) (told : Briefing) :
    Reply :=
  match registry.get? kind with
  | some worker => worker.reply (engine.heardBy kind) told
  | none => { outcome := .erred (.notRegistered kind) }

/-- One worker's part in a task. -/
structure Stint where
  /-- The worker. -/
  worker : WorkerKind
  /-- What it is told. -/
  told : Briefing
  /-- How long after the beginning of the task it is called. -/
  start : Duration
  /-- What it replies. -/
  reply : Reply

namespace Stint

/-- How long after the beginning of the task the worker is done. -/
def done (stint : Stint) : Duration :=
  stint.start + stint.reply.delay

/-- The response that comes of it. -/
def response (stint : Stint) : Response :=
  stint.reply.outcome.response stint.worker stint.reply.delay

/-- The question that it is for the cache. -/
def key (stint : Stint) : CacheKey :=
  CacheKey.of stint.worker stint.told

/-- How long after the beginning of the task all of some workers are done. -/
def span (stints : List Stint) : Duration :=
  (stints.map done).foldr max 0

/-- All workers are called at once. -/
def atOnce (reply : WorkerKind → Briefing → Reply) (briefing : Briefing)
    (workers : List WorkerKind) : List Stint :=
  workers.map fun worker => { worker, told := briefing, start := 0, reply := reply worker briefing }

/-- A worker is called after others, and is told what they said. -/
def next (reply : WorkerKind → Briefing → Reply) (briefing : Briefing) (said : List Response)
    (start : Duration) (worker : WorkerKind) : Stint :=
  let told := { briefing with prior := briefing.prior ++ said }
  { worker, told, start, reply := reply worker told }

/-- The workers are called one after another, each when the one before it is done, after others that
said something and were done at some time. -/
def inTurn (reply : WorkerKind → Briefing → Reply) (briefing : Briefing) :
    (said : List Response) → (start : Duration) → List WorkerKind → List Stint
  | _, _, [] => []
  | said, start, worker :: rest =>
    let stint := next reply briefing said start worker
    stint :: inTurn reply briefing (said ++ [stint.response]) stint.done rest

end Stint

/-- The stints of a task's workers, in the order in which the task names them. -/
def Task.stints (task : Task) (reply : WorkerKind → Briefing → Reply) (briefing : Briefing) :
    List Stint :=
  if task.mode.isConcurrent then Stint.atOnce reply briefing task.workers
  else Stint.inTurn reply briefing [] 0 task.workers

namespace Stint

variable {reply : WorkerKind → Briefing → Reply} {briefing : Briefing} {said : List Response}
  {start : Duration} {workers : List WorkerKind} {stints made others : List Stint}

theorem span_le_iff {limit : Duration} :
    span stints ≤ limit ↔ ∀ stint ∈ stints, stint.done ≤ limit := by
  induction stints with
  | nil => simp [span]
  | cons first rest ih =>
      rw [show span (first :: rest) = max first.done (span rest) from rfl, Nat.max_le, ih,
        List.forall_mem_cons]

theorem done_le_span {stint : Stint} (h : stint ∈ stints) : stint.done ≤ span stints :=
  span_le_iff.mp (Nat.le_refl _) stint h

/-- When each is done, all are done. -/
theorem add_span_le {began now : Instant} (hbegan : began ≤ now)
    (h : ∀ stint ∈ stints, began + stint.done ≤ now) : began + span stints ≤ now := by
  have hspan : span stints ≤ now - began :=
    span_le_iff.mpr fun stint hstint => Nat.le_sub_of_add_le' (h stint hstint)
  exact Nat.add_le_of_le_sub' hbegan hspan

theorem span_append (stints others : List Stint) :
    span (stints ++ others) = max (span stints) (span others) := by
  induction stints with
  | nil => exact (Nat.zero_max _).symm
  | cons first rest ih =>
      show max first.done (span (rest ++ others)) = max (max first.done (span rest)) (span others)
      rw [ih, Nat.max_assoc]

/-- A stint that starts when all others are done is done last. -/
theorem span_concat {stint : Stint} (h : stint.start = span made) :
    span (made ++ [stint]) = stint.done := by
  have hlast : span [stint] = stint.done := Nat.max_zero _
  rw [span_append, hlast]
  exact Nat.max_eq_right (h ▸ Nat.le_add_right _ _)

end Stint

/-! ### One call -/

namespace Call

/-- The pass of a call that waits or works. -/
def pass? (call : Call) : Option Pass :=
  call.asking?.bind (·.pass?)

/-- The passes of several calls. -/
def passes (calls : List Call) : List Pass :=
  calls.filterMap pass?

theorem mem_passes_middle {before after : List Call} {call : Call} {pass : Pass} :
    pass ∈ passes (before ++ call :: after) ↔
      pass ∈ call.pass?.toList ++ passes (before ++ after) := by
  simp only [passes, List.filterMap_append, List.mem_append, List.mem_filterMap, Option.mem_toList,
    List.mem_cons, exists_eq_or_imp]
  exact or_left_comm

end Call

namespace Stint

variable {stint : Stint} {began now : Instant} {call : Call} {engine : Engine} {setup : RunSetup}
  {keys : List CacheKey} {passes : List Pass}

/-- The call stands as the stint says, in a task that began at some instant; a reply that is due may
not be taken yet. -/
inductive Stands (began now : Instant) (stint : Stint) : Call → Prop where
  /-- The worker is at work. -/
  | working {inquiry : Inquiry} {pass : Pass} (hpass : inquiry.stage = .computing pass)
      (hkey : pass.key = stint.key) (hasked : inquiry.key = stint.key)
      (hnow : now ≤ began + stint.done) :
      Stands began now stint
        ⟨stint.worker, stint.told, .working inquiry (began + stint.start) stint.reply⟩
  /-- It is done. -/
  | answered (hdone : began + stint.done ≤ now) :
      Stands began now stint ⟨stint.worker, stint.told, .answered stint.response⟩

theorem Stands.key_of_pass (h : stint.Stands began now call) {pass : Pass}
    (hpass : call.pass? = some pass) : pass.key = stint.key := by
  cases h with
  | working hcomputing hkey _ _ =>
      have hown := Inquiry.pass?_of_computing hcomputing
      obtain rfl := Option.some.inj (hown.symm.trans hpass)
      exact hkey
  | answered hdone => cases hpass

/-- Whoever has a response has the one that the stint says, and is done. -/
theorem Stands.response?_eq_some (h : stint.Stands began now call) {response : Response}
    (hresponse : call.response? = some response) :
    response = stint.response ∧ began + stint.done ≤ now := by
  cases h with
  | working _ _ _ _ => cases hresponse
  | answered hdone => exact ⟨(Option.some.inj hresponse).symm, hdone⟩

/-- A look at a call takes the reply if it is due. -/
theorem Stands.look (h : stint.Stands began engine.now call)
    (hclear : engine.store.Clear engine.now keys (call.pass?.toList ++ passes))
    (hkey : stint.key ∉ keys) (hpasses : ∀ pass ∈ passes, pass.key ≠ stint.key) :
    (call.look setup engine).1.now = engine.now ∧
      (call.look setup engine).1.hearings = engine.hearings ∧
      stint.Stands began engine.now (call.look setup engine).2 ∧
      (call.look setup engine).1.store.Clear engine.now keys
        ((call.look setup engine).2.pass?.toList ++ passes) := by
  cases h with
  | answered hdone => exact ⟨rfl, rfl, .answered hdone, hclear⟩
  | @working inquiry pass hpass hpassKey hasked hnow =>
      have hlook : Call.look ⟨stint.worker, stint.told,
          .working inquiry (began + stint.start) stint.reply⟩ setup engine =
          Call.attend ⟨stint.worker, stint.told,
            .working inquiry (began + stint.start) stint.reply⟩ inquiry (began + stint.start)
            stint.reply engine := rfl
      rw [hlook, Call.attend]
      split
      case isTrue hdue =>
          -- The clock was not wound past the instant at which the reply is due.
          have hdone : began + stint.done ≤ engine.now := by
            rw [done, ← Nat.add_assoc]
            exact hdue
          have htook : engine.now - (began + stint.start) = stint.reply.delay := by
            rw [Nat.le_antisymm hnow hdone, done, ← Nat.add_assoc, Nat.add_sub_cancel_left]
          have hown : Call.pass? ⟨stint.worker, stint.told,
              .working inquiry (began + stint.start) stint.reply⟩ = some pass :=
            Inquiry.pass?_of_computing hpass
          rw [hown] at hclear
          rw [htook]
          refine ⟨rfl, rfl, .answered hdone, ?_⟩
          refine Inquiry.clear_supply hclear hpass (hasked ▸ hkey) (fun hin => ?_) _
          exact hpasses pass hin hpassKey
      case isFalse => exact ⟨rfl, rfl, .working hpass hpassKey hasked hnow, hclear⟩

/-- A worker that is called when its stint starts, with a question that no one asks, is at work at
once; and its reply is taken, if it takes no time. -/
theorem stands_begin {worker : Worker} (hworker : setup.registry.get? stint.worker = some worker)
    (hreply : worker.reply (engine.heardBy stint.worker) stint.told = stint.reply)
    (hstart : engine.now = began + stint.start)
    (hclear : engine.store.Clear engine.now (stint.key :: keys) passes) (hkey : stint.key ∉ keys)
    (hpasses : ∀ pass ∈ passes, pass.key ≠ stint.key) :
    let looked := Call.look { worker := stint.worker, briefing := stint.told } setup engine
    looked.1.now = engine.now ∧
      looked.1.hearings = engine.hearings ++ [⟨stint.worker, stint.told⟩] ∧
      stint.Stands began engine.now looked.2 ∧
      looked.1.store.Clear engine.now keys (looked.2.pass?.toList ++ passes) := by
  intro looked
  let told := engine.notify setup
    (Progress.workerCalled stint.told.view.session stint.worker stint.told.task)
  obtain ⟨after, pass, happroach, hpass, hafter⟩ :=
    @Inquiry.approach_of_clear ⟨stint.key, told.store.cache.ttl, .fresh⟩ engine.now engine.store
      keys passes hclear rfl hkey
  let asked : Inquiry := ⟨stint.key, told.store.cache.ttl, .computing pass⟩
  let heard : Engine :=
    { told with store := after, hearings := engine.hearings ++ [⟨stint.worker, stint.told⟩] }
  let call : Call := ⟨stint.worker, stint.told, .working asked (began + stint.start) stint.reply⟩
  have hcall : stint.Stands began heard.now call :=
    .working rfl hpass rfl (hstart ▸ Nat.add_le_add_left (Nat.le_add_right _ _) began)
  -- From here on it is a look at a worker that is at work.
  have hlooked : looked = call.look setup heard := by
    have hbegin : looked =
        Call.begin { worker := stint.worker, briefing := stint.told } setup engine := rfl
    have hpursue : looked =
        Call.pursue { worker := stint.worker, briefing := stint.told } worker
          ⟨stint.key, told.store.cache.ttl, .fresh⟩ told := by
      rw [hbegin, Call.begin, hworker]
      rfl
    have happroached : Inquiry.approach ⟨stint.key, told.store.cache.ttl, .fresh⟩ told.now
        told.store = (after, asked) := happroach
    have hheard : worker.reply (Engine.heardBy { told with store := after } stint.worker)
        stint.told = stint.reply := hreply
    have hlook : call.look setup heard =
        Call.attend { worker := stint.worker, briefing := stint.told } asked engine.now stint.reply
          heard := by
      rw [hstart]
      rfl
    rw [hpursue, Call.pursue, happroached]
    dsimp only [asked]
    rw [Call.start, hheard]
    exact hlook.symm
  rw [hlooked]
  exact hcall.look hafter hkey hpasses

/-! ### All calls of a task -/

/-- Whatever other workers are asked is another question, so the passes of their calls are for
others. -/
theorem key_ne_of_mem_passes {stints : List Stint} {calls : List Call}
    (h : List.Forall₂ (Stands began now) stints calls)
    (hother : stint.worker ∉ stints.map (·.worker)) {pass : Pass}
    (hpass : pass ∈ Call.passes calls) : pass.key ≠ stint.key := by
  induction h with
  | nil => cases hpass
  | @cons first call _ _ hcall _ ih =>
      obtain ⟨hfirst, hrest⟩ := not_or.mp (List.mem_cons.not.mp hother)
      obtain ⟨holder, hholder, hown⟩ := List.mem_filterMap.mp hpass
      rcases List.mem_cons.mp hholder with rfl | hlater
      · have hkey : pass.key = first.key := hcall.key_of_pass hown
        exact fun hsame => hfirst (congrArg CacheKey.worker (hsame.symm.trans hkey))
      · exact ih hrest (List.mem_filterMap.mpr ⟨holder, hlater, hown⟩)

/-- Once all have answered, their responses are those of the stints, and all of them are done. -/
theorem eq_of_responses? {stints : List Stint} {calls : List Call}
    (h : List.Forall₂ (Stands began now) stints calls)
    {responses : List Response} (hall : Call.responses? calls = some responses) :
    responses = stints.map (·.response) ∧ ∀ stint ∈ stints, began + stint.done ≤ now := by
  induction h generalizing responses with
  | nil =>
      obtain rfl := Option.some.inj hall
      exact ⟨rfl, fun _ hstint => absurd hstint List.not_mem_nil⟩
  | cons hcall _ ih =>
      obtain ⟨first, others, hfirst, hothers, rfl⟩ := Call.responses?_cons_eq_some.mp hall
      obtain ⟨rfl, hdone⟩ := hcall.response?_eq_some hfirst
      obtain ⟨rfl, hrest⟩ := ih hothers
      exact ⟨rfl, List.forall_mem_cons.mpr ⟨hdone, hrest⟩⟩

/-- As long as not all have answered, someone is at work, and the clock was not wound past the time
at which the reply is due. -/
theorem exists_working {stints : List Stint} {calls : List Call}
    (h : List.Forall₂ (Stands began now) stints calls) (hopen : Call.responses? calls = none) :
    ∃ stint ∈ stints, ∃ call ∈ calls,
      call.alarm = some (began + stint.done) ∧ now ≤ began + stint.done := by
  induction h with
  | nil => cases hopen
  | @cons stint call stints calls hcall _ ih =>
      cases hcall with
      | working _ _ _ hnow =>
          exact ⟨stint, List.mem_cons_self, _, List.mem_cons_self,
            congrArg some (Nat.add_assoc began stint.start stint.reply.delay), hnow⟩
      | answered hdone =>
          cases hrest : Call.responses? calls with
          | none =>
              obtain ⟨other, hother, working, hworking, hdue⟩ := ih hrest
              exact ⟨other, List.mem_cons_of_mem _ hother, working, List.mem_cons_of_mem _ hworking,
                hdue⟩
          | some responses =>
              have hnone := Option.eq_none_iff_forall_ne_some.mp hopen (stint.response :: responses)
              exact absurd (Call.responses?_cons_eq_some.mpr ⟨_, _, rfl, hrest, rfl⟩) hnone

/-- The clock may be wound as far as the next reply is due. -/
theorem stands_wind {stints : List Stint} {calls : List Call}
    (h : List.Forall₂ (Stands began now) stints calls) {instant : Instant} (hle : now ≤ instant)
    (halarm : ∀ call ∈ calls, ∀ due, call.alarm = some due → instant ≤ due) :
    List.Forall₂ (Stands began instant) stints calls := by
  induction h with
  | nil => exact .nil
  | @cons stint call stints calls hcall _ ih =>
      obtain ⟨hfirst, hothers⟩ := List.forall_mem_cons.mp halarm
      refine .cons ?_ (ih hothers)
      cases hcall with
      | working hpass hkey hasked _ =>
          refine .working hpass hkey hasked (hfirst _ ?_)
          exact congrArg some (Nat.add_assoc began stint.start stint.reply.delay)
      | answered hdone => exact .answered (Nat.le_trans hdone hle)

/-- Of the workers of a task some were called, and their calls stand as their stints say. Nothing
stands between the task and the others: they are there, no one is at work on what they will be
asked, and no answer to it is alive. -/
structure Underway (registry : Registry) (reply : WorkerKind → Briefing → Reply)
    (briefing : Briefing) (began : Instant) (made : List Stint) (waiting : List WorkerKind)
    (engine : Engine) (calls : List Call) : Prop where
  /-- The calls stand as the stints say, -/
  stands : List.Forall₂ (Stands began engine.now) made calls
  /-- no worker is needed twice, -/
  apart : (made.map (·.worker) ++ waiting).Nodup
  /-- no one is in the way of those that are yet to be called, -/
  clear : engine.store.Clear engine.now (waiting.map fun kind => CacheKey.of kind briefing)
    (Call.passes calls)
  /-- and they will reply as it was settled. -/
  ready : ∀ kind ∈ waiting, ∃ worker, registry.get? kind = some worker ∧
    ∀ told, worker.reply (engine.heardBy kind) told = reply kind told

variable {reply : WorkerKind → Briefing → Reply} {briefing : Briefing} {made : List Stint}
  {waiting : List WorkerKind} {calls : List Call}

theorem key_not_mem {workers : List WorkerKind} (h : stint.worker ∉ workers) (briefing : Briefing) :
    stint.key ∉ workers.map fun kind => CacheKey.of kind briefing := by
  intro hin
  obtain ⟨kind, hkind, hkey⟩ := List.mem_map.mp hin
  have hsame : kind = stint.worker := congrArg CacheKey.worker hkey
  exact h (hsame ▸ hkind)

namespace Underway

/-- A look at a call that was made. -/
theorem look {before after : List Call}
    (h : Underway setup.registry reply briefing began made waiting engine
      (before ++ call :: after)) :
    Underway setup.registry reply briefing began made waiting (call.look setup engine).1
      (before ++ (call.look setup engine).2 :: after) := by
  obtain ⟨hstands, hapart, hclear, hready⟩ := h
  obtain ⟨first, rest, rfl, hfirst, hrest⟩ : ∃ first rest, made = first ++ rest ∧
      List.Forall₂ (Stands began engine.now) first before ∧
      List.Forall₂ (Stands began engine.now) rest (call :: after) :=
    ⟨_, _, (List.take_append_drop before.length made).symm,
      List.forall₂_take_append _ _ _ hstands, List.forall₂_drop_append _ _ _ hstands⟩
  cases hrest with
  | @cons stint _ others _ hcall hothers =>
      have hmiddle := hapart
      rw [List.map_append, List.map_cons, List.append_assoc, List.cons_append, List.nodup_middle,
        List.nodup_cons, List.mem_append, List.mem_append, not_or, not_or] at hmiddle
      obtain ⟨⟨hnotFirst, hnotOthers, hnotWaiting⟩, -⟩ := hmiddle
      have hpasses : ∀ pass ∈ Call.passes (before ++ after), pass.key ≠ stint.key := by
        intro pass hpass
        rw [Call.passes, List.filterMap_append, List.mem_append] at hpass
        rcases hpass with hpass | hpass
        · exact key_ne_of_mem_passes hfirst hnotFirst hpass
        · exact key_ne_of_mem_passes hothers hnotOthers hpass
      obtain ⟨hnow, hhearings, hlooked, hafter⟩ :=
        @Stands.look stint began call engine setup _ _ hcall
          (hclear.mono (List.Subset.refl _) fun pass => Call.mem_passes_middle.mpr)
          (key_not_mem hnotWaiting briefing) hpasses
      refine ⟨?_, hapart, ?_, fun kind hkind => ?_⟩
      · rw [hnow]
        exact List.rel_append hfirst (.cons hlooked hothers)
      · rw [hnow]
        exact hafter.mono (List.Subset.refl _) fun pass => Call.mem_passes_middle.mp
      · rw [Engine.heardBy, hhearings]
        exact hready kind hkind

theorem lookAll
    (h : Underway setup.registry reply briefing began made waiting engine calls) :
    Underway setup.registry reply briefing began made waiting (Call.lookAll setup calls engine).1
      (Call.lookAll setup calls engine).2 :=
  @Call.lookAll_induction setup engine
    (Underway setup.registry reply briefing began made waiting) look [] calls h

/-- The next worker is called, at the time at which its stint starts. -/
theorem next {stint : Stint}
    (h : Underway setup.registry reply briefing began made (stint.worker :: waiting) engine calls)
    (htold : stint.told.fingerprint = briefing.fingerprint)
    (hreply : stint.reply = reply stint.worker stint.told)
    (hstart : engine.now = began + stint.start) :
    let looked := Call.look { worker := stint.worker, briefing := stint.told } setup engine
    Underway setup.registry reply briefing began (made ++ [stint]) waiting looked.1
      (calls ++ [looked.2]) := by
  intro looked
  obtain ⟨hstands, hapart, hclear, hready⟩ := h
  have hmiddle := hapart
  rw [List.nodup_middle, List.nodup_cons, List.mem_append, not_or] at hmiddle
  obtain ⟨⟨hnotMade, hnotWaiting⟩, -⟩ := hmiddle
  obtain ⟨worker, hworker, hreplies⟩ := hready stint.worker List.mem_cons_self
  have hkey : CacheKey.of stint.worker briefing = stint.key := by
    rw [key, CacheKey.of, CacheKey.of, htold]
  have hpasses : ∀ pass ∈ Call.passes calls, pass.key ≠ stint.key :=
    fun _ hpass => key_ne_of_mem_passes hstands hnotMade hpass
  rw [List.map_cons, hkey] at hclear
  obtain ⟨hnow, hhearings, hlooked, hafter⟩ := stands_begin hworker
    ((hreplies stint.told).trans hreply.symm) hstart hclear (key_not_mem hnotWaiting briefing)
    hpasses
  have hlast : Call.passes (calls ++ [looked.2]) ⊆ looked.2.pass?.toList ++ Call.passes calls := by
    intro pass hpass
    have hin := Call.mem_passes_middle.mp hpass
    rwa [List.append_nil] at hin
  refine ⟨?_, ?_, ?_, fun kind hkind => ?_⟩
  · show List.Forall₂ (Stands began looked.1.now) _ _
    rw [hnow]
    exact List.rel_append hstands (.cons hlooked .nil)
  · rw [List.map_append, List.append_assoc]
    exact hapart
  · show looked.1.store.Clear looked.1.now _ _
    rw [hnow]
    exact hafter.mono (List.Subset.refl _) hlast
  · have hne : stint.worker ≠ kind := fun hsame => hnotWaiting (hsame ▸ hkind)
    have hheard : looked.1.heardBy kind = engine.heardBy kind := by
      rw [Engine.heardBy, hhearings, List.filter_append]
      simp [Engine.heardBy, hne]
    rw [hheard]
    exact hready kind (List.mem_cons_of_mem _ hkind)

/-- Workers are called one after another, as far as all before them have answered. -/
theorem callNext (h : Underway setup.registry reply briefing began made waiting engine calls)
    (hbegan : began ≤ engine.now) (hnow : waiting ≠ [] → engine.now ≤ began + span made) :
    let called := Execution.callNext setup briefing calls waiting engine
    (∃ more, inTurn reply briefing (made.map (·.response)) (span made) waiting =
        more ++ inTurn reply briefing ((made ++ more).map (·.response)) (span (made ++ more))
          called.2.2 ∧
      Underway setup.registry reply briefing began (made ++ more) called.2.2 called.1 called.2.1) ∧
      (called.2.2 ≠ [] → Call.responses? called.2.1 = none) := by
  induction waiting generalizing made calls engine with
  | nil =>
      refine ⟨⟨[], rfl, ?_⟩, fun hnone => absurd rfl hnone⟩
      rw [List.append_nil]
      exact h
  | cons kind rest ih =>
      rw [Execution.callNext]
      cases hresponses : Call.responses? calls with
      | none =>
          refine ⟨⟨[], ?_, ?_⟩, fun _ => hresponses⟩
          · rw [List.append_nil]
            rfl
          · rw [List.append_nil]
            exact h
      | some same =>
          -- All have answered, and the clock was not wound past the time at which they are done.
          obtain ⟨rfl, hdone⟩ := eq_of_responses? h.stands hresponses
          have hstart : engine.now = began + span made :=
            Nat.le_antisymm (hnow (List.cons_ne_nil _ _)) (add_span_le hbegan hdone)
          let stint := Stint.next reply briefing (made.map (·.response)) (span made) kind
          let looked := Call.look { worker := stint.worker, briefing := stint.told } setup engine
          have hcalled : Underway setup.registry reply briefing began (made ++ [stint]) rest
              looked.1 (calls ++ [looked.2]) := h.next rfl rfl hstart
          have hlast : span (made ++ [stint]) = stint.done := span_concat rfl
          have hstill : looked.1.now = engine.now := (Call.look_spec setup _ engine).1
          have hlater : looked.1.now ≤ began + span (made ++ [stint]) := by
            rw [hstill, hstart, hlast]
            exact Nat.add_le_add_left (Nat.le_add_right _ _) began
          obtain ⟨⟨more, hmore, hunderway⟩, hheld⟩ :=
            ih hcalled (hstill ▸ hbegan) fun _ => hlater
          rw [hlast, List.map_append, List.map_singleton, List.append_assoc] at hmore
          rw [List.append_assoc] at hunderway
          exact ⟨⟨stint :: more, congrArg (stint :: ·) hmore, hunderway⟩, hheld⟩

end Underway

end Stint

end StoryDirector
