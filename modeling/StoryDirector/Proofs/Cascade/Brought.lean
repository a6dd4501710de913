import Mathlib.Data.List.Forall2
import Mathlib.Data.List.Nodup
import StoryDirector.Proofs.Cascade.Conservation
import StoryDirector.Proofs.Run.Feedback
/-!
# StoryDirector.Proofs.Cascade.Brought

Which events come of which contributions. **What is remembered of a run is told by the responses
themselves: each event that one of them reports, stamped with whoever reported it and the turn; one
event for its changes and one for each flag that its worker may set; and whatever the processor
returned for an event that was in line** (`CascadeRules.Brought`). The relation says it in terms of
what a response carries, whatever way the events take to the session and to the report.

A session fed with contributions remembers exactly this (`CascadeRules.brought_fed`). That the
events which come about on the way all have identities of their own is `CascadeRules.Brought.given`.
-/

namespace StoryDirector

/-! ### What responses report and imply -/

/-- The event as it is remembered of what a worker reported: whoever reported it and the turn are
filled in where they are open, and all else is as it was reported. -/
structure Event.Stamped (worker : WorkerKind) (turn : Nat) (given event : Event) : Prop where
  /-- The identity stays, -/
  id : event.id = given.id
  /-- and so do the kind, -/
  kind : event.kind = given.kind
  /-- the priority -/
  priority : event.priority = given.priority
  /-- and the particulars. -/
  payload : event.payload = given.payload
  /-- The source is the one that was named, or else the worker. -/
  source : event.source = some (given.source.getD worker.name)
  /-- The turn is the one that was given, or else the present one. -/
  turn : event.turn = if given.turn = 0 then turn else given.turn

/-- The events are those that the responses that count report, each once and in order. -/
def Response.Report (turn : Nat) (responses : List Response) (events : List Event) : Prop :=
  List.Forall₂ (fun (given : WorkerKind × Event) event => given.2.Stamped given.1 turn event)
    ((responses.filter (·.success)).flatMap fun response =>
      response.events.map (response.worker, ·))
    events

/-- A flag of a worker stands for an event of a kind. -/
inductive WorkerKind.Signals : WorkerKind → String → EventKind → Prop
  /-- Something befalls the world. -/
  | befalls : Signals .worldSimulator "world_event" .worldEvent
  /-- A character appears. -/
  | appears : Signals .npcManager "npc_spawned" .npcSpawn
  /-- A character dies. -/
  | dies : Signals .npcManager "npc_died" .npcDeath
  /-- Reality slips. -/
  | slips : Signals .anomalyGenerator "anomaly" .anomaly

/-- What is set under the flag of an event of the kind gives it these particulars. -/
inductive EventKind.Details : EventKind → Json → Json → Prop
  /-- An object is taken as it is. -/
  | object (kind : EventKind) (fields : Dict Json) : Details kind (.object fields) (.object fields)
  /-- A text is the name of a character, -/
  | name {kind : EventKind} (h : kind = .npcSpawn ∨ kind = .npcDeath) (text : String) :
    Details kind (.text text) (.object [("name", .text text)])
  /-- and says of anything else what it is. -/
  | sort {kind : EventKind} (h : kind ≠ .npcSpawn ∧ kind ≠ .npcDeath) (text : String) :
    Details kind (.text text) (.object [("kind", .text text)])
  /-- Nothing is known otherwise. -/
  | bare (kind : EventKind) {value : Json} (hobject : ∀ fields, value ≠ .object fields)
    (htext : ∀ text, value ≠ .text text) : Details kind value (.object [])

/-- The response implies that something of the kind happened. -/
inductive Response.Implies (response : Response) : EventKind → Json → Prop
  /-- The state of the world was changed. -/
  | change (h : response.stateChanges ≠ []) :
    Implies response .stateChange (.object response.stateChanges)
  /-- The worker set a flag. -/
  | flag {flag : String} {kind : EventKind} {value payload : Json}
    (hsignal : response.worker.Signals flag kind) (hset : response.hasFlag flag = true)
    (hvalue : Dict.value? response.metadata flag = some value)
    (hdetails : kind.Details value payload) : Implies response kind payload

/-- The events are those that one response implies, each once. -/
structure Response.Derives (turn : Nat) (response : Response) (events : List Event) : Prop where
  /-- Each of them is implied, -/
  implied : ∀ event ∈ events, response.Implies event.kind event.payload
  /-- whatever is implied is among them, -/
  complete : ∀ kind payload, response.Implies kind payload →
    ∃ event ∈ events, event.kind = kind ∧ event.payload = payload
  /-- and there is one of a kind at most. -/
  once : (events.map (·.kind)).Nodup
  /-- Each bears the stamp of the response. -/
  stamped : ∀ event ∈ events, event.source = some response.worker.name ∧ event.turn = turn ∧
    event.priority = event.kind.defaultPriority

/-- The events are those that the responses that count imply, response by response. -/
def Response.Derive (turn : Nat) (responses : List Response) (events : List Event) : Prop :=
  ∃ parts, List.Forall₂ (Response.Derives turn) (responses.filter (·.success)) parts ∧
    events = parts.flatten

/-! ### What contributions bring -/

namespace CascadeRules

/-- How one contribution is fed back: what it implies and what it reports is remembered and then
processed, round by round. -/
structure Brings (rules : CascadeRules) (responses : List Response) (before : Session)
    (implied told : List Event) (rounds : List (List Handling)) (after : Session) : Prop where
  /-- The responses imply the first events, -/
  derives : Response.Derive before.turn responses implied
  /-- which are given new identities, -/
  numbered : implied.map (·.id) =
    (List.range implied.length).map (EventId.made before.recorded ·)
  /-- and report the others. -/
  reports : Response.Report before.turn responses told
  /-- The processor is called on one session after another, -/
  calls : Cascade.Calls rules.process (before.recordEvents (implied ++ told)) rounds.flatten after
  /-- once for each event in line, until none is left or there are as many rounds as allowed. -/
  batches : ∃ left, Cascade.Batches (implied ++ told) rounds left ∧ rounds.length ≤ rules.depth ∧
    (left ≠ [] → rounds.length = rules.depth)

/-- Some contributions are fed back one by one. Of the events that they bring some came about on the
way, derived or following, and some were told by workers; all of them are recorded in their
order. -/
inductive Brought (rules : CascadeRules) : List (List Response) → Session →
    (made told recorded : List Event) → Session → Prop
  /-- Nothing is brought. -/
  | none (session : Session) : Brought rules [] session [] [] [] session
  /-- One contribution is fed back, and then the others are. -/
  | next {responses : List Response} {rest : List (List Response)} {before between after : Session}
    {implied own : List Event} {rounds : List (List Handling)} {made told recorded : List Event}
    (hbrings : rules.Brings responses before implied own rounds between)
    (hrest : Brought rules rest between made told recorded after) :
    Brought rules (responses :: rest) before
      (implied ++ rounds.flatten.flatMap (·.followups) ++ made) (own ++ told)
      (implied ++ own ++ rounds.flatten.flatMap (·.followups) ++ recorded) after

variable {rules : CascadeRules}

open List in
/-- What is recorded is, in another order, what workers told and what came about on the way. -/
theorem Brought.perm {contributions : List (List Response)} {before after : Session}
    {made told recorded : List Event}
    (h : rules.Brought contributions before made told recorded after) :
    (told ++ made).Perm recorded := by
  induction h with
  | none => exact .refl _
  | @next _ _ _ _ _ implied own rounds made told recorded hbrings hrest ih =>
      generalize rounds.flatten.flatMap (·.followups) = followups
      -- What was told later moves behind all that came about with the first contribution.
      calc
        own ++ told ++ (implied ++ followups ++ made)
            = own ++ (told ++ (implied ++ followups ++ made)) := List.append_assoc _ _ _
        _ ~ own ++ (implied ++ followups ++ (told ++ made)) :=
            List.Perm.append_left _ (List.perm_append_comm_assoc _ _ _)
        _ ~ own ++ (implied ++ followups ++ recorded) :=
            List.Perm.append_left _ (List.Perm.append_left _ ih)
        _ = own ++ (implied ++ (followups ++ recorded)) := by rw [List.append_assoc implied]
        _ ~ implied ++ (own ++ (followups ++ recorded)) := List.perm_append_comm_assoc _ _ _
        _ = implied ++ own ++ followups ++ recorded := by simp only [List.append_assoc]

end CascadeRules

/-! ### The events that are derived and reported -/

namespace Cascade

variable {turn moment place : Nat} {response : Response}

theorem stamped_stamp (worker : WorkerKind) (turn : Nat) (event : Event) :
    event.Stamped worker turn (stamp worker turn event) :=
  ⟨rfl, rfl, rfl, rfl, rfl, rfl⟩

theorem report_reported (responses : List Response) (turn : Nat) :
    Response.Report turn responses (reported responses turn) := by
  have hall : reported responses turn =
      ((responses.filter (·.success)).flatMap fun response =>
        response.events.map (response.worker, ·)).map fun given => stamp given.1 turn given.2 := by
    simp only [reported, successful, List.map_flatMap, List.map_map]
    rfl
  rw [Response.Report, hall, List.forall₂_map_right_iff, List.forall₂_same]
  exact fun given _ => stamped_stamp given.1 turn given.2

/-- Which flag stands for which event is one table. -/
theorem mem_flagEvents {worker : WorkerKind} {flag : String} {kind : EventKind} :
    (worker, flag, kind) ∈ flagEvents ↔ worker.Signals flag kind := by
  constructor
  · intro h
    simp only [flagEvents, List.mem_cons, List.not_mem_nil, or_false, Prod.mk.injEq] at h
    rcases h with ⟨rfl, rfl, rfl⟩ | ⟨rfl, rfl, rfl⟩ | ⟨rfl, rfl, rfl⟩ | ⟨rfl, rfl, rfl⟩
    · exact .befalls
    · exact .appears
    · exact .dies
    · exact .slips
  · intro h
    cases h <;> simp [flagEvents]

theorem details_flagPayload (kind : EventKind) (value : Json) :
    kind.Details value (flagPayload kind value) := by
  cases value with
  | object fields => exact .object kind fields
  | text s => cases kind <;> first | exact .name (by simp) s | exact .sort (by simp) s
  | _ => exact .bare kind (by simp) (by simp)

theorem eq_flagPayload {kind : EventKind} {value payload : Json}
    (h : kind.Details value payload) : payload = flagPayload kind value := by
  cases h with
  | object => rfl
  | name h text => rcases h with rfl | rfl <;> rfl
  | sort h text => cases kind <;> simp_all [flagPayload]
  | bare hobject htext => cases value <;> simp_all [flagPayload]

theorem exists_value?_of_hasFlag {flag : String} (h : response.hasFlag flag = true) :
    ∃ value, Dict.value? response.metadata flag = some value := by
  cases hvalue : Dict.value? response.metadata flag with
  | none => simp [Response.hasFlag, hvalue] at h
  | some value => exact ⟨value, rfl⟩

/-- An event that a response implies, without an identity. -/
def implied (turn : Nat) (response : Response) (kind : EventKind) (payload : Json) : Event.Draft :=
  fun id => { id, kind, payload, source := some response.worker.name, turn }

/-- The drafts are of what the response implies. -/
theorem mem_derivedFrom {draft : Event.Draft} :
    draft ∈ derivedFrom turn response ↔
      ∃ kind payload,
        response.Implies kind payload ∧ draft = implied turn response kind payload := by
  simp only [derivedFrom, List.mem_append, List.mem_filterMap]
  constructor
  · rintro (hchange | ⟨⟨worker, flag, kind⟩, hentry, hsome⟩)
    · split at hchange
      case isTrue => cases hchange
      case isFalse hchanges =>
        exact ⟨.stateChange, _, .change (by simpa using hchanges), List.mem_singleton.mp hchange⟩
    · obtain ⟨⟨rfl, hset⟩, hdraft⟩ := Option.ite_none_right_eq_some.mp hsome
      obtain ⟨value, hvalue⟩ := exists_value?_of_hasFlag hset
      rw [hvalue] at hdraft
      exact ⟨kind, _, .flag (mem_flagEvents.mp hentry) hset hvalue (details_flagPayload kind value),
        (Option.some.inj hdraft).symm⟩
  · rintro ⟨kind, payload, himplies, rfl⟩
    cases himplies with
    | change h =>
        refine Or.inl ?_
        rw [if_neg (by simpa using h)]
        exact List.mem_singleton_self _
    | flag hsignal hset hvalue hdetails =>
        refine Or.inr ⟨_, mem_flagEvents.mpr hsignal, ?_⟩
        rw [if_pos ⟨rfl, hset⟩, hvalue, eq_flagPayload hdetails]
        rfl

/-- What can be told of the results from what they are made of, in a part of the list. -/
theorem sublist_map_filterMap {α β γ : Type} {make : α → Option β} {result : β → γ} {source : α → γ}
    (h : ∀ item made, make item = some made → result made = source item) (items : List α) :
    ((items.filterMap make).map result).Sublist (items.map source) := by
  induction items with
  | nil => exact List.Sublist.refl _
  | cons item rest ih =>
      rw [List.filterMap_cons]
      split
      case h_1 => exact ih.cons _
      case h_2 made hmade =>
        rw [List.map_cons, List.map_cons, h item made hmade]
        exact ih.cons_cons _

/-- No two drafts of a response are of one kind. -/
theorem nodup_kinds_derivedFrom (turn : Nat) (response : Response) (id : EventId) :
    ((derivedFrom turn response).map fun draft => (draft id).kind).Nodup := by
  have hall : ([EventKind.stateChange] ++ flagEvents.map (·.2.2)).Nodup := by decide
  rw [derivedFrom, List.map_append]
  refine hall.sublist (List.Sublist.append ?_ (sublist_map_filterMap ?_ flagEvents))
  · split
    · exact List.nil_sublist _
    · exact List.Sublist.refl _
  · rintro ⟨worker, flag, kind⟩ draft hsome
    obtain ⟨-, hdraft⟩ := Option.ite_none_right_eq_some.mp hsome
    rw [← Option.some.inj hdraft]

theorem derives_number (turn moment place : Nat) (response : Response) :
    response.Derives turn (Event.number moment place (derivedFrom turn response)) where
  implied := by
    intro event hevent
    obtain ⟨draft, hdraft, given, rfl⟩ := Event.exists_of_mem_number hevent
    obtain ⟨kind, payload, himplies, rfl⟩ := mem_derivedFrom.mp hdraft
    exact himplies
  complete := by
    intro kind payload himplies
    obtain ⟨given, hmem⟩ :=
      Event.exists_mem_number moment place (mem_derivedFrom.mpr ⟨kind, payload, himplies, rfl⟩)
    exact ⟨_, hmem, rfl, rfl⟩
  once := by
    have hkinds : ∀ draft ∈ derivedFrom turn response, ∀ id other,
        (draft id).kind = (draft other).kind := by
      intro draft hdraft id other
      obtain ⟨kind, payload, -, rfl⟩ := mem_derivedFrom.mp hdraft
      rfl
    rw [Event.map_number hkinds (.made moment place)]
    exact nodup_kinds_derivedFrom turn response _
  stamped := by
    intro event hevent
    obtain ⟨draft, hdraft, given, rfl⟩ := Event.exists_of_mem_number hevent
    obtain ⟨kind, payload, -, rfl⟩ := mem_derivedFrom.mp hdraft
    exact ⟨rfl, rfl, rfl⟩

theorem derive_derived (responses : List Response) (turn moment : Nat) :
    Response.Derive turn responses (derived responses turn moment) := by
  rw [derived, Response.Derive, ← successful]
  generalize successful responses = counting
  generalize 0 = place
  induction counting generalizing place with
  | nil => exact ⟨[], .nil, rfl⟩
  | cons response rest ih =>
      obtain ⟨parts, hparts, hflatten⟩ := ih (place + (derivedFrom turn response).length)
      refine ⟨_ :: parts, .cons (derives_number turn moment place response) hparts, ?_⟩
      rw [List.flatMap_cons, Event.number_append, hflatten, List.flatten_cons]

theorem ids_derived (responses : List Response) (turn moment : Nat) :
    (derived responses turn moment).map (·.id) =
      (List.range (derived responses turn moment).length).map (EventId.made moment ·) := by
  have hkeeps : ∀ draft ∈ (successful responses).flatMap (derivedFrom turn), ∀ id,
      (draft id).id = id := by
    intro draft hdraft id
    obtain ⟨response, -, hmem⟩ := List.mem_flatMap.mp hdraft
    obtain ⟨kind, payload, -, rfl⟩ := mem_derivedFrom.mp hmem
    rfl
  rw [derived, Event.ids_number hkeeps, Event.length_number, List.range_eq_range']

end Cascade

namespace CascadeRules

variable {rules : CascadeRules}

/-- Feeding a contribution back brings what it implies and reports, and what follows. -/
theorem brings_integrate (rules : CascadeRules) (responses : List Response) (session : Session) :
    rules.Brings responses session
      (Cascade.derived responses session.turn session.recorded)
      (Cascade.reported responses session.turn)
      (Cascade.integration rules.process rules.depth responses session).rounds
      (rules.integrate responses session).1 := by
  let queue := Cascade.derived responses session.turn session.recorded ++
    Cascade.reported responses session.turn
  rw [session_integrate]
  exact {
    derives := Cascade.derive_derived responses session.turn session.recorded
    numbered := Cascade.ids_derived responses session.turn session.recorded
    reports := Cascade.report_reported responses session.turn
    calls := Cascade.calls_trace rules.process rules.depth queue (session.recordEvents queue)
    batches := ⟨_, Cascade.batches_trace _ _ _ _, Cascade.length_rounds_le _ _ _ _,
      Cascade.length_rounds_of_left _ _ _ _⟩ }

/-- **A session fed with contributions has recorded what they bring**: the reports of the cascade
name what came about on the way, and what was told are the events that workers reported. -/
theorem brought_fed (rules : CascadeRules) (contributions : List (List Response))
    (session : Session) :
    rules.Brought contributions session (rules.named contributions session)
      (rules.told contributions session) (rules.recorded contributions session)
      (rules.fed contributions session) := by
  induction contributions generalizing session with
  | nil => exact .none session
  | cons responses rest ih =>
      have hnext := Brought.next (brings_integrate rules responses session)
        (ih (rules.integrate responses session).1)
      rw [named, stages, List.flatMap_cons, events_integrate]
      exact hnext

end CascadeRules

end StoryDirector
