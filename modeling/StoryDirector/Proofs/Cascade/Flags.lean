import StoryDirector.Proofs.Run.Feedback
import StoryDirector.Proofs.Cascade.Followups
/-!
# StoryDirector.Proofs.Cascade.Flags

Two ways lead from what workers change to those who ask for it. The changes are merged into the
answer, the later over the earlier, and each contribution's changes go through the cascade as an
event, which sets flags of the world. **Name by name the two stay in step** (`Cascade.Agrees`): what
the answer tells of a name is the flag under it, and where it tells nothing the flag is as it was
(`CascadeRules.agrees_fed`).

They could drift apart in three places, and the lemmas follow these: within one event, where the
changes are applied one by one until one makes no sense; within the first round, where other events
stand between those of two workers; and in the rounds after it, whose events set no flags of their
own (`Event.Calm`). A few names mean something else than a flag (`Cascade.reservedNames`).
-/

namespace StoryDirector

@[simp] theorem World.flags_setChaos (world : World) (level : Float32) :
    (world.setChaos level).flags = world.flags := by
  unfold setChaos
  split <;> rfl

@[simp] theorem World.flags_enter (world : World) (place : String) :
    (world.enter place).flags = world.flags := rfl

/-- The event is none of those that set flags under names of their own. -/
def Event.Calm (event : Event) : Prop :=
  event.kind ≠ .stateChange ∧ event.kind ≠ .questUpdate

namespace Cascade

/-- The names whose changes set no flag, and the one under which the standard processor leaves the
mark of an anomaly. -/
def reservedNames : List String :=
  ["chaos_level", "location", "current_location", "last_anomaly_turn"]

/-- The standard processor can make sense of the change. -/
structure Applicable (change : String × Json) : Prop where
  /-- A chaos level is a number, -/
  chaos : change.1 = "chaos_level" → change.2.number?.isSome = true
  /-- and a place is a text. -/
  place : change.1 = "location" ∨ change.1 = "current_location" → change.2.text?.isSome = true

instance (change : String × Json) : Decidable (Applicable change) :=
  decidable_of_iff ((change.1 = "chaos_level" → change.2.number?.isSome = true) ∧
      (change.1 = "location" ∨ change.1 = "current_location" → change.2.text?.isSome = true))
    ⟨fun h => ⟨h.1, h.2⟩, fun h => ⟨h.chaos, h.place⟩⟩

/-- What is told of a name agrees with the flag under it, which was `before` at first. -/
structure Agrees (key : String) (before : Option Flag) (told : Dict Json) (flags : Dict Flag) :
    Prop where
  /-- What is told of the name, if it has the form of a flag, is the flag. -/
  set : ∀ value flag, Dict.value? told key = some value → Flag.ofJson? value = some flag →
    Dict.value? flags key = some flag
  /-- If nothing is told of it, the flag is as it was. -/
  kept : Dict.value? told key = none → Dict.value? flags key = before

variable {threshold : Float32} {key : String} {before : Option Flag} {told : Dict Json}

namespace Agrees

variable {flags others : Dict Flag}

theorem start (key : String) (flags : Dict Flag) :
    Agrees key (Dict.value? flags key) [] flags where
  set := fun value flag hvalue => by cases hvalue
  kept := fun _ => rfl

/-- Only the flag under the name matters. -/
theorem congr (h : Agrees key before told flags)
    (hsame : Dict.value? others key = Dict.value? flags key) : Agrees key before told others where
  set := fun value flag hvalue hflag => hsame.trans (h.set value flag hvalue hflag)
  kept := fun hnone => hsame.trans (h.kept hnone)

/-- Something is told of another name. -/
theorem put_of_ne (h : Agrees key before told flags) {name : String} (hne : key ≠ name)
    (value : Json) : Agrees key before (Dict.put told name value) flags where
  set := by
    rw [Dict.value?_put_of_ne told hne]
    exact h.set
  kept := by
    rw [Dict.value?_put_of_ne told hne]
    exact h.kept

/-- Something is told of the name, and the flag is set if it has the form of one. -/
theorem put_self {value : Json}
    (hset : ∀ flag, Flag.ofJson? value = some flag → Dict.value? flags key = some flag) :
    Agrees key before (Dict.put told key value) flags where
  set := by
    intro later flag hvalue hflag
    rw [Dict.value?_put_self] at hvalue
    obtain rfl := Option.some.inj hvalue
    exact hset flag hflag
  kept := by
    intro hnone
    rw [Dict.value?_put_self] at hnone
    cases hnone

end Agrees

/-! ### The changes of one event -/

/-- One by one the changes are applied and told. -/
theorem agrees_applyChanges (hkey : key ∉ reservedNames) (changes : List (String × Json))
    (happlicable : ∀ change ∈ changes, Applicable change) {session : Session}
    (h : Agrees key before told session.world.flags) (found : List Event) :
    Agrees key before (Dict.putAll told changes)
      (applyChanges threshold session found changes).1.world.flags := by
  induction changes generalizing told session found with
  | nil => exact h
  | cons change rest ih =>
      obtain ⟨name, value⟩ := change
      have hfirst := happlicable (name, value) List.mem_cons_self
      have hrest : ∀ change ∈ rest, Applicable change :=
        fun other hother => happlicable other (List.mem_cons_of_mem _ hother)
      simp only [reservedNames, List.mem_cons, not_or] at hkey
      by_cases hchaos : name = "chaos_level"
      · obtain ⟨level, hlevel⟩ := Option.isSome_iff_exists.mp (hfirst.chaos hchaos)
        have hother : key ≠ name := hchaos ▸ hkey.1
        rw [applyChanges, if_pos hchaos, hlevel]
        refine ih hrest ((h.put_of_ne hother value).congr ?_) _
        simp [withWorld]
      · by_cases hplace : name = "location" ∨ name = "current_location"
        · obtain ⟨place, hvalue⟩ := Option.isSome_iff_exists.mp (hfirst.place hplace)
          have hother : key ≠ name := by
            rcases hplace with rfl | rfl
            · exact hkey.2.1
            · exact hkey.2.2.1
          rw [applyChanges, if_neg hchaos, if_pos hplace, hvalue]
          refine ih hrest ((h.put_of_ne hother value).congr ?_) _
          rfl
        · rw [applyChanges, if_neg hchaos, if_neg hplace]
          by_cases hsame : name = key
          · subst hsame
            cases hflag : Flag.ofJson? value with
            | none => exact ih hrest (.put_self fun flag hsome => by simp [hflag] at hsome) _
            | some flag =>
                refine ih hrest (.put_self fun other hsome => ?_) _
                rw [hflag] at hsome
                simp [withWorld, World.setFlag, Option.some.inj hsome]
          · have hother : key ≠ name := fun heq => hsame heq.symm
            cases Flag.ofJson? value with
            | none => exact ih hrest (h.put_of_ne hother value) _
            | some flag =>
                refine ih hrest ((h.put_of_ne hother value).congr ?_) _
                simp [withWorld, World.setFlag, Dict.value?_put_of_ne _ hother]

/-! ### Events that set no flags of their own -/

/-- Such an event leaves the flags alone, but for the mark of an anomaly. -/
theorem value?_flags_of_calm {event : Event} (hcalm : event.Calm) (hkey : key ∉ reservedNames)
    (session : Session) :
    Dict.value? (worldProcessor threshold event session).1.world.flags key =
      Dict.value? session.world.flags key := by
  rw [worldProcessor]
  cases hkind : event.kind with
  | stateChange => exact absurd hkind hcalm.1
  | questUpdate => exact absurd hkind hcalm.2
  | npcSpawn =>
      simp only [npcSpawn]
      split <;> rfl
  | npcDeath =>
      simp only [npcDeath]
      split
      · rfl
      · split <;> rfl
  | anomaly =>
      have hmark : key ≠ "last_anomaly_turn" := by
        rintro rfl
        exact hkey (by simp [reservedNames])
      exact Dict.value?_put_of_ne _ hmark _
  | worldEvent =>
      simp only [worldEvent]
      split
      · cases event.detail? "location" <;> rfl
      · split
        · cases event.detail? "location" <;> rfl
        · cases event.detail? "location" <;> simp [moveChaos, withWorld, World.shiftChaos]

/-- What follows from an event sets no flags of its own, whatever the event was. -/
theorem calm_followups (event : Event) (session : Session) {followups : List Event}
    (h : (worldProcessor threshold event session).2 = .ok followups) :
    ∀ other ∈ followups, other.Calm := by
  intro other hother
  rcases (leads_of_mem_followups h other hother).eq_or_eq with hkind | hkind
  · simp [Event.Calm, hkind]
  · simp [Event.Calm, hkind]

/-! ### Rounds -/

theorem world_after_handle (process : Processor) (event : Event) (session : Session) :
    (handle process event session).after.world = (process event session).1.world := by
  simp only [handle]
  cases (process event session).2 <;> rfl

theorem round_append (process : Processor) (first second : List Event) (session : Session) :
    (round process (first ++ second) session).2 =
      (round process second (round process first session).2).2 := by
  induction first generalizing session with
  | nil => rfl
  | cons event rest ih =>
      rw [List.cons_append, round_cons, round_cons]
      exact ih _

/-- A round of events that set no flags of their own leaves the flags alone. -/
theorem value?_flags_round (hkey : key ∉ reservedNames) (queue : List Event)
    (hcalm : ∀ event ∈ queue, event.Calm) (session : Session) :
    Dict.value? (round (worldProcessor threshold) queue session).2.world.flags key =
      Dict.value? session.world.flags key := by
  induction queue generalizing session with
  | nil => rfl
  | cons event rest ih =>
      rw [round_cons]
      refine (ih (fun other hother => hcalm other (List.mem_cons_of_mem _ hother)) _).trans ?_
      rw [world_after_handle]
      exact value?_flags_of_calm (hcalm event List.mem_cons_self) hkey session

theorem calm_round (queue : List Event) (session : Session) :
    ∀ event ∈ (round (worldProcessor threshold) queue session).1.flatMap (·.followups),
      event.Calm := by
  induction queue generalizing session with
  | nil => simp
  | cons event rest ih =>
      rw [round_cons]
      intro other hother
      rw [List.flatMap_cons] at hother
      rcases List.mem_append.mp hother with hfirst | hlater
      · cases houtcome : (worldProcessor threshold event session).2 with
        | error error => simp [Handling.followups, handle, houtcome] at hfirst
        | ok followups =>
            simp only [Handling.followups, handle, houtcome] at hfirst
            exact calm_followups event session houtcome other hfirst
      · exact ih _ other hlater

/-- The rounds after the first leave the flags alone. -/
theorem value?_flags_trace (hkey : key ∉ reservedNames) (depth : Nat) (queue : List Event)
    (hcalm : ∀ event ∈ queue, event.Calm) (session : Session) :
    Dict.value? (trace (worldProcessor threshold) depth queue session).session.world.flags key =
      Dict.value? session.world.flags key := by
  induction depth generalizing queue session with
  | zero => rw [trace_zero]
  | succ depth ih =>
      cases queue with
      | nil => rw [trace_nil]
      | cons event rest =>
          rw [trace_succ]
          exact (ih _ (calm_round (event :: rest) session) _).trans
            (value?_flags_round hkey (event :: rest) hcalm session)

end Cascade

/-- The response reports no events of its own, and the standard processor can make sense of its
changes. -/
structure Response.Plain (response : Response) : Prop where
  /-- It reports no events. -/
  events : response.events = []
  /-- Its changes make sense. -/
  changes : ∀ change ∈ response.stateChanges, Cascade.Applicable change

instance (response : Response) : Decidable response.Plain :=
  decidable_of_iff (response.events.isEmpty = true ∧
      ∀ change ∈ response.stateChanges, Cascade.Applicable change)
    ⟨fun h => ⟨List.isEmpty_iff.mp h.1, h.2⟩,
      fun h => ⟨List.isEmpty_iff.mpr h.events, h.changes⟩⟩

namespace Cascade

variable {threshold : Float32} {key : String} {before : Option Flag} {told : Dict Json}

/-- The events derived from a response: first its changes, then events that set no flags of their
own. -/
theorem agrees_derivedFrom (hkey : key ∉ reservedNames) {response : Response}
    (hplain : response.Plain) (turn moment place : Nat) {session : Session}
    (h : Agrees key before told session.world.flags) :
    Agrees key before (Dict.putAll told response.stateChanges)
      (round (worldProcessor threshold) (Event.number moment place (derivedFrom turn response))
        session).2.world.flags := by
  rw [derivedFrom, Event.number_append, round_append]
  refine Agrees.congr ?_ (value?_flags_round hkey _ ?_ _)
  · cases hchanges : response.stateChanges with
    | nil => exact h
    | cons change rest =>
        have happlicable := hplain.changes
        rw [hchanges] at happlicable
        rw [if_neg (by simp), Event.number, Event.number, round_cons, round_nil, world_after_handle]
        exact agrees_applyChanges hkey (change :: rest) happlicable h []
  · intro event hevent
    obtain ⟨draft, hdraft, given, rfl⟩ := Event.exists_of_mem_number hevent
    obtain ⟨⟨worker, flag, kind⟩, hentry, hsome⟩ := List.mem_filterMap.mp hdraft
    obtain ⟨-, hmade⟩ := Option.ite_none_right_eq_some.mp hsome
    obtain rfl := Option.some.inj hmade
    simp only [flagEvents, List.mem_cons, List.not_mem_nil, or_false, Prod.mk.injEq] at hentry
    rcases hentry with ⟨-, -, rfl⟩ | ⟨-, -, rfl⟩ | ⟨-, -, rfl⟩ | ⟨-, -, rfl⟩ <;>
      exact ⟨EventKind.noConfusion, EventKind.noConfusion⟩

/-- What some responses change, over what was changed before. -/
def changedBy (told : Dict Json) (responses : List Response) : Dict Json :=
  (successful responses).foldl (fun changes response => Dict.putAll changes response.stateChanges)
    told

theorem changedBy_append (told : Dict Json) (first second : List Response) :
    changedBy told (first ++ second) = changedBy (changedBy told first) second := by
  simp only [changedBy, successful_append, List.foldl_append]

/-- The first round, in which the changes of all responses are applied one response after
another. -/
theorem agrees_round (hkey : key ∉ reservedNames) (counting : List Response)
    (hplain : ∀ response ∈ counting, response.Plain) (turn moment place : Nat)
    {session : Session} (h : Agrees key before told session.world.flags) :
    Agrees key before
      (counting.foldl (fun changes response => Dict.putAll changes response.stateChanges) told)
      (round (worldProcessor threshold)
        (Event.number moment place (counting.flatMap (derivedFrom turn)))
        session).2.world.flags := by
  induction counting generalizing told session place with
  | nil => exact h
  | cons response rest ih =>
      rw [List.flatMap_cons, Event.number_append, round_append]
      exact ih (fun other hother => hplain other (List.mem_cons_of_mem _ hother)) _
        (agrees_derivedFrom hkey (hplain response List.mem_cons_self) turn moment place h)

theorem agrees_integration (hkey : key ∉ reservedNames) {depth : Nat} (hdepth : 1 ≤ depth)
    {responses : List Response} (hplain : ∀ response ∈ successful responses, response.Plain)
    {session : Session} (h : Agrees key before told session.world.flags) :
    Agrees key before (changedBy told responses)
      (integration (worldProcessor threshold) depth responses session).session.world.flags := by
  have hreported : reported responses session.turn = [] := by
    rw [reported, List.flatMap_eq_nil_iff]
    intro response hresponse
    rw [(hplain response hresponse).events, List.map_nil]
  obtain ⟨rounds, rfl⟩ := Nat.exists_eq_add_of_le' hdepth
  rw [integration, hreported, List.append_nil]
  have hround : Agrees key before (changedBy told responses)
      (round (worldProcessor threshold) (derived responses session.turn session.recorded)
        (session.recordEvents
          (derived responses session.turn session.recorded))).2.world.flags :=
    agrees_round hkey (successful responses) hplain session.turn session.recorded 0 h
  cases hderived : derived responses session.turn session.recorded with
  | nil =>
      rw [hderived] at hround
      rw [trace_nil]
      exact hround
  | cons event rest =>
      rw [hderived] at hround
      rw [trace_succ]
      exact hround.congr (value?_flags_trace hkey rounds _ (calm_round (event :: rest) _) _)

end Cascade

namespace CascadeRules

variable {rules : CascadeRules} {threshold : Float32} {key : String} {before : Option Flag}

/-- Contribution by contribution, what is told of a name stays in step with the flag under it. -/
theorem agrees_fed (hstandard : rules.process = Cascade.worldProcessor threshold)
    (hdepth : 1 ≤ rules.depth) (hkey : key ∉ Cascade.reservedNames)
    (contributions : List (List Response))
    (hplain : ∀ response ∈ successful contributions.flatten, response.Plain) {told : Dict Json}
    {session : Session} (h : Cascade.Agrees key before told session.world.flags) :
    Cascade.Agrees key before (Cascade.changedBy told contributions.flatten)
      (rules.fed contributions session).world.flags := by
  induction contributions generalizing told session with
  | nil => exact h
  | cons responses rest ih =>
      rw [List.flatten_cons, successful_append] at hplain
      rw [List.flatten_cons, Cascade.changedBy_append]
      refine ih (fun response hresponse => hplain response (List.mem_append_right _ hresponse)) ?_
      dsimp only
      rw [session_integrate, hstandard]
      exact Cascade.agrees_integration hkey hdepth
        (fun response hresponse => hplain response (List.mem_append_left _ hresponse)) h

end CascadeRules

end StoryDirector
