import StoryDirector.Proofs.Cascade.Flags
/-!
# StoryDirector.Proofs.Cascade.Faults

Which events of the standard cascade fail, and what a failed event leaves behind. **Whether an event
fails is a matter of the event alone** (`Event.fault?`): no session makes it fail and none saves it.

A failed event brings up nothing, but what it did before it came to its fault stays
(`Event.residue`). An appearance and a death look at their name first and leave no trace. A state
change applies its entries one by one and so leaves those in front of the first that makes no sense,
without the anomaly that they may have earned; a world event has moved the player before it looks at
the change of chaos (`Cascade.not_traceless_worldProcessor`).
-/

namespace StoryDirector

/-- What is wrong with an entry of a state change, if anything is. -/
def Cascade.entryFault? (change : String × Json) : Option PayloadFault :=
  if change.1 = "chaos_level" then
    if change.2.number?.isSome then none else some .chaosLevel
  else if change.1 = "location" ∨ change.1 = "current_location" then
    if change.2.text?.isSome then none else some .location
  else none

/-- The world after an entry of a state change; one that makes no sense changes nothing. -/
def World.changedBy (world : World) (change : String × Json) : World :=
  if change.1 = "chaos_level" then
    change.2.number?.elim world fun level => world.setChaos (narrow level)
  else if change.1 = "location" ∨ change.1 = "current_location" then
    change.2.text?.elim world world.enter
  else
    (Flag.ofJson? change.2).elim world (world.setFlag change.1)

namespace Event

/-- What is wrong with the particulars of an event, if anything is. -/
def fault? (event : Event) : Option PayloadFault :=
  match event.kind with
  | .stateChange => event.payload.fields?.elim (some .notAnObject) (·.findSome? Cascade.entryFault?)
  | .npcSpawn | .npcDeath => if (event.detail? "name").isSome then none else some .missingName
  | .worldEvent =>
    (event.payload.field? "chaos_delta").bind fun value =>
      if value.number?.isSome then none else some .chaosDelta
  | .anomaly | .questUpdate => none

/-- What the event does to the world before it comes to its fault. -/
def residue (event : Event) : World → World :=
  match event.kind with
  | .stateChange => fun world =>
    ((event.payload.fields?.getD []).takeWhile fun change =>
      (Cascade.entryFault? change).isNone).foldl World.changedBy world
  | .worldEvent => fun world => (event.detail? "location").elim world world.enter
  | .npcSpawn | .npcDeath | .anomaly | .questUpdate => fun world => world

end Event

/-- The processor leaves the session alone whenever it fails. -/
def Processor.Traceless (process : Processor) : Prop :=
  ∀ event session error, (process event session).2 = .error error →
    (process event session).1 = session

namespace Cascade

variable {threshold : Float32} {event : Event} {session : Session} {fault : PayloadFault}

/-! ### The entries of a state change -/

/-- The entries without a fault are those that apply. -/
theorem entryFault?_eq_none_iff (change : String × Json) :
    entryFault? change = none ↔ Applicable change := by
  constructor
  · intro h
    simp only [entryFault?] at h
    constructor
    · intro hchaos
      simpa [hchaos, Option.isSome_iff_ne_none] using h
    · intro hplace
      have hchaos : change.1 ≠ "chaos_level" := by
        rcases hplace with hplace | hplace <;> simp [hplace]
      simpa [hchaos, hplace, Option.isSome_iff_ne_none] using h
  · intro h
    by_cases hchaos : change.1 = "chaos_level"
    · simp [entryFault?, hchaos, h.chaos hchaos]
    · by_cases hplace : change.1 = "location" ∨ change.1 = "current_location"
      · simp [entryFault?, hchaos, hplace, h.place hplace]
      · simp [entryFault?, hchaos, hplace]

/-- An entry with a fault ends the state change. -/
theorem applyChanges_cons_of_fault {change : String × Json} (h : entryFault? change = some fault)
    (session : Session) (found : List Event) (rest : List (String × Json)) :
    applyChanges threshold session found (change :: rest) =
      (session, .error (.malformed .stateChange fault)) := by
  obtain ⟨key, value⟩ := change
  simp only [entryFault?] at h
  by_cases hchaos : key = "chaos_level"
  · cases hnumber : value.number? with
    | none =>
        simp only [hchaos, hnumber, if_true, Option.isSome_none, Bool.false_eq_true, if_false,
          Option.some.injEq] at h
        rw [applyChanges, if_pos hchaos, hnumber, h]
    | some level => simp [hchaos, hnumber] at h
  · by_cases hplace : key = "location" ∨ key = "current_location"
    · cases htext : value.text? with
      | none =>
          simp only [hchaos, hplace, htext, if_true, Option.isSome_none, Bool.false_eq_true,
            if_false, Option.some.injEq] at h
          rw [applyChanges, if_neg hchaos, if_pos hplace, htext, h]
      | some place => simp [hchaos, hplace, htext] at h
    · simp [hchaos, hplace] at h

/-- An entry without a fault is applied, and the state change goes on. -/
theorem exists_applyChanges_cons {change : String × Json} (h : entryFault? change = none)
    (session : Session) (found : List Event) (rest : List (String × Json)) :
    ∃ more, applyChanges threshold session found (change :: rest) =
      applyChanges threshold (withWorld session (·.changedBy change)) more rest := by
  have happlicable := (entryFault?_eq_none_iff change).mp h
  obtain ⟨key, value⟩ := change
  by_cases hchaos : key = "chaos_level"
  · obtain ⟨level, hlevel⟩ := Option.isSome_iff_exists.mp (happlicable.chaos hchaos)
    rw [applyChanges, if_pos hchaos, hlevel]
    simp only [World.changedBy, hchaos, hlevel, if_true, Option.elim_some]
    exact ⟨_, rfl⟩
  · by_cases hplace : key = "location" ∨ key = "current_location"
    · obtain ⟨place, htext⟩ := Option.isSome_iff_exists.mp (happlicable.place hplace)
      rw [applyChanges, if_neg hchaos, if_pos hplace, htext]
      simp only [World.changedBy, hchaos, hplace, htext, if_true, if_false, Option.elim_some]
      exact ⟨_, rfl⟩
    · rw [applyChanges, if_neg hchaos, if_neg hplace]
      simp only [World.changedBy, hchaos, hplace, if_false]
      cases Flag.ofJson? value with
      | none => exact ⟨found, rfl⟩
      | some flag => exact ⟨found, rfl⟩

/-- A state change with a fault leaves the entries in front of the first one. -/
theorem applyChanges_of_fault {changes : List (String × Json)}
    (h : changes.findSome? entryFault? = some fault) (session : Session) (found : List Event) :
    applyChanges threshold session found changes =
      (withWorld session fun world =>
        (changes.takeWhile fun change => (entryFault? change).isNone).foldl World.changedBy world,
       .error (.malformed .stateChange fault)) := by
  induction changes generalizing session found with
  | nil => cases h
  | cons change rest ih =>
      cases hchange : entryFault? change with
      | some other =>
          simp only [List.findSome?_cons, hchange, Option.some.injEq] at h
          rw [applyChanges_cons_of_fault (h ▸ hchange)]
          simp [hchange, withWorld]
      | none =>
          simp only [List.findSome?_cons, hchange] at h
          obtain ⟨more, hmore⟩ := exists_applyChanges_cons hchange session found rest
          rw [hmore, ih h]
          simp [hchange, withWorld]

/-- A state change without a fault is applied to its end. -/
theorem exists_applyChanges_eq_ok {changes : List (String × Json)}
    (h : changes.findSome? entryFault? = none) (session : Session) (found : List Event) :
    ∃ followups, (applyChanges threshold session found changes).2 = .ok followups := by
  induction changes generalizing session found with
  | nil => exact ⟨found, rfl⟩
  | cons change rest ih =>
      simp only [List.findSome?_cons] at h
      cases hchange : entryFault? change with
      | some other => simp [hchange] at h
      | none =>
          simp only [hchange] at h
          obtain ⟨more, hmore⟩ := exists_applyChanges_cons hchange session found rest
          rw [hmore]
          exact ih h _ _

/-! ### Events -/

/-- An event with a fault fails on every session, and leaves there what it did before. -/
theorem worldProcessor_of_fault (threshold : Float32) (h : event.fault? = some fault)
    (session : Session) :
    worldProcessor threshold event session =
      (withWorld session event.residue, .error (.malformed event.kind fault)) := by
  rw [worldProcessor]
  cases hkind : event.kind with
  | stateChange =>
      simp only [Event.fault?, hkind] at h
      simp only [stateChange, Event.residue, hkind]
      cases hfields : event.payload.fields? with
      | none =>
          simp only [hfields, Option.elim_none, Option.some.injEq] at h
          rw [← h]
          rfl
      | some changes =>
          simp only [hfields, Option.elim_some] at h
          exact applyChanges_of_fault h session []
  | npcSpawn =>
      simp only [Event.fault?, hkind] at h
      simp only [npcSpawn, Event.residue, hkind]
      cases hname : event.detail? "name" with
      | none =>
          simp only [hname, Option.isSome_none, Bool.false_eq_true, if_false,
            Option.some.injEq] at h
          rw [← h]
          rfl
      | some name => simp [hname] at h
  | npcDeath =>
      simp only [Event.fault?, hkind] at h
      simp only [npcDeath, Event.residue, hkind]
      cases hname : event.detail? "name" with
      | none =>
          simp only [hname, Option.isSome_none, Bool.false_eq_true, if_false,
            Option.some.injEq] at h
          rw [← h]
          rfl
      | some name => simp [hname] at h
  | worldEvent =>
      simp only [Event.fault?, hkind] at h
      simp only [worldEvent, Event.residue, hkind]
      cases hdelta : event.payload.field? "chaos_delta" with
      | none => simp [hdelta] at h
      | some value =>
          cases hnumber : value.number? with
          | none =>
              simp only [hdelta, hnumber, Option.bind_some, Option.isSome_none,
                Bool.false_eq_true, if_false, Option.some.injEq] at h
              simp only [hnumber]
              rw [← h]
              cases event.detail? "location" <;> rfl
          | some delta => simp [hdelta, hnumber] at h
  | anomaly => simp [Event.fault?, hkind] at h
  | questUpdate => simp [Event.fault?, hkind] at h

/-- An event without a fault succeeds on every session. -/
theorem exists_worldProcessor_eq_ok (threshold : Float32) (h : event.fault? = none)
    (session : Session) :
    ∃ followups, (worldProcessor threshold event session).2 = .ok followups := by
  rw [worldProcessor]
  cases hkind : event.kind with
  | stateChange =>
      simp only [Event.fault?, hkind] at h
      simp only [stateChange]
      cases hfields : event.payload.fields? with
      | none => simp [hfields] at h
      | some changes =>
          simp only [hfields, Option.elim_some] at h
          exact exists_applyChanges_eq_ok h session []
  | npcSpawn =>
      simp only [Event.fault?, hkind] at h
      simp only [npcSpawn]
      cases hname : event.detail? "name" with
      | none => simp [hname] at h
      | some name => exact ⟨[], rfl⟩
  | npcDeath =>
      simp only [Event.fault?, hkind] at h
      simp only [npcDeath]
      cases hname : event.detail? "name" with
      | none => simp [hname] at h
      | some name =>
          simp only
          split
          · exact ⟨[], rfl⟩
          · exact ⟨_, rfl⟩
  | worldEvent =>
      simp only [Event.fault?, hkind] at h
      simp only [worldEvent]
      cases hdelta : event.payload.field? "chaos_delta" with
      | none => exact ⟨[], rfl⟩
      | some value =>
          cases hnumber : value.number? with
          | none => simp [hdelta, hnumber] at h
          | some delta =>
              simp only [hnumber]
              exact ⟨_, rfl⟩
  | anomaly => exact ⟨[], rfl⟩
  | questUpdate =>
      simp only [questUpdate]
      split
      · exact ⟨[], rfl⟩
      · exact ⟨[], rfl⟩

/-- Of the kinds that can fail, an appearance and a death do nothing before they do. -/
theorem residue_of_ne (hchange : event.kind ≠ .stateChange) (hnews : event.kind ≠ .worldEvent) :
    event.residue = fun world => world := by
  unfold Event.residue
  cases hkind : event.kind with
  | stateChange => exact absurd hkind hchange
  | worldEvent => exact absurd hkind hnews
  | npcSpawn => rfl
  | npcDeath => rfl
  | anomaly => rfl
  | questUpdate => rfl

/-- **What a failed event leaves behind.** The failure names a fault of the event's own particulars,
nothing follows from it, and the session differs in what the event did to the world before it came
to the fault and in nothing else. So there is no trace exactly if that was nothing, as it is for
every event that is neither a state change nor a world event. -/
theorem failed_event_residue {error : CascadeError}
    (h : (worldProcessor threshold event session).2 = .error error) :
    (∃ fault, event.fault? = some fault ∧ error = .malformed event.kind fault) ∧
      handle (worldProcessor threshold) event session =
        ⟨event, session, .error error, withWorld session event.residue⟩ ∧
      ((handle (worldProcessor threshold) event session).after = session ↔
        event.residue session.world = session.world) ∧
      (event.kind ≠ .stateChange → event.kind ≠ .worldEvent →
        (handle (worldProcessor threshold) event session).after = session) := by
  cases hfault : event.fault? with
  | none =>
      obtain ⟨followups, hok⟩ := exists_worldProcessor_eq_ok threshold hfault session
      rw [hok] at h
      cases h
  | some fault =>
      have hcall := worldProcessor_of_fault threshold hfault session
      rw [hcall] at h
      have herror : error = .malformed event.kind fault := (Except.error.inj h).symm
      have hhandle : handle (worldProcessor threshold) event session =
          ⟨event, session, .error error, withWorld session event.residue⟩ := by
        simp only [handle, hcall, herror]
      refine ⟨⟨fault, rfl, herror⟩, hhandle, ?_, ?_⟩
      · rw [hhandle]
        exact ⟨fun hsame => congrArg Session.world hsame,
          fun hsame => by simp only [withWorld, hsame]⟩
      · intro hchange hnews
        rw [hhandle, residue_of_ne hchange hnews]
        rfl

/-- Chaos is set beyond the threshold and then there is no place to go to: the event fails, chaos
stays raised, and no anomaly tells of it. -/
theorem failed_event_residue_unsettled :
    let event : Event :=
      { id := .known ⟨1⟩
        kind := .stateChange
        payload := .object [("chaos_level", .float 0.9), ("location", .int 7)] }
    let scene : Session := { id := ⟨0⟩, turn := 4, world := { chaos := 0.5 } }
    (worldProcessor 0.8 event scene).2 = .error (.malformed .stateChange .location) ∧
      handle (worldProcessor 0.8) event scene =
        ⟨event, scene, .error (.malformed .stateChange .location), withWorld scene event.residue⟩ ∧
      scene.world.chaos < 0.8 ∧ 0.8 ≤ (event.residue scene.world).chaos :=
  ⟨rfl, (failed_event_residue rfl).2.1, by decide +kernel, by decide +kernel⟩

/-- The standard processor can fail and leave a trace. -/
theorem not_traceless_worldProcessor : ¬(worldProcessor 0.8).Traceless := by
  intro h
  have hsame := h
    { id := .known ⟨1⟩
      kind := .worldEvent
      payload := .object [("chaos_delta", .text "much"), ("location", .text "Old Mill")] }
    { id := ⟨0⟩, turn := 4, world := { location := "Crossroads" } } _ rfl
  have hplace := congrArg (fun session => session.world.location) hsame
  revert hplace
  decide +kernel

/-- A cascade counts as failures the events with a fault, wherever they come up. -/
theorem failures_drain (threshold : Float32) (depth : Nat) (queue : List Event)
    (session : Session) :
    (drain (worldProcessor threshold) depth queue session).2.failures =
      (trace (worldProcessor threshold) depth queue session).handlings.countP
        (·.event.fault?.isSome) := by
  rw [drain_eq]
  refine List.countP_congr fun handling hmem => ?_
  have houtcome := (calls_trace (worldProcessor threshold) depth queue session).outcome hmem
  rw [Handling.failed, ← houtcome]
  cases hfault : handling.event.fault? with
  | none =>
      obtain ⟨followups, hok⟩ :=
        exists_worldProcessor_eq_ok threshold hfault handling.before
      simp [hok]
  | some fault => simp [worldProcessor_of_fault threshold hfault]

end Cascade

end StoryDirector
