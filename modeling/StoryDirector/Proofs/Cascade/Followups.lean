import StoryDirector.Proofs.Cascade.Conservation
/-!
# StoryDirector.Proofs.Cascade.Followups

What can follow from what. **An event of the standard cascade brings up events of kinds that lead
less far than its own** (`EventKind.Leads`): a death is news of someone fallen, news may push chaos
over its threshold, and the anomaly that marks this has no consequences. No chain is longer than
three, so with three rounds or more nothing is left behind (`Cascade.standard_loses_nothing`).

Termination is a matter of kinds alone. Which kinds a processor brings up is one fact about it
(`Processor.Sinks`), and how long a queue keeps a cascade busy follows for every such processor
(`Cascade.trace_of_sinks`).
-/

namespace StoryDirector

/-- The standard processor can answer an event of the one kind with an event of the other. -/
inductive EventKind.Leads : EventKind → EventKind → Prop
  /-- Someone falls. -/
  | fall : Leads .npcDeath .worldEvent
  /-- News shakes the world. -/
  | shake : Leads .worldEvent .anomaly
  /-- Chaos is set. -/
  | unsettle : Leads .stateChange .anomaly

/-- How many rounds can follow the one in which an event of the kind is processed. -/
def EventKind.reach : EventKind → Nat
  | .npcDeath => 2
  | .worldEvent | .stateChange => 1
  | .npcSpawn | .anomaly | .questUpdate => 0

theorem EventKind.Leads.reach_lt {kind other : EventKind} (h : kind.Leads other) :
    other.reach < kind.reach := by
  cases h <;> decide

/-- What follows is news or an anomaly. -/
theorem EventKind.Leads.eq_or_eq {kind other : EventKind} (h : kind.Leads other) :
    other = .worldEvent ∨ other = .anomaly := by
  cases h <;> simp

theorem EventKind.reach_lt (kind : EventKind) : kind.reach < 3 := by
  cases kind <;> decide

/-- Whatever the processor brings up is of a kind that reaches less far. -/
def Processor.Sinks (reach : EventKind → Nat) (process : Processor) : Prop :=
  ∀ event session followups, (process event session).2 = .ok followups →
    ∀ other ∈ followups, reach other.kind < reach event.kind

namespace Cascade

variable {process : Processor} {reach : EventKind → Nat} {threshold : Float32}

/-! ### What the standard processor brings up -/

theorem kind_of_mem_surge {place : Nat} {before : Float32} {session : Session} {event : Event}
    (h : event ∈ surge threshold place before session) : event.kind = .anomaly := by
  simp only [surge] at h
  split at h
  · rw [List.mem_singleton.mp h]
  · cases h

theorem kind_of_applyChanges (changes : List (String × Json)) {found : List Event}
    (hfound : ∀ event ∈ found, event.kind = .anomaly) (session : Session) {followups : List Event}
    (h : (applyChanges threshold session found changes).2 = .ok followups) :
    ∀ event ∈ followups, event.kind = .anomaly := by
  induction changes generalizing found session with
  | nil =>
      obtain rfl := Except.ok.inj h
      exact hfound
  | cons change rest ih =>
      rw [applyChanges] at h
      split at h
      · split at h
        · cases h
        · refine ih (fun event hevent => ?_) _ h
          rcases List.mem_append.mp hevent with hold | hnew
          · exact hfound event hold
          · exact kind_of_mem_surge hnew
      · split at h
        · split at h
          · cases h
          · exact ih hfound _ h
        · split at h
          · exact ih hfound _ h
          · exact ih hfound _ h

/-- What follows from an event is of a kind that its kind leads to. -/
theorem leads_of_mem_followups {event : Event} {session : Session} {followups : List Event}
    (h : (worldProcessor threshold event session).2 = .ok followups) :
    ∀ other ∈ followups, event.kind.Leads other.kind := by
  intro other hother
  -- Most handlers have a branch without follow-ups.
  have hnone : (.ok [] : Except CascadeError (List Event)) ≠ .ok followups := by
    intro hempty
    rw [← Except.ok.inj hempty] at hother
    cases hother
  rw [worldProcessor] at h
  cases hkind : event.kind with
  | stateChange =>
      simp only [hkind, stateChange] at h
      split at h
      · cases h
      · rw [kind_of_applyChanges _ (by simp) _ h other hother]
        exact .unsettle
  | npcSpawn =>
      simp only [hkind, npcSpawn] at h
      split at h
      · cases h
      · exact absurd h hnone
  | npcDeath =>
      simp only [hkind, npcDeath] at h
      split at h
      · cases h
      · split at h
        · exact absurd h hnone
        · rw [← Except.ok.inj h] at hother
          rw [List.mem_singleton.mp hother]
          exact .fall
  | worldEvent =>
      simp only [hkind, worldEvent] at h
      split at h
      · exact absurd h hnone
      · split at h
        · cases h
        · rw [← Except.ok.inj h] at hother
          rw [kind_of_mem_surge hother]
          exact .shake
  | anomaly =>
      simp only [hkind, anomaly] at h
      exact absurd h hnone
  | questUpdate =>
      simp only [hkind, questUpdate] at h
      split at h
      · exact absurd h hnone
      · exact absurd h hnone

theorem leads_handle {event other : Event} {session : Session}
    (h : other ∈ (handle (worldProcessor threshold) event session).followups) :
    event.kind.Leads other.kind := by
  obtain ⟨followups, houtcome, hmem⟩ := Handling.exists_of_mem_followups h
  exact leads_of_mem_followups houtcome other hmem

theorem worldProcessor_sinks (threshold : Float32) :
    (worldProcessor threshold).Sinks EventKind.reach :=
  fun _ _ _ h other hother => (leads_of_mem_followups h other hother).reach_lt

/-! ### How long a queue keeps a cascade busy -/

/-- One round brings every event of the queue one step nearer to the end. -/
theorem reach_followups_round (hsinks : process.Sinks reach) {bound : Nat} {queue : List Event}
    (hqueue : ∀ event ∈ queue, reach event.kind < bound + 1) (session : Session) :
    ∀ event ∈ (round process queue session).1.flatMap (·.followups), reach event.kind < bound := by
  intro followup hfollowup
  obtain ⟨handling, hhandling, hmem⟩ := List.mem_flatMap.mp hfollowup
  have hevent : handling.event ∈ queue := by
    rw [← events_round process queue session]
    exact List.mem_map_of_mem hhandling
  have houtcome := (calls_round process queue session).outcome hhandling
  obtain ⟨followups, hok, hfollows⟩ := Handling.exists_of_mem_followups hmem
  have hlower : reach followup.kind < reach handling.event.kind :=
    hsinks _ _ _ (houtcome.trans hok) followup hfollows
  have hbound := hqueue handling.event hevent
  omega

/-- A queue that reaches less than some rounds is done after as many. -/
theorem trace_of_sinks (hsinks : process.Sinks reach) {bound depth : Nat} (hdepth : bound ≤ depth)
    {queue : List Event} (hqueue : ∀ event ∈ queue, reach event.kind < bound) (session : Session) :
    (trace process depth queue session).left = [] ∧
      (trace process depth queue session).rounds.length ≤ bound := by
  -- The bound falls with each round, and with it the depth that is needed.
  induction bound generalizing depth queue session with
  | zero =>
      cases queue with
      | nil => simp
      | cons event rest => exact absurd (hqueue event List.mem_cons_self) (Nat.not_lt_zero _)
  | succ bound ih =>
      cases queue with
      | nil => simp
      | cons event rest =>
          obtain ⟨depth, rfl⟩ : ∃ less, depth = less + 1 := ⟨depth - 1, by omega⟩
          obtain ⟨hleft, hrounds⟩ := ih (Nat.le_of_succ_le_succ hdepth)
            (reach_followups_round hsinks hqueue session)
            (round process (event :: rest) session).2
          rw [trace_succ]
          exact ⟨hleft, Nat.succ_le_succ hrounds⟩

/-- If nothing is left, every event was processed: those of the queue, and those that came up. -/
theorem events_of_left_eq_nil {depth : Nat} {queue : List Event} {session : Session}
    (h : (trace process depth queue session).left = []) :
    (trace process depth queue session).handlings.map (·.event) =
      queue ++ (trace process depth queue session).report.events := by
  have hall := (batches_trace process depth queue session).queue_append
  rw [h, List.append_nil] at hall
  exact hall.symm

/-- **The standard cascade loses nothing** if it may take three rounds or more, whatever is in the
queue, wherever the session stands and whatever the threshold is. Its calls process every event of
the queue and every event that comes up, nothing is dropped, and three rounds are enough. -/
theorem standard_loses_nothing {depth : Nat} (hdepth : 3 ≤ depth) (threshold : Float32)
    (queue : List Event) (session : Session) :
    let calls := (trace (worldProcessor threshold) depth queue session).handlings
    let drained := drain (worldProcessor threshold) depth queue session
    Calls (worldProcessor threshold) session calls drained.1 ∧
      calls.map (·.event) = queue ++ drained.2.events ∧
      drained.2.dropped = 0 ∧ drained.2.rounds ≤ 3 := by
  intro calls drained
  have hdrained : drained = _ := drain_eq (worldProcessor threshold) depth queue session
  obtain ⟨hleft, hrounds⟩ := trace_of_sinks (worldProcessor_sinks threshold) hdepth
    (fun event _ => event.kind.reach_lt) session
  rw [hdrained]
  exact ⟨calls_trace _ _ _ _, events_of_left_eq_nil hleft, congrArg List.length hleft, hrounds⟩

/-- In a scene on the verge of chaos someone dies: word of it spreads, chaos surges, and each of the
three rounds has an event to process. -/
theorem standard_loses_nothing_fall :
    let world : World := { chaos := 0.79 }
    let scene : Session :=
      { id := ⟨0⟩
        turn := 2
        world := world.spawn { id := .known ⟨1⟩, name := "Mara", spawnedTurn := 1 } }
    let death : Event :=
      { id := .known ⟨2⟩, kind := .npcDeath, payload := .object [("name", .text "Mara")] }
    let calls := (trace (worldProcessor 0.8) 3 [death] scene).handlings
    let drained := drain (worldProcessor 0.8) 3 [death] scene
    3 ≤ 3 ∧ drained.2.rounds = 3 ∧ drained.2.events.map (·.kind) = [.worldEvent, .anomaly] ∧
      Calls (worldProcessor 0.8) scene calls drained.1 ∧
      calls.map (·.event) = [death] ++ drained.2.events ∧
      drained.2.dropped = 0 ∧ drained.2.rounds ≤ 3 :=
  ⟨Nat.le_refl 3, by decide +kernel, by decide +kernel,
    standard_loses_nothing (Nat.le_refl 3) _ _ _⟩

end Cascade

/-- Settings that say nothing ask for no fewer rounds. -/
example : 3 ≤ (CascadeRules.standard {}).depth := by decide

end StoryDirector
