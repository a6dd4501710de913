import StoryDirector.Proofs.Cascade.Conservation
import StoryDirector.Proofs.Run.Feedback
/-!
# StoryDirector.Proofs.Cascade.Remembered

What a session remembers of a cascade. **The events come in one fixed order: those that the
responses imply, those that they report, and then the follow-ups, as they come up round by round**
(`Cascade.integrate_remembers`). The session keeps the last of these, as many as there is room for,
and the report names all but the reported ones.

Events are remembered at three places, before the first round and after every call of the processor,
and each time the oldest are forgotten. That this comes to one bounded history of the whole needs no
more of the processor than that it leaves the history alone (`Processor.SparesEvents`).
-/

namespace StoryDirector

/-- The processor leaves the events alone that the session remembers. -/
def Processor.SparesEvents (process : Processor) : Prop :=
  ∀ event session, (process event session).1.events = session.events

namespace Cascade

variable {process : Processor}

/-- Calls of the processor add their follow-ups to what is remembered, call by call. -/
theorem Calls.events (hspares : process.SparesEvents) {first last : Session}
    {handlings : List Handling} (h : Calls process first handlings last) :
    last.events = first.events.recordAll (handlings.flatMap (·.followups)) := by
  induction handlings generalizing first with
  | nil =>
      obtain rfl := h
      rfl
  | cons handling rest ih =>
      obtain ⟨-, ⟨changed, hprocess, hafter⟩, hrest⟩ := h
      have hchanged : changed.events = first.events := by
        rw [← hspares handling.event first, hprocess]
      rw [ih hrest, hafter, List.flatMap_cons, Recent.recordAll_append, ← hchanged]
      rfl

/-- **The history of a cascade is exact**: it goes through the events in rounds, and what was
remembered before, what the responses imply, what they report and what follows is, in this order and
as far as there is room, what is remembered afterwards. Follow-ups that no round was left for are
remembered and named with the others. -/
theorem integrate_remembers (hspares : process.SparesEvents) (depth : Nat)
    (responses : List Response) {session : Session}
    (hroom : session.events.entries.length ≤ session.events.limit) :
    let implied := derived responses session.turn session.recorded
    let told := reported responses session.turn
    let passed := integrate process depth responses session
    ∃ (rounds : List (List Handling)) (left : List Event),
      Batches (implied ++ told) rounds left ∧
      Calls process (session.recordEvents (implied ++ told)) rounds.flatten passed.1 ∧
      rounds.length ≤ depth ∧ (left ≠ [] → rounds.length = depth) ∧
      let followups := rounds.flatten.flatMap (·.followups)
      implied ++ told ++ followups = rounds.flatten.map (·.event) ++ left ∧
      passed.1.events.limit = session.events.limit ∧
      passed.1.events.entries = Recent.lastOf session.events.limit
        (session.events.entries ++ implied ++ told ++ followups) ∧
      passed.2.events = implied ++ followups ∧ passed.2.dropped = left.length := by
  intro implied told passed
  let queue := implied ++ told
  let drained := trace process depth queue (session.recordEvents queue)
  have hbatches := batches_trace process depth queue (session.recordEvents queue)
  have hcalls := calls_trace process depth queue (session.recordEvents queue)
  have hpassed : passed = _ := integrate_eq process depth responses session
  have hevents : drained.session.events =
      session.events.recordAll (queue ++ drained.rounds.flatten.flatMap (·.followups)) := by
    rw [Recent.recordAll_append]
    exact hcalls.events hspares
  rw [hpassed]
  refine ⟨drained.rounds, drained.left, hbatches, hcalls, length_rounds_le process depth queue _,
    length_rounds_of_left process depth queue _, hbatches.queue_append, ?_, ?_, rfl, rfl⟩
  · exact (congrArg Recent.limit hevents).trans (Recent.limit_recordAll _ _)
  · refine (congrArg Recent.entries hevents).trans ?_
    rw [Recent.entries_recordAll hroom]
    simp only [queue, List.append_assoc]

/-- The standard processor leaves the history alone. -/
theorem worldProcessor_sparesEvents (threshold : Float32) :
    (worldProcessor threshold).SparesEvents := by
  intro event session
  obtain ⟨after, hprocess⟩ := worldProcessor_world threshold event session
  rw [hprocess]

/-- A door is opened and Mara dies, in a scene on the verge of chaos. The session has room for three
events, and of four it remembers the last three; two rounds bring up news of the death and a surge,
and the surge, which no round is left for, is named and remembered with the others. -/
theorem integrate_remembers_fall :
    let told : Response :=
      { worker := .historian
        stateChanges := [("door", .text "open")]
        events := [{ id := .known ⟨2⟩, kind := .npcDeath
                     payload := .object [("name", .text "Mara")] }] }
    let world : World := { chaos := 0.79 }
    let session : Session :=
      { id := ⟨7⟩
        turn := 4
        events := { limit := 3 }
        world := world.spawn { id := .known ⟨1⟩, name := "Mara", spawnedTurn := 1 } }
    let passed := integrate (worldProcessor 0.8) 2 [told] session
    session.events.entries.length ≤ session.events.limit ∧
      (∃ (rounds : List (List Handling)) (left : List Event),
        Batches (derived [told] 4 0 ++ reported [told] 4) rounds left ∧
        passed.1.events.entries = Recent.lastOf 3
          (derived [told] 4 0 ++ reported [told] 4 ++ rounds.flatten.flatMap (·.followups)) ∧
        passed.2.events = derived [told] 4 0 ++ rounds.flatten.flatMap (·.followups) ∧
        left.length = 1) ∧
      passed.1.events.entries.map (·.kind) = [.npcDeath, .worldEvent, .anomaly] ∧
      passed.2.events.map (·.kind) = [.stateChange, .worldEvent, .anomaly] := by
  intro told world session passed
  have hroom : session.events.entries.length ≤ session.events.limit := Nat.zero_le 3
  obtain ⟨rounds, left, hbatches, -, -, -, -, -, hentries, hnamed, hdropped⟩ :=
    integrate_remembers (worldProcessor_sparesEvents 0.8) 2 [told] hroom
  have hleft : passed.2.dropped = 1 := by decide +kernel
  exact ⟨hroom, ⟨rounds, left, hbatches, hentries, hnamed, hdropped.symm.trans hleft⟩,
    by decide +kernel, by decide +kernel⟩

end Cascade

end StoryDirector
