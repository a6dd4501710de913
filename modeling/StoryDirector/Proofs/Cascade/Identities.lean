import StoryDirector.Proofs.Cascade.Brought
/-!
# StoryDirector.Proofs.Cascade.Identities

**No identity is given twice.** An event that comes about in a session is named by how many events
had been recorded by then and by its place among those made at that moment. What is made is recorded
before anything else is made, so the moments of two batches differ, and within a batch the places do
(`EventId.Given`, which goes on from batch to batch by `EventId.Given.append`).

The standard processor numbers its follow-ups in this way (`Cascade.worldProcessor_numbers`),
whatever an event says. That a failed event may have used a place does no harm: nothing that it made
is kept.
-/

namespace StoryDirector

/-- The identities are different, and were given between two numbers of recorded events. -/
structure EventId.Given (first last : Nat) (ids : List EventId) : Prop where
  /-- Time goes on. -/
  le : first ≤ last
  /-- Each of them was given at a moment in between, -/
  made : ∀ id ∈ ids, ∃ moment place, id = .made moment place ∧ first ≤ moment ∧ moment < last
  /-- and no two are the same. -/
  nodup : ids.Nodup

namespace EventId.Given

variable {first between last moment : Nat} {ids others : List EventId}

theorem nil (h : first ≤ last) : Given first last [] :=
  ⟨h, fun _ hmem => absurd hmem List.not_mem_nil, List.nodup_nil⟩

/-- What is given later is different from all that was given before. -/
theorem append (h : Given first between ids) (hothers : Given between last others) :
    Given first last (ids ++ others) where
  le := Nat.le_trans h.le hothers.le
  made := by
    intro id hid
    rcases List.mem_append.mp hid with hearly | hlate
    · obtain ⟨moment, place, hmade, hfirst, hbetween⟩ := h.made id hearly
      exact ⟨moment, place, hmade, hfirst, Nat.lt_of_lt_of_le hbetween hothers.le⟩
    · obtain ⟨moment, place, hmade, hbetween, hlast⟩ := hothers.made id hlate
      exact ⟨moment, place, hmade, Nat.le_trans h.le hbetween, hlast⟩
  nodup := by
    refine List.nodup_append.mpr ⟨h.nodup, hothers.nodup, ?_⟩
    rintro id hearly other hlate rfl
    obtain ⟨moment, place, rfl, -, hbefore⟩ := h.made id hearly
    obtain ⟨later, same, hmade, hafter, -⟩ := hothers.made _ hlate
    obtain ⟨rfl, -⟩ := EventId.made.inj hmade
    exact absurd hbefore (Nat.not_lt.mpr hafter)

/-- One batch, all of which is recorded before anything else is made. -/
theorem batch {count : Nat} (h : moment + count ≤ last) :
    Given moment last ((List.range count).map (EventId.made moment ·)) where
  le := Nat.le_trans (Nat.le_add_right moment count) h
  made := by
    intro id hid
    obtain ⟨place, hplace, rfl⟩ := List.mem_map.mp hid
    have hcount := List.mem_range.mp hplace
    exact ⟨moment, place, rfl, Nat.le_refl _, by omega⟩
  nodup := List.nodup_range.map fun _ _ h => (EventId.made.inj h).2

end EventId.Given

/-- The processor records nothing by itself, and numbers what follows from an event one after
another. -/
structure Processor.Numbers (process : Processor) : Prop where
  /-- Nothing is recorded. -/
  recorded : ∀ event session, (process event session).1.recorded = session.recorded
  /-- Follow-ups are numbered. -/
  followups : ∀ event session followups, (process event session).2 = .ok followups →
    followups.map (·.id) =
      (List.range followups.length).map (EventId.made session.recorded ·)

namespace Cascade

variable {threshold : Float32} {process : Processor} {followups : List Event}

/-! ### What the standard processor makes -/

theorem ids_surge (place : Nat) (before : Float32) (session : Session) :
    (surge threshold place before session).map (·.id) =
      (List.range' place (surge threshold place before session).length).map
        (EventId.made session.recorded ·) := by
  rw [surge]
  split <;> rfl

/-- What a state change brings up goes on numbering where it began. -/
theorem ids_applyChanges {moment : Nat} (changes : List (String × Json)) {session : Session}
    (hmoment : session.recorded = moment) {found : List Event}
    (hfound : found.map (·.id) = (List.range found.length).map (EventId.made moment ·))
    (h : (applyChanges threshold session found changes).2 = .ok followups) :
    followups.map (·.id) = (List.range followups.length).map (EventId.made moment ·) := by
  induction changes generalizing session found with
  | nil =>
      obtain rfl := Except.ok.inj h
      exact hfound
  | cons change rest ih =>
      rw [applyChanges] at h
      split at h
      · split at h
        · cases h
        · next level hlevel =>
            let moved := moveChaos threshold found.length session (·.setChaos (narrow level))
            have hmoved : moved.1.recorded = moment := hmoment
            have hsurge : moved.2.map (·.id) =
                (List.range' found.length moved.2.length).map (EventId.made moment ·) :=
              hmoved ▸ ids_surge found.length session.world.chaos moved.1
            have hall : (found ++ moved.2).map (·.id) =
                (List.range (found ++ moved.2).length).map (EventId.made moment ·) := by
              rw [List.map_append, hfound, hsurge, List.length_append, List.range_add,
                List.map_append, List.range'_eq_map_range]
            exact ih hmoved hall h
      · split at h
        · split at h
          · cases h
          · refine ih ?_ hfound h
            exact hmoment
        · split at h
          · exact ih hmoment hfound h
          · refine ih ?_ hfound h
            exact hmoment

theorem worldProcessor_numbers (threshold : Float32) : (worldProcessor threshold).Numbers where
  recorded event session := by
    obtain ⟨after, hprocess⟩ := worldProcessor_world threshold event session
    rw [hprocess]
  followups event session followups h := by
    -- Most handlers have a branch without follow-ups.
    have hnone (hempty : (.ok [] : Except CascadeError (List Event)) = .ok followups) :
        followups.map (·.id) =
          (List.range followups.length).map (EventId.made session.recorded ·) := by
      obtain rfl := Except.ok.inj hempty
      rfl
    rw [worldProcessor] at h
    cases hkind : event.kind with
    | stateChange =>
        simp only [hkind, stateChange] at h
        split at h
        · cases h
        · exact ids_applyChanges _ rfl rfl h
    | npcSpawn =>
        simp only [hkind, npcSpawn] at h
        split at h
        · cases h
        · exact hnone h
    | npcDeath =>
        simp only [hkind, npcDeath] at h
        split at h
        · cases h
        · split at h
          · exact hnone h
          · obtain rfl := Except.ok.inj h
            rfl
    | worldEvent =>
        simp only [hkind, worldEvent] at h
        split at h
        · exact hnone h
        · split at h
          · cases h
          · obtain rfl := Except.ok.inj h
            rw [moveChaos, ids_surge, List.range_eq_range']
            split <;> rfl
    | anomaly =>
        simp only [hkind, anomaly] at h
        exact hnone h
    | questUpdate =>
        simp only [hkind, questUpdate] at h
        split at h
        · exact hnone h
        · exact hnone h

/-! ### What a cascade makes -/

/-- Calls one after another give identities one after another. -/
theorem Calls.given (hnumbers : process.Numbers) {first last : Session} {calls : List Handling}
    (h : Calls process first calls last) :
    EventId.Given first.recorded last.recorded
      ((calls.flatMap (·.followups)).map (·.id)) := by
  induction calls generalizing first with
  | nil =>
      obtain rfl := h
      exact .nil (Nat.le_refl _)
  | cons call rest ih =>
      obtain ⟨-, ⟨changed, hprocess, hafter⟩, hrest⟩ := h
      have hrecorded : call.after.recorded = first.recorded + call.followups.length := by
        have hchanged := hnumbers.recorded call.event first
        rw [hprocess] at hchanged
        rw [hafter, Session.recordEvents, hchanged]
      have hids : call.followups.map (·.id) =
          (List.range call.followups.length).map (EventId.made first.recorded ·) := by
        cases houtcome : call.outcome with
        | error error => rw [Handling.followups, houtcome]; rfl
        | ok followups =>
            have hcall := hnumbers.followups call.event first followups (by rw [hprocess, houtcome])
            rw [Handling.followups, houtcome]
            exact hcall
      have hfirst : EventId.Given first.recorded call.after.recorded
          (call.followups.map (·.id)) := by
        rw [hids, hrecorded]
        exact .batch (Nat.le_refl _)
      rw [List.flatMap_cons, List.map_append]
      exact hfirst.append (ih hrest)

end Cascade

namespace CascadeRules

variable {rules : CascadeRules}

/-- **What comes about as contributions are fed back has identities of its own**, all of them given
on the way. -/
theorem Brought.given (hnumbers : rules.process.Numbers) {contributions : List (List Response)}
    {before after : Session} {made told recorded : List Event}
    (h : rules.Brought contributions before made told recorded after) :
    EventId.Given before.recorded after.recorded (made.map (·.id)) := by
  induction h with
  | none session => exact .nil (Nat.le_refl _)
  | @next _ _ before between _ implied own rounds _ _ _ hbrings _ ih =>
      have himplied : EventId.Given before.recorded
          (before.recordEvents (implied ++ own)).recorded (implied.map (·.id)) := by
        rw [hbrings.numbered]
        refine .batch (Nat.add_le_add_left ?_ _)
        rw [List.length_append]
        exact Nat.le_add_right _ _
      rw [List.map_append, List.map_append]
      exact (himplied.append (hbrings.calls.given hnumbers)).append ih

end CascadeRules

end StoryDirector
