import StoryDirector.Proofs.Cascade.Flags
import StoryDirector.Proofs.Director.Exclusion
import StoryDirector.Proofs.Director.SameEvents
import StoryDirector.Record
/-!
# StoryDirector.Proofs.Director.Changes

**What an answer says of the world is what the session knows** (`House.changes_agree`). The changes
in the answer are merged from all results at the end; those in the world were made task by task by
the cascade, between other events and across tasks that failed. Under every name that means a flag
they agree, as long as the workers report no events themselves and their changes make sense.
-/

namespace StoryDirector

namespace House

variable {ι : Type} [DecidableEq ι]

/-- **The changes in the answer agree with the world.** A visit that is answered put its session
back by one of its own moves. If no response that counts reports events of its own, and all their
changes make sense, then of every name that means a flag the answer tells what the session knows,
and of what the answer does not tell the session knows what the caller's snapshot said. -/
theorem changes_agree {setup : DirectorSetup} {threshold : Float32}
    (hstandard : setup.run.cascade.process = Cascade.worldProcessor threshold)
    (hdepth : 1 ≤ setup.run.cascade.depth) (engine : Engine) (visits : ι → Visit)
    (moves : List (Move ι)) (who : ι) {answer : Answer}
    (hanswered : (((opening engine visits).run setup moves).guests who).visit.result? =
      some (.ok answer)) :
    ∃ before deed after, moves = before ++ .act who deed :: after ∧
      (opening engine visits).EndsBy setup who (.ok answer) before deed after ∧
      let house := (opening engine visits).run setup before
      let left := (opening engine visits).run setup (before ++ [.act who deed])
      ∃ found done, house.Finishes setup left who (visits who) found done ∧
        let kept := done.session.recordAction (visits who).action
        (∀ response ∈ successful (responsesOf done.ledger.results), response.Plain) →
          ∀ key ∉ Cascade.reservedNames,
            Cascade.Agrees key (Dict.value? (visits who).snapshot.world.flags key)
              answer.stateChanges kept.world.flags := by
  obtain ⟨before, deed, after, hmoves, hends, found, done, plan, director, hfinishes, hworked,
    rfl⟩ := exists_finishes engine visits hanswered
  refine ⟨before, deed, after, hmoves, hends, found, done, hfinishes, ?_⟩
  intro kept hplain key hkey
  let start := found.apply (visits who).snapshot
  have hresponses : (done.ledger.results.map (·.responses)).flatten =
      responsesOf done.ledger.results := List.flatMap_def.symm
  have hstart : Cascade.Agrees key (Dict.value? start.world.flags key) [] start.world.flags :=
    Cascade.Agrees.start key start.world.flags
  have hfed := CascadeRules.agrees_fed hstandard hdepth hkey
    (done.ledger.results.map (·.responses)) (by rwa [hresponses]) hstart
  rw [← hworked.fed.session, hresponses] at hfed
  exact hfed

end House

/-! ### A gate that is opened -/

/-- Gatekeepers open the gate. -/
def Registry.gatekeepers : Registry :=
  uniform fun worker => { worker, stateChanges := [("gate", .bool true)] }

namespace House

variable {ι : Type} [DecidableEq ι] {setup : DirectorSetup} {house : House ι} {who : ι}

/-- Whoever is not over before the last move ends by it, if at all. -/
theorem EndsBy.eq_last {result : Except DirectorError Answer} {moves before after : List (Move ι)}
    {last deed : Deed} (h : house.EndsBy setup who result before deed after)
    (hmoves : moves ++ [.act who last] = before ++ .act who deed :: after)
    (hgoes : ((house.run setup moves).guests who).visit.result? = none) :
    before = moves ∧ deed = last ∧ after = [] := by
  rcases List.eq_nil_or_concat after with rfl | ⟨later, other, rfl⟩
  · obtain ⟨hbefore, hlast⟩ := List.append_inj' hmoves rfl
    obtain ⟨-, rfl⟩ := Move.act.inj (List.cons.inj hlast).1
    exact ⟨hbefore.symm, rfl, rfl⟩
  · have hlast : moves ++ [.act who last] = (before ++ .act who deed :: later) ++ [other] := by
      simpa using hmoves
    have hsame : moves = before ++ .act who deed :: later := List.append_inj_left' hlast rfl
    have hover := result?_run setup h.ended later
    rw [← run_append, List.append_assoc, List.singleton_append, ← hsame, hgoes] at hover
    cases hover

/-- The one who asks for help opens the gate on the way, and both the answer and the session tell
of it. -/
theorem changes_agree_gate :
    let setup := DirectorSetup.of {} Registry.gatekeepers
    let ended := (opening (Engine.create {} {}) fun _ : Unit => Visit.plea).run setup (answered ⟨7⟩)
    ∃ answer session, (ended.guests ()).visit.result? = some (.ok answer) ∧
      ended.director.sessionIn? 0 = some session ∧
      Dict.value? answer.stateChanges "gate" = some (.bool true) ∧
      Dict.value? session.world.flags "gate" = some (.bool true) := by
  intro setup ended
  let early : List (Move Unit) :=
    [.openSession ⟨7⟩ 1, .act () .find, .act () .ask, .act () .takeUp]
  let working := (opening (Engine.create {} {}) fun _ : Unit => Visit.plea).run setup early
  have htold : ((ended.guests ()).visit.answer?.bind fun answer =>
      (Dict.value? answer.stateChanges "gate").bind Json.truth?) = some true := by
    decide +kernel
  obtain ⟨answer, hanswer, hopens⟩ := Option.bind_eq_some_iff.mp htold
  obtain ⟨value, hgate, htruth⟩ := Option.bind_eq_some_iff.mp hopens
  obtain rfl := Json.truth?_eq_some.mp htruth
  have hresult := Visit.result?_of_answer? hanswer
  obtain ⟨before, deed, after, hmoves, hends, found, done, hfinishes, hagrees⟩ :=
    changes_agree rfl (by decide) (Engine.create {} {}) (fun _ : Unit => Visit.plea)
      (answered ⟨7⟩) () hresult
  -- The last move ended the visit, and the run was as it began.
  obtain ⟨rfl, rfl, rfl⟩ : before = early ∧ deed = .work ∧ after = [] := hends.eq_last hmoves rfl
  obtain ⟨room, ticket, plan, run, seen, hrunning, hlook, hexchanges, -⟩ := hfinishes
  let session := (Session.withLimits { id := ⟨7⟩, turn := 1 } 10 20).apply Visit.plea.snapshot
  let planned := setup.planner.plan Visit.plea.action session Visit.plea.draw
  let begun := Run.begin planned.tasks Visit.plea.action planned.kind session
    working.director.engine.now
  have hbegun : (working.guests ()).visit.stage = .running 0 0 planned begun := rfl
  obtain ⟨rfl, rfl, rfl, rfl⟩ := VisitStage.running.inj (hbegun.symm.trans hrunning)
  have hplain : ∀ response ∈ responsesOf (begun.look setup.run working.director.shutDown
      working.director.engine).2.ledger.results, response.Plain := by
    decide +kernel
  rw [hlook] at hplain
  have hleft : ended.director.sessionIn? 0 =
      some (done.session.recordAction Visit.plea.action) :=
    (congrFun hexchanges.left 0).trans (Function.update_self ..)
  exact ⟨answer, _, hresult, hleft, hgate,
    (hagrees (fun response hcounts => hplain response (List.mem_filter.mp hcounts).1) "gate"
      (by decide)).set _ _ hgate rfl⟩

end House

end StoryDirector
