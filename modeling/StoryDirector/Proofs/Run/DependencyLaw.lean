import StoryDirector.Proofs.Plan.Dependencies
import StoryDirector.Proofs.Run.Ending
/-!
# StoryDirector.Proofs.Run.DependencyLaw

Planner and run together. **A task waits in vain for what it depends on exactly if it runs before a
task that it requires** (`Run.timedOut_iff_early`), and that happens on cycles only.

The results of a run belong to the tasks of the ranking, place by place in the order in which they
are run. So what the ledger holds when the turn of the `k`th task comes are the first `k` places of
the order, and the law of the ledger becomes one about the order.
-/

namespace StoryDirector

theorem Ledger.Lawful.of_getElem? {ledger : Ledger} (h : ledger.Lawful) {k : Nat}
    {result : TaskResult} (hresult : ledger.results[k]? = some result) :
    result.WaitedInVain ↔
      ∃ id ∈ result.task.dependsOn, ∀ earlier ∈ ledger.results.take k, earlier.task.id ≠ id :=
  h _ _ _ (eq_append_of_getElem? hresult)

namespace Run

/-- The task at a place of the ranking waited in vain for a task that it depends on. -/
def TimedOut (tasks : List Task) (results : List TaskResult) (place : Nat) : Prop :=
  ∃ (k : Nat) (result : TaskResult), (Task.places tasks)[k]? = some place ∧
    results[k]? = some result ∧ result.WaitedInVain

/-- The results belong to the tasks of the ranking, place by place in the order in which they are
run. -/
def Answers (tasks : List Task) (results : List TaskResult) : Prop :=
  results.map (fun result => some result.task) =
    (Task.places tasks).map fun place => (Task.ranking tasks)[place]?

variable {tasks : List Task} {results : List TaskResult} {k place : Nat} {id : String}

theorem answers_of_map_task (h : results.map (·.task) = Task.inOrder tasks) :
    Answers tasks results := by
  unfold Answers
  rw [← Task.map_some_inOrder, ← h, List.map_map]
  rfl

theorem Answers.getElem? (h : Answers tasks results)
    (hplace : (Task.places tasks)[k]? = some place) :
    ∃ result, results[k]? = some result ∧ (Task.ranking tasks)[place]? = some result.task := by
  have hat := congrArg (·[k]?) h
  simp only [List.getElem?_map, hplace, Option.map_some] at hat
  cases hresult : results[k]? with
  | none => simp [hresult] at hat
  | some result =>
      rw [hresult] at hat
      exact ⟨result, rfl, (Option.some.inj hat).symm⟩

theorem Answers.exists_place (h : Answers tasks results) {result : TaskResult}
    (hresult : results[k]? = some result) : ∃ place, (Task.places tasks)[k]? = some place := by
  have hlength : results.length = (Task.places tasks).length := by
    simpa using congrArg List.length h
  have hk := (List.getElem?_eq_some_iff.mp hresult).1
  rw [hlength] at hk
  exact ⟨_, List.getElem?_eq_getElem hk⟩

/-- Some result before the `k`th bears an identity exactly if some place before the `k`th does. -/
theorem Answers.exists_bears_iff (h : Answers tasks results) :
    (∃ earlier ∈ results.take k, earlier.task.id = id) ↔
      ∃ place ∈ (Task.places tasks).take k, Task.Bears (Task.ranking tasks) id place := by
  have hfirst : (results.take k).map (fun result => some result.task) =
      ((Task.places tasks).take k).map fun place => (Task.ranking tasks)[place]? := by
    rw [List.map_take, List.map_take, h]
  constructor
  · rintro ⟨earlier, hearlier, hid⟩
    have hin := List.mem_map_of_mem (f := fun result : TaskResult => some result.task) hearlier
    rw [hfirst] at hin
    obtain ⟨place, hplace, htask⟩ := List.mem_map.mp hin
    exact ⟨place, hplace, earlier.task, htask, hid⟩
  · rintro ⟨place, hplace, task, htask, hid⟩
    have hin := List.mem_map_of_mem (f := fun place => (Task.ranking tasks)[place]?) hplace
    rw [← hfirst, htask] at hin
    obtain ⟨earlier, hearlier, hsame⟩ := List.mem_map.mp hin
    exact ⟨earlier, hearlier, Option.some.inj hsame ▸ hid⟩

/-- A task waits in vain exactly if it runs before a task that it requires. -/
theorem timedOut_iff_early (h : Answers tasks results) (hlawful : Ledger.Lawful ⟨results⟩) :
    TimedOut tasks results place ↔ Task.Early tasks place := by
  constructor
  · rintro ⟨k, result, hplace, hresult, hvain⟩
    obtain ⟨other, hother, htask⟩ := h.getElem? hplace
    obtain rfl := Option.some.inj (hresult.symm.trans hother)
    obtain ⟨id, hid, hnone⟩ := (hlawful.of_getElem? hresult).mp hvain
    -- The first task to bear the missing identity is required and has not run.
    obtain ⟨bearer, hbearer⟩ := Task.exists_bears (List.mem_of_getElem? htask) hid
    obtain ⟨first, hfirst⟩ := hbearer.exists_first
    refine ⟨k, hplace, first, ⟨result.task, htask, id, hid, hfirst⟩, fun hrun => ?_⟩
    obtain ⟨earlier, hearlier, hbears⟩ := h.exists_bears_iff.mpr ⟨first, hrun, hfirst.1⟩
    exact hnone earlier hearlier hbears
  · rintro ⟨k, hplace, first, ⟨task, htask, id, hid, hfirst⟩, hlate⟩
    obtain ⟨result, hresult, hother⟩ := h.getElem? hplace
    obtain rfl := Option.some.inj (htask.symm.trans hother)
    refine ⟨k, result, hplace, hresult, (hlawful.of_getElem? hresult).mpr ⟨id, hid, ?_⟩⟩
    intro earlier hearlier hbears
    -- If any task with the identity had run, the first one would have.
    obtain ⟨bearer, hrun, hbearer⟩ := h.exists_bears_iff.mp ⟨earlier, hearlier, hbears⟩
    exact hlate (Task.firstBearer_before hfirst hrun hbearer)

/-- **Only on cycles does a task wait in vain, and on every cycle one does.** A plan is put in order
and run to its end without anyone cancelling it: every task of the ranking has its result, a task
that waited in vain lies on a cycle of requirements, and each cycle has such a task. Without cycles
each task runs after all that it requires, and none waits in vain. -/
theorem dependency_law (setup : RunSetup) (engine : Engine) (tasks : List Task)
    (action : PlayerAction) (kind : ActionKind) (session : Session) :
    let ended := (play setup engine
      (begin (Task.inOrder tasks) action kind session engine.now) none).2
    let results := ended.ledger.results
    let requires := Task.Requires (Task.ranking tasks)
    (ended.stage = .finished ∧ Answers tasks results ∧
      (Task.places tasks).Perm (List.range (Task.ranking tasks).length) ∧
      Task.IsRanking (tasks.map (Task.resolve tasks)) (Task.ranking tasks)) ∧
    (∀ place, TimedOut tasks results place → ∃ walk, Task.IsCycle requires walk ∧ place ∈ walk) ∧
    (∀ walk, Task.IsCycle requires walk → ∃ place ∈ walk, TimedOut tasks results place) ∧
    ((∀ walk, ¬ Task.IsCycle requires walk) →
      (∀ k place, (Task.places tasks)[k]? = some place →
        ∀ other, requires place other → other ∈ (Task.places tasks).take k) ∧
      ∀ result ∈ results, ¬ result.WaitedInVain) := by
  intro ended results requires
  obtain ⟨hfinished, htasks, hlawful⟩ :=
    play_spec setup engine (Task.inOrder tasks) action kind session
  have hanswers : Answers tasks results := answers_of_map_task htasks
  have hearly : ∀ place, TimedOut tasks results place ↔ Task.Early tasks place :=
    fun place => timedOut_iff_early hanswers hlawful
  have honly : ∀ place, TimedOut tasks results place →
      ∃ walk, Task.IsCycle requires walk ∧ place ∈ walk :=
    fun place htimed => ((hearly place).mp htimed).exists_isCycle
  refine ⟨⟨hfinished, hanswers, Task.perm_places, Task.isRanking_ranked _⟩, honly, ?_,
    fun hnone => ⟨?_, ?_⟩⟩
  · intro walk hwalk
    obtain ⟨place, hplace, hrun⟩ := hwalk.exists_early
    exact ⟨place, hplace, (hearly place).mpr hrun⟩
  · intro k place hplace other hrequires
    by_contra hlate
    obtain ⟨walk, hwalk, -⟩ := Task.Early.exists_isCycle ⟨k, hplace, other, hrequires, hlate⟩
    exact hnone walk hwalk
  · intro result hresult hvain
    obtain ⟨k, hk⟩ := List.mem_iff_getElem?.mp hresult
    obtain ⟨place, hplace⟩ := hanswers.exists_place hk
    obtain ⟨walk, hwalk, -⟩ := honly place ⟨k, result, hplace, hk, hvain⟩
    exact hnone walk hwalk

end Run

end StoryDirector
