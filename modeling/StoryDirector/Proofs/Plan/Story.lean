import StoryDirector.Plan
import StoryDirector.Proofs.Plan.Ready
/-!
# StoryDirector.Proofs.Plan.Story

What plans consist of. **A plan is the anomaly task, if there is one, then the checks of the
template, and at the end the story, which depends on every check** (`Planner.exists_checks`). It
stands as it was drafted: the checks rank by their priorities above the story and below an anomaly,
and each depends on earlier ones only.

What the templates have in common is said once (`Template.Prepares`) and everything about plans is
read off it; a new template has to meet it and nothing else.
-/

namespace StoryDirector

namespace Task

/-- Tasks are listed by falling priority. -/
def Falling (tasks : List Task) : Prop :=
  tasks.Pairwise fun a b => b.priority ≤ a.priority

instance (tasks : List Task) : Decidable (Falling tasks) :=
  inferInstanceAs (Decidable (tasks.Pairwise _))

instance decidableReady :
    (known : List String) → (tasks : List Task) → Decidable (Ready known tasks)
  | _, [] => .isTrue trivial
  | known, task :: rest =>
    have := decidableReady (known ++ [task.id]) rest
    inferInstanceAs (Decidable ((∀ id ∈ task.dependsOn, id ∈ known) ∧ _))

end Task

namespace Template

/-- What is to be settled before a story of some name is told. -/
structure Prepares (checks : List Task) (name : String) : Prop where
  /-- It is settled by falling priority, -/
  falling : Task.Falling checks
  /-- after an anomaly and before the story, -/
  between : ∀ check ∈ checks,
    narrativePriority < check.priority ∧ check.priority < Planner.anomalyPriority
  /-- each check after those it depends on, -/
  ready : Task.Ready [] checks
  /-- under names of their own, -/
  distinct : (Planner.anomalyName :: (checks.map (·.id) ++ [name])).Nodup
  /-- by someone, but not by the one who tells the story. -/
  workers : ∀ check ∈ checks, check.workers ≠ [] ∧ .narrativeWriter ∉ check.workers

instance (checks : List Task) (name : String) : Decidable (Prepares checks name) :=
  decidable_of_iff
    (Task.Falling checks ∧
      (∀ check ∈ checks,
        narrativePriority < check.priority ∧ check.priority < Planner.anomalyPriority) ∧
      Task.Ready [] checks ∧
      (Planner.anomalyName :: (checks.map (·.id) ++ [name])).Nodup ∧
      ∀ check ∈ checks, check.workers ≠ [] ∧ WorkerKind.narrativeWriter ∉ check.workers)
    ⟨fun ⟨hfalling, hbetween, hready, hdistinct, hworkers⟩ =>
      ⟨hfalling, hbetween, hready, hdistinct, hworkers⟩,
     fun h => ⟨h.falling, h.between, h.ready, h.distinct, h.workers⟩⟩

theorem id_environmentCheck (action : PlayerAction) :
    (environmentCheck action).id = "environment_check" := by
  unfold environmentCheck
  cases destination? action <;> rfl

theorem prepares_environmentCheck (action : PlayerAction) :
    Prepares [environmentCheck action] "movement_narrative" := by
  unfold environmentCheck
  cases destination? action with
  | none => decide
  | some place => exact of_decide_eq_true rfl

/-- **Every template is some checks and then the story, which depends on all of them.** -/
theorem exists_checks (kind : ActionKind) (action : PlayerAction) (world : World) :
    ∃ checks name, Prepares checks name ∧
      tasks kind action world = checks ++ [narrative name (checks.map (·.id))] := by
  cases kind with
  | movement =>
      rw [tasks]
      split
      · refine ⟨[environmentCheck action], _, prepares_environmentCheck action, ?_⟩
        simp [id_environmentCheck]
      · exact ⟨[], "movement_narrative", by decide, rfl⟩
  | combat =>
      rw [tasks]
      split
      · exact ⟨[_], "combat_narrative", by decide, rfl⟩
      · exact ⟨[_, _], "combat_narrative", by decide, rfl⟩
  | quest =>
      rw [tasks]
      split
      · exact ⟨[_, _, _], "quest_narrative", by decide, rfl⟩
      · exact ⟨[_], "quest_narrative", by decide, rfl⟩
  | dialogue => exact ⟨[_], "dialogue_narrative", by decide, rfl⟩
  | exploration => exact ⟨[_], "exploration_narrative", by decide, rfl⟩
  | itemUse => exact ⟨[_], "item_narrative", by decide, rfl⟩
  | skillUse => exact ⟨[_], "skill_narrative", by decide, rfl⟩
  | systemCommand => exact ⟨[], "system_response", by decide, rfl⟩
  | unknown => exact ⟨[_], "generic_narrative", by decide, rfl⟩

end Template

namespace Template.Prepares

variable {checks : List Task} {name : String}

/-- With the story behind them, the checks are still listed by falling priority. -/
theorem falling_story (h : Prepares checks name) (dependsOn : List String) :
    Task.Falling (checks ++ [narrative name dependsOn]) := by
  refine List.pairwise_append.mpr ⟨h.falling, List.pairwise_singleton _ _, ?_⟩
  intro check hcheck story hstory
  obtain rfl := List.mem_singleton.mp hstory
  exact Int.le_of_lt (h.between check hcheck).1

/-- An anomaly ranks above all of them. -/
theorem below_anomaly (h : Prepares checks name) {dependsOn : List String} {task : Task}
    (htask : task ∈ checks ++ [narrative name dependsOn]) :
    task.priority < Planner.anomalyPriority := by
  rcases List.mem_append.mp htask with hcheck | hstory
  · exact (h.between task hcheck).2
  · obtain rfl := List.mem_singleton.mp hstory
    show narrativePriority < Planner.anomalyPriority
    decide

/-- None of them goes by the name of an anomaly. -/
theorem id_ne_anomaly (h : Prepares checks name) {dependsOn : List String} {task : Task}
    (htask : task ∈ checks ++ [narrative name dependsOn]) : task.id ≠ Planner.anomalyName := by
  have hnew := (List.nodup_cons.mp h.distinct).1
  intro hsame
  rcases List.mem_append.mp htask with hcheck | hstory
  · exact hnew (List.mem_append_left _ (hsame ▸ List.mem_map_of_mem hcheck))
  · obtain rfl := List.mem_singleton.mp hstory
    exact hnew (List.mem_append_right _ (List.mem_singleton.mpr hsame.symm))

/-- The story depends on what is before it. -/
theorem ready_story (h : Prepares checks name) :
    Task.Ready [] (checks ++ [narrative name (checks.map (·.id))]) := by
  refine Task.ready_append.mpr ⟨h.ready, ?_, trivial⟩
  intro id hid
  exact List.mem_append_right _ hid

end Template.Prepares

namespace Planner

variable {settings : PlannerSettings} {session : Session} {draw : Float32}

/-- What is planned as an anomaly differs in its chance only. -/
theorem exists_chance {task : Task} (h : anomaly? settings session draw = some task) :
    ∃ chance, task = anomalyTask chance := by
  unfold anomaly? at h
  split at h
  · cases h
  · obtain ⟨-, htask⟩ := Option.ite_none_right_eq_some.mp h
    exact ⟨_, (Option.some.inj htask).symm⟩

/-- In threshold mode nothing is drawn. -/
theorem anomaly?_threshold (h : settings.mode = .threshold) (other : Float32) :
    anomaly? settings session draw = anomaly? settings session other := by
  simp only [anomaly?, h]

/-- Whether an anomaly is planned or not, the tasks can be run one after another. -/
theorem ready_parts {checks : List Task} {name : String} (h : Template.Prepares checks name)
    (settings : PlannerSettings) (session : Session) (draw : Float32) :
    Task.Ready [] ((anomaly? settings session draw).toList ++
      (checks ++ [Template.narrative name (checks.map (·.id))])) := by
  refine Task.ready_append.mpr ⟨?_, h.ready_story.mono (List.nil_subset _)⟩
  cases hplanned : anomaly? settings session draw with
  | none => trivial
  | some task =>
      obtain ⟨chance, rfl⟩ := exists_chance hplanned
      exact ⟨fun _ hid => absurd hid List.not_mem_nil, trivial⟩

/-- Whether an anomaly is planned or not, all tasks have names of their own. -/
theorem nodup_parts {checks : List Task} {name : String} (h : Template.Prepares checks name)
    (settings : PlannerSettings) (session : Session) (draw : Float32) :
    (((anomaly? settings session draw).toList ++
      (checks ++ [Template.narrative name (checks.map (·.id))])).map (·.id)).Nodup := by
  have hstory : ((checks ++ [Template.narrative name (checks.map (·.id))]).map (·.id)) =
      checks.map (·.id) ++ [name] := by
    rw [List.map_append]
    rfl
  rw [List.map_append, hstory]
  cases hplanned : anomaly? settings session draw with
  | none => exact (List.nodup_cons.mp h.distinct).2
  | some task =>
      obtain ⟨chance, rfl⟩ := exists_chance hplanned
      exact h.distinct

/-- An anomaly is not the business of the one who tells the story. -/
theorem workers_of_anomaly {task : Task} (h : task ∈ (anomaly? settings session draw).toList) :
    task.id = anomalyName ∧ task.workers = [.anomalyGenerator] := by
  obtain ⟨chance, rfl⟩ := exists_chance (Option.mem_toList.mp h)
  exact ⟨rfl, rfl⟩

/-- A plan is the anomaly task, if one is planned, and then the template as it stands. -/
theorem tasks_plan (planner : Planner) (action : PlayerAction) (session : Session)
    (draw : Float32) :
    (planner.plan action session draw).tasks =
      (anomaly? planner.settings session draw).toList ++
        Template.tasks (planner.lexicon.classify action) action session.world := by
  obtain ⟨checks, name, hprepares, htasks⟩ :=
    Template.exists_checks (planner.lexicon.classify action) action session.world
  have hranking : Task.IsRanking
      (checks ++ [Template.narrative name (checks.map (·.id))] ++
        (anomaly? planner.settings session draw).toList)
      ((anomaly? planner.settings session draw).toList ++
        (checks ++ [Template.narrative name (checks.map (·.id))])) := by
    refine Task.isRanking_append (hprepares.falling_story _) ?_ ?_
    · cases anomaly? planner.settings session draw with
      | none => exact List.Pairwise.nil
      | some task => exact List.pairwise_singleton _ _
    · intro task htask other hother
      obtain ⟨chance, rfl⟩ := exists_chance (Option.mem_toList.mp htask)
      exact hprepares.below_anomaly hother
  show Task.inOrder (Template.tasks _ action session.world ++ _) = _
  rw [htasks]
  exact Task.inOrder_eq hranking (ready_parts hprepares _ _ _)

/-- **A plan is the anomaly task, if one is planned, then some checks, and then the story, which
depends on all of them.** -/
theorem exists_checks (planner : Planner) (action : PlayerAction) (session : Session)
    (draw : Float32) :
    ∃ checks name, Template.Prepares checks name ∧
      (planner.plan action session draw).tasks =
        (anomaly? planner.settings session draw).toList ++
          (checks ++ [Template.narrative name (checks.map (·.id))]) := by
  obtain ⟨checks, name, hprepares, htasks⟩ :=
    Template.exists_checks (planner.lexicon.classify action) action session.world
  exact ⟨checks, name, hprepares, by rw [tasks_plan, htasks]⟩

/-- A plan can be run as it stands. -/
theorem ready_plan (planner : Planner) (action : PlayerAction) (session : Session)
    (draw : Float32) : Task.Ready [] (planner.plan action session draw).tasks := by
  obtain ⟨checks, name, hprepares, htasks⟩ := exists_checks planner action session draw
  rw [htasks]
  exact ready_parts hprepares _ _ _

end Planner

/-- In a plan, a task depends on another one. -/
def Plan.Depends (plan : Plan) (task other : Task) : Prop :=
  other ∈ plan.tasks ∧ other.id ∈ task.dependsOn

/-- A plan taken apart: an anomaly or none, the tasks that prepare the story, and the story. -/
structure Plan.EndsWithStory (plan : Plan) (anomaly others : List Task) (story : Task) : Prop where
  /-- An anomaly comes first and the story last. -/
  tasks : plan.tasks = anomaly ++ others ++ [story]
  /-- All tasks have names of their own, -/
  distinct : (plan.tasks.map (·.id)).Nodup
  /-- and an anomaly is known by its name. -/
  anomalous : ∀ task ∈ plan.tasks, task.id = Planner.anomalyName ↔ task ∈ anomaly
  /-- The story has a worker, the one who tells it, -/
  teller : story.workers = [.narrativeWriter]
  /-- and every other task has workers, but not this one. -/
  workers : ∀ task ∈ anomaly ++ others, task.workers ≠ [] ∧ .narrativeWriter ∉ task.workers
  /-- The story depends on every task but an anomaly. -/
  depends : ∀ task ∈ others, Relation.TransGen plan.Depends story task

/-- **Every plan ends with the story that it prepares.** -/
theorem Planner.exists_story (planner : Planner) (action : PlayerAction) (session : Session)
    (draw : Float32) :
    ∃ others story, (planner.plan action session draw).EndsWithStory
      (anomaly? planner.settings session draw).toList others story := by
  obtain ⟨checks, name, hprepares, hparts⟩ := exists_checks planner action session draw
  have htasks := hparts.trans (List.append_assoc _ _ _).symm
  refine ⟨checks, Template.narrative name (checks.map (·.id)), ?_⟩
  exact {
    tasks := htasks
    distinct := by
      rw [hparts]
      exact nodup_parts hprepares _ _ _
    anomalous := by
      intro task htask
      refine ⟨fun hname => ?_, fun hanomaly => (workers_of_anomaly hanomaly).1⟩
      rw [hparts] at htask
      rcases List.mem_append.mp htask with hanomaly | hother
      · exact hanomaly
      · exact absurd hname (hprepares.id_ne_anomaly hother)
    teller := rfl
    workers := by
      intro task htask
      rcases List.mem_append.mp htask with hanomaly | hcheck
      · rw [(workers_of_anomaly hanomaly).2]
        decide
      · exact hprepares.workers task hcheck
    depends := by
      intro task htask
      refine Relation.TransGen.single ⟨?_, List.mem_map_of_mem htask⟩
      rw [htasks]
      exact List.mem_append_left _ (List.mem_append_right _ htask) }

end StoryDirector
