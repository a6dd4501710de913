import StoryDirector.Plan.Task
/-!
# StoryDirector.Plan.Order

Putting tasks into an order that can be run. **Tasks are ranked by priority, and each is taken after
the tasks it depends on.** Dependencies on tasks that are not in the list are dropped. A dependency
on an identity that several tasks bear means the one that ranks highest.

The order is found by visiting the ranked tasks one after another, dependencies first
(`Traversal.visit`). A visit marks its task before it looks at the dependencies, so a cycle ends
where it closes, and a chain of nested visits is never longer than the list.
-/

namespace StoryDirector

namespace Task

/-- The task with only those dependencies that some task of the list bears. -/
def resolve (known : List Task) (task : Task) : Task :=
  { task with dependsOn := task.dependsOn.filter fun id => known.any (·.id = id) }

/-- Whether the first task ranks at least as high as the second. -/
def ranksBefore (a b : Task) : Bool :=
  decide (b.priority ≤ a.priority)

/-- The tasks by falling priority, equal ones in their order. -/
def ranked (tasks : List Task) : List Task :=
  tasks.mergeSort ranksBefore

/-- The places of the tasks that the task at a place depends on, in the order of its
dependencies. -/
def dependencies (tasks : List Task) (place : Nat) : List Nat :=
  match tasks[place]? with
  | none => []
  | some task => task.dependsOn.filterMap fun id => tasks.findIdx? (·.id = id)

end Task

/-- The state of a search through a graph. -/
structure Traversal where
  /-- Places that have been entered. -/
  marked : List Nat := []
  /-- Places that have been left, in the order of leaving. -/
  emitted : List Nat := []

namespace Traversal

/-- Enters a place unless it was entered before, visits what it depends on, and leaves it. The first
argument bounds the depth. -/
def visit (dependencies : Nat → List Nat) : (depth : Nat) → Traversal → (place : Nat) → Traversal
  | 0, t, _ => t
  | depth + 1, t, place =>
    if place ∈ t.marked then t
    else
      let inside := (dependencies place).foldl (visit dependencies depth)
        { t with marked := place :: t.marked }
      { inside with emitted := inside.emitted ++ [place] }

/-- The places below `count` in an order in which each follows what it depends on. -/
def order (dependencies : Nat → List Nat) (count : Nat) : List Nat :=
  ((List.range count).foldl (visit dependencies (count + 1)) {}).emitted

@[simp] theorem visit_zero (dependencies : Nat → List Nat) (t : Traversal) (place : Nat) :
    visit dependencies 0 t place = t := rfl

theorem visit_of_marked {dependencies : Nat → List Nat} {t : Traversal} {place : Nat}
    (h : place ∈ t.marked) (depth : Nat) : visit dependencies depth t place = t := by
  cases depth with
  | zero => rfl
  | succ depth => simp [visit, h]

theorem visit_of_not_marked {dependencies : Nat → List Nat} {t : Traversal} {place : Nat}
    (h : place ∉ t.marked) (depth : Nat) :
    visit dependencies (depth + 1) t place =
      let inside := (dependencies place).foldl (visit dependencies depth)
        { t with marked := place :: t.marked }
      { inside with emitted := inside.emitted ++ [place] } := by
  simp [visit, h]

end Traversal

namespace Task

/-- The tasks in the order in which they are run. -/
def inOrder (tasks : List Task) : List Task :=
  let ranked := ranked (tasks.map (resolve tasks))
  (Traversal.order (dependencies ranked) ranked.length).filterMap (ranked[·]?)

/-- The larger of two numbers; what is not a number gives way. -/
def larger (a b : Float) : Float :=
  if a.isNaN then b else if a < b then b else a

/-- How long the tasks are expected to take: those that run alone add up, and of those that run
their workers at once the longest counts. -/
def totalEstimate (tasks : List Task) : Float :=
  let alone := (tasks.filter (!·.mode.isConcurrent)).map (·.estimate)
  let together := (tasks.filter (·.mode.isConcurrent)).map (·.estimate)
  alone.foldl (· + ·) 0 + together.foldl larger 0

end Task

end StoryDirector
