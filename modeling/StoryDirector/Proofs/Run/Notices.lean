import StoryDirector.Proofs.Run.Hearing
import Mathlib.Data.List.Forall2
/-!
# StoryDirector.Proofs.Run.Notices

What notices have to look like, whoever wrote them. **A notice is judged by what a watcher can read
off it: its kind, the session it names, its particulars, and the words of an error**
(`Notice.IsPlan`, `IsStart`, `IsCall`, `IsFailure`, `Counts`, `IsCompletion`, `IsCancellation`). The
notices of a run follow its tasks: each is made known with its workers, then its failure if it
failed, and then how many of how many tasks are done (`Progress.OfTasks`). A task that waited in
vain is not made known, and of one that is out of time perhaps not all workers.

The notices that a run sends are of these forms (`Progress.isPlan_planned` and the like), and that
is all the rest of the library knows of their making.
-/

namespace StoryDirector

/-! ### The forms of notices -/

namespace Notice

/-- The value of a particular. -/
def detail? (notice : Notice) (name : String) : Option Json :=
  notice.details.bind fun details => details.field? name

/-- A run of some tasks was planned. The bar starts at ten of a hundred. -/
structure IsPlan (session : Uuid) (tasks : List Task) (notice : Notice) : Prop where
  /-- It is about how far the run has come, -/
  kind : notice.kind = .progress
  /-- for this session, -/
  about : notice.session = session
  /-- it names the tasks, -/
  names : notice.detail? "tasks" = some (.array (tasks.map fun task => .text task.name))
  /-- and nothing is done. -/
  percent : notice.percent = some 10

/-- A task was begun, the one at a place among so many. -/
structure IsStart (session : Uuid) (task : Task) (index total : Nat) (notice : Notice) : Prop where
  /-- It is about the beginning of a task, -/
  kind : notice.kind = .taskStarted
  /-- for this session, -/
  about : notice.session = session
  /-- it names the task, -/
  name : notice.detail? "task" = some (.text task.name)
  /-- its place -/
  place : notice.detail? "index" = some (.int index)
  /-- among how many, -/
  outOf : notice.detail? "total" = some (.int total)
  /-- and its workers. -/
  workers : notice.detail? "workers" =
    some (.array (task.workers.map fun worker => .text worker.name))

/-- A worker was called for a task of some name. -/
structure IsCall (session : Uuid) (task : String) (worker : WorkerKind) (notice : Notice) :
    Prop where
  /-- It is about a call, -/
  kind : notice.kind = .workerCallStarted
  /-- for this session, -/
  about : notice.session = session
  /-- it names the worker -/
  called : notice.detail? "worker" = some (.text worker.name)
  /-- and the task. -/
  name : notice.detail? "task" = some (.text task)

/-- A task failed. -/
structure IsFailure (session : Uuid) (task : Task) (error : TaskError) (notice : Notice) :
    Prop where
  /-- It is an error, -/
  kind : notice.kind = .error
  /-- for this session, -/
  about : notice.session = session
  /-- it names the task, -/
  name : notice.detail? "task" = some (.text task.name)
  /-- and says what went wrong. -/
  message : notice.message = task.name ++ " failed: " ++ error.message

/-- So many of so many tasks are done. -/
structure Counts (session : Uuid) (done total : Nat) (notice : Notice) : Prop where
  /-- It is about how far the run has come, -/
  kind : notice.kind = .progress
  /-- for this session, -/
  about : notice.session = session
  /-- so many are done -/
  count : notice.detail? "tasks_done" = some (.int done)
  /-- of so many. -/
  outOf : notice.detail? "tasks_total" = some (.int total)

/-- The run of so many tasks ended well. -/
structure IsCompletion (session : Uuid) (tasks : Nat) (notice : Notice) : Prop where
  /-- It is about the end, -/
  kind : notice.kind = .completed
  /-- for this session, -/
  about : notice.session = session
  /-- it says how many tasks there were, -/
  message : notice.message = "Finished " ++ toString tasks ++ " tasks"
  /-- and all is done. -/
  percent : notice.percent = some 100

/-- The run was cancelled. -/
structure IsCancellation (session : Uuid) (notice : Notice) : Prop where
  /-- It is an error, -/
  kind : notice.kind = .error
  /-- for this session, -/
  about : notice.session = session
  /-- and says so. -/
  message : notice.message = "Cancelled"

end Notice

namespace Progress

variable (session : Uuid) (task : Task) (index total : Nat)

theorem isPlan_planned (tasks : List Task) (estimate : Float) :
    (planned session tasks estimate).IsPlan session tasks :=
  ⟨rfl, rfl, by simp [planned, Notice.detail?, Dict.value?_cons], rfl⟩

theorem isStart_taskStarted :
    (taskStarted session task index total).IsStart session task index total := by
  refine ⟨rfl, rfl, ?_, ?_, ?_, ?_⟩ <;>
    simp [taskStarted, Notice.detail?, Json.ofEntries, Dict.ofEntries, Dict.putAll,
      Dict.value?_put_of_ne]

theorem isCall_workerCalled (worker : WorkerKind) (name : String) :
    (workerCalled session worker name).IsCall session name worker := by
  refine ⟨rfl, rfl, ?_, ?_⟩ <;>
    simp [workerCalled, Notice.detail?, Json.ofEntries, Dict.ofEntries, Dict.putAll,
      Dict.value?_put_of_ne]

theorem isFailure_taskFailed (error : TaskError) :
    (taskFailed session task error).IsFailure session task error :=
  ⟨rfl, rfl, by simp [taskFailed, Notice.detail?, Dict.value?_cons], rfl⟩

theorem counts_taskDone (done : Nat) (share eta : Float) :
    (taskDone session done total share eta).Counts session done total := by
  refine ⟨rfl, rfl, ?_, ?_⟩ <;>
    simp [taskDone, Notice.detail?, Json.ofEntries, Dict.ofEntries, Dict.putAll,
      Dict.value?_put_of_ne]

theorem isCompletion_completed (tasks : Nat) :
    (completed session tasks).IsCompletion session tasks :=
  ⟨rfl, rfl, rfl, rfl⟩

theorem isCancellation_cancelled : (cancelled session).IsCancellation session :=
  ⟨rfl, rfl, rfl⟩

end Progress

/-! ### The notices of tasks -/

namespace Progress

/-- Some notices tell of a task until it is over. -/
inductive Opened (session : Uuid) (index total : Nat) (result : TaskResult) :
    List Notice → Prop where
  /-- It waited in vain. -/
  | skipped (hvain : result.WaitedInVain) : Opened session index total result []
  /-- It was begun, and its workers were called in order, all of them if there was time. -/
  | attempted (called : List WorkerKind) (start : Notice) (calls : List Notice)
      (hserved : ¬ result.WaitedInVain) (hcalled : called <+: result.task.workers)
      (hall : called = result.task.workers ∨ ∃ limit, result.error = some (.deadlineExceeded limit))
      (hstart : start.IsStart session result.task index total)
      (hcalls : List.Forall₂ (Notice.IsCall session result.task.name) called calls) :
      Opened session index total result (start :: calls)

/-- Some notices tell that a task is over. -/
inductive Settled (before after : Uuid) (index total : Nat) (result : TaskResult) :
    List Notice → Prop where
  /-- One more is done. -/
  | done (count : Notice) (hresult : result.error = none)
      (hcount : count.Counts after (index + 1) total) :
      Settled before after index total result [count]
  /-- It failed, and that is done too. -/
  | failed (error : TaskError) (failure count : Notice) (hresult : result.error = some error)
      (hfailure : failure.IsFailure before result.task error)
      (hcount : count.Counts after (index + 1) total) :
      Settled before after index total result [failure, count]

/-- Some notices tell of a task at a place among all, and name sessions of these. -/
inductive OfTask (Named : Uuid → Prop) (index total : Nat) (result : TaskResult) :
    List Notice → Prop where
  /-- First what led to its result, and then the result. -/
  | intro (before after : Uuid) (news rest : List Notice) (hbefore : Named before)
      (hafter : Named after) (hopened : Opened before index total result news)
      (hsettled : Settled before after index total result rest) :
      OfTask Named index total result (news ++ rest)

/-- Some notices tell of the first tasks, in order. -/
inductive OfTasks (Named : Uuid → Prop) (total : Nat) : List TaskResult → List Notice → Prop where
  /-- There are none yet. -/
  | nil : OfTasks Named total [] []
  /-- Each task follows those before it. -/
  | concat {results : List TaskResult} {result : TaskResult} {earlier news : List Notice}
      (hearlier : OfTasks Named total results earlier)
      (hnews : OfTask Named results.length total result news) :
      OfTasks Named total (results ++ [result]) (earlier ++ news)

variable {session before after : Uuid} {index total : Nat} {result : TaskResult}
  {news : List Notice}

theorem call_of_mem {name : String} {called : List WorkerKind} {calls : List Notice}
    (h : List.Forall₂ (Notice.IsCall session name) called calls) {notice : Notice}
    (hnotice : notice ∈ calls) :
    notice.kind = .workerCallStarted ∧ notice.session = session := by
  induction h with
  | nil => exact absurd hnotice List.not_mem_nil
  | cons hcall _ ih =>
      rcases List.mem_cons.mp hnotice with rfl | hrest
      · exact ⟨hcall.kind, hcall.about⟩
      · exact ih hrest

theorem Opened.kind_ne (h : Opened session index total result news) :
    ∀ notice ∈ news, notice.kind ≠ .completed := by
  cases h with
  | skipped => exact fun _ hnotice => absurd hnotice List.not_mem_nil
  | attempted called start calls _ _ _ hstart hcalls =>
      refine List.forall_mem_cons.mpr ⟨by simp [hstart.kind], fun notice hnotice => ?_⟩
      simp [(call_of_mem hcalls hnotice).1]

theorem Settled.kind_ne (h : Settled before after index total result news) :
    ∀ notice ∈ news, notice.kind ≠ .completed := by
  cases h with
  | done count _ hcount => simp [hcount.kind]
  | failed error failure count _ hfailure hcount => simp [hfailure.kind, hcount.kind]

/-- No such notice tells that all is completed. -/
theorem OfTasks.kind_ne {Named : Uuid → Prop} {results : List TaskResult}
    (h : OfTasks Named total results news) : ∀ notice ∈ news, notice.kind ≠ .completed := by
  induction h with
  | nil => exact fun _ hnotice => absurd hnotice List.not_mem_nil
  | concat hearlier hnews ih =>
      obtain ⟨before, after, opened, settled, -, -, hopened, hsettled⟩ := hnews
      intro notice hnotice
      simp only [List.mem_append] at hnotice
      rcases hnotice with hold | hnew | hend
      · exact ih notice hold
      · exact hopened.kind_ne notice hnew
      · exact hsettled.kind_ne notice hend

theorem Opened.session_eq (h : Opened session index total result news) :
    ∀ notice ∈ news, notice.session = session := by
  cases h with
  | skipped => exact fun _ hnotice => absurd hnotice List.not_mem_nil
  | attempted called start calls _ _ _ hstart hcalls =>
      exact List.forall_mem_cons.mpr ⟨hstart.about, fun notice hnotice =>
        (call_of_mem hcalls hnotice).2⟩

theorem Settled.session_eq (h : Settled before after index total result news) :
    ∀ notice ∈ news, notice.session = before ∨ notice.session = after := by
  cases h with
  | done count _ hcount => simp [hcount.about]
  | failed error failure count _ hfailure hcount => simp [hfailure.about, hcount.about]

/-- Such notices name only sessions of these. -/
theorem OfTasks.named {Named : Uuid → Prop} {results : List TaskResult}
    (h : OfTasks Named total results news) : ∀ notice ∈ news, Named notice.session := by
  induction h with
  | nil => exact fun _ hnotice => absurd hnotice List.not_mem_nil
  | concat hearlier hnews ih =>
      obtain ⟨before, after, opened, settled, hbefore, hafter, hopened, hsettled⟩ := hnews
      intro notice hnotice
      simp only [List.mem_append] at hnotice
      rcases hnotice with hold | hnew | hend
      · exact ih notice hold
      · exact (hopened.session_eq notice hnew).symm ▸ hbefore
      · rcases hsettled.session_eq notice hend with heq | heq
        · exact heq ▸ hbefore
        · exact heq ▸ hafter

/-! ### The notices that runs make -/

/-- A task was begun, and some workers were called. -/
def begun (session : Uuid) (index total : Nat) (task : Task) (called : List WorkerKind) :
    List Notice :=
  taskStarted session task index total :: called.map fun worker =>
    workerCalled session worker task.name

/-- A task is over: its failure, if it failed, and the progress. -/
def settled (before after : Uuid) (index total : Nat) (result : TaskResult) (share eta : Float) :
    List Notice :=
  (result.error.map (taskFailed before result.task)).toList ++
    [taskDone after (index + 1) total share eta]

theorem opened_begun {called : List WorkerKind} (hserved : ¬ result.WaitedInVain)
    (hcalled : called <+: result.task.workers)
    (hall : called = result.task.workers ∨ ∃ limit, result.error = some (.deadlineExceeded limit)) :
    Opened session index total result (begun session index total result.task called) := by
  refine .attempted called _ _ hserved hcalled hall
    (isStart_taskStarted session result.task index total) ?_
  rw [List.forall₂_map_right_iff]
  exact List.forall₂_same.mpr fun worker _ => isCall_workerCalled session worker _

theorem settled_settled (before after : Uuid) (index total : Nat) (result : TaskResult)
    (share eta : Float) :
    Settled before after index total result
      (settled before after index total result share eta) := by
  have hcount := counts_taskDone after total (index + 1) share eta
  unfold settled
  cases herror : result.error with
  | none => exact .done _ herror hcount
  | some error => exact .failed error _ _ herror (isFailure_taskFailed _ _ _) hcount

/-- Tasks that all wait in vain can always follow. -/
theorem OfTasks.exists_skipped {Named : Uuid → Prop} {results : List TaskResult}
    (h : OfTasks Named total results news) (hsession : Named session) (todo : List Task) :
    ∃ others more, others.map (·.task) = todo ∧
      OfTasks Named total (results ++ others) (news ++ more) := by
  induction todo generalizing results news with
  | nil => exact ⟨[], [], rfl, by simpa using h⟩
  | cons task rest ih =>
      let result : TaskResult := { task, error := some (.dependencyTimeout [] 0) }
      have hopened : Opened session results.length total result [] := .skipped ⟨[], 0, rfl⟩
      have hsettled := settled_settled session session results.length total result 0 0
      obtain ⟨others, more, htasks, hmore⟩ :=
        ih (h.concat (.intro session session [] _ hsession hsession hopened hsettled))
      refine ⟨result :: others,
        settled session session results.length total result 0 0 ++ more,
        by simp [htasks, result], ?_⟩
      simpa using hmore

end Progress

end StoryDirector
