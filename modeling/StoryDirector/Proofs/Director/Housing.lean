import StoryDirector.Proofs.Director.Changes
import StoryDirector.Proofs.Director.Serving
/-!
# StoryDirector.Proofs.Director.Housing

Commands on the clock as moves in a house. **Each look at a command is a few moves of the guest that
stands for it, or a move of no guest** (`Timeline.Housed.step`), so all that holds of guests,
however they move, holds of the visits of commands: who stands in line and who owns a lock, and what
an answer was made of (`House.Accounts`).
-/

namespace StoryDirector

/-! ### What answers are made of -/

/-- The answer tells how many tasks were planned, and of how many it says that they failed: of those
whose results are failures. -/
structure Answer.Counts (answer : Answer) (planned : List Task) (results : List TaskResult) :
    Prop where
  /-- There is one result for each task. -/
  tasks : results.map (·.task) = planned
  /-- The tasks are counted. -/
  total : Dict.value? answer.metadata "tasks_total" = some (.int planned.length)
  /-- Those that failed are named, -/
  failed : Dict.value? answer.metadata "failed_tasks" = some
    (.array ((results.filter (!·.succeeded)).map fun result => .text result.task.name))
  /-- and counted. -/
  failures : ∀ names, Dict.value? answer.metadata "failed_tasks" = some (.array names) →
    Dict.value? answer.metadata "tasks_failed" = some (.int names.length)

/-- The answer to a finished run counts its results. -/
theorem Visit.counts_answerOf {setup : DirectorSetup} {planned : List Task} {plan : Plan}
    {run : Run} (h : run.ledger.results.map (·.task) = planned) (seen : Director) :
    (answerOf setup seen plan run).Counts planned run.ledger.results := by
  have htotal : planned.length = run.ledger.results.length := by rw [← h, List.length_map]
  refine ⟨h, ?_, ?_, fun names hnames => ?_⟩
  · simp [answerOf, Merge.answer, Merge.metadata, Dict.ofEntries, Dict.putAll,
      Dict.value?_put_of_ne, htotal]
  · simp [answerOf, Merge.answer, Merge.metadata, Dict.ofEntries, Dict.putAll,
      Dict.value?_put_of_ne]
  · simp [answerOf, Merge.answer, Merge.metadata, Dict.ofEntries, Dict.putAll,
      Dict.value?_put_of_ne] at hnames ⊢
    simp [← hnames]

namespace House

variable {ι : Type} [DecidableEq ι]

/-- A guest was answered by one of its own moves: its run had finished all tasks that were planned
for the session that it had found, and the answer counts them. -/
def Accounts (setup : DirectorSetup) (house : House ι) (moves : List (Move ι)) (who : ι)
    (visit : Visit) (answer : Answer) : Prop :=
  ∃ before deed after found done, moves = before ++ .act who deed :: after ∧
    house.EndsBy setup who (.ok answer) before deed after ∧
    (house.run setup before).Finishes setup (house.run setup (before ++ [.act who deed])) who visit
      found done ∧
    answer.Counts (setup.planner.plan visit.action (found.apply visit.snapshot) visit.draw).tasks
      done.ledger.results

theorem accounts_of_result? {setup : DirectorSetup} (engine : Engine) (visits : ι → Visit)
    {moves : List (Move ι)} {who : ι} {answer : Answer}
    (hanswered : (((opening engine visits).run setup moves).guests who).visit.result? =
      some (.ok answer)) :
    (opening engine visits).Accounts setup moves who (visits who) answer := by
  obtain ⟨before, deed, after, hmoves, hends, found, done, plan, director, hfinishes, -, rfl⟩ :=
    exists_finishes engine visits hanswered
  obtain ⟨_, _, _, _, _, -, -, -, hboundary⟩ := id hfinishes
  have hresults := hboundary.tasks
  rw [List.append_nil] at hresults
  exact ⟨before, deed, after, found, done, hmoves, hends, hfinishes,
    Visit.counts_answerOf hresults director⟩

/-- A look at a guest's visit is a few of its moves. -/
theorem exists_looked (setup : DirectorSetup) (house : House ι) (who : ι) (cancelled : Bool)
    (hnew : (house.guests who).visit.stage = .fresh → (house.guests who).shown = none) :
    ∃ moves, let after := house.run setup moves
      (after.director, (after.guests who).visit) =
          (house.guests who).visit.look setup cancelled house.director ∧
        ∀ other, other ≠ who → after.guests other = house.guests other := by
  cases cancelled with
  | false =>
      refine ⟨[.act who .find, .act who .ask, .act who .takeUp, .act who .work], ?_, ?_⟩
      · simpa [run, step, moved, Guest.does] using
          Guest.look_eq setup house.director (house.guests who) hnew
      · intro other hother
        simp [run, step, moved, hother]
  | true =>
      refine ⟨[.act who .giveUp], ?_, ?_⟩
      · simp only [run, List.foldl_cons, List.foldl_nil, step, moved, Guest.does,
          Function.update_self]
        unfold Guest.giveUp
        split
        case h_1 hfresh hshown =>
            rw [hnew hfresh] at hshown
            cases hshown
        case h_2 => rfl
      · intro other hother
        simp [run, step, moved, hother]

end House

/-! ### Items and guests -/

namespace Command

/-- The visit with which a command comes; only an action comes with one of its own. -/
def visit : Command → Visit
  | .act session action snapshot draw _ => { session, action, snapshot, draw }
  | .openSession session _ | .endSession session =>
    { session, action := { text := "" }, snapshot := {} }
  | .shutDown => { session := ⟨0⟩, action := { text := "" }, snapshot := {} }

theorem visit_eq (command : Command) {visit : Visit} {cancelAfter : Option Duration}
    (h : command.request = .act visit cancelAfter) :
    command.visit = visit ∧ visit.errand = visit := by
  cases command with
  | act =>
      obtain ⟨rfl, -⟩ := Request.act.inj h
      exact ⟨rfl, rfl⟩
  | openSession | endSession | shutDown => cases h

/-- The visits of some commands. -/
def visits (calls : List (Instant × Command)) (i : ℕ) : Visit :=
  visit (calls[i]?.elim .shutDown fun call : Instant × Command => call.2)

theorem visits_eq {calls : List (Instant × Command)} {i : ℕ} {call : Instant × Command}
    (h : calls[i]? = some call) : visits calls i = call.2.visit := by
  simp [visits, h]

end Command

namespace Guest

/-- A guest stands where the visit of an item does. -/
structure Mirrors (guest : Guest) (item : Item) : Prop where
  /-- The visit is still to begin, -/
  ahead : item.stage = .ahead → guest.visit.stage = .fresh ∧ guest.shown = none ∧
    ∀ visit cancelAfter, item.request = .act visit cancelAfter → guest.visit = visit
  /-- or it is the guest's, -/
  acting : ∀ visit cancelAt cancelled, item.stage = .acting visit cancelAt cancelled →
    guest.visit = visit
  /-- or there is none, and the guest stands in no line. -/
  away : (∀ visit cancelAt cancelled, item.stage ≠ .acting visit cancelAt cancelled) →
    guest.place? = none
  /-- If it is over, it is over for the guest. -/
  ended : ∀ result answered, item.stage = .done (.acted result) answered →
    guest.visit.result? = some result

theorem mirrors_done {guest : Guest} (haway : guest.place? = none) (item : Item)
    {finding : Finding} (answered : Instant)
    (hended : ∀ result, finding = .acted result → guest.visit.result? = some result) :
    guest.Mirrors { item with stage := .done finding answered } where
  ahead := fun hahead => by cases hahead
  acting := fun _ _ _ hacting => by cases hacting
  away := fun _ => haway
  ended := by
    intro result _ hdone
    exact hended result (ItemStage.done.inj hdone).1

/-- A guest whose visit was looked at mirrors what comes of it. -/
theorem mirrors_ofVisit (guest : Guest) (item : Item) (cancelAt : Option Instant)
    (cancelled : Bool) (now : Instant) :
    guest.Mirrors { item with stage := .ofVisit guest.visit cancelAt cancelled now } := by
  unfold ItemStage.ofVisit
  cases hresult : guest.visit.result? with
  | some result =>
      refine mirrors_done ?_ item now fun other hother => ?_
      · rw [place?, Visit.result?_eq_some.mp hresult]
      · rw [← Finding.acted.inj hother, hresult]
  | none =>
      refine ⟨fun hahead => (by cases hahead), fun visit _ _ hacting => ?_, fun hnone => ?_,
        fun _ _ hdone => by cases hdone⟩
      · exact (ItemStage.acting.inj hacting).1
      · exact absurd rfl (hnone _ _ _)

end Guest

/-! ### Houses for commands -/

namespace Timeline

variable {setup : DirectorSetup} {director : Director} {items : List Item}

/-- A house with the same director and a guest for each item. -/
structure Housed (director : Director) (items : List Item) (house : House ℕ) : Prop where
  /-- The director is the same. -/
  director : house.director = director
  /-- Locks and guests fit together. -/
  inOrder : house.InOrder
  /-- Each item has its guest, -/
  guests : ∀ (i : ℕ) (item : Item), items[i]? = some item → (house.guests i).Mirrors item
  /-- and no one else stands in line. -/
  others : ∀ i : ℕ, items[i]? = none → (house.guests i).place? = none

/-- For commands that are still to come, the house is open and no one has moved. -/
theorem housed_opening (settings : Settings) (calls : List (Instant × Command)) :
    Housed (Director.create settings) (itemsOf calls)
      (House.opening (Engine.create settings.cache settings.run) (Command.visits calls)) where
  director := rfl
  inOrder := House.inOrder_opening _ _
  guests := by
    intro i item hitem
    rw [itemsOf, List.getElem?_map] at hitem
    obtain ⟨call, hcall, rfl⟩ := Option.map_eq_some_iff.mp hitem
    refine ⟨fun _ => ⟨rfl, rfl, fun visit cancelAfter hrequest => ?_⟩,
      (fun _ _ _ hacting => by cases hacting), fun _ => rfl, (fun _ _ hdone => by cases hdone)⟩
    obtain ⟨hvisit, herrand⟩ := call.2.visit_eq hrequest
    show (Command.visits calls i).errand = visit
    rw [Command.visits_eq hcall, hvisit, herrand]
  others := fun _ _ => rfl

section House

variable {house : House ℕ} (h : Housed director items house) {index : ℕ} {item : Item}
  (hitem : items[index]? = some item)

include h hitem

/-- One item is looked at, and no guest but its own moves. -/
theorem Housed.set {after : House ℕ} {looked : Item} (hin : after.InOrder)
    (hlooked : (after.guests index).Mirrors looked)
    (hothers : ∀ other, other ≠ index → after.guests other = house.guests other) :
    Housed after.director (items.set index looked) after where
  director := rfl
  inOrder := hin
  guests := forall_set hlooked fun i other hne hother => by
    rw [hothers i hne.symm]
    exact h.guests i other hother
  others := by
    intro i hnone
    have hbeyond : items[i]? = none := by simpa using hnone
    have hne : i ≠ index := by
      rintro rfl
      rw [hitem] at hbeyond
      cases hbeyond
    rw [hothers i hne]
    exact h.others i hbeyond

/-- An action is looked at. -/
theorem Housed.act (setup : DirectorSetup)
    (hnew : (house.guests index).visit.stage = .fresh → (house.guests index).shown = none)
    (cancelAt : Option Instant) (cancelled : Bool) :
    let done := item.act setup (house.guests index).visit cancelAt cancelled director
    ∃ moves, Housed done.1 (items.set index done.2) (house.run setup moves) := by
  obtain ⟨moves, hlook, hothers⟩ := house.exists_looked setup index cancelled hnew
  rw [h.director] at hlook
  refine ⟨moves, ?_⟩
  rw [Item.act_eq, ← hlook]
  exact h.set hitem (House.inOrder_run h.inOrder moves) (Guest.mirrors_ofVisit _ _ _ _ _) hothers

/-- Someone who is no guest makes a move, and an item is answered whose guest has not moved. -/
theorem Housed.finish (hahead : item.stage = .ahead) (setup : DirectorSetup)
    (move : House.Move ℕ) {after : Director} {finding : Finding}
    (hmove : ∀ who deed, move ≠ .act who deed)
    (hafter : (house.step setup move).director = after)
    (hfinding : ∀ result, finding ≠ .acted result) :
    ∃ moves, Housed after (items.set index (item.finish finding after).2)
      (house.run setup moves) := by
  have hguests : ∀ other, (house.step setup move).guests other = house.guests other :=
    fun other => House.guests_step_of_ne (hmove other)
  subst hafter
  refine ⟨[move], h.set hitem (House.inOrder_step h.inOrder move) ?_ fun other _ => hguests other⟩
  show ((house.step setup move).guests index).Mirrors _
  rw [hguests]
  refine Guest.mirrors_done ?_ item _ fun result hacted => absurd hacted (hfinding result)
  exact Guest.place?_of_fresh ((h.guests index item hitem).ahead hahead).1

/-- A command comes. -/
theorem Housed.begin (hahead : item.stage = .ahead) {command : Command}
    (hrequest : item.request = command.request) (setup : DirectorSetup) :
    ∃ moves, Housed (item.begin setup director).1
      (items.set index (item.begin setup director).2) (house.run setup moves) := by
  unfold Item.begin
  rw [hrequest]
  cases command with
  | openSession session turn =>
      dsimp only [Command.request]
      split
      case h_1 opened hopened =>
          refine h.finish hitem hahead setup (.openSession session turn) (by simp) ?_ (by simp)
          simp only [House.step, h.director, hopened, Item.finish]
      case h_2 error hrefused =>
          refine h.finish hitem hahead setup (.openSession session turn) (by simp) ?_ (by simp)
          simp only [House.step, h.director, hrefused, Item.finish]
  | endSession session =>
      refine h.finish hitem hahead setup (.endSession session) (by simp) ?_ (by simp)
      simp only [House.step, h.director, Command.request, Item.finish]
  | shutDown =>
      refine h.finish hitem hahead setup .shutDown (by simp) ?_ (by simp)
      simp only [House.step, h.director, Command.request, Item.finish]
  | act session action snapshot draw cancelAfter =>
      obtain ⟨-, hnew, hvisit⟩ := (h.guests index item hitem).ahead hahead
      have hact := h.act hitem setup (fun _ => hnew)
        (cancelAfter.map (director.engine.now + ·)) (decide (cancelAfter = some 0))
      rw [hvisit _ cancelAfter hrequest] at hact
      exact hact

/-- A look at an item is some moves in the house. -/
theorem Housed.step {command : Command} (hrequest : item.request = command.request)
    {stopped : Instant → Prop} {earlier : List Command} {given now : Instant}
    (hstands : command.Stands setup stopped earlier given now item.stage) :
    ∃ moves, Housed (item.look setup director).1
      (items.set index (item.look setup director).2) (house.run setup moves) := by
  have hsame : Housed director (items.set index item) (house.run setup []) := by
    rw [← h.director]
    exact h.set hitem h.inOrder (h.guests index item hitem) fun _ _ => rfl
  unfold Item.look
  cases hstage : item.stage with
  | ahead =>
      dsimp only
      split
      case isTrue => exact h.begin hitem hstage hrequest setup
      case isFalse => exact ⟨[], hsame⟩
  | acting visit cancelAt cancelled =>
      rw [hstage] at hstands
      cases hstands with
      | acting session action snapshot draw cancelAfter _ _ _ hcommand hgiven herrand hgoes
          hbegun =>
          have hguest := (h.guests index item hitem).acting visit cancelAt cancelled hstage
          have hact := h.act hitem setup
            (fun hfresh => absurd (hguest ▸ hfresh) hbegun) cancelAt cancelled
          rw [hguest] at hact
          exact hact
  | done finding answered => exact ⟨[], hsame⟩
  | reading | pausing =>
      rw [hstage] at hstands
      cases hstands

end House

/-- The clock is wound. -/
theorem Housed.wind {house : House ℕ} (h : Housed director items house) (setup : DirectorSetup)
    (instant : Instant) :
    ∃ moves, Housed { director with engine := { director.engine with now := instant } } items
      (house.run setup moves) := by
  obtain ⟨rfl, hin, hguests, hothers⟩ := h
  exact ⟨[.stir { house.director.engine with now := instant }], rfl, House.inOrder_run hin _,
    hguests, hothers⟩

end Timeline

end StoryDirector
