import Mathlib.Order.Bounds.Defs
import StoryDirector.Run.Vigil
import StoryDirector.Proofs.Run.Driving
/-!
# StoryDirector.Proofs.Run.Waiting

No word of a result is lost on those who wait for it. **A wait ends well at the instant at which the
last of what it waits for is recorded, and in vain at its deadline if something is not recorded by
then** (`Vigil.no_lost_word`). This holds in whatever order results are recorded and announced and
the wait goes on at one instant, and however often other results wake whoever waits.

The reason is in one clause of the invariant (`Vigil.Fits`): whoever is asleep although nothing is
missing any more has not heard the last word, or the last word is still to go round. So at an
instant at which no one can go on something is missing, and nothing changes that until the next
result is recorded (`Course.wind`). That the time is up is noticed at the deadline itself, because
the clock is never wound past it.
-/

namespace StoryDirector

/-- The ledger with several more results. -/
def Ledger.recordAll (ledger : Ledger) (results : List TaskResult) : Ledger where
  results := ledger.results ++ results

theorem Ledger.recordAll_concat (ledger : Ledger) (results : List TaskResult)
    (result : TaskResult) :
    ledger.recordAll (results ++ [result]) = (ledger.recordAll results).record result := by
  simp [recordAll, record]

theorem Ledger.has_recordAll {ledger : Ledger} {results : List TaskResult} {id : String} :
    (ledger.recordAll results).has id = true ↔
      ledger.has id = true ∨ ∃ result ∈ results, result.task.id = id := by
  simp [has, recordAll]

namespace Vigil

variable {start vigil after : Vigil}

/-! ### What is recorded when -/

/-- Results to come, each with the instant at which it is recorded. -/
def timeline (since : Instant) : List (Duration × TaskResult) → List (Instant × TaskResult)
  | [] => []
  | (later, result) :: rest => (since + later, result) :: timeline (since + later) rest

/-- The results that are still to come. -/
def records (vigil : Vigil) : List (Instant × TaskResult) :=
  timeline vigil.recordedAt vigil.coming

/-- There is a result of a task, in the ledger or within some time. -/
def Recorded (ledger : Ledger) (records : List (Instant × TaskResult)) (within : Instant → Prop)
    (id : String) : Prop :=
  ledger.has id = true ∨ ∃ record ∈ records, within record.1 ∧ record.2.task.id = id

theorem Recorded.mono {ledger : Ledger} {records : List (Instant × TaskResult)}
    {within wider : Instant → Prop} {id : String} (h : Recorded ledger records within id)
    (hwider : ∀ instant, within instant → wider instant) : Recorded ledger records wider id :=
  h.imp_right fun ⟨record, hmem, hwithin, hid⟩ => ⟨record, hmem, hwider _ hwithin, hid⟩

/-- All that is waited for is recorded by an instant. -/
def Met (start : Vigil) (instant : Instant) : Prop :=
  ∀ id ∈ start.ids, Recorded start.ledger start.records (· ≤ instant) id

theorem Met.mono {instant later : Instant} (h : start.Met instant) (hle : instant ≤ later) :
    start.Met later :=
  fun id hid => (h id hid).mono fun _ hbefore => Nat.le_trans hbefore hle

/-- At no instant of the wait before this one was all recorded. -/
def Vain (start : Vigil) (instant : Instant) : Prop :=
  ∀ earlier, start.since ≤ earlier → earlier < instant → ¬start.Met earlier

/-! ### The course of a wait -/

/-- How a stage fits to the wait that began as `start`. -/
inductive Fits (start vigil : Vigil) : Stage → Prop
  | awake (hvain : start.Vain vigil.now) (hintime : vigil.now ≤ start.deadline) :
      Fits start vigil .awake
  | listening {heard : Nat} (hvain : start.Vain vigil.now) (hintime : vigil.now ≤ start.deadline)
      (hheard : heard ≤ vigil.calls) : Fits start vigil (.listening heard)
  /-- Whoever sleeps although nothing is missing is about to be woken. -/
  | asleep {heard : Nat} (hvain : start.Vain vigil.now) (hintime : vigil.now ≤ start.deadline)
      (hheard : heard ≤ vigil.calls) (hmissed : start.ledger.missing start.ids ≠ [])
      (hword : vigil.ledger.missing vigil.ids = [] → heard < vigil.calls ∨ 0 < vigil.unannounced) :
      Fits start vigil (.asleep heard)
  | late (hvain : start.Vain vigil.now) (hlate : vigil.now = start.deadline)
      (hmissed : start.ledger.missing start.ids ≠ []) : Fits start vigil .late
  | met {instant : Instant} (hbegun : start.since ≤ instant) (hintime : instant ≤ start.deadline)
      (hvain : start.Vain instant) (hmet : start.Met instant) :
      Fits start vigil (.done instant (.ok ()))
  /-- What is given as missing is what is missing of the results recorded by the deadline, where of
  those recorded at the deadline itself only the first may be among them. -/
  | givenUp {made rest : List (Instant × TaskResult)} (hvain : start.Vain start.deadline)
      (hmissed : start.ledger.missing start.ids ≠ []) (hsplit : start.records = made ++ rest)
      (hmade : ∀ record ∈ made, record.1 ≤ start.deadline)
      (hrest : ∀ record ∈ rest, start.deadline ≤ record.1) :
      Fits start vigil (.done start.deadline (.error (.dependencyTimeout
        ((start.ledger.recordAll (made.map (·.2))).missing start.ids) start.limit)))

/-- A stage still fits if at the same instant word went round more often, as long as whoever sleeps
hears of what is recorded. -/
theorem Fits.mono {stage : Stage} (h : Fits start vigil stage) (hnow : after.now = vigil.now)
    (hcalls : vigil.calls ≤ after.calls)
    (hword : ∀ heard ≤ vigil.calls,
      (vigil.ledger.missing vigil.ids = [] → heard < vigil.calls ∨ 0 < vigil.unannounced) →
      after.ledger.missing after.ids = [] → heard < after.calls ∨ 0 < after.unannounced) :
    Fits start after stage := by
  cases h with
  | awake hvain hintime => exact .awake (hnow ▸ hvain) (hnow ▸ hintime)
  | listening hvain hintime hheard =>
      exact .listening (hnow ▸ hvain) (hnow ▸ hintime) (Nat.le_trans hheard hcalls)
  | asleep hvain hintime hheard hmissed hold =>
      exact .asleep (hnow ▸ hvain) (hnow ▸ hintime) (Nat.le_trans hheard hcalls) hmissed
        (hword _ hheard hold)
  | late hvain hlate hmissed => exact .late (hnow ▸ hvain) (hnow ▸ hlate) hmissed
  | met hbegun hintime hvain hmet => exact .met hbegun hintime hvain hmet
  | givenUp hvain hmissed hsplit hmade hrest => exact .givenUp hvain hmissed hsplit hmade hrest

/-- How a wait stands that began as `start`. -/
structure Course (start vigil : Vigil) : Prop where
  /-- What is waited for does not change, -/
  ids : vigil.ids = start.ids
  /-- nor does the time for it. -/
  limit : vigil.limit = start.limit
  /-- The wait goes on since it began. -/
  since : vigil.since = start.since
  /-- The clock does not go back. -/
  begun : start.since ≤ vigil.now
  /-- What is recorded is the first part of what was to come, none of it ahead of its time, -/
  made : ∃ made, start.records = made ++ vigil.records ∧
    vigil.ledger = start.ledger.recordAll (made.map (·.2)) ∧ ∀ record ∈ made, record.1 ≤ vigil.now
  /-- and the rest is not overdue. -/
  ahead : ∀ record ∈ vigil.records, vigil.now ≤ record.1
  /-- The stage fits to all this. -/
  stage : Fits start vigil vigil.stage

namespace Course

theorem deadline_eq (h : Course start vigil) : vigil.deadline = start.deadline := by
  rw [deadline, deadline, h.since, h.limit]

/-- What is in the ledger is recorded by now. -/
theorem recorded (h : Course start vigil) {id : String} (hhas : vigil.ledger.has id = true) :
    Recorded start.ledger start.records (· ≤ vigil.now) id := by
  obtain ⟨made, hsplit, hledger, hmade⟩ := h.made
  rw [hledger, Ledger.has_recordAll] at hhas
  refine hhas.imp_right ?_
  rintro ⟨result, hresult, hid⟩
  obtain ⟨record, hmem, rfl⟩ := List.mem_map.mp hresult
  exact ⟨record, hsplit ▸ List.mem_append_left _ hmem, hmade record hmem, hid⟩

/-- If nothing is missing, all is recorded by now. -/
theorem met (h : Course start vigil) (hnone : vigil.ledger.missing vigil.ids = []) :
    start.Met vigil.now := by
  rw [h.ids, Ledger.missing_eq_nil_iff] at hnone
  exact fun id hid => h.recorded (hnone id hid)

/-- What is recorded before the next result comes is in the ledger. -/
theorem missing_eq_nil (h : Course start vigil) {instant : Instant} (hmet : start.Met instant)
    (hahead : ∀ record ∈ vigil.records, instant < record.1) :
    vigil.ledger.missing vigil.ids = [] := by
  obtain ⟨made, hsplit, hledger, -⟩ := h.made
  rw [h.ids, Ledger.missing_eq_nil_iff]
  intro id hid
  rw [hledger, Ledger.has_recordAll]
  refine (hmet id hid).imp_right ?_
  rintro ⟨record, hrecord, hwithin, hname⟩
  rw [hsplit] at hrecord
  rcases List.mem_append.mp hrecord with hmade | hcoming
  · exact ⟨record.2, List.mem_map_of_mem hmade, hname⟩
  · exact absurd hwithin (Nat.not_le_of_lt (hahead record hcoming))

/-- What is missing was missing from the start. -/
theorem missed (h : Course start vigil) (hsome : vigil.ledger.missing vigil.ids ≠ []) :
    start.ledger.missing start.ids ≠ [] := by
  obtain ⟨made, -, hledger, -⟩ := h.made
  intro hnone
  refine hsome ?_
  rw [h.ids, Ledger.missing_eq_nil_iff, hledger]
  exact fun id hid => Ledger.has_recordAll.mpr (.inl (Ledger.missing_eq_nil_iff.mp hnone id hid))

/-! ### Moves -/

/-- A result is recorded. Whoever sleeps will hear of it, as it is still to be announced. -/
theorem record (h : Course start vigil) (hmove : vigil.record? = some after) :
    Course start after := by
  rw [record?] at hmove
  split at hmove
  case h_1 => cases hmove
  case h_2 later result rest hcoming =>
    obtain ⟨hdue, hafter⟩ := Option.ite_none_right_eq_some.mp hmove
    obtain rfl := Option.some.inj hafter
    have hrecords : vigil.records =
        (vigil.recordedAt + later, result) :: timeline (vigil.recordedAt + later) rest := by
      rw [records, hcoming, timeline]
    obtain ⟨made, hsplit, hledger, hmade⟩ := h.made
    refine ⟨h.ids, h.limit, h.since, h.begun,
      ⟨made ++ [(vigil.recordedAt + later, result)], ?_, ?_, ?_⟩, ?_, ?_⟩
    · rw [hsplit, hrecords, List.append_assoc]
      rfl
    · rw [List.map_append, List.map_singleton, Ledger.recordAll_concat, ← hledger]
    · intro record hrecord
      rcases List.mem_append.mp hrecord with hold | hnew
      · exact hmade record hold
      · rw [List.mem_singleton.mp hnew]
        exact hdue
    · exact fun record hrecord => h.ahead record (hrecords ▸ List.mem_cons_of_mem _ hrecord)
    · exact h.stage.mono rfl (Nat.le_refl _) fun _ _ _ _ => .inr (Nat.succ_pos _)

/-- Word goes round, more often than whoever sleeps has heard. -/
theorem announce (h : Course start vigil) (hmove : vigil.announce? = some after) :
    Course start after := by
  rw [announce?] at hmove
  split at hmove
  case h_1 => cases hmove
  case h_2 =>
    obtain rfl := Option.some.inj hmove
    exact ⟨h.ids, h.limit, h.since, h.begun, h.made, h.ahead,
      h.stage.mono rfl (Nat.le_succ _) fun _ hheard _ _ => .inl (Nat.lt_succ_of_le hheard)⟩

/-- The wait goes on. -/
theorem watch (h : Course start vigil) (hmove : vigil.watch? = some after) :
    Course start after := by
  have hstage : ∀ stage, Fits start vigil stage → Course start { vigil with stage } :=
    fun stage hfits => ⟨h.ids, h.limit, h.since, h.begun, h.made, h.ahead,
      hfits.mono rfl (Nat.le_refl _) fun _ _ hword => hword⟩
  have hfits := h.stage
  rw [watch?] at hmove
  generalize hnow : vigil.stage = stage at hfits hmove
  cases hfits with
  | awake hvain hintime =>
      obtain rfl := Option.some.inj hmove
      exact hstage _ (.listening hvain hintime (Nat.le_refl _))
  | listening hvain hintime hheard =>
      obtain rfl := Option.some.inj hmove
      refine hstage _ ?_
      split
      · rename_i hnone
        exact .met h.begun hintime hvain (h.met (List.isEmpty_iff.mp hnone))
      · rename_i hsome
        have hmissing : vigil.ledger.missing vigil.ids ≠ [] := fun hnone =>
          hsome (List.isEmpty_iff.mpr hnone)
        exact .asleep hvain hintime hheard (h.missed hmissing) fun hnone => absurd hnone hmissing
  | asleep hvain hintime hheard hmissed hword =>
      dsimp only at hmove
      split at hmove
      · obtain rfl := Option.some.inj hmove
        exact hstage _ (.awake hvain hintime)
      · obtain ⟨hdue, hafter⟩ := Option.ite_none_right_eq_some.mp hmove
        obtain rfl := Option.some.inj hafter
        rw [h.deadline_eq] at hdue
        exact hstage _ (.late hvain (Nat.le_antisymm hintime hdue) hmissed)
  | late hvain hlate hmissed =>
      obtain rfl := Option.some.inj hmove
      refine hstage _ ?_
      obtain ⟨made, hsplit, hledger, hmade⟩ := h.made
      rw [hlate, h.ids, h.limit, hledger]
      exact .givenUp (hlate ▸ hvain) hmissed hsplit (hlate ▸ hmade) (hlate ▸ h.ahead)
  | met => cases hmove
  | givenUp => cases hmove

theorem move (h : Course start vigil) {next : Move} (hmove : vigil.move? next = some after) :
    Course start after := by
  cases next with
  | record => exact h.record hmove
  | announce => exact h.announce hmove
  | watch => exact h.watch hmove

/-- Whose turn it is does not matter. -/
theorem look (h : Course start vigil) : Course start vigil.look := by
  have hasked : Course start { vigil with turns := vigil.turns.tail } :=
    ⟨h.ids, h.limit, h.since, h.begun, h.made, h.ahead,
      h.stage.mono rfl (Nat.le_refl _) fun _ _ hword => hword⟩
  rw [Vigil.look]
  generalize hnext : (vigil.turns.take 1 ++ Move.all).findSome?
    { vigil with turns := vigil.turns.tail }.move? = next
  cases next with
  | none => exact h
  | some after =>
      obtain ⟨move, -, hmove⟩ := List.exists_of_findSome?_eq_some hnext
      exact hasked.move hmove

end Course

/-! ### Settling and winding -/

/-- Every move that is made leaves less to be done. -/
theorem left_move {next : Move} (hmove : vigil.move? next = some after) :
    after.left < vigil.left := by
  cases next with
  | record =>
      rw [move?, record?] at hmove
      split at hmove
      case h_1 => cases hmove
      case h_2 hcoming =>
        obtain ⟨-, hafter⟩ := Option.ite_none_right_eq_some.mp hmove
        obtain rfl := Option.some.inj hafter
        simp only [left, hcoming, List.length_cons]
        omega
  | announce =>
      rw [move?, announce?] at hmove
      split at hmove
      case h_1 => cases hmove
      case h_2 more hmore =>
        obtain rfl := Option.some.inj hmove
        have hstage : vigil.stage.left (vigil.calls + 1) ≤ vigil.stage.left vigil.calls + 3 := by
          cases vigil.stage <;> simp only [Stage.left] <;> (repeat' split) <;> omega
        simp only [left, hmore]
        omega
  | watch =>
      rw [move?, watch?] at hmove
      simp only [left]
      generalize vigil.stage = stage at hmove ⊢
      cases stage with
      | awake =>
          obtain rfl := Option.some.inj hmove
          simp [Stage.left]
      | listening heard =>
          obtain rfl := Option.some.inj hmove
          by_cases hword : heard < vigil.calls <;>
            cases (vigil.ledger.missing vigil.ids).isEmpty <;> simp [Stage.left, hword]
      | asleep heard =>
          dsimp only at hmove
          split at hmove
          · rename_i hword
            obtain rfl := Option.some.inj hmove
            simp [Stage.left, hword]
          · rename_i hword
            obtain ⟨-, hafter⟩ := Option.ite_none_right_eq_some.mp hmove
            obtain rfl := Option.some.inj hafter
            simp [Stage.left, hword]
      | late =>
          obtain rfl := Option.some.inj hmove
          simp [Stage.left]
      | done => cases hmove

/-- No one can go on at the present instant. -/
def Silent (vigil : Vigil) : Prop :=
  ∀ next, vigil.move? next = none

theorem move?_turns (vigil : Vigil) (turns : List Move) (next : Move) :
    { vigil with turns }.move? next =
      (vigil.move? next).map fun after => { after with turns } := by
  cases next with
  | record =>
      simp only [move?, record?]
      cases vigil.coming with
      | nil => rfl
      | cons result rest =>
          dsimp only
          split <;> rfl
  | announce =>
      simp only [move?, announce?]
      cases vigil.unannounced <;> rfl
  | watch =>
      simp only [move?, watch?, deadline]
      cases vigil.stage with
      | asleep heard =>
          by_cases hword : heard < vigil.calls
          · simp [hword]
          · by_cases hlate : vigil.since + vigil.limit ≤ vigil.now <;> simp [hword, hlate]
      | _ => rfl

/-- A look makes a move, unless no one can go on. -/
theorem look_cases (vigil : Vigil) :
    vigil.look = vigil ∧ vigil.Silent ∨ vigil.look.left < vigil.left := by
  have hlook : vigil.look = ((vigil.turns.take 1 ++ Move.all).findSome?
    { vigil with turns := vigil.turns.tail }.move?).getD vigil := rfl
  rw [hlook]
  generalize hnext : (vigil.turns.take 1 ++ Move.all).findSome?
    { vigil with turns := vigil.turns.tail }.move? = next
  cases next with
  | none =>
      refine Or.inl ⟨rfl, fun next => ?_⟩
      have hmem : next ∈ vigil.turns.take 1 ++ Move.all :=
        List.mem_append_right _ (by cases next <;> decide)
      have hasked := List.findSome?_eq_none_iff.mp hnext next hmem
      rwa [move?_turns, Option.map_eq_none_iff] at hasked
  | some after =>
      obtain ⟨move, -, hmove⟩ := List.exists_of_findSome?_eq_some hnext
      have hless : after.left < { vigil with turns := vigil.turns.tail }.left := left_move hmove
      exact Or.inr hless

theorem le_of_mem_timeline {since : Instant} {coming : List (Duration × TaskResult)}
    {record : Instant × TaskResult} (h : record ∈ timeline since coming) : since ≤ record.1 := by
  induction coming generalizing since with
  | nil => cases h
  | cons first rest ih =>
      rw [timeline] at h
      rcases List.mem_cons.mp h with rfl | hrest
      · exact Nat.le_add_right _ _
      · exact Nat.le_trans (Nat.le_add_right _ _) (ih hrest)

/-- Nothing is recorded before the next alarm. -/
theorem le_of_mem_records {instant : Instant} (halarm : vigil.alarm = some instant)
    {record : Instant × TaskResult} (h : record ∈ vigil.records) : instant ≤ record.1 := by
  rw [records] at h
  rw [alarm] at halarm
  cases hcoming : vigil.coming with
  | nil =>
      rw [hcoming] at h
      cases h
  | cons first rest =>
      rw [hcoming] at h halarm
      have hfirst : vigil.recordedAt + first.1 ≤ record.1 := by
        rw [timeline] at h
        rcases List.mem_cons.mp h with rfl | hrest
        · exact Nat.le_refl _
        · exact le_of_mem_timeline hrest
      exact Nat.le_trans (Clockwork.earlier_le halarm) hfirst

/-- When no one can go on, all is announced, and whoever waits has heard the last word. -/
theorem Silent.stage (h : vigil.Silent) : vigil.unannounced = 0 ∧
    ((∃ heard, vigil.stage = .asleep heard ∧ vigil.calls ≤ heard ∧ vigil.now < vigil.deadline) ∨
      ∃ instant result, vigil.stage = .done instant result) := by
  constructor
  · have hannounce := h .announce
    rw [move?, announce?] at hannounce
    split at hannounce
    case h_1 hnone => exact hnone
    case h_2 => cases hannounce
  · have hwatch := h .watch
    rw [move?, watch?] at hwatch
    generalize vigil.stage = stage at hwatch
    cases stage with
    | asleep heard =>
        refine Or.inl ⟨heard, rfl, ?_⟩
        dsimp only at hwatch
        split at hwatch
        · cases hwatch
        · rename_i hword
          split at hwatch
          · cases hwatch
          · rename_i hearly
            exact ⟨Nat.le_of_not_lt hword, Nat.lt_of_not_le hearly⟩
    | done instant result => exact Or.inr ⟨instant, result, rfl⟩
    | awake => cases hwatch
    | listening heard => cases hwatch
    | late => cases hwatch

theorem isSome_ended_iff :
    vigil.ended.isSome = true ↔ ∃ instant result, vigil.stage = .done instant result := by
  rw [ended]
  cases vigil.stage <;> simp

/-- At every alarm someone can go on. -/
theorem not_silent_of_alarm {instant : Instant} (halarm : vigil.alarm = some instant) :
    ¬{ vigil with now := instant }.Silent := by
  intro hsilent
  rw [alarm] at halarm
  rcases Clockwork.eq_or_eq_of_earlier halarm with hnext | hdeadline
  · obtain ⟨⟨later, result⟩, hfirst, rfl⟩ := Option.map_eq_some_iff.mp hnext
    obtain ⟨rest, hcoming⟩ := List.head?_eq_some_iff.mp hfirst
    have hrecord := hsilent .record
    simp [move?, record?, hcoming] at hrecord
  · obtain ⟨hopen, hinstant⟩ := Option.ite_none_left_eq_some.mp hdeadline
    obtain rfl := Option.some.inj hinstant
    rcases hsilent.stage.2 with ⟨-, -, -, hearly⟩ | hdone
    · exact absurd hearly (Nat.lt_irrefl _)
    · exact hopen (isSome_ended_iff.mpr hdone)

/-- The clock is wound to the next alarm when no one can go on. Something is missing then, and stays
so until the next result is recorded. -/
theorem Course.wind (h : Course start vigil) (hsilent : vigil.Silent) {instant : Instant}
    (halarm : vigil.alarm = some instant) : Course start { vigil with now := instant } := by
  obtain ⟨hannounced, hstage⟩ := hsilent.stage
  have hforward : vigil.now ≤ instant := by
    refine Clockwork.le_of_earlier (fun due hdue => ?_) (fun due hdue => ?_) halarm
    · obtain ⟨⟨later, result⟩, hfirst, rfl⟩ := Option.map_eq_some_iff.mp hdue
      obtain ⟨rest, hcoming⟩ := List.head?_eq_some_iff.mp hfirst
      refine h.ahead (vigil.recordedAt + later, result) ?_
      rw [records, hcoming, timeline]
      exact List.mem_cons_self
    · obtain ⟨hopen, hinstant⟩ := Option.ite_none_left_eq_some.mp hdue
      obtain rfl := Option.some.inj hinstant
      rcases hstage with ⟨-, -, -, hearly⟩ | hdone
      · exact Nat.le_of_lt hearly
      · exact absurd (isSome_ended_iff.mpr hdone) hopen
  refine ⟨h.ids, h.limit, h.since, Nat.le_trans h.begun hforward, ?_,
    fun record hrecord => le_of_mem_records halarm hrecord, ?_⟩
  · obtain ⟨made, hsplit, hledger, hmade⟩ := h.made
    exact ⟨made, hsplit, hledger, fun record hrecord =>
      Nat.le_trans (hmade record hrecord) hforward⟩
  · have hfits := h.stage
    show Fits start { vigil with now := instant } vigil.stage
    rcases hstage with ⟨heard, hasleep, hword, -⟩ | ⟨instant, result, hdone⟩
    · rw [hasleep] at hfits ⊢
      cases hfits with
      | asleep hvain hintime hheard hmissed hhears =>
          refine .asleep (fun earlier hbegun hbefore hmet => ?_) ?_ hheard hmissed hhears
          · rcases Nat.lt_or_ge earlier vigil.now with hpast | hpresent
            · exact hvain earlier hbegun hpast hmet
            · -- Nothing was recorded since, so nothing was missing when the clock was wound.
              have hnone := h.missing_eq_nil hmet fun record hrecord =>
                Nat.lt_of_lt_of_le hbefore (le_of_mem_records halarm hrecord)
              rcases hhears hnone with hlate | howed
              · exact absurd hlate (Nat.not_lt_of_le hword)
              · exact absurd hannounced (Nat.ne_of_gt howed)
          · have hopen : ¬vigil.ended.isSome = true := by simp [ended, hasleep]
            rw [alarm, if_neg hopen] at halarm
            exact h.deadline_eq ▸ Clockwork.earlier_le_right halarm
    · rw [hdone] at hfits ⊢
      cases hfits with
      | met hbegun hintime hvain hmet => exact .met hbegun hintime hvain hmet
      | givenUp hvain hmissed hsplit hmade hrest =>
          exact .givenUp hvain hmissed hsplit hmade hrest

/-- The course of a whole wait. -/
theorem course_play (h : Course start vigil) : Course start (clockwork.play vigil) := by
  refine Clockwork.play_induction_of_settled (fun _ h => h.look) ?_ h
  intro vigil instant h hidle halarm
  rcases vigil.look_cases with ⟨hlook, hsilent⟩ | hless
  · have hvigil : clockwork.look vigil = vigil := hlook
    rw [hvigil] at halarm ⊢
    exact h.wind hsilent halarm
  · exact absurd hidle (Nat.not_le_of_lt hless)

/-- A wait is played to its end. -/
theorem isSome_ended_play (vigil : Vigil) : (clockwork.play vigil).ended.isSome = true := by
  have hsilent : clockwork.alarm (clockwork.play vigil) = none := by
    refine Clockwork.alarm_play_eq_none (P := fun _ => True) (fun _ _ => trivial) ?_
      (fun _ _ _ _ => trivial) ?_ trivial
    · intro vigil _
      rcases vigil.look_cases with ⟨hlook, -⟩ | hless
      · exact Nat.le_of_eq (congrArg left hlook)
      · exact Nat.le_of_lt hless
    · intro vigil instant _ halarm
      rcases { vigil with now := instant }.look_cases with ⟨-, hsilent⟩ | hless
      · exact absurd hsilent (not_silent_of_alarm halarm)
      · exact hless
  refine Decidable.byContradiction fun hopen => ?_
  have halarm : (clockwork.play vigil).alarm = none := hsilent
  rw [alarm, if_neg hopen] at halarm
  exact Clockwork.earlier_some_ne_none _ _ halarm

theorem course_begin (ledger : Ledger) (now : Instant) (ids : List String) (limit : Duration)
    (coming : List (Duration × TaskResult)) (turns : List Move) :
    Course (begin ledger now ids limit coming turns) (begin ledger now ids limit coming turns) where
  ids := rfl
  limit := rfl
  since := rfl
  begun := Nat.le_refl _
  made := ⟨[], rfl, by simp [Ledger.recordAll], fun _ h => by cases h⟩
  ahead := fun _ h => le_of_mem_timeline h
  stage := .awake (fun _ hbegun hbefore => absurd hbegun (Nat.not_le_of_lt hbefore))
    (Nat.le_add_right _ _)

/-- **No word is lost on those who wait.** Whatever is in the ledger when a wait begins, whatever is
recorded while it goes on, and in whatever order things go on at one instant: the wait ends, and not
after its deadline. If all that is waited for is recorded before the deadline, it ends well, at the
earliest instant from its beginning on at which all is recorded. If something is not recorded by the
deadline, it ends at the deadline and names what is missing then, in the order in which it was asked
for; of the results that are recorded at this very instant the first may be known already. -/
theorem no_lost_word (ledger : Ledger) (now : Instant) (ids : List String) (limit : Duration)
    (coming : List (Duration × TaskResult)) (turns : List Move) :
    let waited := clockwork.play (begin ledger now ids limit coming turns)
    let records := timeline now coming
    let deadline := now + limit
    (∃ instant result, waited.ended = some (instant, result) ∧ instant ≤ deadline) ∧
    ((∀ id ∈ ids, Recorded ledger records (· < deadline) id) →
      ∃ instant, waited.ended = some (instant, .ok ()) ∧
        IsLeast {instant | now ≤ instant ∧
          ∀ id ∈ ids, Recorded ledger records (· ≤ instant) id} instant) ∧
    ((∃ id ∈ ids, ¬Recorded ledger records (· ≤ deadline) id) →
      ∃ made rest, records = made ++ rest ∧ (∀ record ∈ made, record.1 ≤ deadline) ∧
        (∀ record ∈ rest, deadline ≤ record.1) ∧
        waited.ended = some (deadline, .error (.dependencyTimeout
          ((ledger.recordAll (made.map (·.2))).missing ids) limit))) := by
  intro waited records deadline
  let start := begin ledger now ids limit coming turns
  have hcourse : Course start waited := course_play (course_begin _ _ _ _ _ _)
  obtain ⟨ended, result, hstage⟩ := isSome_ended_iff.mp (isSome_ended_play start)
  have hended : waited.ended = some (ended, result) := by rw [Vigil.ended, hstage]
  have hfits := hcourse.stage
  rw [hstage] at hfits
  cases hfits with
  | met hbegun hintime hvain hmet =>
      refine ⟨⟨_, _, hended, hintime⟩, fun _ => ⟨_, hended, ⟨hbegun, hmet⟩, ?_⟩, ?_⟩
      · rintro instant ⟨hsince, hall⟩
        exact Nat.le_of_not_lt fun hless => hvain instant hsince hless hall
      · rintro ⟨id, hid, hnot⟩
        exact absurd (hmet.mono hintime id hid) hnot
  | givenUp hvain hmissed hsplit hmade hrest =>
      refine ⟨⟨_, _, hended, Nat.le_refl _⟩, fun hall => ?_,
        fun _ => ⟨_, _, hsplit, hmade, hrest, hended⟩⟩
      rcases Nat.eq_zero_or_pos limit with rfl | hpositive
      · -- There was no time for anything to be recorded, and yet something was missing.
        refine absurd (Ledger.missing_eq_nil_iff.mpr fun id hid => ?_) hmissed
        rcases hall id hid with hhas | ⟨record, hrecord, hbefore, -⟩
        · exact hhas
        · exact absurd hbefore (Nat.not_lt_of_le (le_of_mem_timeline hrecord))
      · have hlonger : now < deadline := Nat.lt_add_of_pos_right hpositive
        exact absurd
          (fun id hid => (hall id hid).mono fun _ hbefore => Nat.le_sub_one_of_lt hbefore)
          (hvain (deadline - 1) (Nat.le_sub_one_of_lt hlonger)
            (Nat.sub_one_lt_of_lt hlonger))

/-- Two wait for a check that is recorded after four seconds. Right at the start another result is
recorded, after they began to listen and before they look, and word of it goes round when they are
asleep. Who has the time wakes for nothing and then in time, and who gives up after three seconds
names the check, as often as it was asked for. -/
theorem no_lost_word_between :
    let check : TaskResult := { task := { id := "check", name := "Check", mode := .sequential } }
    let other : TaskResult := { task := { id := "other", name := "Other", mode := .sequential } }
    let coming := [(0, other), (4, check)]
    let turns := [.watch, .record, .watch, .announce]
    let patient := clockwork.play (begin {} 0 ["check"] 30 coming turns)
    let hasty := clockwork.play (begin {} 0 ["check", "other", "check"] 3 coming turns)
    (∀ id ∈ ["check"], Recorded {} (timeline 0 coming) (· < 0 + 30) id) ∧
      patient.ended = some (4, .ok ()) ∧
      IsLeast {instant | 0 ≤ instant ∧
        ∀ id ∈ ["check"], Recorded {} (timeline 0 coming) (· ≤ instant) id} 4 ∧
      (∃ id ∈ ["check", "other", "check"], ¬Recorded {} (timeline 0 coming) (· ≤ 0 + 3) id) ∧
      (∃ made rest, timeline 0 coming = made ++ rest ∧ (∀ record ∈ made, record.1 ≤ 0 + 3) ∧
        (∀ record ∈ rest, 0 + 3 ≤ record.1) ∧
        hasty.ended = some (0 + 3, .error (.dependencyTimeout
          ((Ledger.recordAll {} (made.map (·.2))).missing ["check", "other", "check"]) 3))) ∧
      hasty.ended = some (3, .error (.dependencyTimeout ["check", "check"] 3)) := by
  intro check other coming turns patient hasty
  have hintime : ∀ id ∈ ["check"], Recorded {} (timeline 0 coming) (· < 0 + 30) id := by
    simp [Recorded, timeline, coming, check]
  have hnever : ∃ id ∈ ["check", "other", "check"],
      ¬Recorded {} (timeline 0 coming) (· ≤ 0 + 3) id :=
    ⟨"check", List.mem_cons_self, by simp [Recorded, timeline, coming, other, Ledger.has]⟩
  have hpatient : patient.ended = some (4, .ok ()) := by
    simp only [patient, coming, turns, check, other]
    rfl
  have hhasty : hasty.ended = some (3, .error (.dependencyTimeout ["check", "check"] 3)) := by
    simp only [hasty, coming, turns, check, other]
    rfl
  obtain ⟨instant, hended, hleast⟩ :=
    (no_lost_word {} 0 ["check"] 30 coming turns).2.1 hintime
  obtain ⟨rfl, -⟩ := Prod.mk.inj (Option.some.inj (hended.symm.trans hpatient))
  exact ⟨hintime, hpatient, hleast, hnever,
    (no_lost_word {} 0 ["check", "other", "check"] 3 coming turns).2.2 hnever, hhasty⟩

/-- A run asks the ledger at every look whether a wait is over. Whoever waits as above and finds
nothing else to be done comes to the same. -/
theorem ended_settle (ledger : Ledger) (ids : List String) (limit : Duration)
    (since now : Instant) :
    (clockwork.settle
        { now, ledger, ids, limit, since, recordedAt := since, coming := [] }).ended =
      (ledger.wait? ids limit since now).map fun result => (now, result) := by
  by_cases hmissing : ledger.missing ids = []
  · simp [Clockwork.settle, Clockwork.settleWithin, clockwork, look, left, Stage.left, Move.all,
      List.findSome?, move?, record?, announce?, watch?, ended, Ledger.wait?, hmissing]
  · by_cases hlate : since + limit ≤ now <;>
      simp [Clockwork.settle, Clockwork.settleWithin, clockwork, look, left, Stage.left, Move.all,
        List.findSome?, move?, record?, announce?, watch?, deadline, ended, Ledger.wait?, hmissing,
        hlate]

end Vigil

end StoryDirector
