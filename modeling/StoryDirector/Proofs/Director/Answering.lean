import StoryDirector.Proofs.Director.Housing
/-!
# StoryDirector.Proofs.Director.Answering

**Every command that is given to a director is answered, and as it should be**
(`Timeline.commands_answered`), whatever the workers do, however visits interleave, and whether or
not callers cancel or the director is shut down on the way.

No look leaves more to be done than before, and one at which an alarm is due leaves less
(`Item.Lessens`), so in the end no alarm is set. What could be left are visits that wait for a lock.
But then the lock is owned by someone who stands in line for it (`Seating.exists_owner`), who would
have gone in at the last look, at which nothing was done (`Housed.isDone`).
-/

namespace StoryDirector

/-- Where someone stands in line, someone in line owns the lock. -/
theorem Seating.exists_owner {ι : Type} {locks : Nat → Option Lock} {next : Nat}
    {places : ι → Option (Nat × Nat)} (h : Seating locks next places) {who : ι} {room ticket : Nat}
    (hplace : places who = some (room, ticket)) :
    ∃ other number lock, places other = some (room, number) ∧ locks room = some lock ∧
      lock.ownedBy number = true := by
  obtain ⟨lock, hlock⟩ := (h.given who room ticket hplace).1
  rcases h.free_or_owned hlock with hfree | ⟨other, number, hother, howned⟩
  · obtain ⟨line, rfl, -, hline⟩ := h.lines room lock hlock
    have hnone : line = [] := List.head?_eq_none_iff.mp hfree
    have hmem := (hline ticket).mpr ⟨who, hplace⟩
    rw [hnone] at hmem
    exact absurd hmem List.not_mem_nil
  · exact ⟨other, number, lock, hother, hlock, howned⟩

/-- In a sum, one count takes the place of another. -/
theorem Clockwork.total_set {counts : List Nat} {index old : Nat} (h : counts[index]? = some old)
    (new : Nat) : total (counts.set index new) + old = total counts + new := by
  induction counts generalizing index with
  | nil => cases h
  | cons first rest ih =>
      cases index with
      | zero =>
          obtain rfl := Option.some.inj h
          simp only [List.set_cons_zero, total_cons]
          omega
      | succ index =>
          have hrest := ih (List.getElem?_cons_succ.symm.trans h)
          simp only [List.set_cons_succ, total_cons]
          omega

/-- Whoever runs has an alarm set. -/
theorem Visit.Ongoing.alarm_ne_none {setup : DirectorSetup} {visit : Visit}
    (h : visit.Ongoing setup) {room ticket : Nat} {plan : Plan} {run : Run}
    (hrunning : visit.stage = .running room ticket plan run) : visit.alarm setup ≠ none := by
  obtain ⟨hbusy, found, hworking⟩ := h room ticket plan run hrunning
  rw [alarm, hrunning]
  intro hnone
  have hfinished := Run.finished_of_silent hworking.orderly hnone
  simp [Run.isBusy, hfinished] at hbusy

/-! ### What is left for an item -/

namespace Item

variable {setup : DirectorSetup} {director : Director} {item : Item}

/-- The item is answered. -/
def IsDone (item : Item) : Prop :=
  ∃ finding answered, item.stage = .done finding answered

/-- The item waits for the lock of a room under a number. -/
def WaitsAt (item : Item) (room ticket : Nat) : Prop :=
  ∃ visit cancelAt cancelled, item.stage = .acting visit cancelAt cancelled ∧
    visit.stage = .queued room ticket

/-- If the item waits for a lock, the lock is not its own. -/
def Stuck (director : Director) (item : Item) : Prop :=
  ∀ room ticket, item.WaitsAt room ticket → director.owns room ticket = false

theorem Stuck.congr {other : Director} (h : item.Stuck director)
    (hrooms : director.rooms = other.rooms) : item.Stuck other := by
  intro room ticket hwaits
  rw [Director.owns, ← hrooms]
  exact h room ticket hwaits

theorem stuck_of_not_acting
    (h : ∀ visit cancelAt cancelled, item.stage ≠ .acting visit cancelAt cancelled) :
    item.Stuck director := by
  rintro room ticket ⟨visit, cancelAt, cancelled, hacting, -⟩
  exact absurd hacting (h visit cancelAt cancelled)

/-- A look at an item gets something done, or it gets nothing done and changes nothing. -/
structure Lessens (setup : DirectorSetup) (director : Director) (item : Item)
    (done : Director × Item) : Prop where
  /-- No more is left to be done than before, -/
  left : done.2.left ≤ item.left
  /-- and less if an alarm is due. -/
  due : ∀ instant, item.alarm setup = some instant → instant ≤ director.engine.now →
    done.2.left < item.left
  /-- If as much is left, the rooms are as they were, and the item has to wait. -/
  idle : done.2.left = item.left → done.1.rooms = director.rooms ∧ done.2.Stuck director

theorem lessens_of_lt {done : Director × Item} (h : done.2.left < item.left) :
    item.Lessens setup director done :=
  ⟨Nat.le_of_lt h, fun _ _ _ => h, fun hsame => absurd hsame (Nat.ne_of_lt h)⟩

theorem lessens_act {visit : Visit} {cancelAt : Option Instant} {cancelled : Bool}
    (hstage : item.stage = .acting visit cancelAt cancelled) (hgoes : visit.result? = none)
    (hongoing : visit.Ongoing setup) :
    item.Lessens setup director (item.act setup visit cancelAt cancelled director) := by
  have hlooked := Visit.looked_look hongoing cancelled director
  have hsteady := hlooked.steady
  have hleft := hlooked.left_le
  have hbefore : item.left = visit.left + if cancelled then 0 else 1 := by rw [left, hstage]
  rw [act_eq]
  generalize visit.look setup cancelled director = seen at hlooked hsteady hleft
  dsimp only
  unfold ItemStage.ofVisit
  cases hresult : seen.2.result? with
  | some result =>
      refine lessens_of_lt (hbefore ▸ ?_)
      exact Nat.add_pos_left (Visit.left_pos hgoes) _
  | none =>
      dsimp only
      generalize hflag : (cancelled || cancelAt.any fun instant =>
        decide (instant ≤ seen.1.engine.now)) = flag
      have hafter : left { item with stage := .acting seen.2 cancelAt flag } =
          seen.2.left + if flag then 0 else 1 := rfl
      have hkept : (if flag then 0 else 1) ≤ if cancelled then 0 else 1 := by
        cases cancelled with
        | false => split <;> simp
        | true => simp [← hflag]
      refine ⟨?_, fun instant hset hover => ?_, fun hsame => ?_⟩
      · rw [hafter, hbefore]
        omega
      · rw [hafter, hbefore]
        rw [alarm, hstage] at hset
        -- What is due is the visit's alarm, or the caller cancels now.
        rcases Clockwork.eq_or_eq_of_earlier hset with hvisit | hcaller
        · have hless := hlooked.left_lt hvisit hover
          omega
        · obtain ⟨hnot, rfl⟩ := Option.ite_none_left_eq_some.mp hcaller
          have hcancels : flag = true := by
            rw [← hflag, hsteady.now]
            simp [hover]
          rw [hcancels, if_pos rfl, if_neg hnot]
          omega
      · rw [hafter, hbefore] at hsame
        obtain ⟨hrooms, hwaits⟩ := hlooked.idle hresult (by omega)
        refine ⟨hrooms, ?_⟩
        rintro room ticket ⟨other, _, _, hother, hqueued⟩
        obtain ⟨rfl, -, -⟩ := ItemStage.acting.inj hother
        exact hwaits room ticket hqueued

/-- A command that comes has more left to be done before than after. -/
theorem left_begin_lt {command : Command} (hrequest : item.request = command.request)
    (hahead : item.stage = .ahead) : (item.begin setup director).2.left < item.left := by
  have hbefore : item.left = Visit.planAllowance + 5 := by rw [left, hahead]
  rw [hbefore]
  unfold begin
  rw [hrequest]
  cases command with
  | openSession session turn =>
      dsimp only [Command.request]
      split <;> exact Nat.succ_pos _
  | endSession | shutDown => exact Nat.succ_pos _
  | act session action snapshot draw cancelAfter =>
      dsimp only [Command.request]
      rw [act_eq]
      have hongoing : Visit.Ongoing setup { session, action, snapshot, draw } :=
        fun _ _ _ _ hrunning => by cases hrunning
      have hleft := (Visit.looked_look hongoing (decide (cancelAfter = some 0)) director).left_le
      generalize Visit.look { session, action, snapshot, draw } setup _ director = seen at hleft
      have hfresh : Visit.left { session, action, snapshot, draw } = Visit.planAllowance + 3 := rfl
      dsimp only
      unfold ItemStage.ofVisit
      split
      · exact Nat.succ_pos _
      · show seen.2.left + _ < _
        split <;> omega

/-- An item that has no alarm set is answered, or it waits for a lock. -/
theorem isDone_or_waitsAt {command : Command} {stopped : Instant → Prop} {earlier : List Command}
    {given now : Instant} (hstands : command.Stands setup stopped earlier given now item.stage)
    (hsilent : item.alarm setup = none) :
    item.IsDone ∨ ∃ room ticket, item.WaitsAt room ticket := by
  cases hstage : item.stage with
  | done finding answered => exact Or.inl ⟨finding, answered, hstage⟩
  | ahead => simp [alarm, hstage] at hsilent
  | acting visit cancelAt cancelled =>
      rw [hstage] at hstands
      rw [alarm, hstage] at hsilent
      cases hstands with
      | acting session action snapshot draw cancelAfter _ _ _ hcommand hgiven herrand hgoes hbegun
          hongoing =>
          cases hvisit : visit.stage with
          | queued room ticket => exact Or.inr ⟨room, ticket, _, _, _, hstage, hvisit⟩
          | fresh => exact absurd hvisit hbegun
          | «over» result => simp [Visit.result?, hvisit] at hgoes
          | running room ticket plan run =>
              have hset := hongoing.alarm_ne_none hvisit
              exact absurd hsilent (Clockwork.earlier_ne_none hset _)
  | reading | pausing =>
      rw [hstage] at hstands
      cases hstands

theorem lessens_look {command : Command} {stopped : Instant → Prop} {earlier : List Command}
    {given now : Instant} (hrequest : item.request = command.request)
    (hstands : command.Stands setup stopped earlier given now item.stage) :
    item.Lessens setup director (item.look setup director) := by
  unfold look
  cases hstage : item.stage with
  | ahead =>
      dsimp only
      split
      case isTrue => exact lessens_of_lt (left_begin_lt hrequest hstage)
      case isFalse hearly =>
          refine ⟨Nat.le_refl _, fun instant hset hover => ?_, fun _ =>
            ⟨rfl, stuck_of_not_acting (by simp [hstage])⟩⟩
          rw [alarm, hstage] at hset
          obtain rfl := Option.some.inj hset
          exact absurd hover hearly
  | acting visit cancelAt cancelled =>
      rw [hstage] at hstands
      cases hstands with
      | acting session action snapshot draw cancelAfter _ _ _ hcommand hgiven herrand hgoes hbegun
          hongoing => exact lessens_act hstage hgoes hongoing
  | done finding answered =>
      refine ⟨Nat.le_refl _, fun instant hset => ?_, fun _ =>
        ⟨rfl, stuck_of_not_acting (by simp [hstage])⟩⟩
      simp [alarm, hstage] at hset
  | reading | pausing =>
      rw [hstage] at hstands
      cases hstands

end Item

namespace Timeline

variable {setup : DirectorSetup} {calls : List (Instant × Command)} {director : Director}
  {items : List Item}

/-! ### Who waits for whom -/

/-- The guest of an item that waits for a lock stands in line for it. -/
theorem Housed.place?_of_waitsAt {house : House ℕ} (h : Housed director items house) {i : ℕ}
    {item : Item} (hitem : items[i]? = some item) {room ticket : Nat}
    (hwaits : item.WaitsAt room ticket) : (house.guests i).place? = some (room, ticket) := by
  obtain ⟨visit, cancelAt, cancelled, hacting, hqueued⟩ := hwaits
  refine Guest.place?_of_queued ?_
  rw [(h.guests i item hitem).acting visit cancelAt cancelled hacting]
  exact hqueued

/-- Where all who are not answered wait for locks that others own, no one waits: whoever owns such a
lock would wait for it as well. -/
theorem Housed.isDone {house : House ℕ} (h : Housed director items house)
    (hends : ∀ (i : ℕ) (item : Item), items[i]? = some item →
      item.IsDone ∨ ∃ room ticket, item.WaitsAt room ticket)
    (hstuck : ∀ (i : ℕ) (item : Item), items[i]? = some item → item.Stuck director) {i : ℕ}
    {item : Item} (hitem : items[i]? = some item) : item.IsDone := by
  refine (hends i item hitem).resolve_right ?_
  rintro ⟨room, ticket, hwaits⟩
  obtain ⟨j, number, lock, howner, hlock, howned⟩ :=
    h.inOrder.seating.exists_owner (h.place?_of_waitsAt hitem hwaits)
  cases hother : items[j]? with
  | none => cases (h.others j hother).symm.trans howner
  | some other =>
      rcases hends j other hother with ⟨finding, answered, hdone⟩ | ⟨elsewhere, held, hwaiting⟩
      · cases ((h.guests j other hother).away (by simp [hdone])).symm.trans howner
      · obtain ⟨rfl, rfl⟩ := Prod.mk.inj (Option.some.inj
          ((h.place?_of_waitsAt hother hwaiting).symm.trans howner))
        have howns : director.owns elsewhere held = true := by
          rw [← h.director]
          exact (Director.owns_iff _).mpr ⟨lock, hlock, howned⟩
        cases howns.symm.trans (hstuck j other hother elsewhere held hwaiting)

/-! ### What a look at all items gets done -/

theorem length_lookItems (setup : DirectorSetup) (items : List Item) (director : Director) :
    (lookItems setup items director).2.length = items.length := by
  induction items generalizing director with
  | nil => rfl
  | cons item rest ih => simp [lookItems, ih]

/-- What is left for some items. -/
def left (items : List Item) : Nat :=
  Clockwork.total (items.map Item.left)

theorem left_set {index : Nat} {item : Item} (h : items[index]? = some item) (looked : Item) :
    left (items.set index looked) + item.left = left items + looked.left := by
  have hcount : (items.map Item.left)[index]? = some item.left := by simp [h]
  rw [left, List.map_set]
  exact Clockwork.total_set hcount looked.left

/-- A look at the first items that got nothing done: nothing was due, nothing has changed, and those
of them that wait for a lock have to. -/
structure Idle (setup : DirectorSetup) (director : Director) (items : List Item) (index : Nat)
    (after : Director) (looked : List Item) : Prop where
  /-- The rooms are as they were. -/
  rooms : after.rooms = director.rooms
  /-- The others are yet to be looked at. -/
  rest : ∀ i : Nat, index ≤ i → looked[i]? = items[i]?
  /-- Nothing was due. -/
  early : ∀ (i : Nat) (item : Item) (instant : Instant), i < index → items[i]? = some item →
    item.alarm setup = some instant → director.engine.now < instant
  /-- Whoever waits does not own the lock. -/
  stuck : ∀ (i : Nat) (item : Item), i < index → looked[i]? = some item → item.Stuck director

/-- A look at the first items gets something done, or it is idle. -/
structure Lessens (setup : DirectorSetup) (director : Director) (items : List Item) (index : Nat)
    (after : Director) (looked : List Item) : Prop where
  /-- No time has passed. -/
  now : after.engine.now = director.engine.now
  /-- No more is left to be done than before. -/
  left : left looked ≤ left items
  /-- If as much is left, nothing was done. -/
  idle : Timeline.left looked = Timeline.left items → Idle setup director items index after looked

/-- A look at the next item. -/
theorem Lessens.step {index : Nat} {after : Director} {looked : List Item}
    (h : Lessens setup director items index after looked) {item : Item}
    (hitem : looked[index]? = some item)
    (hlessens : item.Lessens setup after (item.look setup after))
    (hnow : (item.look setup after).1.engine.now = after.engine.now) :
    Lessens setup director items (index + 1) (item.look setup after).1
      (looked.set index (item.look setup after).2) := by
  have hset := left_set hitem (item.look setup after).2
  have hleft := hlessens.left
  have hbefore := h.left
  refine ⟨hnow.trans h.now, by omega, fun hsame => ?_⟩
  -- As much is left for this item, and as much for the others.
  obtain ⟨hrooms, hstuck⟩ := hlessens.idle (by omega)
  have hidle := h.idle (by omega)
  refine ⟨hrooms.trans hidle.rooms, fun i hlt => ?_,
    fun i other instant hlt hother halarm => ?_, ?_⟩
  · rw [List.getElem?_set_ne (by omega)]
    exact hidle.rest i (by omega)
  · rcases Nat.lt_or_eq_of_le (Nat.le_of_lt_succ hlt) with hless | rfl
    · exact hidle.early i other instant hless hother halarm
    · rw [hidle.rest i (Nat.le_refl i), hother] at hitem
      obtain rfl := Option.some.inj hitem
      refine Nat.lt_of_not_le fun hover => ?_
      have hless := hlessens.due instant halarm (h.now.symm ▸ hover)
      omega
  · intro i other hlt hother
    refine forall_set (Q := fun i other => i < index + 1 → other.Stuck director)
      (fun _ => hstuck.congr hidle.rooms) ?_ i other hother hlt
    exact fun i other hne hother hlt => hidle.stuck i other (by omega) hother

/-- A look at all items. -/
theorem Serving.lessens_look (hsorted : calls.Pairwise fun one other => one.1 ≤ other.1)
    (h : Serving setup calls director items) :
    Lessens setup director items items.length (lookItems setup items director).1
      (lookItems setup items director).2 := by
  refine (lookItems_induction (P := fun index after looked =>
    Passing setup calls index after looked ∧ Lessens setup director items index after looked)
    ?_ ⟨⟨h, fun _ hlt => absurd hlt (Nat.not_lt_zero _)⟩, rfl, Nat.le_refl _, fun _ =>
      ⟨rfl, fun _ _ => rfl, fun _ _ _ hlt => absurd hlt (Nat.not_lt_zero _),
        fun _ _ hlt => absurd hlt (Nat.not_lt_zero _)⟩⟩).2
  rintro index after looked item ⟨hpassing, hlessens⟩ hitem
  obtain ⟨command, hcall, hrequest⟩ := hpassing.serving.exists_command hitem
  obtain ⟨_, _, hserved⟩ := hpassing.served hsorted hitem
  have hstands := hpassing.serving.stands index item _ command hitem hcall
  exact ⟨hpassing.step hsorted hitem,
    hlessens.step hitem (Item.lessens_look hrequest hstands) hserved.now⟩

/-! ### The end -/

section Play

variable {start : House ℕ} (hsorted : calls.Pairwise fun one other => one.1 ≤ other.1)

/-- A timeline on which commands are served, and a house that has come to it by some moves. -/
def Runs (setup : DirectorSetup) (calls : List (Instant × Command)) (start : House ℕ)
    (timeline : Timeline) : Prop :=
  Serving setup calls timeline.director timeline.items ∧
    ∃ moves, Housed timeline.director timeline.items (start.run setup moves)

include hsorted

theorem Runs.look {timeline : Timeline} (h : Runs setup calls start timeline) :
    Runs setup calls start (Timeline.look setup timeline) := by
  obtain ⟨hserving, hhoused⟩ := h
  refine ⟨(hserving.look hsorted).serving, ?_⟩
  refine (lookItems_induction (P := fun index director items =>
    Passing setup calls index director items ∧
      ∃ moves, Housed director items (start.run setup moves)) ?_
    ⟨⟨hserving, fun _ hlt => absurd hlt (Nat.not_lt_zero _)⟩, hhoused⟩).2
  rintro index director items item ⟨hpassing, moves, hhouse⟩ hitem
  obtain ⟨command, hcall, hrequest⟩ := hpassing.serving.exists_command hitem
  have hstands := hpassing.serving.stands index item _ command hitem hcall
  obtain ⟨more, hlooked⟩ := hhouse.step hitem hrequest hstands
  rw [← House.run_append] at hlooked
  exact ⟨hpassing.step hsorted hitem, _, hlooked⟩

omit hsorted in
theorem Runs.wind {timeline : Timeline} (h : Runs setup calls start timeline) {instant : Instant}
    (hset : (clockwork setup).alarm timeline = some instant) :
    Runs setup calls start ((clockwork setup).wind instant timeline) := by
  obtain ⟨hserving, moves, hhouse⟩ := h
  obtain ⟨more, hwound⟩ := hhouse.wind setup instant
  rw [← House.run_append] at hwound
  exact ⟨hserving.wind hset, _, hwound⟩

theorem Runs.play {timeline : Timeline} (h : Runs setup calls start timeline) :
    Runs setup calls start ((clockwork setup).play timeline) :=
  Clockwork.play_induction (fun _ h => h.look hsorted) (fun _ _ h hset => h.wind hset) _ h

/-- As long as an alarm is set, something is left to be done when it is due. -/
theorem Runs.left_look_lt {timeline : Timeline} (h : Runs setup calls start timeline)
    {instant : Instant} (hset : (clockwork setup).alarm timeline = some instant) :
    (clockwork setup).left ((clockwork setup).look ((clockwork setup).wind instant timeline)) <
      (clockwork setup).left timeline := by
  have hlessens := (h.wind hset).1.lessens_look hsorted
  refine Nat.lt_of_le_of_ne hlessens.left fun hsame => ?_
  obtain ⟨item, hitem, halarm⟩ := List.mem_map.mp (Clockwork.mem_of_earliest hset)
  obtain ⟨i, hi⟩ := List.mem_iff_getElem?.mp hitem
  have hinside := (List.getElem?_eq_some_iff.mp hi).1
  exact absurd ((hlessens.idle hsame).early i item instant hinside hi halarm) (Nat.lt_irrefl _)

/-- In the end no alarm is set. -/
theorem Runs.alarm_play_eq_none {timeline : Timeline} (h : Runs setup calls start timeline)
    {item : Item} (hitem : item ∈ ((clockwork setup).play timeline).items) :
    item.alarm setup = none := by
  have hsilent : (clockwork setup).alarm ((clockwork setup).play timeline) = none :=
    Clockwork.alarm_play_eq_none (P := Runs setup calls start) (fun _ h => h.look hsorted)
      (fun _ h => (h.1.lessens_look hsorted).left) (fun _ _ h hset => h.wind hset)
      (fun _ _ h hset => h.left_look_lt hsorted hset) h
  refine Option.eq_none_iff_forall_ne_some.mpr fun instant halarm => ?_
  have hset : some instant ∈ ((clockwork setup).play timeline).items.map (·.alarm setup) :=
    List.mem_map.mpr ⟨item, hitem, halarm⟩
  obtain ⟨soonest, hsoonest, -⟩ := Clockwork.exists_earliest hset
  cases hsilent.symm.trans hsoonest

/-- In the end those who wait for a lock have to. -/
theorem Runs.stuck_play {timeline : Timeline} (h : Runs setup calls start timeline) {i : Nat}
    {item : Item} (hitem : ((clockwork setup).play timeline).items[i]? = some item) :
    item.Stuck ((clockwork setup).play timeline).director := by
  obtain ⟨last, hlast, hplay, hidle⟩ := Clockwork.exists_look_of_play
    (fun _ h => h.look hsorted) (fun _ _ h hset => h.wind hset) h
  have hlessens := hlast.1.lessens_look hsorted
  have hstill := hlessens.idle (Nat.le_antisymm hlessens.left hidle)
  rw [hplay] at hitem ⊢
  have hinside : i < last.items.length := by
    rw [← length_lookItems setup last.items last.director]
    exact (List.getElem?_eq_some_iff.mp hitem).1
  exact (hstill.stuck i item hinside hitem).congr hstill.rooms.symm

/-- In the end every command is answered. -/
theorem Runs.isDone_play {timeline : Timeline} (h : Runs setup calls start timeline) {i : Nat}
    {item : Item} (hitem : ((clockwork setup).play timeline).items[i]? = some item) :
    item.IsDone := by
  obtain ⟨hserving, moves, hhoused⟩ := h.play hsorted
  refine hhoused.isDone (fun j other hother => ?_)
    (fun j other hother => h.stuck_play hsorted hother) hitem
  obtain ⟨command, hcall, -⟩ := hserving.exists_command hother
  exact Item.isDone_or_waitsAt (hserving.stands j other _ command hother hcall)
    (h.alarm_play_eq_none hsorted (List.mem_of_getElem? hother))

end Play

end Timeline

/-! ### After shutting down -/

namespace Item

variable {director : Director} {heard : List Hearing} (h : director.Hushed heard)

include h

theorem hushed_act (item : Item) (setup : DirectorSetup) (visit : Visit)
    (cancelAt : Option Instant) (cancelled : Bool) :
    (item.act setup visit cancelAt cancelled director).1.Hushed heard := by
  rw [act_eq]
  exact Visit.hushed_look h visit setup cancelled

theorem hushed_read (item : Item) (room ticket : Nat) :
    (item.read room ticket director).1.Hushed heard := by
  unfold read
  split
  · exact ⟨h.shutDown, h.hearings⟩
  · exact h

theorem hushed_pause (item : Item) (wake : Instant) :
    (item.pause wake director).1.Hushed heard := by
  unfold pause
  split <;> exact h

theorem hushed_begin (item : Item) (setup : DirectorSetup) :
    (item.begin setup director).1.Hushed heard := by
  unfold begin
  cases item.request with
  | openSession session turn =>
      dsimp only
      unfold Director.openSession
      cases director.hasSession session with
      | true => exact h
      | false => exact ⟨h.shutDown, h.hearings⟩
  | endSession session => exact ⟨h.shutDown, h.hearings⟩
  | readSession session =>
      dsimp only
      cases director.room? session with
      | none => exact h
      | some room =>
          have hasked : (director.askFor room).1.Hushed heard := ⟨h.shutDown, h.hearings⟩
          exact hushed_read hasked item room _
  | act visit cancelAfter => exact hushed_act h item setup visit _ _
  | pause span => exact hushed_pause h item _
  | shutDown => exact ⟨rfl, h.hearings⟩
  | askSession | readCache | readTimings => exact h

/-- Whatever is asked of a director that is shut down, no worker hears anything more. -/
theorem hushed_look (item : Item) (setup : DirectorSetup) :
    (item.look setup director).1.Hushed heard := by
  unfold look
  cases item.stage with
  | ahead =>
      dsimp only
      split
      · exact hushed_begin h item setup
      · exact h
  | acting visit cancelAt cancelled => exact hushed_act h item setup visit cancelAt cancelled
  | reading room ticket => exact hushed_read h item room ticket
  | pausing wake => exact hushed_pause h item wake
  | done finding answered => exact h

end Item

namespace Timeline

/-- Once a director is shut down, workers have heard all that they ever will. -/
theorem hearings_play_of_shutDown (setup : DirectorSetup) {timeline : Timeline}
    (hdown : timeline.director.shutDown = true) :
    ((clockwork setup).play timeline).director.engine.hearings =
      timeline.director.engine.hearings := by
  have hlook : ∀ t : Timeline, t.director.Hushed timeline.director.engine.hearings →
      (Timeline.look setup t).director.Hushed timeline.director.engine.hearings := by
    intro t h
    exact lookItems_induction (P := fun _ director _ =>
      director.Hushed timeline.director.engine.hearings)
      (fun _ _ _ item h _ => Item.hushed_look h item setup) h
  have hend : ((clockwork setup).play timeline).director.Hushed
      timeline.director.engine.hearings :=
    Clockwork.play_induction (P := fun t : Timeline =>
      t.director.Hushed timeline.director.engine.hearings) hlook
      (fun _ _ h _ => ⟨h.shutDown, h.hearings⟩) _ ⟨hdown, rfl⟩
  exact hend.hearings

/-! ### All commands -/

/-- **Every command is answered, and as it should be.** Of any commands with their instants, each is
answered in the end. A session is started exactly if it is not known, and exactly then an action on
it is refused. An action on a session that is known is cancelled only if its caller cancels it or
the director is shut down by then; otherwise a run of all that was planned for it is finished, and
the answer counts its tasks. After the director is shut down, every action on a session that is
known is cancelled, and no worker hears anything more. -/
theorem commands_answered (settings : Settings) (registry : Registry) (cascade : CascadeRules)
    (refusal : Notice → Option SinkError) (commands : List (Duration × Command)) :
    let setup := DirectorSetup.of settings registry cascade refusal
    let calls := Command.timed 0 commands
    let served := serve setup (Director.create settings)
      (calls.map fun call => (call.1, call.2.request))
    let house := House.opening (Engine.create settings.cache settings.run) (Command.visits calls)
    (∃ moves, (house.run setup moves).director = served.director ∧
      ∀ (i : Nat) (given : Instant) (command : Command), calls[i]? = some (given, command) →
        ∃ finding answered,
          served.items[i]? = some ⟨given, command.request, .done finding answered⟩ ∧
            given ≤ answered ∧ command.Answered (Command.ShutBy calls)
              (house.Accounts setup moves i) (Command.before calls i) given answered finding) ∧
    (∀ (item : Item) (director : Director), director.shutDown = true →
      (item.look setup director).1.engine.hearings = director.engine.hearings) ∧
    ∀ timeline : Timeline, timeline.director.shutDown = true →
      ((clockwork setup).play timeline).director.engine.hearings =
        timeline.director.engine.hearings := by
  intro setup calls served house
  refine ⟨?_, fun item director hdown => (Item.hushed_look ⟨hdown, rfl⟩ item setup).hearings,
    fun timeline hdown => hearings_play_of_shutDown setup hdown⟩
  have hsorted := (Command.pairwise_timed 0 commands).2
  let start : Timeline := ⟨Director.create settings, itemsOf calls⟩
  have hstart : Runs setup calls house start :=
    ⟨serving_create setup settings calls, [], housed_opening settings calls⟩
  have hserved : served = (clockwork setup).play start := by
    simp [served, serve, start, itemsOf, Director.create, Engine.create, Function.comp_def]
  have hend : Runs setup calls house served := hserved ▸ hstart.play hsorted
  obtain ⟨hserving, moves, hhoused⟩ := hend
  refine ⟨moves, hhoused.director, fun i given command hcall => ?_⟩
  obtain ⟨item, hitem, hgiven, hrequest⟩ := hserving.exists_item hcall
  obtain ⟨finding, answered, hdone⟩ := hstart.isDone_play hsorted (hserved ▸ hitem)
  have hstands := hserving.stands i item given command hitem hcall
  rw [hdone] at hstands
  cases hstands with
  | done _ _ hafter hanswered hright =>
      refine ⟨finding, answered, ?_, hafter,
        hright.counted fun visit cancelAfter answer hact hok => ?_⟩
      · rw [hitem, ← hgiven, ← hrequest, ← hdone]
      · have hover := (hhoused.guests i item hitem).ended (.ok answer) answered (hok ▸ hdone)
        rw [← (command.visit_eq hact).1, ← Command.visits_eq hcall]
        exact House.accounts_of_result? _ _ hover

end Timeline

end StoryDirector
