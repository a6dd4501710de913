import StoryDirector.Proofs.Director.Commands
/-!
# StoryDirector.Proofs.Director.Serving

Commands on the clock. **Commands begin in the order in which they were given, and each as soon as
its instant has come**, so what a command finds is what those before it have left.
`Timeline.Serving` is the invariant: the director stands as the commands that have begun have left
it, each command is as far as it should be (`Command.Stands`), and no alarm is set for the past, so
that the clock never runs backwards.
-/

namespace StoryDirector

namespace Item

variable {setup : DirectorSetup} {stopped : Instant → Prop} {earlier : List Command}
  {command : Command} {director : Director} {item : Item}

/-- Whether a command has come with a look, or had come before, or is still to come. -/
inductive Comes (earlier : List Command) (command : Command) (director : Director) (item : Item)
    (done : Director × Item) : Prop where
  /-- It is still to come. -/
  | waits (hahead : item.stage = .ahead) (hearly : director.engine.now < item.startAt)
      (hsame : done = (director, item))
  /-- It comes now, and the director heeds it. -/
  | begins (hahead : item.stage = .ahead) (hdue : item.startAt ≤ director.engine.now)
      (hafter : done.2.stage ≠ .ahead) (hheeds : done.1.Heeds (earlier ++ [command]))
  /-- It had come before. -/
  | goesOn (hbefore : item.stage ≠ .ahead) (hafter : done.2.stage ≠ .ahead)
      (hsteady : director.Steady done.1)

/-- What a look at an item comes to whose command was given after some others. -/
structure Served (setup : DirectorSetup) (stopped : Instant → Prop) (earlier : List Command)
    (command : Command) (director : Director) (item : Item) (done : Director × Item) : Prop where
  /-- The command is the same, -/
  same : done.2.startAt = item.startAt ∧ done.2.request = item.request
  /-- no time has passed, -/
  now : done.1.engine.now = director.engine.now
  /-- the command is as far as it should be, -/
  stands : command.Stands setup stopped earlier item.startAt director.engine.now done.2.stage
  /-- and if it can go on by itself, the time for it is yet to come. -/
  timely : ∀ instant, done.2.alarm setup = some instant → director.engine.now < instant
  /-- A director that is shut down was told to. -/
  shut : done.1.shutDown = true → stopped director.engine.now
  /-- The command comes in its turn. -/
  comes : item.Comes earlier command director done

theorem lt_of_alarm_ofVisit {visit : Visit} {cancelAt : Option Instant} {cancelled : Bool}
    {seen : Director × Visit} (hlooked : visit.Looked setup cancelled director seen)
    {instant : Instant}
    (hset : alarm { item with
      stage := .ofVisit seen.2 cancelAt cancelled seen.1.engine.now } setup = some instant) :
    director.engine.now < instant := by
  unfold alarm ItemStage.ofVisit at hset
  cases hresult : seen.2.result? with
  | some result =>
      rw [hresult] at hset
      cases hset
  | none =>
      rw [hresult] at hset
      refine Clockwork.le_of_earlier (fun due hdue => hlooked.lt_of_alarm hdue) ?_ hset
      intro due hdue
      obtain ⟨hflag, rfl⟩ := Option.ite_none_left_eq_some.mp hdue
      rw [Bool.or_eq_true, not_or, hlooked.steady.now] at hflag
      exact Nat.lt_of_not_le fun hover => hflag.2 (decide_eq_true hover)

/-- A look at an action that was taken up, or comes now. -/
theorem served_act {session : Uuid} {action : PlayerAction} {snapshot : Snapshot} {draw : Float32}
    {cancelAfter : Option Duration} {visit : Visit} {cancelAt : Option Instant} {cancelled : Bool}
    (h : visit.Taken setup stopped earlier item.startAt session action snapshot draw cancelAfter
      director cancelAt cancelled)
    (hcomes : item.stage ≠ .ahead ∨ item.stage = .ahead ∧ director.Heeds earlier) :
    item.Served setup stopped earlier (.act session action snapshot draw cancelAfter) director
      (item.act setup visit cancelAt cancelled director) := by
  have hlooked := Visit.looked_look h.ongoing cancelled director
  have hsteady := hlooked.steady
  have hafter : ∀ visit now, ItemStage.ofVisit visit cancelAt cancelled now ≠ .ahead := by
    intro visit now
    unfold ItemStage.ofVisit
    split <;> exact ItemStage.noConfusion
  rw [act_eq]
  refine ⟨⟨rfl, rfl⟩, hsteady.now, Command.stands_acted h hlooked,
    fun instant hset => lt_of_alarm_ofVisit hlooked hset,
    fun hdown => h.told (hsteady.shutDown.symm.trans hdown), ?_⟩
  rcases hcomes with hbefore | ⟨hahead, hheeds⟩
  · exact .goesOn hbefore (hafter _ _) hsteady
  · exact .begins hahead h.come (hafter _ _) ((hheeds.steady hsteady).acted _ _ _ _ _)

/-- A command that is answered as soon as it comes. -/
theorem served_finish {after : Director} {finding : Finding} (hahead : item.stage = .ahead)
    (hdue : item.startAt ≤ director.engine.now) (hengine : after.engine = director.engine)
    (hheeds : after.Heeds (earlier ++ [command]))
    (hshut : after.shutDown = true → stopped director.engine.now)
    (hright : command.Answered stopped (fun _ _ => True) earlier item.startAt
      director.engine.now finding) :
    item.Served setup stopped earlier command director (item.finish finding after) := by
  refine ⟨⟨rfl, rfl⟩, by rw [finish, hengine], ?_, (fun _ hset => by cases hset), hshut,
    .begins hahead hdue ItemStage.noConfusion hheeds⟩
  show Command.Stands _ _ _ _ _ _ (.done finding after.engine.now)
  rw [hengine]
  exact .done finding _ hdue (Nat.le_refl _) hright

variable (hstopped : director.shutDown = true → stopped director.engine.now)

include hstopped

/-- A look at a command that comes now. -/
theorem served_begin (hrequest : item.request = command.request) (hahead : item.stage = .ahead)
    (hdue : item.startAt ≤ director.engine.now) (hheeds : director.Heeds earlier)
    (hstop : command = .shutDown → stopped director.engine.now) :
    item.Served setup stopped earlier command director (item.begin setup director) := by
  unfold begin
  rw [hrequest]
  cases command with
  | openSession session turn =>
      dsimp only [Command.request]
      rcases hheeds.openSession setup session turn with
        ⟨hnew, opened, hopened, hengine, hafter⟩ | ⟨hknown, hrefused, hafter⟩
      · rw [hopened]
        refine served_finish hahead hdue hengine hafter (fun hdown => hstopped ?_)
          ⟨fun hknown => absurd hknown hnew, fun _ => rfl⟩
        rw [hheeds.shutDown]
        simpa using hafter.shutDown.mp hdown
      · rw [hrefused]
        exact served_finish hahead hdue rfl hafter hstopped
          ⟨fun _ => rfl, fun hnew => absurd hknown hnew⟩
  | endSession session =>
      exact served_finish hahead hdue rfl (hheeds.endSession session) hstopped
        (hheeds.sessions session)
  | act session action snapshot draw cancelAfter =>
      refine served_act ⟨hdue, rfl, rfl, (fun _ _ _ _ hrunning => by cases hrunning),
        fun _ => hheeds.sessions session, fun hbegun => absurd rfl hbegun, hheeds.shutDown.mpr,
        hstopped, fun instant hset => ?_, fun hnow => ?_⟩ (Or.inr ⟨hahead, hheeds⟩)
      · obtain ⟨span, hspan, rfl⟩ := Option.map_eq_some_iff.mp hset
        exact ⟨span, hspan, Nat.add_le_add_right hdue span⟩
      · exact ⟨0, of_decide_eq_true hnow, hdue⟩
  | shutDown => exact served_finish hahead hdue rfl hheeds.stop (fun _ => hstop rfl) rfl

/-- A look at an item whose command was given after some others. -/
theorem served_look (hrequest : item.request = command.request)
    (hstands : command.Stands setup stopped earlier item.startAt director.engine.now item.stage)
    (hheeds : item.stage = .ahead → item.startAt ≤ director.engine.now → director.Heeds earlier)
    (hshut : item.stage ≠ .ahead → .shutDown ∈ earlier → director.shutDown = true)
    (hstop : command = .shutDown → item.startAt ≤ director.engine.now →
      stopped director.engine.now) :
    item.Served setup stopped earlier command director (item.look setup director) := by
  unfold look
  cases hstage : item.stage with
  | ahead =>
      dsimp only
      split
      case isTrue hdue =>
          exact served_begin hstopped hrequest hstage hdue (hheeds hstage hdue) (hstop · hdue)
      case isFalse hearly =>
          have hlater := Nat.lt_of_not_le hearly
          refine ⟨⟨rfl, rfl⟩, rfl, hstands, fun instant hset => ?_, hstopped,
            .waits hstage hlater rfl⟩
          rw [alarm, hstage] at hset
          rwa [← Option.some.inj hset]
  | acting visit cancelAt cancelled =>
      rw [hstage] at hstands
      cases hstands with
      | acting session action snapshot draw cancelAfter _ _ _ hcommand hgiven herrand hgoes hbegun
          hongoing hknown hcancelAt hcancelled =>
          have hbefore : item.stage ≠ .ahead := by simp [hstage]
          subst hcommand
          exact served_act ⟨hgiven, herrand, hgoes, hongoing, fun hfresh => absurd hfresh hbegun,
            fun _ => hknown, hshut hbefore, hstopped, hcancelAt, hcancelled⟩ (Or.inl hbefore)
  | done finding answered =>
      refine ⟨⟨rfl, rfl⟩, rfl, hstands, fun instant hset => ?_, hstopped, ?_⟩
      · simp [alarm, hstage] at hset
      · exact .goesOn (by simp [hstage]) (by simp [hstage]) ⟨rfl, rfl, rfl⟩
  | reading room ticket =>
      rw [hstage] at hstands
      cases hstands
  | pausing wake =>
      rw [hstage] at hstands
      cases hstands

end Item

namespace Timeline

variable {setup : DirectorSetup} {calls : List (Instant × Command)} {director : Director}
  {items : List Item}

/-- What a look at one item after the other keeps, a look at all items keeps. -/
theorem lookItems_induction {P : Nat → Director → List Item → Prop}
    (hstep : ∀ index director items item, P index director items → items[index]? = some item →
      P (index + 1) (item.look setup director).1
        (items.set index (item.look setup director).2)) (h : P 0 director items) :
    P items.length (lookItems setup items director).1 (lookItems setup items director).2 := by
  have hrest : ∀ rest seen director, P seen.length director (seen ++ rest) →
      P (seen.length + rest.length) (lookItems setup rest director).1
        (seen ++ (lookItems setup rest director).2) := by
    intro rest
    induction rest with
    | nil => exact fun seen director h => h
    | cons item rest ih =>
        intro seen director h
        have hlooked := hstep seen.length director (seen ++ item :: rest) item h (by simp)
        have hset : (seen ++ item :: rest).set seen.length (item.look setup director).2 =
            (seen ++ [(item.look setup director).2]) ++ rest := by simp
        rw [hset] at hlooked
        have hall := ih (seen ++ [(item.look setup director).2]) _ (by simpa using hlooked)
        rw [List.append_assoc, List.length_append, Nat.add_assoc,
          Nat.add_comm _ rest.length] at hall
        exact hall
  simpa using hrest items [] director h

/-- What holds of a new item in its place, and held of the others, holds of all. -/
theorem forall_set {Q : Nat → Item → Prop} {index : Nat} {item : Item} (hnew : Q index item)
    (hold : ∀ i other, index ≠ i → items[i]? = some other → Q i other) (i : Nat) (other : Item)
    (h : (items.set index item)[i]? = some other) : Q i other := by
  by_cases hsame : index = i
  · subst hsame
    have hinside : index < items.length := by
      simpa using (List.getElem?_eq_some_iff.mp h).1
    rw [List.getElem?_set_self hinside] at h
    obtain rfl := Option.some.inj h
    exact hnew
  · rw [List.getElem?_set_ne hsame] at h
    exact hold i other hsame h

/-- Commands that were given to a director, and how far it has come with them. -/
structure Serving (setup : DirectorSetup) (calls : List (Instant × Command)) (director : Director)
    (items : List Item) : Prop where
  /-- Each item is for one command. -/
  listed : ∀ i : Nat, items[i]?.map (fun item : Item => (item.startAt, item.request)) =
    calls[i]?.map fun call : Instant × Command => (call.1, call.2.request)
  /-- The first commands have come and the others are still to come, and the director stands as the
  first have left it. -/
  begun : ∃ count, director.Heeds (Command.before calls count) ∧
    ∀ (i : Nat) (item : Item), items[i]? = some item → (item.stage = .ahead ↔ count ≤ i)
  /-- Each is as far as it should be. -/
  stands : ∀ (i : Nat) (item : Item) (given : Instant) (command : Command),
    items[i]? = some item → calls[i]? = some (given, command) → command.Stands setup
      (Command.ShutBy calls) (Command.before calls i) given director.engine.now item.stage
  /-- No alarm is set for the past. -/
  timely : ∀ (i : Nat) (item : Item) (instant : Instant), items[i]? = some item →
    item.alarm setup = some instant → director.engine.now ≤ instant
  /-- A director that is shut down was told to. -/
  shut : director.shutDown = true → Command.ShutBy calls director.engine.now

/-- Each item is for a command. -/
theorem Serving.exists_command (h : Serving setup calls director items) {i : Nat} {item : Item}
    (hitem : items[i]? = some item) :
    ∃ command, calls[i]? = some (item.startAt, command) ∧ item.request = command.request := by
  have hlisted := h.listed i
  rw [hitem, Option.map_some] at hlisted
  obtain ⟨⟨given, command⟩, hcall, hsame⟩ := Option.map_eq_some_iff.mp hlisted.symm
  obtain ⟨rfl, hrequest⟩ := Prod.mk.inj hsame
  exact ⟨command, hcall, hrequest.symm⟩

/-- Each command has an item. -/
theorem Serving.exists_item (h : Serving setup calls director items) {i : Nat} {given : Instant}
    {command : Command} (hcall : calls[i]? = some (given, command)) :
    ∃ item, items[i]? = some item ∧ item.startAt = given ∧ item.request = command.request := by
  have hlisted := h.listed i
  rw [hcall, Option.map_some] at hlisted
  obtain ⟨item, hitem, hsame⟩ := Option.map_eq_some_iff.mp hlisted
  exact ⟨item, hitem, (Prod.mk.inj hsame).1, (Prod.mk.inj hsame).2⟩

/-- Some of the items have been looked at, and of these all have come whose instant has. -/
structure Passing (setup : DirectorSetup) (calls : List (Instant × Command)) (index : Nat)
    (director : Director) (items : List Item) : Prop where
  /-- The director serves the commands. -/
  serving : Serving setup calls director items
  /-- Those that were looked at have come. -/
  caught : ∀ i < index, ∀ item : Item, items[i]? = some item → item.startAt ≤ director.engine.now →
    item.stage ≠ .ahead

section Step

variable (hsorted : calls.Pairwise fun one other => one.1 ≤ other.1)

include hsorted

/-- A command that comes now is the first of those still to come. -/
theorem Passing.heeds {index : Nat} (h : Passing setup calls index director items) {item : Item}
    (hitem : items[index]? = some item) (hahead : item.stage = .ahead)
    (hdue : item.startAt ≤ director.engine.now) :
    director.Heeds (Command.before calls index) ∧
      ∀ (i : Nat) (other : Item), items[i]? = some other → (other.stage = .ahead ↔ index ≤ i) := by
  obtain ⟨count, hheeds, hcount⟩ := h.serving.begun
  have hle : count ≤ index := (hcount index item hitem).mp hahead
  rcases Nat.lt_or_eq_of_le hle with hlt | rfl
  · -- One before it would have come no later, and so it has come.
    obtain ⟨inside, -⟩ := List.getElem?_eq_some_iff.mp hitem
    have hfirst : items[count]? = some items[count] := List.getElem?_eq_getElem _
    obtain ⟨one, hone, -⟩ := h.serving.exists_command hfirst
    obtain ⟨other, hother, -⟩ := h.serving.exists_command hitem
    obtain ⟨hcountIn, heqOne⟩ := List.getElem?_eq_some_iff.mp hone
    obtain ⟨hindexIn, heqOther⟩ := List.getElem?_eq_some_iff.mp hother
    have horder := List.pairwise_iff_getElem.mp hsorted count index hcountIn hindexIn hlt
    rw [heqOne, heqOther] at horder
    exact absurd ((hcount count _ hfirst).mpr (Nat.le_refl count))
      (h.caught count hlt _ hfirst (Nat.le_trans horder hdue))
  · exact ⟨hheeds, hcount⟩

/-- A look at the next item. -/
theorem Passing.served {index : Nat} (h : Passing setup calls index director items) {item : Item}
    (hitem : items[index]? = some item) :
    ∃ command, calls[index]? = some (item.startAt, command) ∧
      item.Served setup (Command.ShutBy calls) (Command.before calls index) command director
        (item.look setup director) := by
  obtain ⟨command, hcall, hrequest⟩ := h.serving.exists_command hitem
  refine ⟨command, hcall, Item.served_look h.serving.shut hrequest
    (h.serving.stands index item _ command hitem hcall)
    (fun hahead hdue => (h.heeds hsorted hitem hahead hdue).1) ?_ ?_⟩
  · intro hbefore hshut
    obtain ⟨count, hheeds, hcount⟩ := h.serving.begun
    have hlt : index < count := by
      rw [Ne, hcount index item hitem] at hbefore
      exact Nat.lt_of_not_le hbefore
    refine hheeds.shutDown.mpr (List.map_subset _ ?_ hshut)
    exact List.take_subset_take_left calls (Nat.le_of_lt hlt)
  · rintro rfl hdue
    exact ⟨item.startAt, List.mem_of_getElem? hcall, hdue⟩

/-- The commands that have come are still the first, and the director stands as they have left
it. -/
theorem Passing.begun_step {index : Nat} (h : Passing setup calls index director items)
    {item : Item} (hitem : items[index]? = some item) {command : Command}
    (hcall : calls[index]? = some (item.startAt, command)) {done : Director × Item}
    (hcomes : item.Comes (Command.before calls index) command director done) :
    ∃ count, done.1.Heeds (Command.before calls count) ∧
      ∀ (i : Nat) (other : Item), (items.set index done.2)[i]? = some other →
        (other.stage = .ahead ↔ count ≤ i) := by
  cases hcomes with
  | waits hahead hearly hsame =>
      obtain rfl := hsame
      obtain ⟨count, hheeds, hcount⟩ := h.serving.begun
      exact ⟨count, hheeds, forall_set (hcount index item hitem) fun i other _ => hcount i other⟩
  | begins hahead hdue hdone hheeds =>
      obtain ⟨-, hcount⟩ := h.heeds hsorted hitem hahead hdue
      refine ⟨index + 1, ?_, forall_set ?_ fun i other hne hother => ?_⟩
      · rw [Command.before, List.take_add_one, hcall, List.map_append]
        exact hheeds
      · exact ⟨fun hstill => absurd hstill hdone, fun hlt => by omega⟩
      · rw [hcount i other hother]
        omega
  | goesOn hbefore hdone hsteady =>
      obtain ⟨count, hheeds, hcount⟩ := h.serving.begun
      have hlt := (not_congr (hcount index item hitem)).mp hbefore
      exact ⟨count, hheeds.steady hsteady,
        forall_set ⟨fun hstill => absurd hstill hdone, fun hle => absurd hle hlt⟩
          fun i other _ => hcount i other⟩

theorem Passing.serving_step {index : Nat} (h : Passing setup calls index director items)
    {item : Item} (hitem : items[index]? = some item) :
    Serving setup calls (item.look setup director).1
      (items.set index (item.look setup director).2) := by
  obtain ⟨command, hcall, hserved⟩ := h.served hsorted hitem
  refine ⟨fun i => ?_, h.begun_step hsorted hitem hcall hserved.comes, ?_, ?_, ?_⟩
  · by_cases hsame : index = i
    · subst hsame
      obtain ⟨inside, -⟩ := List.getElem?_eq_some_iff.mp hitem
      rw [List.getElem?_set_self inside, ← h.serving.listed index, hitem, Option.map_some,
        Option.map_some, hserved.same.1, hserved.same.2]
    · rw [List.getElem?_set_ne hsame]
      exact h.serving.listed i
  · rw [hserved.now]
    intro i other given order hother horder
    refine forall_set (Q := fun i other => ∀ given order, calls[i]? = some (given, order) →
      order.Stands setup (Command.ShutBy calls) (Command.before calls i) given director.engine.now
        other.stage) ?_ ?_ i other hother given order horder
    · intro given order horder
      obtain ⟨rfl, rfl⟩ := Prod.mk.inj (Option.some.inj (hcall.symm.trans horder))
      exact hserved.stands
    · exact fun i other _ hother given order => h.serving.stands i other given order hother
  · rw [hserved.now]
    intro i other instant hother
    exact forall_set (Q := fun _ other => other.alarm setup = some instant →
      director.engine.now ≤ instant) (fun hset => Nat.le_of_lt (hserved.timely instant hset))
      (fun i other _ hother => h.serving.timely i other instant hother) i other hother
  · rw [hserved.now]
    exact hserved.shut

/-- Looking at the next item keeps all of this. -/
theorem Passing.step {index : Nat} (h : Passing setup calls index director items) {item : Item}
    (hitem : items[index]? = some item) :
    Passing setup calls (index + 1) (item.look setup director).1
      (items.set index (item.look setup director).2) := by
  obtain ⟨command, -, hserved⟩ := h.served hsorted hitem
  have hcaught : (item.look setup director).2.startAt ≤ director.engine.now →
      (item.look setup director).2.stage ≠ .ahead := by
    intro hdue
    rw [hserved.same.1] at hdue
    cases hserved.comes with
    | waits hahead hearly hsame => exact absurd hearly (Nat.not_lt_of_le hdue)
    | begins hahead _ hafter _ => exact hafter
    | goesOn _ hafter _ => exact hafter
  refine ⟨h.serving_step hsorted hitem, ?_⟩
  rw [hserved.now]
  intro i hlt other hother
  refine forall_set (Q := fun i other => i < index + 1 → other.startAt ≤ director.engine.now →
    other.stage ≠ .ahead) (fun _ => hcaught) ?_ i other hother hlt
  exact fun i other hne hother hlt => h.caught i (by omega) other hother

/-- A look at all items keeps all of this. -/
theorem Serving.look (h : Serving setup calls director items) :
    Passing setup calls items.length (lookItems setup items director).1
      (lookItems setup items director).2 :=
  lookItems_induction (P := Passing setup calls) (fun _ _ _ _ h hitem => h.step hsorted hitem)
    ⟨h, fun _ hlt => absurd hlt (Nat.not_lt_zero _)⟩

end Step

/-- The clock is wound forwards, and then no alarm is set for the past either. -/
theorem Serving.wind (h : Serving setup calls director items) {instant : Instant}
    (hset : Clockwork.earliest (items.map (·.alarm setup)) = some instant) :
    Serving setup calls { director with engine := { director.engine with now := instant } }
      items := by
  have hforwards : director.engine.now ≤ instant := by
    obtain ⟨item, hitem, halarm⟩ := List.mem_map.mp (Clockwork.mem_of_earliest hset)
    obtain ⟨i, hi⟩ := List.mem_iff_getElem?.mp hitem
    exact h.timely i item instant hi halarm
  obtain ⟨count, hheeds, hcount⟩ := h.begun
  refine ⟨h.listed, ⟨count, ⟨hheeds.sessions, hheeds.shutDown⟩, hcount⟩, ?_, ?_, fun hdown => ?_⟩
  · exact fun i item given command hitem hcall =>
      (h.stands i item given command hitem hcall).later hforwards
  · intro i item due hitem halarm
    have hmem : some due ∈ items.map (·.alarm setup) :=
      List.mem_map.mpr ⟨item, List.mem_of_getElem? hitem, halarm⟩
    obtain ⟨soonest, hsoonest, hle⟩ := Clockwork.exists_earliest hmem
    obtain rfl := Option.some.inj (hset.symm.trans hsoonest)
    exact hle
  · obtain ⟨given, hgiven, hdue⟩ := h.shut hdown
    exact ⟨given, hgiven, Nat.le_trans hdue hforwards⟩

/-! ### From the start -/

/-- The items of some commands that are still to come. -/
def itemsOf (calls : List (Instant × Command)) : List Item :=
  calls.map fun call => ⟨call.1, call.2.request, .ahead⟩

/-- A director that has been given commands and no more. -/
theorem serving_create (setup : DirectorSetup) (settings : Settings)
    (calls : List (Instant × Command)) :
    Serving setup calls (Director.create settings) (itemsOf calls) where
  listed i := by
    rw [itemsOf, List.getElem?_map, Option.map_map]
    rfl
  begun := by
    refine ⟨0, ⟨fun session => ?_, ?_⟩, fun i item hitem => ?_⟩
    · simp [Command.before, Command.not_known_nil, Director.create, Director.hasSession,
        Director.room?]
    · simp [Command.before, Director.create]
    · obtain ⟨call, -, rfl⟩ := List.mem_map.mp (List.mem_of_getElem? hitem)
      simp
  stands := by
    intro i item given command hitem _
    obtain ⟨call, -, rfl⟩ := List.mem_map.mp (List.mem_of_getElem? hitem)
    exact .ahead
  timely := fun _ _ _ _ _ => Nat.zero_le _
  shut := fun hdown => by cases hdown

end Timeline

/-- Commands with their instants are in order. -/
theorem Command.pairwise_timed (since : Instant) (commands : List (Duration × Command)) :
    (∀ call ∈ timed since commands, since ≤ call.1) ∧
      (timed since commands).Pairwise fun one other => one.1 ≤ other.1 := by
  induction commands generalizing since with
  | nil => exact ⟨fun _ hcall => absurd hcall List.not_mem_nil, List.Pairwise.nil⟩
  | cons first rest ih =>
      obtain ⟨later, command⟩ := first
      obtain ⟨hafter, hrest⟩ := ih (since + later)
      refine ⟨fun call hcall => ?_, List.pairwise_cons.mpr ⟨hafter, hrest⟩⟩
      rcases List.mem_cons.mp hcall with rfl | hlater
      · exact Nat.le_add_right since later
      · exact Nat.le_trans (Nat.le_add_right since later) (hafter call hlater)

end StoryDirector
