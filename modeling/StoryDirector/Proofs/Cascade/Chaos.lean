import StoryDirector.Proofs.Cascade.Writes
import StoryDirector.Proofs.Json.Ordered
/-!
# StoryDirector.Proofs.Cascade.Chaos

How chaos moves in a cascade. **It never leaves the range from 0 to 1, and the report names exactly
as many surges as there were events that took it across the threshold from below**
(`Cascade.surges_exact`), by whatever way they did: a state change sets chaos, news shift it, and a
death does so by the news that follow.

For the range, all numbers that an event may carry are alike, since a number that is not finite sets
nothing and any other is clamped (`World.inRange_setChaos`). For the surges, what counts is that one
event moves chaos at most once, so that the move and the event start and end at the same level. In a
state change that is because no name stands twice among its particulars (`Event.Unrepeated`).
-/

namespace StoryDirector

open Float.Model (UnpackedFloat)

/-- Chaos is a number from 0 to 1. -/
def World.InRange (world : World) : Prop :=
  0 ≤ world.chaos ∧ world.chaos ≤ 1

/-- No name stands twice among the particulars of the event. -/
def Event.Unrepeated (event : Event) : Prop :=
  (Dict.names (event.payload.fields?.getD [])).Nodup

/-- So it is in every event whose particulars were read. -/
theorem Event.unrepeated_of_ordered {event : Event} (h : event.payload.Ordered) :
    event.Unrepeated := by
  rw [Event.Unrepeated]
  generalize event.payload = payload at h ⊢
  cases h with
  | object hnames => exact Dict.nodup_names hnames
  | null | bool | int | float | text | array => exact List.nodup_nil

instance (world : World) : Decidable world.InRange :=
  inferInstanceAs (Decidable (_ ∧ _))

instance (event : Event) : Decidable event.Unrepeated :=
  inferInstanceAs (Decidable (List.Nodup _))

/-- The event tells of a surge. -/
def Event.isSurge (event : Event) : Bool :=
  event.kind = .anomaly ∧ event.detail? "kind" = some "chaos_surge"

/-- Chaos goes across a threshold from below. -/
def Rises (threshold before after : Float32) : Prop :=
  before < threshold ∧ threshold ≤ after

instance (threshold before after : Float32) : Decidable (Rises threshold before after) :=
  inferInstanceAs (Decidable (_ ∧ _))

/-- The event is processed well, and across it chaos goes across a threshold from below. -/
def Handling.rises (threshold : Float32) (handling : Handling) : Bool :=
  handling.failed = false ∧
    Rises threshold handling.before.world.chaos handling.after.world.chaos

/-! ### The order of numbers -/

namespace Chaos

variable {x y : Float32}

/-- Numbers of one sign compare by their exponents and then by their mantissas. -/
theorem parts_swap (e f : Int) (m n : Nat) :
    (compare f e).then (compare n m) = ((compare e f).then (compare m n)).swap := by
  have hexponents : compare f e = (compare e f).swap := Std.OrientedCmp.eq_swap
  have hmantissas : compare n m = (compare m n).swap := Std.OrientedCmp.eq_swap
  rw [hexponents, hmantissas, Ordering.swap_then]

/-- The other way round two numbers compare the other way round, if they compare at all. -/
theorem compare_swap (x y : UnpackedFloat) :
    y.compare x = (x.compare y).map Ordering.swap := by
  rcases x with (_ | _) | _ | (_ | _) | ⟨_ | _, m, e, hm⟩ <;>
    rcases y with (_ | _) | _ | (_ | _) | ⟨_ | _, n, f, hn⟩ <;> try rfl
  case finite.negative.finite.negative =>
    show some ((compare f e).then (compare n m)).swap =
      some ((compare e f).then (compare m n)).swap.swap
    rw [parts_swap]
  case finite.positive.finite.positive =>
    show some ((compare f e).then (compare n m)) = some ((compare e f).then (compare m n)).swap
    rw [parts_swap]

theorem compare_ne_none {x y : UnpackedFloat} (hx : x.isFinite = true) (hy : y.isFinite = true) :
    x.compare y ≠ none := by
  cases x with
  | notANumber => cases hx
  | infinity sign => cases hx
  | zero sign =>
      cases y with
      | notANumber => cases hy
      | infinity other => cases hy
      | zero other => exact Option.some_ne_none _
      | finite other n f hn => cases other <;> exact Option.some_ne_none _
  | finite sign m e hm =>
      cases y with
      | notANumber => cases hy
      | infinity other => cases hy
      | zero other => cases sign <;> exact Option.some_ne_none _
      | finite other n f hn => cases sign <;> cases other <;> exact Option.some_ne_none _

theorem lt_iff : x < y ↔ x.toModel.unpack.compare y.toModel.unpack = some .lt := by
  rw [show x < y ↔ decide (x.toModel < y.toModel) = true from Iff.rfl, decide_eq_true_iff,
    show x.toModel < y.toModel ↔ Float32.Model.lt x.toModel y.toModel = true from Iff.rfl,
    Float32.Model.lt, UnpackedFloat.lt, beq_iff_eq]

theorem le_iff :
    x ≤ y ↔ (x.toModel.unpack.compare y.toModel.unpack).any Ordering.isLE = true := by
  rw [show x ≤ y ↔ decide (x.toModel ≤ y.toModel) = true from Iff.rfl, decide_eq_true_iff]
  exact Iff.rfl

/-- No number is on both sides of another. -/
theorem not_le_of_lt (h : x < y) : ¬y ≤ x := by
  rw [le_iff, compare_swap, lt_iff.mp h]
  decide

/-- Of two numbers that are finite one is on either side of the other. -/
theorem le_of_not_lt (hx : x.isFinite = true) (hy : y.isFinite = true) (h : ¬x < y) : y ≤ x := by
  rw [lt_iff] at h
  rw [le_iff, compare_swap]
  cases hcompare : x.toModel.unpack.compare y.toModel.unpack with
  | none => exact absurd hcompare (compare_ne_none hx hy)
  | some order =>
      rw [hcompare] at h
      cases order with
      | lt => exact absurd rfl h
      | eq => rfl
      | gt => rfl

end Chaos

theorem not_rises_self (threshold level : Float32) : ¬Rises threshold level level :=
  fun h => Chaos.not_le_of_lt h.1 h.2

/-! ### The range -/

namespace World

variable {world : World}

theorem inRange_setChaos (h : world.InRange) (level : Float32) :
    (world.setChaos level).InRange := by
  rw [setChaos]
  split
  case isFalse => exact h
  case isTrue hfinite =>
    show 0 ≤ clampUnit level ∧ clampUnit level ≤ 1
    rw [clampUnit]
    split
    case isTrue => exact ⟨by decide +kernel, by decide +kernel⟩
    case isFalse hlow =>
      split
      case isTrue => exact ⟨by decide +kernel, by decide +kernel⟩
      case isFalse hhigh =>
        exact ⟨Chaos.le_of_not_lt hfinite (by decide +kernel) hlow,
          Chaos.le_of_not_lt (by decide +kernel) hfinite hhigh⟩

theorem inRange_write (h : world.InRange) (write : Write) : (world.write write).InRange := by
  cases write with
  | chaos level => exact inRange_setChaos h level
  | shift delta => exact inRange_setChaos h _
  | place name => exact h
  | flag name flag => exact h
  | appearance draft => exact h
  | departure name =>
      rw [World.write]
      cases world.npcs.remove name with
      | none => exact h
      | some removed => exact h

end World

/-! ### One event -/

namespace Cascade

variable {threshold : Float32} {followups : List Event}

theorem isSurge_of_mem_surge {place : Nat} {before : Float32} {session : Session} {event : Event}
    (h : event ∈ surge threshold place before session) : event.isSurge = true := by
  rw [surge] at h
  split at h
  case isFalse => cases h
  case isTrue =>
    obtain rfl := List.mem_singleton.mp h
    rw [Event.isSurge, Event.detail?, Json.textField?, Json.ofEntries, Dict.ofEntries,
      Json.field?_object]
    simp only [Dict.putAll, List.foldl_cons, List.foldl_nil]
    rw [Dict.value?_put_of_ne _ (by decide), Dict.value?_put_self]
    rfl

theorem countP_surge (place : Nat) (before : Float32) (session : Session) :
    (surge threshold place before session).countP Event.isSurge =
      if Rises threshold before session.world.chaos then 1 else 0 := by
  rw [List.countP_eq_length.mpr fun _ => isSurge_of_mem_surge, surge]
  split
  case isTrue hrises => exact (if_pos hrises).symm
  case isFalse hrises => exact (if_neg hrises).symm

/-- Entries of a state change that do not set chaos do not move it and bring up no surge. -/
theorem applyChanges_of_notMem {changes : List (String × Json)}
    (h : "chaos_level" ∉ Dict.names changes) (session : Session) (found : List Event) :
    (applyChanges threshold session found changes).1.world.chaos = session.world.chaos ∧
      ∀ followups, (applyChanges threshold session found changes).2 = .ok followups →
        followups = found := by
  induction changes generalizing session with
  | nil => exact ⟨rfl, fun _ hok => (Except.ok.inj hok).symm⟩
  | cons change rest ih =>
      obtain ⟨key, value⟩ := change
      have hkey : key ≠ "chaos_level" := fun heq => h (heq ▸ List.mem_cons_self)
      have hrest : "chaos_level" ∉ Dict.names rest := fun hmem => h (List.mem_cons_of_mem _ hmem)
      rw [applyChanges, if_neg hkey]
      split
      · split
        · exact ⟨rfl, fun _ hok => by cases hok⟩
        · exact ih hrest _
      · split
        · exact ih hrest _
        · exact ih hrest _

/-- A state change in which no name stands twice brings up a surge exactly if it takes chaos across
the threshold from below. -/
theorem countP_applyChanges {changes : List (String × Json)} (hnames : (Dict.names changes).Nodup)
    (session : Session) (found : List Event)
    (h : (applyChanges threshold session found changes).2 = .ok followups) :
    followups.countP Event.isSurge = found.countP Event.isSurge +
      if Rises threshold session.world.chaos
        (applyChanges threshold session found changes).1.world.chaos then 1 else 0 := by
  induction changes generalizing session with
  | nil =>
      obtain rfl := Except.ok.inj h
      rw [applyChanges, if_neg (not_rises_self _ _)]
      rfl
  | cons change rest ih =>
      obtain ⟨key, value⟩ := change
      obtain ⟨hnew, hrest⟩ := List.nodup_cons.mp hnames
      rw [applyChanges] at h ⊢
      split at h
      case isTrue hkey =>
        -- The other entries leave chaos where this one sets it.
        subst hkey
        rw [if_pos rfl]
        split at h
        · cases h
        · next level hlevel =>
            let moved := moveChaos threshold found.length session (·.setChaos (narrow level))
            obtain ⟨hchaos, hfound⟩ := applyChanges_of_notMem hnew moved.1 (found ++ moved.2)
            dsimp only [moved] at hchaos hfound ⊢
            rw [hchaos, hfound followups h, List.countP_append, moveChaos, countP_surge]
      case isFalse hkey =>
        rw [if_neg hkey]
        split at h
        case isTrue hplace =>
          rw [if_pos hplace]
          split at h
          · cases h
          · exact ih hrest _ h
        case isFalse hplace =>
          rw [if_neg hplace]
          split at h
          · exact ih hrest _ h
          · exact ih hrest _ h

/-- An event that neither changes the state nor is news brings up no surge. -/
theorem isSurge_eq_false {event other : Event} (hchange : event.kind ≠ .stateChange)
    (hnews : event.kind ≠ .worldEvent) (hleads : event.kind.Leads other.kind) :
    other.isSurge = false := by
  have hother : other.kind ≠ .anomaly := by
    intro hanomaly
    rw [hanomaly] at hleads
    generalize event.kind = kind at hchange hnews hleads
    cases hleads with
    | shake => exact hnews rfl
    | unsettle => exact hchange rfl
  simp [Event.isSurge, hother]

/-- Nor does it move chaos. -/
theorem chaos_worldProcessor_of_ne {event : Event} (hchange : event.kind ≠ .stateChange)
    (hnews : event.kind ≠ .worldEvent) (session : Session) :
    (worldProcessor threshold event session).1.world.chaos = session.world.chaos := by
  rw [worldProcessor_eq]
  refine World.writeAll_spares World.chaos (fun write hwrite world => ?_) session.world
  have hwrites := Event.kind_writes hwrite
  generalize event.kind = kind at hchange hnews hwrites
  cases hwrites with
  | level | place | flag => exact absurd rfl hchange
  | arrival | shift => exact absurd rfl hnews
  | departure name =>
      rw [World.write]
      cases world.npcs.remove name <;> rfl
  | appearance | mark | quest => rfl

theorem countP_stateChange {event : Event} (hnames : event.Unrepeated) {session : Session}
    (h : (stateChange threshold event session).2 = .ok followups) :
    followups.countP Event.isSurge =
      if Rises threshold session.world.chaos (stateChange threshold event session).1.world.chaos
      then 1 else 0 := by
  rw [Event.Unrepeated] at hnames
  rw [stateChange] at h ⊢
  cases hfields : event.payload.fields? with
  | none =>
      simp only [hfields] at h
      cases h
  | some changes =>
      simp only [hfields] at h hnames ⊢
      have hcount := countP_applyChanges hnames session [] h
      rw [List.countP_nil, Nat.zero_add] at hcount
      exact hcount

/-- News may bring the player to a place, which leaves chaos alone. Beyond that they do nothing, or
they fail, or they shift chaos. -/
theorem worldEvent_cases (threshold : Float32) (event : Event) (session : Session) :
    ∃ arrived : Session, arrived.world.chaos = session.world.chaos ∧
      (worldEvent threshold event session = (arrived, .ok []) ∨
        (∃ error, worldEvent threshold event session = (arrived, .error error)) ∨
        ∃ delta, worldEvent threshold event session =
          ((moveChaos threshold 0 arrived (·.shiftChaos delta)).1,
            .ok (moveChaos threshold 0 arrived (·.shiftChaos delta)).2)) := by
  rw [worldEvent]
  cases event.payload.field? "chaos_delta" with
  | none =>
      refine ⟨_, ?_, .inl rfl⟩
      cases event.detail? "location" <;> rfl
  | some value =>
      cases hnumber : value.number? with
      | none =>
          simp only [hnumber]
          refine ⟨_, ?_, .inr (.inl ⟨_, rfl⟩)⟩
          cases event.detail? "location" <;> rfl
      | some delta =>
          simp only [hnumber]
          refine ⟨_, ?_, .inr (.inr ⟨narrow delta, rfl⟩)⟩
          cases event.detail? "location" <;> rfl

theorem countP_worldEvent {event : Event} {session : Session}
    (h : (worldEvent threshold event session).2 = .ok followups) :
    followups.countP Event.isSurge =
      if Rises threshold session.world.chaos (worldEvent threshold event session).1.world.chaos
      then 1 else 0 := by
  obtain ⟨arrived, hchaos, hcall | ⟨error, hcall⟩ | ⟨delta, hcall⟩⟩ :=
    worldEvent_cases threshold event session
  · rw [hcall] at h ⊢
    rw [← Except.ok.inj h, hchaos, if_neg (not_rises_self _ _)]
    rfl
  · rw [hcall] at h
    cases h
  · rw [hcall] at h ⊢
    rw [← Except.ok.inj h, ← hchaos, moveChaos, countP_surge]

/-- An event that is processed well brings up a surge exactly if it takes chaos across the threshold
from below. -/
theorem countP_of_ok {event : Event} (hnames : event.kind = .stateChange → event.Unrepeated)
    {session : Session} (h : (worldProcessor threshold event session).2 = .ok followups) :
    followups.countP Event.isSurge =
      if Rises threshold session.world.chaos (worldProcessor threshold event session).1.world.chaos
      then 1 else 0 := by
  by_cases hchange : event.kind = .stateChange
  · have hcall : worldProcessor threshold event session = stateChange threshold event session := by
      rw [worldProcessor, hchange]
    rw [hcall] at h ⊢
    exact countP_stateChange (hnames hchange) h
  · by_cases hnews : event.kind = .worldEvent
    · have hcall :
          worldProcessor threshold event session = worldEvent threshold event session := by
        rw [worldProcessor, hnews]
      rw [hcall] at h ⊢
      exact countP_worldEvent h
    · have hnone : followups.countP Event.isSurge = 0 :=
        List.countP_eq_zero.mpr fun other hother => by
          simp [isSurge_eq_false hchange hnews (leads_of_mem_followups h other hother)]
      rw [hnone, chaos_worldProcessor_of_ne hchange hnews, if_neg (not_rises_self _ _)]

/-- Handling an event brings up a surge exactly if the event is processed well and takes chaos
across the threshold from below. -/
theorem countP_followups_handle {event : Event}
    (hnames : event.kind = .stateChange → event.Unrepeated) (session : Session) :
    (handle (worldProcessor threshold) event session).followups.countP Event.isSurge =
      if (handle (worldProcessor threshold) event session).rises threshold then 1 else 0 := by
  have hworld := world_after_handle (worldProcessor threshold) event session
  cases houtcome : (worldProcessor threshold event session).2 with
  | error error => simp [Handling.followups, Handling.rises, Handling.failed, handle, houtcome]
  | ok followups =>
      have hfollowups :
          (handle (worldProcessor threshold) event session).followups = followups := by
        simp only [Handling.followups, handle, houtcome]
      have hfailed : (handle (worldProcessor threshold) event session).failed = false := by
        simp only [Handling.failed, handle, houtcome]
      rw [hfollowups, countP_of_ok hnames houtcome, ← hworld]
      simp only [Handling.rises, hfailed, true_and, decide_eq_true_eq]
      rfl

/-! ### Several events -/

theorem Calls.inRange {first last : Session} {calls : List Handling}
    (h : Calls (worldProcessor threshold) first calls last) (hfirst : first.world.InRange) :
    last.world.InRange := by
  rw [h.eq_lived]
  exact World.writeAll_induction (P := World.InRange)
    (fun _ write hworld => World.inRange_write hworld write) _ hfirst

/-- What is processed is in the queue, or it came up and then is no state change. -/
theorem mem_queue_of_stateChange {depth : Nat} {queue : List Event} {session : Session}
    {call : Handling}
    (hcall : call ∈ (trace (worldProcessor threshold) depth queue session).handlings)
    (hkind : call.event.kind = .stateChange) : call.event ∈ queue := by
  let drained := trace (worldProcessor threshold) depth queue session
  have hqueue : queue ++ drained.handlings.flatMap (·.followups) =
      drained.handlings.map (·.event) ++ drained.left := (batches_trace _ _ _ _).queue_append
  have hmem : call.event ∈ queue ++ drained.handlings.flatMap (·.followups) := by
    rw [hqueue]
    exact List.mem_append_left _ (List.mem_map_of_mem hcall)
  rcases List.mem_append.mp hmem with hmem | hmem
  · exact hmem
  · obtain ⟨earlier, hearlier, hfollows⟩ := List.mem_flatMap.mp hmem
    have hhandled :=
      (calls_trace (worldProcessor threshold) depth queue session).eq_handle_of_mem hearlier
    rw [hhandled] at hfollows
    rcases (leads_handle hfollows).eq_or_eq with hother | hother <;>
      exact absurd (hkind.symm.trans hother) (by decide)

/-- **Chaos stays in range, and surges are exact.** Whatever the queue holds, what its numbers are
and which of its events fail: a level from 0 to 1 is followed by one from 0 to 1, and the report
names as many surges as there are events that were processed well and took chaos across the
threshold from below. -/
theorem surges_exact (threshold : Float32) (depth : Nat) {queue : List Event}
    (hqueue : ∀ event ∈ queue, event.Unrepeated) (session : Session) :
    let calls := (trace (worldProcessor threshold) depth queue session).handlings
    let drained := drain (worldProcessor threshold) depth queue session
    Calls (worldProcessor threshold) session calls drained.1 ∧
    (session.world.InRange → drained.1.world.InRange) ∧
    drained.2.events.countP Event.isSurge = calls.countP (Handling.rises threshold) := by
  intro calls drained
  have hdrained : drained = _ := drain_eq (worldProcessor threshold) depth queue session
  have hcalls : Calls (worldProcessor threshold) session calls drained.1 := by
    rw [hdrained]
    exact calls_trace _ _ _ _
  refine ⟨hcalls, hcalls.inRange, ?_⟩
  have hstep : ∀ call ∈ calls, call.followups.countP Event.isSurge =
      if call.rises threshold then 1 else 0 := by
    intro call hcall
    rw [hcalls.eq_handle_of_mem hcall]
    exact countP_followups_handle (fun hkind => hqueue _ (mem_queue_of_stateChange hcall hkind)) _
  rw [hdrained]
  show (calls.flatMap (·.followups)).countP Event.isSurge = _
  clear hcalls
  clear_value calls
  induction calls with
  | nil => rfl
  | cons call rest ih =>
      rw [List.flatMap_cons, List.countP_append, List.countP_cons,
        hstep call List.mem_cons_self,
        ih fun other hother => hstep other (List.mem_cons_of_mem _ hother), Nat.add_comm]

/-- A number beyond all bounds sets nothing, a change that fails takes chaos across the threshold in
silence, another brings it back, and then the news of a death take it across once more. That is one
surge. -/
theorem surges_exact_fall :
    let world : World := { chaos := 0.5 }
    let scene : Session :=
      { id := ⟨0⟩
        turn := 2
        world := world.spawn { id := .known ⟨1⟩, name := "Mara", spawnedTurn := 1 } }
    let change (number : Nat) (fields : List (String × Json)) : Event :=
      { id := .known ⟨number⟩, kind := .stateChange, payload := .object fields }
    let queue : List Event :=
      [change 2 [("chaos_level", .float 1e300)],
       change 3 [("chaos_level", .float 0.9), ("location", .int 7)],
       change 4 [("chaos_level", .float 0.79)],
       { id := .known ⟨5⟩, kind := .npcDeath, payload := .object [("name", .text "MARA")] }]
    let calls := (trace (worldProcessor 0.8) 3 queue scene).handlings
    let drained := drain (worldProcessor 0.8) 3 queue scene
    (∀ event ∈ queue, event.Unrepeated) ∧ scene.world.InRange ∧
      drained.2.failures = 1 ∧ drained.2.events.countP Event.isSurge = 1 ∧
      drained.1.world.InRange ∧
      drained.2.events.countP Event.isSurge = calls.countP (Handling.rises 0.8) := by
  intro world scene change queue calls drained
  have hqueue : ∀ event ∈ queue, event.Unrepeated := by decide +kernel
  have hscene : scene.world.InRange := by decide +kernel
  obtain ⟨-, hrange, hcount⟩ := surges_exact 0.8 3 hqueue scene
  refine ⟨hqueue, hscene, by decide +kernel, by decide +kernel, ?_⟩
  -- Nothing is to be evaluated here: the two sides are the same as they stand.
  with_reducible exact ⟨hrange hscene, hcount⟩

end Cascade

end StoryDirector
