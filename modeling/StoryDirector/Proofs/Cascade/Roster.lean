import Mathlib.Data.List.Nodup
import StoryDirector.Proofs.Cascade.Writes
/-!
# StoryDirector.Proofs.Cascade.Roster

Who is in the scene after a cascade. **Every call of the standard processor does one of three
things to the roster** (`Handling.Turnover`): one character appears, one falls and word of it
follows, or the roster stays as it is and no such word follows. So the roster can be accounted for
from the outside: by the appearances that were processed well and the news of the fallen that the
report names (`Cascade.roster_accounted`), however many share a name and in whatever order they come
and go.

A death finds the first who bears its name and takes away whoever stands under that one's identity.
Where everyone stands under the identity that they have (`Roster.Keyed`), both are the same, and a
roster that is so at the start stays so. A snapshot is not checked for it, and in a scene that is
laid out otherwise a death may take someone of another name (`Cascade.not_losesByName`).
-/

namespace StoryDirector

/-- The event is news of someone who fell. -/
def Event.isFallen (event : Event) : Bool :=
  event.kind = .worldEvent ∧ event.detail? "kind" = some "npc_fallen"

namespace Roster

variable {roster left : Roster} {name : String} {id : EntityId} {npc : Npc}

/-- Whoever is found by a name bears it. -/
theorem exists_mem_of_named? (h : roster.named? name = some npc) :
    (∃ key, (key, npc) ∈ roster) ∧ sameName npc.name name = true := by
  obtain ⟨⟨key, found⟩, hfind, rfl⟩ := Option.map_eq_some_iff.mp h
  exact ⟨⟨key, List.mem_of_find?_eq_some hfind⟩, by simpa using List.find?_some hfind⟩

/-- Who is taken away stood under the identity, and everyone else stays. -/
theorem exists_eq_of_take? (h : take? id roster = some (npc, left)) :
    ∃ before after, roster = before ++ (id, npc) :: after ∧ left = before ++ after := by
  induction roster generalizing left with
  | nil => cases h
  | cons entry rest ih =>
      obtain ⟨key, other⟩ := entry
      rw [take?] at h
      split at h
      case isTrue hkey =>
        subst hkey
        cases h
        exact ⟨[], rest, rfl, rfl⟩
      case isFalse =>
        obtain ⟨⟨found, kept⟩, hrest, heq⟩ := Option.map_eq_some_iff.mp h
        cases heq
        obtain ⟨before, after, hroster, hleft⟩ := ih hrest
        exact ⟨(key, other) :: before, after, by rw [hroster]; rfl, by rw [hleft]; rfl⟩

theorem exists_of_remove (h : roster.remove name = some (npc, left)) :
    ∃ found, roster.named? name = some found ∧ take? found.id roster = some (npc, left) :=
  Option.bind_eq_some_iff.mp h

/-- The identities under which characters stand are different. -/
def Proper (roster : Roster) : Prop :=
  (roster.map (·.1)).Nodup

/-- Everyone stands under the identity that they have. -/
def Keyed (roster : Roster) : Prop :=
  ∀ entry ∈ roster, entry.1 = entry.2.id

theorem Proper.spawn (h : roster.Proper) (npc : Npc) : (roster.spawn npc).Proper := by
  have hothers : npc.id ∉ (roster.filter (·.1 ≠ npc.id)).map (·.1) := by
    intro hmem
    obtain ⟨entry, hentry, hid⟩ := List.mem_map.mp hmem
    exact of_decide_eq_true (List.mem_filter.mp hentry).2 hid
  rw [Proper, Roster.spawn, put, List.map_append]
  exact (List.perm_append_singleton _ _).nodup_iff.mpr
    (List.nodup_cons.mpr ⟨hothers, h.sublist (List.filter_sublist.map _)⟩)

theorem Proper.take? (h : roster.Proper) (htake : take? id roster = some (npc, left)) :
    left.Proper := by
  obtain ⟨before, after, rfl, rfl⟩ := exists_eq_of_take? htake
  exact h.sublist (((List.sublist_cons_self _ _).append_left before).map _)

theorem Keyed.spawn (h : roster.Keyed) (npc : Npc) : (roster.spawn npc).Keyed := by
  intro entry hentry
  rcases List.mem_append.mp hentry with hold | hnew
  · exact h entry (List.mem_filter.mp hold).1
  · rw [List.mem_singleton.mp hnew]

theorem Keyed.take? (h : roster.Keyed) (htake : take? id roster = some (npc, left)) :
    left.Keyed := by
  obtain ⟨before, after, rfl, rfl⟩ := exists_eq_of_take? htake
  intro entry hentry
  refine h entry ?_
  rcases List.mem_append.mp hentry with hfirst | hlast
  · exact List.mem_append_left _ hfirst
  · exact List.mem_append_right _ (List.mem_cons_of_mem _ hlast)

/-- Under an identity that someone of their own has stands no one else. -/
theorem Proper.eq_of_keyed (h : roster.Proper) (hkeyed : roster.Keyed) {key : EntityId}
    {found : Npc} (hfound : (key, found) ∈ roster) {entry : EntityId × Npc}
    (hentry : entry ∈ roster) (hid : entry.1 = found.id) : entry.2 = found := by
  have hkey : entry.1 = key := hid.trans (hkeyed _ hfound).symm
  exact congrArg Prod.snd (List.inj_on_of_nodup_map h hentry hfound hkey)

end Roster

/-- What a call of the standard processor does to the roster. -/
inductive Handling.Turnover (handling : Handling) : Prop
  /-- Someone appears under the name that is given and under an identity that no one there has. -/
  | appears (hkind : handling.event.kind = .npcSpawn) (houtcome : handling.outcome = .ok [])
      {npc : Npc} (hname : handling.event.detail? "name" = some npc.name)
      (hfresh : ∀ entry ∈ handling.before.world.npcs, entry.1 ≠ npc.id ∧ entry.2.id ≠ npc.id)
      (hspawn : handling.after.world.npcs = handling.before.world.npcs.spawn npc)
      (hnpcs : handling.after.world.npcs = handling.before.world.npcs ++ [(npc.id, npc)])
  /-- The first of a given name is found, whoever stands under that identity falls, and it becomes
  known. -/
  | falls (hkind : handling.event.kind = .npcDeath) {name : String}
      (hname : handling.event.detail? "name" = some name) {found npc : Npc}
      (hfound : handling.before.world.npcs.named? name = some found)
      (htake : Roster.take? found.id handling.before.world.npcs =
        some (npc, handling.after.world.npcs)) {id : EventId} {turn : Nat}
      (houtcome : handling.outcome = .ok [Cascade.fallen id name turn])
  /-- No one comes or goes, and no one is told to have fallen. A death was of no one here then. -/
  | stays (hnpcs : handling.after.world.npcs = handling.before.world.npcs)
      (hspawn : handling.event.kind = .npcSpawn → handling.failed = true)
      (hdeath : handling.event.kind = .npcDeath → ∀ name,
        handling.event.detail? "name" = some name → handling.before.world.npcs.remove name = none)
      (hfallen : ∀ event ∈ handling.followups, event.isFallen = false)

namespace Cascade

variable {threshold : Float32}

theorem isFallen_fallen (id : EventId) (name : String) (turn : Nat) :
    (fallen id name turn).isFallen = true := by
  have hkind : (fallen id name turn).detail? "kind" = some "npc_fallen" := by
    rw [Event.detail?, Json.textField?, fallen, Json.ofEntries, Dict.ofEntries, Json.field?_object]
    simp only [Dict.putAll, List.foldl_cons, List.foldl_nil]
    rw [Dict.value?_put_of_ne _ (by decide), Dict.value?_put_of_ne _ (by decide),
      Dict.value?_put_self]
    rfl
  rw [Event.isFallen, hkind]
  simp [fallen]

/-- Only deaths are followed by news of the fallen. -/
theorem isFallen_eq_false {event other : Event} (hkind : event.kind ≠ .npcDeath)
    (hleads : event.kind.Leads other.kind) : other.isFallen = false := by
  have hother : other.kind ≠ .worldEvent := by
    intro hnews
    rw [hnews] at hleads
    generalize event.kind = kind at hkind hleads
    cases hleads
    exact hkind rfl
  simp [Event.isFallen, hother]

end Cascade

/-! ### What a call changes -/

/-- The event makes someone appear and is processed well. -/
def Handling.isAppearance (handling : Handling) : Bool :=
  handling.event.kind = .npcSpawn ∧ handling.failed = false

namespace Handling.Turnover

variable {handling : Handling} {entry : EntityId × Npc}

/-- Who appears is one more, and who is told to have fallen is one less. -/
theorem length_npcs (h : handling.Turnover) :
    handling.after.world.npcs.length + handling.followups.countP Event.isFallen =
      handling.before.world.npcs.length + if handling.isAppearance then 1 else 0 := by
  cases h with
  | appears hkind houtcome hname hfresh hspawn hnpcs =>
      have hfollowups : handling.followups = [] := by rw [followups, houtcome]
      have happears : handling.isAppearance = true := by
        simp [isAppearance, hkind, failed, houtcome]
      rw [hnpcs, List.length_append, hfollowups, List.countP_nil, if_pos happears]
      rfl
  | falls hkind hname hfound htake houtcome =>
      obtain ⟨id, name, turn, hfollowups⟩ :
          ∃ id name turn, handling.followups = [Cascade.fallen id name turn] :=
        ⟨_, _, _, by rw [followups, houtcome]⟩
      have happears : ¬handling.isAppearance = true := by simp [isAppearance, hkind]
      rw [hfollowups, List.countP_cons_of_pos (Cascade.isFallen_fallen id name turn),
        List.countP_nil, if_neg happears, Roster.length_of_take? htake]
  | stays hnpcs hspawn hdeath hfallen =>
      have hnone : handling.followups.countP Event.isFallen = 0 :=
        List.countP_eq_zero.mpr fun event hevent => by simp [hfallen event hevent]
      have happears : ¬handling.isAppearance = true := by
        intro happears
        obtain ⟨hkind, hfailed⟩ := of_decide_eq_true happears
        rw [hspawn hkind] at hfailed
        cases hfailed
      rw [hnpcs, hnone, if_neg happears]

/-- Whoever goes stood under the identity of the one that a death names. -/
theorem exists_found_of_gone (h : handling.Turnover) (hbefore : entry ∈ handling.before.world.npcs)
    (hafter : entry ∉ handling.after.world.npcs) :
    handling.event.kind = .npcDeath ∧ ∃ name found, handling.event.detail? "name" = some name ∧
      handling.before.world.npcs.named? name = some found ∧ entry.1 = found.id := by
  cases h with
  | appears hkind houtcome hname hfresh hspawn hnpcs =>
      rw [hnpcs] at hafter
      exact absurd (List.mem_append_left _ hbefore) hafter
  | falls hkind hname hfound htake houtcome =>
      obtain ⟨before, after, hroster, hleft⟩ := Roster.exists_eq_of_take? htake
      rw [hleft] at hafter
      rw [hroster] at hbefore
      refine ⟨hkind, _, _, hname, hfound, ?_⟩
      rcases List.mem_append.mp hbefore with hmem | hmem
      · exact absurd (List.mem_append_left _ hmem) hafter
      · rcases List.mem_cons.mp hmem with rfl | hmem
        · rfl
        · exact absurd (List.mem_append_right _ hmem) hafter
  | stays hnpcs hspawn hdeath hfallen =>
      rw [hnpcs] at hafter
      exact absurd hbefore hafter

theorem proper (h : handling.Turnover) (hproper : handling.before.world.npcs.Proper) :
    handling.after.world.npcs.Proper := by
  cases h with
  | appears hkind houtcome hname hfresh hspawn hnpcs =>
      rw [hspawn]
      exact hproper.spawn _
  | falls hkind hname hfound htake houtcome => exact hproper.take? htake
  | stays hnpcs hspawn hdeath hfallen =>
      rw [hnpcs]
      exact hproper

theorem keyed (h : handling.Turnover) (hkeyed : handling.before.world.npcs.Keyed) :
    handling.after.world.npcs.Keyed := by
  cases h with
  | appears hkind houtcome hname hfresh hspawn hnpcs =>
      rw [hspawn]
      exact hkeyed.spawn _
  | falls hkind hname hfound htake houtcome => exact hkeyed.take? htake
  | stays hnpcs hspawn hdeath hfallen =>
      rw [hnpcs]
      exact hkeyed

/-- Nothing but appearances and deaths is about the roster. -/
theorem npcs_eq (h : handling.Turnover) (hspawn : handling.event.kind ≠ .npcSpawn)
    (hdeath : handling.event.kind ≠ .npcDeath) :
    handling.after.world.npcs = handling.before.world.npcs := by
  cases h with
  | appears hkind => exact absurd hkind hspawn
  | falls hkind => exact absurd hkind hdeath
  | stays hnpcs => exact hnpcs

end Handling.Turnover

/-! ### What each event does -/

namespace Cascade

variable {threshold : Float32}

/-- Nothing but appearances and deaths is about the roster. -/
theorem npcs_writeAll_of_ne {event : Event} (hspawn : event.kind ≠ .npcSpawn)
    (hdeath : event.kind ≠ .npcDeath) (turn : Nat) (world : World) :
    (world.writeAll (event.writes turn)).npcs = world.npcs := by
  refine World.writeAll_spares World.npcs (fun write hwrite world => ?_) world
  have hwrites := Event.kind_writes hwrite
  generalize event.kind = kind at hspawn hdeath hwrites
  cases hwrites with
  | level level => exact World.npcs_setChaos world level
  | shift delta => exact World.npcs_setChaos world _
  | appearance npc => exact absurd rfl hspawn
  | departure name => exact absurd rfl hdeath
  | place | arrival | flag | mark | quest => rfl

/-- Whoever is given a name appears under it. -/
theorem turnover_npcSpawn {event : Event} (hspawn : event.kind = .npcSpawn) (session : Session) :
    (handle (worldProcessor threshold) event session).Turnover := by
  cases hname : event.detail? "name" with
  | none =>
      have hcall : worldProcessor threshold event session =
          (session, .error (.malformed event.kind .missingName)) := by
        rw [worldProcessor, hspawn]
        simp only [npcSpawn, hname, hspawn]
      rw [handle, hcall]
      exact .stays rfl (fun _ => rfl) (fun h => absurd (hspawn.symm.trans h) (by decide))
        fun _ h => by cases h
  | some name =>
      let npc : Npc :=
        { id := session.world.npcs.freshId
          name
          disposition := ((event.detail? "disposition").bind Disposition.ofLabel?).getD .neutral
          spawnedTurn := session.turn }
      have hcall : worldProcessor threshold event session =
          (withWorld session (·.spawn npc), .ok []) := by
        rw [worldProcessor, hspawn]
        simp only [npcSpawn, hname]
        rfl
      have hfresh : ∀ entry ∈ session.world.npcs, entry.1 ≠ npc.id ∧ entry.2.id ≠ npc.id :=
        fun _ hentry => Roster.ne_freshId hentry
      rw [handle, hcall]
      exact .appears hspawn rfl hname hfresh rfl (Roster.spawn_fresh rfl)

/-- Whoever is found under a name falls. -/
theorem turnover_npcDeath {event : Event} (hdeath : event.kind = .npcDeath) (session : Session) :
    (handle (worldProcessor threshold) event session).Turnover := by
  have hspawn : event.kind ≠ .npcSpawn := fun h => absurd (hdeath.symm.trans h) (by decide)
  cases hname : event.detail? "name" with
  | none =>
      have hcall : worldProcessor threshold event session =
          (session, .error (.malformed event.kind .missingName)) := by
        rw [worldProcessor, hdeath]
        simp only [npcDeath, hname, hdeath]
      rw [handle, hcall]
      exact .stays rfl (fun h => absurd h hspawn)
        (fun _ _ hother => absurd (hname.symm.trans hother) (Option.some_ne_none _).symm)
        fun _ h => by cases h
  | some name =>
      cases hremove : session.world.npcs.remove name with
      | none =>
          have hcall : worldProcessor threshold event session = (session, .ok []) := by
            rw [worldProcessor, hdeath]
            simp only [npcDeath, hname, hremove]
          rw [handle, hcall]
          refine .stays rfl (fun h => absurd h hspawn) (fun _ other hother => ?_)
            fun _ h => by cases h
          obtain rfl := Option.some.inj (hname.symm.trans hother)
          exact hremove
      | some removed =>
          obtain ⟨npc, left⟩ := removed
          obtain ⟨found, hfound, htake⟩ := Roster.exists_of_remove hremove
          have hcall : worldProcessor threshold event session =
              (withWorld session fun world => { world with npcs := left },
                .ok [fallen (.made session.recorded 0) name session.turn]) := by
            rw [worldProcessor, hdeath]
            simp only [npcDeath, hname, hremove]
          rw [handle, hcall]
          exact .falls hdeath hname hfound htake rfl

/-- What one call does to the roster. -/
theorem turnover_handle (threshold : Float32) (event : Event) (session : Session) :
    (handle (worldProcessor threshold) event session).Turnover := by
  by_cases hspawn : event.kind = .npcSpawn
  · exact turnover_npcSpawn hspawn session
  by_cases hdeath : event.kind = .npcDeath
  · exact turnover_npcDeath hdeath session
  refine .stays ?_ (fun h => absurd h hspawn) (fun h => absurd h hdeath) fun other hother => ?_
  · rw [world_after_handle, worldProcessor_eq]
    exact npcs_writeAll_of_ne hspawn hdeath session.turn session.world
  · exact isFallen_eq_false hdeath (leads_handle hother)

/-! ### What a cascade does -/

theorem Calls.turnover {first last : Session} {calls : List Handling}
    (h : Calls (worldProcessor threshold) first calls last) {call : Handling}
    (hmem : call ∈ calls) : call.Turnover := by
  rw [h.eq_handle_of_mem hmem]
  exact turnover_handle threshold call.event call.before

/-- Calls one after another add up. -/
theorem Calls.length_npcs {first last : Session} {calls : List Handling}
    (h : Calls (worldProcessor threshold) first calls last) :
    last.world.npcs.length + (calls.flatMap (·.followups)).countP Event.isFallen =
      first.world.npcs.length + calls.countP Handling.isAppearance := by
  induction calls generalizing first with
  | nil =>
      obtain rfl := h
      rfl
  | cons call rest ih =>
      obtain ⟨hcall, hrest⟩ := h.eq_handle
      have hstep := (h.turnover List.mem_cons_self).length_npcs
      have hbefore : call.before = first := congrArg Handling.before hcall
      have hlater := ih hrest
      rw [hbefore] at hstep
      rw [List.flatMap_cons, List.countP_append, List.countP_cons]
      omega

/-- Whoever is gone after some calls goes with one of them. -/
theorem Calls.exists_gone {first last : Session} {calls : List Handling}
    (h : Calls (worldProcessor threshold) first calls last) {entry : EntityId × Npc}
    (hfirst : entry ∈ first.world.npcs) (hlast : entry ∉ last.world.npcs) :
    ∃ call ∈ calls, entry ∈ call.before.world.npcs ∧ entry ∉ call.after.world.npcs := by
  induction calls generalizing first with
  | nil =>
      obtain rfl := h
      exact absurd hfirst hlast
  | cons call rest ih =>
      obtain ⟨hcall, hrest⟩ := h.eq_handle
      have hbefore : call.before = first := congrArg Handling.before hcall
      by_cases hstays : entry ∈ call.after.world.npcs
      · obtain ⟨other, hother, hgone⟩ := ih hrest hstays
        exact ⟨other, List.mem_cons_of_mem _ hother, hgone⟩
      · exact ⟨call, List.mem_cons_self, hbefore ▸ hfirst, hstays⟩

/-- What every call keeps holds before each of them and at the end. -/
theorem Calls.invariant {process : Processor} {P : Session → Prop} {first last : Session}
    {calls : List Handling} (h : Calls process first calls last)
    (hkeeps : ∀ call ∈ calls, P call.before → P call.after) (hfirst : P first) :
    (∀ call ∈ calls, P call.before) ∧ P last := by
  induction calls generalizing first with
  | nil =>
      obtain rfl := h
      exact ⟨fun _ hmem => absurd hmem List.not_mem_nil, hfirst⟩
  | cons call rest ih =>
      obtain ⟨hcall, hrest⟩ := h.eq_handle
      have hbefore : P call.before := (congrArg Handling.before hcall) ▸ hfirst
      obtain ⟨hothers, hlast⟩ :=
        ih hrest (fun other hother => hkeeps other (List.mem_cons_of_mem _ hother))
          (hkeeps call List.mem_cons_self hbefore)
      exact ⟨List.forall_mem_cons.mpr ⟨hbefore, hothers⟩, hlast⟩

/-- Where everyone stands under the identity that they have, whoever is gone left with a death of
their name. -/
theorem Calls.exists_name_of_gone {first last : Session} {calls : List Handling}
    (h : Calls (worldProcessor threshold) first calls last) (hproper : first.world.npcs.Proper)
    (hkeyed : first.world.npcs.Keyed) {entry : EntityId × Npc} (hfirst : entry ∈ first.world.npcs)
    (hlast : entry ∉ last.world.npcs) :
    ∃ call ∈ calls, call.event.kind = .npcDeath ∧ ∃ name,
      call.event.detail? "name" = some name ∧ Roster.sameName entry.2.name name = true := by
  obtain ⟨call, hcall, hbefore, hafter⟩ := h.exists_gone hfirst hlast
  obtain ⟨hkind, name, found, hname, hfound, hid⟩ :=
    (h.turnover hcall).exists_found_of_gone hbefore hafter
  obtain ⟨⟨key, hmem⟩, hsame⟩ := Roster.exists_mem_of_named? hfound
  have hthen := (h.invariant (P := fun session => session.world.npcs.Proper)
    (fun other hother => (h.turnover hother).proper) hproper).1 call hcall
  have hown := (h.invariant (P := fun session => session.world.npcs.Keyed)
    (fun other hother => (h.turnover hother).keyed) hkeyed).1 call hcall
  have hgone : entry.2 = found := hthen.eq_of_keyed hown hmem hbefore hid
  exact ⟨call, hcall, hkind, name, hname, by rw [hgone]; exact hsame⟩

/-- **The roster is accounted for.** At the end there are as many in the scene as at the start, with
one more for each appearance that was processed well and one less for each of the fallen that the
report names. Whoever is gone stood under the identity of the one that a death named, ignoring case,
and if everyone stands under the identity that they have, they are that one themselves. No other
kind of event is about the roster. -/
theorem roster_accounted (threshold : Float32) (depth : Nat) (queue : List Event)
    (session : Session) :
    let calls := (trace (worldProcessor threshold) depth queue session).handlings
    let drained := drain (worldProcessor threshold) depth queue session
    let npcs := session.world.npcs
    let left := drained.1.world.npcs
    Calls (worldProcessor threshold) session calls drained.1 ∧
    left.length + drained.2.events.countP Event.isFallen =
      npcs.length + calls.countP Handling.isAppearance ∧
    (∀ entry ∈ npcs, entry ∉ left → ∃ call ∈ calls, call.event.kind = .npcDeath ∧
      ∃ name found, call.event.detail? "name" = some name ∧
        call.before.world.npcs.named? name = some found ∧
        Roster.sameName found.name name = true ∧ entry.1 = found.id) ∧
    (npcs.Proper → npcs.Keyed → ∀ entry ∈ npcs, entry ∉ left →
      ∃ call ∈ calls, call.event.kind = .npcDeath ∧ ∃ name,
        call.event.detail? "name" = some name ∧ Roster.sameName entry.2.name name = true) ∧
    (∀ call ∈ calls, call.Turnover ∧
      (call.event.kind ≠ .npcSpawn → call.event.kind ≠ .npcDeath →
        call.after.world.npcs = call.before.world.npcs)) ∧
    (npcs.Proper → left.Proper) ∧ (npcs.Keyed → left.Keyed) := by
  intro calls drained npcs left
  have hdrained : drained = _ := drain_eq (worldProcessor threshold) depth queue session
  have hcalls : Calls (worldProcessor threshold) session calls drained.1 := by
    rw [hdrained]
    exact calls_trace _ _ _ _
  have hevents : drained.2.events = calls.flatMap (·.followups) := by rw [hdrained]; rfl
  refine ⟨hcalls, hevents ▸ hcalls.length_npcs, fun entry hfirst hlast => ?_,
    fun hproper hkeyed entry => hcalls.exists_name_of_gone hproper hkeyed,
    fun call hcall => ⟨hcalls.turnover hcall, (hcalls.turnover hcall).npcs_eq⟩,
    fun hproper => (hcalls.invariant (P := fun session => session.world.npcs.Proper)
      (fun call hcall => (hcalls.turnover hcall).proper) hproper).2,
    fun hkeyed => (hcalls.invariant (P := fun session => session.world.npcs.Keyed)
      (fun call hcall => (hcalls.turnover hcall).keyed) hkeyed).2⟩
  obtain ⟨call, hcall, hbefore, hafter⟩ := hcalls.exists_gone hfirst hlast
  obtain ⟨hkind, name, found, hname, hfound, hid⟩ :=
    (hcalls.turnover hcall).exists_found_of_gone hbefore hafter
  exact ⟨call, hcall, hkind, name, found, hname, hfound,
    (Roster.exists_mem_of_named? hfound).2, hid⟩

/-- Whoever leaves a scene in which all identities are different has the name of a death that was
processed. -/
def LosesByName (threshold : Float32) : Prop :=
  ∀ depth queue session, session.world.npcs.Proper →
    ∀ entry ∈ session.world.npcs,
      entry ∉ (drain (worldProcessor threshold) depth queue session).1.world.npcs →
      ∃ call ∈ (trace (worldProcessor threshold) depth queue session).handlings,
        call.event.kind = .npcDeath ∧ ∃ name,
          call.event.detail? "name" = some name ∧ Roster.sameName entry.2.name name = true

/-- Mira stands under another identity and has that of Oren. Her death takes him. -/
theorem not_losesByName : ¬LosesByName 0.8 := by
  intro h
  let mira : Npc := { id := .known ⟨11⟩, name := "Mira", spawnedTurn := 1 }
  let oren : Npc := { id := .known ⟨11⟩, name := "Oren", spawnedTurn := 2 }
  let scene : Session :=
    { id := ⟨0⟩, turn := 4, world := { npcs := [(.known ⟨10⟩, mira), (.known ⟨11⟩, oren)] } }
  let death : Event :=
    { id := .known ⟨12⟩, kind := .npcDeath, payload := .object [("name", .text "Mira")] }
  let calls := (trace (worldProcessor 0.8) 1 [death] scene).handlings
  let left := (drain (worldProcessor 0.8) 1 [death] scene).1.world.npcs
  have hproper : (scene.world.npcs.map (·.1)).Nodup := by decide
  have hgone : (EntityId.known ⟨11⟩, oren) ∉ left := by
    intro hthere
    have hleft : EntityId.known ⟨11⟩ ∉ left.map (·.1) := by decide +kernel
    exact hleft (List.mem_map_of_mem hthere)
  obtain ⟨call, hcall, -, name, hname, hsame⟩ :=
    h 1 [death] scene hproper (.known ⟨11⟩, oren)
      (List.mem_cons_of_mem _ List.mem_cons_self) hgone
  -- The only name in a death is that of Mira.
  have hnames : calls.map (·.event.detail? "name") = [some "Mira"] := by decide +kernel
  have hmira : call.event.detail? "name" ∈ calls.map (·.event.detail? "name") :=
    List.mem_map_of_mem hcall
  rw [hnames, List.mem_singleton, hname] at hmira
  obtain rfl := Option.some.inj hmira
  exact absurd hsame (by decide)

/-- Two share a name, and each of two deaths takes one of them; the third finds no one, and who has
no name does not appear. -/
example :
    let death (number : Nat) (name : String) : Event :=
      { id := .known ⟨number⟩, kind := .npcDeath, payload := .object [("name", .text name)] }
    let spawn (number : Nat) (fields : List (String × Json)) : Event :=
      { id := .known ⟨number⟩, kind := .npcSpawn, payload := .object fields }
    let world : World := {}
    let scene : Session :=
      { id := ⟨0⟩
        turn := 2
        world := world.spawn { id := .known ⟨1⟩, name := "Mara", spawnedTurn := 1 } }
    let queue : List Event :=
      [spawn 2 [("name", .text "MARA")], death 3 "mara", spawn 4 [],
       spawn 5 [("name", .text "Jory")], death 6 "Mara", death 7 "Mara"]
    let drained := drain (worldProcessor 0.8) 3 queue scene
    drained.1.world.npcs.map (·.2.name) = ["Jory"] ∧
      drained.2.events.countP Event.isFallen = 2 ∧
      (trace (worldProcessor 0.8) 3 queue scene).handlings.countP Handling.isAppearance = 2 := by
  decide +kernel

end Cascade

end StoryDirector
