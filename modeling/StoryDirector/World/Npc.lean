import StoryDirector.Text.Blank
import StoryDirector.Text.Lowercase
import StoryDirector.Uuid
/-!
# StoryDirector.World.Npc

The characters of a scene. **A roster maps identities to characters, and names need not be unique in
it.** Whoever appears gets an identity that no one in the roster has (`Roster.freshId`) and stands
under it (`Roster.spawn`).

A character knows its own identity as well, and whoever leaves is found by name, in the order of
appearance and ignoring ASCII case, but taken away by the identity that was found
(`Roster.remove`). In a roster that came from outside a character may stand under another one.
-/

namespace StoryDirector

/-- How a character feels about the player. -/
inductive Disposition where
  /-- Well disposed. -/
  | friendly
  /-- Neither. -/
  | neutral
  /-- Ill disposed. -/
  | hostile
  deriving DecidableEq, Repr

namespace Disposition

/-- Every disposition, in the order of their definition. -/
def all : List Disposition := [friendly, neutral, hostile]

/-- The name of a disposition. -/
def name : Disposition → String
  | friendly => "friendly"
  | neutral => "neutral"
  | hostile => "hostile"

/-- The disposition with a given name. -/
def ofName? (s : String) : Option Disposition :=
  all.find? fun disposition => disposition.name = s

/-- The disposition that a label means; blanks around it and case do not matter. -/
def ofLabel? (label : String) : Option Disposition :=
  ofName? (Text.lowercase (Text.trim label))

end Disposition

/-- The identity of a character. -/
inductive EntityId where
  /-- An identity that came from outside. -/
  | known (id : Uuid)
  /-- An identity given at the appearance. -/
  | minted (serial : Nat)
  deriving DecidableEq

namespace EntityId

/-- The identity as it is written; one that was given at an appearance has no such form. -/
def uuid? : EntityId → Option Uuid
  | .known id => some id
  | .minted _ => none

/-- The serial number of a minted identity. -/
def serial : EntityId → Nat
  | .known _ => 0
  | .minted serial => serial

end EntityId

/-- A character. -/
structure Npc where
  /-- The identity. -/
  id : EntityId
  /-- The name. -/
  name : String
  /-- The feeling towards the player. -/
  disposition : Disposition := .neutral
  /-- The turn of the appearance. -/
  spawnedTurn : Nat

namespace Npc

/-- Whether the character is ill disposed. -/
def isHostile (npc : Npc) : Bool :=
  npc.disposition = .hostile

/-- A character that has no identity yet. -/
abbrev Draft := EntityId → Npc

end Npc

/-- The characters in a scene, each under an identity, in order of appearance. -/
abbrev Roster := List (EntityId × Npc)

namespace Roster

/-- A serial number above all in the roster. -/
def freshSerial (roster : Roster) : Nat :=
  roster.foldr (fun entry acc => max (max entry.1.serial entry.2.id.serial + 1) acc) 1

/-- An identity that no one in the roster has. -/
def freshId (roster : Roster) : EntityId :=
  .minted roster.freshSerial

/-- The roster with a character under an identity, in place of whoever stood there. -/
def put (roster : Roster) (id : EntityId) (npc : Npc) : Roster :=
  roster.filter (·.1 ≠ id) ++ [(id, npc)]

/-- The roster with a character who appears, under its own identity. -/
def spawn (roster : Roster) (npc : Npc) : Roster :=
  roster.put npc.id npc

/-- Whether two names are equal but for ASCII case. -/
def sameName (a b : String) : Bool :=
  a.toList.map Text.lowerAscii = b.toList.map Text.lowerAscii

/-- The first character of a name. -/
def named? (roster : Roster) (name : String) : Option Npc :=
  (roster.find? fun entry => sameName entry.2.name name).map (·.2)

/-- Whoever stands under an identity, with the roster left behind. -/
def take? (id : EntityId) : Roster → Option (Npc × Roster)
  | [] => none
  | (key, npc) :: rest =>
    if key = id then some (npc, rest)
    else (take? id rest).map fun (found, left) => (found, (key, npc) :: left)

/-- The first character of a name is looked up, and whoever stands under its identity is taken
away. -/
def remove (name : String) (roster : Roster) : Option (Npc × Roster) :=
  (roster.named? name).bind fun npc => take? npc.id roster

/-- The names in the roster, in rising order. -/
def names (roster : Roster) : List String :=
  (roster.map (·.2.name)).mergeSort fun a b => decide (a ≤ b)

theorem serial_lt_freshSerial {roster : Roster} {id : EntityId} {npc : Npc}
    (h : (id, npc) ∈ roster) :
    id.serial < roster.freshSerial ∧ npc.id.serial < roster.freshSerial := by
  induction roster with
  | nil => cases h
  | cons entry rest ih =>
    rw [freshSerial, List.foldr_cons]
    rcases List.mem_cons.mp h with h | h
    · subst h
      dsimp only
      omega
    · have hrest := ih h
      rw [freshSerial] at hrest
      omega

/-- No one has the identity that is given at an appearance, -/
theorem ne_freshId {roster : Roster} {id : EntityId} {npc : Npc} (h : (id, npc) ∈ roster) :
    id ≠ roster.freshId ∧ npc.id ≠ roster.freshId := by
  obtain ⟨hid, hown⟩ := serial_lt_freshSerial h
  constructor
  · rintro rfl
    exact Nat.lt_irrefl _ hid
  · intro heq
    rw [heq] at hown
    exact Nat.lt_irrefl _ hown

/-- so whoever appears joins those who are there. -/
theorem spawn_fresh {roster : Roster} {npc : Npc} (h : npc.id = roster.freshId) :
    roster.spawn npc = roster ++ [(npc.id, npc)] := by
  rw [spawn, put, h, List.filter_eq_self.mpr]
  intro entry hentry
  exact decide_eq_true (ne_freshId hentry).1

/-- One leaves, and whoever else is there stays. -/
theorem length_of_take? {id : EntityId} {roster left : Roster} {npc : Npc}
    (h : take? id roster = some (npc, left)) : roster.length = left.length + 1 := by
  induction roster generalizing left with
  | nil => cases h
  | cons entry rest ih =>
    obtain ⟨key, other⟩ := entry
    rw [take?] at h
    split at h
    · cases h
      rfl
    · obtain ⟨⟨found, kept⟩, hrec, heq⟩ := Option.map_eq_some_iff.mp h
      cases heq
      simp [ih hrec]

end Roster

end StoryDirector
