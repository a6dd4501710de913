import StoryDirector.Briefing.Fingerprint
import StoryDirector.Proofs.Json.Ordered
import StoryDirector.Record.Session
/-!
# StoryDirector.Proofs.Briefing.Question

**Two briefings have the same canonical text exactly if they ask the same question**
(`Briefing.canonicalText_eq_iff`, with `Briefing.SameQuestion` for what counts). Who plays, what was
said before, the histories and the circumstances do not count, nor does the order of those present.

The text is that of an object with eight fields, and its names are always the same, so texts are the
same exactly if the values under each name are alike. Sorting makes one list of names out of all
lists that have each of them as often (`mergeSort_eq_iff_perm`).
-/

namespace StoryDirector

/-! ### Names in order -/

/-- Names are in the same order when sorted exactly if they are the same names, each as often. -/
theorem mergeSort_eq_iff_perm {names others : List String} :
    (names.mergeSort fun a b => decide (a ≤ b)) = (others.mergeSort fun a b => decide (a ≤ b)) ↔
      names.Perm others := by
  refine ⟨fun h => ?_, fun h => ?_⟩
  · have hnames := List.mergeSort_perm names fun a b => decide (a ≤ b)
    rw [h] at hnames
    exact hnames.symm.trans (List.mergeSort_perm others _)
  · have hsorted : ∀ some : List String,
        (some.mergeSort fun a b => decide (a ≤ b)).Pairwise (· ≤ ·) := by
      intro some
      have hpairwise := @List.pairwise_mergeSort String (fun a b => decide (a ≤ b))
        (fun a b c => by simpa using String.le_trans)
        (fun a b => by simpa using String.le_total a b) some
      simpa using hpairwise
    have hperm : (names.mergeSort fun a b => decide (a ≤ b)).Perm
        (others.mergeSort fun a b => decide (a ≤ b)) :=
      ((List.mergeSort_perm names _).trans h).trans (List.mergeSort_perm others _).symm
    exact hperm.eq_of_pairwise (fun _ _ _ _ => String.le_antisymm) (hsorted names) (hsorted others)

theorem ActionKind.name_injective : Function.Injective ActionKind.name := by
  have hread : ∀ kind, ActionKind.ofName? kind.name = some kind := by
    intro kind
    cases kind <;> decide
  intro kind other h
  have hother := hread kind
  rw [h, hread other] at hother
  exact (Option.some.inj hother).symm

/-- The extras of every action that is read from something in order are in order. -/
theorem PlayerAction.ordered_metadata {j : Json} {action : PlayerAction} (hj : j.Ordered)
    (h : PlayerAction.ofRecord? j = some action) : (Json.object action.metadata).Ordered := by
  simp only [ofRecord?, Option.bind_eq_bind, Option.bind_eq_some_iff] at h
  obtain ⟨fields, hfields, id, -, kind, -, text, -, metadata, hmetadata, h⟩ := h
  obtain rfl := Option.some.inj h
  rw [Fields.orElse] at hmetadata
  split at hmetadata
  case h_1 value hvalue =>
      have hvalues := hj.find? hfields hvalue
      cases hvalues with
      | object hnames hextras =>
          obtain rfl := Option.some.inj hmetadata
          exact .object hnames hextras
      | null | bool | int | float | text | array => cases hmetadata
  case h_2 =>
      obtain rfl := Option.some.inj hmetadata
      exact .object .nil fun _ hextra => absurd hextra List.not_mem_nil

namespace Briefing

variable {a b : Briefing}

/-- Two briefings ask the same question. -/
structure SameQuestion (a b : Briefing) : Prop where
  /-- The tasks have the same name, -/
  task : a.task = b.task
  /-- the actions are of the same kind -/
  kind : a.kind = b.kind
  /-- and have the same text, -/
  action : a.action.text = b.action.text
  /-- and extras that say the same, but for those that pass. -/
  metadata : ∀ name ∉ passingExtras, Option.Rel Json.Alike
    (Dict.value? a.action.metadata name) (Dict.value? b.action.metadata name)
  /-- It is the same turn, -/
  turn : a.view.turn = b.view.turn
  /-- at the same place, -/
  location : a.view.location = b.view.location
  /-- with as much chaos, to the hundredth, -/
  chaos : chaosHundredths a.view.chaos = chaosHundredths b.view.chaos
  /-- and the same names are there, in whatever order. -/
  npcs : a.view.npcs.Perm b.view.npcs

theorem key_eq (briefing : Briefing) : briefing.key = .object
    [("action", .text briefing.action.text),
     ("chaos", .int (chaosHundredths briefing.view.chaos)),
     ("kind", .text briefing.kind.name),
     ("location", .text briefing.view.location),
     ("metadata", .object (Dict.without briefing.action.metadata passingExtras)),
     ("npcs", .array ((briefing.view.npcs.mergeSort fun a b => decide (a ≤ b)).map .text)),
     ("task", .text briefing.task),
     ("turn", .int briefing.view.turn)] := by
  simp [key, Json.ofEntries, Dict.ofEntries, Dict.putAll, Dict.put, -String.lt_iff_ltb]

/-- The extras that count are in order if all are. -/
theorem ordered_key {briefing : Briefing}
    (h : (Json.object briefing.action.metadata).Ordered) : briefing.key.Ordered := by
  refine Json.ordered_ofEntries ?_
  simp only [List.forall_mem_cons]
  refine ⟨.text _, .text _, .text _, Json.ordered_without h _, .int _, .text _, .int _, ?_,
    fun _ hnone => absurd hnone List.not_mem_nil⟩
  refine .array fun item hitem => ?_
  obtain ⟨name, -, rfl⟩ := List.mem_map.mp hitem
  exact .text name

/-- What counts of the extras is alike if they say the same under every name that counts. -/
theorem alike_without_iff {fields others : Dict Json} {dropped : List String} :
    Json.Alike (.object (Dict.without fields dropped)) (.object (Dict.without others dropped)) ↔
      ∀ name ∉ dropped, Option.Rel Json.Alike (Dict.value? fields name)
        (Dict.value? others name) := by
  simp only [Json.alike_object_iff, Dict.value?_without]
  refine forall_congr' fun name => ?_
  by_cases h : name ∈ dropped
  · simp [h]
  · simp [h]

theorem alike_key_iff : Json.Alike a.key b.key ↔ a.SameQuestion b := by
  rw [key_eq, key_eq]
  refine ⟨fun h => ?_, fun h => .object (Json.rel_value?_of_forall₂ ?_)⟩
  · have hvalue := Json.alike_object_iff.mp h
    exact {
      task := by simpa [Dict.value?] using hvalue "task"
      kind := ActionKind.name_injective (by simpa [Dict.value?] using hvalue "kind")
      action := by simpa [Dict.value?] using hvalue "action"
      metadata := by
        have hextras := hvalue "metadata"
        simp only [Dict.value?, String.reduceEq, if_false, if_true, Option.rel_some_some] at hextras
        exact alike_without_iff.mp hextras
      turn := by simpa [Dict.value?] using hvalue "turn"
      location := by simpa [Dict.value?] using hvalue "location"
      chaos := by simpa [Dict.value?] using hvalue "chaos"
      npcs := by
        have hnames := hvalue "npcs"
        simp only [Dict.value?, String.reduceEq, if_false, if_true, Option.rel_some_some] at hnames
        exact mergeSort_eq_iff_perm.mp (Json.alike_texts_iff.mp hnames) }
  · have hkind : a.kind.name = b.kind.name := congrArg ActionKind.name h.kind
    have hturn : (a.view.turn : Int) = b.view.turn := congrArg Nat.cast h.turn
    have hnames := mergeSort_eq_iff_perm.mpr h.npcs
    exact .cons ⟨rfl, Json.alike_text_iff.mpr h.action⟩
      (.cons ⟨rfl, Json.alike_int_iff.mpr h.chaos⟩
      (.cons ⟨rfl, Json.alike_text_iff.mpr hkind⟩
      (.cons ⟨rfl, Json.alike_text_iff.mpr h.location⟩
      (.cons ⟨rfl, alike_without_iff.mpr h.metadata⟩
      (.cons ⟨rfl, Json.alike_texts_iff.mpr hnames⟩
      (.cons ⟨rfl, Json.alike_text_iff.mpr h.task⟩
      (.cons ⟨rfl, Json.alike_int_iff.mpr hturn⟩ .nil)))))))

/-- **The canonical texts of two briefings are the same exactly if they ask the same question**, as
far as their extras are in order. -/
theorem canonicalText_eq_iff (ha : (Json.object a.action.metadata).Ordered)
    (hb : (Json.object b.action.metadata).Ordered) :
    a.canonicalText = b.canonicalText ↔ a.SameQuestion b :=
  (Json.render_eq_iff (ordered_key ha) (ordered_key hb)).trans alike_key_iff

/-- Whatever the order of the extras is, briefings with the same text ask the same question. -/
theorem sameQuestion_of_canonicalText (h : a.canonicalText = b.canonicalText) : a.SameQuestion b :=
  alike_key_iff.mp (Json.alike_of_render h)

end Briefing

end StoryDirector
