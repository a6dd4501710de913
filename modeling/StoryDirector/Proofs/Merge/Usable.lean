import StoryDirector.Merge
import StoryDirector.Proofs.Json.Ordered
import StoryDirector.Proofs.Settings.Requirements
/-!
# StoryDirector.Proofs.Merge.Usable

**Whatever came of the tasks, the answer is one that a client can use** (`Merge.answer_usable`): it
tells something, it offers something to do, and nothing twice. That holds with settings that were
found valid, also if every worker is down: the placeholder is not blank, and some choice is always
offered.

Each part of the answer is described without the loop that makes it:

* of all choices that are offered, the first of each text is taken (`map_text_firstOfEach` and
  `find?_of_mem_firstOfEach`);
* under each name stands what the last response that counts and knows the name says of it
  (`value?_stateChanges`).
-/

namespace StoryDirector

/-! ### Texts with something in them -/

namespace Text

/-- What is left after trimming begins with something that is not blank. -/
theorem isBlankText_trim {s : String} (h : ¬ (trim s).isEmpty = true) :
    isBlankText (trim s) = false := by
  have hkept : (trim s).toList = trimChars s.toList := String.toList_ofList
  have hsome : trimChars s.toList ≠ [] := by
    intro hnone
    rw [hnone] at hkept
    exact h (by rw [String.toList_eq_nil_iff.mp hkept]; rfl)
  rw [isBlankText, hkept, trimChars, List.all_reverse]
  have hfirst := List.head?_dropWhile_not isBlank (trimStart s.toList).reverse
  rw [trimChars, ne_eq, List.reverse_eq_nil_iff] at hsome
  obtain ⟨first, rest, heq⟩ := List.exists_cons_of_ne_nil hsome
  rw [trimStart] at heq
  rw [heq] at hfirst
  rw [trimStart, heq, List.all_cons, show isBlank first = false from hfirst, Bool.false_and]

/-- Pieces put together are not blank if the first is not. -/
theorem isBlankText_intercalate {piece : String} (h : isBlankText piece = false)
    (separator : String) (rest : List String) :
    isBlankText (separator.intercalate (piece :: rest)) = false := by
  rw [isBlankText, String.toList_intercalate, List.map_cons]
  rw [isBlankText] at h
  cases rest with
  | nil => simpa [List.intercalate] using h
  | cons next rest => simp [List.intercalate, h]

end Text

theorem Response.isBlankText_of_narrativeText? {response : Response} {text : String}
    (h : response.narrativeText? = some text) : Text.isBlankText text = false := by
  unfold narrativeText? at h
  split at h
  case h_1 => cases h
  case h_2 told _ =>
      dsimp only at h
      split at h
      case isTrue => cases h
      case isFalse hsome =>
          obtain rfl := Option.some.inj h
          exact Text.isBlankText_trim hsome

/-! ### Settings that were found valid -/

namespace Settings

variable {settings : Settings}

theorem maxChoices_of_isValid (h : settings.isValid = true) : 1 ≤ settings.merge.maxChoices := by
  have hmet : Requirement.met settings .choices = true := isValid_iff.mp h .choices
  exact Nat.pos_of_ne_zero (of_decide_eq_true hmet)

theorem placeholder_of_isValid (h : settings.isValid = true) :
    Text.isBlankText settings.merge.placeholder = false := by
  have hmet : Requirement.met settings .placeholder = true := isValid_iff.mp h .placeholder
  exact (Bool.not_eq_true' _).mp hmet

end Settings

/-! ### What stands under a name -/

namespace Dict

variable {α : Type} {d : Dict α}

/-- Of entries that are put over others, those of the name count if there are any. -/
theorem value?_putAll {entries : Dict α} (h : (names entries).Nodup) (key : String) :
    value? (putAll d entries) key = (value? entries key).or (value? d key) := by
  induction entries generalizing d with
  | nil => rfl
  | cons entry rest ih =>
      obtain ⟨hnew, hrest⟩ := List.nodup_cons.mp h
      have hput := ih hrest (d := put d entry.1 entry.2)
      rw [show putAll d (entry :: rest) = putAll (put d entry.1 entry.2) rest from rfl, hput,
        value?_cons]
      by_cases hkey : entry.1 = key
      · -- None of the later entries has the name, so this one stands.
        subst hkey
        have hnone : value? rest entry.1 = none := by
          cases hvalue : value? rest entry.1 with
          | none => rfl
          | some value => exact absurd (List.mem_map_of_mem (mem_of_value? hvalue)) hnew
        rw [if_pos rfl, hnone, value?_put_self]
        rfl
      · rw [if_neg hkey, value?_put_of_ne d (Ne.symm hkey)]

end Dict

namespace Merge

variable {responses : List Response}

/-- Every response has at most one change under each name. -/
def WellFormed (responses : List Response) : Prop :=
  ∀ response ∈ responses, (Dict.names response.stateChanges).Nodup

/-- Under each name stands what the last response that counts and knows the name says of it. -/
theorem value?_stateChanges (h : WellFormed responses) (key : String) :
    Dict.value? (stateChanges responses) key =
      ((successful responses).filterMap fun response =>
        Dict.value? response.stateChanges key).getLast? := by
  have hfold : ∀ counting : List Response, WellFormed counting →
      Dict.value? (counting.foldl (fun changes response =>
        Dict.putAll changes response.stateChanges) []) key =
      (counting.filterMap fun response => Dict.value? response.stateChanges key).getLast? := by
    intro counting hcounting
    -- The last response is the one whose changes are put over all others.
    induction counting using List.reverseRecOn with
    | nil => rfl
    | append_singleton earlier last ih =>
        have hearlier := ih fun response hresponse =>
          hcounting response (List.mem_append_left _ hresponse)
        have hlast := hcounting last (List.mem_append_right _ List.mem_cons_self)
        rw [List.foldl_append, List.foldl_cons, List.foldl_nil, Dict.value?_putAll hlast, hearlier,
          List.filterMap_append, List.getLast?_append]
        cases hvalue : Dict.value? last.stateChanges key <;> simp [hvalue]
  exact hfold _ fun response hresponse => h response (List.mem_filter.mp hresponse).1

theorem nodup_names_stateChanges (responses : List Response) :
    (Dict.names (stateChanges responses)).Nodup := by
  have hrising : ∀ (counting : List Response) (told : Dict Json), told.Rising →
      (counting.foldl (fun changes response =>
        Dict.putAll changes response.stateChanges) told).Rising := by
    intro counting
    induction counting with
    | nil => exact fun _ htold => htold
    | cons response rest ih =>
        exact fun told htold => ih _ (Dict.rising_putAll htold response.stateChanges)
  exact Dict.nodup_names (hrising (successful responses) [] List.Pairwise.nil)

/-! ### The first of each text -/

variable {seen : List String} {choices : List Choice}

/-- The texts that are kept are those that were not seen before, each once. -/
theorem map_text_firstOfEach (seen : List String) (choices : List Choice) :
    (firstOfEach seen choices).map (·.text) =
      ((choices.map (·.text)).filter (· ∉ seen)).eraseDups := by
  induction choices generalizing seen with
  | nil => rfl
  | cons choice rest ih =>
      rw [firstOfEach, List.map_cons]
      split
      case isTrue hseen => rw [ih, List.filter_cons_of_neg (by simpa using hseen)]
      case isFalse hnew =>
          rw [List.map_cons, ih, List.filter_cons_of_pos (by simpa using hnew), List.eraseDups_cons,
            List.filter_filter]
          congr 3
          funext text
          by_cases htext : text = choice.text <;> simp [htext]

theorem nodup_firstOfEach (seen : List String) (choices : List Choice) :
    ((firstOfEach seen choices).map (·.text)).Nodup := by
  induction choices generalizing seen with
  | nil => exact List.nodup_nil
  | cons choice rest ih =>
      rw [firstOfEach]
      split
      · exact ih seen
      · refine List.nodup_cons.mpr ⟨fun hagain => ?_, ih _⟩
        obtain ⟨other, hother, htext⟩ := List.mem_map.mp hagain
        exact text_not_mem_of_mem_firstOfEach hother (htext ▸ List.mem_cons_self)

/-- Each choice that is kept is the first of its text. -/
theorem find?_of_mem_firstOfEach {choice : Choice} (h : choice ∈ firstOfEach seen choices) :
    choices.find? (·.text = choice.text) = some choice := by
  induction choices generalizing seen with
  | nil => cases h
  | cons first rest ih =>
      rw [firstOfEach] at h
      split at h
      case isTrue hseen =>
          have hother : first.text ≠ choice.text := fun htext =>
            text_not_mem_of_mem_firstOfEach h (htext ▸ hseen)
          rw [List.find?_cons_of_neg (by simpa using hother)]
          exact ih h
      case isFalse hnew =>
          rcases List.mem_cons.mp h with rfl | hrest
          · exact List.find?_cons_of_pos (by simp)
          · have hother : first.text ≠ choice.text := fun htext =>
              text_not_mem_of_mem_firstOfEach hrest (htext ▸ List.mem_cons_self)
            rw [List.find?_cons_of_neg (by simpa using hother)]
            exact ih hrest

theorem firstOfEach_ne_nil (h : choices ≠ []) : firstOfEach [] choices ≠ [] := by
  obtain ⟨first, rest, rfl⟩ := List.exists_cons_of_ne_nil h
  simp [firstOfEach]

/-! ### The story -/

theorem isBlankText_of_narratives? {narrative : String}
    (h : narratives? responses = some narrative) :
    Text.isBlankText narrative = false := by
  rw [narratives?] at h
  cases hpieces : (successful responses).filterMap (·.narrativeText?) with
  | nil =>
      rw [hpieces] at h
      cases h
  | cons piece rest =>
      rw [hpieces] at h
      obtain rfl := Option.some.inj h
      have hpiece : piece ∈ (successful responses).filterMap (·.narrativeText?) :=
        hpieces ▸ List.mem_cons_self
      obtain ⟨response, -, htext⟩ := List.mem_filterMap.mp hpiece
      exact Text.isBlankText_intercalate (Response.isBlankText_of_narrativeText? htext) _ _

end Merge

/-- What a client may rely on in an answer that is made of some responses and has room for some
choices. -/
structure Answer.Usable (responses : List Response) (room : Nat) (answer : Answer) : Prop where
  /-- It tells something. -/
  narrative : Text.isBlankText answer.narrative = false
  /-- There is something to do, -/
  offers : 1 ≤ answer.choices.length
  /-- and no more than there is room for. -/
  bounded : answer.choices.length ≤ room
  /-- Nothing is offered twice. -/
  distinct : (answer.choices.map (·.text)).Nodup
  /-- What the responses that count offer, and behind it what the story suggests, is offered in this
  order, each text where it comes first, as far as there is room; -/
  texts : answer.choices.map (·.text) =
    (((((successful responses).flatMap (·.choiceList)) ++
      Merge.contextual answer.narrative).map (·.text)).eraseDups).take room
  /-- and it is offered as it comes first. -/
  firsts : ∀ choice ∈ answer.choices,
    ((successful responses).flatMap (·.choiceList) ++
      Merge.contextual answer.narrative).find? (·.text = choice.text) = some choice
  /-- No change has two values. -/
  names : (Dict.names answer.stateChanges).Nodup
  /-- It has the value that the last response gives it of those that count and give it any, and what
  none of these gives a value is no change. -/
  changes : ∀ key, Dict.value? answer.stateChanges key =
    ((successful responses).filterMap fun response =>
      Dict.value? response.stateChanges key).getLast?

namespace Merge

/-- **The answer is always usable**: with valid settings, whatever came of the tasks and whatever
the cascade brought about. -/
theorem answer_usable {settings : Settings} (hvalid : settings.isValid = true)
    {results : List TaskResult} (hresults : WellFormed (responsesOf results))
    (cascade : List Event) (facts : RunFacts) :
    (answer settings.merge results cascade facts).Usable (responsesOf results)
      settings.merge.maxChoices := by
  let made := answer settings.merge results cascade facts
  let offered := (successful (responsesOf results)).flatMap (·.choiceList) ++
    contextual made.narrative
  have hroom := Settings.maxChoices_of_isValid hvalid
  have hchoices : made.choices = (firstOfEach [] offered).take settings.merge.maxChoices := by
    show distinct offered (max settings.merge.maxChoices 1) = _
    rw [Nat.max_eq_left hroom, distinct]
  have hsome : firstOfEach [] offered ≠ [] :=
    firstOfEach_ne_nil (List.append_ne_nil_of_right_ne_nil _ (contextual_ne_nil _))
  refine ⟨?_, ?_, ?_, ?_, ?_, ?_, ?_, ?_⟩
  · show Text.isBlankText ((narratives? (responsesOf results)).getD settings.merge.placeholder) =
      false
    cases hstory : narratives? (responsesOf results) with
    | none => exact Settings.placeholder_of_isValid hvalid
    | some narrative => exact isBlankText_of_narratives? hstory
  · show 1 ≤ made.choices.length
    rw [hchoices, List.length_take]
    exact Nat.le_min.mpr ⟨hroom, List.length_pos_of_ne_nil hsome⟩
  · show made.choices.length ≤ _
    rw [hchoices]
    exact List.length_take_le _ _
  · show (made.choices.map (·.text)).Nodup
    rw [hchoices, List.map_take]
    exact (nodup_firstOfEach [] offered).sublist (List.take_sublist _ _)
  · show made.choices.map (·.text) = ((offered.map (·.text)).eraseDups).take _
    rw [hchoices, List.map_take, map_text_firstOfEach]
    simp
  · intro choice hchoice
    have hkept : choice ∈ (firstOfEach [] offered).take settings.merge.maxChoices :=
      hchoices ▸ hchoice
    exact find?_of_mem_firstOfEach (List.mem_of_mem_take hkept)
  · exact nodup_names_stateChanges (responsesOf results)
  · exact value?_stateChanges hresults

/-- One worker offers the same thing twice, one is down, and one offers it again and opens the door
that the first had locked; nobody tells anything, and there is room for two choices. -/
theorem answer_usable_crowded :
    let settings : Settings := { merge := { maxChoices := 2 } }
    let locks : Response :=
      { worker := .rulesAdjudicator, narrative := some "  "
        choices := some [{ text := "Run" }, { text := "Run", description := some "Again" }]
        stateChanges := [("door", .text "locked"), ("torch", .bool true)] }
    let down : Response :=
      { worker := .historian, narrative := some "Unheard.", success := false
        choices := some [{ text := "Despair" }], stateChanges := [("door", .text "gone")] }
    let opens : Response :=
      { worker := .worldSimulator, choices := some [{ text := "Run" }, { text := "Hide" }]
        stateChanges := [("door", .text "open")] }
    let results : List TaskResult :=
      [{ task := { id := "check", name := "check", mode := .parallel },
         responses := [locks, down] },
       { task := { id := "scene", name := "scene", mode := .reactive }, responses := [opens] }]
    let made := answer settings.merge results [] { kind := .exploration, turn := 3, hitRate := 0 }
    settings.isValid = true ∧ WellFormed (responsesOf results) ∧
      made.Usable (responsesOf results) 2 ∧ made.narrative = settings.merge.placeholder ∧
      made.choices.map (·.text) = ["Run", "Hide"] ∧
      Dict.names made.stateChanges = ["door", "torch"] := by
  intro settings locks down opens results made
  have hvalid : settings.isValid = true := by decide +kernel
  have hresults : WellFormed (responsesOf results) := by
    unfold WellFormed
    decide +kernel
  exact ⟨hvalid, hresults, answer_usable hvalid hresults _ _, by decide +kernel, by decide +kernel,
    by decide +kernel⟩

end Merge

end StoryDirector
