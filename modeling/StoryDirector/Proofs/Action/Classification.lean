import StoryDirector.Action.Lexicon
import StoryDirector.Proofs.Action.Searching
/-!
# StoryDirector.Proofs.Action.Classification

Which kind an action has. **What the player chose comes first, then the first extra that is a label,
then the first row of the lexicon that the text mentions, wherever it does; and if none of these
says anything, the kind is unknown** (`Lexicon.Intended`).

A row is looked for by a search that may miss what counts, and after both the text and the words of
the row are put in lower case. Neither matters for the standard lexicon: its words are in lower
case, and none of them hides (`Lexicon.plain_standard`).
-/

namespace StoryDirector

namespace Text

/-! ### Texts in lower case -/

/-- A character that no case mapping changes: one of ASCII that is no capital, or one of a script
that has no capitals, such as kana and kanji. -/
def IsCaseless (c : Char) : Prop :=
  c.toNat < 0x41 ∨ 0x5A < c.toNat ∧ c.toNat < 0x80 ∨ 0x3000 ≤ c.toNat ∧ c.toNat < 0xA640

instance (c : Char) : Decidable (IsCaseless c) :=
  inferInstanceAs (Decidable (_ ∨ _ ∧ _ ∨ _ ∧ _))

/-- A text of such characters. -/
def Caseless (s : String) : Prop :=
  ∀ c ∈ s.toList, IsCaseless c

instance (s : String) : Decidable (Caseless s) :=
  List.decidableBAll IsCaseless s.toList

/-- There are no capitals in the scripts between these points. -/
theorem caseRuns_outside : ∀ run ∈ caseRuns, run.last < 0x3000 ∨ 0xA640 ≤ run.first := by
  decide +kernel

theorem lowerChar_of_caseless {c : Char} (h : IsCaseless c) : lowerChar c = [c] := by
  unfold lowerChar
  by_cases hascii : c.toNat < 0x80
  · rw [if_pos hascii, lowerAscii, if_neg]
    unfold IsCaseless at h
    omega
  · have hrange : 0x3000 ≤ c.toNat ∧ c.toNat < 0xA640 := by
      unfold IsCaseless at h
      omega
    have hnone : caseRuns.findSome? (·.lower? c.toNat) = none := by
      refine List.findSome?_eq_none_iff.mpr fun run hrun => ?_
      have houtside := caseRuns_outside run hrun
      rw [CaseRun.lower?, if_neg]
      omega
    rw [if_neg hascii, if_neg (by omega), hnone]

theorem lowerFrom_of_caseless {s : List Char} (h : ∀ c ∈ s, IsCaseless c) (before : List Char) :
    lowerFrom before s = s := by
  induction s generalizing before with
  | nil => rfl
  | cons c rest ih =>
      have hc := h c List.mem_cons_self
      have hsigma : c ≠ capitalSigma := by
        rintro rfl
        exact absurd hc (by decide)
      rw [lowerFrom_cons_of_ne_sigma hsigma, lowerChar_of_caseless hc,
        ih fun d hd => h d (List.mem_cons_of_mem _ hd)]
      rfl

/-- What has no case is in lower case. -/
theorem lowercase_of_caseless {s : String} (h : Caseless s) : lowercase s = s := by
  rw [lowercase, lowerFrom_of_caseless h, String.ofList_toList]

end Text

namespace Lexicon

variable {lexicon : Lexicon} {action : PlayerAction} {kind : ActionKind}

/-! ### Intentions -/

/-- A text mentions a row of a lexicon: in lower case, one of its words counts somewhere. -/
def Mentions (text : String) (row : ActionKind × List String) : Prop :=
  ∃ keyword ∈ row.2, Keyword.Counts keyword.toList (Text.lowercase text).toList

/-- An extra of an action is the label of a kind. -/
def Labels (action : PlayerAction) (key : String) (kind : ActionKind) : Prop :=
  ∃ label, action.metadataText? key = some label ∧ ActionKind.ofLabel? label = some kind

/-- The kind that an action is meant to have. -/
inductive Intended (lexicon : Lexicon) (action : PlayerAction) : ActionKind → Prop where
  /-- The player chose it. -/
  | chosen {kind : ActionKind} (hkind : action.kind = some kind) : Intended lexicon action kind
  /-- An extra is its label, and no extra before that is a label. -/
  | labelled {before after : List String} {key : String} {kind : ActionKind}
      (hkind : action.kind = none) (hkeys : ["action_type", "actionType"] = before ++ key :: after)
      (hlabel : Labels action key kind)
      (hfirst : ∀ earlier ∈ before, ∀ other, ¬ Labels action earlier other) :
      Intended lexicon action kind
  /-- The text mentions its row, and no row before that. -/
  | worded {before after : List (ActionKind × List String)} {row : ActionKind × List String}
      (hkind : action.kind = none)
      (hplain : ∀ key ∈ ["action_type", "actionType"], ∀ other, ¬ Labels action key other)
      (hrows : lexicon.rows = before ++ row :: after) (hrow : Mentions action.text row)
      (hfirst : ∀ earlier ∈ before, ¬ Mentions action.text earlier) :
      Intended lexicon action row.1
  /-- Nothing says what the player means. -/
  | unclear (hkind : action.kind = none)
      (hplain : ∀ key ∈ ["action_type", "actionType"], ∀ other, ¬ Labels action key other)
      (hrows : ∀ row ∈ lexicon.rows, ¬ Mentions action.text row) :
      Intended lexicon action .unknown

/-- The words of a lexicon are in lower case, and the search misses none of them. -/
def Plain (lexicon : Lexicon) : Prop :=
  ∀ row ∈ lexicon.rows, ∀ keyword ∈ row.2, Text.lowercase keyword = keyword ∧
    ¬ (Keyword.isAscii keyword.toList = true ∧ Keyword.Hides keyword.toList)

theorem plain_standard : standard.Plain := by
  have hcaseless : ∀ row ∈ standard.rows, ∀ keyword ∈ row.2, Text.Caseless keyword := by
    decide +kernel
  have hplain : ∀ row ∈ standard.rows, ∀ keyword ∈ row.2,
      ¬ (Keyword.isAscii keyword.toList = true ∧ Keyword.Hides keyword.toList) := by decide +kernel
  exact fun row hrow keyword hkeyword =>
    ⟨Text.lowercase_of_caseless (hcaseless row hrow keyword hkeyword),
      hplain row hrow keyword hkeyword⟩

theorem Plain.anyOccurs_iff (h : lexicon.Plain) {row : ActionKind × List String}
    (hrow : row ∈ lexicon.rows) (text : String) :
    Keyword.anyOccurs text row.2 = true ↔ Mentions text row := by
  rw [Keyword.anyOccurs_iff_found]
  refine exists_congr fun keyword => and_congr_right fun hkeyword => ?_
  obtain ⟨hlower, hplain⟩ := h row hrow keyword hkeyword
  rw [hlower]
  exact ⟨Keyword.Found.counts, fun hcounts => hcounts.found hplain⟩

/-! ### Classifying -/

theorem labels_iff {key : String} :
    (action.metadataText? key).bind ActionKind.ofLabel? = some kind ↔ Labels action key kind :=
  Option.bind_eq_some_iff

theorem not_labels_iff {key : String} :
    (action.metadataText? key).bind ActionKind.ofLabel? = none ↔
      ∀ other, ¬ Labels action key other := by
  simp only [← labels_iff, Option.eq_none_iff_forall_ne_some, ne_eq]

theorem labelledKind?_eq_none_iff :
    labelledKind? action = none ↔
      ∀ key ∈ ["action_type", "actionType"], ∀ other, ¬ Labels action key other := by
  simp only [labelledKind?, List.findSome?_eq_none_iff, not_labels_iff, labelKeys]

/-- Without a label the text decides: its kind is that of the first row that it mentions. -/
theorem classify_of_not_labels (hkind : action.kind = none)
    (hnone : ∀ key ∈ ["action_type", "actionType"], ∀ other, ¬ Labels action key other) :
    lexicon.classify action = lexicon.classifyText action.text := by
  rw [classify, hkind]
  dsimp only
  rw [labelledKind?_eq_none_iff.mpr hnone]

theorem Plain.not_anyOccurs_iff (h : lexicon.Plain) {row : ActionKind × List String}
    (hrow : row ∈ lexicon.rows) (text : String) :
    (!Keyword.anyOccurs text row.2) = true ↔ ¬ Mentions text row := by
  rw [Bool.not_eq_true', ← h.anyOccurs_iff hrow, Bool.not_eq_true]

theorem Plain.find?_eq_some_iff (h : lexicon.Plain) {text : String}
    {row : ActionKind × List String} :
    lexicon.rows.find? (fun row => Keyword.anyOccurs text row.2) = some row ↔
      Mentions text row ∧ ∃ before after, lexicon.rows = before ++ row :: after ∧
        ∀ earlier ∈ before, ¬ Mentions text earlier := by
  rw [List.find?_eq_some_iff_append]
  constructor
  · rintro ⟨hrow, before, after, hrows, hfirst⟩
    refine ⟨(h.anyOccurs_iff (hrows ▸ by simp) text).mp hrow, before, after, hrows, ?_⟩
    exact fun earlier hearlier =>
      (h.not_anyOccurs_iff (hrows ▸ List.mem_append_left _ hearlier) text).mp
        (hfirst earlier hearlier)
  · rintro ⟨hrow, before, after, hrows, hfirst⟩
    refine ⟨(h.anyOccurs_iff (hrows ▸ by simp) text).mpr hrow, before, after, hrows, ?_⟩
    exact fun earlier hearlier =>
      (h.not_anyOccurs_iff (hrows ▸ List.mem_append_left _ hearlier) text).mpr
        (hfirst earlier hearlier)

theorem Plain.find?_eq_none_iff (h : lexicon.Plain) {text : String} :
    lexicon.rows.find? (fun row => Keyword.anyOccurs text row.2) = none ↔
      ∀ row ∈ lexicon.rows, ¬ Mentions text row := by
  rw [List.find?_eq_none]
  exact forall₂_congr fun row hrow => not_congr (h.anyOccurs_iff hrow text)

/-- An action that is meant to have a kind has it. -/
theorem Intended.classify_eq (hplain : lexicon.Plain) (h : lexicon.Intended action kind) :
    lexicon.classify action = kind := by
  cases h with
  | chosen hkind => rw [classify, hkind]
  | labelled hkind hkeys hlabel hfirst =>
      have hsome : labelledKind? action = some kind :=
        List.findSome?_eq_some_iff.mpr ⟨_, _, _, hkeys, labels_iff.mpr hlabel,
          fun earlier hearlier => not_labels_iff.mpr (hfirst earlier hearlier)⟩
      rw [classify, hkind]
      dsimp only
      rw [hsome]
  | worded hkind hnone hrows hrow hfirst =>
      have hfind := hplain.find?_eq_some_iff.mpr ⟨hrow, _, _, hrows, hfirst⟩
      rw [classify_of_not_labels hkind hnone, classifyText, hfind]
  | unclear hkind hnone hrows =>
      have hfind := hplain.find?_eq_none_iff.mpr hrows
      rw [classify_of_not_labels hkind hnone, classifyText, hfind]

/-- Every action is meant to have the kind that it has. -/
theorem intended_classify (hplain : lexicon.Plain) (action : PlayerAction) :
    lexicon.Intended action (lexicon.classify action) := by
  cases hkind : action.kind with
  | some kind =>
      have hchosen : lexicon.Intended action kind := .chosen hkind
      rwa [hchosen.classify_eq hplain]
  | none =>
      cases hlabel : labelledKind? action with
      | some kind =>
          obtain ⟨before, key, after, hkeys, hkey, hfirst⟩ :=
            List.findSome?_eq_some_iff.mp hlabel
          have hlabelled : lexicon.Intended action kind := .labelled hkind hkeys
            (labels_iff.mp hkey) fun earlier hearlier => not_labels_iff.mp (hfirst earlier hearlier)
          rwa [hlabelled.classify_eq hplain]
      | none =>
          have hnone := labelledKind?_eq_none_iff.mp hlabel
          cases hfind : lexicon.rows.find? (fun row => Keyword.anyOccurs action.text row.2) with
          | some row =>
              obtain ⟨hrow, before, after, hrows, hfirst⟩ := hplain.find?_eq_some_iff.mp hfind
              have hworded : lexicon.Intended action row.1 := .worded hkind hnone hrows hrow hfirst
              rwa [hworded.classify_eq hplain]
          | none =>
              have hunclear : lexicon.Intended action .unknown :=
                .unclear hkind hnone (hplain.find?_eq_none_iff.mp hfind)
              rwa [hunclear.classify_eq hplain]

/-- **With the standard lexicon every action has the kind that it is meant to have, and no
other.** -/
theorem classify_standard_iff (action : PlayerAction) (kind : ActionKind) :
    standard.classify action = kind ↔ standard.Intended action kind :=
  ⟨fun h => h ▸ intended_classify plain_standard action, Intended.classify_eq plain_standard⟩

end Lexicon

end StoryDirector
