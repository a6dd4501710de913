import StoryDirector.Action.Keyword
import Mathlib.Data.List.Basic
/-!
# StoryDirector.Proofs.Action.Searching

What a search for keywords finds. A keyword counts where it stands in the text and, if it is in
ASCII, begins a word there, and ends it too if it is short (`Keyword.Counts`). **The search looks at
some of these places only: those that do not overlap with a place already passed over**
(`Keyword.Comes`).

So it finds nothing that does not count, but it may miss what counts. Which keywords can be missed
is a matter of the keyword alone: those that overlap themselves behind a character that ends a word
(`Keyword.Hides`), as "go go" does behind its blank. For these there is a text in which the search
misses them, and for all others there is none (`Keyword.search_exact`).
-/

namespace StoryDirector.Keyword

/-- Between two parts of a text a keyword begins a word, and a short one is a whole word. -/
structure WordAt (keyword left right : List Char) : Prop where
  /-- No word goes on from the left. -/
  begins : continuesWord left.getLast? = false
  /-- A short keyword does not go on to the right. -/
  ends : keyword.length ≤ shortLength → continuesWord right.head? = false

/-- The keyword counts somewhere in the text. -/
def Counts (keyword text : List Char) : Prop :=
  keyword ≠ [] ∧ ∃ left right, text = left ++ keyword ++ right ∧
    (isAscii keyword = true → WordAt keyword left right)

/-- A search that goes through the text `left ++ right` comes to the place between the two: at each
place it goes on by one character, or by the whole keyword if it stands there. -/
inductive Comes (keyword : List Char) : (left right : List Char) → Prop where
  /-- It begins here. -/
  | here (right : List Char) : Comes keyword [] right
  /-- The keyword does not stand at the front. -/
  | step {c : Char} {left right : List Char} (habsent : ¬ keyword <+: c :: (left ++ right))
      (h : Comes keyword left right) : Comes keyword (c :: left) right
  /-- The keyword stands at the front and is passed over. -/
  | pass {left right : List Char} (h : Comes keyword left right) :
      Comes keyword (keyword ++ left) right

/-- The keyword counts at a place to which the search comes. Keywords in other scripts are looked
for everywhere. -/
def Found (keyword text : List Char) : Prop :=
  keyword ≠ [] ∧ ∃ left right, text = left ++ keyword ++ right ∧
    (isAscii keyword = true → WordAt keyword left right ∧ Comes keyword left (keyword ++ right))

/-- The keyword may begin within itself, behind a character that ends a word. -/
def Hides (keyword : List Char) : Prop :=
  ∃ d < keyword.length, 0 < d ∧ keyword.drop d <+: keyword ∧
    continuesWord (keyword.take d).getLast? = false

instance (keyword : List Char) : Decidable (Hides keyword) :=
  inferInstanceAs (Decidable (∃ d < keyword.length, 0 < d ∧ keyword.drop d <+: keyword ∧
    continuesWord (keyword.take d).getLast? = false))

variable {keyword : List Char}

theorem fits_iff {left right : List Char} :
    fits keyword left.getLast? right.head? = true ↔ WordAt keyword left right := by
  rw [fits, Bool.and_eq_true, Bool.not_eq_true', Bool.not_eq_true', Bool.and_eq_false_imp,
    decide_eq_true_iff]
  exact ⟨fun ⟨hbegins, hends⟩ => ⟨hbegins, hends⟩, fun h => ⟨h.begins, h.ends⟩⟩

/-! ### The search -/

theorem scan_skip (keyword : List Char) (before : Option Char) (passed rest : List Char) :
    scan keyword passed.length before (passed ++ rest) =
      scan keyword 0 (passed.getLast?.or before) rest := by
  induction passed generalizing before with
  | nil => rfl
  | cons c passed ih =>
      rw [List.length_cons, List.cons_append, scan_succ, ih, List.getLast?_cons]
      cases passed.getLast? <;> rfl

theorem scan_of_absent {c : Char} {rest : List Char} (h : ¬ keyword <+: c :: rest)
    (before : Option Char) : scan keyword 0 before (c :: rest) = scan keyword 0 (some c) rest := by
  have habsent : keyword.isPrefixOf (c :: rest) = false := by
    rw [Bool.eq_false_iff]
    exact fun hprefix => h (List.isPrefixOf_iff_prefix.mp hprefix)
  rw [scan, habsent]
  rfl

/-- Where the keyword stands it counts or is passed over. -/
theorem scan_append (hkeyword : keyword ≠ []) (before : Option Char) (rest : List Char) :
    scan keyword 0 before (keyword ++ rest) =
      (fits keyword before rest.head? || scan keyword 0 (keyword.getLast?.or before) rest) := by
  cases keyword with
  | nil => exact absurd rfl hkeyword
  | cons c more =>
      have hstands : (c :: more).isPrefixOf (c :: (more ++ rest)) = true :=
        List.isPrefixOf_iff_prefix.mpr ⟨rest, rfl⟩
      have hdrop : (c :: (more ++ rest)).drop (c :: more).length = rest :=
        List.drop_left
      have hskip := scan_skip (c :: more) (some c) more rest
      rw [List.cons_append, scan, hstands, if_pos rfl, hdrop, List.length_cons, Nat.add_sub_cancel,
        hskip, List.getLast?_cons]
      cases more.getLast? <;> rfl

/-- Where the keyword stands, the search is there or has passed it over. -/
theorem Comes.of_stands {left right : List Char} (h : Comes keyword left right)
    (hstands : keyword <+: left ++ right) :
    left = [] ∨ ∃ later, left = keyword ++ later ∧ Comes keyword later right := by
  cases h with
  | here => exact Or.inl rfl
  | step habsent => exact absurd hstands habsent
  | pass h => exact Or.inr ⟨_, rfl, h⟩

/-- Where the keyword does not stand, the search goes on by one character. -/
theorem Comes.of_absent {c : Char} {left right : List Char}
    (habsent : ¬ keyword <+: c :: (left ++ right)) (h : Comes keyword (c :: left) right) :
    Comes keyword left right := by
  generalize hall : c :: left = all at h
  cases h with
  | here => cases hall
  | step _ h =>
      obtain ⟨rfl, rfl⟩ := List.cons.inj hall
      exact h
  | pass =>
      rw [← List.cons_append, hall, List.append_assoc] at habsent
      exact absurd (List.prefix_append _ _) habsent

/-- The search succeeds exactly if it comes to a place where the keyword counts. -/
theorem scan_iff (hkeyword : keyword ≠ []) (before : Option Char) (text : List Char) :
    scan keyword 0 before text = true ↔
      ∃ left right, text = left ++ (keyword ++ right) ∧ Comes keyword left (keyword ++ right) ∧
        fits keyword (left.getLast?.or before) right.head? = true := by
  induction hlength : text.length using Nat.strongRecOn generalizing before text with
  | ind length ih =>
    by_cases hstands : keyword <+: text
    · obtain ⟨rest, rfl⟩ := hstands
      have hshorter : rest.length < length := by
        rw [← hlength, List.length_append]
        exact Nat.lt_add_of_pos_left (List.length_pos_of_ne_nil hkeyword)
      rw [scan_append hkeyword, Bool.or_eq_true, ih _ hshorter _ _ rfl]
      constructor
      · rintro (hfits | ⟨left, right, rfl, hcomes, hfits⟩)
        · exact ⟨[], rest, rfl, .here _, hfits⟩
        · refine ⟨keyword ++ left, right, by simp, .pass hcomes, ?_⟩
          rwa [List.getLast?_append, Option.or_assoc]
      · rintro ⟨left, right, htext, hcomes, hfits⟩
        rcases hcomes.of_stands ⟨rest, htext⟩ with rfl | ⟨later, rfl, hlater⟩
        · obtain rfl := List.append_cancel_left htext
          exact Or.inl hfits
        · rw [List.append_assoc] at htext
          rw [List.getLast?_append, Option.or_assoc] at hfits
          exact Or.inr ⟨later, right, List.append_cancel_left htext, hlater, hfits⟩
    · cases text with
      | nil =>
          rw [scan_nil]
          refine ⟨fun h => absurd h Bool.false_ne_true, ?_⟩
          rintro ⟨left, right, htext, -⟩
          simp [hkeyword] at htext
      | cons c rest =>
          have hshorter : rest.length < length := by
            rw [← hlength]
            exact Nat.lt_succ_self _
          have hlast : ∀ left : List Char,
              (c :: left).getLast?.or before = left.getLast?.or (some c) := by
            intro left
            rw [List.getLast?_cons]
            cases left.getLast? <;> rfl
          rw [scan_of_absent hstands, ih _ hshorter _ _ rfl]
          constructor
          · rintro ⟨left, right, rfl, hcomes, hfits⟩
            exact ⟨c :: left, right, rfl, .step hstands hcomes, by rwa [hlast]⟩
          · rintro ⟨left, right, htext, hcomes, hfits⟩
            cases left with
            | nil => exact absurd ⟨right, htext.symm⟩ hstands
            | cons d left =>
                obtain ⟨rfl, rfl⟩ := List.cons.inj htext
                rw [hlast] at hfits
                exact ⟨left, right, rfl, hcomes.of_absent hstands, hfits⟩

theorem occurs_iff_found (keyword text : List Char) :
    occurs keyword text = true ↔ Found keyword text := by
  unfold occurs Found
  cases hkeyword : keyword with
  | nil => simp
  | cons c more =>
      rw [← hkeyword]
      have hne : keyword ≠ [] := by rw [hkeyword]; exact List.cons_ne_nil _ _
      rw [if_neg (by simpa using hne)]
      cases hascii : isAscii keyword with
      | true =>
          simp only [hne, ne_eq, not_false_eq_true, true_and, if_true, forall_const]
          rw [scan_iff hne]
          refine exists_congr fun left => exists_congr fun right => ?_
          rw [Option.or_none, fits_iff, List.append_assoc]
          exact and_congr_right fun _ => and_comm
      | false =>
          simp [hne, standsIn_iff]

theorem anyOccurs_iff_found (text : String) (keywords : List String) :
    anyOccurs text keywords = true ↔
      ∃ keyword ∈ keywords, Found (Text.lowercase keyword).toList (Text.lowercase text).toList := by
  unfold anyOccurs
  rw [List.any_eq_true]
  exact exists_congr fun keyword => and_congr_right fun _ => occurs_iff_found _ _

/-! ### What the search misses -/

theorem continuesWord_of_append {front back : List Char}
    (h : continuesWord (front ++ back).getLast? = false) : continuesWord back.getLast? = false := by
  rw [List.getLast?_append] at h
  cases hlast : back.getLast? with
  | none => rfl
  | some c => rwa [hlast] at h

/-- The search comes to every place where a keyword begins a word, unless the keyword hides. -/
theorem comes_of_begins (hkeyword : keyword ≠ []) (hplain : ¬ Hides keyword)
    (left right : List Char) (hbegins : continuesWord left.getLast? = false) :
    Comes keyword left (keyword ++ right) := by
  induction hlength : left.length using Nat.strongRecOn generalizing left with
  | ind length ih =>
    subst hlength
    cases hleft : left with
    | nil => exact .here _
    | cons c rest =>
      rw [← hleft]
      by_cases hstands : keyword <+: left ++ (keyword ++ right)
      · rcases Nat.lt_or_ge left.length keyword.length with hshort | hlong
        · -- The place lies within one that is passed over, so the keyword begins within itself.
          have hfront : left = keyword.take left.length := by
            have hprefix := List.prefix_of_prefix_length_le (List.prefix_append left _) hstands
              (Nat.le_of_lt hshort)
            exact List.prefix_iff_eq_take.mp hprefix
          have hback : keyword.drop left.length <+: keyword := by
            have hboth : keyword.drop left.length <+: keyword ++ right := by
              obtain ⟨more, hmore⟩ := hstands
              refine ⟨more, ?_⟩
              have hdrop := congrArg (List.drop left.length) hmore
              rwa [List.drop_left, List.drop_append_of_le_length (Nat.le_of_lt hshort)] at hdrop
            exact List.prefix_of_prefix_length_le hboth (List.prefix_append _ _) (by simp)
          refine absurd ⟨left.length, hshort, ?_, hback, ?_⟩ hplain
          · rw [hleft]
            exact Nat.succ_pos _
          · rwa [← hfront]
        · -- The place lies behind the one that is passed over.
          obtain ⟨later, rfl⟩ := List.prefix_of_prefix_length_le hstands
            (List.prefix_append left _) hlong
          refine .pass (ih later.length ?_ later (continuesWord_of_append hbegins) rfl)
          rw [List.length_append]
          exact Nat.lt_add_of_pos_left (List.length_pos_of_ne_nil hkeyword)
      · subst hleft
        have hrest : continuesWord rest.getLast? = false :=
          continuesWord_of_append (show continuesWord ([c] ++ rest).getLast? = false from hbegins)
        exact .step hstands (ih rest.length (Nat.lt_succ_self _) rest hrest rfl)

theorem Found.counts {text : List Char} (h : Found keyword text) : Counts keyword text := by
  obtain ⟨hkeyword, left, right, htext, hfound⟩ := h
  exact ⟨hkeyword, left, right, htext, fun hascii => (hfound hascii).1⟩

/-- Nothing that counts is missed, unless the keyword hides. -/
theorem Counts.found {text : List Char} (h : Counts keyword text)
    (hplain : ¬ (isAscii keyword = true ∧ Hides keyword)) : Found keyword text := by
  obtain ⟨hkeyword, left, right, htext, hword⟩ := h
  refine ⟨hkeyword, left, right, htext, fun hascii => ⟨hword hascii, ?_⟩⟩
  exact comes_of_begins hkeyword (fun hhides => hplain ⟨hascii, hhides⟩) left right
    (hword hascii).begins

theorem scan_of_length_lt {text : List Char} (h : text.length < keyword.length)
    (before : Option Char) : scan keyword 0 before text = false := by
  have hkeyword : keyword ≠ [] := List.ne_nil_of_length_pos (Nat.zero_lt_of_lt h)
  rw [Bool.eq_false_iff]
  intro hfound
  obtain ⟨left, right, htext, -⟩ := (scan_iff hkeyword before text).mp hfound
  rw [htext] at h
  simp only [List.length_append] at h
  omega

/-- There is a letter that a text does not begin with. -/
theorem exists_other_letter (text : List Char) :
    ∃ c, Text.isAlphanumeric c = true ∧ text.head? ≠ some c := by
  by_cases h : text.head? = some 'a'
  · exact ⟨'b', by decide, by rw [h]; decide⟩
  · exact ⟨'a', by decide, h⟩

/-- A keyword that hides is missed in some text: behind a letter, so that it does not count, and
once more within itself. -/
theorem exists_missed (hascii : isAscii keyword = true) (h : Hides keyword) :
    ∃ text, Counts keyword text ∧ ¬ Found keyword text := by
  obtain ⟨d, hd, hpos, hback, hends⟩ := h
  have hkeyword : keyword ≠ [] := List.ne_nil_of_length_pos (Nat.zero_lt_of_lt hd)
  obtain ⟨letter, hletter, hother⟩ := exists_other_letter keyword
  refine ⟨letter :: (keyword.take d ++ keyword),
    ⟨hkeyword, letter :: keyword.take d, [], ?_, ?_⟩, ?_⟩
  · simp
  · refine fun _ => ⟨?_, fun _ => rfl⟩
    have htake : keyword.take d ≠ [] := List.ne_nil_of_length_pos (by simp; omega)
    rw [List.getLast?_cons, List.getLast?_eq_some_getLast htake]
    rwa [List.getLast?_eq_some_getLast htake] at hends
  · obtain ⟨more, hmore⟩ := hback
    have habsent : ¬ keyword <+: letter :: (keyword.take d ++ keyword) := by
      rintro ⟨rest, hrest⟩
      refine hother ?_
      rw [← List.head?_append_of_ne_nil keyword hkeyword, hrest]
      rfl
    have hagain : keyword.take d ++ keyword = keyword ++ more := by
      have hsplit : keyword.take d ++ (keyword.drop d ++ more) = keyword ++ more := by
        rw [← List.append_assoc, List.take_append_drop]
      rwa [hmore] at hsplit
    have hshort : more.length < keyword.length := by
      have hlength := congrArg List.length hmore
      simp only [List.length_append, List.length_drop] at hlength
      omega
    have hbehind : ∀ after, fits keyword (some letter) after = false := by
      intro after
      simp [fits, continuesWord, hletter]
    rw [← occurs_iff_found, occurs, if_neg (by simpa using hkeyword), if_pos hascii,
      scan_of_absent habsent, hagain, scan_append hkeyword, hbehind, scan_of_length_lt hshort]
    exact Bool.false_ne_true

/-- **What a search finds, and what it may miss.** A search for some keywords succeeds exactly if,
in lower case, one of them counts at a place to which the search comes. So one that is found counts,
and one that counts is found unless one of the keywords is in ASCII and hides. Each keyword that
does is missed in some text, and no other is. -/
theorem search_exact (text : String) (keywords : List String) :
    (anyOccurs text keywords = true ↔
      ∃ keyword ∈ keywords, Found (Text.lowercase keyword).toList (Text.lowercase text).toList) ∧
    (anyOccurs text keywords = true →
      ∃ keyword ∈ keywords, Counts (Text.lowercase keyword).toList (Text.lowercase text).toList) ∧
    ((∀ keyword ∈ keywords, ¬ (isAscii (Text.lowercase keyword).toList = true ∧
        Hides (Text.lowercase keyword).toList)) →
      (∃ keyword ∈ keywords, Counts (Text.lowercase keyword).toList (Text.lowercase text).toList) →
        anyOccurs text keywords = true) ∧
    ∀ keyword, (∀ text, Counts keyword text → Found keyword text) ↔
      ¬ (isAscii keyword = true ∧ Hides keyword) := by
  have hfound := anyOccurs_iff_found text keywords
  refine ⟨hfound, fun h => ?_, fun hplain h => ?_, fun keyword => ⟨?_, ?_⟩⟩
  · obtain ⟨keyword, hkeyword, hcomes⟩ := hfound.mp h
    exact ⟨keyword, hkeyword, hcomes.counts⟩
  · obtain ⟨keyword, hkeyword, hcounts⟩ := h
    exact hfound.mpr ⟨keyword, hkeyword, hcounts.found (hplain keyword hkeyword)⟩
  · rintro hall ⟨hascii, hhides⟩
    obtain ⟨text, hcounts, hmissed⟩ := exists_missed hascii hhides
    exact hmissed (hall text hcounts)
  · exact fun hplain _ hcounts => hcounts.found hplain

/-- The rule that a keyword is found wherever it counts, overlaps or not, fails for "go go": in
"forgo go go" it stands twice, once inside a word and once as words of their own. -/
theorem not_everywhere_go_go :
    ¬ ∀ (text : String) (keywords : List String), anyOccurs text keywords = true ↔
      ∃ keyword ∈ keywords,
        Counts (Text.lowercase keyword).toList (Text.lowercase text).toList := by
  intro h
  have hmissed : anyOccurs "forgo go go" ["go go"] = false := by decide +kernel
  have htext : (Text.lowercase "forgo go go").toList =
      "forgo ".toList ++ (Text.lowercase "go go").toList ++ [] := by decide +kernel
  have hcounts : Counts (Text.lowercase "go go").toList (Text.lowercase "forgo go go").toList :=
    ⟨by decide +kernel, _, _, htext, fun _ => ⟨by decide +kernel, fun _ => rfl⟩⟩
  have hfound := (h _ _).mpr ⟨"go go", List.mem_singleton_self _, hcounts⟩
  exact Bool.false_ne_true (hmissed.symm.trans hfound)

end StoryDirector.Keyword
