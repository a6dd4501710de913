import StoryDirector.Text.Alphanumeric
import StoryDirector.Text.Lowercase
/-!
# StoryDirector.Action.Keyword

Finding keywords in free text. **A keyword in ASCII letters must begin a word, and one of up to
three letters must be a whole word**, so that "go" is found in "go north" but neither in "dragon"
nor in "goblin"; a keyword in any other script is found anywhere, since such scripts do not part
words by blanks. Case does not matter.

The text is read from left to right. A place that holds the keyword without meeting the rule is
passed over as a whole (`scan`), so the search goes on behind it.
-/

namespace StoryDirector.Keyword

/-- Up to this length a keyword must be a whole word. -/
def shortLength : Nat := 3

/-- Whether all characters are ASCII. -/
def isAscii (s : List Char) : Bool :=
  s.all fun c => c.toNat < 0x80

/-- Whether a neighbouring character, if there is one, continues a word. -/
def continuesWord (neighbour : Option Char) : Bool :=
  neighbour.any Text.isAlphanumeric

/-- Whether a keyword may stand between two neighbours. -/
def fits (keyword : List Char) (before after : Option Char) : Bool :=
  !continuesWord before && !(decide (keyword.length ≤ shortLength) && continuesWord after)

/-- Looks for the keyword as a word. `skip` characters are still part of a place already passed
over, and `before` is the character to the left. -/
def scan (keyword : List Char) : (skip : Nat) → (before : Option Char) → List Char → Bool
  | _, _, [] => false
  | skip + 1, _, c :: rest => scan keyword skip (some c) rest
  | 0, before, c :: rest =>
    if keyword.isPrefixOf (c :: rest) then
      fits keyword before ((c :: rest).drop keyword.length).head? ||
        scan keyword (keyword.length - 1) (some c) rest
    else
      scan keyword 0 (some c) rest

/-- Whether the keyword stands anywhere in the text. -/
def standsIn (keyword : List Char) : List Char → Bool
  | [] => keyword.isEmpty
  | c :: rest => keyword.isPrefixOf (c :: rest) || standsIn keyword rest

/-- Whether a text, already in lower case, contains a keyword in lower case. -/
def occurs (keyword text : List Char) : Bool :=
  if keyword.isEmpty then false
  else if isAscii keyword then scan keyword 0 none text
  else standsIn keyword text

/-- Whether a text contains any of some keywords, in whatever case. -/
def anyOccurs (text : String) (keywords : List String) : Bool :=
  let text := (Text.lowercase text).toList
  keywords.any fun keyword => occurs (Text.lowercase keyword).toList text

@[simp] theorem occurs_nil (text : List Char) : occurs [] text = false := rfl

@[simp] theorem scan_nil (keyword : List Char) (skip : Nat) (before : Option Char) :
    scan keyword skip before [] = false := by
  cases skip <;> rfl

theorem scan_succ (keyword : List Char) (skip : Nat) (before : Option Char) (c : Char)
    (rest : List Char) :
    scan keyword (skip + 1) before (c :: rest) = scan keyword skip (some c) rest := rfl

/-- A keyword in another script is found exactly where it is part of the text. -/
theorem standsIn_iff (keyword text : List Char) :
    standsIn keyword text = true ↔ ∃ left right, text = left ++ keyword ++ right := by
  induction text with
  | nil =>
    cases keyword with
    | nil => simp [standsIn]
    | cons c rest => simp [standsIn]
  | cons c rest ih =>
    rw [standsIn, Bool.or_eq_true, ih]
    constructor
    · rintro (h | ⟨left, right, h⟩)
      · obtain ⟨right, h⟩ := List.isPrefixOf_iff_prefix.mp h
        exact ⟨[], right, by simp [h]⟩
      · exact ⟨c :: left, right, by simp [h]⟩
    · rintro ⟨left, right, h⟩
      cases left with
      | nil => exact Or.inl (List.isPrefixOf_iff_prefix.mpr ⟨right, by simpa using h.symm⟩)
      | cons d left =>
        simp only [List.cons_append, List.cons.injEq] at h
        exact Or.inr ⟨left, right, h.2⟩

end StoryDirector.Keyword
