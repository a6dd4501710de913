import StoryDirector.Json.Text
/-!
# StoryDirector.Proofs.Json.Words

Values that are written as one word. **Null, the truth values and the numbers are written with
letters, digits, signs and points only**, so a word ends where the first other character stands
(`Json.word_cancel`).

The words for null and the truth values are no numbers, because each has an `l` or a `t`, and no
number has (`Json.isNumeral`). Numbers are told apart by their words and by nothing else; which
number a word means is not asked here.
-/

namespace StoryDirector

namespace Json

/-- The characters that numbers are written with, those that are not finite included. -/
def isNumeral (c : Char) : Bool :=
  c.isDigit || ['+', '-', '.', 'e', 'N', 'a', 'i', 'n', 'f'].contains c

/-- The characters of words. -/
def isWordy (c : Char) : Bool :=
  c.isAlphanum || c = '+' || c = '-' || c = '.'

theorem isWordy_of_isNumeral {c : Char} (h : isNumeral c = true) : isWordy c = true := by
  rcases Bool.or_eq_true_iff.mp h with hdigit | hother
  · simp [isWordy, Char.isAlphanum, hdigit]
  · have hmem := List.contains_iff_mem.mp hother
    simp only [List.mem_cons, List.not_mem_nil, or_false] at hmem
    rcases hmem with rfl | rfl | rfl | rfl | rfl | rfl | rfl | rfl | rfl <;> decide

/-! ### The characters of numbers -/

/-- A text of the characters that numbers are written with. -/
def Numeral (s : String) : Prop :=
  ∀ c ∈ s.toList, isNumeral c = true

instance (s : String) : Decidable (Numeral s) :=
  List.decidableBAll (fun c => isNumeral c = true) s.toList

theorem numeral_append {s t : String} (hs : Numeral s) (ht : Numeral t) : Numeral (s ++ t) := by
  intro c hc
  rw [String.toList_append] at hc
  exact (List.mem_append.mp hc).elim (hs c) (ht c)

/-- Some of the digits of a number. -/
theorem numeral_digits (n : Nat) {s : List Char} (h : s ⊆ Layout.digitText n) :
    Numeral (String.ofList s) := by
  intro c hc
  rw [String.toList_ofList] at hc
  have hdigit : c.isDigit = true := Nat.isDigit_of_mem_toDigits (by decide) (by decide) (h hc)
  simp [isNumeral, hdigit]

theorem numeral_nat (n : Nat) : Numeral (toString n) := by
  rw [Nat.toString_eq_repr, Nat.repr_eq_ofList_toDigits]
  exact numeral_digits _ (List.Subset.refl _)

theorem numeral_int (n : Int) : Numeral (toString n) := by
  rw [Int.toString_eq_repr, Int.repr_eq_if]
  split
  · exact numeral_nat _
  · exact numeral_append (by decide) (numeral_nat _)

theorem numeral_zeros (n : Nat) : Numeral (Layout.zeros n) := by
  intro c hc
  rw [Layout.zeros, String.toList_ofList] at hc
  rw [List.eq_of_mem_replicate hc]
  decide

theorem numeral_positional (d : Digits) : Numeral (Layout.json.positionalText d) := by
  have hall := numeral_digits _ (List.Subset.refl (Layout.digitText d.digits))
  unfold Layout.positionalText
  dsimp only
  split
  · exact numeral_append (numeral_append hall (numeral_zeros _)) (by decide)
  split
  · refine numeral_append (numeral_append (numeral_digits d.digits ?_) (by decide))
      (numeral_digits d.digits ?_)
    · exact List.take_subset _ _
    · exact List.drop_subset _ _
  · exact numeral_append (numeral_append (by decide) (numeral_zeros _)) hall

theorem numeral_scientific (d : Digits) : Numeral (Layout.scientificText d) := by
  unfold Layout.scientificText
  dsimp only
  refine numeral_append (numeral_append (numeral_append (numeral_append ?_ ?_) ?_) ?_)
    (numeral_nat _)
  · exact numeral_digits d.digits (List.take_subset _ _)
  · split
    · decide
    · exact numeral_append (by decide) (numeral_digits d.digits (List.drop_subset _ _))
  · decide
  · split <;> decide

theorem numeral_sign (negative : Bool) : Numeral (if negative then "-" else "") := by
  cases negative <;> decide

theorem numeral_float (x : Float) : Numeral (Float.jsonText x) := by
  unfold Float.jsonText Layout.text
  split
  · show Numeral "NaN"
    decide
  · exact numeral_append (numeral_sign _) (show Numeral "inf" by decide)
  · dsimp only
    split
    · exact numeral_append (numeral_append (numeral_sign _) (by decide)) (by decide)
    · refine numeral_append (numeral_sign _) ?_
      split
      · exact numeral_positional _
      · exact numeral_scientific _

theorem positionalText_ne_empty (d : Digits) : Layout.json.positionalText d ≠ "" := by
  unfold Layout.positionalText
  dsimp only
  split
  · simp [Layout.json]
  · split <;> simp

theorem scientificText_ne_empty (d : Digits) : Layout.scientificText d ≠ "" := by
  simp [Layout.scientificText]

/-- A number is written with one character at least. -/
theorem jsonText_ne_empty (x : Float) : Float.jsonText x ≠ "" := by
  unfold Float.jsonText Layout.text
  split
  · show "NaN" ≠ ""
    decide
  · simp [Layout.json]
  · dsimp only
    split
    · simp
    · rw [Ne, String.append_eq_empty_iff, not_and]
      intro _
      split
      · exact positionalText_ne_empty _
      · exact scientificText_ne_empty _

/-! ### Words -/

/-- Whether a value is written as a word. -/
def isWord : Json → Bool
  | .null | .bool _ | .int _ | .float _ => true
  | .text _ | .array _ | .object _ => false

/-- Whether a value is a number. -/
def isNumber : Json → Bool
  | .int _ | .float _ => true
  | .null | .bool _ | .text _ | .array _ | .object _ => false

variable {j : Json}

/-- A number is written with the characters of numbers. -/
theorem isNumeral_of_mem_chars (h : j.isNumber = true) : ∀ c ∈ j.chars, isNumeral c = true := by
  cases j with
  | int n =>
      rw [chars]
      exact numeral_int n
  | float x =>
      rw [chars]
      exact numeral_float x
  | null | bool b | text s | array items | object fields => cases h

theorem isWordy_of_mem_chars (h : j.isWord = true) : ∀ c ∈ j.chars, isWordy c = true := by
  cases j with
  | null => exact List.all_eq_true.mp (by rw [chars]; decide)
  | bool b => exact List.all_eq_true.mp (by cases b <;> rw [chars] <;> decide)
  | int n | float x => exact fun c hc => isWordy_of_isNumeral (isNumeral_of_mem_chars rfl c hc)
  | text s | array items | object fields => cases h

theorem chars_ne_nil (j : Json) : j.chars ≠ [] := by
  cases j with
  | bool b => cases b <;> simp [chars]
  | int n =>
    rw [chars, Ne, String.toList_eq_nil_iff, Int.toString_eq_repr, Int.repr_eq_if]
    split
    · exact Nat.repr_ne_empty
    · simp
  | float x =>
    rw [chars, Ne, String.toList_eq_nil_iff]
    exact jsonText_ne_empty x
  | null | text s | array items | object fields => simp [chars, quotedText]

/-- Two words with something else after each are the same if the texts are. -/
theorem word_cancel {s t rest more : List Char} (hs : ∀ c ∈ s, isWordy c = true)
    (ht : ∀ c ∈ t, isWordy c = true) (hrest : ∀ c ∈ rest.head?, isWordy c = false)
    (hmore : ∀ c ∈ more.head?, isWordy c = false) (h : s ++ rest = t ++ more) :
    s = t ∧ rest = more := by
  have hword : ∀ {u after : List Char}, (∀ c ∈ u, isWordy c = true) →
      (∀ c ∈ after.head?, isWordy c = false) → (u ++ after).takeWhile isWordy = u := by
    intro u after hu hafter
    rw [List.takeWhile_append_of_pos hu]
    cases after with
    | nil => simp
    | cons c others => simp [hafter c rfl]
  have hsame : s = t := by rw [← hword hs hrest, h, hword ht hmore]
  subst hsame
  exact ⟨rfl, List.append_cancel_left h⟩

end Json

end StoryDirector
