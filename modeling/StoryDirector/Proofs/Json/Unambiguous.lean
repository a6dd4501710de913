import StoryDirector.Json.Reader
import StoryDirector.Proofs.Json.Words
import Mathlib
/-!
# StoryDirector.Proofs.Json.Unambiguous

**The canonical text of a value says what the value is**, but for the numbers, of which it says the
digits, and for the order of the fields in an object (`Json.alike_of_render`, with `Json.Alike` for
values that say the same).

Nested values stand in the middle of a text, so more is shown: where a value stands in front of
anything that may come after a value, it is known which value it is and where it ends
(`Json.alike_of_append`). The first character tells words, texts, lists and objects apart. A word
ends with its last wordy character, a text is read back by the reader (`Json.readText_escaped`), and
of a list or an object each piece is known by induction and the character after it says whether it
is the last (`Json.closed_cancel`).
-/

namespace StoryDirector

namespace Json

/-! ### Texts -/

theorem hexNumber?_control : ∀ n < 0x20,
    hexNumber? ['0', '0', hexDigit (n / 16), hexDigit (n % 16)] = some n := by
  decide

/-- A control is read back from its code. -/
theorem readPoint_control {c : Char} (h : c.toNat < 0x20) (more : List Char) :
    readPoint ('0' :: '0' :: hexDigit (c.toNat / 16) :: hexDigit (c.toNat % 16) :: more) =
      some (c, more) := by
  have hunit : readUnit ('0' :: '0' :: hexDigit (c.toNat / 16) :: hexDigit (c.toNat % 16) :: more) =
      some (c.toNat, more) := by
    simp [readUnit, hexNumber?_control c.toNat h]
  have hlow : ¬ (0xD800 ≤ c.toNat ∧ c.toNat < 0xDC00) := by omega
  have hhigh : ¬ (0xDC00 ≤ c.toNat ∧ c.toNat < 0xE000) := by omega
  simp only [readPoint, hunit, Option.bind_eq_bind, Option.bind_some, hlow, hhigh, if_false,
    Char.ofNat_toNat]

/-- A character is read back as it was written. -/
theorem readText_escapedChar (fuel : Nat) (before : List Char) (c : Char) (more : List Char) :
    readText (fuel + 1) before (escapedChar c ++ more) = readText fuel (c :: before) more := by
  have hshort : ∀ {e : Char} {n : Nat}, c.toNat = n → shortEscape? e = some (Char.ofNat n) →
      readText (fuel + 1) before ('\\' :: e :: more) = readText fuel (c :: before) more := by
    intro e n hcode hescape
    have hc : c = Char.ofNat n := by rw [← hcode, Char.ofNat_toNat]
    have hpoint : e ≠ 'u' := by
      rintro rfl
      cases hescape
    simp [readText, hescape, hc]
  unfold escapedChar
  split
  case isTrue h => exact hshort (congrArg Char.toNat h) rfl
  split
  case isTrue h => exact hshort (congrArg Char.toNat h) rfl
  split
  case isTrue h => exact hshort h rfl
  split
  case isTrue h => exact hshort h rfl
  split
  case isTrue h => exact hshort h rfl
  split
  case isTrue h => exact hshort h rfl
  split
  case isTrue h => exact hshort h rfl
  split
  case isTrue h => simp [readText, readPoint_control h]
  case isFalse hquote hback _ _ _ _ _ hcontrol => simp [readText, hquote, hback, hcontrol]

/-- A text is read back as it was written. -/
theorem readText_escaped (s rest : List Char) (fuel : Nat) (before : List Char)
    (h : s.length < fuel) :
    readText fuel before (s.flatMap escapedChar ++ '"' :: rest) =
      some (String.ofList (before.reverse ++ s), rest) := by
  induction s generalizing fuel before with
  | nil =>
      obtain ⟨left, rfl⟩ : ∃ left, fuel = left + 1 := Nat.exists_eq_add_one.mpr h
      simp [readText]
  | cons c others ih =>
      obtain ⟨left, rfl⟩ : ∃ left, fuel = left + 1 :=
        Nat.exists_eq_add_one.mpr (Nat.zero_lt_of_lt h)
      rw [List.flatMap_cons, List.append_assoc, readText_escapedChar,
        ih left (c :: before) (Nat.lt_of_succ_lt_succ h)]
      simp

/-- Where a quoted text stands in front, it is known which, and where it ends. -/
theorem quotedText_cancel {s t : String} {rest more : List Char}
    (h : quotedText s ++ rest = quotedText t ++ more) : s = t ∧ rest = more := by
  have hread : ∀ (u : String) (after : List Char),
      u.toList.length ≤ s.toList.length + t.toList.length →
      readText (s.toList.length + t.toList.length + 1) []
        (u.toList.flatMap escapedChar ++ '"' :: after) = some (u, after) := by
    intro u after hlength
    rw [readText_escaped _ _ _ _ (Nat.lt_succ_of_le hlength)]
    simp
  have hbody : s.toList.flatMap escapedChar ++ '"' :: rest =
      t.toList.flatMap escapedChar ++ '"' :: more := by
    simpa [quotedText] using h
  have hsame := hread s rest (Nat.le_add_right _ _)
  rw [hbody, hread t more (Nat.le_add_left _ _)] at hsame
  obtain ⟨rfl, rfl⟩ := Prod.mk.inj (Option.some.inj hsame)
  exact ⟨rfl, rfl⟩

/-! ### Values -/

/-- Two values say the same: they are built alike from names, texts and truth values, the fields of
objects being compared name by name, and their numbers are written with the same digits. -/
inductive Alike : Json → Json → Prop where
  /-- Null is like null. -/
  | null : Alike .null .null
  /-- A truth value is like itself. -/
  | bool (b : Bool) : Alike (.bool b) (.bool b)
  /-- Numbers are alike that are written alike. -/
  | number {j k : Json} (hj : j.isNumber = true) (hk : k.isNumber = true)
      (h : j.render = k.render) : Alike j k
  /-- A text is like itself. -/
  | text (s : String) : Alike (.text s) (.text s)
  /-- Lists are alike that are as long and alike item by item. -/
  | array {items others : List Json} (h : List.Forall₂ Alike items others) :
      Alike (.array items) (.array others)
  /-- Objects are alike that have the same names, and alike values under each. -/
  | object {fields others : Dict Json}
      (h : ∀ name, Option.Rel Alike (Dict.value? fields name) (Dict.value? others name)) :
      Alike (.object fields) (.object others)

/-- Values are built from those in their lists and objects. -/
theorem induction {motive : Json → Prop} (null : motive .null) (bool : ∀ b, motive (.bool b))
    (int : ∀ n, motive (.int n)) (float : ∀ x, motive (.float x)) (text : ∀ s, motive (.text s))
    (array : ∀ items, (∀ item ∈ items, motive item) → motive (.array items))
    (object : ∀ fields : Dict Json, (∀ field ∈ fields, motive field.2) → motive (.object fields))
    (j : Json) : motive j := by
  refine @Json.rec motive (fun items => ∀ item ∈ items, motive item)
    (fun fields => ∀ field ∈ fields, motive field.2) (fun field => motive field.2)
    null bool int float text array object ?_ ?_ ?_ ?_ (fun _ _ hvalue => hvalue) j
  · exact fun _ hitem => absurd hitem List.not_mem_nil
  · exact fun item items hitem hitems => List.forall_mem_cons.mpr ⟨hitem, hitems⟩
  · exact fun _ hfield => absurd hfield List.not_mem_nil
  · exact fun field fields hfield hfields => List.forall_mem_cons.mpr ⟨hfield, hfields⟩

/-! ### Lists -/

/-- The characters between a value and what comes after it. -/
def isEnd (c : Char) : Bool :=
  c = ',' || c = ']' || c = '\x7d'

/-- What may come after a value. -/
def Ends (rest : List Char) : Prop :=
  ∀ c ∈ rest.head?, isEnd c = true

/-- Written pieces with commas between them, and a closing character. -/
def closed (close : Char) : List (List Char) → List Char
  | [] => [close]
  | piece :: rest => piece ++ if rest.isEmpty then [close] else ',' :: closed close rest

theorem itemChars_eq (items : List Json) : itemChars items = closed ']' (items.map chars) := by
  induction items with
  | nil => simp [itemChars, closed]
  | cons item rest ih => cases rest <;> simp_all [itemChars, closed]

theorem fieldChars_eq (fields : Dict Json) :
    fieldChars fields = closed '\x7d' (fields.map pairChars) := by
  induction fields with
  | nil => simp [fieldChars, closed]
  | cons field rest ih => cases rest <;> simp_all [fieldChars, closed]

section

variable {α : Type} {write : α → List Char} {R : α → α → Prop} {close : Char} {x y : α}
  {xs ys : List α} {rest more : List Char}

theorem ends_closed (hclose : isEnd close = true) (pieces : List (List Char)) (rest : List Char) :
    Ends ((if pieces.isEmpty then [close] else ',' :: closed close pieces) ++ rest) := by
  intro c hc
  split at hc
  · obtain rfl := Option.some.inj hc
    exact hclose
  · obtain rfl := Option.some.inj hc
    rfl

/-- If no piece starts with a character that ends one, a closing character is no piece. -/
theorem closed_nil_ne (hstart : ∀ x, ∃ c tail, write x = c :: tail ∧ isEnd c = false)
    (hclose : isEnd close = true) :
    closed close [] ++ rest ≠ closed close ((y :: ys).map write) ++ more := by
  intro h
  obtain ⟨c, tail, hwrite, hc⟩ := hstart y
  simp only [closed, List.map_cons, hwrite, List.cons_append, List.cons.injEq] at h
  rw [← h.1, hclose] at hc
  cases hc

/-- Pieces of which it is known where each ends: it is known which they are, and where the last
ends. -/
theorem closed_cancel (hclose : isEnd close = true) (hcomma : close ≠ ',')
    (hstart : ∀ x, ∃ c tail, write x = c :: tail ∧ isEnd c = false)
    (hcancel : ∀ x ∈ xs, ∀ y after others, Ends after → Ends others →
      write x ++ after = write y ++ others → R x y ∧ after = others)
    (h : closed close (xs.map write) ++ rest = closed close (ys.map write) ++ more) :
    List.Forall₂ R xs ys ∧ rest = more := by
  induction xs generalizing ys with
  | nil =>
      cases ys with
      | nil => exact ⟨.nil, List.append_cancel_left h⟩
      | cons y ys => exact absurd h (closed_nil_ne hstart hclose)
  | cons x xs ih =>
      cases ys with
      | nil => exact absurd h.symm (closed_nil_ne hstart hclose)
      | cons y ys =>
          simp only [List.map_cons, closed, List.append_assoc] at h
          obtain ⟨hfirst, hafter⟩ := hcancel x List.mem_cons_self y _ _ (ends_closed hclose _ _)
            (ends_closed hclose _ _) h
          have hothers := fun x hx => hcancel x (List.mem_cons_of_mem _ hx)
          -- The character after a piece says whether it is the last one.
          cases xs with
          | nil =>
              cases ys with
              | nil => exact ⟨.cons hfirst .nil, (List.cons.inj hafter).2⟩
              | cons y ys => exact absurd (List.cons.inj hafter).1 hcomma
          | cons x xs =>
              cases ys with
              | nil => exact absurd (List.cons.inj hafter).1.symm hcomma
              | cons y ys =>
                  have hlast := ih hothers (List.cons.inj hafter).2
                  exact ⟨.cons hfirst hlast.1, hlast.2⟩

end

/-! ### Values in front of a text -/

theorem isEnd_of_isWordy {c : Char} (h : isWordy c = true) : isEnd c = false := by
  refine Bool.eq_false_iff.mpr fun hend => ?_
  simp only [isEnd, Bool.or_eq_true, decide_eq_true_eq] at hend
  rcases hend with (rfl | rfl) | rfl <;> exact absurd h (by decide)

theorem isWordy_of_ends {rest : List Char} (h : Ends rest) :
    ∀ c ∈ rest.head?, isWordy c = false := by
  refine fun c hc => Bool.eq_false_iff.mpr fun hwordy => ?_
  have hend := h c hc
  rw [isEnd_of_isWordy hwordy] at hend
  cases hend

/-- The first character of a value says whether it is a word. -/
theorem start_chars (j : Json) :
    ∃ c tail, j.chars = c :: tail ∧ isWordy c = j.isWord ∧ isEnd c = false := by
  by_cases hword : j.isWord = true
  · obtain ⟨c, tail, hchars⟩ := List.exists_cons_of_ne_nil (chars_ne_nil j)
    have hwordy := isWordy_of_mem_chars hword c (hchars ▸ List.mem_cons_self)
    exact ⟨c, tail, hchars, hwordy.trans hword.symm, isEnd_of_isWordy hwordy⟩
  · cases j with
    | text s => exact ⟨'"', _, by rw [chars]; rfl, rfl, by decide⟩
    | array items => exact ⟨'[', _, by rw [chars], rfl, by decide⟩
    | object fields => exact ⟨'\x7b', _, by rw [chars], rfl, by decide⟩
    | null | bool b | int n | float x => exact absurd rfl hword

variable {j k : Json} {rest more : List Char}

theorem isWord_of_append (h : j.chars ++ rest = k.chars ++ more) : j.isWord = k.isWord := by
  obtain ⟨c, tail, hj, hword, -⟩ := start_chars j
  obtain ⟨d, others, hk, hsame, -⟩ := start_chars k
  rw [hj, hk] at h
  rw [← hword, ← hsame, (List.cons.inj h).1]

/-- The words for null and the truth values are no numbers. -/
theorem isNumber_of_chars (hk : k.isWord = true) (h : j.chars = k.chars) (hj : j.isNumber = true) :
    k.isNumber = true := by
  have hall : ∀ c ∈ k.chars, isNumeral c = true := h ▸ isNumeral_of_mem_chars hj
  cases k with
  | null => exact absurd (hall 'l' (by simp [chars])) (by decide)
  | bool b =>
      cases b with
      | true => exact absurd (hall 't' (by simp [chars])) (by decide)
      | false => exact absurd (hall 'l' (by simp [chars])) (by decide)
  | int n | float x => rfl
  | text s | array items | object fields => cases hk

/-- Values that are written as the same word are alike. -/
theorem alike_of_word (hj : j.isWord = true) (hk : k.isWord = true) (h : j.chars = k.chars) :
    Alike j k := by
  by_cases hnumber : j.isNumber = true
  · exact .number hnumber (isNumber_of_chars hk h hnumber) (by rw [render, render, h])
  · have hother : ¬ k.isNumber = true := fun hother => hnumber (isNumber_of_chars hj h.symm hother)
    cases j with
    | null =>
        cases k with
        | null => exact .null
        | bool b => cases b <;> simp [chars] at h
        | _ => simp_all [isNumber, isWord]
    | bool b =>
        cases k with
        | null => cases b <;> simp [chars] at h
        | bool d => cases b <;> cases d <;> first | exact .bool _ | simp [chars] at h
        | _ => simp_all [isNumber, isWord]
    | int n | float x => exact absurd rfl hnumber
    | text s | array items | object fields => cases hj

/-- Names and values that agree place by place agree name by name. -/
theorem rel_value?_of_forall₂ {R : Json → Json → Prop} {fields others : Dict Json}
    (h : List.Forall₂ (fun field other => field.1 = other.1 ∧ R field.2 other.2) fields others)
    (name : String) : Option.Rel R (Dict.value? fields name) (Dict.value? others name) := by
  induction h with
  | nil => exact .none
  | @cons field other fields others hfirst _ ih =>
      rw [Dict.value?, Dict.value?, hfirst.1]
      split
      · exact .some hfirst.2
      · exact ih

theorem start_piece (j : Json) : ∃ c tail, j.chars = c :: tail ∧ isEnd c = false := by
  obtain ⟨c, tail, hchars, -, hend⟩ := start_chars j
  exact ⟨c, tail, hchars, hend⟩

theorem start_pairChars (field : String × Json) :
    ∃ c tail, pairChars field = c :: tail ∧ isEnd c = false :=
  ⟨'"', _, by rw [pairChars, quotedText]; rfl, by decide⟩

/-- **Where a value stands in front, it is known which, and where it ends.** -/
theorem alike_of_append (hrest : Ends rest) (hmore : Ends more)
    (h : j.chars ++ rest = k.chars ++ more) : Alike j k ∧ rest = more := by
  induction j using Json.induction generalizing k rest more with
  | null | bool | int | float =>
      have hk : k.isWord = true := (isWord_of_append h).symm
      obtain ⟨hsame, hafter⟩ := word_cancel (isWordy_of_mem_chars rfl) (isWordy_of_mem_chars hk)
        (isWordy_of_ends hrest) (isWordy_of_ends hmore) h
      exact ⟨alike_of_word rfl hk hsame, hafter⟩
  | text s =>
      cases k with
      | text t =>
          rw [chars, chars] at h
          obtain ⟨rfl, hafter⟩ := quotedText_cancel h
          exact ⟨.text s, hafter⟩
      | array others | object others => simp [chars, quotedText] at h
      | null | bool | int | float => cases isWord_of_append h
  | array items ih =>
      cases k with
      | array others =>
          rw [chars, chars, itemChars_eq, itemChars_eq] at h
          obtain ⟨hitems, hafter⟩ := closed_cancel rfl (by decide) start_piece
            (fun item hitem other _ _ hends hothers => ih item hitem hends hothers)
            (List.cons.inj h).2
          exact ⟨.array hitems, hafter⟩
      | text t | object others => simp [chars, quotedText] at h
      | null | bool | int | float => cases isWord_of_append h
  | object fields ih =>
      cases k with
      | object others =>
          rw [chars, chars, fieldChars_eq, fieldChars_eq] at h
          have hpair : ∀ field ∈ fields, ∀ other after others, Ends after → Ends others →
              pairChars field ++ after = pairChars other ++ others →
                (field.1 = other.1 ∧ Alike field.2 other.2) ∧ after = others := by
            intro field hfield other after others hends hothers hsame
            rw [pairChars, pairChars, List.append_assoc, List.append_assoc] at hsame
            obtain ⟨hname, hvalues⟩ := quotedText_cancel hsame
            obtain ⟨hvalue, hafter⟩ := ih field hfield hends hothers (List.cons.inj hvalues).2
            exact ⟨⟨hname, hvalue⟩, hafter⟩
          obtain ⟨hfields, hafter⟩ := closed_cancel rfl (by decide) start_pairChars hpair
            (List.cons.inj h).2
          exact ⟨.object (rel_value?_of_forall₂ hfields), hafter⟩
      | text t | array others => simp [chars, quotedText] at h
      | null | bool | int | float => cases isWord_of_append h

/-- Values that are written alike are alike. -/
theorem alike_of_render (h : j.render = k.render) : Alike j k := by
  have hchars : j.chars = k.chars := String.ofList_injective h
  have hends : Ends [] := fun c hc => by cases hc
  exact (alike_of_append hends hends (congrArg (· ++ []) hchars)).1

theorem Alike.refl (j : Json) : Alike j j :=
  alike_of_render rfl

/-! ### What is alike -/

@[simp] theorem alike_text_iff {s t : String} : Alike (.text s) (.text t) ↔ s = t := by
  refine ⟨fun h => ?_, fun h => h ▸ .text s⟩
  cases h with
  | number hnumber => cases hnumber
  | text => rfl

/-- Whole numbers are alike only if they are the same. -/
@[simp] theorem alike_int_iff {n m : Int} : Alike (.int n) (.int m) ↔ n = m := by
  refine ⟨fun h => ?_, fun h => h ▸ .refl _⟩
  cases h with
  | number _ _ hsame =>
      have hchars := String.ofList_injective hsame
      rw [chars, chars, String.toList_inj, Int.toString_eq_repr, Int.toString_eq_repr] at hchars
      exact Int.repr_inj.mp hchars

@[simp] theorem alike_array_iff {items others : List Json} :
    Alike (.array items) (.array others) ↔ List.Forall₂ Alike items others := by
  refine ⟨fun h => ?_, .array⟩
  cases h with
  | number hnumber => cases hnumber
  | array hitems => exact hitems

@[simp] theorem alike_object_iff {fields others : Dict Json} :
    Alike (.object fields) (.object others) ↔
      ∀ name, Option.Rel Alike (Dict.value? fields name) (Dict.value? others name) := by
  refine ⟨fun h => ?_, .object⟩
  cases h with
  | number hnumber => cases hnumber
  | object hfields => exact hfields

/-- Lists of texts are alike only if they are the same. -/
theorem alike_texts_iff {names others : List String} :
    Alike (.array (names.map .text)) (.array (others.map .text)) ↔ names = others := by
  simp [List.forall₂_map_left_iff, List.forall₂_map_right_iff]

end Json

end StoryDirector
