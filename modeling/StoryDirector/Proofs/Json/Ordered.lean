import StoryDirector.Proofs.Json.Unambiguous
import StoryDirector.Record
/-!
# StoryDirector.Proofs.Json.Ordered

**Values that say the same have the same canonical text, if the fields of their objects are in
rising order of the names** (`Json.render_eq_iff`). Two dictionaries in that order that agree name
by name agree place by place, because the smallest name of both must come first in both
(`Dict.forall₂_of_rel_value?`).

The order comes with every value that the library takes in or makes: `Dict.put` keeps it, and so all
values that are read have it (`Json.ordered_of_parse?`).
-/

namespace StoryDirector

/-! ### Dictionaries -/

namespace Dict

variable {α : Type} {R : α → α → Prop} {d fields others : Dict α}

/-- The names are in rising order, so none stands twice. -/
def Rising (d : Dict α) : Prop :=
  d.Pairwise fun entry later => entry.1 < later.1

theorem nodup_names (h : Rising d) : (names d).Nodup :=
  List.pairwise_map.mpr (List.Pairwise.imp (fun hlt => ne_of_lt hlt) h)

theorem mem_put {key : String} {value : α} {entry : String × α} (h : entry ∈ put d key value) :
    entry = (key, value) ∨ entry ∈ d := by
  induction d with
  | nil => exact Or.inl (List.mem_singleton.mp h)
  | cons first rest ih =>
      rw [put] at h
      split at h
      · exact List.mem_cons.mp h
      split at h
      · exact (List.mem_cons.mp h).imp_right (List.mem_cons_of_mem _)
      · rcases List.mem_cons.mp h with rfl | hrest
        · exact Or.inr List.mem_cons_self
        · exact (ih hrest).imp_right (List.mem_cons_of_mem _)

/-- Writing keeps the order. -/
theorem rising_put (h : Rising d) (key : String) (value : α) : Rising (put d key value) := by
  induction d with
  | nil => exact List.pairwise_singleton _ _
  | cons first rest ih =>
      obtain ⟨hfirst, hrest⟩ := List.pairwise_cons.mp h
      rw [put]
      split
      case isTrue hlt =>
          refine List.pairwise_cons.mpr ⟨fun entry hentry => ?_, h⟩
          rcases List.mem_cons.mp hentry with rfl | hentry
          · exact hlt
          · exact String.lt_trans hlt (hfirst entry hentry)
      case isFalse hnotlt =>
          split
          case isTrue heq => exact List.pairwise_cons.mpr ⟨heq ▸ hfirst, hrest⟩
          case isFalse hne =>
              have hlt : first.1 < key := (Std.lt_trichotomy first.1 key).resolve_right
                fun hother => hother.elim hne hnotlt
              refine List.pairwise_cons.mpr ⟨fun entry hentry => ?_, ih hrest⟩
              rcases mem_put hentry with rfl | hentry
              · exact hlt
              · exact hfirst entry hentry

/-- So a dictionary that is made of entries is in order, -/
theorem rising_putAll (h : Rising d) (entries : List (String × α)) : Rising (putAll d entries) := by
  induction entries generalizing d with
  | nil => exact h
  | cons entry rest ih => exact ih (rising_put h entry.1 entry.2)

/-- and has no others. -/
theorem mem_putAll {entries : List (String × α)} {entry : String × α}
    (h : entry ∈ putAll d entries) : entry ∈ d ∨ entry ∈ entries := by
  induction entries generalizing d with
  | nil => exact Or.inl h
  | cons first rest ih =>
      rcases ih h with hput | hrest
      · rcases mem_put hput with rfl | hold
        · exact Or.inr List.mem_cons_self
        · exact Or.inl hold
      · exact Or.inr (List.mem_cons_of_mem _ hrest)

theorem rising_without (h : Rising d) (dropped : List String) : Rising (without d dropped) :=
  h.filter _

theorem value?_without (d : Dict α) (dropped : List String) (name : String) :
    value? (without d dropped) name = if name ∈ dropped then none else value? d name := by
  induction d with
  | nil => simp [without]
  | cons first rest ih =>
      rw [without] at ih
      by_cases hdropped : first.1 ∈ dropped
      · rw [without, List.filter_cons_of_neg (by simpa using hdropped), ih, value?]
        by_cases hname : first.1 = name
        · rw [← hname, if_pos hdropped, if_pos hdropped]
        · rw [if_neg hname]
      · rw [without, List.filter_cons_of_pos (by simpa using hdropped), value?, value?, ih]
        by_cases hname : first.1 = name
        · rw [← hname, if_pos rfl, if_neg hdropped, if_pos rfl]
        · rw [if_neg hname, if_neg hname]

theorem mem_of_value? {name : String} {value : α} (h : value? d name = some value) :
    (name, value) ∈ d := by
  induction d with
  | nil => cases h
  | cons first rest ih =>
      rw [value?] at h
      split at h
      case isTrue hname =>
          rw [← hname, ← Option.some.inj h]
          exact List.mem_cons_self
      case isFalse => exact List.mem_cons_of_mem _ (ih h)

/-- A name before all others is not among them. -/
theorem value?_eq_none_of_lt {name : String} (h : ∀ entry ∈ d, name < entry.1) :
    value? d name = none := by
  induction d with
  | nil => rfl
  | cons first rest ih =>
      have hne : first.1 ≠ name := fun heq =>
        String.lt_irrefl name (heq ▸ h first List.mem_cons_self)
      rw [value?, if_neg hne]
      exact ih fun entry hentry => h entry (List.mem_cons_of_mem _ hentry)

theorem others_after {first : String × α} {name : String} (h : ∀ entry ∈ d, first.1 < entry.1)
    (hname : name < first.1) : ∀ entry ∈ first :: d, name < entry.1 :=
  List.forall_mem_cons.mpr ⟨hname, fun entry hentry => String.lt_trans hname (h entry hentry)⟩

/-- In rising order, what agrees name by name agrees place by place. -/
theorem forall₂_of_rel_value? (hfields : Rising fields) (hothers : Rising others)
    (h : ∀ name, Option.Rel R (value? fields name) (value? others name)) :
    List.Forall₂ (fun field other => field.1 = other.1 ∧ R field.2 other.2) fields others := by
  induction fields generalizing others with
  | nil =>
      cases others with
      | nil => exact .nil
      | cons other others =>
          have hother := h other.1
          rw [value?_nil, value?, if_pos rfl] at hother
          cases hother
  | cons field fields ih =>
      obtain ⟨hfield, hrest⟩ := List.pairwise_cons.mp hfields
      cases others with
      | nil =>
          have hother := h field.1
          rw [value?_nil, value?, if_pos rfl] at hother
          cases hother
      | cons other others =>
          obtain ⟨hother, hothersRest⟩ := List.pairwise_cons.mp hothers
          -- The first names are the same, since the smaller of two would be in one of them only.
          have hname : field.1 = other.1 := by
            rcases Std.lt_trichotomy field.1 other.1 with hlt | heq | hgt
            · have hmissing := h field.1
              rw [value?, if_pos rfl, value?_eq_none_of_lt (others_after hother hlt)] at hmissing
              cases hmissing
            · exact heq
            · have hmissing := h other.1
              rw [value?_eq_none_of_lt (others_after hfield hgt), value?, if_pos rfl] at hmissing
              cases hmissing
          have hvalue := h field.1
          rw [value?, if_pos rfl, value?, if_pos hname.symm] at hvalue
          cases hvalue with
          | some hsame =>
              refine .cons ⟨hname, hsame⟩ (ih hrest hothersRest fun name => ?_)
              by_cases hfirst : field.1 = name
              · rw [value?_eq_none_of_lt fun entry hentry => hfirst ▸ hfield entry hentry,
                  value?_eq_none_of_lt fun entry hentry => hfirst ▸ hname ▸ hother entry hentry]
                exact .none
              · have hothers := h name
                rwa [value?, if_neg hfirst, value?, if_neg (hname ▸ hfirst)] at hothers

end Dict

/-! ### Values -/

namespace Json

/-- The fields of all objects are in rising order of their names, at any depth. -/
inductive Ordered : Json → Prop where
  /-- There are no fields in null, -/
  | null : Ordered .null
  /-- in a truth value, -/
  | bool (b : Bool) : Ordered (.bool b)
  /-- in a number -/
  | int (n : Int) : Ordered (.int n)
  /-- with a fraction or without, -/
  | float (x : Float) : Ordered (.float x)
  /-- and in a text. -/
  | text (s : String) : Ordered (.text s)
  /-- A list is as its items are. -/
  | array {items : List Json} (h : ∀ item ∈ items, Ordered item) : Ordered (.array items)
  /-- The names of an object are in order, and its values are as they should be. -/
  | object {fields : Dict Json} (hnames : Dict.Rising fields)
      (h : ∀ field ∈ fields, Ordered field.2) : Ordered (.object fields)

variable {j k : Json}

/-- What stands under a name or at a place of something in order is in order. -/
theorem Ordered.find? {fields : Fields} {style : RecordStyle} {count place : Nat} {name : String}
    {value : Json} (hj : j.Ordered) (hfields : Fields.of? style count j = some fields)
    (h : fields.find? place name = some value) : value.Ordered := by
  cases hj with
  | object _ hvalues =>
      obtain rfl := Option.some.inj hfields
      exact hvalues _ (Dict.mem_of_value? h)
  | array hitems =>
      rw [Fields.of?] at hfields
      split at hfields
      · obtain rfl := Option.some.inj hfields
        exact hitems _ (List.mem_of_getElem? h)
      · cases hfields
  | null | bool | int | float | text => cases hfields

/-- An object that is made of values whose fields are in order is itself in order. -/
theorem ordered_ofEntries {entries : List (String × Json)}
    (h : ∀ entry ∈ entries, entry.2.Ordered) : (ofEntries entries).Ordered := by
  refine .object (Dict.rising_putAll .nil entries) fun field hfield => ?_
  rcases Dict.mem_putAll hfield with hnone | hentry
  · exact absurd hnone List.not_mem_nil
  · exact h field hentry

theorem ordered_without {fields : Dict Json} (h : (Json.object fields).Ordered)
    (dropped : List String) : (Json.object (Dict.without fields dropped)).Ordered := by
  cases h with
  | object hnames hfields =>
      exact .object (Dict.rising_without hnames dropped) fun field hfield =>
        hfields field (List.mem_of_mem_filter hfield)

theorem map_eq_of_forall₂ {α β : Type} {R : α → α → Prop} {write : α → β} {xs ys : List α}
    (h : List.Forall₂ R xs ys) (hsame : ∀ x ∈ xs, ∀ y ∈ ys, R x y → write x = write y) :
    xs.map write = ys.map write := by
  induction h with
  | nil => rfl
  | @cons x y xs ys hfirst _ ih =>
      rw [List.map_cons, List.map_cons,
        hsame x List.mem_cons_self y List.mem_cons_self hfirst,
        ih fun x hx y hy => hsame x (List.mem_cons_of_mem _ hx) y (List.mem_cons_of_mem _ hy)]

/-- **Values that are alike are written alike, if their fields are in order.** -/
theorem chars_eq_of_alike (h : Alike j k) (hj : Ordered j) (hk : Ordered k) :
    j.chars = k.chars := by
  induction j using Json.induction generalizing k with
  | null | bool | int | float | text =>
      cases h with
      | number _ _ hsame => exact String.ofList_injective hsame
      | _ => rfl
  | array items ih =>
      cases h with
      | number hnumber => cases hnumber
      | array hitems =>
          cases hj with
          | array hj =>
          cases hk with
          | array hk =>
          rw [chars, chars, itemChars_eq, itemChars_eq, map_eq_of_forall₂ hitems
            fun item hitem other hother hsame => ih item hitem hsame (hj item hitem)
              (hk other hother)]
  | object fields ih =>
      cases h with
      | number hnumber => cases hnumber
      | object hfields =>
          cases hj with
          | object hnames hj =>
          cases hk with
          | object hothers hk =>
          rw [chars, chars, fieldChars_eq, fieldChars_eq,
            map_eq_of_forall₂ (Dict.forall₂_of_rel_value? hnames hothers hfields)
              fun field hfield other hother hsame => ?_]
          obtain ⟨hname, hvalue⟩ := hsame
          rw [pairChars, pairChars, hname,
            ih field hfield hvalue (hj field hfield) (hk other hother)]

/-- For values with their fields in order, to be written alike is to be alike. -/
theorem render_eq_iff (hj : Ordered j) (hk : Ordered k) : j.render = k.render ↔ Alike j k :=
  ⟨alike_of_render, fun h => congrArg String.ofList (chars_eq_of_alike h hj hk)⟩

/-! ### Values that are read -/

theorem ordered_of_numberOfParts? {negative : Bool} {whole : List Char}
    {fraction : Option (List Char)} {exponent : Option Int}
    (h : numberOfParts? negative whole fraction exponent = some j) : j.Ordered := by
  unfold numberOfParts? at h
  extract_lets places digits n x at h
  split at h
  · exact Option.some.inj h ▸ .int n
  split at h
  · cases h
  · exact Option.some.inj h ▸ .float x

theorem ordered_of_readNumber {s rest : List Char} (h : readNumber s = some (j, rest)) :
    j.Ordered := by
  simp only [readNumber, Option.bind_eq_bind, Option.bind_eq_some_iff] at h
  obtain ⟨whole, -, h⟩ := h
  split at h
  · cases h
  · simp only [Option.bind_eq_some_iff] at h
    obtain ⟨fraction, -, exponent, -, value, hvalue, h⟩ := h
    obtain ⟨rfl, -⟩ := Prod.mk.inj (Option.some.inj h)
    exact ordered_of_numberOfParts? hvalue

/-- What the readers make of a text, so deep down, has its fields in order. -/
structure ReadsOrdered (fuel : Nat) : Prop where
  /-- A value has. -/
  value : ∀ {s rest : List Char} {j : Json}, readValue fuel s = some (j, rest) → j.Ordered
  /-- A list has, if the items that were read before have. -/
  items : ∀ {before : List Json} {s rest : List Char} {j : Json},
    (∀ item ∈ before, item.Ordered) → readItems fuel before s = some (j, rest) → j.Ordered
  /-- An object has, if the fields that were read before are in order and have. -/
  fields : ∀ {before : Dict Json} {s rest : List Char} {j : Json},
    (Json.object before).Ordered → readFields fuel before s = some (j, rest) → j.Ordered

theorem ordered_put {fields : Dict Json} (h : (Json.object fields).Ordered) (name : String)
    {value : Json} (hvalue : value.Ordered) :
    (Json.object (Dict.put fields name value)).Ordered := by
  cases h with
  | object hnames hfields =>
      refine .object (Dict.rising_put hnames name value) fun field hfield => ?_
      rcases Dict.mem_put hfield with rfl | hold
      · exact hvalue
      · exact hfields field hold

theorem ReadsOrdered.succ {fuel : Nat} (h : ReadsOrdered fuel) : ReadsOrdered (fuel + 1) where
  value := by
    intro s rest j hread
    have hempty : (Json.object []).Ordered := .object .nil fun _ hfield => by cases hfield
    rw [readValue] at hread
    split at hread
    case h_1 | h_2 | h_3 =>
        obtain ⟨rfl, -⟩ := Prod.mk.inj (Option.some.inj hread)
        constructor
    case h_4 =>
        obtain ⟨⟨t, after⟩, -, hread⟩ := Option.map_eq_some_iff.mp hread
        obtain ⟨rfl, -⟩ := Prod.mk.inj hread
        exact .text t
    case h_5 =>
        split at hread
        · obtain ⟨rfl, -⟩ := Prod.mk.inj (Option.some.inj hread)
          exact .array fun _ hitem => by cases hitem
        · exact h.items (fun _ hitem => by cases hitem) hread
    case h_6 =>
        split at hread
        · obtain ⟨rfl, -⟩ := Prod.mk.inj (Option.some.inj hread)
          exact hempty
        · exact h.fields hempty hread
    case h_7 => exact ordered_of_readNumber hread
  items := by
    intro before s rest j hbefore hread
    rw [readItems] at hread
    cases hitem : readValue fuel s with
    | none => simp [hitem] at hread
    | some found =>
        have hmore : ∀ item ∈ found.1 :: before, item.Ordered :=
          List.forall_mem_cons.mpr ⟨h.value hitem, hbefore⟩
        rw [hitem] at hread
        dsimp only at hread
        split at hread
        · exact h.items hmore hread
        · obtain ⟨rfl, -⟩ := Prod.mk.inj (Option.some.inj hread)
          exact .array fun item hitem => hmore item (List.mem_reverse.mp hitem)
        · cases hread
  fields := by
    intro before s rest j hbefore hread
    rw [readFields] at hread
    split at hread
    case h_2 => cases hread
    case h_1 =>
        split at hread
        · cases hread
        case h_2 name after hname =>
            split at hread
            case h_2 => cases hread
            case h_1 =>
                split at hread
                · cases hread
                case h_2 value more hvalue =>
                    have hput := ordered_put hbefore name (h.value hvalue)
                    split at hread
                    · exact h.fields hput hread
                    · obtain ⟨rfl, -⟩ := Prod.mk.inj (Option.some.inj hread)
                      exact hput
                    · cases hread

theorem readsOrdered (fuel : Nat) : ReadsOrdered fuel := by
  induction fuel with
  | zero =>
      refine ⟨fun h => ?_, fun _ h => ?_, fun _ h => ?_⟩
      · rw [readValue] at h
        cases h
      · rw [readItems] at h
        cases h
      · rw [readFields] at h
        cases h
  | succ fuel ih => exact ih.succ

/-- Every value that a text writes has its fields in order. -/
theorem ordered_of_parse? {s : String} (h : parse? s = some j) : j.Ordered := by
  rw [parse?] at h
  split at h
  case h_1 value rest hread =>
      split at h
      · exact Option.some.inj h ▸ (readsOrdered _).value hread
      · cases h
  case h_2 => cases h

end Json

end StoryDirector
