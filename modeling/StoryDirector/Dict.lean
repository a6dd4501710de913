/-!
# StoryDirector.Dict

Finite maps from names to values. **A `Dict` is an association list kept in rising key order by its
only writer, `put`**, so two dictionaries with the same content print the same text. Looking up and
writing are described by `value?_put_self` and `value?_put_of_ne`, which hold for every list.
-/

namespace StoryDirector

/-- Values under names, in rising order of the names. -/
abbrev Dict (α : Type) := List (String × α)

namespace Dict

variable {α β : Type}

/-- The value under a name. -/
def value? : Dict α → String → Option α
  | [], _ => none
  | (name, value) :: rest, key => if name = key then some value else value? rest key

/-- Whether something stands under a name. -/
def has (d : Dict α) (key : String) : Bool :=
  (value? d key).isSome

/-- The dictionary with a value put under a name, in place of an earlier one. -/
def put : Dict α → String → α → Dict α
  | [], key, value => [(key, value)]
  | (name, old) :: rest, key, value =>
    if key < name then (key, value) :: (name, old) :: rest
    else if name = key then (key, value) :: rest
    else (name, old) :: put rest key value

/-- All entries of a second dictionary put over the first. -/
def putAll (d : Dict α) (entries : List (String × α)) : Dict α :=
  entries.foldl (fun acc entry => put acc entry.1 entry.2) d

/-- The dictionary of some entries, a later one winning over an earlier one of the same name. -/
def ofEntries (entries : List (String × α)) : Dict α :=
  putAll [] entries

/-- The names in the dictionary. -/
def names (d : Dict α) : List String :=
  d.map (·.1)

/-- The dictionary without the given names. -/
def without (d : Dict α) (dropped : List String) : Dict α :=
  d.filter fun entry => !dropped.contains entry.1

@[simp] theorem value?_nil (key : String) : value? ([] : Dict α) key = none := rfl

theorem value?_cons (name : String) (value : α) (rest : Dict α) (key : String) :
    value? ((name, value) :: rest) key = if name = key then some value else value? rest key := rfl

@[simp] theorem value?_put_self (d : Dict α) (key : String) (value : α) :
    value? (put d key value) key = some value := by
  induction d with
  | nil => simp [put, value?]
  | cons entry rest ih =>
    obtain ⟨name, old⟩ := entry
    by_cases hlt : key < name
    · simp [put, value?, hlt]
    · by_cases heq : name = key
      · subst heq
        simp [put, value?]
      · simp [put, value?, hlt, heq, ih]

theorem value?_put_of_ne (d : Dict α) {key other : String} (h : other ≠ key) (value : α) :
    value? (put d key value) other = value? d other := by
  have h' : ¬ key = other := fun e => h e.symm
  induction d with
  | nil => simp [put, value?, h']
  | cons entry rest ih =>
    obtain ⟨name, old⟩ := entry
    by_cases hlt : key < name
    · simp [put, value?, hlt, h']
    · by_cases heq : name = key
      · subst heq
        simp [put, value?, h']
      · simp [put, value?, hlt, heq, ih]

/-- Writing never takes a name away. -/
theorem has_put_of_has {d : Dict α} {other : String} (h : has d other = true) (key : String)
    (value : α) : has (put d key value) other = true := by
  by_cases heq : other = key
  · simp [has, heq]
  · simpa [has, value?_put_of_ne d heq] using h

end Dict

end StoryDirector
