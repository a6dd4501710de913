import StoryDirector.Dict
import StoryDirector.Decimal.Reading
/-!
# StoryDirector.Json

The dynamic values that players and workers send along: payloads, metadata, state changes. **Whole
numbers and other numbers are different values**, because a flag made from `7` is not the flag made
from `7.0`. The readers `field?`, `text?`, `whole?` and `number?` are the only ways the rest of the
library looks into a value.
-/

namespace StoryDirector

/-- A JSON value. Whole numbers lie between `leastSigned` and `largestUnsigned`, other numbers are
finite, and the fields of an object are in rising order of their names. -/
inductive Json where
  /-- The null value. -/
  | null
  /-- A truth value. -/
  | bool (b : Bool)
  /-- A whole number. -/
  | int (n : Int)
  /-- A number with a fraction or an exponent, or one too large for a whole number. -/
  | float (x : Float)
  /-- A text. -/
  | text (s : String)
  /-- A list of values. -/
  | array (items : List Json)
  /-- Values under names. -/
  | object (fields : List (String × Json))

namespace Json

/-- An object with the given entries, a later one winning over an earlier one. -/
def ofEntries (entries : List (String × Json)) : Json :=
  .object (Dict.ofEntries entries)

/-- A number as a value; what is not finite becomes null. -/
def ofFloat (x : Float) : Json :=
  if x.isFinite then .float x else .null

/-- A natural number as a value. -/
def ofNat (n : Nat) : Json :=
  .int n

/-- The fields of an object. -/
def fields? : Json → Option (Dict Json)
  | .object fields => some fields
  | _ => none

/-- The value of a field; only objects have fields. -/
def field? (j : Json) (name : String) : Option Json :=
  j.fields?.bind fun fields => Dict.value? fields name

/-- The text of a text value. -/
def text? : Json → Option String
  | .text s => some s
  | _ => none

/-- The text in a field. -/
def textField? (j : Json) (name : String) : Option String :=
  (j.field? name).bind text?

/-- The whole number of a value that fits into 64 signed bits. -/
def whole? : Json → Option Int
  | .int n => if leastSigned ≤ n ∧ n ≤ largestSigned then some n else none
  | _ => none

/-- The number of a numeric value, rounded if it is a large whole number. -/
def number? : Json → Option Float
  | .int n => some (doubleOfInt n)
  | .float x => some x
  | _ => none

@[simp] theorem field?_null (name : String) : field? .null name = none := rfl

@[simp] theorem field?_object (fields : List (String × Json)) (name : String) :
    field? (.object fields) name = Dict.value? fields name := rfl

end Json

end StoryDirector
