import StoryDirector.Decimal.Binary
import StoryDirector.Json
import StoryDirector.Uuid
/-!
# StoryDirector.Record

How values of the library are written as JSON and read back. **A record is an object with its fields
under their names, or a list with its fields in order.** Fields that nothing is known about are
ignored. A field may be missing if its absence means something (`Fields.optional`) or if there is a
value for it (`Fields.orElse`); at the end of a list only the second sort may be missing.

A whole number is accepted where any number is, never the other way round, and has to lie in the
range of its field.
-/

namespace StoryDirector

/-- What a format allows beyond the common rules. -/
structure RecordStyle where
  /-- Whether a list may have more items than the record has fields. -/
  longLists : Bool
  /-- What may stand under a name from a fixed choice, when the name is written as a field. -/
  bareBody : Json → Bool

namespace RecordStyle

/-- Lists are exact, and null stands under a name. -/
def json : RecordStyle where
  longLists := false
  bareBody
    | .null => true
    | _ => false

/-- Lists may be longer, and something empty stands under a name. -/
def toml : RecordStyle where
  longLists := true
  bareBody
    | .array items => items.isEmpty
    | .object fields => fields.isEmpty
    | _ => false

end RecordStyle

/-- The fields of a record. -/
inductive Fields where
  /-- Fields under their names. -/
  | named (fields : Dict Json)
  /-- Fields in order. -/
  | placed (items : List Json)

namespace Fields

/-- The fields of a record with so many fields. -/
def of? (style : RecordStyle) (count : Nat) : Json → Option Fields
  | .object fields => some (.named fields)
  | .array items =>
    if style.longLists || decide (items.length ≤ count) then some (.placed items) else none
  | _ => none

/-- The value of the field with a place and a name. -/
def find? (fields : Fields) (place : Nat) (name : String) : Option Json :=
  match fields with
  | .named fields => Dict.value? fields name
  | .placed items => items[place]?

variable {α : Type}

/-- A field that has to be there. -/
def required (fields : Fields) (place : Nat) (name : String) (read : Json → Option α) : Option α :=
  (fields.find? place name).bind read

/-- A field that may be null, or missing under its name. -/
def optional (fields : Fields) (place : Nat) (name : String) (read : Json → Option α) :
    Option (Option α) :=
  match fields, fields.find? place name with
  | _, some .null => some none
  | _, some value => (read value).map some
  | .named _, none => some none
  | .placed _, none => none

/-- A field with a value for when it is missing. -/
def orElse (fields : Fields) (place : Nat) (name : String) (read : Json → Option α) (fallback : α) :
    Option α :=
  match fields.find? place name with
  | some value => read value
  | none => some fallback

end Fields

namespace Json

/-- A truth value. -/
def truth? : Json → Option Bool
  | .bool b => some b
  | _ => none

theorem truth?_eq_some {value : Json} {b : Bool} : value.truth? = some b ↔ value = .bool b := by
  cases value <;> simp [truth?]

/-- A whole number in a range. -/
def within? (low high : Int) : Json → Option Int
  | .int n => if low ≤ n ∧ n ≤ high then some n else none
  | _ => none

/-- A whole number of so many bits without a sign. -/
def natural? (bits : Nat) (j : Json) : Option Nat :=
  (j.within? 0 ((Nat.pow 2 bits : Nat) - 1)).map Int.toNat

/-- A whole number of so many bits, one of them the sign. -/
def integer? (bits : Nat) (j : Json) : Option Int :=
  let bound : Int := (Nat.pow 2 (bits - 1) : Nat)
  j.within? (-bound) (bound - 1)

/-- A number of single precision, rounded once. -/
def single? : Json → Option Float32
  | .int n => some (singleOfBits (BinaryFormat.single.ofRatio (decide (n < 0)) n.natAbs 1))
  | .float x => some (narrow x)
  | _ => none

/-- A list. -/
def list? {α : Type} (read : Json → Option α) : Json → Option (List α)
  | .array items => items.mapM read
  | _ => none

/-- Values under names. -/
def dict? {α : Type} (read : Json → Option α) : Json → Option (Dict α)
  | .object fields => fields.mapM fun (name, value) => (read value).map fun value => (name, value)
  | _ => none

/-- An identity. -/
def uuid? (j : Json) : Option Uuid :=
  j.text?.bind Uuid.ofText?

/-- A name from a fixed choice, as a text or as a field of its own. -/
def named? {α : Type} (style : RecordStyle) (ofName? : String → Option α) : Json → Option α
  | .text name => ofName? name
  | .object [(name, body)] => if style.bareBody body then ofName? name else none
  | _ => none

/-- Something or null. -/
def orNull {α : Type} (write : α → Json) : Option α → Json
  | some value => write value
  | none => .null

/-- A number of single precision as a value. -/
def ofSingle (x : Float32) : Json :=
  Json.ofFloat (widen x)

/-- A list as a value. -/
def ofList {α : Type} (write : α → Json) (items : List α) : Json :=
  .array (items.map write)

/-- An identity as a value. -/
def ofUuid (id : Uuid) : Json :=
  .text id.text

end Json

end StoryDirector
