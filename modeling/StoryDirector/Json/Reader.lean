import StoryDirector.Json
/-!
# StoryDirector.Json.Reader

From text to values. **A number without fraction and exponent that fits into 64 bits is a whole
number, every other number is the double nearest to it**, negative zero included; a number beyond
all doubles is refused. Of two fields with one name the later wins. The readers take the characters
still ahead and return what they read with the rest; the depth they may descend to is bounded by
the length of the text (`Json.parse?`).
-/

namespace StoryDirector.Json

/-- What a reader returns: the value read and the characters after it. -/
abbrev Read (α : Type) := Option (α × List Char)

/-- The characters from the first that is not JSON white space. -/
def skipBlank (s : List Char) : List Char :=
  s.dropWhile fun c => c = ' ' || c = '\t' || c = '\n' || c = '\r'

/-- The value of a decimal digit. -/
def digitValue (c : Char) : Nat :=
  c.toNat - 0x30

/-- The value of a hexadecimal digit. -/
def hexValue? (c : Char) : Option Nat :=
  if c.isDigit then some (c.toNat - 0x30)
  else if 0x61 ≤ c.toNat ∧ c.toNat ≤ 0x66 then some (c.toNat - 0x57)
  else if 0x41 ≤ c.toNat ∧ c.toNat ≤ 0x46 then some (c.toNat - 0x37)
  else none

/-- The number written by some hexadecimal digits. -/
def hexNumber? (s : List Char) : Option Nat :=
  s.foldl (fun acc c => acc.bind fun n => (hexValue? c).map (n * 16 + ·)) (some 0)

/-! ### Numbers -/

/-- Digits at the front of a text, at least one. -/
def digits? (s : List Char) : Read (List Char) :=
  match s.takeWhile Char.isDigit with
  | [] => none
  | found => some (found, s.dropWhile Char.isDigit)

/-- The number written by decimal digits. -/
def decimalNumber (s : List Char) : Nat :=
  s.foldl (fun n c => n * 10 + digitValue c) 0

/-- A fraction, if a point comes next. -/
def fraction? (s : List Char) : Read (Option (List Char)) :=
  match s with
  | '.' :: rest => (digits? rest).map fun (found, after) => (some found, after)
  | _ => some (none, s)

/-- An exponent, if the letter for it comes next. -/
def exponent? (s : List Char) : Read (Option Int) :=
  let signedDigits (sign : Int) (s : List Char) : Read (Option Int) :=
    (digits? s).map fun (found, after) => (some (sign * (decimalNumber found : Int)), after)
  match s with
  | c :: rest =>
    if c = 'e' ∨ c = 'E' then
      match rest with
      | '+' :: after => signedDigits 1 after
      | '-' :: after => signedDigits (-1) after
      | _ => signedDigits 1 rest
    else some (none, s)
  | [] => some (none, s)

/-- A number from its parts: sign, digits before and after the point, exponent. Nothing is returned
for a number that rounds to infinity. -/
def numberOfParts? (negative : Bool) (whole : List Char) (fraction : Option (List Char))
    (exponent : Option Int) : Option Json :=
  let places := fraction.getD []
  let digits := decimalNumber (whole ++ places)
  let n : Int := if negative then -(digits : Int) else digits
  if fraction.isNone ∧ exponent.isNone ∧ !(negative && digits = 0) ∧
      leastSigned ≤ n ∧ n ≤ largestUnsigned then
    some (.int n)
  else
    let x := nearestDouble negative digits (exponent.getD 0 - places.length)
    if x.isInf then none else some (.float x)

/-- A number at the front of a text. A zero is not followed by further digits. -/
def readNumber (s : List Char) : Option (Json × List Char) := do
  let (negative, s) := match s with
    | '-' :: rest => (true, rest)
    | _ => (false, s)
  let (whole, s) ← digits? s
  if whole.length ≠ 1 ∧ whole.head? = some '0' then none
  let (fraction, s) ← fraction? s
  let (exponent, s) ← exponent? s
  let value ← numberOfParts? negative whole fraction exponent
  some (value, s)

/-! ### Texts -/

/-- A code point of four hexadecimal digits at the front of a text. -/
def readUnit (s : List Char) : Read Nat :=
  if s.length < 4 then none else (hexNumber? (s.take 4)).map fun n => (n, s.drop 4)

/-- The character after `\u`, which takes two units above the basic plane. -/
def readPoint (s : List Char) : Option (Char × List Char) := do
  let (first, rest) ← readUnit s
  if 0xD800 ≤ first ∧ first < 0xDC00 then
    match rest with
    | '\\' :: 'u' :: more =>
      let (second, after) ← readUnit more
      if 0xDC00 ≤ second ∧ second < 0xE000 then
        some (Char.ofNat (0x10000 + (first - 0xD800) * 0x400 + (second - 0xDC00)), after)
      else none
    | _ => none
  else if 0xDC00 ≤ first ∧ first < 0xE000 then none
  else some (Char.ofNat first, rest)

/-- The character that a short escape stands for. -/
def shortEscape? (c : Char) : Option Char :=
  match c with
  | '"' => some '"'
  | '\\' => some '\\'
  | '/' => some '/'
  | 'b' => some (Char.ofNat 0x08)
  | 'f' => some (Char.ofNat 0x0C)
  | 'n' => some '\n'
  | 'r' => some '\r'
  | 't' => some '\t'
  | _ => none

/-- The rest of a text after its opening quote; `before` holds what was read, last first. -/
def readText : (fuel : Nat) → (before : List Char) → List Char → Read String
  | 0, _, _ => none
  | _ + 1, _, [] => none
  | fuel + 1, before, c :: rest =>
    if c = '"' then some (String.ofList before.reverse, rest)
    else if c = '\\' then
      match rest with
      | 'u' :: more =>
        match readPoint more with
        | some (point, after) => readText fuel (point :: before) after
        | none => none
      | e :: after =>
        match shortEscape? e with
        | some found => readText fuel (found :: before) after
        | none => none
      | [] => none
    else if c.toNat < 0x20 then none
    else readText fuel (c :: before) rest

/-! ### Values -/

mutual

/-- A value at the front of a text. -/
def readValue : (fuel : Nat) → List Char → Read Json
  | 0, _ => none
  | fuel + 1, s =>
    match skipBlank s with
    | 'n' :: 'u' :: 'l' :: 'l' :: rest => some (.null, rest)
    | 't' :: 'r' :: 'u' :: 'e' :: rest => some (.bool true, rest)
    | 'f' :: 'a' :: 'l' :: 's' :: 'e' :: rest => some (.bool false, rest)
    | '"' :: rest => (readText (rest.length + 1) [] rest).map fun (t, after) => (.text t, after)
    | '[' :: rest =>
      match skipBlank rest with
      | ']' :: after => some (.array [], after)
      | _ => readItems fuel [] rest
    | '\x7b' :: rest =>
      match skipBlank rest with
      | '\x7d' :: after => some (.object [], after)
      | _ => readFields fuel [] rest
    | s => readNumber s

/-- The items of a list up to its closing bracket; `before` holds earlier items, last first. -/
def readItems : (fuel : Nat) → (before : List Json) → List Char → Read Json
  | 0, _, _ => none
  | fuel + 1, before, s =>
    match readValue fuel s with
    | none => none
    | some (item, rest) =>
      match skipBlank rest with
      | ',' :: after => readItems fuel (item :: before) after
      | ']' :: after => some (.array (item :: before).reverse, after)
      | _ => none

/-- The fields of an object up to its closing brace. -/
def readFields : (fuel : Nat) → (before : Dict Json) → List Char → Read Json
  | 0, _, _ => none
  | fuel + 1, before, s =>
    match skipBlank s with
    | '"' :: rest =>
      match readText (rest.length + 1) [] rest with
      | none => none
      | some (name, rest) =>
        match skipBlank rest with
        | ':' :: rest =>
          match readValue fuel rest with
          | none => none
          | some (value, rest) =>
            match skipBlank rest with
            | ',' :: after => readFields fuel (Dict.put before name value) after
            | '\x7d' :: after => some (.object (Dict.put before name value), after)
            | _ => none
        | _ => none
    | _ => none

end

/-- The value that a text writes, if it writes exactly one. -/
def parse? (s : String) : Option Json :=
  match readValue (s.length + 1) s.toList with
  | some (value, rest) => if (skipBlank rest).isEmpty then some value else none
  | none => none

end StoryDirector.Json
