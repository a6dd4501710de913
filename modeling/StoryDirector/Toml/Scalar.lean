import StoryDirector.Decimal.Reading
import StoryDirector.Json.Reader
/-!
# StoryDirector.Toml.Scalar

Single values of TOML, and what may stand between them. **A number, a date or a text is read as far
as its form goes, and what follows is left**: whether that makes sense is seen by whoever reads on.
Whole numbers have 64 bits with a sign, other numbers are rounded once, and a date or a time becomes
a record with one field that no document writes (`Toml.dateMark`).
-/

namespace StoryDirector.Toml

/-- What a reader returns: the value read and the characters after it. -/
abbrev Read (α : Type) := Option (α × List Char)

/-! ### Blanks, line ends and comments -/

/-- Whether a character is a blank within a line. -/
def isBlank (c : Char) : Bool :=
  c = ' ' || c = '\t'

/-- Whether a character may stand in a comment. -/
def isPrintable (c : Char) : Bool :=
  c = '\t' || decide (0x20 ≤ c.toNat ∧ c.toNat ≠ 0x7F)

/-- The text from its first character that is not a blank. -/
def skipBlank (s : List Char) : List Char :=
  s.dropWhile isBlank

/-- The text after a line end. -/
def lineEnd? : List Char → Option (List Char)
  | '\n' :: rest => some rest
  | '\r' :: '\n' :: rest => some rest
  | _ => none

/-- The text after a comment, if one comes next. -/
def skipComment : List Char → List Char
  | '#' :: rest => rest.dropWhile isPrintable
  | s => s

/-- The text after the rest of a line that holds nothing more than a comment. -/
def lineRest? (s : List Char) : Option (List Char) :=
  match skipComment (skipBlank s) with
  | [] => some []
  | rest => lineEnd? rest

/-- The text after blanks, line ends and comments; a comment ends at a line end. -/
def skipLines : (fuel : Nat) → List Char → List Char
  | 0, s => s
  | fuel + 1, s =>
    match lineEnd? (skipComment (skipBlank s)) with
    | some rest => skipLines fuel rest
    | none => skipBlank s

/-! ### Texts -/

/-- The character with a code point. -/
def charOf? (n : Nat) : Option Char :=
  if n < 0xD800 ∨ (0xDFFF < n ∧ n < 0x110000) then some (Char.ofNat n) else none

/-- The character of an escape of so many hexadecimal digits. -/
def readPoint (size : Nat) (s : List Char) : Read Char :=
  if s.length < size then none
  else ((Json.hexNumber? (s.take size)).bind charOf?).map fun c => (c, s.drop size)

/-- The character of an escape, after its backslash. -/
def readEscape : List Char → Read Char
  | 'b' :: rest => some (Char.ofNat 0x08, rest)
  | 't' :: rest => some ('\t', rest)
  | 'n' :: rest => some ('\n', rest)
  | 'f' :: rest => some (Char.ofNat 0x0C, rest)
  | 'r' :: rest => some ('\r', rest)
  | '"' :: rest => some ('"', rest)
  | '\\' :: rest => some ('\\', rest)
  | 'u' :: rest => readPoint 4 rest
  | 'U' :: rest => readPoint 8 rest
  | _ => none

/-- How a text is written. -/
structure TextStyle where
  /-- The quotation mark. -/
  mark : Char
  /-- Whether a backslash begins an escape. -/
  escapes : Bool

/-- The rest of a text in one line, after its first mark; `before` holds what was read, last
first. -/
def readShort (style : TextStyle) : (fuel : Nat) → (before : List Char) → List Char → Read String
  | 0, _, _ => none
  | _ + 1, _, [] => none
  | fuel + 1, before, c :: rest =>
    if c = style.mark then some (String.ofList before.reverse, rest)
    else if c = '\\' ∧ style.escapes then
      match readEscape rest with
      | some (found, after) => readShort style fuel (found :: before) after
      | none => none
    else if isPrintable c then readShort style fuel (c :: before) rest
    else none

/-- The text from the first character that is neither a blank nor a line end. -/
def skipBreaks : List Char → List Char
  | '\r' :: '\n' :: rest => skipBreaks rest
  | '\n' :: rest => skipBreaks rest
  | ' ' :: rest => skipBreaks rest
  | '\t' :: rest => skipBreaks rest
  | s => s

/-- The rest of a text over several lines. Up to two marks belong to the text, also right before the
three that end it; a backslash at the end of a line joins the text to its next character. -/
def readLong (style : TextStyle) : (fuel : Nat) → (before : List Char) → List Char → Read String
  | 0, _, _ => none
  | _ + 1, _, [] => none
  | fuel + 1, before, c :: rest =>
    if c = style.mark then
      let marks := (c :: rest).takeWhile (· = style.mark)
      let after := (c :: rest).dropWhile (· = style.mark)
      if marks.length < 3 then readLong style fuel (marks ++ before) after
      else if marks.length ≤ 5 then
        some (String.ofList ((marks.drop 3 ++ before).reverse), after)
      else none
    else if c = '\\' ∧ style.escapes then
      match lineEnd? (skipBlank rest) with
      | some after => readLong style fuel before (skipBreaks after)
      | none =>
        match readEscape rest with
        | some (found, after) => readLong style fuel (found :: before) after
        | none => none
    else
      match lineEnd? (c :: rest) with
      | some after => readLong style fuel ('\n' :: before) after
      | none => if isPrintable c then readLong style fuel (c :: before) rest else none

/-- A text with escapes. -/
def basic : TextStyle := ⟨'"', true⟩

/-- A text without escapes. -/
def literal : TextStyle := ⟨'\'', false⟩

/-- A text in one line at the front of a text, as names and values have it. -/
def readLine : List Char → Read String
  | '"' :: rest => readShort basic (rest.length + 1) [] rest
  | '\'' :: rest => readShort literal (rest.length + 1) [] rest
  | _ => none

/-- The text after a line end, if one comes next. -/
def skipFirstBreak (s : List Char) : List Char :=
  (lineEnd? s).getD s

/-- A text at the front of a text. -/
def readString (s : List Char) : Read String :=
  match s with
  | '"' :: '"' :: '"' :: rest => readLong basic (rest.length + 1) [] (skipFirstBreak rest)
  | '\'' :: '\'' :: '\'' :: rest => readLong literal (rest.length + 1) [] (skipFirstBreak rest)
  | _ => readLine s

/-! ### Numbers -/

/-- Digits with single underscores between them: the digits after the first, which was read
before. -/
def moreDigits (isDigit : Char → Bool) : List Char → Read (List Char)
  | '_' :: d :: rest =>
    if isDigit d then (moreDigits isDigit rest).map fun (ds, after) => (d :: ds, after) else none
  | d :: rest =>
    if isDigit d then (moreDigits isDigit rest).map fun (ds, after) => (d :: ds, after)
    else if d = '_' then none
    else some ([], d :: rest)
  | [] => some ([], [])

/-- Digits with single underscores between them, at least one. -/
def readDigits (isDigit : Char → Bool) : List Char → Read (List Char)
  | d :: rest =>
    if isDigit d then (moreDigits isDigit rest).map fun (ds, after) => (d :: ds, after) else none
  | [] => none

/-- The digits before the point; a zero is not followed by further digits. -/
def readWhole : List Char → Read (List Char)
  | '0' :: rest => some (['0'], rest)
  | s => readDigits Char.isDigit s

/-- An exponent after its letter. -/
def readExponent (s : List Char) : Read Int :=
  let signed (sign : Int) (s : List Char) : Read Int :=
    (readDigits Char.isDigit s).map fun (ds, rest) => (sign * (Json.decimalNumber ds : Int), rest)
  match s with
  | '+' :: rest => signed 1 rest
  | '-' :: rest => signed (-1) rest
  | _ => signed 1 s

/-- The number of some digits in a base. -/
def numberIn (base : Nat) (ds : List Char) : Nat :=
  ds.foldl (fun n d => n * base + (Json.hexValue? d).getD 0) 0

/-- A whole number that fits into 64 bits with a sign. -/
def wholeValue? (n : Int) : Option Json :=
  if leastSigned ≤ n ∧ n ≤ largestSigned then some (.int n) else none

/-- A whole number in another base, after the mark of the base. -/
def readBased (base : Nat) (isDigit : Char → Bool) (s : List Char) : Read Json :=
  match readDigits isDigit s with
  | some (ds, rest) => (wholeValue? (numberIn base ds)).map fun v => (v, rest)
  | none => none

/-- A number with a fraction or an exponent; one above every double is refused. -/
def fractional? (negative : Bool) (whole fraction : List Char) (exponent : Int) : Option Json :=
  let x := nearestDouble negative (Json.decimalNumber (whole ++ fraction))
    (exponent - fraction.length)
  if x.isInf && !negative then none else some (.float x)

/-- The rest of a number, after its digits before the point. -/
def readTail (negative : Bool) (whole : List Char) (s : List Char) : Option (Json × List Char) :=
  let withExponent (fraction : List Char) (s : List Char) : Option (Json × List Char) := do
    let (exponent, rest) ← readExponent s
    let value ← fractional? negative whole fraction exponent
    some (value, rest)
  match s with
  | 'e' :: rest => withExponent [] rest
  | 'E' :: rest => withExponent [] rest
  | '.' :: rest => do
    let (fraction, rest) ← readDigits Char.isDigit rest
    match rest with
    | 'e' :: rest => withExponent fraction rest
    | 'E' :: rest => withExponent fraction rest
    | _ =>
      let value ← fractional? negative whole fraction 0
      some (value, rest)
  | _ => do
    let n : Int := Json.decimalNumber whole
    let value ← wholeValue? (if negative then -n else n)
    some (value, s)

/-- A number that is written as a word, or else in digits, after its sign. -/
def readUnsigned (negative : Bool) (s : List Char) : Option (Json × List Char) :=
  match s with
  | 'i' :: 'n' :: 'f' :: rest => some (.float (if negative then -1.0 / 0.0 else 1.0 / 0.0), rest)
  | 'n' :: 'a' :: 'n' :: rest => some (.float (0.0 / 0.0), rest)
  | _ => do
    let (whole, rest) ← readWhole s
    readTail negative whole rest

/-- A number at the front of a text. Other bases take no sign. -/
def readNumber (s : List Char) : Read Json :=
  match s with
  | '0' :: 'x' :: rest => readBased 16 (fun c => (Json.hexValue? c).isSome) rest
  | '0' :: 'o' :: rest => readBased 8 (fun c => decide ('0' ≤ c ∧ c ≤ '7')) rest
  | '0' :: 'b' :: rest => readBased 2 (fun c => c = '0' || c = '1') rest
  | '+' :: rest => readUnsigned false rest
  | '-' :: rest => readUnsigned true rest
  | _ => readUnsigned false s

/-! ### Dates and times -/

/-- The field of the record that a date or a time makes. -/
def dateMark : String := "$__toml_private_datetime"

/-- A number of exactly so many digits, in a range. -/
def readFixed (size low high : Nat) (s : List Char) : Read Nat :=
  let ds := s.take size
  let n := Json.decimalNumber ds
  if ds.length = size ∧ ds.all Char.isDigit ∧ low ≤ n ∧ n ≤ high then some (n, s.drop size)
  else none

/-- A text from which one expected character is taken. -/
def expect? (c : Char) : List Char → Option (List Char)
  | d :: rest => if d = c then some rest else none
  | [] => none

/-- How many days a month has. -/
def monthLength (year month : Nat) : Nat :=
  if month = 2 then
    if year % 4 = 0 ∧ (year % 100 ≠ 0 ∨ year % 400 = 0) then 29 else 28
  else if month ∈ [4, 6, 9, 11] then 30
  else 31

/-- A number with at least so many digits. -/
def padded (size n : Nat) : String :=
  let ds := Nat.toDigits 10 n
  String.ofList (List.replicate (size - ds.length) '0' ++ ds)

/-- A date. -/
def readDate (s : List Char) : Option (String × List Char) := do
  let (year, s) ← readFixed 4 0 9999 s
  let s ← expect? '-' s
  let (month, s) ← readFixed 2 1 12 s
  let s ← expect? '-' s
  let (day, s) ← readFixed 2 1 31 s
  if monthLength year month < day then none
  else some (padded 4 year ++ "-" ++ padded 2 month ++ "-" ++ padded 2 day, s)

/-- A fraction of a second, of which nine digits count. -/
def readSplit : List Char → Read String
  | '.' :: rest =>
    let ds := rest.takeWhile Char.isDigit
    if ds.isEmpty then none
    else
      let kept := ((ds.take 9).reverse.dropWhile (· = '0')).reverse
      some (if kept.isEmpty then "" else "." ++ String.ofList kept, rest.dropWhile Char.isDigit)
  | s => some ("", s)

/-- A time of day. -/
def readTime (s : List Char) : Option (String × List Char) := do
  let (hour, s) ← readFixed 2 0 23 s
  let s ← expect? ':' s
  let (minute, s) ← readFixed 2 0 59 s
  let s ← expect? ':' s
  let (second, s) ← readFixed 2 0 60 s
  let (split, s) ← readSplit s
  some (padded 2 hour ++ ":" ++ padded 2 minute ++ ":" ++ padded 2 second ++ split, s)

/-- The distance from universal time, if one comes next. -/
def readOffset (s : List Char) : Option (String × List Char) :=
  let numeric (sign : String) (s : List Char) : Option (String × List Char) := do
    let (hour, s) ← readFixed 2 0 23 s
    let s ← expect? ':' s
    let (minute, s) ← readFixed 2 0 59 s
    let shown := if hour = 0 ∧ minute = 0 then "+" else sign
    some (shown ++ padded 2 hour ++ ":" ++ padded 2 minute, s)
  match s with
  | 'Z' :: rest => some ("Z", rest)
  | 'z' :: rest => some ("Z", rest)
  | '+' :: rest => numeric "+" rest
  | '-' :: rest => numeric "-" rest
  | _ => some ("", s)

/-- The time of day after a date, if one comes next. -/
def readTimePart (s : List Char) : Option (String × List Char) :=
  let timed (rest : List Char) : Option (String × List Char) :=
    match readTime rest with
    | some (time, rest) => (readOffset rest).map fun (offset, rest) => ("T" ++ time ++ offset, rest)
    | none => some ("", s)
  match s with
  | 'T' :: rest => timed rest
  | 't' :: rest => timed rest
  | ' ' :: rest => timed rest
  | _ => some ("", s)

/-- Whether a date or a time comes next, going by its first characters. -/
def looksLikeDate (s : List Char) : Bool :=
  let ds := s.takeWhile Char.isDigit
  let next := (s.dropWhile Char.isDigit).head?
  (ds.length = 4 && next = some '-') || (ds.length = 2 && next = some ':')

/-- A date, a time of day or both at the front of a text. -/
def readDateTime (s : List Char) : Option (Json × List Char) := do
  let (text, rest) ←
    match readDate s with
    | some (date, rest) => (readTimePart rest).map fun (time, rest) => (date ++ time, rest)
    | none => readTime s
  some (.object [(dateMark, .text text)], rest)

end StoryDirector.Toml
