import StoryDirector.Decimal.Shortest
/-!
# StoryDirector.Decimal.Layout

Where the point, the zeros and the exponent go. **A `Layout` holds every choice of a way to write
numbers as one value**: which magnitudes are written positionally, whether a whole number keeps
`.0`, how the exponent looks and which words stand for the values that are no numbers. The two
layouts in use are `Layout.json`, for values, and `Layout.message`, for numbers inside sentences;
`fixed` writes a given number of places instead.
-/

namespace StoryDirector

/-- The choices of a way to write numbers. -/
structure Layout where
  /-- Which of two equally near shortest decimals is taken. -/
  tie : Tie
  /-- Whether `0.d₁d₂… * 10 ^ k` is written without an exponent. -/
  positional : (k : Int) → Bool
  /-- Whether a whole number ends in `.0`. -/
  keepsPointZero : Bool
  /-- The word for what is not a number. -/
  nan : String
  /-- The word for infinity. -/
  infinity : String

namespace Layout

/-- Numbers as JSON values: positional for `-5 < k ≤ 16`, always with a point or an exponent. -/
def json : Layout where
  tie := .toEven
  positional k := decide (-5 < k) && decide (k ≤ 16)
  keepsPointZero := true
  nan := "NaN"
  infinity := "inf"

/-- Numbers inside sentences: never an exponent, and no point after a whole number. -/
def message : Layout where
  tie := .away
  positional _ := true
  keepsPointZero := false
  nan := "NaN"
  infinity := "inf"

/-- The given number of zeros. -/
def zeros (n : Nat) : String :=
  String.ofList (List.replicate n '0')

/-- The digits of a number as characters. -/
def digitText (n : Nat) : List Char :=
  Nat.toDigits 10 n

/-- Digits with the point where it belongs. -/
def positionalText (layout : Layout) (d : Digits) : String :=
  let shown := digitText d.digits
  let k : Int := shown.length + d.exponent
  if 0 ≤ d.exponent then
    String.ofList shown ++ zeros d.exponent.toNat ++ (if layout.keepsPointZero then ".0" else "")
  else if 0 < k then
    String.ofList (shown.take k.toNat) ++ "." ++ String.ofList (shown.drop k.toNat)
  else
    "0." ++ zeros (-k).toNat ++ String.ofList shown

/-- One digit before the point, and the power of ten with its sign. -/
def scientificText (d : Digits) : String :=
  let shown := digitText d.digits
  let power : Int := shown.length + d.exponent - 1
  let fraction := if shown.length ≤ 1 then "" else "." ++ String.ofList (shown.drop 1)
  let sign := if power < 0 then "-" else "+"
  String.ofList (shown.take 1) ++ fraction ++ "e" ++ sign ++ toString power.natAbs

/-- A value in its shortest digits. -/
def text (layout : Layout) (f : BinaryFormat) : BinaryValue → String
  | .nan => layout.nan
  | .infinite negative => (if negative then "-" else "") ++ layout.infinity
  | .finite negative m q =>
    let sign := if negative then "-" else ""
    if m = 0 then
      sign ++ "0" ++ (if layout.keepsPointZero then ".0" else "")
    else
      let d := shortestDigits f layout.tie m q
      let k : Int := decimalLength d.digits + d.exponent
      sign ++ (if layout.positional k then layout.positionalText d else scientificText d)

/-- A value with exactly `places` digits after the point, a half going to the even digit. -/
def fixed (places : Nat) : BinaryValue → String
  | .nan => "NaN"
  | .infinite negative => (if negative then "-" else "") ++ "inf"
  | .finite negative m q =>
    let num := m * Nat.pow 10 places
    let parts :=
      if q < 0 then roundQuotient .toEven num (Nat.pow 2 (-q).toNat) else num * Nat.pow 2 q.toNat
    let whole := toString (parts / Nat.pow 10 places)
    let fraction := digitText (parts % Nat.pow 10 places)
    (if negative then "-" else "") ++ whole ++ "." ++ zeros (places - fraction.length) ++
      String.ofList fraction

end Layout

/-- A double as a JSON number. -/
def Float.jsonText (x : Float) : String :=
  Layout.json.text .double (Float.exact x)

/-- A single inside a sentence. -/
def Float32.messageText (x : Float32) : String :=
  Layout.message.text .single (Float32.exact x)

/-- A single with two places. -/
def Float32.twoPlaces (x : Float32) : String :=
  Layout.fixed 2 (Float32.exact x)

end StoryDirector
