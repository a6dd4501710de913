import StoryDirector.Decimal.Binary
/-!
# StoryDirector.Decimal.Reading

Decimal notation to doubles. **`nearestDouble` rounds the exact decimal once**, to nearest with ties
to even, however many digits are written; a whole number becomes a double by the same rule.
-/

namespace StoryDirector

/-- Beyond this many decimal places a number is too large or too small for every double. -/
def decimalHorizon : Int := 400

/-- The double nearest to `digits * 10 ^ exponent`. -/
def nearestDouble (negative : Bool) (digits : Nat) (exponent : Int) : Float :=
  let size : Int := (Nat.toDigits 10 digits).length + exponent
  let bits :=
    if digits = 0 ∨ size < -decimalHorizon then BinaryFormat.double.signed negative 0
    else if decimalHorizon < size then
      BinaryFormat.double.signed negative BinaryFormat.double.infinityBits
    else if exponent < 0 then
      BinaryFormat.double.ofRatio negative digits (Nat.pow 10 (-exponent).toNat)
    else BinaryFormat.double.ofRatio negative (digits * Nat.pow 10 exponent.toNat) 1
  doubleOfBits bits

/-- A whole number as a double. -/
def doubleOfInt (n : Int) : Float :=
  doubleOfBits (BinaryFormat.double.ofRatio (decide (n < 0)) n.natAbs 1)

/-- A natural number as a double. -/
def doubleOfNat (n : Nat) : Float :=
  doubleOfInt n

end StoryDirector
