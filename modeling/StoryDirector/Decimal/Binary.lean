/-!
# StoryDirector.Decimal.Binary

Binary floating-point numbers as exact quantities. **A bit pattern is read into a sign, a natural
significand and a power of two, and every conversion goes through that exact value**, rounded once
to the nearest representable number, halves to the even one. Conversions between the two widths and
the reading of decimals are instances of the same rounding (`BinaryFormat.ofRatio`).
-/

namespace StoryDirector

/-- What becomes of a half when a quotient is rounded to a whole number. -/
inductive Tie
  /-- A half goes to the even neighbour. -/
  | toEven
  /-- A half goes to the larger magnitude. -/
  | away
  deriving DecidableEq

/-- The whole number nearest to `num / den`. -/
def roundQuotient (tie : Tie) (num den : Nat) : Nat :=
  let floor := num / den
  let rest := 2 * (num % den)
  if rest < den then floor
  else if den < rest then floor + 1
  else match tie with
    | .away => floor + 1
    | .toEven => floor + floor % 2

/-- The least whole number of 64 bits of which one is the sign. -/
def leastSigned : Int := -9223372036854775808

/-- The largest whole number of 64 bits of which one is the sign. -/
def largestSigned : Int := 9223372036854775807

/-- The largest whole number of 64 bits without a sign. -/
def largestUnsigned : Nat := 18446744073709551615

/-- A binary interchange format. -/
structure BinaryFormat where
  /-- Width of the stored part of the significand. -/
  fractionBits : Nat
  /-- Width of the biased exponent. -/
  exponentBits : Nat

/-- The exact meaning of a bit pattern. -/
inductive BinaryValue
  /-- Not a number. -/
  | nan
  /-- An infinity with its sign. -/
  | infinite (negative : Bool)
  /-- The number `m * 2 ^ q` with its sign; zero has `m = 0`. -/
  | finite (negative : Bool) (m : Nat) (q : Int)

namespace BinaryFormat

/-- Sixty-four bits. -/
def double : BinaryFormat := ⟨52, 11⟩

/-- Thirty-two bits. -/
def single : BinaryFormat := ⟨23, 8⟩

/-- The power of two of the last place of the smallest numbers. -/
def lowest (f : BinaryFormat) : Int :=
  2 - (Nat.pow 2 (f.exponentBits - 1) : Nat) - f.fractionBits

/-- The pattern of positive infinity. -/
def infinityBits (f : BinaryFormat) : Nat :=
  (Nat.pow 2 f.exponentBits - 1) * Nat.pow 2 f.fractionBits

/-- The pattern of the sign bit. -/
def signBit (f : BinaryFormat) : Nat :=
  Nat.pow 2 (f.fractionBits + f.exponentBits)

/-- The value of a bit pattern. -/
def decode (f : BinaryFormat) (bits : Nat) : BinaryValue :=
  let negative := decide (bits / f.signBit % 2 = 1)
  let magnitude := bits % f.signBit
  let exponent := magnitude / Nat.pow 2 f.fractionBits
  let fraction := magnitude % Nat.pow 2 f.fractionBits
  if f.infinityBits < magnitude then .nan
  else if magnitude = f.infinityBits then .infinite negative
  else if exponent = 0 then .finite negative fraction f.lowest
  else .finite negative (fraction + Nat.pow 2 f.fractionBits) (f.lowest + exponent - 1)

/-- The pattern with the given sign. -/
def signed (f : BinaryFormat) (negative : Bool) (magnitude : Nat) : Nat :=
  if negative then f.signBit + magnitude else magnitude

/-- The floor of the binary logarithm of a positive quotient. -/
def quotientLog (num den : Nat) : Int :=
  let guess : Int := (num.log2 : Int) - den.log2
  let reached :=
    if guess < 0 then den ≤ num * Nat.pow 2 (-guess).toNat else den * Nat.pow 2 guess.toNat ≤ num
  if reached then guess else guess - 1

/-- The pattern of the number nearest to `num / den`, a half going to the even significand. Beyond
the largest number it is infinity. -/
def ofRatio (f : BinaryFormat) (negative : Bool) (num den : Nat) : Nat :=
  if num = 0 then f.signed negative 0 else
    let last : Int := max (quotientLog num den - f.fractionBits) f.lowest
    let significand :=
      if last < 0 then roundQuotient .toEven (num * Nat.pow 2 (-last).toNat) den
      else roundQuotient .toEven num (den * Nat.pow 2 last.toNat)
    let magnitude := (last - f.lowest).toNat * Nat.pow 2 f.fractionBits + significand
    f.signed negative (min magnitude f.infinityBits)

/-- The pattern of the number nearest to an exact value. -/
def encode (f : BinaryFormat) : BinaryValue → Nat
  | .nan => f.infinityBits + Nat.pow 2 (f.fractionBits - 1)
  | .infinite negative => f.signed negative f.infinityBits
  | .finite negative m q =>
    if q < 0 then f.ofRatio negative m (Nat.pow 2 (-q).toNat)
    else f.ofRatio negative (m * Nat.pow 2 q.toNat) 1

end BinaryFormat

/-- The exact value of a double. -/
def Float.exact (x : Float) : BinaryValue :=
  BinaryFormat.double.decode x.toBits.toNat

/-- The exact value of a single. -/
def Float32.exact (x : Float32) : BinaryValue :=
  BinaryFormat.single.decode x.toBits.toNat

/-- The double with a given pattern. -/
def doubleOfBits (bits : Nat) : Float :=
  Float.ofBits (UInt64.ofNat bits)

/-- The single with a given pattern. -/
def singleOfBits (bits : Nat) : Float32 :=
  Float32.ofBits (UInt32.ofNat bits)

/-- The single nearest to a double. -/
def narrow (x : Float) : Float32 :=
  singleOfBits (BinaryFormat.single.encode (Float.exact x))

/-- A single as a double; no rounding takes place. -/
def widen (x : Float32) : Float :=
  doubleOfBits (BinaryFormat.double.encode (Float32.exact x))

/-- The whole number nearest to a single, halves away from zero, kept within 64 signed bits. Not a
number counts as zero. -/
def Float32.nearestWhole (x : Float32) : Int :=
  match Float32.exact x with
  | .nan => 0
  | .infinite negative => if negative then leastSigned else largestSigned
  | .finite negative m q =>
    let magnitude :=
      if q < 0 then roundQuotient .away m (Nat.pow 2 (-q).toNat) else m * Nat.pow 2 q.toNat
    max leastSigned (min (if negative then -(magnitude : Int) else magnitude) largestSigned)

end StoryDirector
