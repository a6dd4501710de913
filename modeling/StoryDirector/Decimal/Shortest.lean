import StoryDirector.Decimal.Binary
/-!
# StoryDirector.Decimal.Shortest

The fewest decimal digits that read back as the same binary number. **The reals that round to a
number form an interval, with its ends exactly when the significand is even; among the decimals in
it the shortest wins, and of two equally short ones the nearer.** All comparisons are between
natural numbers, with both sides scaled to a common denominator.
-/

namespace StoryDirector

/-- The decimal `digits * 10 ^ exponent`. -/
structure Digits where
  /-- The significant digits as a number. -/
  digits : Nat
  /-- The power of ten of the last digit. -/
  exponent : Int
  deriving DecidableEq

/-- How many decimal digits a number has; zero has one. -/
def decimalLength (n : Nat) : Nat :=
  (Nat.toDigits 10 n).length

/-- The number `k` with `10 ^ (k - 1) ≤ num / den < 10 ^ k`. -/
def decimalMagnitude (num den : Nat) : Int :=
  if den ≤ num then decimalLength (num / den)
  else 1 - (decimalLength ((den + num - 1) / num - 1) : Int)

/-- A positive interval of reals around `value`, the three numbers being parts of `scale`. -/
structure RoundingInterval where
  /-- The common denominator. -/
  scale : Nat
  /-- The numerator of the lower end. -/
  low : Nat
  /-- The numerator of the number itself. -/
  value : Nat
  /-- The numerator of the upper end. -/
  high : Nat
  /-- Whether the ends belong to the interval. -/
  closed : Bool

namespace RoundingInterval

/-- Whether `num / scale` lies in the interval. -/
def contains (i : RoundingInterval) (num : Nat) : Bool :=
  if i.closed then decide (i.low ≤ num) && decide (num ≤ i.high)
  else decide (i.low < num) && decide (num < i.high)

/-- The same interval over a larger denominator. -/
def rescale (i : RoundingInterval) (factor : Nat) : RoundingInterval :=
  ⟨i.scale * factor, i.low * factor, i.value * factor, i.high * factor, i.closed⟩

/-- The interval that rounds to `m * 2 ^ q`. Below a power of two the numbers lie twice as dense, so
the lower end is twice as near. -/
def around (f : BinaryFormat) (m : Nat) (q : Int) : RoundingInterval :=
  let below := if m = Nat.pow 2 f.fractionBits ∧ f.lowest < q then 1 else 2
  let grown := if q < 0 then 1 else Nat.pow 2 q.toNat
  let scale := if q < 0 then Nat.pow 2 (-q).toNat else 1
  ⟨4 * scale, (4 * m - below) * grown, 4 * m * grown, (4 * m + 2) * grown, m % 2 = 0⟩

/-- The multiple of `10 ^ exponent` in the interval that is nearest to the value, if there is
one. -/
def pointOnGrid? (tie : Tie) (i : RoundingInterval) (exponent : Int) : Option Nat :=
  let grown := if exponent < 0 then i.rescale (Nat.pow 10 (-exponent).toNat) else i
  let unit := if exponent < 0 then i.scale else i.scale * Nat.pow 10 exponent.toNat
  let floor := grown.value / unit
  let near := roundQuotient tie grown.value unit
  let far := if near = floor then floor + 1 else floor
  if grown.contains (near * unit) then some near
  else if grown.contains (far * unit) then some far
  else none

end RoundingInterval

/-- The digits without zeros at their end. -/
def Digits.stripped (d : Digits) : Digits :=
  if h : d.digits = 0 then d
  else if d.digits % 10 = 0 then Digits.stripped ⟨d.digits / 10, d.exponent + 1⟩
  else d
termination_by d.digits
decreasing_by exact Nat.div_lt_self (Nat.pos_of_ne_zero h) (by decide)

/-- Tries grids of one digit, two digits and so on, at most `count` of them. -/
def firstGridPoint (tie : Tie) (i : RoundingInterval) (magnitude : Int) : (count : Nat) →
    (size : Nat) → Option Digits
  | 0, _ => none
  | count + 1, size =>
    match i.pointOnGrid? tie (magnitude - size) with
    | some digits => some (Digits.stripped ⟨digits, magnitude - size⟩)
    | none => firstGridPoint tie i magnitude count (size + 1)

/-- The shortest decimal that reads back as `m * 2 ^ q`, for a positive `m`. Seventeen digits always
suffice for the formats in use. -/
def shortestDigits (f : BinaryFormat) (tie : Tie) (m : Nat) (q : Int) : Digits :=
  let i := RoundingInterval.around f m q
  (firstGridPoint tie i (decimalMagnitude i.value i.scale) 17 1).getD ⟨0, 0⟩

end StoryDirector
