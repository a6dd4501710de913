/-!
# StoryDirector.Duration

Spans of time and instants on the clock. **Time is counted in whole nanoseconds**: an instant is the
span since the clock started, so the order of instants and all sums are exact. `Duration.text`
writes a span in the largest unit that has a whole part.
-/

namespace StoryDirector

/-- A span of time in nanoseconds. -/
abbrev Duration := Nat

/-- A reading of the clock: the span since it started. -/
abbrev Instant := Nat

namespace Duration

/-- How many nanoseconds a second has. -/
def perSecond : Nat := 1000000000

/-- How many nanoseconds a millisecond has. -/
def perMilli : Nat := 1000000

/-- How many nanoseconds a microsecond has. -/
def perMicro : Nat := 1000

/-- So many seconds. -/
def ofSeconds (n : Nat) : Duration := n * perSecond

/-- So many milliseconds. -/
def ofMillis (n : Nat) : Duration := n * perMilli

/-- The whole milliseconds in a span. -/
def millis (d : Duration) : Nat := d / perMilli

/-- The whole seconds in a span. -/
def wholeSeconds (d : Duration) : Nat := d / perSecond

/-- The digits of a fraction of so many places, without zeros at the end. -/
def fractionDigits (part places : Nat) : List Char :=
  let shown := Nat.toDigits 10 part
  let padded := List.replicate (places - shown.length) '0' ++ shown
  (padded.reverse.dropWhile (· = '0')).reverse

/-- A span counted in a unit of `10 ^ places` nanoseconds. -/
def inUnit (d : Duration) (places : Nat) (unit : String) : String :=
  let fraction := fractionDigits (d % Nat.pow 10 places) places
  let point := if fraction.isEmpty then "" else "."
  toString (d / Nat.pow 10 places) ++ point ++ String.ofList fraction ++ unit

/-- A span in the largest of the units second, millisecond, microsecond and nanosecond of which it
holds a whole one. -/
def text (d : Duration) : String :=
  if perSecond ≤ d then d.inUnit 9 "s"
  else if perMilli ≤ d then d.inUnit 6 "ms"
  else if perMicro ≤ d then d.inUnit 3 "µs"
  else d.inUnit 0 "ns"

/-- A span in seconds: the whole seconds and the fraction are rounded apart and then added. -/
def seconds (d : Duration) : Float :=
  Float.ofNat (d / perSecond) + Float.ofNat (d % perSecond) / Float.ofNat perSecond

end Duration

end StoryDirector
