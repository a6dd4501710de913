/-!
# StoryDirector.Text.Ranges

**A character property is a list of closed code-point ranges in rising order.** The properties
that the library needs (blank, letter or digit, cased, ...) are data of the character standard;
each lives in a table of this shape, and this module says what membership in such a table is.
-/

namespace StoryDirector.Text

/-- Closed ranges of code points, in rising order. -/
abbrev Ranges := List (Nat × Nat)

/-- Whether a code point lies in one of the ranges. -/
def Ranges.covers (ranges : Ranges) (point : Nat) : Bool :=
  ranges.any fun range => decide (range.1 ≤ point) && decide (point ≤ range.2)

@[simp] theorem Ranges.covers_nil (point : Nat) : Ranges.covers [] point = false := rfl

@[simp] theorem Ranges.covers_cons (low high : Nat) (rest : Ranges) (point : Nat) :
    Ranges.covers ((low, high) :: rest) point =
      ((decide (low ≤ point) && decide (point ≤ high)) || Ranges.covers rest point) := rfl

end StoryDirector.Text
