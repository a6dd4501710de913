/-!
# StoryDirector.Uuid

Identities of 128 bits. **They are printed in one way, in five groups of small hexadecimal digits,
and read in four**: grouped, as thirty-two plain digits, grouped between braces, and grouped after
`urn:uuid:`.
-/

namespace StoryDirector

/-- A universally unique identity. -/
structure Uuid where
  /-- The identity as a number. -/
  bits : BitVec 128
  deriving DecidableEq

namespace Uuid

/-- The identity of all zeros. -/
def zero : Uuid := ⟨0⟩

/-- The small hexadecimal digit of a number below 16. -/
def digit (n : Nat) : Char :=
  Char.ofNat (if n < 10 then 0x30 + n else 0x57 + n)

/-- The value of a hexadecimal digit of either case. -/
def digitValue? (c : Char) : Option Nat :=
  let n := c.toNat
  if 0x30 ≤ n ∧ n ≤ 0x39 then some (n - 0x30)
  else if 0x61 ≤ n ∧ n ≤ 0x66 then some (n - 0x57)
  else if 0x41 ≤ n ∧ n ≤ 0x46 then some (n - 0x37)
  else none

/-- The thirty-two digits, the highest first. -/
def digits (u : Uuid) : List Char :=
  (List.range 32).map fun i => digit (u.bits.toNat / Nat.pow 16 (31 - i) % 16)

/-- The printed form. -/
def text (u : Uuid) : String :=
  let d := u.digits
  let group (start size : Nat) : String := String.ofList ((d.drop start).take size)
  group 0 8 ++ "-" ++ group 8 4 ++ "-" ++ group 12 4 ++ "-" ++ group 16 4 ++ "-" ++ group 20 12

/-- The identity of thirty-two digits. -/
def ofPlain? (s : List Char) : Option Uuid :=
  if s.length = 32 then
    (s.foldl (fun acc c => acc.bind fun n => (digitValue? c).map (n * 16 + ·)) (some 0)).map
      fun n => ⟨BitVec.ofNat 128 n⟩
  else none

/-- The places of the hyphens in the grouped form. -/
def hyphens : List Nat := [8, 13, 18, 23]

/-- The identity of the grouped form. -/
def ofGrouped? (s : List Char) : Option Uuid :=
  if s.length = 36 ∧ hyphens.all fun i => s[i]? = some '-' then
    ofPlain? (((List.range 36).filter (!hyphens.contains ·)).filterMap (s[·]?))
  else none

/-- The mark before an identity that is written as a name. -/
def mark : List Char := ['u', 'r', 'n', ':', 'u', 'u', 'i', 'd', ':']

/-- The identity that a text writes in any of the four forms. -/
def ofText? (s : String) : Option Uuid :=
  let s := s.toList
  if s.length = 32 then ofPlain? s
  else if s.length = 36 then ofGrouped? s
  else if s.length = 38 ∧ s.head? = some '\x7b' ∧ s.getLast? = some '\x7d' then
    ofGrouped? ((s.drop 1).take 36)
  else if s.length = 45 ∧ (s.take 9).map Char.toLower = mark then ofGrouped? (s.drop 9)
  else none

end Uuid

end StoryDirector
