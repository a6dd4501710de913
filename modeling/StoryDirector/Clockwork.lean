import StoryDirector.Duration
/-!
# StoryDirector.Clockwork

Things that run together on one clock. **Between two instants nothing happens, and at one instant
everyone is looked at in a fixed order, again and again until no one gets any further**; then the
clock is wound to the next instant at which someone can go on.

A `Clockwork` says how to do one such look, how much is left to be done at most, when the next alarm
is, and how the clock is wound. `Clockwork.play` runs it to its end. Every look that does not finish
leaves less to be done, so the count of what is left bounds the number of looks, and what holds at
the start and survives each look and each winding holds at the end (`Clockwork.play_induction`).
-/

namespace StoryDirector

/-- How things that run together are driven. -/
structure Clockwork (σ : Type) where
  /-- Everyone in order does what can be done at the present instant. -/
  look : σ → σ
  /-- How many steps are left at most. -/
  left : σ → Nat
  /-- The next instant at which someone can go on. -/
  alarm : σ → Option Instant
  /-- Winds the clock to an instant. -/
  wind : Instant → σ → σ

namespace Clockwork

variable {σ : Type}

/-- At most `bound` looks, as long as each gets something done. -/
def settleWithin (work : Clockwork σ) : (bound : Nat) → σ → σ
  | 0, s => s
  | bound + 1, s =>
    let seen := work.look s
    if work.left seen < work.left s then settleWithin work bound seen else seen

/-- Looks until no one gets any further at the present instant. -/
def settle (work : Clockwork σ) (s : σ) : σ :=
  settleWithin work (work.left s + 1) s

/-- At most `bound` windings, as long as each gets something done. -/
def playWithin (work : Clockwork σ) : (bound : Nat) → σ → σ
  | 0, s => s
  | bound + 1, s =>
    match work.alarm s with
    | none => s
    | some instant =>
      let next := settle work (work.wind instant s)
      if work.left next < work.left s then playWithin work bound next else next

/-- Runs to the end. -/
def play (work : Clockwork σ) (s : σ) : σ :=
  let settled := settle work s
  playWithin work (work.left settled + 1) settled

/-- What is left for all of some things together. -/
def total (counts : List Nat) : Nat :=
  counts.foldr (· + ·) 0

/-- The earlier of two alarms. -/
def earlier : Option Instant → Option Instant → Option Instant
  | none, b => b
  | a, none => a
  | some a, some b => some (min a b)

/-- The earliest of some alarms. -/
def earliest (alarms : List (Option Instant)) : Option Instant :=
  alarms.foldl earlier none

@[simp] theorem total_nil : total [] = 0 := rfl

@[simp] theorem total_cons (count : Nat) (rest : List Nat) :
    total (count :: rest) = count + total rest := rfl

theorem settleWithin_induction {work : Clockwork σ} {P : σ → Prop}
    (hlook : ∀ s, P s → P (work.look s)) (bound : Nat) (s : σ) (h : P s) :
    P (settleWithin work bound s) := by
  induction bound generalizing s with
  | zero => exact h
  | succ bound ih =>
    unfold settleWithin
    dsimp only
    split
    · exact ih _ (hlook _ h)
    · exact hlook _ h

theorem settle_induction {work : Clockwork σ} {P : σ → Prop}
    (hlook : ∀ s, P s → P (work.look s)) (s : σ) (h : P s) : P (settle work s) :=
  settleWithin_induction hlook _ s h

theorem playWithin_induction {work : Clockwork σ} {P : σ → Prop}
    (hlook : ∀ s, P s → P (work.look s))
    (hwind : ∀ s instant, P s → work.alarm s = some instant → P (work.wind instant s))
    (bound : Nat) (s : σ) (h : P s) : P (playWithin work bound s) := by
  induction bound generalizing s with
  | zero => exact h
  | succ bound ih =>
    unfold playWithin
    split
    · exact h
    · rename_i instant halarm
      have hnext := settle_induction hlook _ (hwind s instant h halarm)
      dsimp only
      split
      · exact ih _ hnext
      · exact hnext

/-- What survives every look and every winding survives the whole run. -/
theorem play_induction {work : Clockwork σ} {P : σ → Prop}
    (hlook : ∀ s, P s → P (work.look s))
    (hwind : ∀ s instant, P s → work.alarm s = some instant → P (work.wind instant s))
    (s : σ) (h : P s) : P (play work s) :=
  playWithin_induction hlook hwind _ _ (settle_induction hlook _ h)

end Clockwork

end StoryDirector
