import StoryDirector.Clockwork
/-!
# StoryDirector.Proofs.Run.Driving

What holds of `Clockwork.play` whatever is driven. **Two clockworks that look alike at every step
end alike** (`play_simulation`), and **a clockwork stops only when no alarm is set any more**,
provided that every alarm finds something to do (`alarm_play_eq_none`): the count of what is left
falls with each winding, so the bound on windings is never what stops it. The last that happens is a
look at which nothing is done (`exists_look_of_play`).
-/

namespace StoryDirector

namespace Clockwork

variable {σ τ : Type} {work : Clockwork σ} {other : Clockwork τ}

theorem settleWithin_succ (work : Clockwork σ) (bound : Nat) (s : σ) :
    settleWithin work (bound + 1) s =
      if work.left (work.look s) < work.left s then settleWithin work bound (work.look s)
      else work.look s := rfl

theorem playWithin_of_silent {s : σ} (h : work.alarm s = none) (bound : Nat) :
    playWithin work bound s = s := by
  cases bound with
  | zero => rfl
  | succ bound => rw [playWithin, h]

theorem playWithin_of_alarm {s : σ} {instant : Instant} (h : work.alarm s = some instant)
    (bound : Nat) :
    playWithin work (bound + 1) s =
      if work.left (settle work (work.wind instant s)) < work.left s
      then playWithin work bound (settle work (work.wind instant s))
      else settle work (work.wind instant s) := by
  rw [playWithin, h]

/-! ### Alarms -/

/-- What comes before both of two alarms comes before the earlier one. -/
theorem le_of_earlier {a b : Option Instant} {bound instant : Instant}
    (ha : ∀ due, a = some due → bound ≤ due) (hb : ∀ due, b = some due → bound ≤ due)
    (h : earlier a b = some instant) : bound ≤ instant := by
  cases a with
  | none => exact hb instant h
  | some first =>
      cases b with
      | none => exact ha instant h
      | some second =>
          rw [← Option.some.inj h]
          exact Nat.le_min.mpr ⟨ha first rfl, hb second rfl⟩

/-- The earlier of two alarms does not come after the first. -/
theorem earlier_le {due instant : Instant} {other : Option Instant}
    (h : earlier (some due) other = some instant) : instant ≤ due := by
  cases other with
  | none => exact Nat.le_of_eq (Option.some.inj h).symm
  | some second =>
      rw [← Option.some.inj h]
      exact Nat.min_le_left due second

/-- Nor does it come after the second. -/
theorem earlier_le_right {due instant : Instant} {other : Option Instant}
    (h : earlier other (some due) = some instant) : instant ≤ due := by
  cases other with
  | none => exact Nat.le_of_eq (Option.some.inj h).symm
  | some first =>
      rw [← Option.some.inj h]
      exact Nat.min_le_right first due

/-- The earlier of two alarms is one of them. -/
theorem eq_or_eq_of_earlier {a b : Option Instant} {instant : Instant}
    (h : earlier a b = some instant) : a = some instant ∨ b = some instant := by
  cases a with
  | none => exact Or.inr h
  | some first =>
      cases b with
      | none => exact Or.inl h
      | some second =>
          rw [← h, earlier]
          rcases Nat.le_total first second with hle | hle
          · exact Or.inl (by rw [Nat.min_eq_left hle])
          · exact Or.inr (by rw [Nat.min_eq_right hle])

theorem earlier_some_ne_none (a : Option Instant) (second : Instant) :
    earlier a (some second) ≠ none := by
  cases a <;> simp [earlier]

theorem earlier_ne_none {a : Option Instant} (h : a ≠ none) (b : Option Instant) :
    earlier a b ≠ none := by
  cases a with
  | none => exact absurd rfl h
  | some first => cases b <;> simp [earlier]

/-- Some alarm that is set leaves an alarm set that is no later. -/
theorem exists_earliest {alarms : List (Option Instant)} {due : Instant}
    (h : some due ∈ alarms) : ∃ instant, earliest alarms = some instant ∧ instant ≤ due := by
  have hfold : ∀ (first : Option Instant) (due : Instant), first = some due ∨ some due ∈ alarms →
      ∃ instant, alarms.foldl earlier first = some instant ∧ instant ≤ due := by
    clear h
    induction alarms with
    | nil =>
        intro first due h
        exact ⟨due, h.resolve_right List.not_mem_nil, Nat.le_refl due⟩
    | cons alarm rest ih =>
        intro first due h
        -- Of the two alarms that are compared first, the earlier one is passed on.
        have hpass : ∃ soon, (earlier first alarm = some soon ∨ some soon ∈ rest) ∧ soon ≤ due := by
          rcases h with rfl | h
          · cases alarm with
            | none => exact ⟨due, Or.inl rfl, Nat.le_refl due⟩
            | some other => exact ⟨min due other, Or.inl rfl, Nat.min_le_left _ _⟩
          · rcases List.mem_cons.mp h with rfl | hrest
            · cases first with
              | none => exact ⟨due, Or.inl rfl, Nat.le_refl due⟩
              | some other => exact ⟨min other due, Or.inl rfl, Nat.min_le_right _ _⟩
            · exact ⟨due, Or.inr hrest, Nat.le_refl due⟩
        obtain ⟨soon, hset, hsoon⟩ := hpass
        obtain ⟨instant, hinstant, hle⟩ := ih _ soon hset
        exact ⟨instant, hinstant, Nat.le_trans hle hsoon⟩
  exact hfold none due (Or.inr h)

/-! ### Little to do -/

section Prompt

variable {s t : σ}

/-- If one look gets as far as possible, so does settling. -/
theorem settle_of_look (hlook : work.look s = t) (hagain : work.look t = t) :
    settle work s = t := by
  have hstays : ∀ bound, settleWithin work bound t = t := by
    intro bound
    cases bound with
    | zero => rfl
    | succ bound => rw [settleWithin_succ, hagain, if_neg (Nat.lt_irrefl _)]
  rw [settle, settleWithin_succ, hlook, hstays, ite_self]

/-- If nothing can be done before an instant, and all of it then, it is done at that instant. -/
theorem play_of_wind {instant : Instant} (hidle : work.look s = s)
    (halarm : work.alarm s = some instant) (hlook : work.look (work.wind instant s) = t)
    (hagain : work.look t = t) (hsilent : work.alarm t = none) : play work s = t := by
  rw [play, settle_of_look hidle hidle, playWithin_of_alarm halarm, settle_of_look hlook hagain,
    playWithin_of_silent hsilent, ite_self]

/-- If all can be done at once, it is. -/
theorem play_of_look (hlook : work.look s = t) (hagain : work.look t = t)
    (hsilent : work.alarm t = none) : play work s = t := by
  rw [play, settle_of_look hlook hagain, playWithin_of_silent hsilent]

end Prompt

/-! ### Two clockworks side by side -/

section Simulation

variable {R : σ → τ → Prop} (hlook : ∀ s t, R s t → R (work.look s) (other.look t))
  (hleft : ∀ s t, R s t → work.left s = other.left t)

include hlook hleft

theorem settleWithin_simulation (bound : Nat) {s : σ} {t : τ} (h : R s t) :
    R (settleWithin work bound s) (settleWithin other bound t) := by
  induction bound generalizing s t with
  | zero => exact h
  | succ bound ih =>
      have hseen := hlook s t h
      -- As much is left on both sides, so both go on or both stop.
      rw [settleWithin_succ, settleWithin_succ, ← hleft s t h, ← hleft _ _ hseen]
      split
      · exact ih hseen
      · exact hseen

theorem settle_simulation {s : σ} {t : τ} (h : R s t) : R (settle work s) (settle other t) := by
  rw [settle, settle, ← hleft s t h]
  exact settleWithin_simulation hlook hleft _ h

/-- What ties two clockworks together through every look and every winding ties their ends together.
-/
theorem play_simulation
    (hwind : ∀ s t instant, R s t → work.alarm s = some instant →
      R (work.wind instant s) (other.wind instant t))
    (halarm : ∀ s t, R s t → work.alarm s = other.alarm t) {s : σ} {t : τ} (h : R s t) :
    R (play work s) (play other t) := by
  have hwithin : ∀ bound s t, R s t → R (playWithin work bound s) (playWithin other bound t) := by
    intro bound
    induction bound with
    | zero => exact fun s t h => h
    | succ bound ih =>
        intro s t h
        cases hset : work.alarm s with
        | none =>
            have hsilent : other.alarm t = none := (halarm s t h).symm.trans hset
            rw [playWithin_of_silent hset, playWithin_of_silent hsilent]
            exact h
        | some instant =>
            have hother : other.alarm t = some instant := (halarm s t h).symm.trans hset
            have hnext := settle_simulation hlook hleft (hwind s t instant h hset)
            rw [playWithin_of_alarm hset, playWithin_of_alarm hother, ← hleft s t h,
              ← hleft _ _ hnext]
            split
            · exact ih _ _ hnext
            · exact hnext
  have hsettled := settle_simulation hlook hleft h
  rw [play, play, ← hleft _ _ hsettled]
  exact hwithin _ _ _ hsettled

end Simulation

/-! ### How a clockwork stops -/

section Stopping

variable {P : σ → Prop} (hP : ∀ s, P s → P (work.look s))
  (hfalls : ∀ s, P s → work.left (work.look s) ≤ work.left s)

include hP hfalls

theorem left_settleWithin_le (bound : Nat) {s : σ} (h : P s) :
    work.left (settleWithin work bound s) ≤ work.left s := by
  induction bound generalizing s with
  | zero => exact Nat.le_refl _
  | succ bound ih =>
      rw [settleWithin_succ]
      split
      · exact Nat.le_trans (ih (hP s h)) (hfalls s h)
      · exact hfalls s h

/-- Settling gets at least as far as one look. -/
theorem left_settle_le {s : σ} (h : P s) : work.left (settle work s) ≤ work.left (work.look s) := by
  rw [settle, settleWithin_succ]
  split
  · exact left_settleWithin_le hP hfalls _ (hP s h)
  · exact Nat.le_refl _

/-- If every alarm finds something to do, none is set at the end. -/
theorem alarm_play_eq_none
    (hwind : ∀ s instant, P s → work.alarm s = some instant → P (work.wind instant s))
    (hdue : ∀ s instant, P s → work.alarm s = some instant →
      work.left (work.look (work.wind instant s)) < work.left s)
    {s : σ} (h : P s) : work.alarm (play work s) = none := by
  -- The bound stays above what is left, so it never runs out first.
  have hwithin : ∀ bound s, P s → work.left s < bound →
      work.alarm (playWithin work bound s) = none := by
    intro bound
    induction bound with
    | zero => exact fun s _ hleft => absurd hleft (Nat.not_lt_zero _)
    | succ bound ih =>
        intro s h hbound
        cases hset : work.alarm s with
        | none => rw [playWithin_of_silent hset, hset]
        | some instant =>
            have hwound := hwind s instant h hset
            have hless : work.left (settle work (work.wind instant s)) < work.left s :=
              Nat.lt_of_le_of_lt (left_settle_le hP hfalls hwound) (hdue s instant h hset)
            rw [playWithin_of_alarm hset, if_pos hless]
            exact ih _ (settle_induction hP _ hwound)
              (Nat.lt_of_lt_of_le hless (Nat.le_of_lt_succ hbound))
  exact hwithin _ _ (settle_induction hP _ h) (Nat.lt_succ_self _)

end Stopping

/-- A clockwork that settles ends with a look that gets nothing done. -/
theorem exists_look_of_settleWithin {P : σ → Prop} (hP : ∀ s, P s → P (work.look s)) (bound : Nat)
    {s : σ} (h : P s) (hbound : work.left s < bound) :
    ∃ t, P t ∧ settleWithin work bound s = work.look t ∧ work.left t ≤ work.left (work.look t) := by
  induction bound generalizing s with
  | zero => exact absurd hbound (Nat.not_lt_zero _)
  | succ bound ih =>
      rw [settleWithin_succ]
      split
      case isTrue hless => exact ih (hP s h) (by omega)
      case isFalse hidle => exact ⟨s, h, rfl, Nat.le_of_not_lt hidle⟩

/-- A clockwork that runs to its end ends with a look that gets nothing done. -/
theorem exists_look_of_play {P : σ → Prop} (hP : ∀ s, P s → P (work.look s))
    (hwind : ∀ s instant, P s → work.alarm s = some instant → P (work.wind instant s))
    {s : σ} (h : P s) :
    ∃ t, P t ∧ play work s = work.look t ∧ work.left t ≤ work.left (work.look t) := by
  have hsettle : ∀ s, P s → ∃ t, P t ∧ settle work s = work.look t ∧
      work.left t ≤ work.left (work.look t) :=
    fun s h => exists_look_of_settleWithin hP _ h (Nat.lt_succ_self _)
  have hwithin : ∀ bound s, (∃ t, P t ∧ s = work.look t ∧ work.left t ≤ work.left (work.look t)) →
      ∃ t, P t ∧ playWithin work bound s = work.look t ∧
        work.left t ≤ work.left (work.look t) := by
    intro bound
    induction bound with
    | zero => exact fun s h => h
    | succ bound ih =>
        rintro s hlast
        cases hset : work.alarm s with
        | none => rwa [playWithin_of_silent hset]
        | some instant =>
            rw [playWithin_of_alarm hset]
            obtain ⟨t, ht, rfl, -⟩ := hlast
            have hnext := hsettle _ (hwind _ instant (hP t ht) hset)
            split
            · exact ih _ hnext
            · exact hnext
  exact hwithin _ _ (hsettle s h)

/-- What survives every look, and every winding after a look that gets nothing done, survives the
whole run. -/
theorem play_induction_of_settled {P : σ → Prop} (hP : ∀ s, P s → P (work.look s))
    (hwind : ∀ s instant, P s → work.left s ≤ work.left (work.look s) →
      work.alarm (work.look s) = some instant → P (work.wind instant (work.look s)))
    {s : σ} (h : P s) : P (play work s) := by
  have hsettle : ∀ s, P s → ∃ t, P t ∧ settle work s = work.look t ∧
      work.left t ≤ work.left (work.look t) :=
    fun s h => exists_look_of_settleWithin hP _ h (Nat.lt_succ_self _)
  have hwithin : ∀ bound s, (∃ t, P t ∧ s = work.look t ∧ work.left t ≤ work.left (work.look t)) →
      P (playWithin work bound s) := by
    intro bound
    induction bound with
    | zero =>
        rintro _ ⟨t, ht, rfl, -⟩
        exact hP t ht
    | succ bound ih =>
        rintro _ ⟨t, ht, rfl, hidle⟩
        cases hset : work.alarm (work.look t) with
        | none =>
            rw [playWithin_of_silent hset]
            exact hP t ht
        | some instant =>
            have hwound := hwind t instant ht hidle hset
            rw [playWithin_of_alarm hset]
            split
            · exact ih _ (hsettle _ hwound)
            · exact settle_induction hP _ hwound
  exact hwithin _ _ (hsettle s h)

end Clockwork

end StoryDirector
