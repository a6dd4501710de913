import StoryDirector.Plan.Order
import Mathlib.Data.List.Perm.Subperm
import Mathlib.Logic.Relation
/-!
# StoryDirector.Proofs.Plan.Traversal

What the search through a graph comes to, cycles or not. **A place is left after everything it
depends on, except where that leads back to the place itself.**

While a place is visited, those that were entered and not yet left form a stack, and each place of
the stack depends, step by step, on the one that is visited. `Traversal.Open` is the invariant:

* what is marked was left or is on the stack, and nothing is both or twice;
* when a place was left, each of its dependencies had been left before or leads back to it.

A visit keeps it (`open_visit`): a dependency that is marked but not left is on the stack, so it
leads back to the place that is visited. There is always depth left, since the stack holds no place
twice.
-/

namespace StoryDirector

namespace Traversal

variable {deps : Nat → List Nat} {count : Nat}

/-- One place depends on another. -/
def Depends (deps : Nat → List Nat) (place other : Nat) : Prop := other ∈ deps place

/-- One place depends on another step by step. -/
abbrev Leads (deps : Nat → List Nat) : Nat → Nat → Prop := Relation.ReflTransGen (Depends deps)

/-- Wherever a place stands in an order, each of its dependencies stands before it or leads back to
it. -/
def Settled (deps : Nat → List Nat) (emitted : List Nat) : Prop :=
  ∀ before place after, emitted = before ++ place :: after →
    ∀ other ∈ deps place, other ∈ before ∨ Leads deps other place

/-- What holds of a search while some places are entered and not yet left. -/
structure Open (deps : Nat → List Nat) (count : Nat) (stack : List Nat) (t : Traversal) : Prop where
  /-- What is marked was left or is on the stack. -/
  marked_iff : ∀ place, place ∈ t.marked ↔ place ∈ t.emitted ∨ place ∈ stack
  /-- No place is there twice. -/
  nodup : (t.emitted ++ stack).Nodup
  /-- Only places of the graph are marked. -/
  bounded : ∀ place ∈ t.marked, place < count
  /-- What was left was left in order. -/
  settled : Settled deps t.emitted

/-- How a search goes on while some places are visited. -/
structure Grown (deps : Nat → List Nat) (places : List Nat) (before after : Traversal) : Prop where
  /-- The visited places are marked. -/
  visited : ∀ place ∈ places, place ∈ after.marked
  /-- What was marked is marked. -/
  kept : ∀ place ∈ before.marked, place ∈ after.marked
  /-- What is left meanwhile was visited, or something depends on it. -/
  emitted : ∃ more, after.emitted = before.emitted ++ more ∧
    ∀ place ∈ more, place ∈ places ∨ ∃ dependent, place ∈ deps dependent

theorem Grown.refl (t : Traversal) : Grown deps [] t t where
  visited := fun _ hplace => absurd hplace List.not_mem_nil
  kept := fun _ hplace => hplace
  emitted := ⟨[], (List.append_nil _).symm, fun _ hplace => absurd hplace List.not_mem_nil⟩

theorem Grown.trans {first second : List Nat} {before between after : Traversal}
    (h : Grown deps first before between) (hnext : Grown deps second between after) :
    Grown deps (first ++ second) before after where
  visited := by
    intro place hplace
    rcases List.mem_append.mp hplace with hplace | hplace
    · exact hnext.kept place (h.visited place hplace)
    · exact hnext.visited place hplace
  kept := fun place hplace => hnext.kept place (h.kept place hplace)
  emitted := by
    obtain ⟨more, hmore, hfirst⟩ := h.emitted
    obtain ⟨others, hothers, hsecond⟩ := hnext.emitted
    refine ⟨more ++ others, by rw [hothers, hmore, List.append_assoc], fun place hplace => ?_⟩
    rcases List.mem_append.mp hplace with hplace | hplace
    · exact (hfirst place hplace).imp_left (List.mem_append_left _)
    · exact (hsecond place hplace).imp_left (List.mem_append_right _)

/-! ### The invariant -/

/-- The stack never grows beyond the graph. -/
theorem Open.length_stack_le {stack : List Nat} {t : Traversal} (h : Open deps count stack t) :
    stack.length ≤ count := by
  have hnodup : stack.Nodup := (List.nodup_append.mp h.nodup).2.1
  have hsubset : stack ⊆ List.range count := fun place hplace =>
    List.mem_range.mpr (h.bounded place ((h.marked_iff place).mpr (Or.inr hplace)))
  simpa using (List.subperm_of_subset hnodup hsubset).length_le

/-- A place is entered. -/
theorem Open.enter {stack : List Nat} {t : Traversal} (h : Open deps count stack t) {place : Nat}
    (hplace : place < count) (hnew : place ∉ t.marked) :
    Open deps count (place :: stack) { t with marked := place :: t.marked } where
  marked_iff := by
    intro other
    show other ∈ place :: t.marked ↔ other ∈ t.emitted ∨ other ∈ place :: stack
    rw [List.mem_cons, List.mem_cons, h.marked_iff]
    exact or_left_comm
  nodup := by
    have hout : place ∉ t.emitted ++ stack := fun hin =>
      hnew ((h.marked_iff place).mpr (List.mem_append.mp hin))
    exact List.perm_middle.nodup_iff.mpr (List.nodup_cons.mpr ⟨hout, h.nodup⟩)
  bounded := by
    intro other hother
    rcases List.mem_cons.mp hother with rfl | hother
    · exact hplace
    · exact h.bounded other hother
  settled := h.settled

/-- The place on top of the stack is left: its dependencies are all marked, and those that were not
left lead back to it. -/
theorem Open.close {stack : List Nat} {t : Traversal} {place : Nat}
    (h : Open deps count (place :: stack) t)
    (hmarked : ∀ other ∈ deps place, other ∈ t.marked)
    (hleads : ∀ other ∈ stack, Leads deps other place) :
    Open deps count stack { t with emitted := t.emitted ++ [place] } where
  marked_iff := by
    intro other
    show other ∈ t.marked ↔ other ∈ t.emitted ++ [place] ∨ other ∈ stack
    rw [h.marked_iff, List.mem_append, List.mem_singleton, List.mem_cons, or_assoc]
  nodup := by
    show (t.emitted ++ [place] ++ stack).Nodup
    rw [List.append_assoc]
    exact h.nodup
  bounded := h.bounded
  settled := by
    intro before other after hsplit dependency hdependency
    rcases List.eq_nil_or_concat after with rfl | ⟨rest, last, rfl⟩
    · obtain ⟨rfl, hother⟩ := List.append_inj' hsplit rfl
      obtain rfl := List.cons.inj hother |>.1
      rcases (h.marked_iff dependency).mp (hmarked dependency hdependency) with hleft | hopen
      · exact Or.inl hleft
      · rcases List.mem_cons.mp hopen with rfl | hopen
        · exact Or.inr Relation.ReflTransGen.refl
        · exact Or.inr (hleads dependency hopen)
    · have hbefore : t.emitted = before ++ other :: rest := by
        have hsplit' : t.emitted ++ [place] = (before ++ other :: rest) ++ [last] := by
          simpa using hsplit
        exact (List.append_inj' hsplit' rfl).1
      exact h.settled before other rest hbefore dependency hdependency

/-! ### A visit -/

/-- Several visits in order, if each of them keeps the invariant. -/
theorem open_foldl {visit : Traversal → Nat → Traversal} {stack : List Nat}
    (hvisit : ∀ t place, Open deps count stack t → place < count →
      (∀ other ∈ stack, Leads deps other place) →
      Open deps count stack (visit t place) ∧ Grown deps [place] t (visit t place))
    (places : List Nat) {t : Traversal} (h : Open deps count stack t)
    (hplaces : ∀ place ∈ places, place < count)
    (hleads : ∀ place ∈ places, ∀ other ∈ stack, Leads deps other place) :
    Open deps count stack (places.foldl visit t) ∧ Grown deps places t (places.foldl visit t) := by
  induction places generalizing t with
  | nil => exact ⟨h, Grown.refl t⟩
  | cons place rest ih =>
      obtain ⟨hopen, hgrown⟩ := hvisit t place h (hplaces place List.mem_cons_self)
        (hleads place List.mem_cons_self)
      obtain ⟨hafter, hrest⟩ := ih hopen
        (fun other hother => hplaces other (List.mem_cons_of_mem _ hother))
        (fun other hother => hleads other (List.mem_cons_of_mem _ hother))
      exact ⟨hafter, hgrown.trans hrest⟩

/-- A visit marks its place and keeps the invariant, as long as there is depth for the rest of the
graph. -/
theorem open_visit (hdeps : ∀ place < count, ∀ other ∈ deps place, other < count) (depth : Nat)
    {stack : List Nat} {t : Traversal} {place : Nat} (h : Open deps count stack t)
    (hplace : place < count) (hleads : ∀ other ∈ stack, Leads deps other place)
    (hdepth : count < depth + stack.length) :
    Open deps count stack (visit deps depth t place) ∧
      Grown deps [place] t (visit deps depth t place) := by
  induction depth generalizing stack t place with
  | zero =>
      -- There would be more places on the stack than there are.
      have hlength := h.length_stack_le
      omega
  | succ depth ih =>
      by_cases hmarked : place ∈ t.marked
      · rw [visit_of_marked hmarked]
        refine ⟨h, fun other hother => ?_, fun other hother => hother, [], ?_, ?_⟩
        · rwa [List.mem_singleton.mp hother]
        · exact (List.append_nil _).symm
        · exact fun other hother => absurd hother List.not_mem_nil
      · rw [visit_of_not_marked hmarked]
        have hentered := h.enter hplace hmarked
        -- What is on the stack leads to the place, and so to what the place depends on.
        have hback : ∀ other ∈ deps place, ∀ below ∈ place :: stack, Leads deps below other := by
          intro other hother below hbelow
          rcases List.mem_cons.mp hbelow with rfl | hbelow
          · exact Relation.ReflTransGen.single hother
          · exact (hleads below hbelow).tail hother
        obtain ⟨hinside, hgrown⟩ := open_foldl
          (fun t place hopen hplace hleads => ih hopen hplace hleads (by simp; omega))
          (deps place) hentered (hdeps place hplace) hback
        refine ⟨hinside.close hgrown.visited hleads, ?_, ?_, ?_⟩
        · intro other hother
          rw [List.mem_singleton.mp hother]
          exact hgrown.kept place List.mem_cons_self
        · exact fun other hother => hgrown.kept other (List.mem_cons_of_mem _ hother)
        · obtain ⟨more, hmore, hdependents⟩ := hgrown.emitted
          refine ⟨more ++ [place], ?_, fun other hother => ?_⟩
          · show _ ++ [place] = t.emitted ++ (more ++ [place])
            rw [hmore, List.append_assoc]
          · rcases List.mem_append.mp hother with hother | hother
            · exact Or.inr ((hdependents other hother).elim (fun hin => ⟨place, hin⟩) id)
            · exact Or.inl hother

/-! ### The whole search -/

/-- What holds once all places below a bound were visited in turn. -/
structure Searched (deps : Nat → List Nat) (count bound : Nat) (t : Traversal) : Prop where
  /-- Nothing is entered and not yet left. -/
  rest : Open deps count [] t
  /-- All places below the bound were left. -/
  left : ∀ place < bound, place ∈ t.emitted
  /-- A place on which nothing depends was left after all smaller ones. -/
  heads : ∀ before place after, t.emitted = before ++ place :: after →
    (∀ dependent, place ∉ deps dependent) → ∀ smaller < place, smaller ∈ before

theorem searched_empty : Searched deps count 0 {} where
  rest := {
    marked_iff := fun _ => ⟨Or.inl, fun h => h.elim id fun hin => absurd hin List.not_mem_nil⟩
    nodup := List.nodup_nil
    bounded := fun _ hplace => absurd hplace List.not_mem_nil
    settled := fun before place after hsplit => by simp at hsplit }
  left := fun _ hplace => absurd hplace (Nat.not_lt_zero _)
  heads := fun before place after hsplit => by simp at hsplit

/-- The next place is visited. -/
theorem searched_visit (hdeps : ∀ place < count, ∀ other ∈ deps place, other < count)
    {bound : Nat} (hbound : bound < count) {t : Traversal} (h : Searched deps count bound t) :
    Searched deps count (bound + 1) (visit deps (count + 1) t bound) := by
  have hnone : ∀ other ∈ ([] : List Nat), Leads deps other bound :=
    fun _ hother => absurd hother List.not_mem_nil
  obtain ⟨hopen, hgrown⟩ := open_visit hdeps (count + 1) h.rest hbound hnone (Nat.lt_succ_self _)
  have hleft : ∀ place, place ∈ (visit deps (count + 1) t bound).marked ↔
      place ∈ (visit deps (count + 1) t bound).emitted := by
    intro place
    rw [hopen.marked_iff]
    exact ⟨fun hin => hin.resolve_right List.not_mem_nil, Or.inl⟩
  obtain ⟨more, hmore, hdependents⟩ := hgrown.emitted
  have hhead : ∀ place ∈ more, (∀ dependent, place ∉ deps dependent) → place = bound := by
    intro place hplace hnothing
    rcases hdependents place hplace with hvisited | ⟨dependent, hdependent⟩
    · exact List.mem_singleton.mp hvisited
    · exact absurd hdependent (hnothing dependent)
  refine ⟨hopen, fun place hplace => ?_, fun before place after hsplit hnothing => ?_⟩
  · rcases Nat.lt_succ_iff_lt_or_eq.mp hplace with hplace | rfl
    · rw [hmore]
      exact List.mem_append_left _ (h.left place hplace)
    · exact (hleft place).mp (hgrown.visited place (List.mem_singleton_self _))
  · -- Either the place had been left before, or it is the one that is visited.
    rw [hmore] at hsplit
    rcases List.append_eq_append_iff.mp hsplit with
      ⟨others, rfl, hothers⟩ | ⟨others, hbefore, hafter⟩
    · have hin : place ∈ more := hothers ▸ List.mem_append_right _ List.mem_cons_self
      rw [hhead place hin hnothing]
      exact fun smaller hsmaller => List.mem_append_left _ (h.left smaller hsmaller)
    · cases others with
      | nil =>
          rw [List.append_nil] at hbefore
          rw [List.nil_append] at hafter
          have hin : place ∈ more := hafter ▸ List.mem_cons_self
          rw [hhead place hin hnothing, ← hbefore]
          exact h.left
      | cons first others =>
          obtain ⟨rfl, -⟩ := List.cons.inj hafter
          exact h.heads before place others hbefore hnothing

theorem searched_range (hdeps : ∀ place < count, ∀ other ∈ deps place, other < count)
    {bound : Nat} (hbound : bound ≤ count) :
    Searched deps count bound ((List.range bound).foldl (visit deps (count + 1)) {}) := by
  induction bound with
  | zero => exact searched_empty
  | succ bound ih =>
      rw [List.range_succ, List.foldl_append]
      exact searched_visit hdeps hbound (ih (Nat.le_of_lt hbound))

section Order

variable (hdeps : ∀ place < count, ∀ other ∈ deps place, other < count)

include hdeps

theorem searched_order : ∃ t, Searched deps count count t ∧ order deps count = t.emitted :=
  ⟨_, searched_range hdeps (Nat.le_refl count), rfl⟩

theorem mem_order {place : Nat} : place ∈ order deps count ↔ place < count := by
  obtain ⟨t, hsearched, horder⟩ := searched_order hdeps
  rw [horder]
  refine ⟨fun hplace => ?_, hsearched.left place⟩
  exact hsearched.rest.bounded place ((hsearched.rest.marked_iff place).mpr (Or.inl hplace))

/-- Every place is there once. -/
theorem perm_order : (order deps count).Perm (List.range count) := by
  obtain ⟨t, hsearched, horder⟩ := searched_order hdeps
  have hnodup : (order deps count).Nodup := by
    rw [horder]
    exact (List.nodup_append.mp hsearched.rest.nodup).1
  refine (List.perm_ext_iff_of_nodup hnodup List.nodup_range).mpr fun place => ?_
  rw [mem_order hdeps, List.mem_range]

/-- Wherever a place stands, each of its dependencies stands before it or leads back to it. -/
theorem settled_order : Settled deps (order deps count) := by
  obtain ⟨t, hsearched, horder⟩ := searched_order hdeps
  rw [horder]
  exact hsearched.rest.settled

/-- A place on which nothing depends stands after all smaller ones. -/
theorem smaller_before_head {before after : List Nat} {place : Nat}
    (hsplit : order deps count = before ++ place :: after)
    (hnothing : ∀ dependent, place ∉ deps dependent) {smaller : Nat} (hsmaller : smaller < place) :
    smaller ∈ before := by
  obtain ⟨t, hsearched, horder⟩ := searched_order hdeps
  rw [horder] at hsplit
  exact hsearched.heads before place after hsplit hnothing smaller hsmaller

end Order

end Traversal

end StoryDirector
