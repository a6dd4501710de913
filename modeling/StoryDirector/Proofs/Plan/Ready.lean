import StoryDirector.Proofs.Plan.Dependencies
/-!
# StoryDirector.Proofs.Plan.Ready

Lists of tasks that are in order as they stand. **Tasks that are ranked, and of which each depends
on earlier ones only, are run in just this order** (`Task.inOrder_eq`): no dependency is dropped,
and the search leaves every place as soon as it comes to it.

A list has one ranking (`Task.IsRanking.unique`), so whatever is known to rank the tasks is what
sorting makes of them.
-/

namespace StoryDirector

namespace Traversal

variable {deps : Nat → List Nat} {count : Nat}

/-- Visiting places that were entered before changes nothing. -/
theorem foldl_visit_of_marked (depth : Nat) {places : List Nat} {t : Traversal}
    (h : ∀ place ∈ places, place ∈ t.marked) : places.foldl (visit deps depth) t = t := by
  induction places with
  | nil => rfl
  | cons place rest ih =>
      rw [List.foldl_cons, visit_of_marked (h place List.mem_cons_self)]
      exact ih fun other hother => h other (List.mem_cons_of_mem _ hother)

/-- A search through places of which each depends on smaller ones only leaves them one by one. -/
theorem order_of_backward (h : ∀ place < count, ∀ other ∈ deps place, other < place) :
    order deps count = List.range count := by
  have hrange : ∀ bound ≤ count, (List.range bound).foldl (visit deps (count + 1)) {} =
      ⟨(List.range bound).reverse, List.range bound⟩ := by
    intro bound hbound
    induction bound with
    | zero => rfl
    | succ bound ih =>
        have hnew : bound ∉ (List.range bound).reverse := by simp
        -- All that the place depends on was visited before.
        have hdeps : ∀ other ∈ deps bound, other ∈ bound :: (List.range bound).reverse :=
          fun other hother => List.mem_cons_of_mem _
            (List.mem_reverse.mpr (List.mem_range.mpr (h bound hbound other hother)))
        rw [List.range_succ, List.foldl_append, ih (Nat.le_of_lt hbound), List.foldl_cons,
          List.foldl_nil, visit_of_not_marked hnew, foldl_visit_of_marked count hdeps,
          List.reverse_append]
        rfl
  rw [order, hrange count (Nat.le_refl count)]

end Traversal

namespace Task

variable {tasks sorted : List Task}

/-! ### Rankings -/

/-- A list has one ranking. -/
theorem IsRanking.unique {first second : List Task} (h : IsRanking tasks first)
    (hsecond : IsRanking tasks second) : first = second := by
  have hsame : ∀ priority, first.filter (·.priority = priority) =
      second.filter (·.priority = priority) :=
    fun priority => (h.stable priority).trans (hsecond.stable priority).symm
  have hfirst := h.falling
  have hfalling := hsecond.falling
  clear h hsecond
  induction first generalizing second with
  | nil =>
      cases second with
      | nil => rfl
      | cons other rest => simpa using hsame other.priority
  | cons task rest ih =>
      cases second with
      | nil => simpa using hsame task.priority
      | cons other others =>
          obtain ⟨hbelow, hrest⟩ := List.pairwise_cons.mp hfirst
          obtain ⟨hbelowOther, hothers⟩ := List.pairwise_cons.mp hfalling
          -- Each of the two heads is in the other list, so neither ranks above the other.
          have htask : task ∈ (other :: others).filter (·.priority = task.priority) := by
            rw [← hsame]
            simp
          have hother : other ∈ (task :: rest).filter (·.priority = other.priority) := by
            rw [hsame]
            simp
          have hle : task.priority ≤ other.priority := by
            rcases List.mem_cons.mp (List.mem_filter.mp htask).1 with rfl | hin
            · exact Int.le_refl _
            · exact hbelowOther task hin
          have hge : other.priority ≤ task.priority := by
            rcases List.mem_cons.mp (List.mem_filter.mp hother).1 with rfl | hin
            · exact Int.le_refl _
            · exact hbelow other hin
          have hheads := hsame task.priority
          rw [List.filter_cons_of_pos (by simp), List.filter_cons_of_pos
            (by simpa using Int.le_antisymm hge hle)] at hheads
          obtain ⟨rfl, -⟩ := List.cons.inj hheads
          refine congrArg (task :: ·) (ih (fun priority => ?_) hrest hothers)
          have hfilter := hsame priority
          rw [List.filter_cons, List.filter_cons] at hfilter
          split at hfilter
          · exact (List.cons.inj hfilter).2
          · exact hfilter

/-- Tasks that all rank above the others are ranked before them, wherever they stand. -/
theorem isRanking_append {low high : List Task}
    (hlow : low.Pairwise fun a b => b.priority ≤ a.priority)
    (hhigh : high.Pairwise fun a b => b.priority ≤ a.priority)
    (habove : ∀ a ∈ high, ∀ b ∈ low, b.priority < a.priority) :
    IsRanking (low ++ high) (high ++ low) where
  perm := List.perm_append_comm
  falling := List.pairwise_append.mpr
    ⟨hhigh, hlow, fun a ha b hb => Int.le_of_lt (habove a ha b hb)⟩
  stable := by
    intro priority
    rw [List.filter_append, List.filter_append]
    -- Tasks of one priority are all on one side.
    cases hfilter : high.filter (·.priority = priority) with
    | nil => rw [List.nil_append, List.append_nil]
    | cons a rest =>
        have ha : a ∈ high.filter (·.priority = priority) := hfilter ▸ List.mem_cons_self
        have hnone : low.filter (·.priority = priority) = [] := by
          rw [List.filter_eq_nil_iff]
          intro b hb hsame
          have hbelow := habove a (List.mem_filter.mp ha).1 b hb
          have hpriority := of_decide_eq_true (List.mem_filter.mp ha).2
          have hother := of_decide_eq_true hsame
          omega
        rw [hnone, List.nil_append, List.append_nil]

/-! ### Tasks that can be run one after another -/

/-- Each task depends on known identities and on those of earlier tasks only. -/
def Ready : (known : List String) → List Task → Prop
  | _, [] => True
  | known, task :: rest =>
    (∀ id ∈ task.dependsOn, id ∈ known) ∧ Ready (known ++ [task.id]) rest

theorem ready_append {known : List String} {before after : List Task} :
    Ready known (before ++ after) ↔
      Ready known before ∧ Ready (known ++ before.map (·.id)) after := by
  induction before generalizing known with
  | nil => simp [Ready]
  | cons task rest ih => simp [Ready, ih, and_assoc]

/-- More may be known. -/
theorem Ready.mono {known more : List String} (h : Ready known tasks) (hmore : known ⊆ more) :
    Ready more tasks := by
  induction tasks generalizing known more with
  | nil => trivial
  | cons task rest ih =>
      refine ⟨fun id hid => hmore (h.1 id hid), ih h.2 fun id hid => ?_⟩
      rcases List.mem_append.mp hid with hid | hid
      · exact List.mem_append_left _ (hmore hid)
      · exact List.mem_append_right _ hid

/-- Whatever a task depends on, some task before it bears. -/
theorem Ready.exists_before (h : Ready [] tasks) {before after : List Task} {task : Task}
    (hsplit : tasks = before ++ task :: after) {id : String} (hid : id ∈ task.dependsOn) :
    ∃ earlier ∈ before, earlier.id = id := by
  subst hsplit
  obtain ⟨-, hneeds, -⟩ := ready_append.mp h
  exact List.mem_map.mp (hneeds id hid)

/-- What each task requires stands before it. -/
theorem lt_of_ready (h : Ready [] tasks) {place other : Nat}
    (hrequires : Requires tasks place other) : other < place := by
  obtain ⟨task, htask, id, hid, -, hfirst⟩ := hrequires
  obtain ⟨earlier, hearlier, hbears⟩ := h.exists_before (eq_append_of_getElem? htask) hid
  obtain ⟨spot, hspot, hat⟩ := List.mem_take_iff_getElem.mp hearlier
  have hplace : spot < place := Nat.lt_of_lt_of_le hspot (Nat.min_le_left _ _)
  refine Nat.lt_of_le_of_lt (Nat.le_of_not_lt fun hlt => ?_) hplace
  exact hfirst spot hlt ⟨earlier, List.getElem?_eq_some_iff.mpr ⟨_, hat⟩, hbears⟩

/-- If the ranked tasks depend on earlier ones only, no dependency is dropped. -/
theorem map_resolve (h : IsRanking tasks sorted) (hready : Ready [] sorted) :
    tasks.map (resolve tasks) = tasks := by
  refine (List.map_congr_left fun task htask => ?_).trans (List.map_id tasks)
  obtain ⟨before, after, hsplit⟩ := List.append_of_mem (h.perm.mem_iff.mpr htask)
  have hkept : (task.dependsOn.filter fun id => tasks.any (·.id = id)) = task.dependsOn := by
    refine List.filter_eq_self.mpr fun id hid => ?_
    obtain ⟨earlier, hearlier, hbears⟩ := hready.exists_before hsplit hid
    have hin : earlier ∈ sorted := hsplit ▸ List.mem_append_left _ hearlier
    exact List.any_eq_true.mpr ⟨earlier, h.perm.mem_iff.mp hin, decide_eq_true hbears⟩
  rw [resolve, hkept]
  rfl

/-- **Tasks whose ranking can be run as it stands are run in that order.** -/
theorem inOrder_eq (h : IsRanking tasks sorted) (hready : Ready [] sorted) :
    inOrder tasks = sorted := by
  have hranking : ranking tasks = sorted := by
    rw [ranking, map_resolve h hready]
    exact (isRanking_ranked tasks).unique h
  have hplaces : places tasks = List.range sorted.length := by
    rw [places, hranking]
    exact Traversal.order_of_backward fun _ _ _ hother =>
      lt_of_ready hready (mem_dependencies_iff.mp hother)
  have hsome : (inOrder tasks).map some = sorted.map some := by
    rw [map_some_inOrder, hplaces, hranking]
    exact List.ext_getElem (by simp) fun place _ _ => by simp
  exact (List.map_inj_right fun _ _ => Option.some.inj).mp hsome

end Task

end StoryDirector
