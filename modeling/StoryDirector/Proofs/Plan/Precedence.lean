import StoryDirector.Proofs.Plan.Dependencies
import Mathlib.Data.List.FinRange
/-!
# StoryDirector.Proofs.Plan.Precedence

Putting tasks in order loses none of them, and **a task goes before a higher one only for the sake
of a dependency** (`Task.inOrder_by_precedence`).

The search through the ranking visits the places from the top. Whatever is left while a place is
visited, that place leads to; and when it is visited, everything above it has been left
(`Traversal.exists_root`). So if a task runs before a higher one, the place from which the search
came to it is not below the higher one, and a walk of dependencies leads from there to the task.

The statement speaks of the places of the given list, since nothing else tells two equal tasks
apart.
-/

namespace StoryDirector

namespace Traversal

variable {deps : Nat → List Nat} {count : Nat}

/-! ### Roots -/

theorem leads_foldl {visit : Traversal → Nat → Traversal}
    (hvisit : ∀ t place, ∃ more, (visit t place).emitted = t.emitted ++ more ∧
      ∀ other ∈ more, Leads deps place other) (places : List Nat) (t : Traversal) :
    ∃ more, (places.foldl visit t).emitted = t.emitted ++ more ∧
      ∀ other ∈ more, ∃ place ∈ places, Leads deps place other := by
  induction places generalizing t with
  | nil => exact ⟨[], (List.append_nil _).symm, fun _ hother => absurd hother List.not_mem_nil⟩
  | cons place rest ih =>
      obtain ⟨first, hfirst, hplace⟩ := hvisit t place
      obtain ⟨others, hothers, hrest⟩ := ih (visit t place)
      refine ⟨first ++ others, ?_, fun other hother => ?_⟩
      · rw [List.foldl_cons, hothers, hfirst, List.append_assoc]
      · rcases List.mem_append.mp hother with hother | hother
        · exact ⟨place, List.mem_cons_self, hplace other hother⟩
        · obtain ⟨origin, horigin, hleads⟩ := hrest other hother
          exact ⟨origin, List.mem_cons_of_mem _ horigin, hleads⟩

/-- Whatever is left while a place is visited, the place leads to. -/
theorem leads_visit (deps : Nat → List Nat) (depth : Nat) (t : Traversal) (place : Nat) :
    ∃ more, (visit deps depth t place).emitted = t.emitted ++ more ∧
      ∀ other ∈ more, Leads deps place other := by
  induction depth generalizing t place with
  | zero => exact ⟨[], (List.append_nil _).symm, fun _ hother => absurd hother List.not_mem_nil⟩
  | succ depth ih =>
      by_cases hmarked : place ∈ t.marked
      · rw [visit_of_marked hmarked]
        exact ⟨[], (List.append_nil _).symm, fun _ hother => absurd hother List.not_mem_nil⟩
      · rw [visit_of_not_marked hmarked]
        obtain ⟨more, hmore, hinside⟩ :=
          leads_foldl ih (deps place) { t with marked := place :: t.marked }
        refine ⟨more ++ [place], ?_, fun other hother => ?_⟩
        · dsimp only
          rw [hmore, List.append_assoc]
        · rcases List.mem_append.mp hother with hother | hother
          · obtain ⟨dependency, hdependency, hleads⟩ := hinside other hother
            exact Relation.ReflTransGen.head hdependency hleads
          · rw [List.mem_singleton.mp hother]

/-- Whenever a place is left, some place leads to it above which everything was left before. -/
def Rooted (deps : Nat → List Nat) (emitted : List Nat) : Prop :=
  ∀ k place, emitted[k]? = some place →
    ∃ root, Leads deps root place ∧ ∀ smaller < root, smaller ∈ emitted.take k

theorem rooted_range (hdeps : ∀ place < count, ∀ other ∈ deps place, other < count) {bound : Nat}
    (hbound : bound ≤ count) :
    Rooted deps ((List.range bound).foldl (visit deps (count + 1)) {}).emitted := by
  induction bound with
  | zero => exact fun k place hplace => by simp at hplace
  | succ bound ih =>
      have hbefore := ih (Nat.le_of_lt hbound)
      have hleft := (searched_range hdeps (Nat.le_of_lt hbound)).left
      rw [List.range_succ, List.foldl_append, List.foldl_cons, List.foldl_nil]
      obtain ⟨more, hmore, hleads⟩ := leads_visit deps (count + 1)
        ((List.range bound).foldl (visit deps (count + 1)) {}) bound
      rw [hmore]
      intro k place hplace
      rcases Nat.lt_or_ge k ((List.range bound).foldl (visit deps (count + 1)) {}).emitted.length
        with hk | hk
      · rw [List.getElem?_append_left hk] at hplace
        rw [List.take_append_of_le_length (Nat.le_of_lt hk)]
        exact hbefore k place hplace
      · -- It is left while the next place is visited, and all that is above that one was left.
        rw [List.getElem?_append_right hk] at hplace
        refine ⟨bound, hleads place (List.mem_of_getElem? hplace), fun smaller hsmaller => ?_⟩
        rw [List.take_append]
        refine List.mem_append_left _ ?_
        rw [List.take_of_length_le hk]
        exact hleft smaller hsmaller

theorem exists_root (hdeps : ∀ place < count, ∀ other ∈ deps place, other < count) {k place : Nat}
    (hplace : (order deps count)[k]? = some place) :
    ∃ root, Leads deps root place ∧ ∀ smaller < root, smaller ∈ (order deps count).take k :=
  rooted_range hdeps (Nat.le_refl count) k place hplace

end Traversal

namespace Task

/-! ### Rank -/

/-- One task of a list ranks higher than another: it has a higher priority, or an equal one and an
earlier place. -/
def Outranks (tasks : List Task) (a b : Fin tasks.length) : Prop :=
  tasks[b].priority < tasks[a].priority ∨ tasks[a].priority = tasks[b].priority ∧ a < b

/-- One task of a list depends on another: on an identity of which the other is the highest
bearer. -/
def Needs (tasks : List Task) (a b : Fin tasks.length) : Prop :=
  tasks[b].id ∈ tasks[a].dependsOn ∧
    ∀ other : Fin tasks.length, tasks[other].id = tasks[b].id → other ≠ b → Outranks tasks b other

/-- The places of a list by falling rank. -/
def standing (tasks : List Task) : List (Fin tasks.length) :=
  (List.finRange tasks.length).mergeSort fun a b => ranksBefore tasks[a] tasks[b]

variable {tasks : List Task} {a b : Fin tasks.length}

theorem Outranks.not_symm (h : Outranks tasks a b) : ¬ Outranks tasks b a := by
  unfold Outranks at h ⊢
  omega

theorem perm_standing (tasks : List Task) : (standing tasks).Perm (List.finRange tasks.length) :=
  List.mergeSort_perm _ _

theorem pairwise_standing (tasks : List Task) : (standing tasks).Pairwise (Outranks tasks) := by
  have htrans : ∀ a b c : Fin tasks.length, ranksBefore tasks[a] tasks[b] = true →
      ranksBefore tasks[b] tasks[c] = true → ranksBefore tasks[a] tasks[c] = true :=
    fun a b c => ranksBefore_trans _ _ _
  have htotal : ∀ a b : Fin tasks.length,
      (ranksBefore tasks[a] tasks[b] || ranksBefore tasks[b] tasks[a]) = true :=
    fun a b => ranksBefore_total _ _
  have hsorted := List.pairwise_mergeSort htrans htotal (List.finRange tasks.length)
  refine List.pairwise_iff_forall_sublist.mpr fun {a b} hab => ?_
  have hle : tasks[b].priority ≤ tasks[a].priority :=
    of_decide_eq_true (List.pairwise_iff_forall_sublist.mp hsorted hab)
  rcases Int.lt_or_eq_of_le hle with hlt | heq
  · exact Or.inl hlt
  · -- Places of one priority stand as they do in the list.
    refine Or.inr ⟨heq.symm, ?_⟩
    let tied : Fin tasks.length → Bool := fun c => decide (tasks[c].priority = tasks[a].priority)
    have hsame : (standing tasks).filter tied = (List.finRange tasks.length).filter tied :=
      filter_mergeSort htrans htotal tied (fun c d hc hd => decide_eq_true
        (Int.le_of_eq ((of_decide_eq_true hd).trans (of_decide_eq_true hc).symm))) _
    have hboth : [a, b].filter tied = [a, b] := by
      refine List.filter_eq_self.mpr fun c hc => ?_
      rcases List.mem_pair.mp hc with rfl | rfl
      · exact decide_eq_true rfl
      · exact decide_eq_true heq
    have hpair := hab.filter tied
    rw [hboth, hsame] at hpair
    exact List.pairwise_iff_forall_sublist.mp (List.pairwise_lt_finRange tasks.length)
      (hpair.trans List.filter_sublist)

/-- The ranking lists the tasks in the order of their standing. -/
theorem ranking_eq_map (tasks : List Task) :
    ranking tasks = (standing tasks).map fun a => resolve tasks tasks[a] := by
  have hmap : tasks.map (resolve tasks) =
      (List.finRange tasks.length).map fun a => resolve tasks tasks[a] := by
    have hplaces : (List.finRange tasks.length).map (fun a => tasks[a]) = tasks :=
      List.map_getElem_finRange tasks
    rw [← Function.comp_def (resolve tasks), ← List.map_map, hplaces]
  rw [ranking, ranked, hmap, standing]
  exact (List.map_mergeSort (f := fun a : Fin tasks.length => resolve tasks tasks[a])
    fun _ _ _ _ => rfl).symm

theorem getElem?_ranking {place : Nat} (h : (standing tasks)[place]? = some a) :
    (ranking tasks)[place]? = some (resolve tasks tasks[a]) := by
  rw [ranking_eq_map, List.getElem?_map, h]
  rfl

theorem exists_standing {place : Nat} (h : place < (ranking tasks).length) :
    ∃ a, (standing tasks)[place]? = some a := by
  rw [ranking_eq_map, List.length_map] at h
  exact ⟨_, List.getElem?_eq_getElem h⟩

/-- A higher standing is a higher rank. -/
theorem outranks_of_lt {place other : Nat} (ha : (standing tasks)[place]? = some a)
    (hb : (standing tasks)[other]? = some b) (h : place < other) : Outranks tasks a b := by
  obtain ⟨hplace, rfl⟩ := List.getElem?_eq_some_iff.mp ha
  obtain ⟨hother, rfl⟩ := List.getElem?_eq_some_iff.mp hb
  exact List.pairwise_iff_getElem.mp (pairwise_standing tasks) place other hplace hother h

theorem needs_of_requires {place other : Nat} (ha : (standing tasks)[place]? = some a)
    (hb : (standing tasks)[other]? = some b) (h : Requires (ranking tasks) place other) :
    Needs tasks a b := by
  obtain ⟨task, htask, id, hid, ⟨bearer, hbearer, rfl⟩, hnone⟩ := h
  obtain rfl := Option.some.inj (htask.symm.trans (getElem?_ranking ha))
  obtain rfl := Option.some.inj (hbearer.symm.trans (getElem?_ranking hb))
  refine ⟨(List.mem_filter.mp hid).1, fun c hc hne => ?_⟩
  have hmem : c ∈ standing tasks := (perm_standing tasks).mem_iff.mpr (List.mem_finRange c)
  obtain ⟨third, hthird⟩ := List.mem_iff_getElem?.mp hmem
  refine outranks_of_lt hb hthird ?_
  rcases Nat.lt_trichotomy other third with hlt | rfl | hgt
  · exact hlt
  · exact absurd (Option.some.inj (hthird.symm.trans hb)) hne
  · exact absurd ⟨resolve tasks tasks[c], getElem?_ranking hthird, hc⟩ (hnone third hgt)

/-- A walk of requirements in the ranking is a walk of dependencies in the list. -/
theorem transGen_needs {place other : Nat} (ha : (standing tasks)[place]? = some a)
    (hb : (standing tasks)[other]? = some b)
    (h : Relation.TransGen (Requires (ranking tasks)) place other) :
    Relation.TransGen (Needs tasks) a b := by
  induction h generalizing b with
  | single hrequires => exact Relation.TransGen.single (needs_of_requires ha hb hrequires)
  | tail _ hrequires ih =>
      obtain ⟨c, hc⟩ := exists_standing (lt_of_requires hrequires).1
      exact (ih hc).tail (needs_of_requires hc hb hrequires)

/-! ### The order -/

/-- The places of a list in the order in which its tasks are run. -/
def running (tasks : List Task) : List (Fin tasks.length) :=
  (places tasks).filterMap fun place => (standing tasks)[place]?

theorem map_some_running (tasks : List Task) :
    (running tasks).map some = (places tasks).map fun place => (standing tasks)[place]? := by
  refine List.map_filterMap_some_eq_filter_map_isSome.trans (List.filter_eq_self.mpr ?_)
  intro a ha
  obtain ⟨place, hplace, rfl⟩ := List.mem_map.mp ha
  obtain ⟨b, hb⟩ := exists_standing (mem_places.mp hplace)
  rw [hb]
  rfl

theorem exists_place_of_running {k : Nat} (h : (running tasks)[k]? = some a) :
    ∃ place, (places tasks)[k]? = some place ∧ (standing tasks)[place]? = some a := by
  have hat := congrArg (·[k]?) (map_some_running tasks)
  simp only [List.getElem?_map, h, Option.map_some] at hat
  obtain ⟨place, hplace, hsome⟩ := Option.map_eq_some_iff.mp hat.symm
  exact ⟨place, hplace, hsome⟩

theorem perm_running (tasks : List Task) :
    (running tasks).Perm (List.finRange tasks.length) := by
  have hall : (List.range (ranking tasks).length).map (fun place => (standing tasks)[place]?) =
      (standing tasks).map some := by
    rw [ranking_eq_map, List.length_map]
    refine List.ext_getElem (by simp) fun place hplace _ => ?_
    rw [List.length_map, List.length_range] at hplace
    simp [List.getElem?_eq_getElem hplace]
  have hplaces : (places tasks).Perm (List.range (ranking tasks).length) := perm_places
  have hperm := hplaces.map fun place => (standing tasks)[place]?
  rw [hall, ← map_some_running] at hperm
  exact ((List.map_perm_map_iff (Option.some_injective _)).mp hperm).trans (perm_standing tasks)

theorem inOrder_eq_map (tasks : List Task) :
    inOrder tasks = (running tasks).map fun a => resolve tasks tasks[a] := by
  show (places tasks).filterMap (fun place => (ranking tasks)[place]?) = _
  rw [running, List.map_filterMap]
  refine List.filterMap_congr fun place _ => ?_
  rw [ranking_eq_map, List.getElem?_map]

/-- If a task runs before one that ranks higher, the search came to it from a place that is not
below the higher one. -/
theorem exists_top {k l : Nat} (hlt : k < l) (ha : (running tasks)[k]? = some a)
    (hb : (running tasks)[l]? = some b) (hhigher : Outranks tasks b a) :
    ∃ top, (top = b ∨ Outranks tasks top b) ∧ Relation.TransGen (Needs tasks) top a := by
  obtain ⟨p, hp, hlow⟩ := exists_place_of_running ha
  obtain ⟨q, hq, hhigh⟩ := exists_place_of_running hb
  obtain ⟨root, hleads, habove⟩ := Traversal.exists_root (lt_of_mem_dependencies _) hp
  have hqp : q < p := by
    rcases Nat.lt_trichotomy q p with hqp | rfl | hpq
    · exact hqp
    · obtain rfl := Option.some.inj (hlow.symm.trans hhigh)
      exact absurd hhigher hhigher.not_symm
    · exact absurd hhigher (outranks_of_lt hlow hhigh hpq).not_symm
  -- The higher one has not been left yet, so it is not above the root.
  have hroot : root ≤ q := by
    refine Nat.le_of_not_lt fun hq_lt => ?_
    obtain ⟨j, hj, hat⟩ := List.mem_take_iff_getElem.mp (habove q hq_lt)
    have hjl : j < l := Nat.lt_trans (Nat.lt_of_lt_of_le hj (Nat.min_le_left _ _)) hlt
    obtain ⟨hl, hlast⟩ := List.getElem?_eq_some_iff.mp hq
    have hnodup : (places tasks).Nodup := perm_places.nodup_iff.mpr List.nodup_range
    exact Nat.ne_of_lt hjl ((hnodup.getElem_inj_iff).mp (hat.trans hlast.symm))
  rw [Traversal.Leads, depends_dependencies] at hleads
  rcases Relation.reflTransGen_iff_eq_or_transGen.mp hleads with rfl | hwalk
  · exact absurd hroot (Nat.not_le_of_lt hqp)
  · obtain ⟨second, hfirst, -⟩ := Relation.TransGen.head'_iff.mp hwalk
    obtain ⟨top, htop⟩ := exists_standing (lt_of_requires hfirst).1
    refine ⟨top, ?_, transGen_needs htop hlow hwalk⟩
    rcases Nat.lt_or_eq_of_le hroot with habove | rfl
    · exact Or.inr (outranks_of_lt htop hhigh habove)
    · exact Or.inl (Option.some.inj (htop.symm.trans hhigh))

/-- **Nothing is lost, and only a dependency goes before rank.** The tasks are run in some order of
their places in the list, each place once. Each is unchanged but that it keeps, in their order, only
those dependencies that some task of the list bears. If a task runs before one that ranks higher,
then the higher one, or one that ranks above it, depends on it step by step. -/
theorem inOrder_by_precedence (tasks : List Task) :
    ∃ order : List (Fin tasks.length),
      order.Perm (List.finRange tasks.length) ∧
      inOrder tasks = order.map (fun place =>
        { tasks[place] with
          dependsOn := tasks[place].dependsOn.filter fun id => ∃ task ∈ tasks, task.id = id }) ∧
      order.Pairwise fun earlier later => Outranks tasks later earlier →
        ∃ top, (top = later ∨ Outranks tasks top later) ∧
          Relation.TransGen (Needs tasks) top earlier := by
  refine ⟨running tasks, perm_running tasks, ?_, ?_⟩
  · rw [inOrder_eq_map]
    refine List.map_congr_left fun place _ => ?_
    simp only [resolve, List.any_eq, decide_eq_true_eq]
  · exact List.pairwise_iff_getElem.mpr fun k l hk hl hlt =>
      exists_top hlt (List.getElem?_eq_getElem hk) (List.getElem?_eq_getElem hl)

end Task

end StoryDirector
