import StoryDirector.Proofs.Plan.Traversal
import Mathlib.Data.List.Chain
/-!
# StoryDirector.Proofs.Plan.Dependencies

What the tasks of a plan require, and the order in which they are run. **A task runs before one that
it requires only on a cycle, and on every cycle one does.**

A task requires, for each identity it depends on, the first task of the ranking that bears it
(`Task.Requires`). Two facts about the order carry the result:

* what a task requires runs before it or leads back to it (`required_before_or_leads`);
* a task that is not the first to bear its identity runs after the one that is
  (`firstBearer_before`), since nothing requires it and the search comes to it by its rank.

By the second, an identity is borne by a task that ran before exactly if its first bearer did, so it
does not matter that a run asks for any task with the identity.
-/

namespace StoryDirector

/-- A list around one of its elements. -/
theorem eq_append_of_getElem? {α : Type} {l : List α} {k : Nat} {a : α} (h : l[k]? = some a) :
    l = l.take k ++ a :: l.drop (k + 1) := by
  obtain ⟨hk, rfl⟩ := List.getElem?_eq_some_iff.mp h
  rw [← List.drop_eq_getElem_cons hk, List.take_append_drop]

namespace Task

/-! ### Requirements -/

/-- The task at a place bears an identity. -/
def Bears (tasks : List Task) (id : String) (place : Nat) : Prop :=
  ∃ task, tasks[place]? = some task ∧ task.id = id

/-- The task at a place is the first to bear an identity. -/
def FirstBearer (tasks : List Task) (id : String) (place : Nat) : Prop :=
  Bears tasks id place ∧ ∀ earlier < place, ¬ Bears tasks id earlier

/-- The task at a place depends on an identity that the one at another place is the first to bear.
-/
def Requires (tasks : List Task) (place other : Nat) : Prop :=
  ∃ task, tasks[place]? = some task ∧ ∃ id ∈ task.dependsOn, FirstBearer tasks id other

/-- A walk along a relation that comes back to where it began. -/
def IsCycle (relation : Nat → Nat → Prop) (walk : List Nat) : Prop :=
  ∃ first, walk.head? = some first ∧ List.IsChain relation (walk ++ [first])

variable {tasks : List Task} {id : String} {place other : Nat}

theorem findIdx?_eq_some_iff_firstBearer :
    tasks.findIdx? (·.id = id) = some place ↔ FirstBearer tasks id place := by
  have hbears : ∀ (place : Nat) (hplace : place < tasks.length),
      Bears tasks id place ↔ tasks[place].id = id := by
    intro place hplace
    simp [Bears, List.getElem?_eq_getElem hplace]
  rw [List.findIdx?_eq_some_iff_getElem]
  simp only [decide_eq_true_eq]
  constructor
  · rintro ⟨hplace, hid, hnone⟩
    refine ⟨(hbears place hplace).mpr hid, fun earlier hearlier hbearer => ?_⟩
    exact hnone earlier hearlier ((hbears earlier (Nat.lt_trans hearlier hplace)).mp hbearer)
  · rintro ⟨hbearer, hnone⟩
    have hplace : place < tasks.length := by
      obtain ⟨task, htask, -⟩ := hbearer
      exact (List.getElem?_eq_some_iff.mp htask).1
    refine ⟨hplace, (hbears place hplace).mp hbearer, fun earlier hearlier hid => ?_⟩
    exact hnone earlier hearlier ((hbears earlier (Nat.lt_trans hearlier hplace)).mpr hid)

/-- What someone bears, someone is the first to bear. -/
theorem Bears.exists_first (h : Bears tasks id place) : ∃ first, FirstBearer tasks id first := by
  cases hfind : tasks.findIdx? (·.id = id) with
  | some first => exact ⟨first, findIdx?_eq_some_iff_firstBearer.mp hfind⟩
  | none =>
      obtain ⟨task, htask, hid⟩ := h
      have hnone := List.findIdx?_eq_none_iff.mp hfind task (List.mem_of_getElem? htask)
      simp [hid] at hnone

theorem mem_dependencies_iff : other ∈ dependencies tasks place ↔ Requires tasks place other := by
  unfold dependencies Requires
  cases htask : tasks[place]? with
  | none => simp
  | some task => simp [List.mem_filterMap, findIdx?_eq_some_iff_firstBearer]

theorem depends_dependencies : Traversal.Depends (dependencies tasks) = Requires tasks := by
  funext place other
  exact propext mem_dependencies_iff

theorem lt_of_requires (h : Requires tasks place other) :
    place < tasks.length ∧ other < tasks.length := by
  obtain ⟨task, htask, id, -, ⟨needed, hneeded, -⟩, -⟩ := h
  exact ⟨(List.getElem?_eq_some_iff.mp htask).1, (List.getElem?_eq_some_iff.mp hneeded).1⟩

theorem lt_of_mem_dependencies (tasks : List Task) :
    ∀ place < tasks.length, ∀ other ∈ dependencies tasks place, other < tasks.length :=
  fun _ _ _ hother => (lt_of_requires (mem_dependencies_iff.mp hother)).2

/-- Nothing requires a task whose identity an earlier one bears. -/
theorem not_requires_of_bears {first : Nat} (hbears : Bears tasks id place)
    (hfirst : Bears tasks id first) (hlt : first < place) (dependent : Nat) :
    ¬ Requires tasks dependent place := by
  rintro ⟨-, -, asked, -, ⟨task, htask, rfl⟩, hnone⟩
  obtain ⟨other, hother, rfl⟩ := hbears
  obtain rfl := Option.some.inj (htask.symm.trans hother)
  exact hnone first hlt hfirst

/-! ### Cycles -/

section Cycles

variable {relation : Nat → Nat → Prop} {walk : List Nat}

/-- Each place of a cycle is followed by one of the cycle. -/
theorem IsCycle.exists_next (h : IsCycle relation walk) (hplace : place ∈ walk) :
    ∃ next ∈ walk, relation place next := by
  obtain ⟨first, hfirst, hchain⟩ := h
  have hmem : first ∈ walk := List.mem_of_mem_head? hfirst
  obtain ⟨before, after, rfl⟩ := List.append_of_mem hplace
  cases after with
  | nil =>
      -- The last place is followed by the first.
      rw [List.append_assoc, List.singleton_append, List.isChain_append_cons_cons] at hchain
      exact ⟨first, hmem, hchain.2.1⟩
  | cons next rest =>
      rw [List.append_assoc, List.cons_append, List.cons_append,
        List.isChain_append_cons_cons] at hchain
      exact ⟨next, by simp, hchain.2.1⟩

/-- What leads back to where it came from is a cycle. -/
theorem exists_isCycle (h : relation place other)
    (hback : Relation.ReflTransGen relation other place) :
    ∃ walk, IsCycle relation walk ∧ place ∈ walk := by
  obtain ⟨way, hway, hlast⟩ := List.exists_isChain_cons_of_relationReflTransGen hback
  refine ⟨place :: (other :: way).dropLast, ⟨place, rfl, ?_⟩, List.mem_cons_self⟩
  have hround : (other :: way).dropLast ++ [place] = other :: way := by
    rw [← hlast, List.dropLast_append_getLast]
  rw [List.cons_append, hround]
  exact List.isChain_cons_cons.mpr ⟨h, hway⟩

end Cycles

/-! ### The ranking -/

/-- The tasks of a list by falling priority, equal ones in their order. -/
structure IsRanking (tasks ranking : List Task) : Prop where
  /-- They are the same tasks. -/
  perm : ranking.Perm tasks
  /-- No task ranks below one of lower priority. -/
  falling : ranking.Pairwise fun a b => b.priority ≤ a.priority
  /-- Those of one priority keep their order. -/
  stable : ∀ priority, ranking.filter (·.priority = priority) =
    tasks.filter (·.priority = priority)

theorem ranksBefore_trans (a b c : Task) (hab : ranksBefore a b = true)
    (hbc : ranksBefore b c = true) : ranksBefore a c = true := by
  simp only [ranksBefore, decide_eq_true_eq] at hab hbc ⊢
  omega

theorem ranksBefore_total (a b : Task) : (ranksBefore a b || ranksBefore b a) = true := by
  simp only [ranksBefore, Bool.or_eq_true, decide_eq_true_eq]
  omega

/-- Sorting leaves those in their order of which none has to stand before another. -/
theorem filter_mergeSort {α : Type} {le : α → α → Bool} (htrans : ∀ a b c, le a b = true →
    le b c = true → le a c = true) (htotal : ∀ a b, (le a b || le b a) = true) (p : α → Bool)
    (htied : ∀ a b, p a = true → p b = true → le a b = true) (l : List α) :
    (l.mergeSort le).filter p = l.filter p := by
  have hperm : ((l.mergeSort le).filter p).Perm (l.filter p) := (List.mergeSort_perm l le).filter p
  -- They are sorted as they stand, and sorting keeps what is sorted in order.
  have hkept : (l.filter p).Sublist (l.mergeSort le) := by
    refine List.sublist_mergeSort htrans htotal ?_ List.filter_sublist
    exact List.pairwise_of_forall_mem_list fun a ha b hb =>
      htied a b (List.mem_filter.mp ha).2 (List.mem_filter.mp hb).2
  have hfiltered := hkept.filter p
  rw [List.filter_filter] at hfiltered
  simp only [Bool.and_self] at hfiltered
  exact (hfiltered.eq_of_length hperm.length_eq.symm).symm

theorem isRanking_ranked (tasks : List Task) : IsRanking tasks (ranked tasks) where
  perm := List.mergeSort_perm _ _
  falling := by
    have hsorted : (ranked tasks).Pairwise fun a b => ranksBefore a b = true :=
      List.pairwise_mergeSort ranksBefore_trans ranksBefore_total tasks
    exact hsorted.imp of_decide_eq_true
  stable := by
    intro priority
    refine filter_mergeSort ranksBefore_trans ranksBefore_total _ (fun a b ha hb => ?_) tasks
    rw [ranksBefore, decide_eq_true_iff]
    exact Int.le_of_eq ((of_decide_eq_true hb).trans (of_decide_eq_true ha).symm)

/-! ### The order -/

/-- The tasks as they are ranked, with only those dependencies that some task of the list bears. -/
def ranking (tasks : List Task) : List Task :=
  ranked (tasks.map (resolve tasks))

/-- The places of the ranking in the order in which they are run. -/
def places (tasks : List Task) : List Nat :=
  Traversal.order (dependencies (ranking tasks)) (ranking tasks).length

variable {k : Nat}

/-- Whatever a task of the ranking depends on, some task of the ranking bears. -/
theorem exists_bears {task : Task} (htask : task ∈ ranking tasks) (hid : id ∈ task.dependsOn) :
    ∃ place, Bears (ranking tasks) id place := by
  have hperm : (ranking tasks).Perm (tasks.map (resolve tasks)) := (isRanking_ranked _).perm
  obtain ⟨given, -, rfl⟩ := List.mem_map.mp (hperm.mem_iff.mp htask)
  obtain ⟨bearer, hbearer, hbears⟩ := List.any_eq_true.mp (List.mem_filter.mp hid).2
  have hin : resolve tasks bearer ∈ ranking tasks :=
    hperm.mem_iff.mpr (List.mem_map.mpr ⟨bearer, hbearer, rfl⟩)
  obtain ⟨place, hplace⟩ := List.mem_iff_getElem?.mp hin
  exact ⟨place, resolve tasks bearer, hplace, of_decide_eq_true hbears⟩

theorem mem_places : place ∈ places tasks ↔ place < (ranking tasks).length :=
  Traversal.mem_order (lt_of_mem_dependencies _)

/-- Every task of the ranking is run once. -/
theorem perm_places : (places tasks).Perm (List.range (ranking tasks).length) :=
  Traversal.perm_order (lt_of_mem_dependencies _)

theorem map_some_inOrder :
    (inOrder tasks).map some = (places tasks).map fun place => (ranking tasks)[place]? := by
  have hsome : ∀ task ∈ (places tasks).map fun place => (ranking tasks)[place]?,
      task.isSome = true := by
    intro task htask
    obtain ⟨place, hplace, rfl⟩ := List.mem_map.mp htask
    rw [List.getElem?_eq_getElem (mem_places.mp hplace)]
    rfl
  exact List.map_filterMap_some_eq_filter_map_isSome.trans (List.filter_eq_self.mpr hsome)

/-- What a task requires runs before it or leads back to it. -/
theorem required_before_or_leads (hplace : (places tasks)[k]? = some place)
    (hrequires : Requires (ranking tasks) place other) :
    other ∈ (places tasks).take k ∨
      Relation.ReflTransGen (Requires (ranking tasks)) other place := by
  rw [← depends_dependencies]
  exact Traversal.settled_order (lt_of_mem_dependencies _) _ _ _ (eq_append_of_getElem? hplace)
    other (mem_dependencies_iff.mpr hrequires)

/-- A task that bears an identity runs after the first one to bear it, or is that one. -/
theorem firstBearer_before {first : Nat} (hfirst : FirstBearer (ranking tasks) id first)
    (hplace : place ∈ (places tasks).take k) (hbears : Bears (ranking tasks) id place) :
    first ∈ (places tasks).take k := by
  rcases Nat.lt_trichotomy first place with hlt | rfl | hgt
  · -- Nothing requires the later one, so the search comes to it after all that rank higher.
    obtain ⟨j, hj, hat⟩ := List.mem_take_iff_getElem.mp hplace
    have hjk : j ≤ k := Nat.le_of_lt (Nat.lt_of_lt_of_le hj (Nat.min_le_left _ _))
    have hsplit := eq_append_of_getElem? (List.getElem?_eq_some_iff.mpr ⟨_, hat⟩)
    have hnothing : ∀ dependent, place ∉ dependencies (ranking tasks) dependent :=
      fun dependent hin =>
        not_requires_of_bears hbears hfirst.1 hlt dependent (mem_dependencies_iff.mp hin)
    exact List.take_subset_take_left _ hjk
      (Traversal.smaller_before_head (lt_of_mem_dependencies _) hsplit hnothing hlt)
  · exact hplace
  · exact absurd hbears (hfirst.2 place hgt)

/-! ### Cycles in the order -/

/-- The task at a place runs before one that it requires. -/
def Early (tasks : List Task) (place : Nat) : Prop :=
  ∃ k, (places tasks)[k]? = some place ∧
    ∃ other, Requires (ranking tasks) place other ∧ other ∉ (places tasks).take k

/-- Only a task of a cycle runs early. -/
theorem Early.exists_isCycle (h : Early tasks place) :
    ∃ walk, IsCycle (Requires (ranking tasks)) walk ∧ place ∈ walk := by
  obtain ⟨k, hplace, other, hrequires, hlate⟩ := h
  exact Task.exists_isCycle hrequires
    ((required_before_or_leads hplace hrequires).resolve_left hlate)

/-- The first task of a cycle that is run runs early: the next one of the cycle has not been run. -/
theorem IsCycle.exists_early {walk : List Nat} (h : IsCycle (Requires (ranking tasks)) walk) :
    ∃ place ∈ walk, Early tasks place := by
  have hsome : ∃ place ∈ places tasks, place ∈ walk := by
    have ⟨first, hfirst, _⟩ := h
    have hin : first ∈ walk := List.mem_of_mem_head? hfirst
    obtain ⟨next, -, hrequires⟩ := h.exists_next hin
    exact ⟨first, mem_places.mpr (lt_of_requires hrequires).1, hin⟩
  cases hfind : (places tasks).find? (· ∈ walk) with
  | none =>
      obtain ⟨place, hplace, hin⟩ := hsome
      simpa [hin] using List.find?_eq_none.mp hfind place hplace
  | some place =>
      obtain ⟨hin, before, after, hsplit, hbefore⟩ := List.find?_eq_some_iff_append.mp hfind
      obtain ⟨next, hnext, hrequires⟩ := h.exists_next (of_decide_eq_true hin)
      refine ⟨place, of_decide_eq_true hin, before.length, ?_, next, hrequires, ?_⟩
      · simp [hsplit]
      · intro hrun
        rw [hsplit, List.take_left] at hrun
        simpa [hnext] using hbefore next hrun

end Task

end StoryDirector
