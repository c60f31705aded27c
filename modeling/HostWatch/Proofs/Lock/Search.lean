/-
**The search for cycles.**

The search walks from every thread that waits and keeps the circles that it runs into. Each walk depends on
those before it, since it ends at the threads that they found. That loses nothing: what is known is made of
whole cycles, so that a walk from a thread on a cycle comes to a known thread only when its own thread is known.

* `Leads`: some walk of at least one step leads from a thread to another one.
* `Found`: what a walk finds. It is new, it is closed under the edges, each thread in it lies on a cycle, and
  each thread of the walk that lies on a cycle is in it or known before.
* `found_circleFrom`: **the invariant of a walk**, by induction on the threads that it passes.
* `Settled.search`: **the invariant of the search**: what is known is made of whole cycles, and holds every
  thread on a cycle among those that a walk started from.
* `mem_members`: **the search finds the threads on cycles, and no others**; `members_ascending`: each of them
  once, in ascending order.
-/

import HostWatch.Proofs.Lock.Walk
import Mathlib.Data.List.Chain
import Mathlib.Logic.Relation

namespace HostWatch.WaitGraph

/-- A thread waits for another one. -/
def Edge (edges : Edges) (thread next : Int) : Prop := next? edges thread = some next

/-- Some walk of at least one step leads from a thread to another one. -/
abbrev Leads (edges : Edges) : Int → Int → Prop := Relation.TransGen (Edge edges)

variable {edges : Edges}

/-! ### Walks and cycles -/

theorem leads_iff_walk (thread goal : Int) :
    Leads edges thread goal ↔ ∃ steps, walk edges (steps + 1) thread = some goal := by
  constructor
  · intro leads
    induction leads with
    | single edge => exact ⟨0, by rw [walk_one]; exact edge⟩
    | tail _ edge ih =>
      obtain ⟨steps, came⟩ := ih
      exact ⟨steps + 1, by rw [walk_add, came, Option.bind_some, walk_one]; exact edge⟩
  · rintro ⟨steps, came⟩
    induction steps generalizing thread with
    | zero =>
      rw [Nat.zero_add, walk_one] at came
      exact .single came
    | succ steps ih =>
      obtain ⟨next, edge, came⟩ := Option.bind_eq_some_iff.1 came
      exact .head edge (ih next came)

theorem onCycle_iff_leads (thread : Int) : onCycle edges thread = true ↔ Leads edges thread thread := by
  rw [onCycle_iff, leads_iff_walk]

/-- A walk from a thread on a cycle stays on that cycle: it can be led back. -/
theorem leads_back {thread goal : Int} (cycle : Leads edges thread thread)
    (leads : Relation.ReflTransGen (Edge edges) thread goal) : Leads edges goal thread := by
  induction leads with
  | refl => exact cycle
  | tail _ edge ih =>
    obtain ⟨next, first, rest⟩ := Relation.TransGen.head'_iff.1 ih
    obtain rfl := Option.some.inj (first.symm.trans edge)
    exact Relation.TransGen.trans_right rest cycle

/-- Walks do not leave a set of threads that is closed under the edges. -/
theorem mem_of_leads {threads : List Int}
    (closed : ∀ thread ∈ threads, ∀ next, Edge edges thread next → next ∈ threads) {thread goal : Int}
    (inside : thread ∈ threads) (leads : Leads edges thread goal) : goal ∈ threads := by
  induction leads with
  | single edge => exact closed _ inside _ edge
  | tail _ edge ih => exact closed _ ih _ edge

/-! ### One walk -/

/-- **What a walk finds**, given what is known before and the threads that it passes. -/
structure Found (edges : Edges) (known passed found : List Int) : Prop where
  distinct : found.Nodup
  new : ∀ thread ∈ found, thread ∉ known
  closed : ∀ thread ∈ found, ∀ next, Edge edges thread next → next ∈ found
  cycle : ∀ thread ∈ found, Leads edges thread thread
  complete : ∀ thread ∈ passed, Leads edges thread thread → thread ∈ known ∨ thread ∈ found

/-- A walk that finds nothing has passed no thread on a cycle but known ones. -/
theorem Found.nothing {known passed : List Int}
    (complete : ∀ thread ∈ passed, Leads edges thread thread → thread ∈ known) :
    Found edges known passed [] :=
  ⟨.nil, nofun, nofun, nofun, fun thread inside cycle => .inl (complete thread inside cycle)⟩

theorem Found.of_subset {known passed more found : List Int} (all : Found edges known more found)
    (fewer : passed ⊆ more) : Found edges known passed found :=
  { all with complete := fun thread inside => all.complete thread (fewer inside) }

/-- Each thread that a walk passes is led to the thread where the walk is. -/
theorem leads_of_isChain {passed : List Int} {here : Int} (chain : (passed ++ [here]).IsChain (Edge edges)) :
    ∀ thread ∈ passed, Leads edges thread here := by
  have pairwise := (chain.imp fun _ _ edge => Relation.TransGen.single (r := Edge edges) edge).pairwise
  intro thread inside
  exact (List.pairwise_append.1 pairwise).2.2 thread inside here (List.mem_singleton_self here)

theorem comes_of_isChain {passed : List Int} {here : Int} (chain : (passed ++ [here]).IsChain (Edge edges)) :
    ∀ thread ∈ passed ++ [here], Relation.ReflTransGen (Edge edges) thread here := by
  intro thread inside
  rcases List.mem_append.1 inside with inside | inside
  · exact (leads_of_isChain chain thread inside).to_reflTransGen
  · rw [List.mem_singleton.1 inside]

/-- What a walk passed from a thread on, when it has come to that thread again. -/
theorem exists_circle {passed : List Int} {here : Int} (distinct : passed.Nodup) (again : here ∈ passed) :
    ∃ before rest, passed = before ++ here :: rest ∧ passed.dropWhile (· ≠ here) = here :: rest := by
  obtain ⟨before, rest, rfl⟩ := List.append_of_mem again
  refine ⟨before, rest, rfl, ?_⟩
  have other : ∀ thread ∈ before, thread ≠ here := by
    rintro thread inside rfl
    exact (List.nodup_append.1 distinct).2.2 thread inside thread List.mem_cons_self rfl
  rw [List.dropWhile_append_of_pos (by simpa using other)]
  simp

/-- **A walk that comes to a thread again** has passed a circle from that thread on. -/
theorem found_again {known passed : List Int} {here : Int} (chain : (passed ++ [here]).IsChain (Edge edges))
    (distinct : passed.Nodup) (new : ∀ thread ∈ passed, thread ∉ known) (again : here ∈ passed) :
    Found edges known (passed ++ [here]) (passed.dropWhile (· ≠ here)) := by
  have arrives := leads_of_isChain chain
  have comes := comes_of_isChain chain
  obtain ⟨before, rest, rfl, circle⟩ := exists_circle distinct again
  rw [circle]
  have round : (here :: rest ++ [here]).IsChain (Edge edges) := by
    rw [List.append_assoc] at chain
    exact (List.isChain_append.1 chain).2.1
  have part : ∀ thread ∈ here :: rest, thread ∈ before ++ here :: rest := fun thread inside =>
    List.mem_append_right before inside
  have closed : ∀ thread ∈ here :: rest, ∀ next, Edge edges thread next → next ∈ here :: rest := by
    intro thread inside next edge
    obtain ⟨left, right, split⟩ := List.append_of_mem inside
    rw [split, List.append_assoc, List.cons_append] at round
    -- behind each thread of the circle comes the one to which its only edge leads
    have onward := (List.isChain_append.1 round).2.1
    cases right with
    | nil =>
      obtain rfl := Option.some.inj (edge.symm.trans (List.isChain_cons_cons.1 onward).1)
      exact List.mem_cons_self
    | cons other right =>
      obtain rfl := Option.some.inj (edge.symm.trans (List.isChain_cons_cons.1 onward).1)
      rw [split]
      simp
  refine ⟨(List.nodup_append.1 distinct).2.1, fun thread inside => new thread (part thread inside), closed,
    fun thread inside => ?_, fun thread inside cycle => .inr ?_⟩
  · rcases List.mem_cons.1 inside with rfl | inside'
    · exact arrives thread again
    · have leaves := (round.imp fun _ _ edge => Relation.TransGen.single (r := Edge edges) edge).pairwise
      have from_here := (List.pairwise_cons.1 leaves).1 thread (List.mem_append_left _ inside')
      exact (arrives thread (part thread inside)).trans from_here
  · exact mem_of_leads closed List.mem_cons_self (leads_back cycle (comes thread inside))

/-- **The invariant of a walk**: the threads that it has passed are new and distinct, each has an edge to the
next one, and the last one to the thread where the walk is. -/
theorem found_circleFrom {known : List Int}
    (closed : ∀ thread ∈ known, ∀ next, Edge edges thread next → next ∈ known) (passed : List Int) (here : Int)
    (chain : (passed ++ [here]).IsChain (Edge edges)) (distinct : passed.Nodup)
    (new : ∀ thread ∈ passed, thread ∉ known) :
    Found edges known (passed ++ [here]) (circleFrom edges known passed here) := by
  fun_induction circleFrom edges known passed here with
  | case1 passed here again => exact found_again chain distinct new again
  | case2 passed here other settled =>
    refine .nothing fun thread inside cycle => ?_
    exact mem_of_leads closed settled (leads_back cycle (comes_of_isChain chain thread inside))
  | case3 passed here other unknown ends =>
    refine .nothing fun thread inside cycle => ?_
    obtain ⟨next, edge, -⟩ := Relation.TransGen.head'_iff.1
      (leads_back cycle (comes_of_isChain chain thread inside))
    cases ends.symm.trans edge
  | case4 passed here other unknown next edge ih =>
    refine (ih ?_ ?_ ?_).of_subset (List.subset_append_left _ _)
    · refine List.isChain_append.2 ⟨chain, .singleton next, ?_⟩
      simp only [List.getLast?_concat, List.head?_cons, Option.mem_some_iff]
      rintro _ rfl _ rfl
      exact edge
    · exact List.nodup_append.2 ⟨distinct, List.pairwise_singleton _ here, by
        rintro thread inside _ single rfl
        exact other (List.mem_singleton.1 single ▸ inside)⟩
    · intro thread inside
      rcases List.mem_append.1 inside with inside | inside
      · exact new thread inside
      · exact List.mem_singleton.1 inside ▸ unknown

/-! ### The whole search -/

/-- **The invariant of the search**: what is known is made of whole cycles, and holds every thread on a cycle
among those that a walk started from. -/
structure Settled (edges : Edges) (starts known : List Int) : Prop where
  distinct : known.Nodup
  closed : ∀ thread ∈ known, ∀ next, Edge edges thread next → next ∈ known
  cycle : ∀ thread ∈ known, Leads edges thread thread
  complete : ∀ thread ∈ starts, Leads edges thread thread → thread ∈ known

theorem settled_nil : Settled edges [] [] := ⟨.nil, nofun, nofun, nofun⟩

/-- **What one more walk adds** keeps the invariant. -/
theorem Settled.search {starts known : List Int} (settled : Settled edges starts known) (start : Int) :
    Settled edges (start :: starts) (search edges known start) := by
  have found : Found edges known [start] (circleFrom edges known [] start) :=
    found_circleFrom settled.closed [] start (.singleton start) .nil nofun
  unfold WaitGraph.search
  refine ⟨?_, fun thread inside next edge => ?_, fun thread inside => ?_, fun thread inside cycle => ?_⟩
  · refine List.nodup_append.2 ⟨settled.distinct, found.distinct, ?_⟩
    rintro thread known _ inside rfl
    exact found.new thread inside known
  · rcases List.mem_append.1 inside with inside | inside
    · exact List.mem_append_left _ (settled.closed thread inside next edge)
    · exact List.mem_append_right _ (found.closed thread inside next edge)
  · rcases List.mem_append.1 inside with inside | inside
    · exact settled.cycle thread inside
    · exact found.cycle thread inside
  · rw [List.mem_append]
    rcases List.mem_cons.1 inside with rfl | inside
    · exact found.complete thread List.mem_cons_self cycle
    · exact .inl (settled.complete thread inside cycle)

theorem Settled.foldl_search {starts known : List Int} (settled : Settled edges starts known)
    (more : List Int) : Settled edges (more.reverse ++ starts) (more.foldl (WaitGraph.search edges) known) := by
  induction more generalizing starts known with
  | nil => exact settled
  | cons start more ih =>
    rw [List.foldl_cons, List.reverse_cons, List.append_assoc]
    exact ih (settled.search start)

theorem settled_search (edges : Edges) :
    Settled edges (edges.map Prod.fst).reverse ((edges.map Prod.fst).foldl (WaitGraph.search edges) []) := by
  have settled := (@settled_nil edges).foldl_search (edges.map Prod.fst)
  rwa [List.append_nil] at settled

/-- **The search finds the threads on cycles, and no others.** -/
theorem mem_members (thread : Int) : thread ∈ members edges ↔ Leads edges thread thread := by
  unfold members
  rw [List.mem_mergeSort]
  refine ⟨(settled_search edges).cycle thread, fun cycle => (settled_search edges).complete thread ?_ cycle⟩
  obtain ⟨next, edge, -⟩ := Relation.TransGen.head'_iff.1 cycle
  exact List.mem_reverse.2 (mem_keys_of_next? edge)

/-- The threads on cycles are told in ascending order, each of them once. -/
theorem members_ascending : (members edges).Pairwise (· < ·) := by
  have ordered : (members edges).Pairwise fun a b => decide (a ≤ b) = true :=
    List.pairwise_mergeSort (by simpa using fun _ _ _ => Int.le_trans) (by simpa using Int.le_total) _
  have distinct : (members edges).Nodup := (List.mergeSort_perm _ _).nodup_iff.2 (settled_search edges).distinct
  refine (ordered.and distinct).imp fun {a b} both => ?_
  exact Int.lt_iff_le_and_ne.2 ⟨by simpa using both.1, both.2⟩

/-- The search finds the same threads as following the edges for as many steps as there are. -/
theorem mem_members_iff (thread : Int) : thread ∈ members edges ↔ onCycle edges thread = true := by
  rw [mem_members, onCycle_iff_leads]

end HostWatch.WaitGraph
