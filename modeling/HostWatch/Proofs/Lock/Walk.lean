/-
**Walks in the wait-for graph.**

Whether a thread lies on a cycle can be told by following the edges for as many steps as there are edges.
That is enough: a walk that comes back to its start at all comes back within that many steps, since a longer
one passes some thread twice and can be cut short there.

* `walk`: the thread that a walk of a given length comes to, if the edges lead that far.
* `onCycle_iff`: **so many steps are enough.** A thread is on a cycle when some walk of at least one step
  leads back to it, however long.
* `onCycle_of_next?`: a cycle is closed under its edges.
* `onCycle_congr`: a cycle is found again in any other graph that agrees with the first one on it.
-/

import HostWatch.Lock.WaitGraph

namespace HostWatch.WaitGraph

/-- The thread to which a walk of some steps comes. -/
def walk (edges : Edges) : Nat → Int → Option Int
  | 0, thread => some thread
  | steps + 1, thread => (next? edges thread).bind (walk edges steps)

/-- Whether a walk comes to a goal within a number of steps, at least one. -/
def reaches (edges : Edges) (goal : Int) : Nat → Int → Bool
  | 0, _ => false
  | steps + 1, thread =>
    match next? edges thread with
    | none => false
    | some next => next = goal || reaches edges goal steps next

/-- Whether a walk from a thread comes back to it within as many steps as there are edges. -/
def onCycle (edges : Edges) (thread : Int) : Bool := reaches edges thread edges.length thread

variable {edges : Edges}

theorem walk_add (first second : Nat) (thread : Int) :
    walk edges (first + second) thread = (walk edges first thread).bind (walk edges second) := by
  induction first generalizing thread with
  | zero => rw [Nat.zero_add]; rfl
  | succ first ih =>
    rw [Nat.add_right_comm]
    show (next? edges thread).bind (walk edges (first + second)) =
      ((next? edges thread).bind (walk edges first)).bind (walk edges second)
    rw [Option.bind_assoc]
    congr 1
    funext next
    exact ih next

theorem walk_one (thread : Int) : walk edges 1 thread = next? edges thread := by
  show (next? edges thread).bind some = _
  rw [Option.bind_fun_some]

/-- A walk that goes on is where an edge starts. -/
theorem mem_keys_of_walk {steps : Nat} {thread here goal : Int} (came : walk edges steps thread = some here)
    {more : Nat} (goes : walk edges (steps + (more + 1)) thread = some goal) :
    here ∈ edges.map Prod.fst := by
  rw [walk_add, came, Option.bind_some] at goes
  obtain ⟨next, edge, _⟩ := Option.bind_eq_some_iff.1 goes
  exact mem_keys_of_next? edge

/-- Within a number of steps lie the walks of at most that length. -/
theorem reaches_iff (goal : Int) (limit : Nat) (thread : Int) :
    reaches edges goal limit thread = true ↔
      ∃ steps < limit, walk edges (steps + 1) thread = some goal := by
  induction limit generalizing thread with
  | zero => simp [reaches]
  | succ limit ih =>
    unfold reaches
    cases edge : next? edges thread with
    | none => simp [walk, edge]
    | some next =>
      simp only [Bool.or_eq_true, decide_eq_true_eq, ih]
      constructor
      · rintro (here | ⟨steps, below, later⟩)
        · exact ⟨0, Nat.succ_pos limit, by rw [walk_one, edge, here]⟩
        · exact ⟨steps + 1, Nat.succ_lt_succ below, by rw [walk, edge, Option.bind_some, later]⟩
      · rintro ⟨steps, below, later⟩
        rw [walk, edge, Option.bind_some] at later
        cases steps with
        | zero => exact Or.inl (Option.some.inj later)
        | succ steps => exact Or.inr ⟨steps, Nat.lt_of_succ_lt_succ below, later⟩

/-- A walk in a circle that is longer than there are edges passes some thread twice. -/
theorem exists_walk_eq {steps : Nat} {thread : Int}
    (back : walk edges (steps + 1) thread = some thread) (long : edges.length ≤ steps) :
    ∃ first second, first < second ∧ second ≤ steps ∧
      walk edges first thread = walk edges second thread := by
  by_cases twice : ∃ first second, first < second ∧ second ≤ steps ∧
      walk edges first thread = walk edges second thread
  · exact twice
  exfalso
  let passed := (List.range (steps + 1)).map fun count => walk edges count thread
  have distinct : passed.Nodup := by
    refine List.pairwise_map.2 ?_
    refine List.pairwise_lt_range.imp_of_mem fun {first second} _ member less same => ?_
    exact twice ⟨first, second, less, Nat.le_of_lt_succ (List.mem_range.1 member), same⟩
  have starts : passed ⊆ (edges.map Prod.fst).map some := by
    intro here member
    obtain ⟨count, below, rfl⟩ := List.mem_map.1 member
    have below := List.mem_range.1 below
    have split : count + (steps - count + 1) = steps + 1 := by omega
    have goes : walk edges (count + (steps - count + 1)) thread = some thread := by rw [split, back]
    cases came : walk edges count thread with
    | none =>
      rw [walk_add, came] at goes
      cases goes
    | some here => exact List.mem_map.2 ⟨here, mem_keys_of_walk came goes, rfl⟩
  have few := distinct.length_le_of_subset starts
  simp only [passed, List.length_map, List.length_range] at few
  omega

/-- **A walk in a circle can be cut short** to as many steps as there are edges. -/
theorem exists_short_walk {steps : Nat} {thread : Int}
    (back : walk edges (steps + 1) thread = some thread) :
    ∃ count < edges.length, walk edges (count + 1) thread = some thread := by
  -- strong induction on the length; what lies between two visits of one thread is left out
  induction steps using Nat.strongRecOn with
  | ind steps ih =>
    by_cases short : steps < edges.length
    · exact ⟨steps, short, back⟩
    · obtain ⟨first, second, less, below, same⟩ := exists_walk_eq back (Nat.le_of_not_lt short)
      have cut : walk edges (first + (steps - second) + 1) thread = some thread := by
        rw [Nat.add_assoc, walk_add, same, ← walk_add]
        rwa [show second + (steps - second + 1) = steps + 1 by omega]
      exact ih _ (by omega) cut

/-- **So many steps are enough** to tell whether a thread lies on a cycle. -/
theorem onCycle_iff (thread : Int) :
    onCycle edges thread = true ↔ ∃ steps, walk edges (steps + 1) thread = some thread := by
  unfold onCycle
  rw [reaches_iff]
  constructor
  · rintro ⟨steps, _, back⟩
    exact ⟨steps, back⟩
  · rintro ⟨steps, back⟩
    exact exists_short_walk back

/-- The thread for which a thread on a cycle waits is on that cycle, too. -/
theorem onCycle_of_next? {thread next : Int} (cycle : onCycle edges thread = true)
    (edge : next? edges thread = some next) : onCycle edges next = true := by
  obtain ⟨steps, back⟩ := (onCycle_iff thread).1 cycle
  rw [walk, edge, Option.bind_some] at back
  refine (onCycle_iff next).2 ⟨steps, ?_⟩
  rw [walk_add, back, Option.bind_some, walk_one, edge]

theorem exists_next?_of_onCycle {thread : Int} (cycle : onCycle edges thread = true) :
    ∃ next, next? edges thread = some next := by
  obtain ⟨steps, back⟩ := (onCycle_iff thread).1 cycle
  obtain ⟨next, edge, _⟩ := Option.bind_eq_some_iff.1 back
  exact ⟨next, edge⟩

/-- **Cycles persist** in every graph in which the threads on them have the edges that they had. -/
theorem onCycle_congr {later : Edges}
    (same : ∀ thread, onCycle edges thread = true → next? later thread = next? edges thread)
    {thread : Int} (cycle : onCycle edges thread = true) : onCycle later thread = true := by
  have walks : ∀ steps here, onCycle edges here = true →
      walk later steps here = walk edges steps here := by
    intro steps
    induction steps with
    | zero => exact fun _ _ => rfl
    | succ steps ih =>
      intro here cycle
      obtain ⟨next, edge⟩ := exists_next?_of_onCycle cycle
      rw [walk, walk, same here cycle, edge]
      exact ih next (onCycle_of_next? cycle edge)
  obtain ⟨steps, back⟩ := (onCycle_iff thread).1 cycle
  exact (onCycle_iff thread).2 ⟨steps, by rw [walks _ _ cycle, back]⟩

end HostWatch.WaitGraph
