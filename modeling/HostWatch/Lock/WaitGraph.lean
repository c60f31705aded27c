/-
**The wait-for graph.**

An edge leads from a thread that waits for a lock to the thread that holds it. Each thread waits for at
most one lock, so a walk along the edges has no choice. A thread is deadlocked when its walk comes back
to it.

The search walks from every thread that waits, one after the other. A walk ends where no edge leads on,
where it comes to a thread that is known to be deadlocked, or where it comes to a thread that it has passed
already. Only in the last case it has found something: what it passed from that thread on is a circle.

* `circleFrom` is one walk, `search` takes it into what is known.
* `members` gives the threads on cycles, in ascending order.
-/

namespace HostWatch.WaitGraph

/-- The edges, each from a waiting thread to the holder of its lock. -/
abbrev Edges := List (Int × Int)

/-- The thread that another one waits for. -/
def next? (edges : Edges) (thread : Int) : Option Int := edges.lookup thread

/-- A thread with an edge is among those where edges start. -/
theorem mem_keys_of_next? {edges : Edges} {thread next : Int} (edge : next? edges thread = some next) :
    thread ∈ edges.map Prod.fst := by
  obtain ⟨before, after, split, _⟩ := List.lookup_eq_some_iff.1 edge
  rw [split]
  simp

/-- The edges that start at a thread which a walk has not passed. -/
def ahead (edges : Edges) (passed : List Int) : Edges :=
  edges.filter fun edge => edge.1 ∉ passed

/-- A walk that goes on leaves fewer edges ahead. -/
theorem length_ahead_lt {edges : Edges} {passed : List Int} {thread next : Int} (new : thread ∉ passed)
    (edge : next? edges thread = some next) :
    (ahead edges (passed ++ [thread])).length < (ahead edges passed).length := by
  obtain ⟨pair, member, rfl⟩ := List.mem_map.1 (mem_keys_of_next? edge)
  have fewer : ahead edges (passed ++ [pair.1]) =
      (ahead edges passed).filter fun other => other.1 ≠ pair.1 := by
    unfold ahead
    rw [List.filter_filter]
    congr 1
    funext other
    simp [and_comm]
  rw [fewer]
  refine List.length_filter_lt_length_iff_exists.2 ⟨pair, ?_, by simp⟩
  exact List.mem_filter.2 ⟨member, by simpa using new⟩

/-- The circle into which a walk runs that has passed some threads and comes to another one, unless it
ends before it runs into one or comes to a thread that is known to be deadlocked. -/
def circleFrom (edges : Edges) (known passed : List Int) (thread : Int) : List Int :=
  if thread ∈ passed then passed.dropWhile (· ≠ thread)
  else if thread ∈ known then []
  else match _ : next? edges thread with
    | none => []
    | some next => circleFrom edges known (passed ++ [thread]) next
termination_by (ahead edges passed).length
decreasing_by exact length_ahead_lt ‹thread ∉ passed› ‹next? edges thread = some _›

/-- The threads that are known to be deadlocked after a walk from one more thread. -/
def search (edges : Edges) (known : List Int) (start : Int) : List Int :=
  known ++ circleFrom edges known [] start

/-- The threads on cycles, in ascending order. -/
def members (edges : Edges) : List Int :=
  ((edges.map Prod.fst).foldl (search edges) []).mergeSort (· ≤ ·)

end HostWatch.WaitGraph
