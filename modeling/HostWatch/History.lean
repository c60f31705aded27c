/-
**Histories of bounded length.**

A history keeps the newest items up to its capacity. The type guarantees that the capacity is at least
one and that it is never exceeded.

* `History.of?` makes an empty history and refuses a capacity below one.
* `History.add` adds an item, for which the oldest one makes room; `items_add` says that the newest ones of
  all items are then kept.
* `newest_newest_append` says that the newest items of a list need not be taken from all of it.
-/
import HostWatch.Failure

namespace HostWatch

/-- A history of at most `capacity` items, the oldest one first. -/
structure History (α : Type) where
  /-- How many items are kept. -/
  capacity : Nat
  /-- The items, the oldest one first. -/
  items : List α
  one_le_capacity : 1 ≤ capacity
  length_le : items.length ≤ capacity

namespace History

variable {α : Type}

def ofCapacity (capacity : Nat) (one_le : 1 ≤ capacity) : History α :=
  ⟨capacity, [], one_le, Nat.zero_le _⟩

/-- The empty history of a capacity, which has to be at least one. -/
def of? (capacity : Int) : Except Failure (History α) :=
  if h : 1 ≤ capacity then .ok (ofCapacity capacity.toNat (by omega))
  else .error (.noCapacity capacity)

/-- The items that stay when one more comes: once there are as many as the capacity, the oldest ones make
room for it. -/
def makeRoom (capacity : Nat) (items : List α) : List α :=
  if capacity ≤ items.length then items.drop (items.length - capacity + 1) else items

/-- The history with one more item. -/
def add (history : History α) (item : α) : History α where
  capacity := history.capacity
  items := makeRoom history.capacity history.items ++ [item]
  one_le_capacity := history.one_le_capacity
  length_le := by
    have := history.one_le_capacity
    simp only [makeRoom, List.length_append, List.length_singleton]
    split
    · rw [List.length_drop]
      omega
    · omega

def clear (history : History α) : History α :=
  ofCapacity history.capacity history.one_le_capacity

/-- The item that was added last. -/
def newest? (history : History α) : Option α := history.items.getLast?

def size (history : History α) : Nat := history.items.length

theorem newest?_add (history : History α) (item : α) : (history.add item).newest? = some item :=
  List.getLast?_concat

/-! ### The newest items of a list -/

/-- The newest items of a list, up to a number of them. -/
def newest (count : Nat) (items : List α) : List α :=
  items.drop (items.length - count)

/-- With room made for it, one more item is the last of the newest ones. -/
theorem makeRoom_append {capacity : Nat} (one_le : 1 ≤ capacity) (items : List α) (item : α) :
    makeRoom capacity items ++ [item] = newest capacity (items ++ [item]) := by
  simp only [makeRoom, newest, List.length_append, List.length_singleton]
  by_cases full : capacity ≤ items.length
  · rw [if_pos full, List.drop_append_of_le_length (by omega)]
    congr 2
    omega
  · rw [if_neg full, Nat.sub_eq_zero_of_le (by omega), List.drop_zero]

theorem items_add (history : History α) (item : α) :
    (history.add item).items = newest history.capacity (history.items ++ [item]) :=
  makeRoom_append history.one_le_capacity history.items item

/-- A list of at most that many items is all newest. -/
theorem newest_eq_self {count : Nat} {items : List α} (few : items.length ≤ count) :
    newest count items = items := by
  unfold newest
  rw [Nat.sub_eq_zero_of_le few, List.drop_zero]

/-- What fell out before more items came is not among the newest afterwards. -/
theorem newest_newest_append (count : Nat) (items more : List α) :
    newest count (newest count items ++ more) = newest count (items ++ more) := by
  unfold newest
  rw [← List.drop_append_of_le_length (Nat.sub_le ..), List.drop_drop, List.length_drop]
  congr 1
  simp only [List.length_append]
  omega

theorem length_newest (count : Nat) (items : List α) : (newest count items).length = min items.length count := by
  unfold newest
  rw [List.length_drop]
  omega

theorem getLast?_newest {count : Nat} (one_le : 1 ≤ count) (items : List α) :
    (newest count items).getLast? = items.getLast? := by
  unfold newest
  rw [List.getLast?_drop]
  split
  · have : items = [] := List.eq_nil_of_length_eq_zero (by omega)
    rw [this]
    rfl
  · rfl

end History

end HostWatch
