/-
**A history that readers share.**

Items are added to a history, it is cleared, and readers get lists of its items. A list that a reader got is the
reader's own: what happens to the history leaves it alone, and what its reader does to it leaves the history alone.

* `HistoryEvent.added`, `HistoryEvent.sinceClear`: the items that a run adds, and those of them that it adds behind its
  last clearing.
* `HistoryScene.items_run`: **the history has the newest items since it was cleared**, by induction on the events.
* `HistoryScene.list_run`: **a list stays as it was read**, unless its own reader changes it.
* `HistoryScene.run_remembers`: what it comes to for every capacity of at least one.
-/

import HostWatch.History
import Mathlib.Data.List.DropRight

namespace HostWatch

/-! ### Events -/

/-- What can happen to a history that readers share. -/
inductive HistoryEvent (α : Type) where
  | add (item : α)
  | clear
  /-- A reader gets a list of the items. -/
  | read
  /-- The reader who got a list at some reading changes it. -/
  | revise (reading : Nat) (list : List α)

namespace HistoryEvent

variable {α : Type}

/-- The item that is added, if one is. -/
def added? : HistoryEvent α → Option α
  | add item => some item
  | _ => none

def isClear : HistoryEvent α → Bool
  | clear => true
  | _ => false

def isRead : HistoryEvent α → Bool
  | read => true
  | _ => false

/-- The items that are added in a run, the first one first. -/
def added (events : List (HistoryEvent α)) : List α := events.filterMap added?

/-- **The items that are added since the last clearing**, or from the beginning on when there is none. -/
def sinceClear (events : List (HistoryEvent α)) : List α := added (events.rtakeWhile fun event => !event.isClear)

/-- How often the history is read in a run. -/
def readings (events : List (HistoryEvent α)) : Nat := events.countP isRead

theorem sinceClear_concat (events : List (HistoryEvent α)) (event : HistoryEvent α) :
    sinceClear (events ++ [event]) =
      if event.isClear then [] else sinceClear events ++ event.added?.toList := by
  unfold sinceClear
  rw [List.rtakeWhile_concat]
  cases event with
  | clear => rfl
  | add item => exact List.filterMap_append
  | read => exact List.filterMap_append
  | revise reading list => exact List.filterMap_append

theorem sinceClear_suffix (events : List (HistoryEvent α)) : sinceClear events <:+ added events :=
  (List.rtakeWhile_suffix _ events).filterMap added?

end HistoryEvent

/-! ### Runs -/

/-- **A history with the lists that its readers got**, one for each reading in the order of the readings. -/
structure HistoryScene (α : Type) where
  history : History α
  lists : List (List α)

namespace HistoryScene

open HistoryEvent

variable {α : Type}

def of (history : History α) : HistoryScene α := ⟨history, []⟩

def happen (scene : HistoryScene α) : HistoryEvent α → HistoryScene α
  | .add item => { scene with history := scene.history.add item }
  | .clear => { scene with history := scene.history.clear }
  | .read => { scene with lists := scene.lists ++ [scene.history.items] }
  | .revise reading list => { scene with lists := scene.lists.set reading list }

def run (scene : HistoryScene α) (events : List (HistoryEvent α)) : HistoryScene α := events.foldl happen scene

@[simp] theorem run_nil (scene : HistoryScene α) : scene.run [] = scene := rfl

@[simp] theorem run_cons (scene : HistoryScene α) (first : HistoryEvent α) (rest : List (HistoryEvent α)) :
    scene.run (first :: rest) = (scene.happen first).run rest := rfl

theorem run_append (scene : HistoryScene α) (first second : List (HistoryEvent α)) :
    scene.run (first ++ second) = (scene.run first).run second :=
  List.foldl_append

/-! ### The items -/

theorem capacity_happen (scene : HistoryScene α) (event : HistoryEvent α) :
    (scene.happen event).history.capacity = scene.history.capacity := by
  cases event <;> rfl

theorem capacity_run (scene : HistoryScene α) (events : List (HistoryEvent α)) :
    (scene.run events).history.capacity = scene.history.capacity := by
  induction events generalizing scene with
  | nil => rfl
  | cons first rest ih => exact (ih _).trans (capacity_happen scene first)

/-- **What an event leaves in the history**: the newest of what was in it and what is added, or nothing. -/
theorem items_happen (scene : HistoryScene α) (event : HistoryEvent α) :
    (scene.happen event).history.items = History.newest scene.history.capacity
      (if event.isClear then [] else scene.history.items ++ event.added?.toList) := by
  have kept : scene.history.items = History.newest scene.history.capacity (scene.history.items ++ []) := by
    rw [List.append_nil, History.newest_eq_self scene.history.length_le]
  cases event with
  | add item => exact History.items_add scene.history item
  | clear => exact List.drop_nil.symm
  | read => exact kept
  | revise reading list => exact kept

/-- **The history has the newest of the items that were added since it was cleared.** -/
theorem items_run (capacity : Nat) (one_le : 1 ≤ capacity) (events : List (HistoryEvent α)) :
    ((of (History.ofCapacity capacity one_le)).run events).history.items =
      History.newest capacity (sinceClear events) := by
  induction events using List.reverseRecOn with
  | nil => exact List.drop_nil.symm
  | append_singleton events event ih =>
    rw [run_append, run_cons, run_nil, items_happen, capacity_run, ih, sinceClear_concat]
    split
    · rfl
    -- What fell out of the history before is not among the newest items afterwards.
    · exact History.newest_newest_append capacity _ _

/-! ### The lists -/

theorem length_lists_happen (scene : HistoryScene α) (event : HistoryEvent α) :
    (scene.happen event).lists.length = scene.lists.length + readings [event] := by
  cases event with
  | read => exact List.length_append
  | revise reading list => exact List.length_set
  | add item => rfl
  | clear => rfl

theorem length_lists_run (scene : HistoryScene α) (events : List (HistoryEvent α)) :
    (scene.run events).lists.length = scene.lists.length + readings events := by
  induction events generalizing scene with
  | nil => rfl
  | cons first rest ih =>
    have split : readings ([first] ++ rest) = readings [first] + readings rest := List.countP_append
    rw [run_cons, ih, length_lists_happen, Nat.add_assoc, ← split]
    rfl

/-- An event leaves a list alone, unless by it the reader changes that list. -/
theorem list_happen {scene : HistoryScene α} {event : HistoryEvent α} {reading : Nat} {list : List α}
    (is : scene.lists[reading]? = some list) (other : ∀ changed, event ≠ .revise reading changed) :
    (scene.happen event).lists[reading]? = some list := by
  cases event with
  | add item => exact is
  | clear => exact is
  | read =>
    obtain ⟨within, -⟩ := List.getElem?_eq_some_iff.1 is
    exact (List.getElem?_append_left within).trans is
  | revise another changed =>
    have different : another ≠ reading := by
      rintro rfl
      exact other changed rfl
    exact (List.getElem?_set_ne different).trans is

/-- **A list stays as it was read**, unless its reader changes it. -/
theorem list_run {scene : HistoryScene α} {reading : Nat} {list : List α} (is : scene.lists[reading]? = some list)
    {events : List (HistoryEvent α)} (unchanged : ∀ changed, .revise reading changed ∉ events) :
    (scene.run events).lists[reading]? = some list := by
  induction events generalizing scene with
  | nil => exact is
  | cons first rest ih =>
    refine ih (list_happen is fun changed same => ?_) fun changed member => ?_
    · exact unchanged changed (same ▸ List.mem_cons_self)
    · exact unchanged changed (List.mem_cons_of_mem first member)

/-! ### What a history remembers -/

/-- **A history of some capacity and the lists of its readers after a run.** -/
structure Remembers (capacity : Nat) (events : List (HistoryEvent α)) (scene : HistoryScene α) : Prop where
  /-- The history has the last items since it was cleared, the oldest one first. -/
  items_eq : scene.history.items = (sinceClear events).rtake capacity
  size_eq : scene.history.size = min (sinceClear events).length capacity
  size_le : scene.history.size ≤ capacity
  newest?_eq : scene.history.newest? = (sinceClear events).getLast?
  /-- A list that was read has the last items at that time, whatever happens later, as long as its reader does not
  change it. -/
  list_eq : ∀ before after, events = before ++ .read :: after →
    (∀ changed, .revise (readings before) changed ∉ after) →
    scene.lists[readings before]? = some ((sinceClear before).rtake capacity)
  /-- These stand in a row among the items that the run adds. -/
  list_infix : ∀ before after, events = before ++ .read :: after →
    (sinceClear before).rtake capacity <:+: added events

/-- **A history remembers the last items, up to its capacity**, which may be any that is at least one. -/
theorem run_remembers (capacity : Int) (one_le : 1 ≤ capacity) :
    ∃ history : History α, History.of? capacity = .ok history ∧
      ∀ events, Remembers capacity.toNat events ((of history).run events) := by
  have one_le' : 1 ≤ capacity.toNat := by omega
  refine ⟨.ofCapacity capacity.toNat one_le', dif_pos one_le, fun events => ?_⟩
  have items (events : List (HistoryEvent α)) := items_run capacity.toNat one_le' events
  have size : ((of (.ofCapacity capacity.toNat one_le')).run events).history.size =
      min (sinceClear events).length capacity.toNat := by
    unfold History.size
    rw [items, History.length_newest]
  refine ⟨items events, size, ?_, ?_, ?_, ?_⟩
  · rw [size]
    exact Nat.min_le_right _ _
  · unfold History.newest?
    rw [items, History.getLast?_newest one_le']
  · rintro before after rfl unchanged
    have number := length_lists_run (of (.ofCapacity capacity.toNat one_le')) before
    rw [run_append, run_cons]
    refine list_run ?_ unchanged
    show (_ ++ [_])[readings before]? = _
    rw [items, ← Nat.zero_add (readings before)]
    exact number ▸ List.getElem?_concat_length
  · rintro before after rfl
    have earlier : added before <+: added (before ++ .read :: after) := (List.prefix_append _ _).filterMap _
    exact ((List.drop_suffix _ _).trans (sinceClear_suffix before)).isInfix.trans earlier.isInfix

/-- A history of two items is read twice when it is full, and cleared; one of the readers empties the list it got. -/
theorem run_remembers_two : (1 : Int) ≤ 2 ∧ ∃ history : History Nat, History.of? 2 = .ok history ∧
    ∃ scene, scene = (of history).run [.add 5, .add 6, .add 7, .read, .read, .clear, .add 8, .revise 0 []] ∧
      scene.history.items = [8] ∧ scene.lists[1]? = some [6, 7] := by
  obtain ⟨history, made, remembers⟩ : ∃ history : History Nat, History.of? 2 = .ok history ∧ _ :=
    run_remembers 2 (by decide)
  have scene := remembers [.add 5, .add 6, .add 7, .read, .read, .clear, .add 8, .revise 0 []]
  refine ⟨by decide, history, made, _, rfl, scene.items_eq, ?_⟩
  have other : ∀ list, (.revise 1 list : HistoryEvent Nat) ∉ [.clear, .add 8, .revise 0 []] := by simp
  exact scene.list_eq [.add 5, .add 6, .add 7, .read] _ rfl other

end HistoryScene

end HostWatch
