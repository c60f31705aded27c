/-
**What the longest run tells.**

The scan of a window carries the run that its next value would continue, and the longest run so far. What
it comes to is about blocks of values, wherever they stand in the window:

* `HasBlock`: **so many items, one after the other, each of them high.**
* `hasBlock_drop_of_le`: what is left of a block when a window moves on.
* `Run.le_length_longest_iff`: **the longest run has as many values as any block.**
* `RunStats.triggered_of_iff`: **a run counts exactly when there is a block of the required length.**
-/

import HostWatch.Problem.RunStats
import Mathlib.Data.List.Infix
import Mathlib.Data.List.TakeWhile

namespace HostWatch

/-! ### Blocks -/

/-- **So many items, one after the other, each of them high.** -/
def HasBlock {α : Type} (high : α → Prop) (count : Nat) (items : List α) : Prop :=
  ∃ block, block <:+: items ∧ block.length = count ∧ ∀ item ∈ block, high item

section HasBlock

variable {α β : Type} {high : α → Prop} {count : Nat}

theorem hasBlock_zero (items : List α) : HasBlock high 0 items :=
  ⟨[], List.nil_infix, rfl, nofun⟩

/-- A longer block has the first of its items as a block. -/
theorem hasBlock_of_le {block items : List α} (inside : block <:+: items)
    (each : ∀ item ∈ block, high item) (enough : count ≤ block.length) : HasBlock high count items :=
  ⟨block.take count, (List.take_prefix count block).isInfix.trans inside,
    List.length_take_of_le enough, fun item member => each item (List.mem_of_mem_take member)⟩

theorem HasBlock.length_le {items : List α} (has : HasBlock high count items) : count ≤ items.length := by
  obtain ⟨block, inside, rfl, -⟩ := has
  exact inside.length_le

theorem hasBlock_map (f : β → α) (items : List β) :
    HasBlock high count (items.map f) ↔ HasBlock (fun item => high (f item)) count items := by
  constructor
  · rintro ⟨_, inside, rfl, each⟩
    obtain ⟨block, part, rfl⟩ := List.infix_map_iff.1 inside
    exact ⟨block, part, (List.length_map f).symm, fun item member => each _ (List.mem_map_of_mem member)⟩
  · rintro ⟨block, inside, rfl, each⟩
    exact ⟨block.map f, inside.map f, List.length_map f, List.forall_mem_map.2 each⟩

/-- **What is left of a block when a window moves on**: the items behind those that the window lost. -/
theorem hasBlock_drop_of_le {before block after : List α} {lost : Nat} (each : ∀ item ∈ block, high item)
    (enough : count ≤ block.length - (lost - before.length)) :
    HasBlock high count ((before ++ block ++ after).drop lost) := by
  have inside : block.drop (lost - before.length) <:+: (before ++ block ++ after).drop lost := by
    rw [List.append_assoc, List.drop_append, List.drop_append]
    exact ⟨_, _, List.append_assoc ..⟩
  refine hasBlock_of_le inside (fun item member => each item (List.mem_of_mem_drop member)) ?_
  rwa [List.length_drop]

end HasBlock

/-! ### The scan -/

namespace Run

variable {threshold : Int} {count : Nat}

/-- How many values in front are at or above a threshold. -/
def leading (threshold : Int) (values : List Int) : Nat :=
  (values.takeWhile fun value => threshold ≤ value).length

theorem leading_cons_of_le {value : Int} (high : threshold ≤ value) (rest : List Int) :
    leading threshold (value :: rest) = leading threshold rest + 1 := by
  unfold leading
  rw [List.takeWhile_cons_of_pos (by simpa using high), List.length_cons]

theorem leading_cons_of_lt {value : Int} (low : ¬ threshold ≤ value) (rest : List Int) :
    leading threshold (value :: rest) = 0 := by
  unfold leading
  rw [List.takeWhile_cons_of_neg (by simpa using low), List.length_nil]

/-- A block in front is no longer than the values in front that are high. -/
theorem length_le_leading {block values : List Int} (front : block <+: values)
    (each : ∀ value ∈ block, threshold ≤ value) : block.length ≤ leading threshold values := by
  obtain ⟨rest, rfl⟩ := front
  unfold leading
  rw [List.takeWhile_append_of_pos (by simpa using each), List.length_append]
  exact Nat.le_add_right ..

theorem hasBlock_of_le_leading {values : List Int} (enough : count ≤ leading threshold values) :
    HasBlock (threshold ≤ ·) count values :=
  hasBlock_of_le (List.takeWhile_prefix _).isInfix
    (fun value member => by simpa using List.mem_takeWhile_imp member) enough

/-- A block stands in front, or behind the first value. -/
theorem hasBlock_cons_iff (value : Int) (rest : List Int) :
    HasBlock (threshold ≤ ·) count (value :: rest) ↔
      count ≤ leading threshold (value :: rest) ∨ HasBlock (threshold ≤ ·) count rest := by
  constructor
  · rintro ⟨block, inside, rfl, each⟩
    rcases List.infix_cons_iff.1 inside with front | behind
    · exact .inl (length_le_leading front each)
    · exact .inr ⟨block, behind, rfl, each⟩
  · rintro (front | ⟨block, behind, rfl, each⟩)
    · exact hasBlock_of_le_leading front
    · exact ⟨block, behind.trans (List.suffix_cons value rest).isInfix, rfl, each⟩

/-- **What the scan comes to** from any point on: the longest run so far, the run that goes on with the next
values, or a block that is still to come. -/
theorem le_length_longestFrom_iff {current best : Run} (le : current.length ≤ best.length)
    (values : List Int) :
    count ≤ (longestFrom threshold current best values).length ↔
      count ≤ best.length ∨ count ≤ current.length + leading threshold values ∨
        HasBlock (threshold ≤ ·) count values := by
  induction values generalizing current best with
  | nil =>
    show count ≤ best.length ↔ _
    refine ⟨.inl, ?_⟩
    rintro (enough | enough | has)
    · exact enough
    · exact Nat.le_trans enough le
    · exact Nat.le_trans has.length_le (Nat.zero_le _)
  | cons value rest ih =>
    rw [longestFrom, hasBlock_cons_iff]
    by_cases high : threshold ≤ value
    -- A high value makes the run longer by one, and the longest one so far at least that long.
    · generalize next_eq :
        (if best.length < (current.extend value).length then current.extend value else best) = next
      have next_length : next.length = max best.length (current.length + 1) := by
        have : (current.extend value).length = current.length + 1 := rfl
        rw [← next_eq]
        split <;> omega
      have room : (current.extend value).length ≤ next.length :=
        next_length ▸ Nat.le_max_right best.length (current.length + 1)
      rw [if_pos high, leading_cons_of_le high]
      dsimp only
      rw [next_eq, ih room, next_length]
      show _ ∨ count ≤ current.length + 1 + _ ∨ _ ↔ _
      by_cases has : HasBlock (threshold ≤ ·) count rest
      · simp only [has, or_true]
      · simp only [has, or_false]
        omega
    -- Behind a low value the run starts anew: what it can reach alone is a block of the rest.
    · rw [if_neg high, ih (Nat.zero_le best.length), leading_cons_of_lt high]
      show _ ∨ count ≤ 0 + _ ∨ _ ↔ _
      by_cases has : HasBlock (threshold ≤ ·) count rest
      · simp only [has, or_true]
      · have few : ¬ count ≤ leading threshold rest := fun enough => has (hasBlock_of_le_leading enough)
        simp only [has, or_false]
        omega

/-- **The longest run has as many values as any block.** -/
theorem le_length_longest_iff (values : List Int) :
    count ≤ (longest threshold values).length ↔ HasBlock (threshold ≤ ·) count values := by
  unfold longest
  rw [le_length_longestFrom_iff (Nat.le_refl _)]
  constructor
  · rintro (none | front | has)
    · obtain rfl : count = 0 := Nat.le_zero.1 none
      exact hasBlock_zero values
    · exact hasBlock_of_le_leading ((Nat.zero_add (leading threshold values)) ▸ front)
    · exact has
  · exact fun has => .inr (.inr has)

end Run

namespace RunStats

/-- **A run counts exactly when there is a block of the required length.** -/
theorem triggered_of_iff (values : List Int) (threshold : Int) {required : Int} (positive : 1 ≤ required)
    (interval : Binary64) :
    (RunStats.of values threshold required interval).triggered = true ↔
      HasBlock (threshold ≤ ·) required.toNat values := by
  have counts : 0 < (Run.longestOf threshold required values).length ↔
      required.toNat ≤ (Run.longest threshold values).length := by
    unfold Run.longestOf
    dsimp only
    split
    · exact iff_of_false (Nat.lt_irrefl 0) (by omega)
    · exact iff_of_true (by omega) (by omega)
  rw [← Run.le_length_longest_iff, ← counts]
  unfold triggered RunStats.of
  cases values with
  | nil =>
    rw [decide_eq_true_eq]
    exact iff_of_false (Nat.lt_irrefl 0) fun some => by
      have := counts.1 some
      have : (Run.longest threshold []).length = 0 := rfl
      omega
  | cons value rest => exact decide_eq_true_iff

end RunStats

end HostWatch
