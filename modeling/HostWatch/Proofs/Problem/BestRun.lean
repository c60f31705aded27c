/-
**The run that counts, and the statistics of a window.**

Among the blocks of high values in a window the longest one counts, and the earliest one of equally long ones. The
scan passes over the window once. It carries the values in front of it as two runs only, and a strict comparison of
two lengths decides which of them stays:

* `IsBest`: **the block that counts**, among all blocks of a window.
* `Scanned`: what the two runs of a scan say of the values behind it, kept by `Scanned.high` and `Scanned.low`.
* `exists_isBest_longest`: **the longest run is that of the block that counts.**
* `RunStats.Summarizes`, `RunStats.summarizes_of`: **what the statistics of a window say of it.** Whether a run counts
  is antitone in the threshold and in the required length.
-/

import HostWatch.Proofs.Problem.LongestRun
import Mathlib.Algebra.Order.BigOperators.Group.List
import Mathlib.Data.Rat.Floor

namespace HostWatch

variable {threshold : Int}

/-! ### Blocks of a window -/

/-- A block of high values in a window, between what comes before it and what comes after it. -/
structure IsBlock (threshold : Int) (values before block after : List Int) : Prop where
  split : before ++ block ++ after = values
  high : ∀ value ∈ block, threshold ≤ value

/-- **The block that counts**: no block is longer, and none that is as long begins earlier. -/
structure IsBest (threshold : Int) (values before block after : List Int) : Prop
    extends IsBlock threshold values before block after where
  longest : ∀ {front other rest}, IsBlock threshold values front other rest → other.length ≤ block.length
  earliest : ∀ {front other rest}, IsBlock threshold values front other rest → other.length = block.length →
    before.length ≤ front.length

/-- The longest block at the end of a window. -/
structure IsTail (threshold : Int) (values before tail : List Int) : Prop
    extends IsBlock threshold values before tail [] where
  longest : ∀ {front other}, IsBlock threshold values front other [] → other.length ≤ tail.length

theorem IsBlock.length_eq {values before block after : List Int} (inside : IsBlock threshold values before block after) :
    before.length + block.length + after.length = values.length := by
  rw [← inside.split, List.length_append, List.length_append]

section Concat

variable {done before block after : List Int} {value : Int}

/-- A block with something behind it was there before the last value came. -/
theorem isBlock_of_concat {rest : List Int} {last : Int}
    (inside : IsBlock threshold (done ++ [value]) before block (rest ++ [last])) :
    IsBlock threshold done before block rest := by
  have split : (before ++ block ++ rest) ++ [last] = done ++ [value] := by
    rw [← inside.split, List.append_assoc _ rest]
  exact ⟨(List.append_inj' split rfl).1, inside.high⟩

/-- A block at the end is empty, or ends in the last value. -/
theorem eq_nil_or_of_isBlock_concat (inside : IsBlock threshold (done ++ [value]) before block []) :
    block = [] ∨ ∃ start, block = start ++ [value] ∧ threshold ≤ value ∧ IsBlock threshold done before start [] := by
  rcases List.eq_nil_or_concat' block with empty | ⟨start, last, rfl⟩
  · exact .inl empty
  · have split : (before ++ start) ++ [last] = done ++ [value] := by
      have whole := inside.split
      rwa [List.append_nil, ← List.append_assoc] at whole
    obtain ⟨front, same⟩ := List.append_inj' split rfl
    obtain rfl : last = value := List.cons.inj same |>.1
    have high : threshold ≤ last := inside.high last (by simp)
    have within : ∀ other ∈ start, threshold ≤ other := fun other member => inside.high other (by simp [member])
    exact .inr ⟨start, rfl, high, by rw [List.append_nil, front], within⟩

/-- What counted goes on to count, unless a block at the new end is longer. -/
theorem IsBest.concat (best : IsBest threshold done before block after)
    (ends : ∀ {front other}, IsBlock threshold (done ++ [value]) front other [] → other.length ≤ block.length) :
    IsBest threshold (done ++ [value]) before block (after ++ [value]) where
  split := by rw [← best.split, List.append_assoc _ after]
  high := best.high
  longest := by
    intro front other rest inside
    rcases List.eq_nil_or_concat' rest with rfl | ⟨rest, last, rfl⟩
    · exact ends inside
    · exact best.longest (isBlock_of_concat inside)
  earliest := by
    intro front other rest inside same
    rcases List.eq_nil_or_concat' rest with rfl | ⟨rest, last, rfl⟩
    · -- a block at the end that is as long begins as late as it can
      have lengths := best.length_eq
      have whole := inside.length_eq
      simp only [List.length_append, List.length_cons, List.length_nil] at whole
      omega
    · exact best.earliest (isBlock_of_concat inside) same

theorem IsTail.length_le_of_concat {front tail : List Int} (isTail : IsTail threshold done front tail)
    (inside : IsBlock threshold (done ++ [value]) before block []) : block.length ≤ tail.length + 1 := by
  rcases eq_nil_or_of_isBlock_concat inside with rfl | ⟨start, rfl, -, inside⟩
  · exact Nat.zero_le _
  · rw [List.length_append]
    exact Nat.succ_le_succ (isTail.longest inside)

theorem IsTail.concat {front tail : List Int} (isTail : IsTail threshold done front tail) (high : threshold ≤ value) :
    IsTail threshold (done ++ [value]) front (tail ++ [value]) where
  split := by
    have whole := isTail.split
    rw [List.append_nil] at whole ⊢
    rw [← whole, List.append_assoc]
  high := by
    intro other member
    rcases List.mem_append.1 member with inside | last
    · exact isTail.high other inside
    · rwa [List.mem_singleton.1 last]
  longest := by
    intro other block inside
    rw [List.length_append]
    exact isTail.length_le_of_concat inside

/-- Behind a low value the end of the window holds no block. -/
theorem length_eq_zero_of_low (low : ¬ threshold ≤ value)
    (inside : IsBlock threshold (done ++ [value]) before block []) : block.length = 0 := by
  rcases eq_nil_or_of_isBlock_concat inside with rfl | ⟨start, -, high, -⟩
  · rfl
  · exact absurd high low

theorem isTail_concat_of_low (low : ¬ threshold ≤ value) : IsTail threshold (done ++ [value]) (done ++ [value]) [] where
  split := by simp
  high := nofun
  longest := fun inside => (length_eq_zero_of_low low inside).le

/-- The block at the end counts once it is longer than the one that counted. -/
theorem IsTail.isBest {front tail : List Int} (isTail : IsTail threshold (done ++ [value]) front tail)
    (best : IsBest threshold done before block after) (longer : block.length < tail.length) :
    IsBest threshold (done ++ [value]) front tail [] where
  toIsBlock := isTail.toIsBlock
  longest := by
    intro other inner rest inside
    rcases List.eq_nil_or_concat' rest with rfl | ⟨rest, last, rfl⟩
    · exact isTail.longest inside
    · exact (best.longest (isBlock_of_concat inside)).trans longer.le
  earliest := by
    intro other inner rest inside same
    rcases List.eq_nil_or_concat' rest with rfl | ⟨rest, last, rfl⟩
    · have lengths := isTail.length_eq
      have whole := inside.length_eq
      omega
    · have shorter := best.longest (isBlock_of_concat inside)
      omega

end Concat

/-! ### The scan -/

namespace Run

/-- The run of a block. -/
def ofBlock (block : List Int) : Run := ⟨block.length, block.sum⟩

theorem extend_ofBlock (block : List Int) (value : Int) : (ofBlock block).extend value = ofBlock (block ++ [value]) := by
  unfold ofBlock extend
  simp

/-- **What a scan carries**: the run of the block at the end of the values behind it, and the run of the block that
counts among them. -/
structure Scanned (threshold : Int) (done : List Int) (current best : Run) : Prop where
  tail : ∃ front tail, IsTail threshold done front tail ∧ current = ofBlock tail
  best : ∃ before block after, IsBest threshold done before block after ∧ best = ofBlock block

theorem scanned_nil : Scanned threshold [] none none where
  tail := ⟨[], [], ⟨⟨rfl, nofun⟩, fun inside => by have := inside.length_eq; simp_all⟩, rfl⟩
  best := ⟨[], [], [], ⟨⟨rfl, nofun⟩, fun inside => by have := inside.length_eq; simp_all, fun _ _ => Nat.zero_le _⟩, rfl⟩

/-- A high value makes the run at the end longer. It counts from then on only if it is longer than what counted: of
equally long blocks the earlier one stays. -/
theorem Scanned.high {done : List Int} {current best : Run} (scanned : Scanned threshold done current best) {value : Int}
    (high : threshold ≤ value) :
    Scanned threshold (done ++ [value]) (current.extend value)
      (if best.length < (current.extend value).length then current.extend value else best) := by
  obtain ⟨front, tail, isTail, rfl⟩ := scanned.tail
  obtain ⟨before, block, after, isBest, rfl⟩ := scanned.best
  have longer := isTail.concat high
  rw [extend_ofBlock]
  refine ⟨⟨front, tail ++ [value], longer, rfl⟩, ?_⟩
  by_cases more : block.length < (tail ++ [value]).length
  · exact ⟨front, tail ++ [value], [], longer.isBest isBest more, if_pos more⟩
  · refine ⟨before, block, after ++ [value], isBest.concat fun inside => ?_, if_neg more⟩
    exact (longer.longest inside).trans (Nat.le_of_not_lt more)

theorem Scanned.low {done : List Int} {current best : Run} (scanned : Scanned threshold done current best) {value : Int}
    (low : ¬ threshold ≤ value) : Scanned threshold (done ++ [value]) none best := by
  obtain ⟨before, block, after, isBest, rfl⟩ := scanned.best
  refine ⟨⟨done ++ [value], [], isTail_concat_of_low low, rfl⟩, before, block, after ++ [value], ?_, rfl⟩
  exact isBest.concat fun inside => (length_eq_zero_of_low low inside).le.trans (Nat.zero_le _)

theorem Scanned.longestFrom {done : List Int} {current best : Run} (scanned : Scanned threshold done current best)
    (values : List Int) : ∃ before block after, IsBest threshold (done ++ values) before block after ∧
      Run.longestFrom threshold current best values = ofBlock block := by
  induction values generalizing done current best with
  | nil =>
    obtain ⟨before, block, after, isBest, same⟩ := scanned.best
    exact ⟨before, block, after, by rwa [List.append_nil], same⟩
  | cons value rest ih =>
    rw [Run.longestFrom, List.append_cons]
    by_cases high : threshold ≤ value
    · rw [if_pos high]
      exact ih (scanned.high high)
    · rw [if_neg high]
      exact ih (scanned.low high)

/-- **The longest run is that of the block that counts.** -/
theorem exists_isBest_longest (threshold : Int) (values : List Int) :
    ∃ before block after, IsBest threshold values before block after ∧ longest threshold values = ofBlock block :=
  scanned_nil.longestFrom values

/-- The average of high values is high. -/
theorem le_average_ofBlock {block : List Int} (high : ∀ value ∈ block, threshold ≤ value) (some : 0 < block.length) :
    threshold ≤ (ofBlock block).average := by
  have total : block.length • threshold ≤ block.sum := List.card_nsmul_le_sum block threshold high
  rw [nsmul_eq_mul] at total
  show threshold ≤ block.sum / (block.length : Int)
  rw [Int.le_ediv_iff_mul_le (by omega), mul_comm]
  exact total

/-- The average of values in a range is in it, and so is that of no values. -/
theorem average_ofBlock_range {block : List Int} {greatest : Int} (nonneg : 0 ≤ greatest)
    (range : ∀ value ∈ block, 0 ≤ value ∧ value ≤ greatest) :
    0 ≤ (ofBlock block).average ∧ (ofBlock block).average ≤ greatest := by
  rcases Nat.eq_zero_or_pos block.length with none | some
  · obtain rfl := List.eq_nil_of_length_eq_zero none
    exact ⟨Int.le_refl 0, nonneg⟩
  · have total : block.sum ≤ block.length • greatest :=
      List.sum_le_card_nsmul block greatest fun value member => (range value member).2
    rw [nsmul_eq_mul, mul_comm] at total
    refine ⟨le_average_ofBlock (fun value member => (range value member).1) some, ?_⟩
    show block.sum / (block.length : Int) ≤ greatest
    exact Int.ediv_le_of_le_mul (by omega) total

/-- An average is rounded down. -/
theorem average_ofBlock (block : List Int) : (ofBlock block).average = ⌊(block.sum : ℚ) / block.length⌋ :=
  (Rat.floor_intCast_div_natCast block.sum block.length).symm

end Run

/-! ### Statistics -/

namespace RunStats

/-- **What the statistics of a window say of it.** -/
structure Summarizes (stats : RunStats) (values : List Int) (threshold required : Int) : Prop where
  /-- The run is that of the block that counts, if this block is as long as required, and else it is empty. -/
  run : ∃ before block after, IsBest threshold values before block after ∧
    stats.run.length = (if required ≤ block.length then block.length else 0) ∧
    stats.run.average = if required ≤ block.length then ⌊(block.sum : ℚ) / block.length⌋ else 0
  le_average : stats.triggered = true → threshold ≤ stats.run.average
  average : stats.average = ⌊(values.sum : ℚ) / values.length⌋

variable {values : List Int}

theorem run_of (nonempty : values ≠ []) (threshold required : Int) (interval : Binary64) :
    (of values threshold required interval).run = Run.longestOf threshold required values := by
  cases values with
  | nil => exact absurd rfl nonempty
  | cons value rest => rfl

theorem average_of (nonempty : values ≠ []) (threshold required : Int) (interval : Binary64) :
    (of values threshold required interval).average = ⌊(values.sum : ℚ) / values.length⌋ := by
  rw [Rat.floor_intCast_div_natCast]
  cases values with
  | nil => exact absurd rfl nonempty
  | cons value rest => rfl

/-- The averages of values in a range are in it: that of the window and that of the run. -/
theorem averages_range {greatest : Int} (nonneg : 0 ≤ greatest) (range : ∀ value ∈ values, 0 ≤ value ∧ value ≤ greatest)
    (threshold required : Int) (interval : Binary64) :
    (0 ≤ (of values threshold required interval).average ∧ (of values threshold required interval).average ≤ greatest) ∧
      0 ≤ (of values threshold required interval).run.average ∧
      (of values threshold required interval).run.average ≤ greatest := by
  cases values with
  | nil => exact ⟨⟨Int.le_refl 0, nonneg⟩, Run.average_ofBlock_range nonneg range⟩
  | cons value rest =>
    refine ⟨Run.average_ofBlock_range nonneg range, ?_⟩
    obtain ⟨before, block, after, isBest, longest⟩ := Run.exists_isBest_longest threshold (value :: rest)
    rw [run_of (List.cons_ne_nil value rest)]
    unfold Run.longestOf
    rw [longest]
    dsimp only
    split
    · exact ⟨Int.le_refl 0, nonneg⟩
    · refine Run.average_ofBlock_range nonneg fun other member => range other ?_
      rw [← isBest.split]
      exact List.mem_append_left _ (List.mem_append_right _ member)

theorem triggered_iff (nonempty : values ≠ []) (threshold required : Int) (interval : Binary64) :
    (of values threshold required interval).triggered = true ↔
      required ≤ (Run.longest threshold values).length ∧ 0 < (Run.longest threshold values).length := by
  unfold triggered
  rw [run_of nonempty, decide_eq_true_iff]
  unfold Run.longestOf
  dsimp only
  split
  · exact iff_of_false (Nat.lt_irrefl 0) (by omega)
  · exact ⟨fun some => ⟨by omega, some⟩, And.right⟩

/-- With a lower threshold there are longer blocks. -/
theorem length_longest_anti {lower : Int} (le : lower ≤ threshold) (values : List Int) :
    (Run.longest threshold values).length ≤ (Run.longest lower values).length := by
  rw [Run.le_length_longest_iff]
  obtain ⟨block, inside, same, high⟩ := (Run.le_length_longest_iff values).1 (Nat.le_refl (Run.longest threshold values).length)
  exact ⟨block, inside, same, fun value member => le.trans (high value member)⟩

/-- **What the statistics of a window say**, and that a run that counts goes on to count when less is asked for. -/
theorem summarizes_of (nonempty : values ≠ []) (threshold required : Int) (interval : Binary64) :
    (of values threshold required interval).Summarizes values threshold required ∧
      ∀ lower ≤ threshold, ∀ fewer ≤ required, (of values threshold required interval).triggered = true →
        (of values lower fewer interval).triggered = true := by
  obtain ⟨before, block, after, isBest, longest⟩ := Run.exists_isBest_longest threshold values
  have run : (of values threshold required interval).run =
      if required ≤ block.length then Run.ofBlock block else Run.none := by
    rw [run_of nonempty]
    unfold Run.longestOf
    rw [longest]
    show (if (block.length : Int) < required then Run.none else Run.ofBlock block) = _
    by_cases enough : required ≤ block.length
    · rw [if_pos enough, if_neg (by omega)]
    · rw [if_neg enough, if_pos (by omega)]
  refine ⟨⟨⟨before, block, after, isBest, ?_, ?_⟩, fun triggered => ?_, average_of nonempty ..⟩, ?_⟩
  · rw [run]
    split <;> rfl
  · rw [run]
    split
    · exact Run.average_ofBlock block
    · rfl
  · rw [triggered_iff nonempty, longest] at triggered
    have enough : required ≤ block.length := triggered.1
    rw [run, if_pos enough]
    exact Run.le_average_ofBlock isBest.high triggered.2
  · intro lower low fewer few triggered
    rw [triggered_iff nonempty] at triggered ⊢
    have longer := length_longest_anti low values
    exact ⟨by omega, by omega⟩

/-- Of two equally long blocks the earlier one counts, negative values and all. -/
theorem summarizes_of_tie : ([-9, -1, -2, -7, 0, -2] : List Int) ≠ [] ∧
    (of [-9, -1, -2, -7, 0, -2] (-2) 2 (Binary64.ofInt 1)).Summarizes [-9, -1, -2, -7, 0, -2] (-2) 2 ∧
    (of [-9, -1, -2, -7, 0, -2] (-2) 2 (Binary64.ofInt 1)).run = ⟨2, -3⟩ ∧
    (of [-9, -1, -2, -7, 0, -2] (-2) 2 (Binary64.ofInt 1)).run.average = -2 :=
  ⟨by decide, (summarizes_of (by decide) (-2) 2 _).1, rfl, rfl⟩

end RunStats

end HostWatch
