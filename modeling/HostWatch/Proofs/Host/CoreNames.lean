/-
**Which cores are compared with themselves.**

A text names each core that is at work, but only the counters are kept of the names and counters that are read. Two
captures with as many cores are compared place by place. So the usage of the busiest core comes from counters of the
same core, for whatever counters there are, if and only if the two texts name the same cores in the same order; when
one core takes the place of another between the captures, the counters of two cores are mixed.

* `NamedCapture`: a text that names its cores, with the counters that are read of it.
* `NamedCapture.counts_iff`: the counters of a core are those at the place of its number.
* `ComparesByName`: **the busiest core as it would be with each core compared with itself.**
* `comparesByName_iff`: **when that is the usage that is computed.**
* `busiest_of_replacedCore`: a core that takes the place of another one.
-/

import HostWatch.Proofs.Host.CoreUsages
import HostWatch.Proofs.Host.CpuText

namespace HostWatch

open Text

/-! ### Names -/

theorem coreName_injective : Function.Injective coreName := by
  intro number other same
  have digits : Nat.toDigits 10 number = Nat.toDigits 10 other := List.append_cancel_left same
  calc number = Nat.ofDigitChars 10 (Nat.toDigits 10 number) 0 := Nat.ofDigitChars_ten_toDigits.symm
    _ = Nat.ofDigitChars 10 (Nat.toDigits 10 other) 0 := by rw [digits]
    _ = other := Nat.ofDigitChars_ten_toDigits

/-- What a line begins with. -/
def nameOn (line : List Char) : Option (List Char) := (words line).head?

/-- **A text that names its cores by numbers**, with the counters that are read of it. -/
structure NamedCapture (numbers : List Nat) where
  text : List Char
  lines : CpuLines
  named : (CpuLines.coreLines text).map nameOn = numbers.map fun number => some (coreName number)
  parsed : CpuLines.parse text = .ok lines

namespace NamedCapture

variable {numbers : List Nat}

/-- The counters on the line of the core with a number. -/
def Counts (capture : NamedCapture numbers) (number : Nat) (ticks : CpuTicks) : Prop :=
  ∃ line ∈ CpuLines.coreLines capture.text, nameOn line = some (coreName number) ∧ CpuTicks.parse line = .ok ticks

theorem areOn_coreLines (capture : NamedCapture numbers) :
    CpuLines.AreOn capture.lines.cores (CpuLines.coreLines capture.text) := by
  obtain ⟨-, -, -, cores⟩ := CpuLines.parse_eq_ok_iff.1 capture.parsed
  exact cores

theorem length_cores (capture : NamedCapture numbers) : capture.lines.cores.length = numbers.length := by
  have names := congrArg List.length capture.named
  rw [List.length_map, List.length_map] at names
  rw [← names]
  exact capture.areOn_coreLines.length_eq.symm

/-- The counters of a core are those at the place of its number. -/
theorem counts_iff (capture : NamedCapture numbers) (number : Nat) (ticks : CpuTicks) :
    capture.Counts number ticks ↔ (number, ticks) ∈ numbers.zip capture.lines.cores := by
  have onLines (lines : List (List Char)) (cores : List CpuTicks) (numbers : List Nat)
      (named : lines.map nameOn = numbers.map fun number => some (coreName number))
      (areOn : CpuLines.AreOn cores lines) :
      (∃ line ∈ lines, nameOn line = some (coreName number) ∧ CpuTicks.parse line = .ok ticks) ↔
        (number, ticks) ∈ numbers.zip cores := by
    induction areOn generalizing numbers with
    | nil => simp
    | @cons line core lines cores parsed _ ih =>
      obtain ⟨first, rest, rfl⟩ : ∃ first rest, numbers = first :: rest := by
        cases numbers with
        | nil => cases named
        | cons first rest => exact ⟨first, rest, rfl⟩
      obtain ⟨name, named⟩ := List.cons.inj named
      have here : nameOn line = some (coreName number) ∧ CpuTicks.parse line = .ok ticks ↔
          number = first ∧ ticks = core := by
        rw [name, parsed, Option.some.injEq, coreName_injective.eq_iff, Except.ok.injEq, eq_comm, eq_comm (a := core)]
      rw [List.zip_cons_cons, List.mem_cons, List.exists_mem_cons_iff, Prod.mk.injEq, here, ih rest named]
  exact onLines _ _ _ capture.named capture.areOn_coreLines

end NamedCapture

/-! ### The same order of names -/

/-- What stands at the same place of two lists is what has the same key, when the keys of both are the same. -/
theorem mem_zip_iff_of_nodup {α β γ : Type} {keys : List α} {first : List β} {second : List γ} (distinct : keys.Nodup)
    (length : first.length = keys.length) (length' : second.length = keys.length) (b : β) (c : γ) :
    (b, c) ∈ first.zip second ↔ ∃ key, (key, b) ∈ keys.zip first ∧ (key, c) ∈ keys.zip second := by
  induction keys generalizing first second with
  | nil =>
    rw [List.length_eq_zero_iff.1 length]
    simp
  | cons key keys ih =>
    obtain ⟨b', first, rfl⟩ := List.exists_cons_of_length_eq_add_one length
    obtain ⟨c', second, rfl⟩ := List.exists_cons_of_length_eq_add_one length'
    obtain ⟨new, distinct⟩ := List.nodup_cons.1 distinct
    have rest := ih distinct (Nat.succ.inj length) (Nat.succ.inj length')
    simp only [List.zip_cons_cons, List.mem_cons, Prod.mk.injEq]
    constructor
    · rintro (⟨rfl, rfl⟩ | member)
      · exact ⟨key, .inl ⟨rfl, rfl⟩, .inl ⟨rfl, rfl⟩⟩
      · obtain ⟨other, before, after⟩ := rest.1 member
        exact ⟨other, .inr before, .inr after⟩
    · rintro ⟨other, ⟨rfl, rfl⟩ | before, ⟨same, rfl⟩ | after⟩
      · exact .inl ⟨rfl, rfl⟩
      · exact absurd (List.of_mem_zip after).1 new
      · exact absurd (same ▸ (List.of_mem_zip before).1) new
      · exact .inr (rest.2 ⟨other, before, after⟩)

section Comparison

variable {before after : List Nat}

/-- The usages of the cores, each of them from the counters on its own two lines. -/
def sharesByName (earlier : NamedCapture before) (later : NamedCapture after) : Set Int :=
  {share | ∃ number old new, earlier.Counts number old ∧ later.Counts number new ∧ CpuTicks.usage old new = .ok share}

/-- **The busiest core, with each core compared with itself**: a core that is named in both texts has a usage, and
the busiest core has the greatest of these and the average. -/
structure ComparesByName (earlier : NamedCapture before) (later : NamedCapture after) (used : CpuUsage) : Prop where
  exists_share : ∀ number old new, earlier.Counts number old → later.Counts number new →
    ∃ share, CpuTicks.usage old new = .ok share
  busiest : IsGreatest (insert used.average (sharesByName earlier later)) used.busiest

/-- **Where the same cores are named in the same order, each core is compared with itself.** -/
theorem comparesByName {numbers : List Nat} (distinct : numbers.Nodup) {earlier later : NamedCapture numbers}
    {used : CpuUsage} (computed : CpuLines.usage earlier.lines later.lines = .ok used) :
    ComparesByName earlier later used := by
  have compared : CpuLines.comparedCores earlier.lines later.lines = earlier.lines.cores.zip later.lines.cores :=
    if_pos (later.length_cores.trans earlier.length_cores.symm)
  have paired (old new : CpuTicks) : (old, new) ∈ CpuLines.comparedCores earlier.lines later.lines ↔
      ∃ number, earlier.Counts number old ∧ later.Counts number new := by
    simp only [compared, NamedCapture.counts_iff]
    exact mem_zip_iff_of_nodup distinct earlier.length_cores later.length_cores old new
  have shares : CpuLines.coreShares earlier.lines later.lines = sharesByName earlier later := by
    ext share
    constructor
    · rintro ⟨⟨old, new⟩, member, computed⟩
      obtain ⟨number, counts, counts'⟩ := (paired old new).1 member
      exact ⟨number, old, new, counts, counts', computed⟩
    · rintro ⟨number, old, new, counts, counts', computed⟩
      exact ⟨(old, new), (paired old new).2 ⟨number, counts, counts'⟩, computed⟩
  obtain ⟨-, coresComputed, busiest⟩ := CpuLines.usage_eq_ok_iff.1 computed
  refine ⟨fun number old new counts counts' => ?_, shares ▸ busiest⟩
  exact coresComputed (old, new) ((paired old new).2 ⟨number, counts, counts'⟩)

end Comparison

/-! ### Another order of names -/

/-- A text that names its cores and has nothing else but their counters and those of all cores together. -/
def NamedCapture.plain (overall : CpuTicks) (ticks : Nat → CpuTicks) (numbers : List Nat) (short : overall.IsShort)
    (coresShort : ∀ number, (ticks number).IsShort) : NamedCapture numbers where
  text := (CpuFile.plain overall (numbers.map fun number => (number, ticks number))).text
  lines := ⟨overall, numbers.map ticks⟩
  named := by
    rw [CpuFile.coreLines_text, CpuFile.coreRows_plain, List.map_map, List.map_map, List.map_map]
    refine List.map_congr_left fun number _ => ?_
    have columns := (CpuRow.plain (some number) (ticks number)).words_text
    show (Text.words (CpuRow.plain (some number) (ticks number)).text).head? = some (coreName number)
    rw [columns]
    rfl
  parsed := by
    rw [CpuFile.parse_text_eq_ok_iff, CpuFile.overallRows_plain, CpuFile.coreRows_plain]
    refine ⟨?_, .plain none overall, rfl, ?_⟩
    · unfold CpuFile.IsShort
      rw [CpuFile.overallRows_plain, CpuFile.coreRows_plain, List.singleton_append, List.forall_mem_cons, List.map_map]
      refine ⟨short, fun row member => ?_⟩
      obtain ⟨number, -, rfl⟩ := List.mem_map.1 member
      exact coresShort number
    · rw [List.map_map, List.map_map]
      rfl

/-- The counters of a core before no time passes but idle time. One core has done some work before. -/
def ticksBefore (worker number : Nat) : CpuTicks := ⟨if number = worker then 1 else 0, 0, 0, 0⟩

/-- The counters of a core after a moment of idle time. -/
def ticksAfter (worker number : Nat) : CpuTicks := ⟨if number = worker then 1 else 0, 0, 0, 1⟩

theorem isShort_of_ticks (worker number : Nat) :
    (ticksBefore worker number).IsShort ∧ (ticksAfter worker number).IsShort := by
  unfold ticksBefore ticksAfter
  split <;> decide +kernel

/-- Counters of a core that did work, compared with those of one that did not, look like work. -/
theorem usage_ticks (worker old new : Nat) : CpuTicks.usage (ticksBefore worker old) (ticksAfter worker new) =
    .ok (if new = worker ∧ old ≠ worker then 50 else 0) := by
  unfold ticksBefore ticksAfter
  by_cases first : old = worker <;> by_cases second : new = worker <;>
    simp only [first, second, ne_eq, not_true, and_false] <;> rfl

theorem exists_mem_zip_ne {before after : List Nat} (asMany : before.length = after.length)
    (different : before ≠ after) : ∃ pair ∈ before.zip after, pair.1 ≠ pair.2 := by
  by_contra none
  refine different (List.forall₂_eq_eq_eq ▸ List.forall₂_iff_zip.2 ⟨asMany, fun {number other} member => ?_⟩)
  by_contra ne
  exact none ⟨(number, other), member, ne⟩

section MixedUp

variable {worker : Nat} {before after : List Nat}

/-- Captures before and after a moment of idle time, where one core has done some work before. -/
def captureBefore (worker : Nat) (numbers : List Nat) : NamedCapture numbers :=
  .plain ⟨0, 0, 0, 0⟩ (ticksBefore worker) numbers (by decide +kernel) fun number => (isShort_of_ticks worker number).1

def captureAfter (worker : Nat) (numbers : List Nat) : NamedCapture numbers :=
  .plain ⟨0, 0, 0, 0⟩ (ticksAfter worker) numbers (by decide +kernel) fun number => (isShort_of_ticks worker number).2

theorem mem_comparedCores_captures (asMany : before.length = after.length) (pair : CpuTicks × CpuTicks) :
    pair ∈ CpuLines.comparedCores (captureBefore worker before).lines (captureAfter worker after).lines ↔
      ∃ cores ∈ before.zip after, (ticksBefore worker cores.1, ticksAfter worker cores.2) = pair := by
  have compared : CpuLines.comparedCores (captureBefore worker before).lines (captureAfter worker after).lines =
      (before.map (ticksBefore worker)).zip (after.map (ticksAfter worker)) := by
    refine if_pos ?_
    show (after.map (ticksAfter worker)).length = (before.map (ticksBefore worker)).length
    rw [List.length_map, List.length_map, asMany]
  rw [compared, List.zip_map, List.mem_map]
  rfl

theorem exists_usage_captures (worker : Nat) (asMany : before.length = after.length) : ∃ used,
    CpuLines.usage (captureBefore worker before).lines (captureAfter worker after).lines = .ok used ∧
      used.average = 0 := by
  have overall : CpuTicks.usage (captureBefore worker before).lines.overall (captureAfter worker after).lines.overall =
    .ok 0 := rfl
  obtain ⟨used, computed⟩ := CpuLines.exists_usage_iff.2 ⟨⟨0, overall⟩, fun pair member => by
    obtain ⟨cores, -, rfl⟩ := (mem_comparedCores_captures asMany pair).1 member
    exact ⟨_, usage_ticks worker cores.1 cores.2⟩⟩
  refine ⟨used, computed, ?_⟩
  exact (Except.ok.inj (overall.symm.trans (CpuLines.usage_eq_ok_iff.1 computed).1)).symm

/-- No core has worked, each compared with itself. -/
theorem eq_zero_of_mem_sharesByName {share : Int}
    (member : share ∈ sharesByName (captureBefore worker before) (captureAfter worker after)) : share = 0 := by
  obtain ⟨number, old, new, counts, counts', computed⟩ := member
  have counted {numbers : List Nat} {ticks : Nat → CpuTicks} {counters : CpuTicks}
      (member : (number, counters) ∈ numbers.zip (numbers.map ticks)) : counters = ticks number := by
    induction numbers with
    | nil => cases member
    | cons first rest ih =>
      rcases List.mem_cons.1 member with here | there
      · obtain ⟨rfl, rfl⟩ := Prod.mk.inj here
        rfl
      · exact ih there
  obtain rfl := counted (((captureBefore worker before).counts_iff number old).1 counts)
  obtain rfl := counted (((captureAfter worker after).counts_iff number new).1 counts')
  rw [usage_ticks, if_neg fun mixed => mixed.2 mixed.1] at computed
  exact (Except.ok.inj computed).symm

end MixedUp

/-- **The usage that is computed is the one with each core compared with itself**, for whatever counters there are,
exactly when both texts name the same cores in the same order. -/
theorem comparesByName_iff {before after : List Nat} (distinct : before.Nodup) (asMany : before.length = after.length) :
    (∀ (earlier : NamedCapture before) (later : NamedCapture after) (used : CpuUsage),
      CpuLines.usage earlier.lines later.lines = .ok used → ComparesByName earlier later used) ↔ before = after := by
  constructor
  · intro always
    by_contra different
    -- A core in the place of another one, which alone has worked before, looks busy.
    obtain ⟨⟨other, worker⟩, member, ne⟩ := exists_mem_zip_ne asMany different
    obtain ⟨used, computed, average⟩ := exists_usage_captures worker asMany
    have busiest := (always _ _ used computed).busiest.1
    have idle : used.busiest = 0 := by
      rcases busiest with same | byName
      · exact same.trans average
      · exact eq_zero_of_mem_sharesByName byName
    have looksBusy :
        (50 : Int) ∈ CpuLines.coreShares (captureBefore worker before).lines (captureAfter worker after).lines :=
      ⟨_, (mem_comparedCores_captures asMany _).2 ⟨_, member, rfl⟩, by rw [usage_ticks, if_pos ⟨rfl, ne⟩]⟩
    obtain ⟨-, -, -, bounds⟩ := CpuLines.usage_eq_ok_iff.1 computed
    have atLeast : 50 ≤ used.busiest := bounds (.inr looksBusy)
    omega
  · rintro rfl earlier later used computed
    exact comparesByName distinct computed

/-- A core that takes the place of another one changes what is compared. -/
theorem comparesByName_iff_of_replacedCore : [0, 1].Nodup ∧ [0, 1].length = [0, 2].length ∧
    ((∀ (earlier : NamedCapture [0, 1]) (later : NamedCapture [0, 2]) (used : CpuUsage),
      CpuLines.usage earlier.lines later.lines = .ok used → ComparesByName earlier later used) ↔ [0, 1] = [0, 2]) :=
  ⟨by decide, rfl, comparesByName_iff (by decide) rfl⟩

/-! ### A core in the place of another one -/

/-- Two cores that worked a tenth of the time. -/
def beforeReplacement : NamedCapture [0, 1] :=
  .plain ⟨500, 0, 0, 2700⟩ (fun _ => ⟨100, 0, 0, 900⟩) [0, 1] (by decide +kernel) fun _ => by decide +kernel

/-- The same, where another core has come in the place of the second one. -/
def afterReplacement : NamedCapture [0, 2] :=
  .plain ⟨520, 0, 0, 2880⟩ (fun number => ⟨if number = 2 then 310 else 110, 0, 0, 990⟩) [0, 2] (by decide +kernel)
    fun number => by split <;> decide +kernel

/-- **A busiest core that is none**: the counters of the new core less those of the one that it replaced. -/
theorem busiest_of_replacedCore :
    beforeReplacement.text = "cpu  500 0 0 2700\ncpu0 100 0 0 900\ncpu1 100 0 0 900\n".toList ∧
      afterReplacement.text = "cpu  520 0 0 2880\ncpu0 110 0 0 990\ncpu2 310 0 0 990\n".toList ∧
      ∃ used, CpuLines.usage beforeReplacement.lines afterReplacement.lines = .ok used ∧ used.average = 10 ∧
        used.busiest = 70 ∧ ¬ ComparesByName beforeReplacement afterReplacement used := by
  refine ⟨by decide +kernel, by decide +kernel, _, rfl, rfl, rfl, fun byName => ?_⟩
  rcases byName.busiest.1 with same | ⟨number, old, new, counts, counts', computed⟩
  · exact absurd same (by decide)
  · -- The first core is the only one that both texts name.
    have before : (number, old) ∈ [(0, (⟨100, 0, 0, 900⟩ : CpuTicks)), (1, ⟨100, 0, 0, 900⟩)] :=
      (beforeReplacement.counts_iff number old).1 counts
    have after : (number, new) ∈ [(0, (⟨110, 0, 0, 990⟩ : CpuTicks)), (2, ⟨310, 0, 0, 990⟩)] :=
      (afterReplacement.counts_iff number new).1 counts'
    simp only [List.mem_cons, Prod.mk.injEq, List.not_mem_nil, or_false] at before after
    rcases before with ⟨rfl, rfl⟩ | ⟨rfl, rfl⟩ <;> rcases after with ⟨first, rfl⟩ | ⟨second, rfl⟩
    · cases computed
    · cases second
    · cases first
    · cases second

end HostWatch
