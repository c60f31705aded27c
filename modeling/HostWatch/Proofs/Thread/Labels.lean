/-
**The labels of the rows of threads.**

A row is labelled with the identity of its thread and the name that the thread had last. Names may be anything, also the
same for several threads or texts that look like labels. Yet no blank stands in the text of an identity, so that the first
blank of a label ends the identity: a label tells the thread, and rows that are kept by their labels are all kept.

* `label_injective`: **a label tells the identity and the name.**
* `LastSeen`: a thread as it was in the last sample in which it occurs.
* `Labels`: what a labelled row shows of the row of a thread.
* `byLabel_eq`: rows with labels of their own are kept in their order.
* `labelledRows_linesUp`: **each thread has a labelled row, in the order of the identities**, and no row of a table misses
  a sample.
-/

import HostWatch.Proofs.Text.Hexadecimal
import HostWatch.Proofs.Thread.Table
import Mathlib.Data.List.Induction

namespace HostWatch.CpuTable

/-! ### Labels -/

/-- A text is cut at the first place of a character in one way only. -/
theorem append_cons_inj {c : Char} {s t behind behind' : List Char} (absent : c ∉ s) (absent' : c ∉ t)
    (same : s ++ c :: behind = t ++ c :: behind') : s = t ∧ behind = behind' := by
  rcases List.append_eq_append_iff.1 same with ⟨between, rfl, rest⟩ | ⟨between, rfl, rest⟩
  · cases between with
    | nil => simpa using rest
    | cons d between => simp [(List.cons.inj rest).1] at absent'
  · cases between with
    | nil => simpa [eq_comm] using rest
    | cons d between => simp [(List.cons.inj rest).1] at absent

/-- **A label tells the identity and the name**: the first blank in it stands between them. -/
theorem label_injective {id other : Int} {name name' : String}
    (same : ThreadInfo.idText id ++ " " ++ name = ThreadInfo.idText other ++ " " ++ name') : id = other ∧ name = name' := by
  have texts : (Text.hexadecimal id).toList ++ ' ' :: name.toList = (Text.hexadecimal other).toList ++ ' ' :: name'.toList := by
    have lists := congrArg String.toList same
    simpa [ThreadInfo.idText] using lists
  obtain ⟨identity, names⟩ := append_cons_inj (Text.space_notMem_hexadecimal id) (Text.space_notMem_hexadecimal other) texts
  exact ⟨Text.hexadecimal_injective (String.toList_injective identity), String.toList_injective names⟩

/-- A thread as it was in the last sample in which its identity occurs. -/
inductive LastSeen (samples : List Sample) (id : Int) (item : ThreadItem) : Prop
  | intro {before after : List Sample} {sample : Sample} (split : samples = before ++ sample :: after)
      (present : item ∈ sample.threads.items) (id_eq : item.id = id) (gone : ∀ later ∈ after, id ∉ later.threads.ids)

/-- **What a labelled row shows** of the row of a thread: the identity with the name that the thread had last, and cell by
cell the usage, nothing where it is not known, and no entry where the thread did not live. -/
structure Labels (samples : List Sample) (row : ThreadRow) (labelled : Row (Option (Option Int))) : Prop where
  title : ∃ item, LastSeen samples row.id item ∧ labelled.title = ThreadInfo.idText row.id ++ " " ++ item.info.name
  cells : labelled.cells = row.cells.map fun cell => cell.map Entry.percent

/-- The last entry of cells that are not all empty. -/
theorem exists_last_entry {cells : List Cell} {entry : Entry} (member : some entry ∈ cells) :
    ∃ before last after, cells = before ++ some last :: after ∧ (∀ cell ∈ after, cell = none) ∧
      (cells.filterMap id).getLast? = some last := by
  induction cells using List.reverseRecOn with
  | nil => cases member
  | append_singleton cells cell ih =>
    cases cell with
    | none =>
      have earlier : some entry ∈ cells := by simpa using member
      obtain ⟨before, last, after, rfl, empty, found⟩ := ih earlier
      refine ⟨before, last, after ++ [none], by simp, ?_, by simpa using found⟩
      intro cell member
      rcases List.mem_append.1 member with behind | final
      · exact empty cell behind
      · exact List.mem_singleton.1 final
    | some last => exact ⟨cells, last, [], rfl, List.forall_mem_nil _, by simp⟩

section Rows

variable {samples : List Sample} {table : List ThreadRow}

/-- Every row holds an entry, as its thread occurs in a sample. -/
theorem Tabulates.exists_entry (tabulates : Tabulates samples table) {row : ThreadRow} (member : row ∈ table) :
    ∃ entry, some entry ∈ row.cells := by
  obtain ⟨sample, among, occurs⟩ := (tabulates.mem_ids_iff row.id).1 (List.mem_map_of_mem member)
  obtain ⟨index, inside, rfl⟩ := List.getElem_of_mem among
  have fits : index < row.cells.length := by rwa [tabulates.length_eq row member]
  have tells := tabulates.tells row member index _ _ (List.getElem?_eq_getElem inside) (List.getElem?_eq_getElem fits)
  cases found : row.cells[index] with
  | none => exact absurd occurs (tells.absent_iff.1 found)
  | some entry => exact ⟨entry, found ▸ List.getElem_mem fits⟩

/-- The last entry of a row shows its thread in the last sample in which it occurs. -/
theorem Tabulates.lastSeen (tabulates : Tabulates samples table) {row : ThreadRow} (member : row ∈ table)
    {before after : List Cell} {last : Entry} (cells_eq : row.cells = before ++ some last :: after)
    (empty : ∀ cell ∈ after, cell = none) : LastSeen samples row.id last.item := by
  have length_eq := tabulates.length_eq row member
  rw [cells_eq, List.length_append, List.length_cons] at length_eq
  have inside : before.length < samples.length := by omega
  have split : samples = samples.take before.length ++ samples[before.length] :: samples.drop (before.length + 1) := by
    simp
  obtain ⟨among, id_eq⟩ := (tabulates.tells row member before.length samples[before.length] (some last)
    (List.getElem?_eq_getElem inside) (by simp [cells_eq])).item_mem last rfl
  refine .intro split among id_eq fun later behind => ?_
  -- A later sample has its column among the empty cells.
  obtain ⟨index, within, rfl⟩ := List.getElem_of_mem behind
  rw [List.length_drop] at within
  have final : index < after.length := by omega
  have column : row.cells[before.length + 1 + index]? = some none := by
    have position : before.length + 1 + index - before.length = index + 1 := by omega
    rw [cells_eq, List.getElem?_append_right (by omega), position, List.getElem?_cons_succ, List.getElem?_eq_getElem final]
    exact congrArg some (empty _ (List.getElem_mem final))
  have absent := tabulates.tells row member (before.length + 1 + index) samples[before.length + 1 + index] none
    (List.getElem?_eq_getElem (by omega)) column
  rw [List.getElem_drop]
  exact absent.absent_iff.1 rfl

/-- **A row has the label of its thread in the last sample in which it occurs.** -/
theorem Tabulates.exists_label (tabulates : Tabulates samples table) {row : ThreadRow} (member : row ∈ table) :
    ∃ item, LastSeen samples row.id item ∧ label row = .ok (ThreadInfo.idText row.id ++ " " ++ item.info.name) := by
  obtain ⟨entry, present⟩ := tabulates.exists_entry member
  obtain ⟨before, last, after, cells_eq, empty, found⟩ := exists_last_entry present
  have seen := tabulates.lastSeen member cells_eq empty
  have id_eq : last.item.id = row.id := by
    obtain ⟨-, -, id_eq, -⟩ := seen
    exact id_eq
  refine ⟨last.item, seen, ?_⟩
  unfold label
  rw [found]
  simp [labelOf, id_eq]

/-- Rows with labels of their own all come to stand, in their order. -/
theorem byLabel_eq {entries : List (String × List (Option (Option Int)))}
    (told : List.Forall₂ (fun row entry => label row = .ok entry.1 ∧ entry.2 = usages row) table entries)
    (distinct : (entries.map Prod.fst).Nodup) : byLabel table = .ok entries := by
  have further (earlier : List (String × List (Option (Option Int)))) (apart : ((earlier ++ entries).map Prod.fst).Nodup) :
      table.foldlM (fun labelled row => do
        let text ← label row
        return KeyedList.set text (usages row) labelled) earlier = .ok (earlier ++ entries) := by
    clear distinct
    induction told generalizing earlier with
    | nil => simp [pure, Except.pure]
    | @cons row entry table entries head _ ih =>
      obtain ⟨text, cells⟩ := entry
      obtain ⟨labelled, rfl⟩ := head
      have absent : text ∉ earlier.map Prod.fst := by
        rw [List.map_append, List.nodup_append] at apart
        exact fun member => apart.2.2 text member text (by simp) rfl
      rw [List.append_cons] at apart
      rw [List.foldlM_cons, labelled, List.append_cons, ← ih (earlier ++ [(text, usages row)]) apart,
        ← KeyedList.set_of_notMem (usages row) absent]
      rfl
  exact further [] distinct

/-- Rows in the order of their identities have labels of their own. -/
theorem nodup_titles {labelled : List (Row (Option (Option Int)))} (ascending : Ascending table)
    (labels : List.Forall₂ (Labels samples) table labelled) : (labelled.map Row.title).Nodup := by
  induction labels with
  | nil => exact List.nodup_nil
  | @cons row first table labelled head tail ih =>
    rw [List.map_cons, List.nodup_cons]
    refine ⟨fun member => ?_, ih ascending.tail⟩
    have others : ∀ other ∈ labelled, other.title ≠ first.title := by
      refine forall_of_forall₂ tail fun later behind other shown same => ?_
      obtain ⟨item, -, title_eq⟩ := head.title
      obtain ⟨item', -, title_eq'⟩ := shown.title
      have identity := (label_injective (title_eq'.symm.trans (same.trans title_eq))).1
      have greater := ascending.lt (List.mem_map_of_mem behind)
      omega
    obtain ⟨other, among, same⟩ := List.mem_map.1 member
    exact others other among same

/-- The rows of a table come to stand with the labels of their threads. -/
theorem Tabulates.exists_byLabel (tabulates : Tabulates samples table) :
    ∃ entries, byLabel table = .ok entries ∧
      List.Forall₂ (Labels samples) table (entries.map fun entry => ⟨entry.1, entry.2⟩) := by
  have each : ∀ row ∈ table, ∃ entry : String × List (Option (Option Int)),
      (label row = .ok entry.1 ∧ entry.2 = usages row) ∧ Labels samples row ⟨entry.1, entry.2⟩ := by
    intro row member
    obtain ⟨item, seen, labelled⟩ := tabulates.exists_label member
    exact ⟨(_, usages row), ⟨labelled, rfl⟩, ⟨item, seen, rfl⟩, rfl⟩
  obtain ⟨entries, all⟩ := exists_forall₂_iff.2 each
  have labels : List.Forall₂ (Labels samples) table (entries.map fun entry => ⟨entry.1, entry.2⟩) :=
    List.forall₂_map_right_iff.2 (all.imp fun _ _ both => both.2)
  have titles := nodup_titles tabulates.ascending labels
  rw [List.map_map] at titles
  exact ⟨entries, byLabel_eq (all.imp fun _ _ both => both.1) titles, labels⟩

end Rows

/-! ### Tables -/

/-- **The tables of samples line up**: the labelled rows are those of the threads, one for each that occurs, in the order
of the identities and with a label of its own; and each row of a table has a cell for each sample. -/
structure LinesUp (samples : List Sample) (table : List ThreadRow) (labelled : List (Row (Option (Option Int)))) :
    Prop where
  tabulates : Tabulates samples table
  labels : List.Forall₂ (Labels samples) table labelled
  titles_nodup : (labelled.map Row.title).Nodup
  length_usages : ∀ row ∈ labelled, row.cells.length = samples.length
  length_figures : ∀ row ∈ figureTable samples, row.cells.length = samples.length
  length_memories : ∀ row ∈ memoryTable samples, row.cells.length = samples.length

/-- **Each thread has a labelled row**, in samples in which no identity stands twice. -/
theorem labelledRows_linesUp {samples : List Sample} (distinct : ∀ sample ∈ samples, sample.threads.ids.Nodup)
    (fits : AllFit (samples.map Sample.threads)) :
    ∃ table labelled, rows samples = .ok table ∧ labelledRows samples = .ok labelled ∧ LinesUp samples table labelled := by
  obtain ⟨_, made, follows⟩ := exists_rows distinct fits
  have tabulates := follows.tabulates
  obtain ⟨entries, kept, labels⟩ := tabulates.exists_byLabel
  refine ⟨_, entries.map fun entry => ⟨entry.1, entry.2⟩, made, ?_, tabulates, labels,
    nodup_titles tabulates.ascending labels, ?_, ?_, ?_⟩
  · unfold labelledRows
    rw [made]
    simp only [Except.mapError, bind, Except.bind, kept]
    rfl
  · refine forall_of_forall₂ labels fun row member labelled shown => ?_
    rw [shown.cells, List.length_map, tabulates.length_eq row member]
  · simp [figureTable]
  · simp [memoryTable]

/-- The identities of the relay stand for threads of one name. -/
theorem labelledRows_linesUp_relay : (∀ sample ∈ relay, sample.threads.ids.Nodup) ∧ AllFit (relay.map Sample.threads) ∧
    ∃ table labelled, rows relay = .ok table ∧ labelledRows relay = .ok labelled ∧ LinesUp relay table labelled := by
  have distinct : ∀ sample ∈ relay, sample.threads.ids.Nodup := by decide
  have fits : AllFit (relay.map Sample.threads) := allFit_of_lt (by decide)
  exact ⟨distinct, fits, labelledRows_linesUp distinct fits⟩

end HostWatch.CpuTable
