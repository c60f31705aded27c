/-
**What the table of threads says.**

Each snapshot adds a column. The cells of a thread are filled up to the column before, so that the last one of them is
that of the snapshot before, an empty one if the thread was not there; nothing further back is looked at.

* `Comparable`: **when the usage since the snapshot before is known.**
* `Tells`: what the cell of a thread says in one column, given the snapshot before.
* `Shows`: what the cells of a thread say of a list of snapshots, column by column; `exists_extend` adds one.
* `Follows`, `Follows.exists_insertSnapshots`: the table of the snapshots so far, kept by each further one.
* `rows_tabulates`: **a row for each thread, in order, with a cell for each sample that tells what it should.**
-/

import HostWatch.Proofs.Binary64.Rounding
import HostWatch.Proofs.Thread.Rows
import Mathlib.Data.List.Nodup

namespace HostWatch.CpuTable

/-! ### Cells -/

/-- **The usage of a thread since the snapshot before is known**: the thread was there, as far as can be told, both CPU
times were measured, none was lost, and time has passed. -/
structure Comparable (before now : ThreadSnapshot) (previous current : ThreadItem) : Prop where
  previous_mem : previous ∈ before.items
  id_eq : previous.id = current.id
  same : previous.info.nativeId = current.info.nativeId ∨ previous.info.nativeId = none ∨ current.info.nativeId = none
  previous_measured : 0 ≤ previous.cpuNanos
  current_measured : 0 ≤ current.cpuNanos
  gained : previous.cpuNanos ≤ current.cpuNanos
  later : before.takenAt < now.takenAt

/-- The CPU time used between two snapshots in percent of the time between them, the exact quotient rounded once. -/
def shareBetween (before now : ThreadSnapshot) (previous current : ThreadItem) : Except ArithmeticFault Binary64 :=
  Binary64.ofQuotient (100 * (current.cpuNanos - previous.cpuNanos)) ((now.takenAt - before.takenAt) * 1000000)

/-- The percentage in the cell of a thread, given the snapshot before. -/
structure IsUsage (before? : Option ThreadSnapshot) (now : ThreadSnapshot) (current : ThreadItem)
    (percent : Option Int) : Prop where
  known : ∀ before ∈ before?, ∀ previous, Comparable before now previous current →
    ∃ share whole, shareBetween before now previous current = .ok share ∧ share.truncate = .ok whole ∧
      percent = some (min 100 whole)
  unknown : (∀ before ∈ before?, ∀ previous, ¬ Comparable before now previous current) → percent = none

/-- What the cell of a thread says in the column of a snapshot, given the snapshot before. -/
structure Tells (before? : Option ThreadSnapshot) (now : ThreadSnapshot) (id : Int) (cell : Cell) : Prop where
  absent_iff : cell = none ↔ id ∉ now.ids
  item_mem : ∀ entry ∈ cell, entry.item ∈ now.items ∧ entry.item.id = id
  usage : ∀ entry ∈ cell, IsUsage before? now entry.item entry.percent

/-- The cells of a thread tell of some snapshots, one by one. -/
inductive Shows (id : Int) : List ThreadSnapshot → List Cell → Prop
  | nil : Shows id [] []
  | concat {seen : List ThreadSnapshot} {cells : List Cell} {now : ThreadSnapshot} {cell : Cell} :
      Shows id seen cells → Tells seen.getLast? now id cell → Shows id (seen ++ [now]) (cells ++ [cell])

/-- The snapshot before the one at an index. -/
def before? (snapshots : List ThreadSnapshot) : Nat → Option ThreadSnapshot
  | 0 => none
  | index + 1 => snapshots[index]?

section Shows

variable {id : Int} {seen : List ThreadSnapshot} {cells : List Cell}

theorem Shows.length_eq (shows : Shows id seen cells) : cells.length = seen.length := by
  induction shows with
  | nil => rfl
  | concat _ _ ih => rw [List.length_append, List.length_append, ih]; rfl

theorem before?_length (seen : List ThreadSnapshot) : before? seen seen.length = seen.getLast? := by
  rw [List.getLast?_eq_getElem?]
  cases seen <;> rfl

theorem before?_concat (seen : List ThreadSnapshot) (now : ThreadSnapshot) {index : Nat} (le : index ≤ seen.length) :
    before? (seen ++ [now]) index = before? seen index := by
  cases index with
  | zero => rfl
  | succ index => exact List.getElem?_append_left le

/-- Each cell tells of the snapshot in its column. -/
theorem Shows.tells (shows : Shows id seen cells) {index : Nat} {now : ThreadSnapshot} {cell : Cell}
    (snapshot : seen[index]? = some now) (found : cells[index]? = some cell) : Tells (before? seen index) now id cell := by
  induction shows with
  | nil => simp at found
  | @concat seen cells last lastCell shows tells ih =>
    have length_eq := shows.length_eq
    obtain ⟨inside, -⟩ := List.getElem?_eq_some_iff.1 snapshot
    rw [List.length_append, List.length_singleton] at inside
    rw [before?_concat seen last (by omega)]
    by_cases earlier : index < seen.length
    · rw [List.getElem?_append_left earlier] at snapshot
      rw [List.getElem?_append_left (by omega)] at found
      exact ih snapshot found
    · obtain rfl : index = seen.length := by omega
      rw [List.getElem?_concat_length] at snapshot
      rw [← length_eq, List.getElem?_concat_length] at found
      obtain rfl := Option.some.inj snapshot
      obtain rfl := Option.some.inj found
      rwa [before?_length]

/-- The last cell is that of the last snapshot. -/
theorem Shows.last (shows : Shows id seen cells) {before : ThreadSnapshot} (last : seen.getLast? = some before) :
    ∃ cell earlier, cells.getLast? = some cell ∧ Tells earlier before id cell := by
  cases shows with
  | nil => cases last
  | @concat seen cells now cell _ tells =>
    rw [List.getLast?_concat] at last
    obtain rfl := Option.some.inj last
    exact ⟨cell, _, List.getLast?_concat, tells⟩

end Shows

/-! ### Usages -/

theorem sameThread_iff (previous current : ThreadItem) :
    sameThread previous current = true ↔ previous.info.nativeId = current.info.nativeId ∨
      previous.info.nativeId = none ∨ current.info.nativeId = none := by
  unfold sameThread
  cases previous.info.nativeId <;> cases current.info.nativeId <;> simp

/-- No usage needs a quotient beyond the binary format. -/
def Fits (before? : Option ThreadSnapshot) (now : ThreadSnapshot) : Prop :=
  ∀ before ∈ before?, ∀ previous, ∀ current ∈ now.items, Comparable before now previous current →
    ∃ share, shareBetween before now previous current = .ok share

/-- The thread that a usage is known against is the one of the same identity, which stands there once. -/
theorem Comparable.eq_of_mem {before now : ThreadSnapshot} {previous current other : ThreadItem}
    (comparable : Comparable before now other current) (distinct : before.ids.Nodup) (member : previous ∈ before.items)
    (id_eq : previous.id = current.id) : other = previous :=
  List.inj_on_of_nodup_map distinct comparable.previous_mem member (comparable.id_eq.trans id_eq.symm)

/-- Between two captures of one thread the percentage is that of the share, if it can be told. -/
theorem exists_percentBetween {before now : ThreadSnapshot} (distinct : before.ids.Nodup) {previous current : ThreadItem}
    (member : previous ∈ before.items) (id_eq : previous.id = current.id) (same : sameThread previous current = true)
    (fits : Comparable before now previous current → ∃ share, shareBetween before now previous current = .ok share) :
    ∃ percent, percentBetween previous before.takenAt current now.takenAt = .ok percent ∧
      IsUsage (some before) now current percent := by
  rw [sameThread_iff] at same
  unfold percentBetween
  dsimp only
  split
  · rename_i unmeasured
    refine ⟨none, rfl, fun _ found other comparable => ?_, fun _ => rfl⟩
    obtain rfl := Option.some.inj found
    obtain rfl := comparable.eq_of_mem distinct member id_eq
    have later := comparable.later
    have gained := comparable.gained
    have first := comparable.previous_measured
    have second := comparable.current_measured
    omega
  · rename_i measured
    have comparable : Comparable before now previous current :=
      ⟨member, id_eq, same, by omega, by omega, by omega, by omega⟩
    obtain ⟨share, told⟩ := fits comparable
    obtain ⟨whole, truncated⟩ := Binary64.exists_truncate_of_ofQuotient told
    refine ⟨some (min 100 whole), ?_, fun _ found other othersComparable => ?_, fun none => ?_⟩
    · show (shareBetween before now previous current >>= fun quotient =>
        quotient.truncate >>= fun percent => pure (some (min 100 percent))) = _
      rw [told]
      show (share.truncate >>= fun percent => pure (some (min 100 percent))) = _
      rw [truncated]
      rfl
    · obtain rfl := Option.some.inj found
      obtain rfl := othersComparable.eq_of_mem distinct member id_eq
      exact ⟨share, whole, told, truncated, rfl⟩
    · exact absurd comparable (none before rfl previous)

/-- The percentage of a thread, given the last of its cells. -/
def percentAfter (last : Option Cell) (previousTime : Int) (item : ThreadItem) (time : Int) :
    Except ArithmeticFault (Option Int) :=
  match last with
  | some (some previous) =>
    if sameThread previous.item item then percentBetween previous.item previousTime item time else .ok none
  | _ => .ok none

theorem extend_eq (column : Nat) (previousTime time : Int) (item : ThreadItem) (cells : List Cell) :
    extend column previousTime time item cells =
      (percentAfter (fillTo column cells).getLast? previousTime item time).map fun percent =>
        fillTo column cells ++ [some ⟨item, percent⟩] := by
  unfold extend percentAfter
  dsimp only
  rcases (fillTo column cells).getLast? with _ | _ | previous
  · rfl
  · rfl
  · dsimp only
    split
    · cases percentBetween previous.item previousTime item time <;> rfl
    · rfl

/-- **A thread in one more snapshot gets one more cell**, which goes by the snapshot before. -/
theorem exists_extend {seen : List ThreadSnapshot} {cells : List Cell} {now : ThreadSnapshot} {item : ThreadItem}
    (shows : Shows item.id seen (fillTo seen.length cells)) (distinct : ∀ snapshot ∈ seen, snapshot.ids.Nodup)
    (member : item ∈ now.items) (fits : Fits seen.getLast? now) {previousTime : Int}
    (time_eq : ∀ before ∈ seen.getLast?, before.takenAt = previousTime) :
    ∃ percent, extend seen.length previousTime now.takenAt item cells =
        .ok (fillTo seen.length cells ++ [some ⟨item, percent⟩]) ∧ IsUsage seen.getLast? now item percent := by
  have fill {percent : Option Int} (told : percentAfter (fillTo seen.length cells).getLast? previousTime item now.takenAt =
      .ok percent) : extend seen.length previousTime now.takenAt item cells =
        .ok (fillTo seen.length cells ++ [some ⟨item, percent⟩]) := by
    rw [extend_eq, told]
    rfl
  cases last : seen.getLast? with
  | none =>
    have empty : (fillTo seen.length cells).getLast? = none := by
      rw [List.getLast?_eq_none_iff] at last ⊢
      rw [← List.length_eq_zero_iff, shows.length_eq, last]
      rfl
    exact ⟨none, fill (by rw [empty]; rfl), nofun, fun _ => rfl⟩
  | some before =>
    obtain ⟨cell, earlier, lastCell, tells⟩ := shows.last last
    rw [last] at fits
    have distinct := distinct before (List.mem_of_getLast? last)
    obtain rfl := time_eq before last
    cases cell with
    | none =>
      refine ⟨none, fill (by rw [lastCell]; rfl), fun _ found previous comparable => ?_, fun _ => rfl⟩
      obtain rfl := Option.some.inj found
      have present : item.id ∈ before.ids :=
        comparable.id_eq ▸ List.mem_map_of_mem comparable.previous_mem
      exact absurd present (tells.absent_iff.1 rfl)
    | some entry =>
      obtain ⟨present, id_eq⟩ := tells.item_mem entry rfl
      by_cases same : sameThread entry.item item = true
      · obtain ⟨percent, told, isUsage⟩ := exists_percentBetween distinct present id_eq same
          (fits before rfl entry.item item member)
        refine ⟨percent, fill ?_, isUsage⟩
        rw [lastCell]
        exact (if_pos same).trans told
      · refine ⟨none, fill ?_, fun _ found previous comparable => ?_, fun _ => rfl⟩
        · rw [lastCell]
          exact if_neg same
        · obtain rfl := Option.some.inj found
          rw [sameThread_iff, ← comparable.eq_of_mem distinct present id_eq] at same
          exact absurd comparable.same same

/-! ### Columns -/

theorem fillTo_of_length_eq {count : Nat} {cells : List Cell} (length_eq : cells.length = count) :
    fillTo count cells = cells := by
  unfold fillTo
  rw [length_eq, Nat.sub_self]
  exact List.append_nil cells

theorem fillTo_succ {count : Nat} {cells : List Cell} (le : cells.length ≤ count) :
    fillTo (count + 1) cells = fillTo count cells ++ [none] := by
  unfold fillTo
  rw [Nat.succ_sub le, List.replicate_succ', List.append_assoc]

/-- **The table of the snapshots so far.** -/
structure Follows (seen : List ThreadSnapshot) (table : List ThreadRow) : Prop where
  ascending : Ascending table
  mem_ids_iff : ∀ id, id ∈ ids table ↔ ∃ snapshot ∈ seen, id ∈ snapshot.ids
  length_le : ∀ id, (cellsOf table id).length ≤ seen.length
  shows : ∀ id, Shows id seen (fillTo seen.length (cellsOf table id))

theorem follows_nil : Follows [] [] :=
  ⟨.nil, fun id => by simp [ids], fun _ => Nat.le_refl 0, fun _ => .nil⟩

theorem tells_absent {before? : Option ThreadSnapshot} {now : ThreadSnapshot} {id : Int} (absent : id ∉ now.ids) :
    Tells before? now id none :=
  ⟨iff_of_true rfl absent, fun entry found => (Option.not_mem_none entry found).elim,
    fun entry found => (Option.not_mem_none entry found).elim⟩

theorem tells_entry {before? : Option ThreadSnapshot} {now : ThreadSnapshot} {item : ThreadItem}
    (member : item ∈ now.items) {percent : Option Int} (isUsage : IsUsage before? now item percent) :
    Tells before? now item.id (some ⟨item, percent⟩) := by
  refine ⟨iff_of_false nofun fun absent => absent (List.mem_map_of_mem member), fun entry found => ?_, fun entry found => ?_⟩
  · obtain rfl := Option.some.inj found
    exact ⟨member, rfl⟩
  · obtain rfl := Option.some.inj found
    exact isUsage

/-- **One more snapshot makes one more column.** -/
theorem Follows.exists_insertSnapshot {seen : List ThreadSnapshot} {table : List ThreadRow} (follows : Follows seen table)
    (distinct : ∀ snapshot ∈ seen, snapshot.ids.Nodup) {now : ThreadSnapshot} (distinctNow : now.ids.Nodup)
    (fits : Fits seen.getLast? now) {previousTime : Int} (time_eq : ∀ before ∈ seen.getLast?, before.takenAt = previousTime) :
    ∃ larger, insertSnapshot seen.length previousTime now table = .ok larger ∧ Follows (seen ++ [now]) larger := by
  have extended (item : ThreadItem) : ∃ percent, item ∈ now.items →
      extend seen.length previousTime now.takenAt item (cellsOf table item.id) =
        .ok (fillTo seen.length (cellsOf table item.id) ++ [some ⟨item, percent⟩]) ∧ IsUsage seen.getLast? now item percent := by
    by_cases member : item ∈ now.items
    · obtain ⟨percent, ends⟩ := exists_extend (follows.shows item.id) distinct member fits time_eq
      exact ⟨percent, fun _ => ends⟩
    · exact ⟨none, fun present => absurd present member⟩
  choose percent ends using extended
  obtain ⟨larger, inserted, grown⟩ := CpuTable.exists_insertSnapshot follows.ascending distinctNow
    fun item member => (ends item member).1
  refine ⟨larger, inserted, grown.ascending, fun id => ?_, fun id => ?_, fun id => ?_⟩
  · rw [grown.mem_ids_iff, follows.mem_ids_iff]
    simp only [List.mem_append, List.mem_singleton, or_and_right, exists_or, exists_eq_left]
    rfl
  · rw [List.length_append]
    by_cases present : id ∈ now.ids
    · obtain ⟨item, member, rfl⟩ := List.mem_map.1 present
      rw [grown.cellsOf_item item member, List.length_append, (follows.shows item.id).length_eq]
      exact Nat.le_refl _
    · rw [grown.cellsOf_other id present]
      exact Nat.le_succ_of_le (follows.length_le id)
  · rw [List.length_append]
    by_cases present : id ∈ now.ids
    · obtain ⟨item, member, rfl⟩ := List.mem_map.1 present
      have full : (fillTo seen.length (cellsOf table item.id) ++ [some (Entry.mk item (percent item))]).length =
          seen.length + 1 := by
        rw [List.length_append, (follows.shows item.id).length_eq]
        rfl
      rw [grown.cellsOf_item item member]
      have shows := (follows.shows item.id).concat (tells_entry member (ends item member).2)
      rwa [← fillTo_of_length_eq full] at shows
    · rw [grown.cellsOf_other id present]
      show Shows id (seen ++ [now]) (fillTo (seen.length + 1) _)
      rw [fillTo_succ (follows.length_le id)]
      exact (follows.shows id).concat (tells_absent present)

/-- The usages in a list of snapshots need no quotient beyond the binary format. -/
def AllFit (snapshots : List ThreadSnapshot) : Prop :=
  ∀ index now, snapshots[index]? = some now → Fits (before? snapshots index) now

theorem Follows.exists_insertSnapshots {seen rest : List ThreadSnapshot} {table : List ThreadRow}
    (follows : Follows seen table) (distinct : ∀ snapshot ∈ seen ++ rest, snapshot.ids.Nodup)
    (fits : AllFit (seen ++ rest)) {previousTime : Int} (time_eq : ∀ before ∈ seen.getLast?, before.takenAt = previousTime) :
    ∃ larger, insertSnapshots seen.length previousTime table rest = .ok larger ∧ Follows (seen ++ rest) larger := by
  induction rest generalizing seen table previousTime with
  | nil => exact ⟨table, rfl, by rwa [List.append_nil]⟩
  | cons now rest ih =>
    have fitsNow : Fits seen.getLast? now := by
      have fits := fits seen.length now (by simp)
      have same : before? (seen ++ now :: rest) seen.length = seen.getLast? := by
        rw [← before?_length]
        cases seen with
        | nil => rfl
        | cons first seen => exact List.getElem?_append_left (Nat.lt_succ_self seen.length)
      rwa [same] at fits
    obtain ⟨middle, inserted, follows⟩ := follows.exists_insertSnapshot
      (fun snapshot member => distinct snapshot (List.mem_append_left _ member)) (distinct now (by simp)) fitsNow time_eq
    rw [List.append_cons] at distinct fits
    have takenAt_eq : ∀ before ∈ (seen ++ [now]).getLast?, before.takenAt = now.takenAt := by
      intro before last
      rw [List.getLast?_concat] at last
      exact congrArg ThreadSnapshot.takenAt (Option.some.inj last).symm
    obtain ⟨larger, ends, follows⟩ := ih follows distinct fits takenAt_eq
    refine ⟨larger, ?_, by rwa [List.append_cons]⟩
    unfold insertSnapshots
    rw [inserted]
    rw [List.length_append] at ends
    exact ends

/-! ### Tables -/

/-- **A table says what it should of some samples.** -/
structure Tabulates (samples : List Sample) (table : List ThreadRow) : Prop where
  ascending : Ascending table
  mem_ids_iff : ∀ id, id ∈ ids table ↔ ∃ sample ∈ samples, id ∈ sample.threads.ids
  length_eq : ∀ row ∈ table, row.cells.length = samples.length
  tells : ∀ row ∈ table, ∀ index sample cell, samples[index]? = some sample → row.cells[index]? = some cell →
    Tells (before? (samples.map Sample.threads) index) sample.threads row.id cell

/-- The rows of a table of snapshots, filled up to the last column, say what they should. -/
theorem Follows.tabulates {samples : List Sample} {table : List ThreadRow}
    (follows : Follows (samples.map Sample.threads) table) :
    Tabulates samples (table.map fun row => { row with cells := fillTo samples.length row.cells }) := by
  have ids_eq : ids (table.map fun row => { row with cells := fillTo samples.length row.cells }) = ids table := by
    unfold ids
    rw [List.map_map]
    rfl
  have shows (row : ThreadRow) (member : row ∈ table) :
      Shows row.id (samples.map Sample.threads) (fillTo samples.length row.cells) := by
    have shows := follows.shows row.id
    rwa [follows.ascending.cellsOf_eq member, List.length_map] at shows
  refine ⟨?_, fun id => ?_, ?_, ?_⟩
  · unfold Ascending
    rw [ids_eq]
    exact follows.ascending
  · rw [ids_eq, follows.mem_ids_iff]
    simp only [List.mem_map, exists_exists_and_eq_and]
  · rw [List.forall_mem_map]
    intro row member
    exact (shows row member).length_eq.trans (List.length_map _)
  · rw [List.forall_mem_map]
    intro row member index sample cell taken found
    refine (shows row member).tells ?_ found
    rw [List.getElem?_map, taken]
    rfl

/-- The rows are made one snapshot after the other, and filled up at last. -/
theorem exists_rows {samples : List Sample} (distinct : ∀ sample ∈ samples, sample.threads.ids.Nodup)
    (fits : AllFit (samples.map Sample.threads)) :
    ∃ table, rows samples = .ok (table.map fun row => { row with cells := fillTo samples.length row.cells }) ∧
      Follows (samples.map Sample.threads) table := by
  have unseen : ∀ before ∈ ([] : List ThreadSnapshot).getLast?,
      before.takenAt = ((samples.map Sample.threads).getLast?.map ThreadSnapshot.takenAt).getD 0 := nofun
  obtain ⟨table, ends, follows⟩ :=
    follows_nil.exists_insertSnapshots (List.forall_mem_map.2 distinct) fits unseen
  refine ⟨table, ?_, follows⟩
  unfold rows
  dsimp only
  rw [show insertSnapshots 0 _ [] (samples.map Sample.threads) = .ok table from ends]
  rfl

/-- **The table of samples, no identity of which stands twice, has a row for each thread, in order, with a cell for each
sample that tells what it should.** -/
theorem rows_tabulates {samples : List Sample} (distinct : ∀ sample ∈ samples, sample.threads.ids.Nodup)
    (fits : AllFit (samples.map Sample.threads)) : ∃ table, rows samples = .ok table ∧ Tabulates samples table := by
  obtain ⟨table, made, follows⟩ := exists_rows distinct fits
  exact ⟨_, made, follows.tabulates⟩

/-- CPU times below `2 ^ 64` nanoseconds give no quotient beyond the binary format. -/
theorem allFit_of_lt {snapshots : List ThreadSnapshot}
    (small : ∀ snapshot ∈ snapshots, ∀ item ∈ snapshot.items, item.cpuNanos < Nat.pow 2 64) : AllFit snapshots := by
  intro index now taken before earlier previous current member comparable
  have few := small now (List.mem_of_getElem? taken) current member
  have gained := comparable.gained
  have measured := comparable.previous_measured
  have later := comparable.later
  have size : Nat.pow 2 64 = 18446744073709551616 := rfl
  refine Binary64.exists_ofQuotient (k := 64) (by decide) ?_
  rw [size] at few ⊢
  omega

/-- A thread with the identity that the system gives it and its CPU time. -/
def runner (id : Int) (nativeId : Option Int) (cpuNanos : Int) : ThreadItem :=
  ⟨id, ⟨id, nativeId, "runner", false, "RUNNABLE", none, none, none, []⟩, cpuNanos⟩

def lap (time : Int) (runners : List ThreadItem) : Sample :=
  ⟨time, 0, fun _ => none, ⟨runners, runners.length, 0, time⟩, 0, .idle, 0, 0⟩

/-- A thread comes late, another one pauses, and its identity is given to a third one. -/
def relay : List Sample :=
  [lap 0 [runner 7 (some 70) 0], lap 1000 [runner 7 (some 70) 400000000, runner 3 none 5], lap 2000 [runner 3 none 5],
    lap 3000 [runner 3 (some 30) 900000000, runner 7 (some 71) 1]]

theorem rows_tabulates_relay : (∀ sample ∈ relay, sample.threads.ids.Nodup) ∧ AllFit (relay.map Sample.threads) ∧
    ∃ table, rows relay = .ok table ∧ Tabulates relay table := by
  have distinct : ∀ sample ∈ relay, sample.threads.ids.Nodup := by decide
  have fits : AllFit (relay.map Sample.threads) := allFit_of_lt (by decide)
  exact ⟨distinct, fits, rows_tabulates distinct fits⟩

end HostWatch.CpuTable
