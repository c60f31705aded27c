/-
**The threads of several samples side by side.**

Each thread has a row, each sample a column. A cell tells how much of the time since the sample before
the thread has used the CPU, as far as that is known. An identity may be given to a new thread once its
thread has ended; the new one continues the row, and its usage is not known at first.

* `rows` makes the table, its rows in the order of the identities.
* `labelledRows` labels each row with the name that the thread had last.
-/
import HostWatch.Clock
import HostWatch.KeyedList
import HostWatch.Sample.Columns
import HostWatch.Thread.Text

namespace HostWatch.CpuTable

/-- A thread in one sample. -/
structure Entry where
  item : ThreadItem
  /-- The CPU usage since the sample before, in percent, when it is known. -/
  percent : Option Int

/-- A cell, empty where the thread did not live. -/
abbrev Cell := Option Entry

/-- The cells of one thread. -/
structure ThreadRow where
  id : Int
  cells : List Cell

/-- Whether two captures with one identity are of one thread, as far as can be told. -/
def sameThread (previous current : ThreadItem) : Bool :=
  match previous.info.nativeId, current.info.nativeId with
  | some p, some c => p = c
  | _, _ => true

/-- The CPU usage of a thread between two moments, at most one hundred percent. It is not known when
the CPU time cannot be measured, when it went back, or when no time passed. -/
def percentBetween (previous : ThreadItem) (previousTime : Int) (current : ThreadItem)
    (time : Int) : Except ArithmeticFault (Option Int) :=
  let elapsed := time - previousTime
  let used := current.cpuNanos - previous.cpuNanos
  if previous.cpuNanos < 0 ∨ current.cpuNanos < 0 ∨ elapsed ≤ 0 ∨ used < 0 then .ok none
  else do
    let quotient ← Binary64.ofQuotient (100 * used) (elapsed * nanosPerMilli)
    let percent ← quotient.truncate
    return some (min 100 percent)

/-- Cells filled up with empty ones to a number of them. -/
def fillTo (count : Nat) (cells : List Cell) : List Cell :=
  cells ++ List.replicate (count - cells.length) none

/-- The cells of a row with one more entry, in the column of a sample. -/
def extend (column : Nat) (previousTime time : Int) (item : ThreadItem) (cells : List Cell) :
    Except ArithmeticFault (List Cell) := do
  let filled := fillTo column cells
  let percent ← match filled.getLast? with
    | some (some previous) =>
      if sameThread previous.item item then percentBetween previous.item previousTime item time
      else .ok none
    | _ => .ok none
  return filled ++ [some ⟨item, percent⟩]

/-- The rows with one more entry; rows stand in the order of their identities. -/
def insert (column : Nat) (previousTime time : Int) (item : ThreadItem) :
    List ThreadRow → Except ArithmeticFault (List ThreadRow)
  | [] => do
    let cells ← extend column previousTime time item []
    return [⟨item.id, cells⟩]
  | row :: rest =>
    if item.id < row.id then do
      let cells ← extend column previousTime time item []
      return ⟨item.id, cells⟩ :: row :: rest
    else if item.id = row.id then do
      let cells ← extend column previousTime time item row.cells
      return { row with cells := cells } :: rest
    else do
      let others ← insert column previousTime time item rest
      return row :: others

/-- The rows with the threads of one more snapshot. -/
def insertSnapshot (column : Nat) (previousTime : Int) (snapshot : ThreadSnapshot)
    (table : List ThreadRow) : Except ArithmeticFault (List ThreadRow) :=
  snapshot.items.foldlM
    (fun rows item => insert column previousTime snapshot.takenAt item rows) table

/-- The rows with the threads of further snapshots, of which the first one stands in a column and
comes after a moment. -/
def insertSnapshots (column : Nat) (previousTime : Int) (table : List ThreadRow) :
    List ThreadSnapshot → Except ArithmeticFault (List ThreadRow)
  | [] => .ok table
  | snapshot :: rest => do
    let rows ← insertSnapshot column previousTime snapshot table
    insertSnapshots (column + 1) snapshot.takenAt rows rest

/-- The table of the threads of some samples. Two captures of one thread in the first sample are as far
apart as the first and the last sample. -/
def rows (samples : List Sample) : Except ArithmeticFault (List ThreadRow) := do
  let snapshots := samples.map Sample.threads
  let last := (snapshots.getLast?.map ThreadSnapshot.takenAt).getD 0
  let table ← insertSnapshots 0 last [] snapshots
  return table.map fun row => { row with cells := fillTo samples.length row.cells }

/-- The label of a thread: its identity and its name. -/
def labelOf (item : ThreadItem) : String := ThreadInfo.idText item.id ++ " " ++ item.info.name

/-- The label of a row, that of the thread in the last sample in which it occurs. -/
def label (row : ThreadRow) : Except Failure String :=
  match (row.cells.filterMap id).getLast? with
  | some entry => .ok (labelOf entry.item)
  | none => .error .missingColumn

/-- What the row of a thread shows: a cell is empty where the thread did not live, and holds nothing where
its usage is not known. -/
def usages (row : ThreadRow) : List (Option (Option Int)) :=
  row.cells.map fun cell => cell.map Entry.percent

/-- The rows by their labels; of several rows with one label the last one counts, in the place of the
first one. -/
def byLabel (table : List ThreadRow) : Except Failure (List (String × List (Option (Option Int)))) :=
  table.foldlM (fun labelled row => do
    let text ← label row
    return KeyedList.set text (usages row) labelled) []

/-- The table of the CPU usages, its rows by their labels. -/
def labelledRows (samples : List Sample) : Except Failure (List (Row (Option (Option Int)))) := do
  let table ← (rows samples).mapError .arithmetic
  let labelled ← byLabel table
  return labelled.map fun (title, cells) => ⟨title, cells⟩

end HostWatch.CpuTable
