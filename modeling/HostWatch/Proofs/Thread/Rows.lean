/-
**The rows of a table, by their identities.**

The rows stand in the order of their identities, each identity once. Such a table is known by the cells of each
identity, and an entry makes the cells of its own identity longer and no others.

* `cellsOf`: the cells of an identity, none where there is no row.
* `insert_eq`: an entry fails as its cells fail, or else its row is placed.
* `exists_insertSnapshot`: **a snapshot, no identity of which stands twice, makes the cells of its threads longer, and
  leaves the others as they were.**
-/

import HostWatch.Proofs.Outcomes
import HostWatch.Thread.CpuTable

namespace HostWatch.CpuTable

def ids (table : List ThreadRow) : List Int := table.map ThreadRow.id

/-- The rows stand in the order of their identities, each identity once. -/
def Ascending (table : List ThreadRow) : Prop := (ids table).Pairwise (· < ·)

def cellsOf (table : List ThreadRow) (id : Int) : List Cell :=
  ((table.find? fun row => row.id = id).map ThreadRow.cells).getD []

theorem cellsOf_cons (row : ThreadRow) (rest : List ThreadRow) (id : Int) :
    cellsOf (row :: rest) id = if row.id = id then row.cells else cellsOf rest id := by
  unfold cellsOf
  by_cases same : row.id = id <;> simp [same]

theorem cellsOf_of_notMem {table : List ThreadRow} {id : Int} (absent : id ∉ ids table) : cellsOf table id = [] := by
  induction table with
  | nil => rfl
  | cons row rest ih =>
    rw [ids, List.map_cons, List.mem_cons, not_or] at absent
    rw [cellsOf_cons, if_neg (Ne.symm absent.1), ih absent.2]

theorem Ascending.tail {row : ThreadRow} {rest : List ThreadRow} (ascending : Ascending (row :: rest)) :
    Ascending rest :=
  (List.pairwise_cons.1 ascending).2

/-- What stands behind a row has a greater identity. -/
theorem Ascending.lt {row : ThreadRow} {rest : List ThreadRow} (ascending : Ascending (row :: rest)) {id : Int}
    (member : id ∈ ids rest) : row.id < id :=
  (List.pairwise_cons.1 ascending).1 id member

theorem Ascending.cellsOf_eq {table : List ThreadRow} (ascending : Ascending table) {row : ThreadRow}
    (member : row ∈ table) : cellsOf table row.id = row.cells := by
  induction table with
  | nil => cases member
  | cons first rest ih =>
    rw [cellsOf_cons]
    rcases List.mem_cons.1 member with rfl | behind
    · rw [if_pos rfl]
    · have later := ascending.lt (List.mem_map_of_mem behind)
      rw [if_neg (by omega), ih ascending.tail behind]

/-! ### One entry -/

/-- The table with some cells in the row of an identity. -/
def place (id : Int) (cells : List Cell) : List ThreadRow → List ThreadRow
  | [] => [⟨id, cells⟩]
  | row :: rest =>
    if id < row.id then ⟨id, cells⟩ :: row :: rest
    else if id = row.id then { row with cells := cells } :: rest
    else row :: place id cells rest

theorem mem_ids_place (id : Int) (cells : List Cell) (table : List ThreadRow) (other : Int) :
    other ∈ ids (place id cells table) ↔ other = id ∨ other ∈ ids table := by
  induction table with
  | nil => simp [place, ids]
  | cons row rest ih =>
    unfold place
    split
    · simp [ids]
    · split
      · rename_i same
        simp [ids, same]
      · have swapped : other ∈ ids (row :: place id cells rest) ↔ other = row.id ∨ other ∈ ids (place id cells rest) :=
          List.mem_cons
        rw [swapped, ih, or_left_comm]
        exact or_congr_right List.mem_cons.symm

theorem Ascending.place {table : List ThreadRow} (ascending : Ascending table) (id : Int) (cells : List Cell) :
    Ascending (place id cells table) := by
  induction table with
  | nil => exact List.pairwise_singleton ..
  | cons row rest ih =>
    unfold CpuTable.place
    split
    · rename_i before
      refine List.pairwise_cons.2 ⟨fun other member => ?_, ascending⟩
      rcases List.mem_cons.1 member with rfl | behind
      · exact before
      · exact Int.lt_trans before (ascending.lt behind)
    · split
      · exact ascending
      · refine List.pairwise_cons.2 ⟨fun other member => ?_, ih ascending.tail⟩
        rcases (mem_ids_place ..).1 member with rfl | behind
        · omega
        · exact ascending.lt behind

theorem cellsOf_place (id : Int) (cells : List Cell) (table : List ThreadRow) (other : Int) :
    cellsOf (place id cells table) other = if other = id then cells else cellsOf table other := by
  induction table with
  | nil =>
    rw [place, cellsOf_cons]
    exact if_congr eq_comm rfl rfl
  | cons row rest ih =>
    unfold place
    split
    · rw [cellsOf_cons]
      exact if_congr eq_comm rfl rfl
    · split
      · rename_i same
        rw [cellsOf_cons, cellsOf_cons]
        by_cases found : row.id = other
        · rw [if_pos found, if_pos (by omega)]
        · rw [if_neg found, if_neg (by omega), if_neg found]
      · rw [cellsOf_cons, cellsOf_cons, ih]
        by_cases found : row.id = other
        · rw [if_pos found, if_neg (by omega), if_pos found]
        · rw [if_neg found, if_neg found]

/-- **An entry fails as its cells fail, or else its row is placed.** -/
theorem insert_eq {table : List ThreadRow} (ascending : Ascending table) (column : Nat) (previousTime time : Int)
    (item : ThreadItem) :
    insert column previousTime time item table =
      (extend column previousTime time item (cellsOf table item.id)).map fun cells => place item.id cells table := by
  induction table with
  | nil => rfl
  | cons row rest ih =>
    unfold insert place
    by_cases before : item.id < row.id
    · -- no later row can be the one of the entry
      have absent : item.id ∉ ids (row :: rest) := by
        intro member
        rcases List.mem_cons.1 member with same | behind
        · omega
        · have later := ascending.lt behind
          omega
      rw [cellsOf_of_notMem absent]
      simp only [if_pos before]
      rfl
    · by_cases same : item.id = row.id
      · rw [cellsOf_cons, if_pos same.symm]
        simp only [if_neg before, if_pos same]
        rfl
      · rw [cellsOf_cons, if_neg (Ne.symm same), ih ascending.tail]
        simp only [if_neg before, if_neg same]
        cases extend column previousTime time item (cellsOf rest item.id) <;> rfl

/-! ### One snapshot -/

/-- A table has the rows of another one and those of some threads, whose cells are given. -/
structure Extends (table : List ThreadRow) (items : List ThreadItem) (cells : ThreadItem → List Cell)
    (larger : List ThreadRow) : Prop where
  ascending : Ascending larger
  mem_ids_iff : ∀ id, id ∈ ids larger ↔ id ∈ ids table ∨ id ∈ items.map ThreadItem.id
  cellsOf_item : ∀ item ∈ items, cellsOf larger item.id = cells item
  cellsOf_other : ∀ id, id ∉ items.map ThreadItem.id → cellsOf larger id = cellsOf table id

/-- The entries of threads come one after the other. As no identity stands twice among them, each finds the cells as
they were before the first one. -/
theorem exists_foldlM_insert {table : List ThreadRow} (ascending : Ascending table) {column : Nat}
    {previousTime time : Int} {items : List ThreadItem} (distinct : (items.map ThreadItem.id).Nodup)
    {cells : ThreadItem → List Cell}
    (extended : ∀ item ∈ items, extend column previousTime time item (cellsOf table item.id) = .ok (cells item)) :
    ∃ larger, items.foldlM (fun rows item => insert column previousTime time item rows) table = .ok larger ∧
      Extends table items cells larger := by
  induction items generalizing table with
  | nil =>
    have nobody (item : ThreadItem) (member : item ∈ []) : cellsOf table item.id = cells item :=
      absurd member List.not_mem_nil
    exact ⟨table, rfl, ascending, fun id => by simp, nobody, fun _ _ => rfl⟩
  | cons item items ih =>
    rw [List.map_cons, List.nodup_cons] at distinct
    have first := extended item List.mem_cons_self
    have placed : insert column previousTime time item table = .ok (place item.id (cells item) table) := by
      rw [insert_eq ascending, first]
      rfl
    have kept (other : ThreadItem) (member : other ∈ items) :
        cellsOf (place item.id (cells item) table) other.id = cellsOf table other.id := by
      have different : other.id ≠ item.id := fun same => distinct.1 (same ▸ List.mem_map_of_mem member)
      rw [cellsOf_place, if_neg different]
    obtain ⟨larger, ends, grown⟩ := ih (ascending.place item.id (cells item)) distinct.2 fun other member => by
      rw [kept other member]
      exact extended other (List.mem_cons_of_mem item member)
    refine ⟨larger, ?_, grown.ascending, fun id => ?_, fun other member => ?_, fun id absent => ?_⟩
    · rw [List.foldlM_cons, placed]
      exact ends
    · rw [grown.mem_ids_iff, mem_ids_place, List.map_cons, List.mem_cons]
      tauto
    · rcases List.mem_cons.1 member with rfl | behind
      · rw [grown.cellsOf_other _ distinct.1, cellsOf_place, if_pos rfl]
      · exact grown.cellsOf_item other behind
    · rw [List.map_cons, List.mem_cons, not_or] at absent
      rw [grown.cellsOf_other id absent.2, cellsOf_place, if_neg absent.1]

theorem exists_insertSnapshot {table : List ThreadRow} (ascending : Ascending table) {column : Nat}
    {previousTime : Int} {snapshot : ThreadSnapshot} (distinct : snapshot.ids.Nodup) {cells : ThreadItem → List Cell}
    (extended : ∀ item ∈ snapshot.items,
      extend column previousTime snapshot.takenAt item (cellsOf table item.id) = .ok (cells item)) :
    ∃ larger, insertSnapshot column previousTime snapshot table = .ok larger ∧
      Extends table snapshot.items cells larger :=
  exists_foldlM_insert ascending distinct extended

end HostWatch.CpuTable
