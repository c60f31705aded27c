/-
**Lists of values with keys.**

A list of pairs keeps one value for each key. Setting a key that is already there keeps its place.

* `lookup_set` and `lookup_erase` say what a look-up finds afterwards.
* `set_of_notMem` says where a new key stands.
* `lookup_map` says what it finds when the values are changed.
* `nodup_keys_set` and `nodup_keys_erase` say that no key comes to stand twice.
* `lookup_perm` says that a look-up does not hang on the order, when no key stands twice.
-/

namespace HostWatch.KeyedList

variable {α β : Type} [DecidableEq α]

/-- The list with a value for a key: in place of the old value, or else at the end. -/
def set (key : α) (value : β) : List (α × β) → List (α × β)
  | [] => [(key, value)]
  | (k, v) :: rest => if k = key then (key, value) :: rest else (k, v) :: set key value rest

def erase (key : α) (entries : List (α × β)) : List (α × β) :=
  entries.filter fun entry => entry.1 ≠ key

theorem lookup_set (key other : α) (value : β) (entries : List (α × β)) :
    (set key value entries).lookup other =
      if other = key then some value else entries.lookup other := by
  induction entries with
  | nil =>
    by_cases h : other = key
    · simp [set, h]
    · simp [set, h, List.lookup_cons, beq_false_of_ne h]
  | cons entry rest ih =>
    obtain ⟨k, v⟩ := entry
    unfold set
    by_cases hk : k = key
    · by_cases h : other = key
      · simp [hk, h]
      · simp [hk, h, List.lookup_cons, beq_false_of_ne h]
    · rw [if_neg hk, List.lookup_cons, List.lookup_cons, ih]
      by_cases h : other = key
      · subst h
        simp [beq_false_of_ne (Ne.symm hk)]
      · simp [h]

theorem lookup_erase (key other : α) (entries : List (α × β)) :
    (erase key entries).lookup other = if other = key then none else entries.lookup other := by
  induction entries with
  | nil => simp [erase]
  | cons entry rest ih =>
    obtain ⟨k, v⟩ := entry
    unfold erase at ih ⊢
    by_cases hk : k = key
    · subst hk
      rw [List.filter_cons_of_neg (by simp), ih, List.lookup_cons]
      by_cases h : other = k
      · simp [h]
      · simp [h, beq_false_of_ne h]
    · rw [List.filter_cons_of_pos (by simpa using hk), List.lookup_cons, List.lookup_cons, ih]
      by_cases h : other = k
      · subst h
        simp [hk]
      · simp [beq_false_of_ne h]

/-- Setting a key to the value that it has changes nothing. -/
theorem set_eq_self {key : α} {value : β} {entries : List (α × β)}
    (present : entries.lookup key = some value) : set key value entries = entries := by
  induction entries with
  | nil => simp at present
  | cons entry rest ih =>
    obtain ⟨k, v⟩ := entry
    unfold set
    by_cases same : k = key
    · subst same
      simp only [List.lookup_cons_self, Option.some.injEq] at present
      rw [if_pos rfl, present]
    · rw [List.lookup_cons, beq_false_of_ne (Ne.symm same)] at present
      rw [if_neg same, ih present]

/-- A key that is not there yet comes to stand at the end. -/
theorem set_of_notMem {key : α} (value : β) {entries : List (α × β)} (absent : key ∉ entries.map Prod.fst) :
    set key value entries = entries ++ [(key, value)] := by
  induction entries with
  | nil => rfl
  | cons entry rest ih =>
    obtain ⟨k, v⟩ := entry
    rw [List.map_cons, List.mem_cons, not_or] at absent
    unfold set
    rw [if_neg (Ne.symm absent.1), ih absent.2]
    rfl

theorem mem_keys_set (key other : α) (value : β) (entries : List (α × β)) :
    other ∈ (set key value entries).map Prod.fst ↔ other = key ∨ other ∈ entries.map Prod.fst := by
  induction entries with
  | nil => simp [set]
  | cons entry rest ih =>
    obtain ⟨k, v⟩ := entry
    unfold set
    by_cases same : k = key
    · subst same
      simp
    · rw [if_neg same, List.map_cons, List.map_cons, List.mem_cons, List.mem_cons, ih]
      exact or_left_comm

theorem nodup_keys_set (key : α) (value : β) {entries : List (α × β)}
    (distinct : (entries.map Prod.fst).Nodup) : ((set key value entries).map Prod.fst).Nodup := by
  induction entries with
  | nil => simp [set]
  | cons entry rest ih =>
    obtain ⟨k, v⟩ := entry
    obtain ⟨absent, distinct⟩ := List.nodup_cons.1 distinct
    unfold set
    by_cases same : k = key
    · subst same
      rw [if_pos rfl]
      exact List.nodup_cons.2 ⟨absent, distinct⟩
    · rw [if_neg same]
      refine List.nodup_cons.2 ⟨fun member => ?_, ih distinct⟩
      rcases (mem_keys_set ..).1 member with equal | member
      · exact same equal
      · exact absent member

theorem nodup_keys_erase (key : α) {entries : List (α × β)}
    (distinct : (entries.map Prod.fst).Nodup) : ((erase key entries).map Prod.fst).Nodup :=
  distinct.sublist (List.filter_sublist.map Prod.fst)

/-- When no key stands twice, a look-up finds each entry. -/
theorem lookup_eq_some_iff_mem {entries : List (α × β)} (distinct : (entries.map Prod.fst).Nodup) (key : α)
    (value : β) : entries.lookup key = some value ↔ (key, value) ∈ entries := by
  constructor
  · intro found
    obtain ⟨before, after, split, _⟩ := List.lookup_eq_some_iff.1 found
    rw [split]
    simp
  · intro member
    obtain ⟨before, after, rfl⟩ := List.append_of_mem member
    refine List.lookup_eq_some_iff.2 ⟨before, after, rfl, fun entry earlier => ?_⟩
    rw [List.map_append, List.nodup_append] at distinct
    have different := distinct.2.2 entry.1 (List.mem_map_of_mem earlier) key (by simp)
    simpa using Ne.symm different

theorem lookup_perm {entries reordered : List (α × β)} (perm : reordered.Perm entries)
    (distinct : (entries.map Prod.fst).Nodup) (key : α) : reordered.lookup key = entries.lookup key := by
  have distinct' : (reordered.map Prod.fst).Nodup := (perm.map Prod.fst).nodup_iff.2 distinct
  apply Option.ext
  intro value
  rw [lookup_eq_some_iff_mem distinct', lookup_eq_some_iff_mem distinct, perm.mem_iff]

theorem lookup_map {γ : Type} (change : β → γ) (key : α) (entries : List (α × β)) :
    (entries.map fun (k, v) => (k, change v)).lookup key = (entries.lookup key).map change := by
  induction entries with
  | nil => rfl
  | cons entry rest ih =>
    obtain ⟨k, v⟩ := entry
    rw [List.map_cons, List.lookup_cons, List.lookup_cons, ih]
    cases key == k <;> rfl

end HostWatch.KeyedList
