/-
**The tasks of a service that are still to run.**

A task is due at a moment of a time scale. Of two tasks the one that is due earlier comes first, and of
two that are due at the same moment the one that was registered first. An agenda holds its tasks in
this order.

* `Agenda.insert_perm` says that an insertion adds the task and nothing else.
* `Agenda.insert_ordered` says that it keeps the order.
-/

namespace HostWatch

/-- A task that is to run. -/
structure Task (A : Type) where
  /-- The moment at which it is due. -/
  due : Int
  /-- The number under which it was registered. -/
  number : Nat
  name : String
  /-- The delay from the end of a run to the next one, nothing for a task that runs once. -/
  delay? : Option Int
  action : A

namespace Task

variable {A : Type}

/-- A task is not later than another one: it is due earlier, or at the same moment and was not
registered later. -/
def NotLater (a b : Task A) : Prop := a.due < b.due ∨ (a.due = b.due ∧ a.number ≤ b.number)

instance (a b : Task A) : Decidable (a.NotLater b) :=
  inferInstanceAs (Decidable (_ ∨ _))

theorem NotLater.trans {a b c : Task A} (ab : a.NotLater b) (bc : b.NotLater c) : a.NotLater c := by
  unfold NotLater at *
  omega

theorem NotLater.of_not {a b : Task A} (h : ¬ a.NotLater b) : b.NotLater a := by
  unfold NotLater at *
  omega

end Task

/-- The tasks that are to run, the next one in front. -/
abbrev Agenda (A : Type) := List (Task A)

namespace Agenda

variable {A : Type}

/-- No task is later than one behind it. -/
def Ordered (agenda : Agenda A) : Prop := agenda.Pairwise Task.NotLater

def insert (task : Task A) : Agenda A → Agenda A
  | [] => [task]
  | first :: rest =>
    if task.NotLater first then task :: first :: rest else first :: insert task rest

theorem insert_perm (task : Task A) (agenda : Agenda A) :
    (insert task agenda).Perm (task :: agenda) := by
  induction agenda with
  | nil => exact .refl _
  | cons first rest ih =>
    unfold insert
    split
    · exact .refl _
    · exact (ih.cons first).trans (.swap ..)

theorem insert_ordered (task : Task A) (agenda : Agenda A) (h : Ordered agenda) :
    Ordered (insert task agenda) := by
  induction agenda with
  | nil => exact List.pairwise_singleton ..
  | cons first rest ih =>
    obtain ⟨before, ordered⟩ := List.pairwise_cons.1 h
    unfold insert
    split
    · rename_i early
      refine List.pairwise_cons.2 ⟨fun other member => ?_, h⟩
      rcases List.mem_cons.1 member with rfl | member
      · exact early
      · exact early.trans (before other member)
    · rename_i late
      refine List.pairwise_cons.2 ⟨fun other member => ?_, ih ordered⟩
      rcases List.mem_cons.1 ((insert_perm task rest).mem_iff.1 member) with rfl | member
      · exact .of_not late
      · exact before other member

end Agenda

end HostWatch
