/-
**The order of slots.**

The members of a set are kept in a table of slots and shown in the order of their slots. Every member has
a number, which says where its slot is looked for: in a short stretch from one place on, then from a
place that the rest of the number decides. The table has at least eight slots, and more than two for each
member when there are many.

* `slotOrder` puts members in the order of their slots.
-/

namespace HostWatch

/-- The number of slots for so many members. -/
def slotCount (members : Nat) : Nat :=
  if members < 5 then 8 else Nat.pow 2 (Nat.log2 (2 * members) + 1)

/-- How many slots behind a place are looked at before another place is tried. -/
def slotStretch : Nat := 9

/-- The first free slot for a number, looked for from a place on. -/
def freeSlot? {α : Type} (slots : Array (Option α)) : Nat → Nat → Nat → Option Nat
  | 0, _, _ => none
  | fuel + 1, number, place =>
    let stretch := if place + slotStretch < slots.size then slotStretch + 1 else 1
    match (List.range' place stretch).find? fun slot => (slots[slot]?).any Option.isNone with
    | some slot => some slot
    | none =>
      let number := number / 32
      freeSlot? slots fuel number ((place * 5 + 1 + number) % slots.size)

def placeInSlot {α : Type} (slots : Array (Option α)) (member : Int × α) : Array (Option α) :=
  let number := (member.1 % Nat.pow 2 64).toNat
  match freeSlot? slots (slots.size + 16) number (number % slots.size) with
  | some slot => slots.setIfInBounds slot (some member.2)
  | none => slots.push (some member.2)

/-- Members with their numbers, put into the order of their slots. -/
def slotOrder {α : Type} (members : List (Int × α)) : List α :=
  (members.foldl placeInSlot (Array.replicate (slotCount members.length) none)).toList.filterMap id

end HostWatch
