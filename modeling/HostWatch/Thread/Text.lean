/-
**Texts about threads.**

Identities are written to base sixteen. A thread that waits for a lock is described together with the
thread that holds the lock.
-/
import HostWatch.Text.Numeral
import HostWatch.Thread.Basic

namespace HostWatch.ThreadInfo

/-- The text of the identity of a thread. -/
def idText (id : Int) : String := "0x" ++ Text.hexadecimal id

/-- The text about the holder of the lock for which a thread waits. -/
def ownerText (info : ThreadInfo) : String :=
  match info.ownerId with
  | none => "none"
  | some owner => idText owner ++ " named '" ++ info.ownerName.getD "None" ++ "'"

/-- The identity, name and state of a thread, and the lock for which it waits. -/
def metadata (info : ThreadInfo) : String :=
  idText info.id ++ " named '" ++ info.name ++ "' " ++ info.state ++
    (if info.daemon then ", daemon" else "") ++
    match info.waitingOn with
    | none => ""
    | some lock => ", locked on lock named '" ++ lock ++ "' owned by thread: " ++ info.ownerText

/-- The stack of a thread, a line for each frame. -/
def stackTrace (info : ThreadInfo) : String :=
  if info.stack.isEmpty then "  stack trace is empty\n"
  else String.join (info.stack.map fun frame => "  at " ++ frame ++ "\n")

end HostWatch.ThreadInfo
