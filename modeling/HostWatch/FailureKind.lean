/-
**Kinds of failures.**

Failures are sorted by what is wrong, whatever part they come from.
-/

namespace HostWatch

/-- What is wrong, in general. -/
inductive FailureKind where
  /-- A configuration is not acceptable. -/
  | configuration
  /-- A service is not at the right stage of its life. -/
  | serviceState
  | wrongKind
  /-- A value is of the right kind, but wrong. -/
  | wrongValue
  | beyondRange
  /-- A quotient by zero. -/
  | divisionByZero
  /-- A key that is not there. -/
  | missingKey
  /-- A position that is not there. -/
  | missingPosition
  /-- A part that a value does not have. -/
  | missingPart
  | misuse
  /-- An error of some category was reported from outside. -/
  | reported (category : String)
deriving DecidableEq

end HostWatch
