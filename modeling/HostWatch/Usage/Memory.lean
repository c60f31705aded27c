/-
**Memory usage.**

A usage has four figures: the initial size, what is used, what is committed and the greatest size.
What is used is part of what is committed, and what is committed is within the greatest size; the
first and the last figure may be unknown, written as `-1`. The type guarantees this and the
constructor checks it, the first violated rule deciding the fault.

* `MemoryUsage.of?` accepts exactly the figures that keep the rules.
* `inMebibytes` and `add` stay within the type; an unknown figure stays unknown.
* `usedPercent?` and the texts agree on when a percentage is known.
* `format` writes the figures, which fails when one of them has too many digits.
-/
import HostWatch.Text.Numeral

namespace HostWatch

/-- How four figures fail to be a memory usage. -/
inductive MemoryFault where
  /-- A figure that may be unknown is below `-1`. -/
  | belowUnknown (figure : String) (value : Int)
  /-- A figure that is always known is negative. -/
  | negative (figure : String) (value : Int)
  | usedBeyondCommitted (used committed : Int)
  /-- More is committed than the greatest size. -/
  | committedBeyondMax (committed max : Int)
deriving DecidableEq

def MemoryFault.message : MemoryFault → String
  | belowUnknown figure value => Text.faultText [value] s!"{figure} = {value} is negative but not -1"
  | negative figure value => Text.faultText [value] s!"{figure} = {value} is negative"
  | usedBeyondCommitted used committed =>
    Text.faultText [used, committed] s!"used = {used} should be <= committed = {committed}"
  | committedBeyondMax committed max =>
    Text.faultText [committed, max] s!"committed = {committed} should be <= max = {max}"

/-- A memory usage, in bytes or in mebibytes. -/
@[ext] structure MemoryUsage where
  /-- The size at the start, `-1` when unknown. -/
  init : Int
  used : Int
  /-- What is set aside, the part in use included. -/
  committed : Int
  /-- The greatest size, `-1` when unknown. -/
  max : Int
  unknown_le_init : -1 ≤ init
  unknown_le_max : -1 ≤ max
  used_nonneg : 0 ≤ used
  used_le_committed : used ≤ committed
  committed_le_max : 0 ≤ max → committed ≤ max

namespace MemoryUsage

instance : DecidableEq MemoryUsage := fun _ _ =>
  decidable_of_decidable_of_iff MemoryUsage.ext_iff.symm

/-- The usage with the given figures, or the first rule that they violate. -/
def of? (init used committed max : Int) : Except MemoryFault MemoryUsage :=
  if hi : -1 ≤ init then
    if hm : -1 ≤ max then
      if hu : 0 ≤ used then
        if 0 ≤ committed then
          if hc : used ≤ committed then
            if hx : 0 ≤ max → committed ≤ max then
              .ok ⟨init, used, committed, max, hi, hm, hu, hc, hx⟩
            else .error (.committedBeyondMax committed max)
          else .error (.usedBeyondCommitted used committed)
        else .error (.negative "committed" committed)
      else .error (.negative "used" used)
    else .error (.belowUnknown "max" max)
  else .error (.belowUnknown "init" init)

/-- The number of bytes in a mebibyte. -/
def mebibyte : Int := 1024 * 1024

/-- A figure in bytes converted to whole mebibytes; unknown stays unknown. -/
def figureInMebibytes (figure : Int) : Int :=
  if figure = -1 then -1 else figure / mebibyte

/-- A usage in bytes converted to whole mebibytes. -/
def inMebibytes (u : MemoryUsage) : MemoryUsage where
  init := figureInMebibytes u.init
  used := u.used / mebibyte
  committed := u.committed / mebibyte
  max := figureInMebibytes u.max
  unknown_le_init := by
    have := u.unknown_le_init
    unfold figureInMebibytes mebibyte
    omega
  unknown_le_max := by
    have := u.unknown_le_max
    unfold figureInMebibytes mebibyte
    omega
  used_nonneg := by
    have := u.used_nonneg
    unfold mebibyte
    omega
  used_le_committed := by
    have := u.used_le_committed
    unfold mebibyte
    omega
  committed_le_max := by
    have := u.committed_le_max
    have := u.unknown_le_max
    unfold figureInMebibytes mebibyte
    omega

/-- The sum of two figures, unknown when one of them is. -/
def addFigure (a b : Int) : Int :=
  if a < 0 ∨ b < 0 then -1 else a + b

/-- The usage of two memories together. -/
def add (u v : MemoryUsage) : MemoryUsage where
  init := addFigure u.init v.init
  used := u.used + v.used
  committed := u.committed + v.committed
  max := addFigure u.max v.max
  unknown_le_init := by
    unfold addFigure
    omega
  unknown_le_max := by
    unfold addFigure
    omega
  used_nonneg := by
    have := u.used_nonneg
    have := v.used_nonneg
    omega
  used_le_committed := by
    have := u.used_le_committed
    have := v.used_le_committed
    omega
  committed_le_max := by
    have := u.committed_le_max
    have := v.committed_le_max
    unfold addFigure
    omega

/-- A figure as a percentage of the greatest size; nothing when that is unknown or zero. -/
def percentOfMax? (u : MemoryUsage) (figure : Int) : Option Int :=
  if u.max ≤ 0 then none else some (figure * 100 / u.max)

/-- What is used, as a percentage of the greatest size. -/
def usedPercent? (u : MemoryUsage) : Option Int := u.percentOfMax? u.used

/-- What is committed, as a percentage of the greatest size. -/
def committedPercent? (u : MemoryUsage) : Option Int := u.percentOfMax? u.committed

/-- The text of a usage: what is used, what is committed, the greatest size and the percentage used, which
counts as zero where the greatest size is. Figures in mebibytes carry the unit `M`. -/
def format (u : MemoryUsage) (inMebibytes : Bool) : Except NumeralFault String := do
  let unit := if inMebibytes then "M" else ""
  let figures := s!"[{← Text.decimal u.used}{unit} ({← Text.decimal u.committed}{unit})"
  if 0 ≤ u.max then
    let percent := if 0 < u.max then u.used * 100 / u.max else 0
    return figures ++ s!" / {← Text.decimal u.max}{unit} - {percent}%" ++ "]"
  else return figures ++ " / ?" ++ "]"

/-- The text of a usage that may be missing. -/
def formatOption (u : Option MemoryUsage) (inMebibytes : Bool) : Except NumeralFault String :=
  match u with
  | none => .ok "[not available]"
  | some u => u.format inMebibytes

/-- The text of the percentage used: of a usage that is missing or has no known greatest size it is
not available, and of one with a greatest size of zero there is none. -/
def formatPercent (u : Option MemoryUsage) : String :=
  match u with
  | none => "not available"
  | some u =>
    if u.max < 0 then "not available"
    else if u.max = 0 then "none"
    else s!"{u.used * 100 / u.max}%"

end MemoryUsage

end HostWatch
