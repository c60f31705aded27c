/-
**Integers and binary numbers together.**

Counters and times come as integers of any size or as numbers of the 64-bit binary format. The
arithmetic of two integers is exact, a quotient apart, which is rounded once; as soon as one operand
is binary, the other one is converted and the operation is that of the format. What cannot be
converted or divided is an `ArithmeticFault`.
-/
import HostWatch.Binary64.Decimal
import HostWatch.FailureKind

namespace HostWatch

/-- What can be wrong with an arithmetical operation. -/
inductive ArithmeticFault where
  | integerTooLarge
  /-- A quotient of integers beyond the binary format. -/
  | quotientTooLarge
  /-- A quotient by zero. -/
  | divisionByZero
  /-- The integer part of something that is not a number. -/
  | integerOfNan
  | integerOfInfinity
deriving DecidableEq

/-- The text of an arithmetical fault. -/
def ArithmeticFault.message : ArithmeticFault → String
  | integerTooLarge => "int too large to convert to float"
  | quotientTooLarge => "integer division result too large for a float"
  | divisionByZero => "division by zero"
  | integerOfNan => "cannot convert float NaN to integer"
  | integerOfInfinity => "cannot convert float infinity to integer"

/-- The kind of an arithmetical fault. -/
def ArithmeticFault.kind : ArithmeticFault → FailureKind
  | divisionByZero => .divisionByZero
  | integerOfNan => .wrongValue
  | _ => .beyondRange

namespace Binary64

/-- A value that is not infinite, and a fault in the place of an infinity. -/
def unlessInfinite (fault : ArithmeticFault) : Binary64 → Except ArithmeticFault Binary64
  | infinite _ => .error fault
  | x => .ok x

/-- The value nearest to an integer within the format. -/
def ofInteger (n : Int) : Except ArithmeticFault Binary64 :=
  (ofInt n).unlessInfinite .integerTooLarge

/-- The exact quotient of two integers, rounded once. -/
def ofQuotient (a b : Int) : Except ArithmeticFault Binary64 :=
  if b = 0 then .error .divisionByZero
  else (ofRatio ((a < 0) != (b < 0)) a.natAbs b.natAbs).unlessInfinite .quotientTooLarge

/-- The integer part of a finite value. -/
def truncate : Binary64 → Except ArithmeticFault Int
  | nan => .error .integerOfNan
  | infinite _ => .error .integerOfInfinity
  | finite negative significand exponent =>
    .ok (signed negative (magnitude significand exponent / unitsInOne))

/-- The quotient of two values, refused when the second one is zero. -/
def quotient (x y : Binary64) : Except ArithmeticFault Binary64 :=
  if y.isZero then .error .divisionByZero else .ok (x.div y)

end Binary64

/-- An integer or a number of the binary format. -/
inductive Number where
  | int (n : Int)
  | real (x : Binary64)
deriving DecidableEq

namespace Number

def toReal : Number → Except ArithmeticFault Binary64
  | int n => Binary64.ofInteger n
  | real x => .ok x

/-- An operation on two numbers: on integers, or on binary numbers when one of them is binary. -/
def combine (onIntegers : Int → Int → Int) (onReals : Binary64 → Binary64 → Binary64) :
    Number → Number → Except ArithmeticFault Number
  | int a, int b => .ok (int (onIntegers a b))
  | a, b => do
    let x ← a.toReal
    let y ← b.toReal
    return real (onReals x y)

def add : Number → Number → Except ArithmeticFault Number := combine (· + ·) Binary64.add

def sub : Number → Number → Except ArithmeticFault Number := combine (· - ·) Binary64.sub

def mul : Number → Number → Except ArithmeticFault Number := combine (· * ·) Binary64.mul

/-- The quotient of two numbers, always in the binary format. -/
def div : Number → Number → Except ArithmeticFault Binary64
  | int a, int b => Binary64.ofQuotient a b
  | a, b => do
    let x ← a.toReal
    let y ← b.toReal
    x.quotient y

/-- The sum of numbers, from the first to the last. -/
def sum (numbers : List Number) : Except ArithmeticFault Number :=
  numbers.foldlM add (int 0)

/-- Whether a number is below zero. -/
def isNegative : Number → Bool
  | int n => n < 0
  | real x => x.isNegative

/-- Whether a number is zero. -/
def isZero : Number → Bool
  | int n => n = 0
  | real x => x.isZero

def truncate : Number → Except ArithmeticFault Int
  | int n => .ok n
  | real x => x.truncate

/-- The integers in the text of a number. -/
def integers : Number → List Int
  | int n => [n]
  | real _ => []

/-- The text of a number: all digits of an integer, the shortest digits of a binary number. -/
def toText : Number → String
  | int n => toString n
  | real x => x.shortestText

end Number

end HostWatch
