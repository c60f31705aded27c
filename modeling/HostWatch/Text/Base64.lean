/-
**Bytes as text.**

Four characters of an alphabet of sixty-four write three bytes. At the end two characters write one byte
and three write two, and signs of equality fill the four up; what stands behind them is not read.
Characters that are not in the alphabet are skipped.

* `Base64.decode?` reads the bytes that a text writes.
-/

namespace HostWatch.Text.Base64

/-- The number of a character of the alphabet. -/
def sextet? (c : Char) : Option Nat :=
  if 'A' ≤ c ∧ c ≤ 'Z' then some (c.toNat - 'A'.toNat)
  else if 'a' ≤ c ∧ c ≤ 'z' then some (c.toNat - 'a'.toNat + 26)
  else if '0' ≤ c ∧ c ≤ '9' then some (c.toNat - '0'.toNat + 52)
  else if c = '+' then some 62
  else if c = '/' then some 63
  else none

/-- The bytes that a text goes on with, when `read` characters of the last four have been read, which left
over the bits of `left`, and `fills` signs of equality behind them. -/
def decodeFrom (read left fills : Nat) : List Char → Option (List UInt8)
  | [] => if read = 0 then some [] else none
  | c :: rest =>
    if c = '=' then
      if read < 2 then decodeFrom read left fills rest
      else if 4 ≤ read + fills + 1 then some []
      else decodeFrom read left (fills + 1) rest
    else match sextet? c with
      | none => decodeFrom read left fills rest
      | some n =>
        let unit := Nat.pow 4 (3 - read)
        let more := decodeFrom ((read + 1) % 4) (n % unit) 0 rest
        if read = 0 then more
        else more.map (UInt8.ofNat (left * Nat.pow 4 read + n / unit) :: ·)

/-- The bytes that a text writes, if it ends with the last of four characters. -/
def decode? (s : List Char) : Option (List UInt8) := decodeFrom 0 0 0 s

end HostWatch.Text.Base64
