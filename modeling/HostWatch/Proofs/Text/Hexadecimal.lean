/-
**Integers told by their hexadecimal text.**

The text has a sign for a negative integer only, and the digits of the magnitude. The sign is no digit, so that both are
known from the text, and the magnitude is what the digits denote to base sixteen.

* `numberTo_toDigits`: the digits of a number are read back.
* `splitSign_hexadecimal`: the sign and the digits of a text.
* `hexadecimal_injective`: **different integers have different texts**.
* `space_notMem_hexadecimal`: no text holds a space.
-/

import HostWatch.Text.Numeral
import Mathlib.Data.Nat.Init

namespace HostWatch.Text

theorem digitTo?_digitChar {digit : Nat} (small : digit < 16) : digitTo? 16 digit.digitChar = some digit := by
  have all : ∀ digit : Fin 16, digitTo? 16 digit.val.digitChar = some digit.val := by decide
  exact all ⟨digit, small⟩

theorem numberTo_concat (base : Nat) (digits : List Char) (c : Char) :
    numberTo base (digits ++ [c]) = base * numberTo base digits + (digitTo? base c).getD 0 := by
  simp [numberTo]

/-- The digits of a number to base sixteen are read back. -/
theorem numberTo_toDigits (n : Nat) : numberTo 16 (Nat.toDigits 16 n) = n := by
  induction n using Nat.strong_induction_on with
  | _ n ih =>
    by_cases small : n < 16
    · simp [Nat.toDigits_of_lt_base small, numberTo, digitTo?_digitChar small]
    · have shorter := ih (n / 16) (by omega)
      have last := digitTo?_digitChar (Nat.mod_lt n (by decide : 0 < 16))
      rw [Nat.toDigits_of_base_le (by decide) (by omega), numberTo_concat, shorter, last]
      exact Nat.div_add_mod n 16

theorem isSome_of_mem_toDigits {n : Nat} : ∀ c ∈ Nat.toDigits 16 n, (digitTo? 16 c).isSome := by
  induction n using Nat.strong_induction_on with
  | _ n ih =>
    intro c member
    by_cases small : n < 16
    · rw [Nat.toDigits_of_lt_base small, List.mem_singleton] at member
      simp [member, digitTo?_digitChar small]
    · rw [Nat.toDigits_of_base_le (by decide) (by omega), List.mem_append, List.mem_singleton] at member
      rcases member with earlier | rfl
      · exact ih (n / 16) (by omega) c earlier
      · simp [digitTo?_digitChar (Nat.mod_lt n (by decide : 0 < 16))]

theorem notMem_toDigits {c : Char} (other : digitTo? 16 c = none) (n : Nat) : c ∉ Nat.toDigits 16 n := by
  intro member
  have digit := isSome_of_mem_toDigits c member
  rw [other] at digit
  cases digit

theorem toList_hexadecimal (n : Int) :
    (hexadecimal n).toList = (if n < 0 then ['-'] else []) ++ Nat.toDigits 16 n.natAbs := by
  by_cases negative : n < 0 <;> simp [hexadecimal, negative]

theorem splitSign_hexadecimal (n : Int) :
    splitSign (hexadecimal n).toList = (decide (n < 0), Nat.toDigits 16 n.natAbs) := by
  rw [toList_hexadecimal]
  by_cases negative : n < 0
  · simp [negative, splitSign]
  · have minus := notMem_toDigits (by decide : digitTo? 16 '-' = none) n.natAbs
    have plus := notMem_toDigits (by decide : digitTo? 16 '+' = none) n.natAbs
    rw [if_neg negative, decide_eq_false negative, List.nil_append]
    unfold splitSign
    split
    · rename_i digits
      exact absurd (digits ▸ List.mem_cons_self) minus
    · rename_i digits
      exact absurd (digits ▸ List.mem_cons_self) plus
    · rfl

theorem hexadecimal_injective : Function.Injective hexadecimal := by
  intro n m same
  have parts := (splitSign_hexadecimal n).symm.trans ((congrArg (splitSign ·.toList) same).trans (splitSign_hexadecimal m))
  obtain ⟨sign, digits⟩ := Prod.mk.inj parts
  have magnitude : n.natAbs = m.natAbs := by
    rw [← numberTo_toDigits n.natAbs, digits, numberTo_toDigits]
  simp only [decide_eq_decide] at sign
  omega

theorem space_notMem_hexadecimal (n : Int) : ' ' ∉ (hexadecimal n).toList := by
  rw [toList_hexadecimal, List.mem_append, not_or]
  refine ⟨?_, notMem_toDigits (by decide) n.natAbs⟩
  split <;> decide

end HostWatch.Text
