/-
**How far a rounded quotient can lie from the exact one.**

A quotient of integers is rounded at an exponent that its magnitude decides. Where that exponent is below
the greatest one, the result is finite; where a unit of it is no longer than one, no integer below the
quotient is passed on the way down; and where a unit of it is shorter than one part in the denominator, no
integer above is reached on the way up.

* `Binary64.exists_finite_of_lt`: a quotient below `2 ^ 1023` is rounded to a finite value.
* `Binary64.le_truncate_ofRatio`: below `2 ^ 53` the integer part does not fall.
* `Binary64.truncate_ofRatio`: below `2 ^ 7`, with a denominator below `2 ^ 46`, it is the exact one.
* `Binary64.truncate_ofQuotient`: the same of a quotient of integers.
-/

import HostWatch.Number

namespace HostWatch.Binary64

/-! ### Finite results -/

/-- A number of units below the greatest magnitude is rounded at an exponent that leaves room for the
significand to carry. -/
theorem exponentFor_lt {units k : Nat} (small : k ≤ 2097) (lt : units < Nat.pow 2 k) :
    exponentFor units < maxExponent := by
  unfold exponentFor maxExponent
  split
  · decide
  · rename_i large
    have nonzero : units ≠ 0 := by
      rintro rfl
      exact large (by decide)
    have := (Nat.log2_lt nonzero).2 lt
    omega

/-- At such an exponent no significand is infinite, and a carry does not change the magnitude. -/
theorem exists_finite_ofSignificand (negative : Bool) (significand : Nat) {exponent : Nat}
    (lt : exponent < maxExponent) :
    ∃ m e, ofSignificand negative significand exponent = .finite negative m e ∧
      magnitude m e = significand * Nat.pow 2 exponent := by
  unfold ofSignificand
  split
  · rename_i carries
    rw [if_neg (by omega)]
    refine ⟨_, _, rfl, ?_⟩
    have carry : Nat.pow 2 53 = Nat.pow 2 52 * 2 := rfl
    have step : Nat.pow 2 (exponent + 1) = 2 * Nat.pow 2 exponent := Nat.pow_succ'
    rw [carries, carry, magnitude, step, Nat.mul_assoc]
  · rw [if_neg (by omega)]
    exact ⟨_, _, rfl, rfl⟩

theorem scaled_div_lt {num den k : Nat} (lt : num < den * Nat.pow 2 k) (p : Nat) :
    num * Nat.pow 2 p / den < Nat.pow 2 (k + p) := by
  have positive : 0 < den := Nat.pos_of_ne_zero fun zero => by simp [zero] at lt
  have split : Nat.pow 2 (k + p) = Nat.pow 2 k * Nat.pow 2 p := Nat.pow_add 2 k p
  rw [Nat.div_lt_iff_lt_mul positive]
  calc num * Nat.pow 2 p < den * Nat.pow 2 k * Nat.pow 2 p :=
        Nat.mul_lt_mul_of_pos_right lt (Nat.two_pow_pos p)
    _ = Nat.pow 2 (k + p) * den := by rw [split, Nat.mul_assoc, Nat.mul_comm]

theorem units_lt {num den k : Nat} (lt : num < den * Nat.pow 2 k) :
    num * unitsInOne / den < Nat.pow 2 (k + 1074) := by
  unfold unitsInOne
  exact scaled_div_lt lt 1074

/-- **A quotient below `2 ^ 1023` is rounded to a finite value.** -/
theorem exists_finite_of_lt (negative : Bool) {num den k : Nat} (small : k ≤ 1023)
    (lt : num < den * Nat.pow 2 k) : ∃ m e, ofRatio negative num den = .finite negative m e := by
  have small : exponentFor (num * unitsInOne / den) < maxExponent :=
    exponentFor_lt (by omega) (units_lt lt)
  obtain ⟨m, e, finite, -⟩ := exists_finite_ofSignificand negative
    (roundHalfEven (num * unitsInOne) (den * Nat.pow 2 (exponentFor (num * unitsInOne / den)))) small
  exact ⟨m, e, finite⟩

theorem exists_ofInteger {n : Int} {k : Nat} (small : k ≤ 1023) (lt : n.natAbs < Nat.pow 2 k) :
    ∃ x, ofInteger n = .ok x := by
  have quotient : n.natAbs < 1 * Nat.pow 2 k := by rwa [Nat.one_mul]
  obtain ⟨m, e, finite⟩ := exists_finite_of_lt (n < 0) small quotient
  refine ⟨.finite (n < 0) m e, ?_⟩
  unfold ofInteger ofInt
  rw [finite]
  rfl

theorem exists_ofQuotient {a b : Int} {k : Nat} (small : k ≤ 1023) (lt : a.natAbs < b.natAbs * Nat.pow 2 k) :
    ∃ x, ofQuotient a b = .ok x := by
  have nonzero : b ≠ 0 := by
    rintro rfl
    simp at lt
  obtain ⟨m, e, finite⟩ := exists_finite_of_lt ((a < 0) != (b < 0)) small lt
  refine ⟨.finite ((a < 0) != (b < 0)) m e, ?_⟩
  unfold ofQuotient
  rw [if_neg nonzero, finite]
  rfl

theorem ofRatio_ne_nan (negative : Bool) (num den : Nat) : ofRatio negative num den ≠ nan := by
  unfold ofRatio ofSignificand
  dsimp only
  split <;> split <;> exact nofun

/-- What is within the format has an integer part. -/
theorem exists_truncate_of_ofQuotient {a b : Int} {quotient : Binary64} (fits : ofQuotient a b = .ok quotient) :
    ∃ whole, quotient.truncate = .ok whole := by
  unfold ofQuotient at fits
  split at fits
  · cases fits
  · generalize rounded : ofRatio ((a < 0) != (b < 0)) a.natAbs b.natAbs = value at fits
    cases value with
    | nan => exact (ofRatio_ne_nan _ _ _ rounded).elim
    | infinite negative => cases fits
    | finite negative significand exponent =>
      obtain rfl := Except.ok.inj fits
      exact ⟨_, rfl⟩

/-! ### The nearest integer -/

theorem div_le_roundHalfEven (num den : Nat) : num / den ≤ roundHalfEven num den := by
  unfold roundHalfEven
  dsimp only
  split
  · exact Nat.le_refl _
  · split <;> omega

/-- Rounding up takes at least half a step. -/
theorem roundHalfEven_mul_le (num den : Nat) : 2 * (den * roundHalfEven num den) ≤ 2 * num + den := by
  have whole : den * (num / den) + num % den = num := Nat.div_add_mod num den
  unfold roundHalfEven
  dsimp only
  split
  · omega
  · split
    · rw [Nat.mul_add]
      omega
    · obtain even | odd : num / den % 2 = 0 ∨ num / den % 2 = 1 := by omega
      · rw [even, Nat.add_zero]
        omega
      · rw [odd, Nat.mul_add]
        omega

/-- More than half a step below a bound, the nearest integer stays below it. -/
theorem roundHalfEven_lt {num den bound : Nat} (lt : 2 * num + den < 2 * (den * bound)) :
    roundHalfEven num den < bound := by
  have le := roundHalfEven_mul_le num den
  exact Nat.lt_of_mul_lt_mul_left (a := den) (by omega)

theorem roundHalfEven_mul_right (num den : Nat) {factor : Nat} (positive : 0 < factor) :
    roundHalfEven (num * factor) (den * factor) = roundHalfEven num den := by
  have below : (2 * (num % den * factor) < den * factor) = (2 * (num % den) < den) := by
    rw [← Nat.mul_assoc, Nat.mul_lt_mul_right positive]
  have above : (den * factor < 2 * (num % den * factor)) = (den < 2 * (num % den)) := by
    rw [← Nat.mul_assoc, Nat.mul_lt_mul_right positive]
  simp only [roundHalfEven, Nat.mul_mod_mul_right, Nat.mul_div_mul_right _ _ positive, below, above]

/-! ### The integer part of a rounded quotient -/

theorem exponentFor_le {units k : Nat} (lt : units < Nat.pow 2 (53 + k)) : exponentFor units ≤ k := by
  unfold exponentFor
  split
  · exact Nat.zero_le k
  · rename_i large
    have nonzero : units ≠ 0 := by
      rintro rfl
      exact large (by decide)
    have := (Nat.log2_lt nonzero).2 lt
    omega

theorem unitsInOne_eq_mul {exponent : Nat} (le : exponent ≤ 1074) :
    unitsInOne = Nat.pow 2 (1074 - exponent) * Nat.pow 2 exponent := by
  obtain ⟨places, sum⟩ := Nat.exists_eq_add_of_le' le
  rw [unitsInOne, sum, Nat.add_sub_cancel]
  exact Nat.pow_add 2 places exponent

variable {num den k places : Nat} (negative : Bool)

/-- A rounded quotient below `2 ^ k` has the integer part of a quotient rounded to some number of binary
places, as many at least as fill the fifty-three digits up. -/
theorem exists_ofRatio (fits : k + places = 53) (lt : num < den * Nat.pow 2 k) :
    ∃ m e p, ofRatio negative num den = .finite negative m e ∧ places ≤ p ∧
      magnitude m e / unitsInOne = roundHalfEven (num * Nat.pow 2 p) den / Nat.pow 2 p := by
  have small : exponentFor (num * unitsInOne / den) ≤ 1074 - places := by
    have exponents : k + 1074 = 53 + (1074 - places) := by omega
    exact exponentFor_le (exponents ▸ units_lt lt)
  unfold ofRatio
  dsimp only
  generalize exponentFor (num * unitsInOne / den) = exponent at small ⊢
  have positive : 0 < Nat.pow 2 exponent := Nat.two_pow_pos exponent
  have below : exponent < maxExponent := by
    unfold maxExponent
    omega
  obtain ⟨m, e, finite, size⟩ := exists_finite_ofSignificand negative
    (roundHalfEven (num * unitsInOne) (den * Nat.pow 2 exponent)) below
  refine ⟨m, e, 1074 - exponent, finite, by omega, ?_⟩
  rw [size, unitsInOne_eq_mul (by omega : exponent ≤ 1074), Nat.mul_div_mul_right _ _ positive,
    ← Nat.mul_assoc, roundHalfEven_mul_right _ _ positive]

/-- **Rounding passes no integer on the way down**, as long as all integers up to the quotient are in the
format. -/
theorem le_truncate_ofRatio (lt : num < den * Nat.pow 2 53) :
    ∃ m e, ofRatio negative num den = .finite negative m e ∧ num / den ≤ magnitude m e / unitsInOne := by
  have fits : 53 + 0 = 53 := rfl
  obtain ⟨m, e, p, finite, -, whole⟩ := exists_ofRatio negative fits lt
  refine ⟨m, e, finite, ?_⟩
  have positive : 0 < den := Nat.pos_of_ne_zero fun zero => by simp [zero] at lt
  rw [whole]
  refine (Nat.le_div_iff_mul_le (Nat.two_pow_pos p)).2 ?_
  calc num / den * Nat.pow 2 p ≤ num * Nat.pow 2 p / den := by
        rw [Nat.le_div_iff_mul_le positive, Nat.mul_right_comm]
        exact Nat.mul_le_mul_right _ (Nat.div_mul_le_self num den)
    _ ≤ roundHalfEven (num * Nat.pow 2 p) den := div_le_roundHalfEven ..

/-- **Rounding reaches no integer on the way up** either, when half a unit of the exponent is shorter than
one part in the denominator. -/
theorem truncate_ofRatio (fits : k + places = 53) (lt : num < den * Nat.pow 2 k)
    (short : den < 2 * Nat.pow 2 places) :
    ∃ m e, ofRatio negative num den = .finite negative m e ∧ magnitude m e / unitsInOne = num / den := by
  obtain ⟨m, e, p, finite, enough, whole⟩ := exists_ofRatio negative fits lt
  have positive : 0 < den := Nat.pos_of_ne_zero fun zero => by simp [zero] at lt
  have fine : Nat.pow 2 places ≤ Nat.pow 2 p := Nat.pow_le_pow_right Nat.two_pos enough
  refine ⟨m, e, finite, Nat.le_antisymm ?_ ?_⟩
  · rw [whole]
    refine Nat.le_of_lt_succ ((Nat.div_lt_iff_lt_mul (Nat.two_pow_pos p)).2 (roundHalfEven_lt ?_))
    -- The next integer above is at least one part in the denominator away.
    have next : (num + 1) * Nat.pow 2 p ≤ den * (num / den + 1) * Nat.pow 2 p :=
      Nat.mul_le_mul_right _ (Nat.lt_mul_div_succ num positive)
    calc 2 * (num * Nat.pow 2 p) + den < 2 * ((num + 1) * Nat.pow 2 p) := by
          rw [Nat.add_mul num 1, Nat.one_mul]
          omega
      _ ≤ 2 * (den * ((num / den + 1) * Nat.pow 2 p)) := by
          rw [← Nat.mul_assoc den]
          exact Nat.mul_le_mul_left 2 next
  · obtain ⟨m', e', same, le⟩ := le_truncate_ofRatio negative
      (Nat.lt_of_lt_of_le lt (Nat.mul_le_mul_left den (Nat.pow_le_pow_right Nat.two_pos (by omega))))
    obtain ⟨-, rfl, rfl⟩ := Binary64.finite.inj (finite.symm.trans same)
    exact le

/-! ### Quotients of integers -/

theorem ofQuotient_natCast (num : Nat) {den : Nat} (positive : 0 < den) :
    ofQuotient num den = (ofRatio false num den).unlessInfinite .quotientTooLarge := by
  have nonzero : (den : Int) ≠ 0 := by omega
  have negative : ¬ (num : Int) < 0 := by omega
  have negative' : ¬ (den : Int) < 0 := by omega
  unfold ofQuotient
  rw [if_neg nonzero, Int.natAbs_natCast, Int.natAbs_natCast]
  simp [negative, negative']

theorem truncate_ofQuotient (fits : k + places = 53) (lt : num < den * Nat.pow 2 k)
    (short : den < 2 * Nat.pow 2 places) :
    ∃ x, ofQuotient num den = .ok x ∧ x.truncate = .ok ((num / den : Nat) : Int) := by
  have positive : 0 < den := Nat.pos_of_ne_zero fun zero => by simp [zero] at lt
  obtain ⟨m, e, finite, whole⟩ := truncate_ofRatio false fits lt short
  refine ⟨.finite false m e, ?_, ?_⟩
  · rw [ofQuotient_natCast num positive, finite]
    rfl
  · rw [← whole]
    rfl

end HostWatch.Binary64
