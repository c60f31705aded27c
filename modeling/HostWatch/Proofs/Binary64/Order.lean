/-
**Rounding keeps the order.**

A quotient is rounded at an exponent that its magnitude decides: a greater quotient has the same exponent, and
then the same grid on which the nearest point moves up with it, or a greater one, whose least significand lies at
or above all that the smaller exponent can reach. What is beyond the format is put where the finite values end,
so that overflow keeps the order as well.

* `Binary64.roundHalfEven_le_roundHalfEven`: the nearest integer to a quotient.
* `Binary64.toUnits_ofRatio`: a rounded quotient in units, as a number of units with a limit.
* `Binary64.nearest_le_nearest`: **rounding keeps the order.**
* `Binary64.toUnits_div_le_toUnits_div`, `Binary64.toUnits_add_le_toUnits_add`: so do a division by a positive
  value, and a sum.
* `Binary64.toUnits_sub_pos_iff`: a difference has the sign that it should.
* `Binary64.wholeOf_le_wholeOf`: so does the integer part of a rounded quotient.
* `Binary64.min_wholeOf`: **up to a bound within the format rounding changes no integer part.**
-/

import HostWatch.Proofs.Binary64.Rounding

namespace HostWatch.Binary64

/-! ### The nearest integer -/

theorem roundHalfEven_le_of_le {num num' : Nat} (den : Nat) (le : num ≤ num') :
    roundHalfEven num den ≤ roundHalfEven num' den := by
  have quotients : num / den ≤ num' / den := Nat.div_le_div_right le
  rcases Nat.lt_or_eq_of_le quotients with below | same
  · -- the smaller one is rounded up to the next integer at most
    have up : roundHalfEven num den ≤ num / den + 1 := by
      unfold roundHalfEven
      dsimp only
      split
      · omega
      · split <;> omega
    exact Nat.le_trans up (Nat.le_trans below (div_le_roundHalfEven num' den))
  · have whole := Nat.div_add_mod num den
    have whole' := Nat.div_add_mod num' den
    rw [← same] at whole'
    have remainders : num % den ≤ num' % den := by omega
    unfold roundHalfEven
    dsimp only
    rw [← same]
    split
    · split
      · exact Nat.le_refl _
      · split <;> omega
    · split
      · refine Nat.le_of_eq ?_
        rw [if_neg (by omega), if_pos (by omega)]
      · rw [if_neg (by omega)]
        split <;> omega

/-- **The nearest integer keeps the order of quotients.** -/
theorem roundHalfEven_le_roundHalfEven {num den num' den' : Nat} (positive : 0 < den) (positive' : 0 < den')
    (le : num * den' ≤ num' * den) : roundHalfEven num den ≤ roundHalfEven num' den' := by
  rw [← roundHalfEven_mul_right num den positive', ← roundHalfEven_mul_right num' den' positive,
    Nat.mul_comm den' den]
  exact roundHalfEven_le_of_le _ le

theorem roundHalfEven_mul_left (n : Nat) {den : Nat} (positive : 0 < den) : roundHalfEven (n * den) den = n := by
  unfold roundHalfEven
  rw [Nat.mul_mod_left, Nat.mul_div_cancel n positive, if_pos (by omega)]

/-! ### Exponents and significands -/

theorem pow_two_pos (n : Nat) : 0 < Nat.pow 2 n := Nat.two_pow_pos n

theorem pow_eq_mul {n k p : Nat} (sum : n = k + p) : Nat.pow 2 n = Nat.pow 2 k * Nat.pow 2 p := by
  rw [sum]
  exact Nat.pow_add 2 k p

theorem exponentFor_le_exponentFor {units units' : Nat} (le : units ≤ units') :
    exponentFor units ≤ exponentFor units' := by
  unfold exponentFor
  split
  · exact Nat.zero_le _
  · rename_i large
    rw [if_neg (by omega)]
    have nonzero : units ≠ 0 := by
      rintro rfl
      exact large (by decide)
    have := (Nat.le_log2 (by omega : units' ≠ 0)).2 (Nat.le_trans (Nat.log2_self_le nonzero) le)
    omega

/-- The units reach at most as far as the significand has room. -/
theorem lt_of_exponentFor (units : Nat) : units < Nat.pow 2 (53 + exponentFor units) := by
  unfold exponentFor
  split
  · assumption
  · rename_i large
    have nonzero : units ≠ 0 := by
      rintro rfl
      exact large (by decide)
    exact Nat.lt_of_lt_of_le Nat.lt_log2_self (Nat.pow_le_pow_right Nat.two_pos (by omega))

/-- At an exponent that is not the least one the significand is filled up. -/
theorem le_of_exponentFor {units : Nat} (high : 0 < exponentFor units) :
    Nat.pow 2 (52 + exponentFor units) ≤ units := by
  unfold exponentFor at high ⊢
  split at high
  · omega
  · rename_i large
    rw [if_neg large]
    have nonzero : units ≠ 0 := by
      rintro rfl
      exact large (by decide)
    have log := (Nat.le_log2 nonzero).2 (Nat.not_lt.1 large : 2 ^ 53 ≤ units)
    have sum : 52 + (units.log2 - 52) = units.log2 := by omega
    rw [sum]
    exact Nat.log2_self_le nonzero

section Ratio

variable {num den num' den' : Nat}

/-- The exponent at which a quotient is rounded. -/
def exponentOf (num den : Nat) : Nat := exponentFor (num * unitsInOne / den)

/-- The significand to which a quotient is rounded. -/
def significandOf (num den : Nat) : Nat :=
  roundHalfEven (num * unitsInOne) (den * Nat.pow 2 (exponentOf num den))

/-- The units of a rounded quotient, without a limit. -/
def unitsOf (num den : Nat) : Nat := magnitude (significandOf num den) (exponentOf num den)

theorem significandOf_le (positive : 0 < den) : significandOf num den ≤ Nat.pow 2 53 := by
  have room : 0 < den * Nat.pow 2 (exponentOf num den) := Nat.mul_pos positive (pow_two_pos _)
  have below := (Nat.div_lt_iff_lt_mul positive).1 (lt_of_exponentFor (num * unitsInOne / den))
  rw [← roundHalfEven_mul_left (Nat.pow 2 53) room]
  refine roundHalfEven_le_of_le _ (Nat.le_of_lt (Nat.lt_of_lt_of_eq below ?_))
  show Nat.pow 2 (53 + exponentOf num den) * den = _
  rw [pow_eq_mul rfl, Nat.mul_assoc, Nat.mul_comm den]

theorem le_significandOf (positive : 0 < den) (high : 0 < exponentOf num den) :
    Nat.pow 2 52 ≤ significandOf num den := by
  have room : 0 < den * Nat.pow 2 (exponentOf num den) := Nat.mul_pos positive (pow_two_pos _)
  have above : Nat.pow 2 (52 + exponentOf num den) * den ≤ num * unitsInOne :=
    (Nat.le_div_iff_mul_le positive).1 (le_of_exponentFor high)
  refine Nat.le_trans ?_ (div_le_roundHalfEven _ _)
  rw [Nat.le_div_iff_mul_le room, Nat.mul_comm den, ← Nat.mul_assoc, ← pow_eq_mul rfl]
  exact above

/-- **A greater quotient is rounded to as many units at least.** -/
theorem unitsOf_le_unitsOf (positive : 0 < den) (positive' : 0 < den') (le : num * den' ≤ num' * den) :
    unitsOf num den ≤ unitsOf num' den' := by
  have scaled : num * unitsInOne * den' ≤ num' * unitsInOne * den := by
    rw [Nat.mul_right_comm, Nat.mul_right_comm num']
    exact Nat.mul_le_mul_right _ le
  have exponents : exponentOf num den ≤ exponentOf num' den' := by
    refine exponentFor_le_exponentFor ((Nat.le_div_iff_mul_le positive').2 ?_)
    refine Nat.le_of_mul_le_mul_right (Nat.le_trans ?_ scaled) positive
    rw [Nat.mul_right_comm]
    exact Nat.mul_le_mul_right _ (Nat.div_mul_le_self _ _)
  unfold unitsOf magnitude
  rcases Nat.lt_or_eq_of_le exponents with below | same
  -- All that the smaller exponent can reach is below what the greater one begins with.
  · calc significandOf num den * Nat.pow 2 (exponentOf num den)
        ≤ Nat.pow 2 53 * Nat.pow 2 (exponentOf num den) := Nat.mul_le_mul_right _ (significandOf_le positive)
      _ = Nat.pow 2 52 * Nat.pow 2 (exponentOf num den + 1) := by
        rw [← pow_eq_mul (n := 53 + exponentOf num den) rfl, ← pow_eq_mul (n := 53 + exponentOf num den) (by omega)]
      _ ≤ significandOf num' den' * Nat.pow 2 (exponentOf num' den') :=
        Nat.mul_le_mul (le_significandOf positive' (by omega)) (Nat.pow_le_pow_right Nat.two_pos below)
  -- On one grid the nearest point moves up with the quotient.
  · rw [← same]
    refine Nat.mul_le_mul_right _ ?_
    unfold significandOf
    rw [← same]
    have unit : 0 < Nat.pow 2 (exponentOf num den) := pow_two_pos _
    refine roundHalfEven_le_roundHalfEven (Nat.mul_pos positive unit) (Nat.mul_pos positive' unit) ?_
    rw [← Nat.mul_assoc, ← Nat.mul_assoc]
    exact Nat.mul_le_mul_right _ scaled

/-! ### Rounded quotients -/

/-- A value of the format: no significand goes beyond it, and it is a number. -/
inductive InFormat : Binary64 → Prop
  | infinite (negative : Bool) : InFormat (.infinite negative)
  | finite (negative : Bool) (significand exponent : Nat) (lt : magnitude significand exponent < unitsBeyond) :
      InFormat (.finite negative significand exponent)

/-- **A rounded quotient in units**: the units of the quotient, up to where the finite values end. -/
theorem ofRatio_rounded (negative : Bool) (num : Nat) (positive : 0 < den) :
    (ofRatio negative num den).InFormat ∧
      (ofRatio negative num den).toUnits = signed negative (min unitsBeyond (unitsOf num den)) := by
  have le : significandOf num den ≤ Nat.pow 2 53 := significandOf_le positive
  have ge : 0 < exponentOf num den → Nat.pow 2 52 ≤ significandOf num den := le_significandOf positive
  have limit : unitsBeyond = Nat.pow 2 53 * Nat.pow 2 2045 := by
    unfold unitsBeyond
    rw [show 2098 = 53 + 2045 from rfl]
    generalize 2045 = p
    exact pow_eq_mul rfl
  have limit' : unitsBeyond = Nat.pow 2 52 * Nat.pow 2 2046 := by
    unfold unitsBeyond
    rw [show 2098 = 52 + 2046 from rfl]
    generalize 2046 = p
    exact pow_eq_mul rfl
  show (ofSignificand negative (significandOf num den) (exponentOf num den)).InFormat ∧
    (ofSignificand negative (significandOf num den) (exponentOf num den)).toUnits = _
  unfold unitsOf
  generalize significandOf num den = significand at le ge ⊢
  generalize exponentOf num den = exponent at ge ⊢
  unfold ofSignificand
  split
  · rename_i carries
    have size : magnitude significand exponent = magnitude (Nat.pow 2 52) (exponent + 1) := by
      unfold magnitude
      rw [carries, ← pow_eq_mul (n := 53 + exponent) rfl, ← pow_eq_mul (n := 53 + exponent) (by omega)]
    rw [size]
    split
    · rename_i beyond
      refine ⟨.infinite negative, ?_⟩
      show signed negative unitsBeyond = _
      rw [Nat.min_eq_left]
      rw [limit']
      exact Nat.mul_le_mul_left _ (Nat.pow_le_pow_right Nat.two_pos (Nat.succ_le_of_lt beyond))
    · rename_i within
      have lt : magnitude (Nat.pow 2 52) (exponent + 1) < unitsBeyond := by
        rw [limit']
        exact Nat.mul_lt_mul_of_pos_left
          (Nat.pow_lt_pow_right (by decide) (Nat.lt_succ_of_le (Nat.not_lt.1 within))) (pow_two_pos 52)
      exact ⟨.finite negative _ _ lt, by rw [Nat.min_eq_right (Nat.le_of_lt lt)]; rfl⟩
  · rename_i apart
    split
    · rename_i beyond
      refine ⟨.infinite negative, ?_⟩
      show signed negative unitsBeyond = _
      rw [Nat.min_eq_left]
      rw [limit']
      exact Nat.mul_le_mul (ge (by omega)) (Nat.pow_le_pow_right Nat.two_pos (Nat.succ_le_of_lt beyond))
    · rename_i within
      have lt : magnitude significand exponent < unitsBeyond := by
        rw [limit]
        exact Nat.mul_lt_mul_of_lt_of_le (Nat.lt_of_le_of_ne le apart)
          (Nat.pow_le_pow_right Nat.two_pos (Nat.not_lt.1 within)) (pow_two_pos 2045)
      exact ⟨.finite negative _ _ lt, by rw [Nat.min_eq_right (Nat.le_of_lt lt)]; rfl⟩

theorem inFormat_ofRatio (negative : Bool) (num : Nat) (positive : 0 < den) : (ofRatio negative num den).InFormat :=
  (ofRatio_rounded negative num positive).1

theorem toUnits_ofRatio (negative : Bool) (num : Nat) (positive : 0 < den) :
    (ofRatio negative num den).toUnits = signed negative (min unitsBeyond (unitsOf num den)) :=
  (ofRatio_rounded negative num positive).2

/-- A rounded quotient keeps its sign, whether it is within the format or not. -/
theorem ofRatio_eq_or (negative : Bool) (num den : Nat) :
    ofRatio negative num den = .infinite negative ∨
      ∃ significand exponent, ofRatio negative num den = .finite negative significand exponent := by
  unfold ofRatio ofSignificand
  dsimp only
  split <;> split
  · exact .inl rfl
  · exact .inr ⟨_, _, rfl⟩
  · exact .inl rfl
  · exact .inr ⟨_, _, rfl⟩

/-- A quotient of natural numbers is too large, or it is finite and not negative. -/
theorem ofQuotient_eq_or (num : Nat) (positive : 0 < den) :
    ofQuotient num den = .error .quotientTooLarge ∨
      ∃ significand exponent, ofQuotient num den = .ok (.finite false significand exponent) := by
  rw [ofQuotient_natCast num positive]
  rcases ofRatio_eq_or false num den with is | ⟨significand, exponent, is⟩
  · rw [is]
    exact .inl rfl
  · rw [is]
    exact .inr ⟨significand, exponent, rfl⟩

end Ratio

theorem inFormat_ofInt (n : Int) : (ofInt n).InFormat := inFormat_ofRatio _ _ Nat.one_pos

/-! ### Integers over a natural number -/

/-- The units of an integer over a natural number, rounded. -/
def nearest (num : Int) (den : Nat) : Int := (ofRatio (num < 0) num.natAbs den).toUnits

variable {den : Nat}

theorem signed_zero (negative : Bool) : signed negative 0 = 0 := by cases negative <;> rfl

theorem signed_bounds (negative : Bool) (units : Nat) :
    -(units : Int) ≤ signed negative units ∧ signed negative units ≤ units := by
  unfold signed
  split <;> omega

theorem unitsOf_zero (positive : 0 < den) : unitsOf 0 den = 0 := by
  have room : 0 < den * Nat.pow 2 (exponentOf 0 den) := Nat.mul_pos positive (pow_two_pos _)
  have zero : 0 * unitsInOne = 0 * (den * Nat.pow 2 (exponentOf 0 den)) := by rw [Nat.zero_mul, Nat.zero_mul]
  unfold unitsOf significandOf
  rw [zero, roundHalfEven_mul_left 0 room]
  exact Nat.zero_mul _

theorem nearest_zero (positive : 0 < den) : nearest 0 den = 0 := by
  unfold nearest
  rw [toUnits_ofRatio _ _ positive, Int.natAbs_zero, unitsOf_zero positive, Nat.min_zero, signed_zero]

/-- The sign of a rounded quotient is that of the quotient, and a zero has none in units. -/
theorem toUnits_ofRatio_eq_nearest (negative : Bool) (num : Nat) (positive : 0 < den) :
    (ofRatio negative num den).toUnits = nearest (signed negative num) den := by
  unfold nearest
  rw [toUnits_ofRatio _ _ positive, toUnits_ofRatio _ _ positive]
  cases negative with
  | false =>
    have nonneg : ¬ signed false num < 0 := Int.not_lt.2 (Int.natCast_nonneg num)
    rw [decide_eq_false nonneg]
    rfl
  | true =>
    have size : (signed true num).natAbs = num := Int.natAbs_neg num
    rw [size]
    rcases Nat.eq_zero_or_pos num with rfl | above
    · rw [unitsOf_zero positive, Nat.min_zero, signed_zero, signed_zero]
    · have negative : signed true num < 0 := Int.neg_neg_of_pos (Int.natCast_pos.2 above)
      rw [decide_eq_true negative]

/-- **Rounding keeps the order.** -/
theorem nearest_le_nearest {num num' : Int} (positive : 0 < den) (le : num ≤ num') :
    nearest num den ≤ nearest num' den := by
  have order {a b : Nat} (below : a ≤ b) : unitsOf a den ≤ unitsOf b den :=
    unitsOf_le_unitsOf positive positive (Nat.mul_le_mul_right den below)
  unfold nearest
  rw [toUnits_ofRatio _ _ positive, toUnits_ofRatio _ _ positive]
  by_cases negative : num < 0
  · by_cases negative' : num' < 0
    · have := order (by omega : num'.natAbs ≤ num.natAbs)
      simp only [signed, negative, negative', decide_true, if_true]
      omega
    · simp only [signed, negative, negative', decide_true, decide_false, if_true, Bool.false_eq_true, if_false]
      omega
  · have negative' : ¬ num' < 0 := by omega
    have := order (by omega : num.natAbs ≤ num'.natAbs)
    simp only [signed, negative, negative', decide_false, Bool.false_eq_true, if_false]
    omega

/-! ### Operations -/

theorem InFormat.toUnits_le {x : Binary64} (within : x.InFormat) :
    -(unitsBeyond : Int) ≤ x.toUnits ∧ x.toUnits ≤ unitsBeyond := by
  cases within with
  | infinite negative => exact signed_bounds negative unitsBeyond
  | finite negative m e lt =>
    have bounds := signed_bounds negative (magnitude m e)
    show -(unitsBeyond : Int) ≤ signed negative (magnitude m e) ∧ signed negative (magnitude m e) ≤ unitsBeyond
    omega

/-- Operations that leave infinite values alone and keep the order of the finite ones keep the order of all. -/
theorem toUnits_le_of_finite {f g : Binary64 → Binary64} (f_infinite : ∀ a, f (.infinite a) = .infinite a)
    (g_infinite : ∀ a, g (.infinite a) = .infinite a) (f_inFormat : ∀ a m e, (f (.finite a m e)).InFormat)
    (g_inFormat : ∀ a m e, (g (.finite a m e)).InFormat)
    (keeps : ∀ a m e b n k, (finite a m e).toUnits ≤ (finite b n k).toUnits →
      (f (.finite a m e)).toUnits ≤ (g (.finite b n k)).toUnits)
    {x y : Binary64} (inFormat : x.InFormat) (inFormat' : y.InFormat) (le : x.toUnits ≤ y.toUnits) :
    (f x).toUnits ≤ (g y).toUnits := by
  cases inFormat with
  | infinite a =>
    rw [f_infinite]
    cases inFormat' with
    | infinite b =>
      rw [g_infinite]
      exact le
    | finite b n k lt =>
      -- an infinite value below a finite one is the least of all
      have least := (g_inFormat b n k).toUnits_le.1
      cases a with
      | true => exact least
      | false =>
        have le : (unitsBeyond : Int) ≤ signed b (magnitude n k) := le
        have most := (signed_bounds b (magnitude n k)).2
        omega
  | finite a m e lt =>
    cases inFormat' with
    | infinite b =>
      rw [g_infinite]
      have greatest := (f_inFormat a m e).toUnits_le.2
      cases b with
      | false => exact greatest
      | true =>
        have le : signed a (magnitude m e) ≤ -(unitsBeyond : Int) := le
        have least := (signed_bounds a (magnitude m e)).1
        omega
    | finite b n k lt' => exact keeps a m e b n k le

section Div

variable {n k : Nat} (nonzero : n ≠ 0)
include nonzero

theorem div_finite (a : Bool) (m e : Nat) :
    (finite a m e).div (.finite false n k) = ofRatio a (magnitude m e) (magnitude n k) := by
  show (if n = 0 then _ else ofRatio (a != false) (magnitude m e) (magnitude n k)) = _
  rw [if_neg nonzero, Bool.bne_false]

theorem magnitude_pos : 0 < magnitude n k := Nat.mul_pos (Nat.pos_of_ne_zero nonzero) (pow_two_pos k)

theorem inFormat_div {x : Binary64} (inFormat : x.InFormat) : (x.div (.finite false n k)).InFormat := by
  cases inFormat with
  | infinite a => exact .infinite _
  | finite a m e lt =>
    rw [div_finite nonzero]
    exact inFormat_ofRatio a _ (magnitude_pos nonzero)

/-- **A division by a positive value keeps the order.** -/
theorem toUnits_div_le_toUnits_div {x y : Binary64} (inFormat : x.InFormat) (inFormat' : y.InFormat)
    (le : x.toUnits ≤ y.toUnits) :
    (x.div (.finite false n k)).toUnits ≤ (y.div (.finite false n k)).toUnits := by
  have positive := magnitude_pos (k := k) nonzero
  have infinite_div (a : Bool) : (infinite a).div (.finite false n k) = .infinite a :=
    congrArg infinite (Bool.bne_false a)
  have within (a : Bool) (m e : Nat) : ((finite a m e).div (.finite false n k)).InFormat := by
    rw [div_finite nonzero]
    exact inFormat_ofRatio a _ positive
  refine toUnits_le_of_finite (f := fun x => x.div (.finite false n k)) (g := fun x => x.div (.finite false n k))
    infinite_div infinite_div within within ?_ inFormat inFormat' le
  intro a m e b m' e' le
  rw [div_finite nonzero, div_finite nonzero, toUnits_ofRatio_eq_nearest _ _ positive,
    toUnits_ofRatio_eq_nearest _ _ positive]
  exact nearest_le_nearest positive le

end Div

theorem unitsInOne_pos : 0 < unitsInOne := by
  unfold unitsInOne
  generalize 1074 = n
  exact pow_two_pos n

theorem unitsBeyond_pos : 0 < unitsBeyond := by
  unfold unitsBeyond
  generalize 2098 = n
  exact pow_two_pos n

/-- A sum of finite values, in units. -/
theorem toUnits_add_finite (a : Bool) (m e : Nat) (b : Bool) (n k : Nat) :
    ((finite a m e).add (.finite b n k)).InFormat ∧
      ((finite a m e).add (.finite b n k)).toUnits =
        nearest ((finite a m e).toUnits + (finite b n k).toUnits) unitsInOne := by
  have add_eq : (finite a m e).add (.finite b n k) =
      if (finite a m e).toUnits + (finite b n k).toUnits = 0 then zero (a && b)
      else ofRatio ((finite a m e).toUnits + (finite b n k).toUnits < 0)
        ((finite a m e).toUnits + (finite b n k).toUnits).natAbs unitsInOne := rfl
  rw [add_eq]
  generalize (finite a m e).toUnits + (finite b n k).toUnits = sum
  split
  · rename_i nothing
    have size : magnitude 0 0 = 0 := Nat.zero_mul _
    refine ⟨.finite _ 0 0 ?_, ?_⟩
    · rw [size]
      exact unitsBeyond_pos
    · show signed (a && b) (magnitude 0 0) = _
      rw [nothing, size, signed_zero, nearest_zero unitsInOne_pos]
  · exact ⟨inFormat_ofRatio _ _ unitsInOne_pos, rfl⟩

theorem unitsOf_one : unitsOf 1 unitsInOne = 1 := by
  have least : exponentOf 1 unitsInOne = 0 := by
    unfold exponentOf
    rw [Nat.mul_div_cancel 1 unitsInOne_pos]
    exact if_pos (by decide)
  have grid : Nat.pow 2 0 = 1 := rfl
  unfold unitsOf significandOf magnitude
  rw [least, grid, Nat.mul_one, Nat.mul_one, roundHalfEven_mul_left 1 unitsInOne_pos]

/-- **Rounding makes no positive number of units vanish.** -/
theorem nearest_pos_iff {units : Int} : 0 < nearest units unitsInOne ↔ 0 < units := by
  have one : nearest 1 unitsInOne = 1 := by
    show (ofRatio false 1 unitsInOne).toUnits = 1
    rw [toUnits_ofRatio _ _ unitsInOne_pos, unitsOf_one, Nat.min_eq_right unitsBeyond_pos]
    rfl
  constructor
  · intro positive
    refine Int.not_le.1 fun none => ?_
    have le := nearest_le_nearest unitsInOne_pos none
    rw [nearest_zero unitsInOne_pos] at le
    omega
  · intro positive
    have le := nearest_le_nearest unitsInOne_pos (by omega : 1 ≤ units)
    omega

theorem toUnits_neg (x : Binary64) : x.neg.toUnits = -x.toUnits := by
  have signs (negative : Bool) (units : Nat) : signed (!negative) units = -signed negative units := by
    cases negative with
    | false => rfl
    | true => exact (Int.neg_neg _).symm
  cases x with
  | nan => rfl
  | infinite negative => exact signs negative _
  | finite negative significand exponent => exact signs negative _

/-- **A difference of finite values has the sign that it should.** -/
theorem toUnits_sub_pos_iff (a : Bool) (m e : Nat) (b : Bool) (n k : Nat) :
    0 < ((finite a m e).sub (finite b n k)).toUnits ↔ 0 < (finite a m e).toUnits - (finite b n k).toUnits := by
  show 0 < ((finite a m e).add (finite (!b) n k)).toUnits ↔ _
  rw [(toUnits_add_finite a m e (!b) n k).2, nearest_pos_iff, Int.sub_eq_add_neg, ← toUnits_neg]
  rfl

/-- **A sum with a finite value keeps the order.** -/
theorem toUnits_add_le_toUnits_add {x y : Binary64} (inFormat : x.InFormat) (inFormat' : y.InFormat)
    (le : x.toUnits ≤ y.toUnits) {a b : Bool} {m e n k : Nat}
    (le' : (finite a m e).toUnits ≤ (finite b n k).toUnits) :
    (x.add (.finite a m e)).toUnits ≤ (y.add (.finite b n k)).toUnits := by
  refine toUnits_le_of_finite (f := fun x => x.add (.finite a m e)) (g := fun y => y.add (.finite b n k))
    (fun _ => rfl) (fun _ => rfl) (fun c p q => (toUnits_add_finite c p q a m e).1)
    (fun c p q => (toUnits_add_finite c p q b n k).1) ?_ inFormat inFormat' le
  intro c p q d r s le
  rw [(toUnits_add_finite c p q a m e).2, (toUnits_add_finite d r s b n k).2]
  exact nearest_le_nearest unitsInOne_pos (by omega)

/-! ### Integer parts -/

section Whole

variable {num den num' den' k places : Nat}

/-- The integer part of a rounded quotient; for one beyond the format, that of where the finite values end. -/
def wholeOf (num den : Nat) : Nat := min unitsBeyond (unitsOf num den) / unitsInOne

/-- A quotient within the format has this integer part. -/
theorem truncate_of_ofQuotient (positive : 0 < den) {quotient : Binary64} (fits : ofQuotient num den = .ok quotient) :
    quotient.truncate = .ok (wholeOf num den : Int) := by
  have units := toUnits_ofRatio false num positive
  rw [ofQuotient_natCast num positive] at fits
  rcases ofRatio_eq_or false num den with is | ⟨significand, exponent, is⟩
  · rw [is] at fits
    cases fits
  · rw [is] at fits units
    obtain rfl := Except.ok.inj fits
    have size : magnitude significand exponent = min unitsBeyond (unitsOf num den) := Int.ofNat.inj units
    show Except.ok (((magnitude significand exponent / unitsInOne : Nat)) : Int) = _
    rw [size]
    rfl

/-- **A greater quotient has as great an integer part at least.** -/
theorem wholeOf_le_wholeOf (positive : 0 < den) (positive' : 0 < den') (le : num * den' ≤ num' * den) :
    wholeOf num den ≤ wholeOf num' den' := by
  have units := unitsOf_le_unitsOf positive positive' le
  exact Nat.div_le_div_right (by omega)

/-- The integer part depends on the value of a quotient alone. -/
theorem wholeOf_mul_right (num : Nat) (positive : 0 < den) {factor : Nat} (nonzero : 0 < factor) :
    wholeOf (num * factor) (den * factor) = wholeOf num den := by
  have room : 0 < den * factor := Nat.mul_pos positive nonzero
  have same : num * factor * den = num * (den * factor) := by rw [Nat.mul_assoc, Nat.mul_comm factor]
  exact Nat.le_antisymm (wholeOf_le_wholeOf room positive (Nat.le_of_eq same))
    (wholeOf_le_wholeOf positive room (Nat.le_of_eq same.symm))

theorem wholeOf_eq_div (fits : k + places = 53) (lt : num < den * Nat.pow 2 k) (short : den < 2 * Nat.pow 2 places) :
    wholeOf num den = num / den := by
  have positive : 0 < den := Nat.pos_of_ne_zero fun zero => by simp [zero] at lt
  obtain ⟨quotient, told, truncates⟩ := truncate_ofQuotient fits lt short
  rw [truncate_of_ofQuotient positive told] at truncates
  exact Int.ofNat.inj (Except.ok.inj truncates)

/-- **Up to a bound within the format rounding changes no integer part**, however large the quotient is. -/
theorem min_wholeOf {bound : Nat} (fits : k + places = 53) (within : bound < Nat.pow 2 k) (positive : 0 < den)
    (short : den < 2 * Nat.pow 2 places) : min bound (wholeOf num den) = min bound (num / den) := by
  rcases Nat.lt_or_ge num (den * Nat.pow 2 k) with below | beyond
  · rw [wholeOf_eq_div fits below short]
  · -- the bound itself is not rounded, and a greater quotient is rounded to no less
    have room : 0 < Nat.pow 2 places := pow_two_pos places
    have exact : wholeOf bound 1 = bound := by
      rw [wholeOf_eq_div fits (by omega) (by omega), Nat.div_one]
    have reached : bound * den ≤ num :=
      Nat.le_trans (Nat.mul_le_mul_right den (Nat.le_of_lt within)) (Nat.mul_comm den _ ▸ beyond)
    have rounded : bound ≤ wholeOf num den :=
      exact ▸ wholeOf_le_wholeOf Nat.one_pos positive (by rwa [Nat.mul_one])
    have whole : bound ≤ num / den := (Nat.le_div_iff_mul_le positive).2 reached
    rw [Nat.min_eq_left rounded, Nat.min_eq_left whole]

end Whole

end HostWatch.Binary64
