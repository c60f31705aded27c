/-
**Words in letters of any case.**

A comparison with an ASCII word lowers the ASCII letters and the Kelvin sign and nothing else. The full lower-case
form does more, but what it makes of any other character holds something that is not in ASCII.

* `lowerGlyph_char`: what becomes of one character, whatever its neighbours are.
* `equalsIgnoringCase_iff`: **a comparison with a word sees exactly the texts whose lower-case form is the word**.
-/

import HostWatch.Text.LowerCase
import Mathlib.Data.List.Basic

namespace HostWatch.Text

/-! ### Single characters -/

/-- The characters of ASCII, the null character apart. -/
def IsPlain (c : Char) : Prop := 0 < c.toNat ∧ c.toNat < 128

instance (c : Char) : Decidable (IsPlain c) := instDecidableAnd

/-- A text of such characters. -/
def ArePlain (s : List Char) : Prop := ∀ c ∈ s, IsPlain c

instance (s : List Char) : Decidable (ArePlain s) := List.decidableBAll _ s

theorem not_isPlain_of_wide {c : Char} (wide : 128 ≤ c.toNat) : ¬ IsPlain c :=
  fun plain => Nat.not_lt.2 wide plain.2

/-- Beyond ASCII no character has a lower-case form in the basic sense. -/
theorem toLower_of_wide {c : Char} (wide : 128 ≤ c.toNat) : c.toLower = c := by
  unfold Char.toLower
  refine dif_neg fun upper => ?_
  have most : c.toNat ≤ 90 := upper.2
  omega

/-- A digit has no other form. -/
theorem lowerForComparison_of_isDigit {c : Char} (digit : c.isDigit) : lowerForComparison c = c := by
  have range : 48 ≤ c.toNat ∧ c.toNat ≤ 57 := Char.isDigit_iff_toNat.1 digit
  have other : c ≠ '\u212a' := by
    rintro rfl
    exact absurd range.2 (by decide)
  unfold lowerForComparison Char.toLower
  rw [if_neg other]
  refine dif_neg fun upper => ?_
  have least : 65 ≤ c.toNat := upper.1
  omega

theorem lowerForComparison_of_wide {c : Char} (wide : 128 ≤ c.toNat) (other : c ≠ '\u212a') :
    lowerForComparison c = c := by
  unfold lowerForComparison
  rw [if_neg other, toLower_of_wide wide]

/-- The character of a number beyond ASCII is not plain, and where there is no such character the null character
stands for it. -/
theorem not_isPlain_ofNat {n : Nat} (wide : 128 ≤ n) : ¬ IsPlain (Char.ofNat n) := by
  by_cases valid : n.isValidChar
  · have same : (Char.ofNat n).toNat = n := by
      unfold Char.ofNat
      rw [dif_pos valid]
      rfl
    exact not_isPlain_of_wide (by omega)
  · unfold Char.ofNat
    rw [dif_neg valid]
    decide

/-- The Kelvin sign apart, no letter beyond ASCII has a plain character as its lower-case form. -/
theorem not_isPlain_of_lowerRuns {run : CaseRun} {n : Nat} (found : run ∈ lowerRuns)
    (contains : run.contains n = true) (other : n ≠ 0x212A) :
    ¬ IsPlain (Char.ofNat (Int.toNat (n + run.distance))) := by
  have apart : ∀ run ∈ lowerRuns, (run.first = 0x212A ∧ run.last = 0x212A) ∨ 128 ≤ run.first + run.distance := by
    decide +kernel
  have range : run.first ≤ n ∧ n ≤ run.last := by
    unfold CaseRun.contains at contains
    simp only [Bool.and_eq_true, decide_eq_true_eq] at contains
    exact contains.1
  have far := apart run found
  exact not_isPlain_ofNat (by omega)

/-- **What becomes of one character**: it is lowered as for a comparison, or something that is not plain comes of it
both ways. -/
theorem lowerGlyph_char (before after : List Glyph) (c : Char) :
    lowerGlyph before after (.char c) = [.char (lowerForComparison c)] ∨
      ¬ IsPlain (lowerForComparison c) ∧
        ∃ other, .char other ∈ lowerGlyph before after (.char c) ∧ ¬ IsPlain other := by
  by_cases narrow : c.toNat < 128
  · left
    have notSigma : c ≠ capitalSigma := by
      rintro rfl
      exact absurd narrow (by decide)
    have notKelvin : c ≠ '\u212a' := by
      rintro rfl
      exact absurd narrow (by decide)
    show (if c = capitalSigma then _ else Glyph.ofText (lowerChar c)) = _
    unfold lowerChar lowerForComparison
    rw [if_neg notSigma, if_pos narrow, if_neg notKelvin]
    rfl
  · have wide : 128 ≤ c.toNat := Nat.le_of_not_lt narrow
    by_cases kelvin : c = '\u212a'
    · left
      subst kelvin
      have form : lowerChar '\u212a' = ['k'] := by decide
      show Glyph.ofText (lowerChar '\u212a') = _
      rw [form]
      rfl
    · right
      rw [lowerForComparison_of_wide wide kelvin]
      refine ⟨not_isPlain_of_wide wide, ?_⟩
      by_cases sigma : c = capitalSigma
      · refine ⟨if startsCased before && !startsCased after then '\u03c2' else '\u03c3', ?_, by split <;> decide⟩
        show _ ∈ if c = capitalSigma then _ else _
        rw [if_pos sigma]
        exact List.mem_singleton_self _
      · obtain ⟨other, member, strange⟩ : ∃ other ∈ lowerChar c, ¬ IsPlain other := by
          unfold lowerChar
          rw [if_neg narrow]
          split
          · exact ⟨'\u0307', by decide, by decide⟩
          · cases found : lowerRuns.find? (·.contains c.toNat) with
            | none => exact ⟨c, List.mem_singleton_self c, not_isPlain_of_wide wide⟩
            | some run =>
              have contains := List.find?_some found
              have other : c.toNat ≠ 0x212A := fun same => kelvin (Char.toNat_inj.1 same)
              exact ⟨_, List.mem_singleton_self _,
                not_isPlain_of_lowerRuns (List.mem_of_find?_eq_some found) contains other⟩
        refine ⟨other, ?_, strange⟩
        show _ ∈ if c = capitalSigma then _ else _
        rw [if_neg sigma]
        exact List.mem_map_of_mem member

/-! ### Words -/

theorem lowerBehind_eq_iff {before : List Glyph} {s word : List Char} (plain : ArePlain word) :
    lowerBehind before (Glyph.ofText s) = Glyph.ofText word ↔ s.map lowerForComparison = word := by
  -- only the capital sigma asks for its neighbours, and no form of it is a letter of the word
  induction s generalizing before word with
  | nil =>
    cases word with
    | nil => exact iff_of_true rfl rfl
    | cons letter word => exact iff_of_false nofun nofun
  | cons c s ih =>
    show lowerGlyph before (Glyph.ofText s) (.char c) ++ lowerBehind (.char c :: before) (Glyph.ofText s) = _ ↔
      lowerForComparison c :: s.map lowerForComparison = word
    rcases lowerGlyph_char before (Glyph.ofText s) c with same | ⟨strange, other, member, strangeToo⟩
    · rw [same]
      cases word with
      | nil => exact iff_of_false nofun nofun
      | cons letter word =>
        have rest : lowerBehind (.char c :: before) (Glyph.ofText s) = Glyph.ofText word ↔
            s.map lowerForComparison = word :=
          ih fun other found => plain other (List.mem_cons_of_mem letter found)
        show Glyph.char (lowerForComparison c) :: _ = Glyph.char letter :: Glyph.ofText word ↔ _
        rw [List.cons.injEq, List.cons.injEq, Glyph.char.injEq, ← rest]
        rfl
    · refine iff_of_false (fun same => ?_) fun same => ?_
      · have within : Glyph.char other ∈ Glyph.ofText word := same ▸ List.mem_append_left _ member
        obtain ⟨letter, found, same⟩ := List.mem_map.1 within
        obtain rfl : letter = other := Glyph.char.inj same
        exact strangeToo (plain letter found)
      · exact strange (plain _ (same ▸ List.mem_cons_self))

/-- **A comparison with a word sees exactly the texts whose lower-case form is the word.** -/
theorem equalsIgnoringCase_iff {s : List Char} {word : String} (plain : ArePlain word.toList) :
    equalsIgnoringCase s word = true ↔ lower (Glyph.ofText s) = Glyph.ofText word.toList := by
  unfold equalsIgnoringCase lower
  rw [beq_iff_eq, lowerBehind_eq_iff plain]

end HostWatch.Text
