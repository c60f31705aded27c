/-
**References in texts.**

A reference is a name, or a name with a default, in braces behind a dollar sign. It is read exactly where its text
begins, so that a text in which no reference stands is put together again as it was.

* `IsReference`: the texts of references.
* `readReference?_eq_some_iff`: **a reference is read exactly where its text begins**.
* `substituteGlyphs_written`, `substituteGlyphs_plain`: the two ways on through a text.
* `substituteGlyphs_eq_self`: a text that mentions no reference stays as it is.
* `Unaffected`: the values that stay as they are, texts without references among them.
-/

import HostWatch.Config.Reference
import Mathlib.Data.List.TakeWhile

namespace HostWatch.Config

open Text (Glyph)

/-! ### Texts of references -/

/-- A name: a letter or an underscore, and letters, digits and underscores behind it. -/
def IsName (name : List Glyph) : Prop :=
  ∃ first rest, name = first :: rest ∧ isCharacter isNameStart first ∧ ∀ glyph ∈ rest, isCharacter isNameCharacter glyph

/-- The text of a reference, with or without a default. -/
inductive IsReference : List Glyph → Prop
  | bare {name : List Glyph} (isName : IsName name) :
      IsReference (.char '$' :: openingBrace :: (name ++ [closingBrace]))
  | defaulted {name fallback : List Glyph} (isName : IsName name) (within : closingBrace ∉ fallback) :
      IsReference (.char '$' :: openingBrace :: (name ++ .char ':' :: .char '-' :: (fallback ++ [closingBrace])))

/-- A text in which a reference stands. -/
def Mentions (s : List Glyph) : Prop := ∃ reference, IsReference reference ∧ reference <:+: s

theorem isNameCharacter_of_isNameStart {glyph : Glyph} (letter : isCharacter isNameStart glyph = true) :
    isCharacter isNameCharacter glyph = true := by
  cases glyph with
  | char c => exact Bool.or_eq_true_iff.2 (.inl letter)
  | half code => cases letter

theorem isName_takeWhile {s : List Glyph} (starts : s.head?.any (isCharacter isNameStart)) :
    IsName (s.takeWhile (isCharacter isNameCharacter)) := by
  cases s with
  | nil => cases starts
  | cons first rest =>
    have letter : isCharacter isNameStart first = true := starts
    have taken := List.takeWhile_cons_of_pos (l := rest) (isNameCharacter_of_isNameStart letter)
    exact ⟨first, _, taken, letter, fun glyph member => List.mem_takeWhile_imp member⟩

/-! ### References in texts -/

/-- The text of a reference behind its name: a closing brace, or a default and a closing brace. -/
def Reference.ending (reference : Reference) : List Glyph :=
  match reference.fallback with
  | none => [closingBrace]
  | some fallback => .char ':' :: .char '-' :: (fallback ++ [closingBrace])

/-- The text of a reference behind its opening brace. -/
def Reference.inner (reference : Reference) : List Glyph :=
  Glyph.ofText reference.name.toList ++ reference.ending

/-- The text of a reference. -/
def Reference.written (reference : Reference) : List Glyph :=
  .char '$' :: openingBrace :: reference.inner

/-- A reference that can be written: its name is one, and its default ends at the first closing brace. -/
structure Reference.WellFormed (reference : Reference) : Prop where
  isName : IsName (Glyph.ofText reference.name.toList)
  within : ∀ fallback ∈ reference.fallback, closingBrace ∉ fallback

theorem eq_ending_of_readEnd? {name : String} {s tail : List Glyph} {reference : Reference}
    (read : readEnd? name s = some (reference, tail)) :
    reference.name = name ∧ (∀ fallback ∈ reference.fallback, closingBrace ∉ fallback) ∧
      s = reference.ending ++ tail := by
  unfold readEnd? at read
  split at read
  · rename_i rest
    split at read
    · rename_i brace after behind
      obtain ⟨rfl, rfl⟩ := Prod.mk.inj (Option.some.inj read)
      have stops := List.head?_dropWhile_not (· != closingBrace) rest
      rw [behind] at stops
      obtain rfl : brace = closingBrace := by simpa using stops
      have split := List.takeWhile_append_dropWhile (p := (· != closingBrace)) (l := rest)
      refine ⟨rfl, fun fallback same member => ?_, ?_⟩
      · obtain rfl := Option.some.inj same
        simpa using List.mem_takeWhile_imp member
      · rw [behind] at split
        simp [Reference.ending, split]
    · cases read
  · split at read
    · rename_i closes
      obtain ⟨rfl, rfl⟩ := Prod.mk.inj (Option.some.inj read)
      exact ⟨rfl, nofun, congrArg (· :: _) closes⟩
    · cases read
  · cases read

theorem ofText_asChars {s : List Glyph} (characters : ∀ glyph ∈ s, isCharacter isNameCharacter glyph) :
    Glyph.ofText (Glyph.asChars s) = s := by
  induction s with
  | nil => rfl
  | cons glyph rest ih =>
    rw [List.forall_mem_cons] at characters
    obtain ⟨first, others⟩ := characters
    cases glyph with
    | char c => exact congrArg (Glyph.char c :: ·) (ih others)
    | half code => cases first

theorem IsName.characters {name : List Glyph} (isName : IsName name) :
    ∀ glyph ∈ name, isCharacter isNameCharacter glyph := by
  obtain ⟨first, rest, rfl, letter, characters⟩ := isName
  exact List.forall_mem_cons.2 ⟨isNameCharacter_of_isNameStart letter, characters⟩

theorem wellFormed_of_readReference? {s tail : List Glyph} {reference : Reference}
    (read : readReference? s = some (reference, tail)) : reference.WellFormed ∧ s = reference.inner ++ tail := by
  unfold readReference? at read
  split at read
  · rename_i starts
    have isName := isName_takeWhile starts
    obtain ⟨named, within, ends⟩ := eq_ending_of_readEnd? read
    have name_eq : Glyph.ofText reference.name.toList = s.takeWhile (isCharacter isNameCharacter) := by
      rw [named, String.toList_ofList, ofText_asChars isName.characters]
    refine ⟨⟨name_eq ▸ isName, within⟩, ?_⟩
    unfold Reference.inner
    rw [name_eq, List.append_assoc, ← ends, List.takeWhile_append_dropWhile]
  · cases read

namespace Reference.WellFormed

variable {reference : Reference} (wellFormed : reference.WellFormed) (tail : List Glyph)

include wellFormed

theorem readEnd?_ending : readEnd? reference.name (reference.ending ++ tail) = some (reference, tail) := by
  obtain ⟨name, fallback⟩ := reference
  cases fallback with
  | none => rfl
  | some fallback =>
    have within : closingBrace ∉ fallback := wellFormed.within fallback rfl
    have passes : ∀ glyph ∈ fallback, (glyph != closingBrace) = true := by
      intro glyph member
      exact bne_iff_ne.2 fun same => within (same ▸ member)
    have dropped : (fallback ++ closingBrace :: tail).dropWhile (· != closingBrace) = closingBrace :: tail := by
      rw [List.dropWhile_append_of_pos passes, List.dropWhile_cons_of_neg (by simp)]
    have taken : (fallback ++ closingBrace :: tail).takeWhile (· != closingBrace) = fallback := by
      rw [List.takeWhile_append_of_pos passes, List.takeWhile_cons_of_neg (by simp), List.append_nil]
    have split : fallback ++ [closingBrace] ++ tail = fallback ++ closingBrace :: tail := List.append_assoc ..
    show readEnd? name (.char ':' :: .char '-' :: (fallback ++ [closingBrace] ++ tail)) = _
    rw [split]
    unfold readEnd?
    simp only [dropped, taken]

theorem readReference?_inner : readReference? (reference.inner ++ tail) = some (reference, tail) := by
  have characters := wellFormed.isName.characters
  have stops : (reference.ending ++ tail).head?.all (!isCharacter isNameCharacter ·) = true := by
    unfold Reference.ending
    split <;> rfl
  have taken : (reference.ending ++ tail).takeWhile (isCharacter isNameCharacter) = [] ∧
      (reference.ending ++ tail).dropWhile (isCharacter isNameCharacter) = reference.ending ++ tail := by
    generalize reference.ending ++ tail = s at stops
    cases s with
    | nil => exact ⟨rfl, rfl⟩
    | cons glyph s =>
      have other : ¬ isCharacter isNameCharacter glyph = true := by simpa using stops
      exact ⟨List.takeWhile_cons_of_neg other, List.dropWhile_cons_of_neg other⟩
  have starts : (reference.inner ++ tail).head?.any (isCharacter isNameStart) = true := by
    obtain ⟨first, rest, name_eq, letter, -⟩ := wellFormed.isName
    unfold Reference.inner
    rw [name_eq]
    exact letter
  unfold readReference?
  rw [if_pos starts]
  unfold Reference.inner
  dsimp only
  rw [List.append_assoc, List.takeWhile_append_of_pos characters, List.dropWhile_append_of_pos characters, taken.1,
    taken.2, List.append_nil, Glyph.asChars_ofText, String.ofList_toList]
  exact wellFormed.readEnd?_ending tail

end Reference.WellFormed

/-- **A reference is read where its text begins.** -/
theorem readReference?_eq_some_iff {s tail : List Glyph} {reference : Reference} :
    readReference? s = some (reference, tail) ↔ reference.WellFormed ∧ s = reference.inner ++ tail := by
  refine ⟨wellFormed_of_readReference?, ?_⟩
  rintro ⟨wellFormed, rfl⟩
  exact wellFormed.readReference?_inner tail

theorem Reference.WellFormed.isReference {reference : Reference} (wellFormed : reference.WellFormed) :
    IsReference reference.written := by
  obtain ⟨name, fallback⟩ := reference
  cases fallback with
  | none => exact .bare wellFormed.isName
  | some fallback => exact .defaulted wellFormed.isName (wellFormed.within fallback rfl)

/-! ### Texts that references are replaced in -/

section Texts

variable {environment : Environment}

/-- A reference at the front of a text is replaced, and the text goes on behind it. -/
theorem substituteGlyphs_written {reference : Reference} (wellFormed : reference.WellFormed) (tail : List Glyph) :
    substituteGlyphs environment (reference.written ++ tail) =
      (do
        let value ← reference.resolve environment
        let others ← substituteGlyphs environment tail
        return value ++ others) := by
  show substituteGlyphs environment (.char '$' :: openingBrace :: (reference.inner ++ tail)) = _
  rw [substituteGlyphs, if_pos ⟨rfl, rfl⟩]
  split
  · rename_i found behind read
    have same := read.symm.trans (wellFormed.readReference?_inner tail)
    obtain ⟨rfl, rfl⟩ := Prod.mk.inj (Option.some.inj same)
    rfl
  · rename_i missing
    have absent := missing.symm.trans (wellFormed.readReference?_inner tail)
    cases absent

/-- Where no reference begins, a glyph stays as it is. -/
theorem substituteGlyphs_plain {glyph : Glyph} {tail : List Glyph}
    (plain : ∀ (reference : Reference) behind, reference.WellFormed → glyph :: tail ≠ reference.written ++ behind) :
    substituteGlyphs environment (glyph :: tail) = (substituteGlyphs environment tail).map (glyph :: ·) := by
  rw [substituteGlyphs]
  split
  · rename_i opens
    split
    · rename_i reference behind read
      obtain ⟨rfl, brace⟩ := opens
      obtain ⟨inner, rfl⟩ := List.head?_eq_some_iff.1 brace
      obtain ⟨wellFormed, split⟩ := wellFormed_of_readReference? read
      obtain rfl : inner = reference.inner ++ behind := split
      exact absurd rfl (plain reference behind wellFormed)
    · cases substituteGlyphs environment tail <;> rfl
  · cases substituteGlyphs environment tail <;> rfl

end Texts

/-- **A text that mentions no reference stays as it is.** -/
theorem substituteGlyphs_eq_self (environment : Environment) {s : List Glyph} (plain : ¬ Mentions s) :
    substituteGlyphs environment s = .ok s := by
  induction s with
  | nil => rw [substituteGlyphs]
  | cons glyph rest ih =>
    have others : substituteGlyphs environment rest = .ok rest := by
      refine ih ?_
      rintro ⟨text, isReference, within⟩
      exact plain ⟨text, isReference, List.infix_cons within⟩
    have unread (reference : Reference) (behind : List Glyph) (wellFormed : reference.WellFormed) :
        glyph :: rest ≠ reference.written ++ behind := by
      intro split
      exact plain ⟨reference.written, wellFormed.isReference, [], behind, split.symm⟩
    rw [substituteGlyphs_plain unread, others]
    rfl

/-! ### Values without references -/

/-- A value of a text field that stays as it is: none, or a text that mentions no reference. -/
inductive Unaffected : Value → Prop
  | null : Unaffected .null
  | text {s : String} (plain : ¬ Mentions (Glyph.ofText s.toList)) : Unaffected (.text s)
  | halves {glyphs : List Glyph} (broken : Glyph.text? glyphs = none) (plain : ¬ Mentions glyphs) :
      Unaffected (.halves glyphs)

theorem ofGlyphs_ofText (s : String) : Value.ofGlyphs (Glyph.ofText s.toList) = .text s := by
  unfold Value.ofGlyphs
  rw [Glyph.text?_ofText]
  exact congrArg Value.text String.ofList_toList

theorem substitute_text_eq_self (environment : Environment) {s : String}
    (plain : ¬ Mentions (Glyph.ofText s.toList)) : substitute environment (.text s) = .ok (.text s) := by
  have outcome : (substituteGlyphs environment (Glyph.ofText s.toList)).map Value.ofGlyphs = .ok (.text s) := by
    rw [substituteGlyphs_eq_self environment plain]
    exact congrArg Except.ok (ofGlyphs_ofText s)
  exact outcome

theorem Unaffected.substitute_eq_self (environment : Environment) {value : Value} (unaffected : Unaffected value) :
    substitute environment value = .ok value := by
  cases unaffected with
  | null => rfl
  | text plain => exact substitute_text_eq_self environment plain
  | @halves glyphs broken plain =>
    have outcome : (substituteGlyphs environment glyphs).map Value.ofGlyphs = .ok (.halves glyphs) := by
      rw [substituteGlyphs_eq_self environment plain]
      show Except.ok (Value.ofGlyphs glyphs) = _
      unfold Value.ofGlyphs
      rw [broken]
    exact outcome

/-- A text that mentions a reference holds a dollar sign and an opening brace. -/
theorem mem_of_mentions {s : List Char} (mentions : Mentions (Glyph.ofText s)) : '$' ∈ s ∧ '\x7b' ∈ s := by
  obtain ⟨reference, isReference, within⟩ := mentions
  have kept {c : Char} (member : Glyph.char c ∈ reference) : c ∈ s := by
    obtain ⟨other, found, same⟩ := List.mem_map.1 (within.subset member)
    exact Glyph.char.inj same ▸ found
  cases isReference with
  | bare isName => exact ⟨kept List.mem_cons_self, kept (List.mem_cons_of_mem _ List.mem_cons_self)⟩
  | defaulted isName within => exact ⟨kept List.mem_cons_self, kept (List.mem_cons_of_mem _ List.mem_cons_self)⟩

theorem Unaffected.of_notMem {s : String} (plain : '\x7b' ∉ s.toList) : Unaffected (.text s) :=
  .text fun mentions => plain (mem_of_mentions mentions).2

end HostWatch.Config
