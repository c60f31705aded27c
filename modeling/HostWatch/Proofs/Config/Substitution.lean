/-
**What stands for the references in a text.**

A text is read from its front: where a reference begins, it is one piece, and the text goes on behind it; any other
glyph is a piece of its own. Each piece has one thing to stand for it, a reference to a variable that is not set and
has no default apart.

* `Pieces`, `exists_pieces`: a text and the pieces it is read in.
* `substituteGlyphs_eq_ok_iff`: **what a text becomes** is what stands for its pieces, one after the other.
* `Resolved`, `substitute_eq_ok_iff`, `exists_resolved_iff`: **a value becomes something unless it refers to a variable
  that is not set**.
* `Part`, `substitute_assembled`: **a text put together of literals and references becomes their values, put together**,
  and one without references stays as it is.
-/

import HostWatch.Failure
import HostWatch.Proofs.Config.Reference
import HostWatch.Proofs.Outcomes

namespace HostWatch.Config

open Text (Glyph)

/-! ### Pieces -/

/-- A piece of a text: a glyph that stands for itself, or a reference. -/
inductive Piece where
  | glyph (glyph : Glyph)
  | reference (reference : Reference)

/-- **The pieces that a text is read in**, from its front. -/
inductive Pieces : List Glyph → List Piece → Prop
  | nil : Pieces [] []
  | reference {reference : Reference} {tail : List Glyph} {pieces : List Piece} (wellFormed : reference.WellFormed)
      (rest : Pieces tail pieces) : Pieces (reference.written ++ tail) (.reference reference :: pieces)
  | glyph {glyph : Glyph} {tail : List Glyph} {pieces : List Piece}
      (plain : ∀ (reference : Reference) behind, reference.WellFormed → glyph :: tail ≠ reference.written ++ behind)
      (rest : Pieces tail pieces) : Pieces (glyph :: tail) (.glyph glyph :: pieces)

theorem exists_pieces (s : List Glyph) : ∃ pieces, Pieces s pieces := by
  -- a reference takes several glyphs at once, so the induction is on the length
  induction length : s.length using Nat.strong_induction_on generalizing s with
  | _ length ih =>
    subst length
    cases s with
    | nil => exact ⟨[], .nil⟩
    | cons glyph rest =>
      by_cases begins : ∃ (reference : Reference) (tail : List Glyph), reference.WellFormed ∧ glyph :: rest = reference.written ++ tail
      · obtain ⟨reference, tail, wellFormed, split⟩ := begins
        rw [split]
        have shorter : tail.length < (reference.written ++ tail).length := by
          simp [Reference.written]
          omega
        obtain ⟨pieces, read⟩ := ih tail.length (split ▸ shorter) tail rfl
        exact ⟨.reference reference :: pieces, .reference wellFormed read⟩
      · obtain ⟨pieces, read⟩ := ih rest.length (Nat.lt_succ_self _) rest rfl
        refine ⟨.glyph glyph :: pieces, .glyph (fun reference behind wellFormed split => ?_) read⟩
        exact begins ⟨reference, behind, wellFormed, split⟩

section Texts

variable {environment : Environment}

/-- What stands for a piece of a text. -/
inductive StandsFor (environment : Environment) : Piece → List Glyph → Prop
  | glyph (glyph : Glyph) : StandsFor environment (.glyph glyph) [glyph]
  | value {reference : Reference} {text : String} (set : environment reference.name = some text) :
      StandsFor environment (.reference reference) (Glyph.ofText text.toList)
  | fallback {reference : Reference} {fallback : List Glyph} (unset : environment reference.name = none)
      (given : reference.fallback = some fallback) : StandsFor environment (.reference reference) fallback

theorem resolve_eq_ok_iff {reference : Reference} {t : List Glyph} :
    reference.resolve environment = .ok t ↔ StandsFor environment (.reference reference) t := by
  unfold Reference.resolve
  constructor
  · intro found
    split at found
    · rename_i set
      obtain rfl := Except.ok.inj found
      exact .value set
    · rename_i fallback unset given
      obtain rfl := Except.ok.inj found
      exact .fallback unset given
    · cases found
  · intro stands
    cases stands with
    | value set => rw [set]
    | fallback unset given => rw [unset, given]

/-- **What a text becomes**: what stands for its pieces, one after the other. -/
theorem Pieces.substituteGlyphs_eq_ok_iff {s t : List Glyph} {pieces : List Piece} (read : Pieces s pieces) :
    substituteGlyphs environment s = .ok t ↔
      ∃ parts, List.Forall₂ (StandsFor environment) pieces parts ∧ t = parts.flatten := by
  induction read generalizing t with
  | nil =>
    rw [substituteGlyphs]
    constructor
    · intro ends
      exact ⟨[], .nil, (Except.ok.inj ends).symm⟩
    · rintro ⟨parts, _ | _, rfl⟩
      rfl
  | @reference reference tail pieces wellFormed _ ih =>
    rw [substituteGlyphs_written wellFormed]
    constructor
    · intro ends
      obtain ⟨value, resolved, ends⟩ := exists_of_bind_eq_ok ends
      obtain ⟨others, became, same⟩ := exists_of_bind_eq_ok ends
      obtain ⟨parts, stand, rfl⟩ := ih.1 became
      exact ⟨value :: parts, .cons (resolve_eq_ok_iff.1 resolved) stand, (Except.ok.inj same).symm⟩
    · rintro ⟨_, _ | ⟨stands, stand⟩, rfl⟩
      rw [resolve_eq_ok_iff.2 stands, ih.2 ⟨_, stand, rfl⟩]
      rfl
  | @glyph glyph tail pieces plain _ ih =>
    rw [substituteGlyphs_plain plain]
    constructor
    · intro ends
      obtain ⟨others, became, rfl⟩ := exists_of_map_eq_ok ends
      obtain ⟨parts, stand, rfl⟩ := ih.1 became
      exact ⟨[glyph] :: parts, .cons (.glyph glyph) stand, rfl⟩
    · rintro ⟨_, _ | ⟨⟨⟩, stand⟩, rfl⟩
      rw [ih.2 ⟨_, stand, rfl⟩]
      rfl

/-- A piece for which nothing stands: a reference to a variable that is not set, without a default. -/
def IsUnset (environment : Environment) (piece : Piece) : Prop :=
  ∃ reference, piece = .reference reference ∧ environment reference.name = none ∧ reference.fallback = none

theorem exists_standsFor_iff {piece : Piece} : (∃ t, StandsFor environment piece t) ↔ ¬ IsUnset environment piece := by
  constructor
  · rintro ⟨t, stands⟩ ⟨reference, rfl, unset, missing⟩
    cases stands with
    | value set => rw [set] at unset; cases unset
    | fallback _ given => rw [given] at missing; cases missing
  · intro known
    cases piece with
    | glyph glyph => exact ⟨[glyph], .glyph glyph⟩
    | reference reference =>
      cases set : environment reference.name with
      | some text => exact ⟨_, .value set⟩
      | none =>
        cases given : reference.fallback with
        | some fallback => exact ⟨fallback, .fallback set given⟩
        | none => exact absurd ⟨reference, rfl, set, given⟩ known

theorem Pieces.exists_substituteGlyphs_iff {s : List Glyph} {pieces : List Piece} (read : Pieces s pieces) :
    (∃ t, substituteGlyphs environment s = .ok t) ↔ ∀ piece ∈ pieces, ¬ IsUnset environment piece := by
  simp only [← exists_standsFor_iff, ← exists_forall₂_iff, read.substituteGlyphs_eq_ok_iff]
  constructor
  · rintro ⟨t, parts, stand, -⟩
    exact ⟨parts, stand⟩
  · rintro ⟨parts, stand⟩
    exact ⟨parts.flatten, parts, stand, rfl⟩

/-- The only fault of a text is a variable that is not set. -/
theorem exists_of_substituteGlyphs_eq_error {s : List Glyph} {fault : Fault}
    (fails : substituteGlyphs environment s = .error fault) : ∃ name, fault = .unsetVariable name := by
  obtain ⟨pieces, read⟩ := exists_pieces s
  induction read with
  | nil =>
    rw [substituteGlyphs] at fails
    cases fails
  | @reference reference tail pieces wellFormed _ ih =>
    rw [substituteGlyphs_written wellFormed, bind_eq_error_iff] at fails
    rcases fails with unresolved | ⟨value, -, fails⟩
    · unfold Reference.resolve at unresolved
      split at unresolved
      · cases unresolved
      · cases unresolved
      · exact ⟨reference.name, (Except.error.inj unresolved).symm⟩
    · rcases bind_eq_error_iff.1 fails with behind | ⟨others, -, ends⟩
      · exact ih behind
      · cases ends
  | @glyph glyph tail pieces plain _ ih =>
    rw [substituteGlyphs_plain plain] at fails
    exact ih (eq_error_of_map fails)

/-! ### Values -/

/-- The glyphs of a text. -/
def glyphs? : Value → Option (List Glyph)
  | .text s => some (Glyph.ofText s.toList)
  | .halves glyphs => some glyphs
  | _ => none

/-- **What a value becomes** when references are replaced: only a text changes. -/
inductive Resolved (environment : Environment) : Value → Value → Prop
  | text {value : Value} {glyphs : List Glyph} {pieces : List Piece} {parts : List (List Glyph)}
      (isText : glyphs? value = some glyphs) (read : Pieces glyphs pieces)
      (stand : List.Forall₂ (StandsFor environment) pieces parts) : Resolved environment value (.ofGlyphs parts.flatten)
  | other {value : Value} (noText : glyphs? value = none) : Resolved environment value value

/-- **A value refers to a variable that is not set**, without a default. -/
def RefersToUnset (environment : Environment) (value : Value) : Prop :=
  ∃ glyphs pieces, glyphs? value = some glyphs ∧ Pieces glyphs pieces ∧ ∃ piece ∈ pieces, IsUnset environment piece

theorem substitute_eq (value : Value) : substitute environment value =
    match glyphs? value with
    | some glyphs => (substituteGlyphs environment glyphs).map .ofGlyphs
    | none => .ok value := by
  cases value <;> rfl

theorem substitute_eq_ok_iff {value resolved : Value} :
    substitute environment value = .ok resolved ↔ Resolved environment value resolved := by
  rw [substitute_eq]
  constructor
  · intro ends
    cases isText : glyphs? value with
    | none =>
      rw [isText] at ends
      obtain rfl := Except.ok.inj ends
      exact .other isText
    | some glyphs =>
      rw [isText] at ends
      obtain ⟨t, became, rfl⟩ := exists_of_map_eq_ok ends
      obtain ⟨pieces, read⟩ := exists_pieces glyphs
      obtain ⟨parts, stand, rfl⟩ := read.substituteGlyphs_eq_ok_iff.1 became
      exact .text isText read stand
  · intro resolves
    cases resolves with
    | @text glyphs pieces parts isText read stand =>
      rw [isText]
      show (substituteGlyphs environment glyphs).map Value.ofGlyphs = _
      rw [read.substituteGlyphs_eq_ok_iff.2 ⟨parts, stand, rfl⟩]
      rfl
    | other noText => rw [noText]

/-- **A value becomes something unless it refers to a variable that is not set.** -/
theorem exists_resolved_iff {value : Value} :
    (∃ resolved, Resolved environment value resolved) ↔ ¬ RefersToUnset environment value := by
  cases isText : glyphs? value with
  | none => exact iff_of_true ⟨value, .other isText⟩ fun ⟨_, _, text, _⟩ => by rw [isText] at text; cases text
  | some glyphs =>
    obtain ⟨pieces, read⟩ := exists_pieces glyphs
    constructor
    · rintro ⟨resolved, resolves⟩ ⟨other, otherPieces, text, readToo, piece, member, unset⟩
      obtain rfl : glyphs = other := Option.some.inj (isText.symm.trans text)
      rw [← substitute_eq_ok_iff, substitute_eq, isText] at resolves
      obtain ⟨t, became, -⟩ := exists_of_map_eq_ok resolves
      exact readToo.exists_substituteGlyphs_iff.1 ⟨t, became⟩ piece member unset
    · intro refers
      have known : ∀ piece ∈ pieces, ¬ IsUnset environment piece := fun piece member unset =>
        refers ⟨glyphs, pieces, isText, read, piece, member, unset⟩
      obtain ⟨t, became⟩ := read.exists_substituteGlyphs_iff.2 known
      obtain ⟨parts, stand, -⟩ := read.substituteGlyphs_eq_ok_iff.1 became
      exact ⟨_, .text isText read stand⟩

theorem exists_of_substitute_eq_error {value : Value} {fault : Fault} (fails : substitute environment value = .error fault) :
    ∃ name, fault = .unsetVariable name := by
  rw [substitute_eq] at fails
  cases isText : glyphs? value with
  | none => rw [isText] at fails; cases fails
  | some glyphs =>
    rw [isText] at fails
    exact exists_of_substituteGlyphs_eq_error (eq_error_of_map fails)

end Texts

/-! ### Texts put together of parts -/

/-- A part of a text: a literal without a dollar sign, or a reference that can be written. -/
inductive Part where
  | literal (text : List Glyph) (plain : Glyph.char '$' ∉ text)
  | reference (reference : Reference) (wellFormed : reference.WellFormed)

namespace Part

/-- The text of a part. -/
def written : Part → List Glyph
  | .literal text _ => text
  | .reference r _ => r.written

/-- What a part becomes: a literal itself, a reference the value of its variable, also when that is the empty text, and
its default, if it has one, when the variable is not set. -/
def value? (environment : Environment) : Part → Option (List Glyph)
  | .literal text _ => some text
  | .reference r _ =>
    match environment r.name with
    | some value => some (Glyph.ofText value.toList)
    | none => r.fallback

end Part

section Parts

variable {environment : Environment}

/-- A literal stays as it is: no reference begins in it. -/
theorem substituteGlyphs_literal {text : List Glyph} (plain : Glyph.char '$' ∉ text) (tail : List Glyph) :
    substituteGlyphs environment (text ++ tail) = (substituteGlyphs environment tail).map (text ++ ·) := by
  induction text with
  | nil =>
    simp only [List.nil_append]
    cases substituteGlyphs environment tail <;> rfl
  | cons glyph text ih =>
    obtain ⟨other, plain⟩ := not_or.1 (mt List.mem_cons.2 plain)
    have unread (reference : Reference) (behind : List Glyph) (_ : reference.WellFormed) :
        glyph :: (text ++ tail) ≠ reference.written ++ behind := by
      intro same
      exact other (List.cons.inj same).1.symm
    rw [List.cons_append, substituteGlyphs_plain unread, ih plain]
    cases substituteGlyphs environment tail <;> rfl

theorem resolve_eq_ok_iff_value? {reference : Reference} {wellFormed : reference.WellFormed} {t : List Glyph} :
    reference.resolve environment = .ok t ↔ (Part.reference reference wellFormed).value? environment = some t := by
  unfold Reference.resolve Part.value?
  cases set : environment reference.name with
  | some value => simp [set]
  | none => cases given : reference.fallback <;> simp [set, given]

/-- **The first part of a text** becomes its value, and the text goes on behind it. -/
theorem Part.substituteGlyphs_eq_ok_iff {part : Part} {tail t : List Glyph} :
    substituteGlyphs environment (part.written ++ tail) = .ok t ↔
      ∃ value others, part.value? environment = some value ∧ substituteGlyphs environment tail = .ok others ∧
        t = value ++ others := by
  cases part with
  | literal text plain =>
    rw [Part.written, substituteGlyphs_literal plain]
    constructor
    · intro ends
      obtain ⟨others, became, rfl⟩ := exists_of_map_eq_ok ends
      exact ⟨text, others, rfl, became, rfl⟩
    · rintro ⟨value, others, same, became, rfl⟩
      obtain rfl := Option.some.inj same
      rw [became]
      rfl
  | reference reference wellFormed =>
    rw [Part.written, substituteGlyphs_written wellFormed]
    constructor
    · intro ends
      obtain ⟨value, resolved, ends⟩ := exists_of_bind_eq_ok ends
      obtain ⟨others, became, same⟩ := exists_of_bind_eq_ok ends
      exact ⟨value, others, resolve_eq_ok_iff_value?.1 resolved, became, (Except.ok.inj same).symm⟩
    · rintro ⟨value, others, known, became, rfl⟩
      rw [resolve_eq_ok_iff_value?.2 known, became]
      rfl

/-- The values of the parts are put together in the order of the parts. -/
theorem substituteGlyphs_flatMap_eq_ok_iff {parts : List Part} {t : List Glyph} :
    substituteGlyphs environment (parts.flatMap Part.written) = .ok t ↔
      ∃ values, List.Forall₂ (fun part value => part.value? environment = some value) parts values ∧
        t = values.flatten := by
  induction parts generalizing t with
  | nil =>
    rw [List.flatMap_nil, substituteGlyphs]
    constructor
    · intro ends
      exact ⟨[], .nil, (Except.ok.inj ends).symm⟩
    · rintro ⟨values, _ | _, rfl⟩
      rfl
  | cons part parts ih =>
    rw [List.flatMap_cons, Part.substituteGlyphs_eq_ok_iff]
    constructor
    · rintro ⟨value, others, known, became, rfl⟩
      obtain ⟨values, all, rfl⟩ := ih.1 became
      exact ⟨value :: values, .cons known all, rfl⟩
    · rintro ⟨_, _ | ⟨known, all⟩, rfl⟩
      exact ⟨_, _, known, ih.2 ⟨_, all, rfl⟩, rfl⟩

theorem ofText_of_text? {glyphs : List Glyph} {s : List Char} (made : Glyph.text? glyphs = some s) :
    Glyph.ofText s = glyphs := by
  induction glyphs generalizing s with
  | nil =>
    obtain rfl := Option.some.inj made
    rfl
  | cons glyph glyphs ih =>
    cases glyph with
    | half code => simp [Glyph.text?, Glyph.char?] at made
    | char c =>
      simp only [Glyph.text?, List.mapM_cons, Glyph.char?, Option.pure_def, Option.bind_eq_bind, Option.bind_some] at made
      obtain ⟨rest, others, same⟩ := Option.bind_eq_some_iff.1 made
      obtain rfl := Option.some.inj same
      exact congrArg (Glyph.char c :: ·) (ih others)

theorem glyphs?_ofGlyphs (glyphs : List Glyph) : glyphs? (.ofGlyphs glyphs) = some glyphs := by
  unfold Value.ofGlyphs
  split
  · rename_i s made
    simp [glyphs?, ofText_of_text? made]
  · rfl

theorem substitute_ofGlyphs (environment : Environment) (glyphs : List Glyph) :
    substitute environment (.ofGlyphs glyphs) = (substituteGlyphs environment glyphs).map .ofGlyphs := by
  rw [substitute_eq, glyphs?_ofGlyphs]

theorem substitute_written_eq_ok_iff {parts : List Part} {value : Value} :
    substitute environment (.ofGlyphs (parts.flatMap Part.written)) = .ok value ↔
      ∃ values, List.Forall₂ (fun part value => part.value? environment = some value) parts values ∧
        value = .ofGlyphs values.flatten := by
  rw [substitute_ofGlyphs]
  constructor
  · intro ends
    obtain ⟨t, became, rfl⟩ := exists_of_map_eq_ok ends
    obtain ⟨values, all, rfl⟩ := substituteGlyphs_flatMap_eq_ok_iff.1 became
    exact ⟨values, all, rfl⟩
  · rintro ⟨values, all, rfl⟩
    rw [substituteGlyphs_flatMap_eq_ok_iff.2 ⟨values, all, rfl⟩]
    rfl

/-- A text put together of parts becomes something when each part has a value. -/
theorem exists_substitute_written_iff {parts : List Part} :
    (∃ value, substitute environment (.ofGlyphs (parts.flatMap Part.written)) = .ok value) ↔
      ∀ part ∈ parts, ∃ value, part.value? environment = some value := by
  rw [← exists_forall₂_iff]
  simp only [substitute_written_eq_ok_iff]
  constructor
  · rintro ⟨value, values, all, -⟩
    exact ⟨values, all⟩
  · rintro ⟨values, all⟩
    exact ⟨_, values, all, rfl⟩

/-- It fails when a part has none. -/
theorem exists_substitute_written_error_iff {parts : List Part} :
    (∃ fault, substitute environment (.ofGlyphs (parts.flatMap Part.written)) = .error fault) ↔
      ∃ part ∈ parts, part.value? environment = none := by
  have fails_iff : (∃ fault, substitute environment (.ofGlyphs (parts.flatMap Part.written)) = .error fault) ↔
      ¬ ∃ value, substitute environment (.ofGlyphs (parts.flatMap Part.written)) = .ok value := by
    cases substitute environment (.ofGlyphs (parts.flatMap Part.written)) <;> simp
  rw [fails_iff, exists_substitute_written_iff]
  simp [Option.eq_none_iff_forall_ne_some]

/-- **What becomes of a text put together of parts**: their values, put together, and nothing in these is read again. It
fails where a part has no value, with a fault of the configuration. -/
structure Assembles (environment : Environment) (parts : List Part) : Prop where
  eq_ok_iff : ∀ value, substitute environment (.ofGlyphs (parts.flatMap Part.written)) = .ok value ↔
    ∃ values, List.Forall₂ (fun part value => part.value? environment = some value) parts values ∧
      value = .ofGlyphs values.flatten
  fails_iff : (∃ fault, substitute environment (.ofGlyphs (parts.flatMap Part.written)) = .error fault) ↔
    ∃ part ∈ parts, part.value? environment = none
  kind_eq : ∀ fault, substitute environment (.ofGlyphs (parts.flatMap Part.written)) = .error fault →
    (Failure.config fault).kind = .configuration

/-- **A text put together of literals and references becomes their values, put together**, and a text that mentions no
reference stays as it is. -/
theorem substitute_assembled (environment : Environment) :
    (∀ parts, Assembles environment parts) ∧
      ∀ glyphs, ¬ Mentions glyphs → substitute environment (.ofGlyphs glyphs) = .ok (.ofGlyphs glyphs) := by
  refine ⟨fun parts => ?_, fun glyphs plain => ?_⟩
  · refine ⟨fun value => substitute_written_eq_ok_iff, exists_substitute_written_error_iff, fun fault fails => ?_⟩
    obtain ⟨name, rfl⟩ := exists_of_substitute_eq_error fails
    rfl
  · rw [substitute_ofGlyphs, substituteGlyphs_eq_self environment plain]
    rfl

/-- The variable `HOME` has a value that looks like a reference; no other variable is set. -/
def onlyHome : Environment := fun name => if name = "HOME" then some "$\x7bUSER\x7d" else none

/-- A literal and two references, of which the second one has a default that looks like the beginning of a reference. -/
def lookalikes : List Part := [
  .literal (Glyph.ofText "at ".toList) (by decide),
  .reference ⟨"HOME", none⟩ ⟨⟨_, _, rfl, by decide, by decide⟩, nofun⟩,
  .reference ⟨"USER", some (Glyph.ofText "$\x7bHOME".toList)⟩
    ⟨⟨_, _, rfl, by decide, by decide⟩, fun _ given => Option.some.inj given ▸ by decide⟩]

theorem substitute_assembled_lookalikes :
    Assembles onlyHome lookalikes ∧
      substitute onlyHome (.ofGlyphs (lookalikes.flatMap Part.written)) = .ok (.text "at $\x7bUSER\x7d$\x7bHOME") ∧
      ¬ Mentions (Glyph.ofText "$HOME".toList) ∧
      substitute onlyHome (.ofGlyphs (Glyph.ofText "$HOME".toList)) = .ok (.ofGlyphs (Glyph.ofText "$HOME".toList)) := by
  have assembles := (substitute_assembled onlyHome).1 lookalikes
  have plain : ¬ Mentions (Glyph.ofText "$HOME".toList) := fun mentions => absurd (mem_of_mentions mentions).2 (by decide)
  refine ⟨assembles, ?_, plain, (substitute_assembled onlyHome).2 _ plain⟩
  refine (assembles.eq_ok_iff _).2 ⟨_, .cons rfl (.cons rfl (.cons rfl .nil)), ?_⟩
  exact (ofGlyphs_ofText "at $\x7bUSER\x7d$\x7bHOME").symm

end Parts

end HostWatch.Config
