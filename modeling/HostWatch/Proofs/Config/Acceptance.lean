/-
**What becomes of a mapping.**

An entry of a mapping makes a setting when its key names a field and the field can take what its value becomes. The
mapping is refused when an entry makes none, even one that a later entry overrides, or when a bounded field ends up
out of its bounds. Nothing else is in the way of a configuration, integers apart that are too long to be written: they
end the reading of a mapping with a fault of another kind.

* `Coerces`: the settings of a field that a value makes.
* `readEntry_eq_ok_iff`, `readEntry_eq_error`: **what an entry makes**, and how it fails.
* `last_of_foldl`: the last entry that names a field makes its setting.
* `Gives`, `gives_foldl`: **what a mapping gives a field**, by its last entry or by the base.
* `Refused`: what is wrong with a mapping.
* `ofMapping_accounts`: **a mapping without integers that are too long has a valid configuration unless it is refused**.
* `ofMapping_of_overlongAddress`: one integer that is too long is a fault of the wrong kind.
-/

import HostWatch.Failure
import HostWatch.Proofs.Config.RoundTrip
import HostWatch.Proofs.Config.Substitution
import HostWatch.Proofs.Text.LowerCase
import HostWatch.Proofs.Text.Numeral

namespace HostWatch.Config

open Text (Glyph)

/-- A fault of the configuration, not of another kind. -/
def IsExpected (fault : Fault) : Prop := (Failure.config fault).kind = .configuration

/-! ### Keys -/

theorem names_of_ofKey? {key : String} {field : Field} (found : Field.ofKey? key = some field) : Names key field := by
  rcases Option.or_eq_some_iff.1 found with older | ⟨-, named⟩
  · obtain ⟨before, after, split, -⟩ := List.lookup_eq_some_iff.1 older
    exact .inr (split ▸ List.mem_append_right before List.mem_cons_self)
  · have same := List.find?_some named
    exact .inl (beq_iff_eq.1 same).symm

/-- An entry concerns a field: its key names it. -/
def Concerns (entry : Value × Value) (field : Field) : Prop := ∃ key, entry.1 = .text key ∧ Names key field

theorem fieldOf_eq_ok_iff {entry : Value × Value} {field : Field} : fieldOf entry.1 = .ok field ↔ Concerns entry field := by
  obtain ⟨key, value⟩ := entry
  constructor
  · intro found
    unfold fieldOf at found
    dsimp only at found
    split at found
    · rename_i key
      split at found
      · rename_i named
        obtain rfl := Except.ok.inj found
        exact ⟨key, rfl, names_of_ofKey? named⟩
      · cases found
    · cases found
  · rintro ⟨key, rfl, names⟩
    unfold fieldOf
    dsimp only
    rw [ofKey?_of_names names]

/-- A key that names no field is to blame, unless an integer in it is too long to be shown. -/
theorem fieldOf_eq_error {key : Value} {fault : Fault} (fails : fieldOf key = .error fault) :
    (key.isWritable = false ∧ fault = .unwritable) ∨ (key.isWritable = true ∧ IsExpected fault) := by
  unfold fieldOf at fails
  split at fails
  · split at fails
    · cases fails
    · cases fails
      exact .inr ⟨rfl, rfl⟩
  · split at fails
    · rename_i writable
      cases fails
      exact .inr ⟨writable, rfl⟩
    · rename_i unwritable
      cases fails
      exact .inl ⟨Bool.eq_false_iff.2 unwritable, rfl⟩

theorem Concerns.unique {entry : Value × Value} {field other : Field} (concerns : Concerns entry field)
    (concernsToo : Concerns entry other) : field = other := by
  have same := (fieldOf_eq_ok_iff.2 concerns).symm.trans (fieldOf_eq_ok_iff.2 concernsToo)
  exact Except.ok.inj same

theorem Concerns.isWritable {entry : Value × Value} {field : Field} (concerns : Concerns entry field) :
    entry.1.isWritable = true := by
  obtain ⟨key, key_eq, -⟩ := concerns
  rw [key_eq]
  rfl

/-! ### Coercion -/

/-- **The settings of a field that a value makes**: an integer that its trimmed text denotes, the encryption whose word
its text is in lower case, or its text as it is. -/
inductive Coerces : Field → Value → Setting → Prop
  | integer {field : IntegerField} {value : Value} {n : Int}
      (denotes : Text.Denotes (Text.trimmed value.toText.toList) n) : Coerces (.integer field) value (.integer field n)
  | encryption {value : Value} {e : Encryption}
      (lowered : Text.lower (Glyph.ofText value.toText.toList) = Glyph.ofText e.word.toList) :
      Coerces .encryption value (.encryption e)
  | text {field : TextField} {value : Value} : Coerces (.text field) value (.text field (asText value))

theorem readIntegerFor_eq_ok_iff {field : Field} {value : Value} {n : Int} :
    readIntegerFor field value = .ok n ↔ Text.Denotes (Text.trimmed value.toText.toList) n := by
  rw [← Text.readInteger_trimmed_iff]
  unfold readIntegerFor
  constructor
  · exact eq_ok_of_mapError
  · intro read
    rw [read]
    rfl

theorem readEncryption?_eq_some_iff {s : List Char} {e : Encryption} :
    readEncryption? s = some e ↔ Text.lower (Glyph.ofText s) = Glyph.ofText e.word.toList := by
  have plain (e : Encryption) : Text.ArePlain e.word.toList := by cases e <;> decide
  rw [← Text.equalsIgnoringCase_iff (plain e)]
  constructor
  · intro found
    have same := List.find?_some found
    exact same
  · intro same
    unfold readEncryption? Text.equalsIgnoringCase at *
    rw [beq_iff_eq.1 same]
    cases e <;> decide

/-- **What a field reads from a value.** -/
theorem readSetting_eq_ok_iff {base : Config} (texts : ∀ field, HoldsText (base.text field)) {field : Field}
    {value : Value} {setting : Setting} :
    readSetting base field value = .ok setting ↔ value.isWritable = true ∧ Coerces field value setting := by
  unfold readSetting
  cases writable : value.isWritable with
  | false => exact iff_of_false nofun nofun
  | true =>
    rw [Bool.not_true, if_neg Bool.false_ne_true, eq_self_iff_true, true_and]
    cases field with
    | integer field =>
      constructor
      · intro ends
        obtain ⟨n, read, rfl⟩ := exists_of_map_eq_ok ends
        exact .integer (readIntegerFor_eq_ok_iff.1 read)
      · rintro ⟨⟩
        rename_i n denotes
        rw [show readIntegerFor _ _ = _ from readIntegerFor_eq_ok_iff.2 denotes]
        rfl
    | encryption =>
      dsimp only
      constructor
      · intro ends
        split at ends
        · rename_i found
          obtain rfl := Except.ok.inj ends
          exact .encryption (readEncryption?_eq_some_iff.1 found)
        · cases ends
      · rintro ⟨⟩
        rename_i e lowered
        rw [readEncryption?_eq_some_iff.2 lowered]
    | text field =>
      dsimp only
      rw [isInteger_of_holdsText (texts field), if_neg Bool.false_ne_true]
      constructor
      · intro ends
        obtain rfl := Except.ok.inj ends
        exact .text
      · rintro ⟨⟩
        rfl

theorem readSetting_eq_error {base : Config} {field : Field} {value : Value} {fault : Fault}
    (fails : readSetting base field value = .error fault) :
    (value.isWritable = false ∧ fault = .unwritable) ∨ (value.isWritable = true ∧ IsExpected fault) := by
  have expected (other : Field) {fault : Fault} (fails : readIntegerFor other value = .error fault) : IsExpected fault := by
    unfold readIntegerFor at fails
    cases read : Text.readInteger (Text.trimmed value.toText.toList) with
    | ok n => rw [read] at fails; cases fails
    | error cause => rw [read] at fails; cases fails; rfl
  unfold readSetting at fails
  cases writable : value.isWritable with
  | false =>
    rw [writable] at fails
    exact .inl ⟨rfl, (Except.error.inj fails).symm⟩
  | true =>
    rw [writable, Bool.not_true, if_neg Bool.false_ne_true] at fails
    refine .inr ⟨rfl, ?_⟩
    cases field with
    | integer field => exact expected _ (eq_error_of_map fails)
    | encryption =>
      dsimp only at fails
      split at fails
      · cases fails
      · cases fails
        rfl
    | text field =>
      dsimp only at fails
      split at fails
      · exact expected _ (eq_error_of_map fails)
      · cases fails

/-! ### Entries -/

section Mappings

variable {environment : Environment} {base : Config}

/-- What an entry makes of a field: the setting that the field takes from what its value becomes. -/
def Makes (environment : Environment) (entry : Value × Value) (field : Field) (setting : Setting) : Prop :=
  Concerns entry field ∧ ∃ value, Resolved environment entry.2 value ∧ Coerces field value setting

/-- **An integer in an entry is too long to be written**: one in a key, or one in the value for a field. -/
inductive Overlong (environment : Environment) (entry : Value × Value) : Prop
  | key (unwritable : entry.1.isWritable = false)
  | value {field : Field} {value : Value} (concerns : Concerns entry field)
      (resolved : Resolved environment entry.2 value) (unwritable : value.isWritable = false)

theorem Resolved.unique {value one other : Value} (resolved : Resolved environment value one)
    (resolvedToo : Resolved environment value other) : one = other := by
  have same := (substitute_eq_ok_iff.2 resolved).symm.trans (substitute_eq_ok_iff.2 resolvedToo)
  exact Except.ok.inj same

theorem not_overlong {entry : Value × Value} (key : entry.1.isWritable = true)
    (values : ∀ field value, Concerns entry field → Resolved environment entry.2 value → value.isWritable = true) :
    ¬ Overlong environment entry := by
  rintro (unwritable | ⟨concerns, resolved, unwritable⟩)
  · rw [key] at unwritable
    cases unwritable
  · rw [values _ _ concerns resolved] at unwritable
    cases unwritable

/-- **What an entry makes** when no integer in it is too long. -/
theorem readEntry_eq_ok_iff (texts : ∀ field, HoldsText (base.text field)) {entry : Value × Value} {setting : Setting} :
    readEntry environment base entry = .ok setting ↔
      ¬ Overlong environment entry ∧ ∃ field, Makes environment entry field setting := by
  constructor
  · intro read
    obtain ⟨field, named, read⟩ := exists_of_bind_eq_ok read
    obtain ⟨value, became, read⟩ := exists_of_bind_eq_ok read
    have concerns := fieldOf_eq_ok_iff.1 named
    have resolved := substitute_eq_ok_iff.1 became
    obtain ⟨writable, coerces⟩ := (readSetting_eq_ok_iff texts).1 read
    have short : ¬ Overlong environment entry :=
      not_overlong concerns.isWritable fun _ other _ resolvedToo => resolved.unique resolvedToo ▸ writable
    exact ⟨short, field, concerns, value, resolved, coerces⟩
  · rintro ⟨short, field, concerns, value, resolved, coerces⟩
    have writable : value.isWritable = true := by
      by_contra unwritable
      exact short (.value concerns resolved (Bool.eq_false_iff.2 unwritable))
    unfold readEntry readFieldValue
    rw [fieldOf_eq_ok_iff.2 concerns]
    show (substitute environment entry.2 >>= readSetting base field) = _
    rw [substitute_eq_ok_iff.2 resolved]
    exact (readSetting_eq_ok_iff texts).2 ⟨writable, coerces⟩

/-- **How an entry fails**: by an integer that is too long, or with a fault of the configuration. -/
theorem readEntry_eq_error {entry : Value × Value} {fault : Fault} (fails : readEntry environment base entry = .error fault) :
    (Overlong environment entry ∧ fault = .unwritable) ∨ (¬ Overlong environment entry ∧ IsExpected fault) := by
  rcases bind_eq_error_iff.1 fails with unnamed | ⟨field, named, fails⟩
  · have unconcerned (field : Field) (concerns : Concerns entry field) : False := by
      rw [fieldOf_eq_ok_iff.2 concerns] at unnamed
      cases unnamed
    rcases fieldOf_eq_error unnamed with ⟨unwritable, rfl⟩ | ⟨writable, expected⟩
    · exact .inl ⟨.key unwritable, rfl⟩
    · exact .inr ⟨not_overlong writable fun field _ concerns _ => (unconcerned field concerns).elim, expected⟩
  · have concerns := fieldOf_eq_ok_iff.1 named
    rcases bind_eq_error_iff.1 fails with unset | ⟨value, became, fails⟩
    · obtain ⟨name, rfl⟩ := exists_of_substitute_eq_error unset
      refine .inr ⟨not_overlong concerns.isWritable fun _ value _ resolved => ?_, rfl⟩
      rw [substitute_eq_ok_iff.2 resolved] at unset
      cases unset
    · have resolved := substitute_eq_ok_iff.1 became
      rcases readSetting_eq_error fails with ⟨unwritable, rfl⟩ | ⟨writable, expected⟩
      · exact .inl ⟨.value concerns resolved unwritable, rfl⟩
      · refine .inr ⟨not_overlong concerns.isWritable fun _ other _ resolvedToo => ?_, expected⟩
        exact resolved.unique resolvedToo ▸ writable

theorem readEntry_eq_unwritable_iff (texts : ∀ field, HoldsText (base.text field)) {entry : Value × Value} :
    readEntry environment base entry = .error .unwritable ↔ Overlong environment entry := by
  constructor
  · intro fails
    rcases readEntry_eq_error fails with ⟨overlong, -⟩ | ⟨-, expected⟩
    · exact overlong
    · cases expected
  · intro overlong
    cases ends : readEntry environment base entry with
    | ok setting => exact absurd overlong ((readEntry_eq_ok_iff texts).1 ends).1
    | error fault =>
      rcases readEntry_eq_error ends with ⟨-, rfl⟩ | ⟨short, -⟩
      · rfl
      · exact absurd overlong short

/-! ### Settings -/

theorem Coerces.field_eq {field : Field} {value : Value} {setting : Setting} (coerces : Coerces field value setting) :
    setting.field = field := by
  cases coerces <;> rfl

theorem Makes.field_eq {entry : Value × Value} {field : Field} {setting : Setting}
    (makes : Makes environment entry field setting) : setting.field = field := by
  obtain ⟨-, value, -, coerces⟩ := makes
  exact coerces.field_eq

theorem Coerces.unique {field : Field} {value : Value} {one other : Setting} (coerces : Coerces field value one)
    (coercesToo : Coerces field value other) : one = other := by
  cases coerces with
  | integer denotes =>
    obtain ⟨⟩ := coercesToo
    rename_i denotesToo
    have same := (Text.readInteger_trimmed_iff.2 denotes).symm.trans (Text.readInteger_trimmed_iff.2 denotesToo)
    rw [Except.ok.inj same]
  | encryption lowered =>
    obtain ⟨⟩ := coercesToo
    rename_i loweredToo
    have same := (readEncryption?_eq_some_iff.2 lowered).symm.trans (readEncryption?_eq_some_iff.2 loweredToo)
    rw [Option.some.inj same]
  | text =>
    obtain ⟨⟩ := coercesToo
    rfl

theorem Makes.unique {entry : Value × Value} {field : Field} {one other : Setting}
    (makes : Makes environment entry field one) (makesToo : Makes environment entry field other) : one = other := by
  obtain ⟨-, value, resolved, coerces⟩ := makes
  obtain ⟨-, value', resolvedToo, coercesToo⟩ := makesToo
  obtain rfl := resolved.unique resolvedToo
  exact coerces.unique coercesToo

/-- **The setting that a mapping gives a field**: what the last entry that names the field makes of it, or that of the
base where no entry does. -/
inductive Gives (environment : Environment) (base : Config) (entries : List (Value × Value)) (field : Field) :
    Setting → Prop
  | last {before after : List (Value × Value)} {entry : Value × Value} {setting : Setting}
      (split : entries = before ++ entry :: after) (makes : Makes environment entry field setting)
      (unnamed : ∀ later ∈ after, ¬ Concerns later field) : Gives environment base entries field setting
  | base (unnamed : ∀ entry ∈ entries, ¬ Concerns entry field) :
      Gives environment base entries field (settingOf base field)

/-- Two entries that both are the last one to name a field are one. -/
theorem eq_of_last {entries before before' after after' : List (Value × Value)} {entry entry' : Value × Value}
    {field : Field} (split : entries = before ++ entry :: after) (split' : entries = before' ++ entry' :: after')
    (concerns : Concerns entry field) (concerns' : Concerns entry' field)
    (unnamed : ∀ later ∈ after, ¬ Concerns later field) (unnamed' : ∀ later ∈ after', ¬ Concerns later field) :
    entry = entry' := by
  have same : before ++ entry :: after = before' ++ entry' :: after' := split.symm.trans split'
  rcases List.append_eq_append_iff.1 same with ⟨between, -, rest⟩ | ⟨between, -, rest⟩
  · cases between with
    | nil => exact (List.cons.inj rest).1
    | cons _ between =>
      obtain ⟨-, rfl⟩ := List.cons.inj rest
      exact absurd concerns' (unnamed entry' (List.mem_append_right between List.mem_cons_self))
  · cases between with
    | nil => exact (List.cons.inj rest).1.symm
    | cons _ between =>
      obtain ⟨-, rfl⟩ := List.cons.inj rest
      exact absurd concerns (unnamed' entry (List.mem_append_right between List.mem_cons_self))

theorem Gives.unique {entries : List (Value × Value)} {field : Field} {one other : Setting}
    (gives : Gives environment base entries field one) (givesToo : Gives environment base entries field other) :
    one = other := by
  cases gives with
  | last split makes unnamed =>
    cases givesToo with
    | last split' makesToo unnamed' =>
      obtain rfl := eq_of_last split split' makes.1 makesToo.1 unnamed unnamed'
      exact makes.unique makesToo
    | base nowhere =>
      rw [split] at nowhere
      exact absurd makes.1 (nowhere _ (List.mem_append_right _ List.mem_cons_self))
  | base nowhere =>
    cases givesToo with
    | last split makesToo _ =>
      rw [split] at nowhere
      exact absurd makesToo.1 (nowhere _ (List.mem_append_right _ List.mem_cons_self))
    | base => rfl

/-- **The last entry that names a field makes its setting**, whatever the fields held before; a field that no entry names
keeps what it held. -/
theorem last_of_foldl {makes : Value × Value → Setting → Prop}
    (concerns : ∀ entry setting, makes entry setting → Concerns entry setting.field) {entries : List (Value × Value)}
    {settings : List Setting} (made : List.Forall₂ makes entries settings) (base : Config) (field : Field) :
    ((∀ entry ∈ entries, ¬ Concerns entry field) ∧ settingOf (settings.foldl set base) field = settingOf base field) ∨
      ∃ before entry after, entries = before ++ entry :: after ∧ makes entry (settingOf (settings.foldl set base) field) ∧
        ∀ later ∈ after, ¬ Concerns later field := by
  induction made generalizing base with
  | nil => exact .inl ⟨nofun, rfl⟩
  | @cons entry setting entries settings head _ ih =>
    have named := concerns entry setting head
    rw [List.foldl_cons]
    rcases ih (set base setting) with ⟨unnamed, kept⟩ | ⟨before, other, after, split, later, unnamed⟩
    · rw [kept, settingOf_set_field]
      -- no later entry names the field, so this one decides, or the base does
      by_cases same : field = setting.field
      · rw [if_pos same]
        exact .inr ⟨[], entry, entries, rfl, head, unnamed⟩
      · rw [if_neg same]
        exact .inl ⟨List.forall_mem_cons.2 ⟨fun concerns => same (concerns.unique named), unnamed⟩, rfl⟩
    · exact .inr ⟨entry :: before, other, after, congrArg (entry :: ·) split, later, unnamed⟩

/-- Settings made one after the other leave every field with what the mapping gives it. -/
theorem gives_foldl {entries : List (Value × Value)} {settings : List Setting}
    (made : List.Forall₂ (fun entry setting => ∃ field, Makes environment entry field setting) entries settings)
    (base : Config) (field : Field) :
    Gives environment base entries field (settingOf (settings.foldl set base) field) := by
  have concerns (entry : Value × Value) (setting : Setting) (made : ∃ field, Makes environment entry field setting) :
      Concerns entry setting.field := by
    obtain ⟨named, makes⟩ := made
    exact makes.field_eq ▸ makes.1
  rcases last_of_foldl concerns made base field with ⟨unnamed, kept⟩ | ⟨before, entry, after, split, ⟨named, makes⟩, unnamed⟩
  · rw [kept]
    exact .base unnamed
  · obtain rfl : field = named := (field_settingOf _ field).symm.trans makes.field_eq
    exact .last split makes unnamed

/-! ### Mappings -/

/-- **What is wrong with a mapping.** -/
inductive Refused (environment : Environment) (base : Config) (entries : List (Value × Value)) : Prop
  /-- A key names no field. -/
  | unknownKey {entry : Value × Value} (member : entry ∈ entries) (unknown : ∀ field, ¬ Concerns entry field)
  /-- A value refers to a variable that is not set. -/
  | unset {entry : Value × Value} (member : entry ∈ entries) (refers : RefersToUnset environment entry.2)
  /-- A field can take nothing from what its value becomes. -/
  | incoercible {entry : Value × Value} {field : Field} {value : Value} (member : entry ∈ entries)
      (concerns : Concerns entry field) (resolved : Resolved environment entry.2 value)
      (incoercible : ∀ setting, ¬ Coerces field value setting)
  /-- A bounded field ends up out of its bounds. -/
  | outOfBounds {field : IntegerField} {n : Int}
      (gives : Gives environment base entries (.integer field) (.integer field n)) (outside : ¬ Admits field n)

theorem check_eq_ok_iff_valid {config made : Config} : check config = .ok made ↔ made = config ∧ config.Valid := by
  rw [← check_eq_ok_iff]
  constructor
  · intro passes
    have same : made = config := by
      unfold check at passes
      split at passes
      · cases passes
      · exact (Except.ok.inj passes).symm
    exact ⟨same, same ▸ passes⟩
  · rintro ⟨rfl, passes⟩
    exact passes

theorem ofMapping_eq_ok_iff {entries : List (Value × Value)} {config : Config} :
    ofMapping environment base entries = .ok config ↔
      ∃ settings, readEntries environment base entries = .ok settings ∧ config = settings.foldl set base ∧
        config.Valid := by
  constructor
  · intro ends
    obtain ⟨settings, read, checked⟩ := exists_of_bind_eq_ok ends
    obtain ⟨rfl, valid⟩ := check_eq_ok_iff_valid.1 checked
    exact ⟨settings, read, rfl, valid⟩
  · rintro ⟨settings, read, rfl, valid⟩
    unfold ofMapping
    rw [read]
    exact check_eq_ok_iff_valid.2 ⟨rfl, valid⟩

theorem readEntries_eq_ok_iff (texts : ∀ field, HoldsText (base.text field)) {entries : List (Value × Value)}
    {settings : List Setting} :
    readEntries environment base entries = .ok settings ↔
      (∀ entry ∈ entries, ¬ Overlong environment entry) ∧
        List.Forall₂ (fun entry setting => ∃ field, Makes environment entry field setting) entries settings := by
  unfold readEntries
  rw [mapM_eq_ok_iff]
  simp only [readEntry_eq_ok_iff texts]
  rw [List.forall₂_and_left]

/-- The entries are all right when each of them makes a setting. -/
theorem Refused.of_not_makes {entries : List (Value × Value)} {entry : Value × Value} (member : entry ∈ entries)
    (nothing : ∀ field setting, ¬ Makes environment entry field setting) : Refused environment base entries := by
  by_cases known : ∃ field, Concerns entry field
  · obtain ⟨field, concerns⟩ := known
    by_cases refers : RefersToUnset environment entry.2
    · exact .unset member refers
    · obtain ⟨value, resolved⟩ := exists_resolved_iff.2 refers
      exact .incoercible member concerns resolved fun setting coerces =>
        nothing field setting ⟨concerns, value, resolved, coerces⟩
  · exact .unknownKey member fun field concerns => known ⟨field, concerns⟩

/-- Where each entry makes a setting, only the bounds are left. -/
theorem not_refused_of_foldl {entries : List (Value × Value)} {settings : List Setting}
    (made : List.Forall₂ (fun entry setting => ∃ field, Makes environment entry field setting) entries settings)
    (valid : (settings.foldl set base).Valid) : ¬ Refused environment base entries := by
  have each := exists_forall₂_iff.1 ⟨settings, made⟩
  intro refused
  cases refused with
  | unknownKey member unknown =>
    obtain ⟨_, field, concerns, -⟩ := each _ member
    exact unknown field concerns
  | unset member refers =>
    obtain ⟨_, field, -, value, resolved, -⟩ := each _ member
    exact exists_resolved_iff.1 ⟨value, resolved⟩ refers
  | incoercible member concerns resolved incoercible =>
    obtain ⟨setting, field, concernsToo, value, resolvedToo, coerces⟩ := each _ member
    obtain rfl := concerns.unique concernsToo
    obtain rfl := resolved.unique resolvedToo
    exact incoercible setting coerces
  | outOfBounds gives outside =>
    have same := gives.unique (gives_foldl made base _)
    obtain ⟨-, rfl⟩ := Setting.integer.inj same
    exact outside (valid _)

theorem valid_of_not_refused {entries : List (Value × Value)} {settings : List Setting}
    (made : List.Forall₂ (fun entry setting => ∃ field, Makes environment entry field setting) entries settings)
    (accepted : ¬ Refused environment base entries) : (settings.foldl set base).Valid := by
  intro field
  by_contra outside
  exact accepted (.outOfBounds (gives_foldl made base (.integer field)) outside)

theorem isExpected_of_checkBounds {field : IntegerField} {value : Int} {fault : Fault}
    (fails : checkBounds field value = .error fault) : IsExpected fault := by
  unfold checkBounds at fails
  split at fails
  · cases fails
    rfl
  · split at fails
    · cases fails
    · split at fails
      · cases fails
        rfl
      · cases fails

theorem isExpected_of_check {config : Config} {fault : Fault} (fails : check config = .error fault) : IsExpected fault := by
  unfold check at fails
  split at fails
  · rename_i cause found
    obtain rfl := Except.error.inj fails
    obtain ⟨field, -, outside⟩ := exists_of_forM_eq_error found
    exact isExpected_of_checkBounds outside
  · cases fails

/-- **A configuration that is read** comes of a mapping that is not refused. -/
theorem accepted_of_ofMapping (texts : ∀ field, HoldsText (base.text field)) {entries : List (Value × Value)}
    {config : Config} (ends : ofMapping environment base entries = .ok config) :
    ¬ Refused environment base entries ∧ (∀ entry ∈ entries, ¬ Overlong environment entry) ∧ config.Valid ∧
      ∀ field, Gives environment base entries field (settingOf config field) := by
  obtain ⟨settings, read, rfl, valid⟩ := ofMapping_eq_ok_iff.1 ends
  obtain ⟨short, made⟩ := (readEntries_eq_ok_iff texts).1 read
  exact ⟨not_refused_of_foldl made valid, short, valid, gives_foldl made base⟩

/-- **A mapping that is not refused has a configuration** when no integer in it is too long. -/
theorem exists_ofMapping (texts : ∀ field, HoldsText (base.text field)) {entries : List (Value × Value)}
    (accepted : ¬ Refused environment base entries) (short : ∀ entry ∈ entries, ¬ Overlong environment entry) :
    ∃ config, ofMapping environment base entries = .ok config := by
  have each : ∀ entry ∈ entries, ∃ setting field, Makes environment entry field setting := by
    intro entry member
    by_contra nothing
    exact accepted (.of_not_makes member fun field setting makes => nothing ⟨setting, field, makes⟩)
  obtain ⟨settings, made⟩ := exists_forall₂_iff.2 each
  have read := (readEntries_eq_ok_iff texts).2 ⟨short, made⟩
  exact ⟨_, ofMapping_eq_ok_iff.2 ⟨settings, read, rfl, valid_of_not_refused made accepted⟩⟩

/-- **An integer that is too long ends the reading** where all that stands before it makes settings. -/
theorem ofMapping_eq_unwritable_iff (texts : ∀ field, HoldsText (base.text field)) {entries : List (Value × Value)} :
    ofMapping environment base entries = .error .unwritable ↔
      ∃ before entry after, entries = before ++ entry :: after ∧ Overlong environment entry ∧
        ∀ earlier ∈ before, ¬ Overlong environment earlier ∧ ∃ field setting, Makes environment earlier field setting := by
  have stops : ofMapping environment base entries = .error .unwritable ↔
      readEntries environment base entries = .error .unwritable := by
    refine bind_eq_error_iff.trans ⟨?_, .inl⟩
    rintro (fails | ⟨settings, -, fails⟩)
    · exact fails
    · cases isExpected_of_check fails
  have made_iff (entry : Value × Value) : (∃ setting, readEntry environment base entry = .ok setting) ↔
      ¬ Overlong environment entry ∧ ∃ field setting, Makes environment entry field setting := by
    simp only [readEntry_eq_ok_iff texts]
    rw [exists_and_left, exists_comm]
  rw [stops]
  unfold readEntries
  simp only [mapM_eq_error_iff, made_iff, readEntry_eq_unwritable_iff texts]
  constructor
  · rintro ⟨before, entry, after, split, earlier, overlong⟩
    exact ⟨before, entry, after, split, overlong, earlier⟩
  · rintro ⟨before, entry, after, split, overlong, earlier⟩
    exact ⟨before, entry, after, split, earlier, overlong⟩

theorem not_coerces_of_foreign {field : IntegerField} {value : Value} {c : Char} (member : c ∈ value.toText.toList)
    (isForeign : c ∈ Text.foreign) (setting : Setting) : ¬ Coerces (.integer field) value setting := by
  rintro ⟨⟩
  rename_i denotes
  exact Text.not_denotes_of_foreign member isForeign _ denotes

/-- **A mapping is accounted for**: it has a configuration exactly when it is not refused and no integer in it is too
long, a valid one in which every field has what the mapping gives it. Otherwise it fails with a fault of the
configuration, unless an integer that is too long is met before anything else is wrong. -/
structure Accounts (environment : Environment) (base : Config) (entries : List (Value × Value)) : Prop where
  eq_ok_iff : ∀ config, ofMapping environment base entries = .ok config ↔
    ¬ Refused environment base entries ∧ (∀ entry ∈ entries, ¬ Overlong environment entry) ∧ config.Valid ∧
      ∀ field, Gives environment base entries field (settingOf config field)
  exists_ok_iff : (∃ config, ofMapping environment base entries = .ok config) ↔
    ¬ Refused environment base entries ∧ ∀ entry ∈ entries, ¬ Overlong environment entry
  expected : ∀ fault, ofMapping environment base entries = .error fault → fault = .unwritable ∨ IsExpected fault
  unwritable_iff : ofMapping environment base entries = .error .unwritable ↔
    ∃ before entry after, entries = before ++ entry :: after ∧ Overlong environment entry ∧
      ∀ earlier ∈ before, ¬ Overlong environment earlier ∧ ∃ field setting, Makes environment earlier field setting
  /-- An integer field takes neither an empty value nor a truth value nor a real number. -/
  notInteger : ∀ field value setting, Coerces (.integer field) value setting →
    value ≠ .null ∧ (∀ b, value ≠ .bool b) ∧ ∀ x, value ≠ .real x

/-- **A mapping without integers that are too long has a valid configuration unless it is refused.** Every other value has
its text here, also one that is nested deeper than a text can be made of it on a stack that ends. -/
theorem ofMapping_accounts (texts : ∀ field, HoldsText (base.text field)) (environment : Environment)
    (entries : List (Value × Value)) : Accounts environment base entries where
  eq_ok_iff config := by
    refine ⟨accepted_of_ofMapping texts, ?_⟩
    rintro ⟨accepted, short, -, gives⟩
    obtain ⟨made, ends⟩ := exists_ofMapping texts accepted short
    obtain ⟨-, -, -, givesToo⟩ := accepted_of_ofMapping texts ends
    obtain rfl : config = made := eq_of_settingOf fun field => (gives field).unique (givesToo field)
    exact ends
  exists_ok_iff := by
    constructor
    · rintro ⟨config, ends⟩
      obtain ⟨accepted, short, -⟩ := accepted_of_ofMapping texts ends
      exact ⟨accepted, short⟩
    · rintro ⟨accepted, short⟩
      exact exists_ofMapping texts accepted short
  expected fault fails := by
    rcases bind_eq_error_iff.1 fails with fails | ⟨settings, -, fails⟩
    · obtain ⟨-, entry, -, -, -, fails⟩ := mapM_eq_error_iff.1 fails
      exact (readEntry_eq_error fails).imp And.right And.right
    · exact .inr (isExpected_of_check fails)
  unwritable_iff := ofMapping_eq_unwritable_iff texts
  notInteger field value setting coerces := by
    refine ⟨?_, ?_, ?_⟩
    · rintro rfl
      exact not_coerces_of_foreign (by decide : 'e' ∈ "None".toList) (by decide) setting coerces
    · rintro (_ | _) rfl
      · exact not_coerces_of_foreign (by decide : 'e' ∈ "False".toList) (by decide) setting coerces
      · exact not_coerces_of_foreign (by decide : 'e' ∈ "True".toList) (by decide) setting coerces
    · rintro x rfl
      obtain ⟨⟩ := coerces
      rename_i denotes
      exact Text.not_denotes_shortestText x _ denotes

/-- Two entries for one field, the later one under an older name. -/
def twice : List (Value × Value) :=
  [(.text "cpu_threshold", .int 80), (.text "cpuTreshold", .text " 70 ")]

theorem ofMapping_accounts_twice :
    (∀ field, HoldsText (default.text field)) ∧ Accounts (fun _ => none) default twice :=
  ⟨holdsText_default, ofMapping_accounts holdsText_default (fun _ => none) twice⟩

/-- An address that is the least integer with too many digits. -/
def overlongAddress : Value × Value := (.text "webhook_url", .int (Nat.pow 10 Text.mostDigits : Nat))

theorem makes_overlongAddress (environment : Environment) :
    Makes environment overlongAddress (.text .webhook) (.text .webhook (asText overlongAddress.2)) :=
  ⟨⟨_, rfl, .inl rfl⟩, _, .other rfl, .text⟩

/-- **One integer that is too long is a fault of the wrong kind**, in a mapping that should not be refused. -/
theorem ofMapping_of_overlongAddress :
    (∀ field, HoldsText (default.text field)) ∧ ¬ Refused (fun _ => none) default [overlongAddress] ∧
      ofMapping (fun _ => none) default [overlongAddress] = .error .unwritable ∧ ¬ IsExpected .unwritable := by
  have makes := makes_overlongAddress fun _ => none
  have overlong : Overlong (fun _ => none) overlongAddress :=
    .value makes.1 (.other rfl) (Bool.eq_false_iff.2 Text.not_isWritable_pow)
  refine ⟨holdsText_default, not_refused_of_foldl (.cons ⟨_, makes⟩ .nil) valid_default, ?_, nofun⟩
  exact (ofMapping_eq_unwritable_iff holdsText_default).2 ⟨[], overlongAddress, [], rfl, overlong, nofun⟩

end Mappings

end HostWatch.Config
