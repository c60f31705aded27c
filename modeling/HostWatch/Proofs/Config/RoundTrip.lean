/-
**Configurations read back from mappings.**

A mapping can tell all fields of a configuration: each field under its name or an older one, an integer as such or
as its decimal text, the encryption as its word in letters of any case, a text as it is. Such a mapping is read
entry by entry, and what is read for an entry is the setting of its field in the configuration. Only an integer with
too many digits is in the way: it goes through its text, which can be neither written nor read.

* `Tells`, `Lists`: the entries and the mappings that tell a configuration.
* `readEntry_of_tells`: **an entry makes the setting of its field**, when the integer in it may be written.
* `foldl_settingOf`: settings of all fields make the configuration, whatever they start from.
* `ofMapping_eq_self_iff`: **a configuration is read back exactly when all of its integers may be written**.
* `ofMapping_of_overlong`: one integer that is too long keeps a valid configuration from being read back.
-/

import HostWatch.Config.Mapping
import HostWatch.Proofs.Config.Reference
import HostWatch.Proofs.Outcomes
import HostWatch.Proofs.Text.Decimal
import Mathlib.Data.List.Perm.Basic

namespace HostWatch.Config

open Text (Glyph)

/-! ### Keys -/

/-- A key names a field: it is the name of the field, or an older one. -/
def Names (key : String) (field : Field) : Prop := key = field.name ∨ (key, field) ∈ Field.olderNames

theorem ofKey?_name (field : Field) : Field.ofKey? field.name = some field := by
  cases field with
  | integer field => cases field <;> decide
  | encryption => decide
  | text field => cases field <;> decide

theorem ofKey?_of_names {key : String} {field : Field} (names : Names key field) :
    Field.ofKey? key = some field := by
  have older : ∀ entry ∈ Field.olderNames, Field.ofKey? entry.1 = some entry.2 := by decide
  rcases names with rfl | member
  · exact ofKey?_name field
  · exact older (key, field) member

/-! ### Values -/

/-- A text is a lower-case word, in letters of any case. -/
def SameLetters (s word : List Char) : Prop :=
  List.Forall₂ (fun c letter => c = letter ∨ c = letter.toUpper) s word

/-- A value tells a field of a configuration. -/
inductive Spells (config : Config) : Field → Value → Prop
  | integer (field : IntegerField) : Spells config (.integer field) (.int (config.integer field))
  | decimal (field : IntegerField) : Spells config (.integer field) (.text (toString (config.integer field)))
  | word {s : String} (same : SameLetters s.toList config.encryption.word.toList) :
      Spells config .encryption (.text s)
  | text (field : TextField) : Spells config (.text field) (config.text field)

/-- The value of a text field is none or a text, not anything else. -/
def HoldsText : Value → Prop
  | .null | .text _ | .halves _ => True
  | _ => False

/-- The setting of a field in a configuration. -/
def settingOf (config : Config) : Field → Setting
  | .integer field => .integer field (config.integer field)
  | .encryption => .encryption config.encryption
  | .text field => .text field (config.text field)

/-- The integer in a field, if there is one, may be written. -/
def Writable (config : Config) : Field → Prop
  | .integer field => Text.isWritable (config.integer field)
  | _ => True

theorem notMem_dollar_toString (n : Int) : '$' ∉ (toString n).toList := by
  intro member
  rcases Text.isDigit_or_minus_of_mem member with digit | minus
  · exact absurd digit (by decide)
  · exact absurd minus (by decide)

theorem letter_of_word {e : Encryption} {letter : Char} (member : letter ∈ e.word.toList) :
    Text.lowerForComparison letter = letter ∧ Text.lowerForComparison letter.toUpper = letter ∧ letter ≠ '$' := by
  have all : (e.word.toList.all fun letter => Text.lowerForComparison letter == letter &&
      (Text.lowerForComparison letter.toUpper == letter && letter != '$')) = true := by
    cases e <;> decide
  have kept := List.all_eq_true.1 all letter member
  simpa only [Bool.and_eq_true, beq_iff_eq, bne_iff_ne] using kept

theorem SameLetters.lower {e : Encryption} {s : List Char} (same : SameLetters s e.word.toList) :
    s.map Text.lowerForComparison = e.word.toList := by
  have letters (letter : Char) (member : letter ∈ e.word.toList) := letter_of_word member
  -- the rest of a word is no word, so what is known of the letters is kept instead
  generalize e.word.toList = word at same letters
  induction same with
  | nil => rfl
  | @cons c letter s word head _ ih =>
    obtain ⟨lower, upper, -⟩ := letters letter List.mem_cons_self
    rw [List.map_cons, ih fun other member => letters other (List.mem_cons_of_mem letter member)]
    rcases head with rfl | rfl
    · rw [lower]
    · rw [upper]

theorem SameLetters.notMem_dollar {e : Encryption} {s : List Char} (same : SameLetters s e.word.toList) :
    '$' ∉ s := by
  intro member
  have kept : '$' ∈ s.map Text.lowerForComparison := List.mem_map.2 ⟨'$', member, by decide⟩
  rw [same.lower] at kept
  exact (letter_of_word kept).2.2 rfl

theorem readEncryption?_of_same {e : Encryption} {s : List Char} (same : SameLetters s e.word.toList) :
    readEncryption? s = some e := by
  unfold readEncryption? Text.equalsIgnoringCase
  rw [same.lower]
  cases e <;> decide

theorem readIntegerFor_eq (field : Field) (value : Value) {n : Int} (text : value.toText = toString n) :
    readIntegerFor field value =
      if Text.isWritable n then .ok n else .error (.unreadableInteger field value) := by
  unfold readIntegerFor
  rw [text, Text.readInteger_toString]
  split <;> rfl

/-! ### Entries -/

theorem isInteger_of_holdsText {value : Value} (holds : HoldsText value) : isInteger value = false := by
  cases value <;> first | rfl | exact holds.elim

theorem Unaffected.isWritable {value : Value} (unaffected : Unaffected value) : value.isWritable = true := by
  cases unaffected <;> rfl

theorem Unaffected.asText_eq_self {value : Value} (unaffected : Unaffected value) : asText value = value := by
  cases unaffected <;> rfl

/-- No value that tells a field mentions a reference. -/
theorem substitute_of_spells {config : Config} (unaffected : ∀ field, Unaffected (config.text field))
    (environment : Environment) {field : Field} {value : Value} (spells : Spells config field value) :
    substitute environment value = .ok value := by
  cases spells with
  | integer field => rfl
  | decimal field =>
    exact substitute_text_eq_self environment fun mentions => notMem_dollar_toString _ (mem_of_mentions mentions).1
  | word same =>
    exact substitute_text_eq_self environment fun mentions => same.notMem_dollar (mem_of_mentions mentions).1
  | text field => exact (unaffected field).substitute_eq_self environment

theorem readSetting_int (base : Config) (field : IntegerField) (n : Int) :
    readSetting base (.integer field) (.int n) =
      if Text.isWritable n then .ok (.integer field n) else .error .unwritable := by
  show (if !Text.isWritable n then _ else (readIntegerFor (.integer field) (.int n)).map (Setting.integer field)) = _
  rw [readIntegerFor_eq (.integer field) (.int n) rfl]
  cases Text.isWritable n <;> rfl

theorem readSetting_decimal (base : Config) (field : IntegerField) (n : Int) :
    readSetting base (.integer field) (.text (toString n)) =
      if Text.isWritable n then .ok (.integer field n)
      else .error (.unreadableInteger (.integer field) (.text (toString n))) := by
  show (readIntegerFor (.integer field) (.text (toString n))).map (Setting.integer field) = _
  rw [readIntegerFor_eq (.integer field) (.text (toString n)) rfl]
  cases Text.isWritable n <;> rfl

theorem readSetting_word (base : Config) {e : Encryption} {s : String} (same : SameLetters s.toList e.word.toList) :
    readSetting base .encryption (.text s) = .ok (.encryption e) := by
  unfold readSetting
  dsimp only [Value.toText]
  rw [readEncryption?_of_same same]
  rfl

theorem readSetting_text {base : Config} {field : TextField} {value : Value} (holds : HoldsText (base.text field))
    (unaffected : Unaffected value) : readSetting base (.text field) value = .ok (.text field value) := by
  unfold readSetting
  dsimp only
  rw [unaffected.isWritable, isInteger_of_holdsText holds, unaffected.asText_eq_self]
  rfl

/-- **What is read for a value that tells a field** is the setting of the field, when the integer in it may be
written; otherwise nothing is read. -/
theorem readSetting_of_spells {config base : Config} (texts : ∀ field, HoldsText (base.text field))
    (unaffected : ∀ field, Unaffected (config.text field)) {field : Field} {value : Value}
    (spells : Spells config field value) (setting : Setting) :
    readSetting base field value = .ok setting ↔ Writable config field ∧ setting = settingOf config field := by
  have chosen {fault : Fault} {field : IntegerField} {n : Int} :
      (if Text.isWritable n then Except.ok (Setting.integer field n) else .error fault) = .ok setting ↔
        Text.isWritable n ∧ setting = .integer field n := by
    cases Text.isWritable n <;> simp [eq_comm]
  have sure {told : Setting} : (Except.ok told : Except Fault Setting) = .ok setting ↔ True ∧ setting = told := by
    rw [Except.ok.injEq, true_and, eq_comm]
  cases spells with
  | integer field =>
    rw [readSetting_int]
    exact chosen
  | decimal field =>
    rw [readSetting_decimal]
    exact chosen
  | word same =>
    rw [readSetting_word base same]
    exact sure
  | text field =>
    rw [readSetting_text (texts field) (unaffected field)]
    exact sure

/-- An entry tells a field of a configuration under one of its names. -/
def Tells (config : Config) (entry : Value × Value) (field : Field) : Prop :=
  ∃ key, entry.1 = .text key ∧ Names key field ∧ Spells config field entry.2

theorem readEntry_of_tells {config base : Config} (texts : ∀ field, HoldsText (base.text field))
    (unaffected : ∀ field, Unaffected (config.text field)) (environment : Environment) {entry : Value × Value}
    {field : Field} (tells : Tells config entry field) (setting : Setting) :
    readEntry environment base entry = .ok setting ↔ Writable config field ∧ setting = settingOf config field := by
  obtain ⟨key, key_eq, names, spells⟩ := tells
  rw [← readSetting_of_spells texts unaffected spells]
  have named : fieldOf entry.1 = .ok field := by
    rw [key_eq]
    unfold fieldOf
    dsimp only
    rw [ofKey?_of_names names]
  unfold readEntry
  rw [named]
  show readFieldValue environment base field entry.2 = .ok setting ↔ _
  unfold readFieldValue
  rw [substitute_of_spells unaffected environment spells]
  exact Iff.rfl

/-! ### All settings -/

/-- The field of a setting. -/
def Setting.field : Setting → Field
  | .integer field _ => .integer field
  | .encryption _ => .encryption
  | .text field _ => .text field

/-- **A setting changes its field and no other one.** -/
theorem settingOf_set_field (config : Config) (setting : Setting) (field : Field) :
    settingOf (set config setting) field = if field = setting.field then setting else settingOf config field := by
  cases setting with
  | integer name n =>
    cases field with
    | integer other => by_cases same : other = name <;> simp [settingOf, set, Setting.field, same]
    | encryption => rfl
    | text other => rfl
  | encryption e => cases field <;> rfl
  | text name value =>
    cases field with
    | integer other => rfl
    | encryption => rfl
    | text other => by_cases same : other = name <;> simp [settingOf, set, Setting.field, same]

theorem field_settingOf (config : Config) (field : Field) : (settingOf config field).field = field := by
  cases field <;> rfl

theorem settingOf_set (config base : Config) (field other : Field) :
    settingOf (set base (settingOf config field)) other =
      if other = field then settingOf config other else settingOf base other := by
  rw [settingOf_set_field, field_settingOf]
  by_cases same : other = field
  · rw [if_pos same, if_pos same, same]
  · rw [if_neg same, if_neg same]

theorem settingOf_foldl (config base : Config) (fields : List Field) (other : Field) :
    settingOf ((fields.map (settingOf config)).foldl set base) other =
      if other ∈ fields then settingOf config other else settingOf base other := by
  induction fields generalizing base with
  | nil => rfl
  | cons field fields ih =>
    rw [List.map_cons, List.foldl_cons, ih, settingOf_set]
    -- a field may be set more than once: the later settings of it decide
    by_cases member : other ∈ fields
    · rw [if_pos member, if_pos (List.mem_cons_of_mem field member)]
    · rw [if_neg member]
      by_cases same : other = field
      · rw [if_pos same, if_pos (same ▸ List.mem_cons_self)]
      · rw [if_neg same, if_neg fun found => (List.mem_cons.1 found).elim same member]

/-- A configuration is known by its settings. -/
theorem eq_of_settingOf {config other : Config} (same : ∀ field, settingOf config field = settingOf other field) :
    config = other := by
  have integers : config.integer = other.integer :=
    funext fun field => (Setting.integer.inj (same (.integer field))).2
  have encryptions : config.encryption = other.encryption := Setting.encryption.inj (same .encryption)
  have texts : config.text = other.text := funext fun field => (Setting.text.inj (same (.text field))).2
  obtain ⟨integer, encryption, text⟩ := config
  obtain rfl : integer = other.integer := integers
  obtain rfl : encryption = other.encryption := encryptions
  obtain rfl : text = other.text := texts
  rfl

/-- **Settings of all fields make the configuration**, whatever they start from. -/
theorem foldl_settingOf (config base : Config) {fields : List Field} (complete : ∀ field, field ∈ fields) :
    (fields.map (settingOf config)).foldl set base = config :=
  eq_of_settingOf fun field => by rw [settingOf_foldl, if_pos (complete field)]

/-! ### Mappings -/

/-- A mapping tells all fields of a configuration. -/
def Lists (config : Config) (entries : List (Value × Value)) : Prop :=
  ∃ fields, List.Forall₂ (Tells config) entries fields ∧ ∀ field, field ∈ fields

section Mappings

variable {config base : Config} {entries : List (Value × Value)}

/-- The entries of a mapping, one for each field, may come in any order. -/
theorem lists_of_perm {keys : Field → String} {values : Field → Value} (names : ∀ field, Names (keys field) field)
    (spells : ∀ field, Spells config field (values field))
    (perm : entries.Perm (Field.all.map fun field => (.text (keys field), values field))) :
    Lists config entries := by
  have told : List.Forall₂ (Tells config)
      (Field.all.map fun field => (.text (keys field), values field)) Field.all :=
    List.forall₂_map_left_iff.2 (List.forall₂_same.2 fun field _ => ⟨keys field, rfl, names field, spells field⟩)
  obtain ⟨fields, told, reordered⟩ := List.perm_comp_forall₂ perm told
  exact ⟨fields, told, fun field => reordered.mem_iff.2 field.mem_all⟩

/-- The value that tells a field, an integer as its decimal text. -/
def spelling (config : Config) : Field → Value
  | .integer field => .text (toString (config.integer field))
  | .encryption => .text config.encryption.word
  | .text field => config.text field

theorem spells_spelling (config : Config) (field : Field) : Spells config field (spelling config field) := by
  cases field with
  | integer field => exact .decimal field
  | encryption => exact .word (List.forall₂_same.2 fun letter _ => .inl rfl)
  | text field => exact .text field

/-- The mapping of all fields in their order, under their names. -/
def spelled (config : Config) : List (Value × Value) :=
  Field.all.map fun field => (.text field.name, spelling config field)

theorem lists_spelled (config : Config) : Lists config (spelled config) :=
  lists_of_perm (fun _ => .inl rfl) (spells_spelling config) (List.Perm.refl _)

/-- When anything is read from such a mapping, the integers in it may be written. -/
theorem writable_of_ofMapping (texts : ∀ field, HoldsText (base.text field))
    (unaffected : ∀ field, Unaffected (config.text field)) (environment : Environment)
    (lists : Lists config entries) {made : Config} (read : ofMapping environment base entries = .ok made)
    (field : Field) : Writable config field := by
  obtain ⟨fields, told, complete⟩ := lists
  obtain ⟨settings, each, -⟩ := exists_of_bind_eq_ok read
  have readable := exists_forall₂_iff.1 ⟨settings, mapM_eq_ok_iff.1 each⟩
  refine forall_of_forall₂ told (fun entry member field tells => ?_) field (complete field)
  obtain ⟨setting, read⟩ := readable entry member
  exact ((readEntry_of_tells texts unaffected environment tells setting).1 read).1

/-- **A configuration is read back exactly when all of its integers may be written.** -/
theorem ofMapping_eq_self_iff (valid : config.Valid) (unaffected : ∀ field, Unaffected (config.text field))
    (texts : ∀ field, HoldsText (base.text field)) (environment : Environment) (lists : Lists config entries) :
    ofMapping environment base entries = .ok config ↔ ∀ field, Text.isWritable (config.integer field) := by
  constructor
  · intro read field
    exact writable_of_ofMapping texts unaffected environment lists read (.integer field)
  · intro writable
    obtain ⟨fields, told, complete⟩ := lists
    have all (field : Field) : Writable config field := by
      cases field with
      | integer field => exact writable field
      | encryption => trivial
      | text field => trivial
    have each : readEntries environment base entries = .ok (fields.map (settingOf config)) :=
      mapM_eq_ok_iff.2 (List.forall₂_map_right_iff.2 (told.imp fun entry field tells =>
        (readEntry_of_tells texts unaffected environment tells _).2 ⟨all field, rfl⟩))
    unfold ofMapping
    rw [each]
    show check ((fields.map (settingOf config)).foldl set base) = .ok config
    rw [foldl_settingOf config base complete, check_eq_ok_iff]
    exact valid

/-- A configuration in which the texts are padded, empty, none and with dollar signs. -/
def postbox : Config where
  integer
    | .mailPort => 25
    | field => field.default
  encryption := .tls
  text
    | .mailHost => .text " mail.local "
    | .mailPassword => .text "pa$$word"
    | field => field.default

/-- Names for all fields, some of them older ones. -/
def postboxKey : Field → String
  | .integer .gcCpuThreshold => "gcCpuTreshold"
  | .integer .mailPort => "mail.smtp.port"
  | .encryption => "mail.smtp.encryption"
  | field => field.name

def postboxValue : Field → Value
  | .integer .mailPort => .int 25
  | .encryption => .text "tLs"
  | field => spelling postbox field

/-- A mapping that tells the configuration, from the last field to the first. -/
def postboxEntries : List (Value × Value) :=
  (Field.all.map fun field => (.text (postboxKey field), postboxValue field)).reverse

theorem names_postboxKey (field : Field) : Names (postboxKey field) field := by
  cases field with
  | integer field => cases field <;> first | exact .inl rfl | exact .inr (by decide)
  | encryption => exact .inr (by decide)
  | text field => exact .inl rfl

theorem spells_postboxValue (field : Field) : Spells postbox field (postboxValue field) := by
  cases field with
  | integer field => cases field <;> first | exact .integer .mailPort | exact .decimal _
  | encryption =>
    have same : SameLetters ['t', 'L', 's'] ['t', 'l', 's'] :=
      .cons (.inl rfl) (.cons (.inr rfl) (.cons (.inl rfl) .nil))
    exact .word same
  | text field => exact .text field

theorem unaffected_postbox (field : TextField) : Unaffected (postbox.text field) := by
  cases field <;> first | exact .null | exact .of_notMem (by decide)

theorem holdsText_default (field : TextField) : HoldsText (default.text field) := by
  cases field <;> trivial

theorem valid_postbox : postbox.Valid := by
  intro field
  cases field <;> exact ⟨by decide, by rintro greatest ⟨⟩ <;> decide⟩

theorem ofMapping_eq_self_postbox :
    Lists postbox postboxEntries ∧ ofMapping (fun _ => none) default postboxEntries = .ok postbox := by
  have lists : Lists postbox postboxEntries :=
    lists_of_perm names_postboxKey spells_postboxValue (List.reverse_perm _)
  have writable (field : IntegerField) : Text.isWritable (postbox.integer field) := by
    cases field <;> decide +kernel
  exact ⟨lists, (ofMapping_eq_self_iff valid_postbox unaffected_postbox holdsText_default _ lists).2 writable⟩

/-- A configuration with the least integer that has too many digits. -/
def overlong : Config where
  integer
    | .minFreeDiskSpace => (Nat.pow 10 Text.mostDigits : Nat)
    | field => field.default
  encryption := .none
  text := TextField.default

theorem not_isWritable_overlong : ¬ Text.isWritable (overlong.integer .minFreeDiskSpace) := Text.not_isWritable_pow

theorem valid_overlong : overlong.Valid := by
  intro field
  cases field with
  | minFreeDiskSpace => exact ⟨Int.natCast_nonneg _, nofun⟩
  | _ => exact ⟨by decide, by rintro greatest ⟨⟩ <;> decide⟩

theorem unaffected_overlong (field : TextField) : Unaffected (overlong.text field) := by
  cases field <;> first | exact .null | exact .of_notMem (by decide)

/-- **One integer that is too long keeps a valid configuration from being read back.** -/
theorem ofMapping_of_overlong :
    overlong.Valid ∧ (∀ field, Unaffected (overlong.text field)) ∧ Lists overlong (spelled overlong) ∧
      ∀ environment made, ofMapping environment default (spelled overlong) ≠ .ok made := by
  refine ⟨valid_overlong, unaffected_overlong, lists_spelled overlong, fun environment made read => ?_⟩
  exact not_isWritable_overlong (writable_of_ofMapping holdsText_default unaffected_overlong environment
    (lists_spelled overlong) read (.integer .minFreeDiskSpace))

end Mappings

end HostWatch.Config
