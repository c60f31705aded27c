/-
**The recipients of the mails.**

The addresses stand in a text, with commas between them. A mapping can leave this field without a text, though: a value
of null stays null, the bounds do not concern the field, and so the configuration is accepted. It fails only when a mail
is made. Any other configuration that a mapping makes of one with a text has recipients, which may be none at all, and
they are read back from the head of a mail.

* `IsAddress`, `Holds`: an address, and what a stretch between commas holds of it.
* `ListsAddresses`: **the addresses of a text**, in their order.
* `listsAddresses_joinAddresses`: addresses between commas and spaces are read back.
* `LeavesNull`: a mapping whose last entry for the recipients has no value.
* `ofMapping_serves_iff`: **a configuration serves for mails unless its mapping leaves the recipients null**.
* `recipients_of_null`: one entry is enough for a configuration that fails.
-/

import HostWatch.Notice.Mail
import HostWatch.Proofs.Config.Acceptance
import HostWatch.Proofs.Text.Words

namespace HostWatch.Config

open Text (Glyph)

/-! ### Addresses -/

section Addresses

variable {before after part address glyphs : List Glyph}

def AllBlank (glyphs : List Glyph) : Prop := ∀ glyph ∈ glyphs, isBlankGlyph glyph = true

/-- An address is not empty, holds no comma, and has no blank at its ends. -/
structure IsAddress (address : List Glyph) : Prop where
  nonempty : address ≠ []
  comma_notMem : comma ∉ address
  start : ∀ glyph ∈ address.head?, isBlankGlyph glyph = false
  stop : ∀ glyph ∈ address.getLast?, isBlankGlyph glyph = false

/-- **What a stretch between commas holds**: an address with blanks around it, or blanks alone. -/
inductive Holds : List Glyph → List (List Glyph) → Prop
  | blanks {part : List Glyph} (blanks : AllBlank part) : Holds part []
  | address {before address after : List Glyph} (front : AllBlank before) (isAddress : IsAddress address)
      (behind : AllBlank after) : Holds (before ++ address ++ after) [address]

theorem dropWhile_eq_self (start : ∀ glyph ∈ glyphs.head?, isBlankGlyph glyph = false) :
    glyphs.dropWhile isBlankGlyph = glyphs := by
  cases glyphs with
  | nil => rfl
  | cons glyph glyphs => exact List.dropWhile_cons_of_neg (by simp [start glyph rfl])

/-- No blank starts what is left when the blanks in front are dropped. -/
theorem start_dropWhile (glyphs : List Glyph) :
    ∀ glyph ∈ (glyphs.dropWhile isBlankGlyph).head?, isBlankGlyph glyph = false := by
  intro glyph member
  have first := List.head?_dropWhile_not isBlankGlyph glyphs
  rw [Option.mem_def.1 member] at first
  exact first

theorem trimmedGlyphs_eq (front : AllBlank before) (isAddress : IsAddress address) (behind : AllBlank after) :
    trimmedGlyphs (before ++ address ++ after) = address := by
  have first : (before ++ address ++ after).dropWhile isBlankGlyph = address ++ after := by
    rw [List.append_assoc, List.dropWhile_append_of_pos front]
    refine dropWhile_eq_self fun glyph member => isAddress.start glyph ?_
    rwa [List.head?_append_of_ne_nil _ isAddress.nonempty] at member
  have second : (address ++ after).reverse.dropWhile isBlankGlyph = address.reverse := by
    rw [List.reverse_append, List.dropWhile_append_of_pos fun glyph member => behind glyph (List.mem_reverse.1 member)]
    refine dropWhile_eq_self fun glyph member => isAddress.stop glyph ?_
    rwa [List.head?_reverse] at member
  unfold trimmedGlyphs
  rw [first, second, List.reverse_reverse]

theorem trimmedGlyphs_blanks (blanks : AllBlank part) : trimmedGlyphs part = [] := by
  unfold trimmedGlyphs
  rw [List.dropWhile_eq_nil_iff.2 blanks]
  rfl

/-- Trimming finds the address in a stretch. -/
theorem Holds.filter_eq {found : List (List Glyph)} (holds : Holds part found) :
    [trimmedGlyphs part].filter (fun address => !address.isEmpty) = found := by
  cases holds with
  | blanks blanks =>
    rw [trimmedGlyphs_blanks blanks]
    rfl
  | @address before address after front isAddress behind =>
    rw [trimmedGlyphs_eq front isAddress behind]
    exact List.filter_cons_of_pos (by simp [isAddress.nonempty])

/-- Trimming drops blanks only, in front and then behind. -/
theorem exists_dropWhile_eq (glyphs : List Glyph) :
    ∃ after, AllBlank after ∧ glyphs.dropWhile isBlankGlyph = trimmedGlyphs glyphs ++ after := by
  refine ⟨((glyphs.dropWhile isBlankGlyph).reverse.takeWhile isBlankGlyph).reverse, fun glyph member => ?_, ?_⟩
  · exact List.mem_takeWhile_imp (List.mem_reverse.1 member)
  · unfold trimmedGlyphs
    rw [← List.reverse_append, List.takeWhile_append_dropWhile, List.reverse_reverse]

/-- Every stretch between commas holds an address or none. -/
theorem exists_holds (apart : comma ∉ part) : ∃ found, Holds part found := by
  by_cases blanks : AllBlank part
  · exact ⟨[], .blanks blanks⟩
  obtain ⟨after, behind, rest⟩ := exists_dropWhile_eq part
  have front : AllBlank (part.takeWhile isBlankGlyph) := fun glyph member => List.mem_takeWhile_imp member
  have split : part = part.takeWhile isBlankGlyph ++ trimmedGlyphs part ++ after := by
    rw [List.append_assoc, ← rest, List.takeWhile_append_dropWhile]
  have nonempty : trimmedGlyphs part ≠ [] := by
    intro none
    rw [none, List.append_nil] at split
    rw [split] at blanks
    exact blanks (List.forall_mem_append.2 ⟨front, behind⟩)
  have isAddress : IsAddress (trimmedGlyphs part) := by
    refine ⟨nonempty, fun member => apart ?_, fun glyph member => ?_, fun glyph member => ?_⟩
    · rw [split]
      simp [member]
    · refine start_dropWhile part glyph ?_
      rwa [rest, List.head?_append_of_ne_nil _ nonempty]
    · unfold trimmedGlyphs at member
      rw [List.getLast?_reverse] at member
      exact start_dropWhile _ glyph member
  have holds := Holds.address front isAddress behind
  rw [← split] at holds
  exact ⟨_, holds⟩

/-- **The addresses of a text**: what the stretches between its commas hold, in their order. -/
inductive ListsAddresses : List Glyph → List (List Glyph) → Prop
  | intro {parts : List (List Glyph)} {found : List (List (List Glyph))} (nonempty : parts ≠ [])
      (apart : ∀ part ∈ parts, comma ∉ part) (holds : List.Forall₂ Holds parts found) :
      ListsAddresses ([comma].intercalate parts) found.flatten

theorem exists_listsAddresses (glyphs : List Glyph) : ∃ addresses, ListsAddresses glyphs addresses := by
  have apart : ∀ part ∈ glyphs.splitOn comma, comma ∉ part := fun part among member =>
    (Text.mem_of_mem_splitOn among comma member).2 rfl
  obtain ⟨found, holds⟩ := exists_forall₂_iff.2 fun part among => exists_holds (apart part among)
  refine ⟨found.flatten, ?_⟩
  have whole : glyphs = [comma].intercalate (glyphs.splitOn comma) := (List.intercalate_splitOn comma).symm
  rw [whole]
  exact .intro (List.splitOn_ne_nil comma glyphs) apart holds

variable {addresses : List (List Glyph)}

/-- **The addresses of a text are found.** -/
theorem ListsAddresses.splitAddresses_eq (lists : ListsAddresses glyphs addresses) : splitAddresses glyphs = addresses := by
  obtain ⟨nonempty, apart, holds⟩ := lists
  unfold splitAddresses
  rw [List.splitOn_intercalate comma apart nonempty]
  clear nonempty apart
  induction holds with
  | nil => rfl
  | cons head _ ih => rw [List.map_cons, ← List.singleton_append, List.filter_append, head.filter_eq, ih, List.flatten_cons]

theorem ListsAddresses.isAddress (lists : ListsAddresses glyphs addresses) : ∀ address ∈ addresses, IsAddress address := by
  obtain ⟨nonempty, apart, holds⟩ := lists
  clear nonempty apart
  induction holds with
  | nil => exact nofun
  | cons head _ ih =>
    rw [List.flatten_cons, List.forall_mem_append]
    refine ⟨?_, ih⟩
    cases head with
    | blanks => exact nofun
    | address _ isAddress _ => exact List.forall_mem_singleton.2 isAddress

/-- The space behind a comma may be counted as the first glyph of the next stretch. -/
theorem joinAddresses_cons (address : List Glyph) (addresses : List (List Glyph)) :
    joinAddresses (address :: addresses) = [comma].intercalate (address :: addresses.map (.char ' ' :: ·)) := by
  unfold joinAddresses
  rw [Text.intercalate_cons, Text.intercalate_cons, List.flatMap_map]
  rfl

/-- **Addresses between commas and spaces are read back.** -/
theorem listsAddresses_joinAddresses (each : ∀ address ∈ addresses, IsAddress address) :
    ListsAddresses (joinAddresses addresses) addresses := by
  cases addresses with
  | nil =>
    have blank : Holds [] [] := .blanks nofun
    exact .intro (List.cons_ne_nil [] []) (by simp) (.cons blank .nil)
  | cons address addresses =>
    rw [List.forall_mem_cons] at each
    obtain ⟨isAddress, each⟩ := each
    have nothing : AllBlank [] := List.forall_mem_nil _
    have space : AllBlank [.char ' '] := List.forall_mem_singleton.2 (by decide)
    have spaced {next : List Glyph} (isAddress : IsAddress next) : Holds (.char ' ' :: next) [next] := by
      simpa using Holds.address space isAddress nothing
    have first : Holds address [address] := by
      simpa using Holds.address nothing isAddress nothing
    have later : List.Forall₂ Holds (addresses.map (.char ' ' :: ·)) (addresses.map fun next => [next]) := by
      rw [List.forall₂_map_left_iff, List.forall₂_map_right_iff, List.forall₂_same]
      exact fun next member => spaced (each next member)
    have apart : ∀ part ∈ address :: addresses.map (.char ' ' :: ·), comma ∉ part := by
      rw [List.forall_mem_cons, List.forall_mem_map]
      refine ⟨isAddress.comma_notMem, fun next member among => ?_⟩
      rcases List.mem_cons.1 among with same | among
      · cases same
      · exact (each next member).comma_notMem among
    have lists := ListsAddresses.intro (List.cons_ne_nil _ _) apart (.cons first later)
    rw [← joinAddresses_cons] at lists
    simpa [← List.flatMap_def] using lists

end Addresses

/-! ### Settings of a mapping -/

section Mappings

variable {environment : Environment} {base config : Config} {entries : List (Value × Value)}

theorem field_of_readSetting {field : Field} {value : Value} {setting : Setting}
    (read : readSetting base field value = .ok setting) : setting.field = field := by
  unfold readSetting at read
  split at read
  · cases read
  · cases field with
    | integer name =>
      obtain ⟨n, -, rfl⟩ := exists_of_map_eq_ok read
      rfl
    | encryption =>
      dsimp only at read
      split at read
      · obtain rfl := Except.ok.inj read
        rfl
      · cases read
    | text name =>
      dsimp only at read
      split at read
      · obtain ⟨n, -, rfl⟩ := exists_of_map_eq_ok read
        rfl
      · obtain rfl := Except.ok.inj read
        rfl

/-- An entry concerns the field that it sets. -/
theorem concerns_of_readEntry {entry : Value × Value} {setting : Setting}
    (read : readEntry environment base entry = .ok setting) : Concerns entry setting.field := by
  obtain ⟨field, named, read⟩ := exists_of_bind_eq_ok read
  obtain ⟨value, -, read⟩ := exists_of_bind_eq_ok read
  rw [field_of_readSetting read]
  exact fieldOf_eq_ok_iff.1 named

/-! ### Recipients of a mapping -/

/-- The field of the recipients. -/
abbrev recipientsField : Field := .text .mailRecipients

/-- **A mapping leaves the recipients null**: the last entry that names them has no value. -/
inductive LeavesNull : List (Value × Value) → Prop
  | intro {before after : List (Value × Value)} {entry : Value × Value} (concerns : Concerns entry recipientsField)
      (null : entry.2 = .null) (unnamed : ∀ later ∈ after, ¬ Concerns later recipientsField) :
      LeavesNull (before ++ entry :: after)

theorem exists_glyphs_asText {value : Value} (something : value ≠ .null) : ∃ glyphs, glyphs? (asText value) = some glyphs := by
  cases value with
  | null => exact absurd rfl something
  | _ => exact ⟨_, rfl⟩

/-- The recipients that an entry sets are null when its value is, and a text otherwise. -/
theorem recipients_of_readEntry (isText : ∃ glyphs, glyphs? (base.text .mailRecipients) = some glyphs)
    {entry : Value × Value} {value : Value} (read : readEntry environment base entry = .ok (.text .mailRecipients value)) :
    (entry.2 = .null ∧ value = .null) ∨ (entry.2 ≠ .null ∧ ∃ glyphs, glyphs? value = some glyphs) := by
  obtain ⟨field, -, read⟩ := exists_of_bind_eq_ok read
  obtain ⟨resolved, became, read⟩ := exists_of_bind_eq_ok read
  obtain rfl := field_of_readSetting read
  have noInteger : isInteger (base.text .mailRecipients) = false := by
    obtain ⟨glyphs, isText⟩ := isText
    cases held : base.text .mailRecipients with
    | int n => rw [held] at isText; cases isText
    | _ => rfl
  have value_eq : value = asText resolved := by
    unfold readSetting Setting.field at read
    split at read
    · cases read
    · dsimp only at read
      rw [noInteger, if_neg Bool.false_ne_true] at read
      exact (Setting.text.inj (Except.ok.inj read)).2.symm
  rw [substitute_eq_ok_iff] at became
  rw [value_eq]
  cases became with
  | @text _ pieces parts isText =>
    refine .inr ⟨fun null => ?_, exists_glyphs_asText fun null => ?_⟩
    · rw [null] at isText
      cases isText
    · have glyphs := glyphs?_ofGlyphs parts.flatten
      rw [null] at glyphs
      cases glyphs
  | other noText =>
    by_cases null : entry.2 = .null
    · exact .inl ⟨null, by rw [null]; rfl⟩
    · exact .inr ⟨null, exists_glyphs_asText null⟩

/-- **The recipients of an accepted configuration** are null if its mapping leaves them so, and a text otherwise. -/
theorem recipients_of_ofMapping (isText : ∃ glyphs, glyphs? (base.text .mailRecipients) = some glyphs)
    (accepted : ofMapping environment base entries = .ok config) :
    (LeavesNull entries ∧ config.text .mailRecipients = .null) ∨
      (¬ LeavesNull entries ∧ ∃ glyphs, glyphs? (config.text .mailRecipients) = some glyphs) := by
  obtain ⟨settings, read, rfl, -⟩ := ofMapping_eq_ok_iff.1 accepted
  rcases last_of_foldl (fun _ _ => concerns_of_readEntry) (mapM_eq_ok_iff.1 read) base recipientsField with
    ⟨unnamed, kept⟩ | ⟨before, entry, after, split, read, unnamed⟩
  · have held := (Setting.text.inj kept).2
    refine .inr ⟨?_, held ▸ isText⟩
    rintro ⟨concerns, -, -⟩
    exact unnamed _ (List.mem_append_right _ List.mem_cons_self) concerns
  · have concerns := concerns_of_readEntry read
    rcases recipients_of_readEntry isText read with ⟨null, held⟩ | ⟨something, held⟩
    · exact .inl ⟨split ▸ .intro concerns null unnamed, held⟩
    · refine .inr ⟨fun leaves => ?_, held⟩
      obtain ⟨concerns', null, unnamed'⟩ := leaves
      have same := eq_of_last split rfl concerns concerns' unnamed unnamed'
      exact something (same ▸ null)

/-! ### Mails -/

/-- **A configuration serves for mails** to some addresses: they are its recipients, in the order of the text, and the head
of each mail names them so that they are read back. -/
structure Serves (config : Config) (addresses : List (List Glyph)) : Prop where
  lists : ∃ glyphs, glyphs? (config.text .mailRecipients) = some glyphs ∧ ListsAddresses glyphs addresses
  isAddress : ∀ address ∈ addresses, IsAddress address
  recipients_eq : config.recipients = .ok (addresses.map .ofGlyphs)
  head : ∀ reports testing, ∃ mail, Mail.of config reports testing = .ok mail ∧
    (set config (.text .mailRecipients mail.recipients)).recipients = config.recipients

theorem addresses_eq_ok {glyphs : List Glyph} {listed : List (List Glyph)}
    (isText : glyphs? (config.text .mailRecipients) = some glyphs) (lists : ListsAddresses glyphs listed) :
    config.addresses = .ok listed := by
  have found : config.glyphsOf .mailRecipients = .ok glyphs := by
    unfold glyphsOf
    cases held : config.text .mailRecipients with
    | text s => rw [held] at isText; exact congrArg Except.ok (Option.some.inj isText)
    | halves other => rw [held] at isText; exact congrArg Except.ok (Option.some.inj isText)
    | _ => rw [held] at isText; cases isText
  unfold addresses
  rw [found]
  exact congrArg Except.ok lists.splitAddresses_eq

theorem recipients_eq_ok {listed : List (List Glyph)} (found : config.addresses = .ok listed) :
    config.recipients = .ok (listed.map .ofGlyphs) := by
  unfold recipients
  rw [found]
  rfl

/-- A text lists the addresses of mails, whatever it is. -/
theorem exists_serves {glyphs : List Glyph} (isText : glyphs? (config.text .mailRecipients) = some glyphs) :
    ∃ addresses, Serves config addresses := by
  obtain ⟨listed, lists⟩ := exists_listsAddresses glyphs
  have found := addresses_eq_ok isText lists
  refine ⟨listed, ⟨glyphs, isText, lists⟩, lists.isAddress, recipients_eq_ok found, fun reports testing => ?_⟩
  refine ⟨⟨Mail.subjectOf testing, (config.text .mailSender).orEmpty, .ofGlyphs (joinAddresses listed), Mail.partsOf reports⟩,
    ?_, ?_⟩
  · unfold Mail.of
    rw [found]
  · have headed : glyphs? ((set config (.text .mailRecipients (.ofGlyphs (joinAddresses listed)))).text .mailRecipients) =
        some (joinAddresses listed) := glyphs?_ofGlyphs _
    rw [recipients_eq_ok found]
    exact recipients_eq_ok (addresses_eq_ok headed (listsAddresses_joinAddresses lists.isAddress))

theorem recipients_eq_error (null : config.text .mailRecipients = .null) :
    config.recipients = .error (.notAText .mailRecipients .null) := by
  unfold recipients addresses glyphsOf
  rw [null]
  rfl

/-- **A configuration that a mapping makes serves for mails unless the mapping leaves the recipients null.** Then there are no
recipients, as null is no text. -/
theorem ofMapping_serves_iff (isText : ∃ glyphs, glyphs? (base.text .mailRecipients) = some glyphs)
    (accepted : ofMapping environment base entries = .ok config) :
    ((∃ addresses, Serves config addresses) ↔ ¬ LeavesNull entries) ∧
      (LeavesNull entries → config.recipients = .error (.notAText .mailRecipients .null)) := by
  rcases recipients_of_ofMapping isText accepted with ⟨leaves, null⟩ | ⟨leaves, glyphs, isText⟩
  · have fails := recipients_eq_error null
    refine ⟨iff_of_false ?_ (not_not_intro leaves), fun _ => fails⟩
    rintro ⟨addresses, serves⟩
    rw [serves.recipients_eq] at fails
    cases fails
  · exact ⟨iff_of_true (exists_serves isText) leaves, fun other => absurd other leaves⟩

end Mappings

/-- The recipients under an older name without a value, and then under their name with a text of two addresses. -/
def twoNames : List (Value × Value) := [(.text "mail.to", .null), (.text "mail_to", .text " me@home,,you@home")]

theorem ofMapping_serves_iff_twoNames :
    (∃ glyphs, glyphs? (default.text .mailRecipients) = some glyphs) ∧
      ∃ config, ofMapping (fun _ => none) default twoNames = .ok config ∧
        ((∃ addresses, Serves config addresses) ↔ ¬ LeavesNull twoNames) ∧
        (LeavesNull twoNames → config.recipients = .error (.notAText .mailRecipients .null)) := by
  have isText : ∃ glyphs, glyphs? (default.text .mailRecipients) = some glyphs := ⟨_, rfl⟩
  have plain : ¬ Mentions (Glyph.ofText " me@home,,you@home".toList) := fun mentions =>
    absurd (mem_of_mentions mentions).1 (by decide)
  have second : readEntry (fun _ => none) default (.text "mail_to", .text " me@home,,you@home") =
      .ok (.text .mailRecipients (.text " me@home,,you@home")) := by
    show (substitute _ (.text " me@home,,you@home") >>= readSetting default recipientsField) = _
    rw [substitute_text_eq_self _ plain]
    rfl
  have read : readEntries (fun _ => none) default twoNames =
      .ok [.text .mailRecipients .null, .text .mailRecipients (.text " me@home,,you@home")] :=
    mapM_eq_ok_iff.2 (.cons rfl (.cons second .nil))
  have accepted := ofMapping_eq_ok_iff.2 ⟨_, read, rfl, valid_default⟩
  exact ⟨isText, _, accepted, ofMapping_serves_iff isText accepted⟩

/-- **One entry is enough for a configuration that fails**: it is accepted, and no mail can be made by it. -/
theorem recipients_of_null :
    ∃ config, ofMapping (fun _ => none) default [(.text "mail_to", .null)] = .ok config ∧
      config.recipients = .error (.notAText .mailRecipients .null) ∧ ¬ ∃ addresses, Serves config addresses := by
  have accepted : ofMapping (fun _ => none) default [(.text "mail_to", .null)] =
      .ok (set default (.text .mailRecipients .null)) :=
    ofMapping_eq_ok_iff.2 ⟨[.text .mailRecipients .null], rfl, rfl, valid_default⟩
  have fails : (set default (.text .mailRecipients .null)).recipients = .error (.notAText .mailRecipients .null) := rfl
  refine ⟨_, accepted, fails, ?_⟩
  rintro ⟨addresses, serves⟩
  have found := serves.recipients_eq
  rw [fails] at found
  cases found

end HostWatch.Config
