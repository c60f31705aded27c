/-
**Configurations.**

A configuration gives every field a value. It is valid when each integer is within the bounds of its
field. Two ways lead to a configuration: `Config.check` accepts a configuration when it is valid, and
`Config.ofValues` first asks that each integer field and the encryption are given a value of their kind.
A text field takes any value; only its use asks for a text.

* `check_eq_ok_iff` says that `check` accepts exactly the valid configurations.
* `recipients`, `mailEnabled` and `webhookEnabled` are what the delivery of reports asks for.
-/
import HostWatch.Config.Fault
import HostWatch.Text.Blank

namespace HostWatch

/-- A value for every field. -/
structure Config where
  integer : Config.IntegerField → Int
  encryption : Encryption
  text : Config.TextField → Value

namespace Config

/-- The configuration in which no field is set. -/
def default : Config := ⟨IntegerField.default, .none, TextField.default⟩

instance : Inhabited Config := ⟨default⟩

/-- A value within the bounds of a field. -/
def Admits (field : IntegerField) (value : Int) : Prop :=
  field.least ≤ value ∧ ∀ greatest, field.greatest? = some greatest → value ≤ greatest

/-- Every integer is within the bounds of its field. -/
def Valid (config : Config) : Prop :=
  ∀ field, Admits field (config.integer field)

/-- Checks one value against the bounds of its field. -/
def checkBounds (field : IntegerField) (value : Int) : Except Fault Unit :=
  if value < field.least then .error (.belowLeast field value)
  else match field.greatest? with
    | none => .ok ()
    | some greatest =>
      if greatest < value then .error (.aboveGreatest field value greatest) else .ok ()

/-- Checks the integers of a configuration in the order of the fields. -/
def check (config : Config) : Except Fault Config :=
  match IntegerField.all.forM fun field => checkBounds field (config.integer field) with
  | .error fault => .error fault
  | .ok () => .ok config

def fieldNamed (name : String) : Except Fault Field :=
  match Field.ofName? name with
  | some field => .ok field
  | none => .error (.unknownField name)

def asInteger (field : IntegerField) : Value → Except Fault Int
  | .int n => .ok n
  | value => .error (.notAnInteger field value)

/-- The value given to a field by the last of the assignments that names it. -/
def lastAssigned (assignments : List (Field × Value)) (field : Field) : Option Value :=
  assignments.reverse.lookup field

/-- The configuration that assigns values to some fields of another one. The integers are checked for
kind and bounds field by field, then the encryption. -/
def ofValues (base : Config) (assignments : List (Field × Value)) : Except Fault Config := do
  let integerValue (field : IntegerField) : Value :=
    (lastAssigned assignments (.integer field)).getD (.int (base.integer field))
  for field in IntegerField.all do
    let value ← (asInteger field (integerValue field)).mapError Fault.raised
    (checkBounds field value).mapError Fault.raised
  let encryption ← match lastAssigned assignments .encryption with
    | none => .ok base.encryption
    | some (.encryption e) => .ok e
    | some value => .error (Fault.notAnEncryption value).raised
  return {
    integer := fun field => match integerValue field with
      | .int n => n
      | _ => base.integer field
    encryption := encryption
    text := fun field => match lastAssigned assignments (.text field) with
      | none => base.text field
      | some value => value }

/-- Whether a glyph is a blank. -/
def isBlankGlyph (glyph : Text.Glyph) : Bool := glyph.char?.any Text.isBlank

/-- Glyphs without the blanks around them. -/
def trimmedGlyphs (glyphs : List Text.Glyph) : List Text.Glyph :=
  ((glyphs.dropWhile isBlankGlyph).reverse.dropWhile isBlankGlyph).reverse

def comma : Text.Glyph := .char ','

/-- The stretches between commas, without the blanks around them and without the empty ones. -/
def splitAddresses (glyphs : List Text.Glyph) : List (List Text.Glyph) :=
  ((glyphs.splitOn comma).map trimmedGlyphs).filter fun address => !address.isEmpty

/-- Addresses with a comma and a space between them. -/
def joinAddresses (addresses : List (List Text.Glyph)) : List Text.Glyph :=
  [comma, .char ' '].intercalate addresses

/-- The text in a field, when it is made of characters. -/
def textOf (config : Config) (field : TextField) : Except Fault String :=
  match config.text field with
  | .text s => .ok s
  | value => .error (.notAText field value)

/-- The glyphs of the text in a field. -/
def glyphsOf (config : Config) (field : TextField) : Except Fault (List Text.Glyph) :=
  match config.text field with
  | .text s => .ok (Text.Glyph.ofText s.toList)
  | .halves glyphs => .ok glyphs
  | value => .error (.notAText field value)

def addresses (config : Config) : Except Fault (List (List Text.Glyph)) :=
  (config.glyphsOf .mailRecipients).map splitAddresses

/-- The addresses of the mails, as texts. -/
def recipients (config : Config) : Except Fault (List Value) :=
  config.addresses.map fun addresses => addresses.map .ofGlyphs

/-- Whether a text field holds more than blanks. A value that does not count as true holds nothing, and
any other one has to be a text. -/
def isFilled (config : Config) (field : TextField) : Except Fault Bool :=
  if (config.text field).isTrue then
    (config.glyphsOf field).map fun glyphs => !(trimmedGlyphs glyphs).isEmpty
  else .ok false

def mailEnabled (config : Config) : Except Fault Bool := config.isFilled .mailHost

def webhookEnabled (config : Config) : Except Fault Bool := config.isFilled .webhook

theorem checkBounds_eq_ok_iff (field : IntegerField) (value : Int) :
    checkBounds field value = .ok () ↔ Admits field value := by
  unfold checkBounds Admits
  by_cases low : value < field.least
  · rw [if_pos low]
    exact iff_of_false (by simp) fun admitted => by have := admitted.1; omega
  · rw [if_neg low]
    have least : field.least ≤ value := by omega
    cases bound : field.greatest? with
    | none => simp [least]
    | some greatest =>
      by_cases high : greatest < value
      · exact iff_of_false (by simp [high]) fun admitted => by
          have := admitted.2 greatest rfl
          omega
      · exact iff_of_true (by simp [high]) ⟨least, fun other same => by
          cases same
          omega⟩

/-- A list of checks passes when each of them passes. -/
theorem forM_eq_ok_iff {α ε : Type} (check : α → Except ε Unit) (items : List α) :
    items.forM check = .ok () ↔ ∀ item ∈ items, check item = .ok () := by
  induction items with
  | nil => simp [pure, Except.pure]
  | cons item rest ih =>
    change (check item >>= fun _ => rest.forM check) = .ok () ↔ _
    rw [List.forall_mem_cons, ← ih]
    cases check item <;> simp [bind, Except.bind]

/-- Every value of a field that is not set is within the bounds of the field. -/
theorem valid_default : default.Valid := by
  intro field
  cases field <;> exact ⟨by decide, by rintro greatest ⟨⟩ <;> decide⟩

/-- A configuration passes the check exactly when it is valid. -/
theorem check_eq_ok_iff (config : Config) : check config = .ok config ↔ config.Valid := by
  have passes : (IntegerField.all.forM fun field => checkBounds field (config.integer field)) = .ok () ↔
      config.Valid := by
    rw [forM_eq_ok_iff]
    exact ⟨fun h field => (checkBounds_eq_ok_iff ..).1 (h field field.mem_all),
      fun h field _ => (checkBounds_eq_ok_iff ..).2 (h field)⟩
  rw [← passes]
  unfold check
  cases IntegerField.all.forM fun field => checkBounds field (config.integer field) <;> simp

end Config

end HostWatch
