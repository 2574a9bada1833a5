import GrammarMachine.Settings.Value

/-!
Reading settings as numbers, truth values and texts. A setting of one kind is read as another where
it can be.
-/

namespace GrammarMachine

/-- Why settings cannot be loaded. -/
inductive SettingsError where
  /-- An override whose name is no path. -/
  | badPath
  /-- A file that is no document. -/
  | badFile
  /-- A file that must be there and is not. -/
  | missingFile
  /-- A value that cannot be read as the kind of value needed. -/
  | badType
  /-- A section or a choice of the wrong shape. -/
  | badShape
  /-- An index of a path that counts back beyond the start of its array, or for which there is no
  room. -/
  | badIndex
  deriving DecidableEq

def SettingsError.message : SettingsError → String
  | .badPath => "invalid path of an override"
  | .badFile => "invalid TOML document"
  | .missingFile => "configuration file not found"
  | .badType => "invalid type of a value"
  | .badShape => "invalid shape of a value"
  | .badIndex => "invalid index in a path"

namespace Setting

/-- The decimal number without sign, or with a plus, that a text denotes. -/
def natural? (text : List Char) : Option Nat :=
  let digits := match text with
    | '+' :: rest => rest
    | rest => rest
  let value := Toml.natural 10 digits
  if digits.isEmpty || !digits.all Toml.isDigit || 0x10000000000000000 ≤ value then none
  else some value

/-- Words for truth values. -/
def truth? (word : String) : Option Bool :=
  match word with
  | "true" | "on" | "yes" => some true
  | "false" | "off" | "no" => some false
  | _ => none

/-- A setting read as a number that is not negative. -/
def toNat : Setting → Except SettingsError Nat
  | .int value => if 0 ≤ value then .ok value.toNat else .error .badType
  | .bool value => .ok (if value then 1 else 0)
  | .float value => .ok (value.toWhole)
  | .str text =>
      match truth? text.toLower, natural? text.toList with
      | some value, _ => .ok (if value then 1 else 0)
      | none, some value => .ok value
      | none, none => .error .badType
  | _ => .error .badType

/-- A setting read as a truth value. -/
def toBool : Setting → Except SettingsError Bool
  | .bool value => .ok value
  | .int value => .ok (value ≠ 0)
  | .float value => .ok !(value.biased = 0 && value.fraction = 0)
  | .str text =>
      match text.toLower with
      | "1" => .ok true
      | "0" => .ok false
      | word =>
          match truth? word with
          | some value => .ok value
          | none => .error .badType
  | _ => .error .badType

def toText : Setting → Except SettingsError String
  | .str text => .ok text
  | .bool value => .ok (toString value)
  | .int value => .ok (toString value)
  | .float value => .ok (value.plainText)
  | _ => .error .badType

/-- The parts of a section that is a table, or an array of values in the order of the names. Some
may be missing. -/
def parts (names : List String) : Setting → Except SettingsError (List (Option Setting))
  | .table fields => .ok (names.map fun name => fields.lookup name)
  | .array items => .ok (names.zipIdx.map fun (_, i) => items[i]?)
  | _ => .error .badShape

/-- A part that must be there. -/
def present {α : Type} : Option α → Except SettingsError α
  | some value => .ok value
  | none => .error .badShape

/-- The word that a choice names. A table with a single field stands for the name of the field. -/
def choice : Setting → Except SettingsError String
  | .str text => .ok text.toLower
  | .table [(name, _)] => .ok name.toLower
  | _ => .error .badShape

end Setting

end GrammarMachine
