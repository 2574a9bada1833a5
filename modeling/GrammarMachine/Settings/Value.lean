import GrammarMachine.Toml.Reader

/-!
Values of settings, how layers of them are merged, and the paths that lead to them.
-/

namespace GrammarMachine

open Decimal

/-- A value of a setting. -/
inductive Setting where
  | missing
  | bool (value : Bool)
  | int (value : Int)
  | float (value : Binary64)
  | str (value : String)
  | array (items : List Setting)
  | table (fields : List (String × Setting))

namespace Setting

mutual

/-- The setting that a value of a document stands for. -/
def ofToml : Toml → Setting
  | .bool value => .bool value
  | .int value => .int value
  | .float value => .float value
  | .str value => .str value
  | .array items => .array (ofItems items)
  | .table fields => .table (ofFields fields)

def ofItems : List Toml → List Setting
  | [] => []
  | item :: rest => ofToml item :: ofItems rest

def ofFields : List (String × Toml) → List (String × Setting)
  | [] => []
  | (name, value) :: rest => (name, ofToml value) :: ofFields rest

end

/-- Replaces a field or adds it at the end. -/
def setField (name : String) (value : Setting) : List (String × Setting) → List (String × Setting)
  | [] => [(name, value)]
  | (other, old) :: rest =>
      if other = name then (name, value) :: rest else (other, old) :: setField name value rest

mutual

/-- A new value merged into an old one. Two tables are joined field by field, anything else is
replaced. An empty table says nothing, so it replaces nothing. -/
def merge (old : Option Setting) : Setting → Setting
  | .table fields =>
      match old, fields with
      | some (.table inner), _ => .table (mergeFields inner fields)
      | some other, [] => other
      | _, _ => .table (mergeFields [] fields)
  | value => value

/-- Fields merged into old ones, one after the other. Their names are kept in lower case. -/
def mergeFields (fields : List (String × Setting)) :
    List (String × Setting) → List (String × Setting)
  | [] => fields
  | (name, value) :: rest =>
      let name := name.toLower
      mergeFields (setField name (merge (fields.lookup name) value) fields) rest

end

/-- The fields of a table; anything else is replaced by an empty table. -/
def toFields : Setting → List (String × Setting)
  | .table fields => fields
  | _ => []

/-- The items of an array; anything else is replaced by an empty array. -/
def toItems : Setting → List Setting
  | .array items => items
  | _ => []

/-- A step of a path. -/
inductive PathStep where
  | field (name : String)
  | item (index : Int)

/-- The most items that an array can have. -/
def roomLimit : Nat := 0x100000000

/-- The place of an index, which counts from the end if it is negative. An index that counts back
beyond the start has no place, nor has one for which there is no room. -/
def place? (index : Int) (length : Nat) : Option Nat :=
  if 0 ≤ index then if index < roomLimit then some index.toNat else none
  else if length < index.natAbs then none
  else some (length - index.natAbs)

/-- Puts a value at the end of a path, making or replacing what stands in the way. All names of the
path are put in lower case. -/
def setAt (root : Setting) (value : Setting) : List PathStep → Option Setting
  | [] => some value
  | [.field name] => some (.table (mergeFields root.toFields [(name, value)]))
  | .field name :: path => do
      let fields := root.toFields
      let name := name.toLower
      let inner ← setAt ((fields.lookup name).getD .missing) value path
      return .table (setField name inner fields)
  | .item index :: path => do
      let items := root.toItems
      let place ← place? index items.length
      let items := items ++ List.replicate (place + 1 - items.length) .missing
      return .array (items.set place (← setAt (items.getD place .missing) value path))

/-- Whether a character may stand in a name of a path. -/
def isPathChar (c : Char) : Bool :=
  c.isAlphanum || c = '_' || c = '-'

/-- A name of a path. -/
def readPathName (text : List Char) : Option (PathStep × List Char) :=
  match text.span isPathChar with
  | ([], _) => none
  | (name, rest) => some (.field (String.ofList name), rest)

/-- The text behind its leading blanks. -/
def dropBlanks (text : List Char) : List Char :=
  text.dropWhile fun c => c = ' ' || c = '\t'

/-- An index of a path, behind its opening bracket. -/
def readPathIndex (text : List Char) : Option (PathStep × List Char) :=
  let (negative, rest) := match dropBlanks text with
    | '-' :: rest => (true, rest)
    | rest => (false, rest)
  let (digits, rest) := rest.span Toml.isDigit
  let size : Int := Toml.natural 10 digits
  let index := if negative then -size else size
  match dropBlanks rest with
  | ']' :: rest =>
      if digits.isEmpty || index < -0x8000000000000000 || 0x8000000000000000 ≤ index then none
      else some (.item index, rest)
  | _ => none

/-- The steps of a path behind its first name. -/
def readPathSteps : Nat → List Char → Option (List PathStep)
  | _, [] => some []
  | 0, _ => none
  | fuel + 1, '.' :: rest => do
      let (step, rest) ← readPathName rest
      return step :: (← readPathSteps fuel rest)
  | fuel + 1, '[' :: rest => do
      let (step, rest) ← readPathIndex rest
      return step :: (← readPathSteps fuel rest)
  | _, _ => none

/-- A path: names with dots between them, and indices in brackets. -/
def pathOf? (text : String) : Option (List PathStep) := do
  let (first, rest) ← readPathName text.toList
  return first :: (← readPathSteps rest.length rest)

/-- Puts the fields of a document over the settings. A name of the document that is a path leads to
where its value belongs. -/
def layer (root : Setting) (fields : List (String × Toml)) : Option Setting :=
  fields.foldlM (fun root (name, value) =>
    setAt root (ofToml value) ((pathOf? name).getD [.field name])) root

end Setting

end GrammarMachine
