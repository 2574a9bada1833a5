import GrammarMachine.Tag.Basic

/-!
Tags as JSON objects. Writing leaves out what has its default value: false traits and empty
attributes. Reading restores it, and refuses a field of the wrong kind.
-/

namespace GrammarMachine

/-- A trait as a field, if it holds. -/
def traitField (name : String) (holds : Bool) : Fields :=
  if holds then [(name, .bool true)] else []

def NodeTraits.toJson (t : NodeTraits) : Json :=
  .obj (traitField "token" t.token ++ traitField "trivia" t.trivia ++
    traitField "escape" t.escape ++ traitField "has_gap" t.gappy)

def SlotTraits.toJson (t : SlotTraits) : Json :=
  .obj (traitField "expression" t.expression ++ traitField "has_gap" t.gappy)

namespace Tag

/-- The name of a tag's kind in JSON. -/
def typeName : Tag → String
  | .doctype .. => "doctype"
  | .openFragment _ => "open-fragment"
  | .closeFragment => "close-fragment"
  | .openNode .. => "open-node"
  | .closeNode => "close-node"
  | .reference _ => "reference"
  | .null => "null"
  | .gap => "gap"
  | .shift _ => "shift"
  | .arrayStart => "array-initializer"
  | .literal _ => "literal"

/-- Attributes as a field, if there are any. -/
def attributesField (attributes : Fields) : Fields :=
  if attributes.isEmpty then [] else [("attributes", .obj attributes)]

/-- The fields of a tag besides its type. -/
def fields : Tag → Fields
  | .doctype language attributes => ("language", .str language) :: attributesField attributes
  | .openFragment traits => [("flags", traits.toJson)]
  | .openNode traits language nodeType attributes =>
      ("flags", traits.toJson) :: ("language", .str language) :: ("node_type", .str nodeType) ::
        attributesField attributes
  | .reference slot =>
      [("name", .str slot.name), ("is_array", .bool slot.isArray), ("flags", slot.traits.toJson)]
  | .shift name => [("name", .str name)]
  | .literal text => [("text", .str text)]
  | _ => []

/-- A tag as a JSON object, its type first. -/
def toJson (t : Tag) : Json :=
  .obj (("type", .str t.typeName) :: t.fields)

end Tag

def Json.toText? : Json → Option String
  | .str s => some s
  | _ => none

def Json.toBool? : Json → Option Bool
  | .bool b => some b
  | _ => none

def Json.toFields? : Json → Option Fields
  | .obj fields => some fields
  | _ => none

namespace Fields

/-- A text that must be there. -/
def text? (fields : Fields) (name : String) : Option String :=
  (fields.lookup name).bind Json.toText?

def bool? (fields : Fields) (name : String) : Option Bool :=
  (fields.lookup name).bind Json.toBool?

/-- A value that may be left out, but not be of another kind. -/
def optional? {α : Type} (fields : Fields) (name : String) (default : α) (read : Json → Option α) :
    Option α :=
  match fields.lookup name with
  | some value => read value
  | none => some default

/-- Values given in the order of their names; the last ones may be missing. -/
def ofRow? : List String → List Json → Option Fields
  | _, [] => some []
  | [], _ :: _ => none
  | name :: names, value :: values => ((name, value) :: ·) <$> ofRow? names values

/-- The fields of a value that is an object or a row of values in the order of `names`. -/
def ofJson? (names : List String) : Json → Option Fields
  | .obj fields => some fields
  | .arr values => ofRow? names values
  | _ => none

end Fields

def NodeTraits.ofJson? (value : Json) : Option NodeTraits := do
  let fields ← Fields.ofJson? ["token", "trivia", "escape", "has_gap"] value
  return {
    token := ← fields.optional? "token" false Json.toBool?
    trivia := ← fields.optional? "trivia" false Json.toBool?
    escape := ← fields.optional? "escape" false Json.toBool?
    gappy := ← fields.optional? "has_gap" false Json.toBool? }

def SlotTraits.ofJson? (value : Json) : Option SlotTraits := do
  let fields ← Fields.ofJson? ["expression", "has_gap"] value
  return {
    expression := ← fields.optional? "expression" false Json.toBool?
    gappy := ← fields.optional? "has_gap" false Json.toBool? }

namespace Tag

/-- The order of a tag's fields where they are given as a row. -/
def fieldNames (type : String) : List String :=
  match type with
  | "doctype" => ["language", "attributes"]
  | "open-fragment" => ["flags"]
  | "open-node" => ["flags", "language", "node_type", "attributes"]
  | "reference" => ["name", "is_array", "flags"]
  | "shift" => ["name"]
  | "literal" => ["text"]
  | _ => []

/-- Reads a tag of a known type from its fields. -/
def ofFields? (type : String) (fields : Fields) : Option Tag :=
  match type with
  | "doctype" => do
      return .doctype (← fields.text? "language")
        (← fields.optional? "attributes" [] Json.toFields?)
  | "open-fragment" => do
      return .openFragment (← fields.optional? "flags" {} NodeTraits.ofJson?)
  | "close-fragment" => some .closeFragment
  | "open-node" => do
      return .openNode (← fields.optional? "flags" {} NodeTraits.ofJson?)
        (← fields.text? "language") (← fields.text? "node_type")
        (← fields.optional? "attributes" [] Json.toFields?)
  | "close-node" => some .closeNode
  | "reference" => do
      return .reference ⟨← fields.text? "name", ← fields.bool? "is_array",
        ← fields.optional? "flags" {} SlotTraits.ofJson?⟩
  | "null" => some .null
  | "gap" => some .gap
  | "shift" => do return .shift (← fields.text? "name")
  | "array-initializer" => some .arrayStart
  | "literal" => do return .literal (← fields.text? "text")
  | _ => none

/-- Reads a tag from an object, or from a row that begins with the type and holds nothing after the
last field of that type. -/
def ofJson? : Json → Option Tag
  | .obj fields => do ofFields? (← Fields.text? fields "type") fields
  | .arr (.str type :: values) => do ofFields? type (← Fields.ofRow? (fieldNames type) values)
  | _ => none

def listOfJson? : Json → Option (List Tag)
  | .arr items => items.mapM ofJson?
  | _ => none

end Tag

end GrammarMachine
