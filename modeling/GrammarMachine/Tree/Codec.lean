import GrammarMachine.Tag.Codec
import GrammarMachine.Tree.Basic

/-!
Trees as JSON objects. Traits and attributes of a node are left out if there are none.
-/

namespace GrammarMachine

/-- The fields of a node besides its children. -/
def Heading.fields (h : Heading) : Fields :=
  [("language", .str h.language), ("node_type", .str h.nodeType)] ++
    (if h.traits = {} then [] else [("flags", h.traits.toJson)]) ++ Tag.attributesField h.attributes

mutual

/-- A part as a JSON object, its kind first. -/
def Child.toJson : Child → Json
  | .literal text => .obj [("kind", .str "literal"), ("text", .str text)]
  | .property name isArray value =>
      .obj [("kind", .str "property"), ("name", .str name), ("is_array", .bool isArray),
        ("value", value.toJson)]
  | .arrayStart name => .obj [("kind", .str "array-initializer"), ("name", .str name)]

/-- What a slot holds as a JSON value. -/
def Filler.toJson : Filler → Json
  | .node heading children =>
      .obj [("node", .obj (heading.fields ++ [("children", .arr (Child.listToJson children))]))]
  | .literal text => .obj [("literal", .str text)]
  | .null => .str "null"
  | .gap => .str "gap"

def Child.listToJson : List Child → List Json
  | [] => []
  | child :: rest => child.toJson :: Child.listToJson rest

end

def Node.toJson (n : Node) : Json :=
  .obj (n.heading.fields ++ [("children", .arr (Child.listToJson n.children))])

end GrammarMachine
