import GrammarMachine.Source.Basic
import GrammarMachine.Tag.Basic

/-!
Trees: what a stream of tags describes. A node holds its matched text and its named values in the
order of the input, so the input can be read off the tree.
-/

namespace GrammarMachine

/-- What the opening tag of a node says. -/
structure Heading where
  language : String
  nodeType : String
  traits : NodeTraits := {}
  attributes : Fields := []

mutual

/-- A part of a node. -/
inductive Child where
  /-- Text of the node itself. -/
  | literal (text : String)
  /-- A named value. -/
  | property (name : String) (isArray : Bool) (value : Filler)
  /-- The introduction of an array. -/
  | arrayStart (name : String)

/-- What a slot holds. -/
inductive Filler where
  | node (heading : Heading) (children : List Child)
  | literal (text : String)
  | null
  | gap

end

structure Node where
  heading : Heading
  children : List Child

namespace Filler

/-- The node in a slot. -/
def node? : Filler → Option Node
  | .node heading children => some ⟨heading, children⟩
  | _ => none

end Filler

mutual

/-- The input text of a part. -/
def Child.sourceText : Child → String
  | .literal text => text
  | .property _ _ value => value.sourceText
  | .arrayStart _ => ""

/-- The input text of what a slot holds. A gap is written as in a template. -/
def Filler.sourceText : Filler → String
  | .node _ children => Child.sourceTextOf children
  | .literal text => text
  | .null => ""
  | .gap => Source.gapMarker

/-- The input text of parts in order. -/
def Child.sourceTextOf : List Child → String
  | [] => ""
  | child :: rest => child.sourceText ++ Child.sourceTextOf rest

end

namespace Child

/-- The value that a part stores under a name. -/
def valueNamed? (name : String) : Child → Option Filler
  | .property slot _ value => if slot = name then some value else none
  | _ => none

end Child

namespace Node

/-- Whether the node is the outermost one. -/
def isFragment (n : Node) : Bool :=
  n.heading.nodeType = fragmentType

/-- The first value stored under a name. -/
def get? (n : Node) (name : String) : Option Filler :=
  n.children.findSome? (·.valueNamed? name)

/-- All values stored under a name, in the order of the input. -/
def values (n : Node) (name : String) : List Filler :=
  n.children.filterMap (·.valueNamed? name)

/-- The node stored under a name. -/
def node? (n : Node) (name : String) : Option Node :=
  (n.get? name).bind Filler.node?

/-- The node at the end of a path of names. -/
def follow? (n : Node) (path : List String) : Option Node :=
  path.foldlM (fun node name => node.node? name) n

/-- Whether the node has an array of the given name. -/
def hasArray (n : Node) (name : String) : Bool :=
  n.children.any fun
    | .arrayStart array => array = name
    | _ => false

/-- The input text that the node covers. -/
def sourceText (n : Node) : String :=
  Child.sourceTextOf n.children

end Node

end GrammarMachine
