import GrammarMachine.Json.Printer
import GrammarMachine.Slot.Basic

/-!
Tags, the elements of a parse's output. A stream of tags describes a tree without loss: a doctype,
then one fragment in brackets, inside it nodes in brackets, each value after the reference that
names its slot, and the matched text as literals.
-/

namespace GrammarMachine

/-- The type of the fragment, the outermost node. -/
def fragmentType : String :=
  "#fragment"

/-- What is known of a node besides its type. -/
structure NodeTraits where
  token : Bool := false
  trivia : Bool := false
  escape : Bool := false
  gappy : Bool := false
  deriving DecidableEq

/-- An element of the output stream. -/
inductive Tag where
  /-- Names the root language. -/
  | doctype (language : String) (attributes : Fields)
  /-- Opens the whole parse. -/
  | openFragment (traits : NodeTraits)
  /-- Closes the whole parse. -/
  | closeFragment
  /-- Opens a node. -/
  | openNode (traits : NodeTraits) (language nodeType : String) (attributes : Fields)
  /-- Closes the node opened last. -/
  | closeNode
  /-- Names the slot of the value that follows. -/
  | reference (slot : Slot)
  /-- An empty value. -/
  | null
  /-- An interpolation point of the input. -/
  | gap
  /-- Moves the value completed last into the node opened next, under a name of its own. -/
  | shift (name : String)
  /-- Marks the slot named before it as an array. -/
  | arrayStart
  /-- Matched text. -/
  | literal (text : String)

namespace Tag

def kind : Tag → String
  | .doctype .. => "Doctype"
  | .openFragment _ => "OpenFragment"
  | .closeFragment => "CloseFragment"
  | .openNode .. => "OpenNode"
  | .closeNode => "CloseNode"
  | .reference _ => "Reference"
  | .null => "Null"
  | .gap => "Gap"
  | .shift _ => "Shift"
  | .arrayStart => "ArrayInitializer"
  | .literal _ => "Literal"

/-- Whether the tag begins a value that may stand in a slot. -/
def fillsSlot : Tag → Bool
  | .null | .gap | .openNode .. | .literal _ => true
  | _ => false

def opens : Tag → Bool
  | .openNode .. | .openFragment _ => true
  | _ => false

def closes : Tag → Bool
  | .closeNode | .closeFragment => true
  | _ => false

/-- Attributes as written in an opening tag. -/
def attributesText (attributes : Fields) : String :=
  String.join (attributes.map fun (key, value) => " " ++ key ++ "=" ++ value.compact)

/-- The tag in the compact notation. -/
def display : Tag → String
  | .doctype language _ => "<!doctype " ++ language ++ ">"
  | .openFragment traits => if traits.gappy then "<$>" else "<>"
  | .closeFragment => "</>"
  | .openNode traits _ nodeType attributes =>
      "<" ++ (if traits.trivia then "#" else "") ++ (if traits.token then "*" else "") ++
        nodeType ++ attributesText attributes ++ ">"
  | .closeNode => "</>"
  | .reference slot => slot.display ++ ":"
  | .null => "null"
  | .gap => "<//>"
  | .shift name => "^^^ " ++ name
  | .arrayStart => "[]"
  | .literal text => Text.quoted text

end Tag

end GrammarMachine
