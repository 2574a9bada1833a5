import GrammarMachine.Tree.Basic

/-!
The drawing of a tree: one part a line, with connectors to its node. A token is shown with its text.
-/

namespace GrammarMachine.Format

/-- The first characters of a text, with dots if there are more. -/
def shorten (limit : Nat) (text : String) : String :=
  if limit < text.length then String.ofList (text.toList.take limit) ++ "..." else text

/-- The name of a slot, with brackets for an array. -/
def slotLabel (name : String) (isArray : Bool) : String :=
  if isArray then name ++ "[]" else name

def connector (isLast : Bool) : String :=
  if isLast then "└─ " else "├─ "

/-- The margin below a part, in front of its own parts. -/
def marginBelow (margin : String) (isLast : Bool) : String :=
  margin ++ if isLast then "  " else "│ "

mutual

def drawChild (margin : String) (isLast : Bool) : Child → String
  | .literal text =>
      margin ++ connector isLast ++ Text.quoted (shorten 30 text) ++ "\n"
  | .arrayStart name => margin ++ connector isLast ++ name ++ ": []\n"
  | .property name isArray value =>
      margin ++ connector isLast ++ slotLabel name isArray ++ ": " ++
        drawFiller (marginBelow margin isLast) value

/-- The rest of the line of what a slot holds, and the lines of its parts. -/
def drawFiller (margin : String) : Filler → String
  | .node heading children =>
      if heading.traits.token then
        heading.nodeType ++ " " ++ Text.quoted (shorten 30 (Child.sourceTextOf children)) ++ "\n"
      else heading.nodeType ++ "\n" ++ drawChildren margin children
  | .literal text => Text.quoted text ++ "\n"
  | .null => "null\n"
  | .gap => "<//>\n"

def drawChildren (margin : String) : List Child → String
  | [] => ""
  | child :: rest => drawChild margin rest.isEmpty child ++ drawChildren margin rest

end

def drawing (fragment : Node) : String :=
  drawChildren "" fragment.children

end GrammarMachine.Format
