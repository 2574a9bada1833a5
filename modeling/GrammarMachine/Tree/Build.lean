import GrammarMachine.Tree.Basic

/-!
Rebuilding the tree that a stream of tags describes. The stream must have one doctype and one
fragment, balanced nodes, a value after each reference, and after each shift the node that adopts
the shifted value.
-/

namespace GrammarMachine

/-- Why a tag cannot stand where it does. -/
inductive Misplacement where
  | afterFragment
  | noAdoption
  | noValue
  | lateDoctype
  | nestedFragment
  | missingDoctype
  | unclosedNodes
  | nodeOutside
  | nodeWithoutReference
  | nothingToClose
  | referenceOutside
  | arrayWithoutReference
  | nullWithoutReference
  | gapWithoutReference
  | textOutside
  | notCompleted
  | nothingToShift
  deriving DecidableEq

def Misplacement.message : Misplacement → String
  | .afterFragment => "the fragment is already closed"
  | .noAdoption => "a shift must be followed by the adopting node"
  | .noValue => "a reference must be followed by its value"
  | .lateDoctype => "the doctype must come first"
  | .nestedFragment => "fragments do not nest"
  | .missingDoctype => "missing doctype"
  | .unclosedNodes => "unclosed nodes inside the fragment"
  | .nodeOutside => "nodes must be inside the fragment"
  | .nodeWithoutReference => "a node needs a reference"
  | .nothingToClose => "no open node to close"
  | .referenceOutside => "references must be inside the fragment"
  | .arrayWithoutReference => "an array initializer needs an array reference"
  | .nullWithoutReference => "null needs a reference"
  | .gapWithoutReference => "a gap needs a reference"
  | .textOutside => "text must be inside the fragment"
  | .notCompleted => "only a completed node can be shifted"
  | .nothingToShift => "nothing to shift"

/-- Why a stream describes no tree. -/
inductive BuildError where
  | unexpected (index : Nat) (tag : Tag) (reason : Misplacement)
  | unterminated

def BuildError.message : BuildError → String
  | .unexpected index tag reason =>
      "Unexpected tag " ++ tag.display ++ " at " ++ toString index ++ ": " ++ reason.message
  | .unterminated => "Tag stream ended before the fragment closed"

/-- Where a value is to be stored. -/
structure Place where
  name : String
  isArray : Bool

/-- The value stored at a place. -/
def Place.child (p : Place) (value : Filler) : Child :=
  .property p.name p.isArray value

/-- A node being built: its parts, the last one first, and where it is to be stored. The fragment is
stored nowhere. -/
structure Unfinished where
  heading : Heading
  parts : List Child := []
  place : Option Place

/-- A value taken out of its place, and the name under which it will be adopted. -/
structure Shifted where
  name : String
  place : Place
  value : Filler

/-- The state of the builder. Open nodes are kept innermost first. -/
structure Builder where
  language : Option String := none
  opened : List Unfinished := []
  pending : Option Place := none
  shifted : Option Shifted := none
  result : Option Node := none

namespace Builder

/-- Adds a part to the innermost open node. -/
def addChild (b : Builder) (child : Child) : Builder :=
  match b.opened with
  | node :: rest => { b with opened := { node with parts := child :: node.parts } :: rest }
  | [] => b

/-- Stores a value at the pending place. -/
def fill (b : Builder) (value : Filler) (reason : Misplacement) : Except Misplacement Builder :=
  match b.pending with
  | some place => .ok ({ b with pending := none }.addChild (place.child value))
  | none => .error reason

def openFragment (b : Builder) (traits : NodeTraits) : Except Misplacement Builder :=
  if !b.opened.isEmpty then .error .nestedFragment
  else
    match b.language with
    | none => .error .missingDoctype
    | some language =>
        let heading : Heading := { language, nodeType := fragmentType, traits }
        .ok { b with opened := [{ heading, place := none }] }

def closeFragment (b : Builder) : Except Misplacement Builder :=
  match b.opened with
  | [node] => .ok { b with opened := [], result := some ⟨node.heading, node.parts.reverse⟩ }
  | _ => .error .unclosedNodes

/-- Opens a node at the place of the shifted value, which it adopts, or at the pending place. -/
def openNode (b : Builder) (heading : Heading) : Except Misplacement Builder :=
  if b.opened.isEmpty then .error .nodeOutside
  else
    let b' := { b with shifted := none, pending := none }
    match b.shifted, b.pending with
    | some shifted, _ =>
        let adopted := Child.property shifted.name false shifted.value
        .ok { b' with
          opened := { heading, parts := [adopted], place := some shifted.place } :: b.opened }
    | none, some place => .ok { b' with opened := { heading, place := some place } :: b.opened }
    | none, none => .error .nodeWithoutReference

/-- Closes the innermost node and stores it. -/
def closeNode (b : Builder) : Except Misplacement Builder :=
  match b.opened with
  | node :: outer :: rest =>
      let b := { b with opened := outer :: rest }
      match node.place with
      | some place => .ok (b.addChild (place.child (.node node.heading node.parts.reverse)))
      | none => .ok b
  | _ => .error .nothingToClose

/-- Names the place of the next value. -/
def refer (b : Builder) (slot : Slot) : Except Misplacement Builder :=
  if b.opened.isEmpty then .error .referenceOutside
  else .ok { b with pending := some ⟨slot.name, slot.isArray⟩ }

/-- Introduces an array at the pending place. -/
def startArray (b : Builder) : Except Misplacement Builder :=
  match b.pending with
  | some ⟨name, true⟩ => .ok ({ b with pending := none }.addChild (.arrayStart name))
  | _ => .error .arrayWithoutReference

/-- Adds text at the pending place or to the innermost node. -/
def addText (b : Builder) (text : String) : Except Misplacement Builder :=
  match b.pending with
  | some _ => b.fill (.literal text) .textOutside
  | none => if b.opened.isEmpty then .error .textOutside else .ok (b.addChild (.literal text))

/-- Takes the value completed last out of its place. -/
def shift (b : Builder) (name : String) : Except Misplacement Builder :=
  match b.opened with
  | [] => .error .nothingToShift
  | node :: rest =>
      let without (parts : List Child) := { node with parts } :: rest
      match node.parts with
      | [] => .error .nothingToShift
      -- Only a node or a gap can be shifted; both have just been completed.
      | .property slot isArray (.node heading children) :: parts =>
          .ok { b with
            opened := without parts
            shifted := some ⟨name, ⟨slot, isArray⟩, .node heading children⟩ }
      | .property slot isArray .gap :: parts =>
          .ok { b with
            opened := without parts
            shifted := some ⟨name, ⟨slot, isArray⟩, .gap⟩ }
      | _ => .error .notCompleted

def setDoctype (b : Builder) (index : Nat) (language : String) : Except Misplacement Builder :=
  if b.language.isSome || index != 0 then .error .lateDoctype
  else .ok { b with language := some language }

def opensNode : Tag → Bool
  | .openNode .. => true
  | _ => false

def startsArray : Tag → Bool
  | .arrayStart => true
  | _ => false

/-- Refuses a tag after the fragment, and one that does not follow a shift or a reference. -/
def refusal? (b : Builder) (tag : Tag) : Option Misplacement :=
  if b.result.isSome then some .afterFragment
  else if b.shifted.isSome && !opensNode tag then some .noAdoption
  else if b.pending.isSome && !tag.fillsSlot && !startsArray tag then some .noValue
  else none

def push (b : Builder) (index : Nat) (tag : Tag) : Except Misplacement Builder :=
  match b.refusal? tag with
  | some reason => .error reason
  | none =>
      match tag with
      | .doctype language _ => b.setDoctype index language
      | .openFragment traits => b.openFragment traits
      | .closeFragment => b.closeFragment
      | .openNode traits language nodeType attributes =>
          b.openNode { language, nodeType, traits, attributes }
      | .closeNode => b.closeNode
      | .reference slot => b.refer slot
      | .arrayStart => b.startArray
      | .null => b.fill .null .nullWithoutReference
      | .gap => b.fill .gap .gapWithoutReference
      | .literal text => b.addText text
      | .shift name => b.shift name

/-- Adds the tags from an index on. -/
def pushAll (b : Builder) (index : Nat) : List Tag → Except BuildError Builder
  | [] => .ok b
  | tag :: rest =>
      match b.push index tag with
      | .ok b => b.pushAll (index + 1) rest
      | .error reason => .error (.unexpected index tag reason)

end Builder

/-- The fragment that a stream of tags describes. -/
def Node.ofTags (tags : List Tag) : Except BuildError Node :=
  match Builder.pushAll {} 0 tags with
  | .error error => .error error
  | .ok b =>
      match b.result with
      | some node => .ok node
      | none => .error .unterminated

end GrammarMachine
