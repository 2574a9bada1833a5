import GrammarMachine.Source.Basic
import GrammarMachine.Tape.Basic

/-!
Drafts: tapes held in memory. A draft reads an input and collects tags, writes, spans and bound
attributes. A branch remembers how much was collected, and rejecting it goes back to that point.
-/

namespace GrammarMachine

/-- A text sent to the side channel. -/
structure Written where
  text : String
  options : Option Json

/-- An open node: the index of its opening tag and the names of the slots referred to in it. -/
structure OpenNode where
  tag : Nat
  names : List String

def OpenNode.addName (n : OpenNode) (name : String) : OpenNode :=
  { n with names := if n.names.contains name then n.names else name :: n.names }

/-- An attribute bound after its node was opened. -/
structure Binding where
  tag : Nat
  key : String
  value : Json

/-- What a branch remembers: the state that changes freely, and how much of the rest there was. -/
structure Snapshot where
  position : Position
  tagCount : Nat
  opened : List OpenNode
  writeCount : Nat
  spans : List String
  bindingCount : Nat

/-- A tape in memory. Open nodes, open spans and branches are kept innermost first. -/
structure Draft where
  source : Source
  language : Option String := none
  position : Position := {}
  tags : Array Tag := #[]
  opened : List OpenNode := []
  writes : Array Written := #[]
  spans : List String := []
  bindings : Array Binding := #[]
  branches : List Snapshot := []

namespace Draft

def fresh (source : Source) : Draft :=
  { source }

def nextGap? (d : Draft) : Option Nat :=
  d.source.gaps[d.position.gaps]?

/-- The text between the cursor and the next gap, or else the end of the input. -/
def window (d : Draft) : Except Fault (List Char) :=
  let offset := d.position.offset
  let text := match d.nextGap? with
    | some gap => Text.slice? offset (max gap offset) d.source.chars
    | none => Text.drop? offset d.source.chars
  match text with
  | some text => .ok text
  | none => .error .textOutOfBounds

/-- Where the input is read. -/
def cursor (d : Draft) : Cursor where
  position := d.position
  atGap := d.nextGap? = some d.position.offset
  done := d.position = d.source.stop

/-- The input text between two positions; empty if there is no such text. -/
def textBetween (d : Draft) (start stop : Position) : String :=
  match Text.slice? start.offset stop.offset d.source.chars with
  | some text => String.ofList text
  | none => ""

/-- The text recognized at the cursor. -/
def recognize (d : Draft) (r : Recognizer) : Except Fault (Option String) :=
  d.window.map r.read?

/-- Whether the innermost open node has received a reference of the given name. -/
def hasReference (d : Draft) (name : String) : Bool :=
  match d.opened with
  | node :: _ => node.names.contains name
  | [] => false

/-- The open nodes after a tag with the given index. -/
def openedAfter (opened : List OpenNode) (index : Nat) : Tag → List OpenNode
  | .openNode .. | .openFragment _ => ⟨index, []⟩ :: opened
  | .closeNode | .closeFragment => opened.tail
  | .reference slot =>
      match opened with
      | node :: rest => node.addName slot.name :: rest
      | [] => []
  | _ => opened

def positionAfter (position : Position) : Tag → Position
  | .literal text => position.skip text.utf8ByteSize
  | .gap => position.skipGap
  | _ => position

def advance (d : Draft) (tag : Tag) : Draft :=
  { d with
    position := positionAfter d.position tag
    opened := openedAfter d.opened d.tags.size tag
    tags := d.tags.push tag }

def snapshot (d : Draft) : Snapshot where
  position := d.position
  tagCount := d.tags.size
  opened := d.opened
  writeCount := d.writes.size
  spans := d.spans
  bindingCount := d.bindings.size

def restore (d : Draft) (s : Snapshot) : Draft :=
  { d with
    position := s.position
    -- Tags, writes and bindings only grow within a branch, so their numbers tell enough.
    tags := d.tags.shrink s.tagCount
    opened := s.opened
    writes := d.writes.shrink s.writeCount
    spans := s.spans
    bindings := d.bindings.shrink s.bindingCount }

/-- Undoes the innermost branch, if there is one. -/
def reject (d : Draft) : Draft :=
  match d.branches with
  | s :: rest => { d.restore s with branches := rest }
  | [] => d

/-- Binds an attribute of the innermost open node, if there is one. -/
def bind (d : Draft) (key : String) (value : Json) : Draft :=
  match d.opened with
  | node :: _ => { d with bindings := d.bindings.push ⟨node.tag, key, value⟩ }
  | [] => d

def perform : Act → Draft → Draft
  | .init language, d => { d with language := some language }
  | .advance tag, d => d.advance tag
  | .branch, d => { d with branches := d.snapshot :: d.branches }
  | .accept, d => { d with branches := d.branches.tail }
  | .reject, d => d.reject
  | .write text options, d => { d with writes := d.writes.push ⟨text, options⟩ }
  | .openSpan name, d => { d with spans := name :: d.spans }
  | .closeSpan name, d => { d with spans := d.spans.erase name }
  | .bind key value, d => d.bind key value
  | .startFrame .., d | .endFrame _, d | .throw, d => d

instance : Tape Draft where
  cursor := cursor
  tagCount d := d.tags.size
  lastTag? d := d.tags.back?
  inputSize d := d.source.size
  textBetween := textBetween
  recognize := recognize
  hasReference := hasReference
  branchDepth d := d.branches.length
  perform := perform

/-- Adds a bound attribute to those of its node, keeping nodes in ascending order. -/
def addBinding (b : Binding) : List (Nat × Fields) → List (Nat × Fields)
  | [] => [(b.tag, [(b.key, b.value)])]
  | (tag, fields) :: rest =>
      if b.tag < tag then (b.tag, [(b.key, b.value)]) :: (tag, fields) :: rest
      else if b.tag = tag then (tag, Fields.insert b.key b.value fields) :: rest
      else (tag, fields) :: addBinding b rest

/-- The bound attributes by the index of the opening tag of their node. -/
def boundAttributes (d : Draft) : List (Nat × Fields) :=
  d.bindings.foldl (fun bound b => addBinding b bound) []

end Draft

end GrammarMachine
