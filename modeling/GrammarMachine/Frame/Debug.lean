import GrammarMachine.Frame.Basic
import GrammarMachine.Text.Printable

/-!
Frames as written in diagnostics, where records have their fields labelled and optional values say
whether they are there.
-/

namespace GrammarMachine

namespace Text

/-- A name with labelled fields in braces. -/
def record (name : String) (fields : List (String × String)) : String :=
  let shown := fields.map fun (label, value) => label ++ ": " ++ value
  name ++ " \x7b " ++ String.intercalate ", " shown ++ " \x7d"

/-- A value that may be missing. -/
def optional {α : Type} (shown : α → String) : Option α → String
  | some value => "Some(" ++ shown value ++ ")"
  | none => "None"

end Text

open Text

def Position.debug (p : Position) : String :=
  record "SourcePosition" [("offset", toString p.offset), ("gaps", toString p.gaps)]

def Mark.debug (m : Mark) : String :=
  record "Mark" [("tag", toString m.tag), ("position", m.position.debug)]

def Capture.debug (c : Capture) : String :=
  record "CaptureRange"
    [("start", optional Mark.debug c.start), ("end", optional Mark.debug c.stop)]

def Policy.debug (p : Policy) : String :=
  record "Effects"
    [("success", if p.keeps then "Keep" else "Discard"),
     ("failure", if p.absorbs then "Null" else "Abort")]

def Slot.debug (s : Slot) : String :=
  record "Reference"
    [("name", quoted s.name), ("is_array", toString s.isArray),
     ("flags", record "ReferenceFlags"
       [("expression", toString s.traits.expression), ("has_gap", toString s.traits.gappy)])]

/-- A frame for diagnostics, given the address of its language. -/
def Frame.debug {σ : Type} {n : Nat} (f : Frame σ n) (url : String) : String :=
  record "Frame"
    [("node_type", quoted f.nodeType),
     ("language", quoted url),
     ("depth", toString f.depth),
     ("is_node", toString f.isNode),
     ("is_cover", toString f.isCover),
     ("effects", f.policy.debug),
     ("range", f.capture.debug),
     ("merged_reference", f.slot.debug),
     ("branched", toString f.branched),
     ("returning", toString f.returning)]

def Cursor.debug (c : Cursor) : String :=
  record "SourceState"
    [("position", c.position.debug), ("at_gap", toString c.atGap), ("done", toString c.done)]

end GrammarMachine
