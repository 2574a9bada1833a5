import GrammarMachine.Source.Position
import GrammarMachine.Text.Bytes

/-!
Inputs: text with interpolation points, called gaps, between its characters.
-/

namespace GrammarMachine

/-- Text with the byte offsets of its gaps in ascending order. The size of the text in bytes is
counted once. -/
structure Source where
  chars : List Char := []
  size : Nat := Text.size chars
  gaps : List Nat := []
  size_eq : size = Text.size chars := by rfl
  deriving DecidableEq

namespace Source

/-- How a gap is written inside a template. -/
def gapMarker : String :=
  "$\x7b\x7d"

/-- The text of an input, without its gaps. -/
def text (s : Source) : String :=
  String.ofList s.chars

def ofText (text : String) : Source :=
  { chars := text.toList }

def addText (s : Source) (text : String) : Source where
  chars := s.chars ++ text.toList
  size := s.size + Text.size text.toList
  gaps := s.gaps
  size_eq := by rw [s.size_eq, Text.size_append]

def addGap (s : Source) : Source :=
  { s with gaps := s.gaps ++ [s.size] }

/-- The parts of a template between its gap markers; `part` holds the part being read, the last
character first. -/
def templateParts (part : List Char) : List Char → List String
  | [] => [String.ofList part.reverse]
  | '$' :: '\x7b' :: '\x7d' :: rest => String.ofList part.reverse :: templateParts [] rest
  | c :: rest => templateParts (c :: part) rest

/-- Text read as a template: every marker is a gap. -/
def ofTemplate (template : String) : Source :=
  match templateParts [] template.toList with
  | [] => {}
  | first :: rest => rest.foldl (fun s part => s.addGap.addText part) (ofText first)

/-- Text pieces and gaps in order. -/
def ofSegments (segments : List (Option String)) : Source :=
  segments.foldl (fun s segment =>
    match segment with
    | some text => s.addText text
    | none => s.addGap) {}

def stop (s : Source) : Position :=
  ⟨s.size, s.gaps.length⟩

end Source

end GrammarMachine
