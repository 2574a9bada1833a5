import GrammarMachine.Pattern.Basic
import GrammarMachine.Text.Printable

/-!
Recognizers of raw text: a fixed text or a pattern.
-/

namespace GrammarMachine

/-- Something that is recognized at the start of a text. -/
inductive Recognizer where
  | literal (text : String)
  | pattern (pattern : Pattern)

namespace Recognizer

/-- The part of the text, from its start, that is recognized. -/
def read? (r : Recognizer) (text : List Char) : Option String :=
  match r with
  | .literal wanted => if wanted.toList.isPrefixOf text then some wanted else none
  | .pattern p => (p.read? text).map String.ofList

def display : Recognizer → String
  | .literal text => Text.quoted text
  | .pattern p => p.display

end Recognizer

end GrammarMachine
