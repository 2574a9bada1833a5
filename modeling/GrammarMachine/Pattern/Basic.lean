import GrammarMachine.Pattern.Program
import GrammarMachine.Pattern.Reader
import GrammarMachine.Pattern.Size

/-!
Patterns: regular expressions tied to the point where the text begins.
-/

namespace GrammarMachine

/-- A compiled pattern with the text it was written as. -/
structure Pattern where
  source : String
  program : Pattern.Program

namespace Pattern

/-- The pattern written as `source`. The start test is put in front of the written text, so a text
that closes the group around it can add alternatives that may match further on. An expression that
takes too much room is refused. -/
def ofSource? (source : String) : Option Pattern := do
  let e ← Expr.ofText? ("^(?:" ++ source ++ ")")
  if e.fits then some ⟨source, .ofExpr e⟩ else none

/-- The pattern of an expression that is already known, with the text it is written as. -/
def ofExpr (source : String) (e : Expr) : Pattern :=
  ⟨source, .ofExpr (.seq (.look .textStart) e)⟩

/-- The text up to the end of the match. -/
def read? (p : Pattern) (text : List Char) : Option (List Char) :=
  (p.program.matchEnd? text).map text.take

def display (p : Pattern) : String :=
  "/" ++ p.source ++ "/"

end Pattern

end GrammarMachine
