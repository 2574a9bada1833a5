import GrammarMachine.Machine.Basic
import GrammarMachine.Production.Automaton

/-!
The language of unsigned decimal numbers. A number is a token; a cover type makes it available to
other languages.
-/

namespace GrammarMachine.Builtin.Digits

def url : String :=
  "urn:tagvm:digits"

/-- One or more decimal digits of any script. -/
def digits : Pattern :=
  .ofExpr "\\d+" (.rep (.one Text.digitRanges) 1 none true)

def number : Goal :=
  .token "Number" (.pattern digits)

def document : Goal :=
  .node "Numeral"

def grammar : Grammar Automaton :=
  let g : Grammar Automaton := {}
  g.node "Number"
    |>.cover "Numeral" ["Number"]
    |>.define "Numeral" (.script [] (some (.eat number)))

def language (n : Nat) : Language Automaton n :=
  { url, grammar }

end GrammarMachine.Builtin.Digits
