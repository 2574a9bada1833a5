import GrammarMachine.Builtin.Digits

/-!
The language of arithmetic expressions over numbers.

An expression is an operand followed by any number of operators with operands. All operators bind
equally tightly and associate to the left: after each operand the finished value is held, and the
next operator opens a node that adopts it as its left side. An operand is a group in parentheses, a
list in brackets, a number or a gap.
-/

namespace GrammarMachine.Builtin.Arithmetic

open Pattern (CharSet Expr)

def url : String :=
  "urn:tagvm:arithmetic"

def blank : CharSet :=
  .ofChars " \t\r\n"

def operator : CharSet :=
  .ofChars "-+*/"

def whitespace : Instruction :=
  .eat (.pattern (.ofExpr "[ \\t\\r\\n]*" (.rep (.one blank) 0 none true)))

def operatorPattern : Pattern :=
  .ofExpr "[-+*/]" (.one operator)

/-- Looks for an operator behind white space. -/
def operatorAhead : Instruction :=
  .peek (.pattern (.ofExpr "[ \\t\\r\\n]*[-+*/]"
    (.seq (.rep (.one blank) 0 none true) (.one operator))))

/-- Holds the finished value for the rest of the chain. -/
def holdChain : Instruction :=
  .hold ((Goal.node "Chain").named "left")

/-- The goal for a whole input: an expression with white space around it. -/
def document : Goal :=
  .node "Program"

def expression : Goal :=
  .node "Expression"

/-- The states of a rule that reads a first part and holds it if an operator follows. -/
def chainStates (first : Instruction) : List (List (Condition × Move)) :=
  [[(.always, .yield first 1)],
   [(.atEnd, .done none), (.always, .yield operatorAhead 2)],
   [(.matched, .done (some holdChain)), (.always, .done none)]]

/-- The states of the rule for an operand. -/
def atomStates : List (List (Condition × Move)) :=
  [[(.always, .yield (.peek (.literal "(")) 1)],
   [(.matched, .done (some (.eat (.node "Group")))), (.always, .yield (.peek (.literal "[")) 2)],
   [(.matched, .done (some (.eat (.node "List")))),
    (.always, .done (some (.eat ((Goal.node "Numeral").inLanguage "digits"))))]]

/-- The states of the rule for a list. State 3 reads an item, state 5 a separator. -/
def listStates : List (List (Condition × Move)) :=
  let close : Move := .done (some (.eat (.literal "]")))
  [[(.always, .yield (.eat (.literal "[")) 1)],
   [(.always, .yield whitespace 2)],
   [(.always, .yield (.eat (Goal.array.inArray "items")) 3)],
   [(.always, .yield (.eatMatch (expression.inArray "items")) 4)],
   [(.matched, .yield whitespace 5), (.always, close)],
   [(.always, .yield (.eatMatch (.literal ",")) 6)],
   [(.matched, .yield whitespace 3), (.always, close)]]

/-- The grammar of arithmetic expressions. -/
def grammar : Grammar Automaton :=
  let g : Grammar Automaton := {}
  g.node "Program"
    |>.node "Binary"
    |>.node "Operator"
    |>.node "Group"
    |>.node "List"
    |>.cover "Expression" ["Binary", "Group", "List", "Number"]
    |>.cover "Chain" ["Binary"]
    |>.cover "Atom" ["Group", "List", "Number"]
    |>.define "Program"
        (.script [whitespace, .eat (expression.named "expression"), whitespace] none)
    |>.define "Expression" (.automaton (chainStates (.eat (Goal.node "Atom").allowGap)))
    |>.define "Chain" (.automaton (chainStates (.eat (.node "Binary"))))
    |>.define "Binary"
        (.script
          [whitespace,
           .eat ((Goal.token "Operator" (.pattern operatorPattern)).named "operator"),
           whitespace,
           .eat ((Goal.node "Atom").named "right").allowGap]
          none)
    |>.define "Atom" (.automaton atomStates)
    |>.define "Group"
        (.script
          [.eat (.literal "("), whitespace, .eat (expression.named "expression"), whitespace]
          (some (.eat (.literal ")"))))
    |>.define "List" (.automaton listStates)

/-- The language in a catalog of any size, given the place of the language of numbers. -/
def language {n : Nat} (digits : Fin n) : Language Automaton n :=
  { url, grammar, dependencies := [("digits", digits)] }

end GrammarMachine.Builtin.Arithmetic
