import GrammarMachine.Production.Basic

/-!
Automata: productions given by a table. In each state the first case whose condition holds decides
what is done and which state follows.
-/

namespace GrammarMachine

/-- A condition on the cursor and on the value of the instruction before. -/
inductive Condition where
  | always
  | matched
  | missed
  | atEnd
  | notAtEnd
  | atGap
  | matchedText (text : String)

def Condition.holds (cursor : Cursor) (input : Option Extent) : Condition → Bool
  | .always => true
  | .matched => input.isSome
  | .missed => input.isNone
  | .atEnd => cursor.done
  | .notAtEnd => !cursor.done
  | .atGap => cursor.atGap
  | .matchedText text => input.any (·.text = text)

/-- What a case does: ask for an instruction and go to a state, or be done. -/
inductive Move where
  | yield (instruction : Instruction) (next : Nat)
  | done (tail : Option Instruction)

/-- A table of states, each a list of cases, with the present state and the cleanup. -/
structure Automaton where
  states : List (List (Condition × Move))
  cleanup : List Instruction := []
  state : Nat := 0

namespace Automaton

/-- The move to be made. Where no case applies the automaton is done. -/
def move (a : Automaton) (cursor : Cursor) (input : Option Extent) : Move :=
  match (a.states.getD a.state []).find? fun (condition, _) => condition.holds cursor input with
  | some (_, move) => move
  | none => .done none

def step (a : Automaton) (cursor : Cursor) (input : Option Extent) : Step × Automaton :=
  match a.move cursor input with
  | .yield instruction next => (.yield instruction, { a with state := next })
  | .done tail => (.done tail, a)

instance : Stepper Automaton where
  step := step
  cleanup a := a.cleanup

end Automaton

/-- The rule that runs an automaton from its first state. -/
def Rule.automaton (states : List (List (Condition × Move))) : Rule Automaton :=
  fun _ => .custom { states }

end GrammarMachine
