import GrammarMachine.Goal

/-!
Instructions of rules. The verb of a matching instruction fixes what becomes of a success and of a
failure.
-/

namespace GrammarMachine

/-- How a matching instruction treats its result. -/
inductive Verb where
  | eat
  | eatMatch
  | peek
  | guard
  | hold
  | holdMatch
  deriving DecidableEq

/-- What becomes of a match: whether a success is kept and whether a failure becomes null instead of
aborting the rule. -/
structure Policy where
  keeps : Bool
  absorbs : Bool
  deriving DecidableEq

/-- Whether a match under the policy may have to be undone on its own. -/
def Policy.branches (p : Policy) : Bool :=
  !p.keeps || p.absorbs

namespace Verb

def name : Verb → String
  | .eat => "eat"
  | .eatMatch => "eatMatch"
  | .peek => "match"
  | .guard => "guard"
  | .hold => "holdFor"
  | .holdMatch => "holdForMatch"

/-- Whether the verb holds the value completed last for the node it opens. -/
def isHold : Verb → Bool
  | .hold | .holdMatch => true
  | _ => false

def policy : Verb → Policy
  | .eat | .hold => ⟨true, false⟩
  | .eatMatch | .holdMatch => ⟨true, true⟩
  | .peek => ⟨false, true⟩
  | .guard => ⟨false, false⟩

end Verb

/-- A matching instruction. `plain` treats a node type as a mere rule without tags of its own, and
`through` runs the rule even at an interpolation point. -/
structure Attempt where
  verb : Verb
  goal : Goal
  props : Option Json := none
  plain : Bool := false
  through : Bool := false

/-- What a rule asks of the machine. -/
inductive Instruction where
  | attempt (attempt : Attempt)
  | fail
  | write (text : String) (options : Option Json)
  | openSpan (name : String)
  | closeSpan (name : String)
  | bind (key : String) (value : Json)

namespace Instruction

/-- A match that must succeed and is kept. -/
def eat (goal : Goal) : Instruction :=
  .attempt { verb := .eat, goal }

/-- A match that is kept if it succeeds. -/
def eatMatch (goal : Goal) : Instruction :=
  .attempt { verb := .eatMatch, goal }

/-- A match that is only looked at. -/
def peek (goal : Goal) : Instruction :=
  .attempt { verb := .peek, goal }

/-- A node that adopts the value completed last. -/
def hold (goal : Goal) : Instruction :=
  .attempt { verb := .hold, goal }

def verbName : Instruction → String
  | .attempt a => a.verb.name
  | .fail => "fail"
  | .write .. => "write"
  | .openSpan _ => "openSpan"
  | .closeSpan _ => "closeSpan"
  | .bind .. => "bindAttribute"

def display : Instruction → String
  | .attempt a => a.verb.name ++ "(" ++ a.goal.display ++ ")"
  | .fail => "fail()"
  | .write text _ => "write(" ++ Text.quoted text ++ ")"
  | .openSpan name => "openSpan(" ++ name ++ ")"
  | .closeSpan name => "closeSpan(" ++ name ++ ")"
  | .bind key value => "bindAttribute(" ++ key ++ ", " ++ value.compact ++ ")"

end Instruction

end GrammarMachine
