import GrammarMachine.Slot.Basic

/-!
Why a parse stops without a result. A fault, in contrast, is no answer to an input: it says that the
machine was asked for something that makes no sense, such as text beyond the end of the input.
-/

namespace GrammarMachine

/-- Why a hold is not possible. -/
inductive HoldProblem where
  | notReturned
  | notNode
  | notNodeOrCover
  | nothingCompleted
  deriving DecidableEq

def HoldProblem.message : HoldProblem → String
  | .notReturned => "hold instructions must be returned from productions"
  | .notNode => "hold needs a node matcher"
  | .notNodeOrCover => "hold target must be a node or cover type"
  | .nothingCompleted => "there is no completed node to hold"

/-- The causes for which a parse stops. -/
inductive ParseError where
  /-- A goal names a language that cannot be reached. -/
  | unresolvableLanguage (base reference : String)
  /-- A language has no rule for a type. -/
  | unknownProduction (language nodeType : String)
  /-- A hold that is not possible. -/
  | invalidHold (target : String) (problem : HoldProblem)
  /-- Two goals on the way to one value name different slots. -/
  | conflictingSlots (outer inner : Slot)
  | tokenNotNode (nodeType : String)
  /-- The parse succeeded before the end of the input. -/
  | incomplete (consumed total : Nat)
  /-- A type that may not be empty matched nothing. -/
  | emptyMatch (nodeType : String)
  /-- A finished rule asked for something other than a write. -/
  | cleanupViolation (nodeType verb : String)
  /-- The root goal does not match. -/
  | failed (consumed : Nat)
  | namedRoot (name : String)
  /-- Too many rules are active at once. -/
  | depthExceeded (limit : Nat)
  | badPattern (source : String)
  deriving DecidableEq

namespace ParseError

def message : ParseError → String
  | .unresolvableLanguage base reference =>
      "Unresolvable language '" ++ reference ++ "' (from " ++ base ++ ")"
  | .unknownProduction language nodeType => "Unknown production " ++ nodeType ++ " in " ++ language
  | .invalidHold target problem => "Invalid hold for " ++ target ++ ": " ++ problem.message
  | .conflictingSlots outer inner =>
      "Double-specified path: '" ++ inner.display ++ "' conflicts with '" ++ outer.display ++ "'"
  | .tokenNotNode nodeType => "Token type " ++ nodeType ++ " must be a node"
  | .incomplete consumed total =>
      "Parse ate " ++ toString consumed ++ " of " ++ toString total ++
        " bytes but the input was not consumed"
  | .emptyMatch nodeType => "Empty match for non-emptyable type " ++ nodeType
  | .cleanupViolation nodeType verb =>
      "Finished production " ++ nodeType ++ " cannot act on \x7bverb: " ++ verb ++ "\x7d"
  | .failed consumed => "Parse failed after " ++ toString consumed ++ " bytes"
  | .namedRoot name => "Root matcher cannot carry a reference ('" ++ name ++ "')"
  | .depthExceeded limit => "Frame depth exceeded the limit of " ++ toString limit
  | .badPattern source => "Invalid pattern /" ++ source ++ "/: "

/-- Whether an enclosing rule may take the error for an ordinary failure. -/
def isRecoverable : ParseError → Bool
  | .emptyMatch _ => true
  | _ => false

end ParseError

/-- What was found broken. -/
inductive Fault where
  /-- A stretch of text that is not in the input, or that would split a character. -/
  | textOutOfBounds
  | endRecordedTwice
  /-- A rule entered although no frame is active. -/
  | noActiveFrame
  | framesLeft
  | branchesLeft
  deriving DecidableEq

end GrammarMachine
