import GrammarMachine.Language.Basic

/-!
Frames: the rules in progress, with what each of them has captured so far.
-/

namespace GrammarMachine

/-- The range of a match in progress. Its start is recorded when something is written for it for the
first time, its end when it is completed. -/
structure Capture where
  start : Option Mark := none
  stop : Option Mark := none
  deriving DecidableEq

/-- Whether the match would cover nothing if it ended at a position. -/
def Capture.isEmptyAt (c : Capture) (position : Position) : Bool :=
  c.start.all (·.position = position)

/-- A rule in progress. -/
structure Frame (σ : Type) (n : Nat) where
  language : Fin n
  /-- The languages in which names are looked up, innermost first. -/
  scope : List (Fin n)
  nodeType : String
  isNode : Bool
  isCover : Bool
  policy : Policy
  production : Production σ
  /-- The number of the invocation that made the production. -/
  serial : Nat := 0
  capture : Capture := {}
  /-- The slot in which the result is stored, joined along transparent frames. -/
  slot : Slot
  parent : Option Nat := none
  depth : Nat := 0
  /-- Whether a transaction was opened for the frame. -/
  branched : Bool := false
  /-- Whether the production is done and only waits for its last instruction. -/
  returning : Bool := false
  allowEmpty : Bool

namespace Frame

variable {σ : Type} {n : Nat}

/-- Whether the frame is the outermost one. -/
def isFragment (f : Frame σ n) : Bool :=
  f.depth = 0

/-- Whether the frame hands its slot on to the node it will produce. -/
def isTransparent (f : Frame σ n) : Bool :=
  !f.isNode && !f.isFragment

end Frame

end GrammarMachine
