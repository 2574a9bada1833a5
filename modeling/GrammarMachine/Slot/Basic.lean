/-!
Slots: the named places of a node in which matched values are stored.
-/

namespace GrammarMachine

/-- What is known of a slot besides its name. -/
structure SlotTraits where
  expression : Bool := false
  gappy : Bool := false
  deriving DecidableEq

def SlotTraits.union (a b : SlotTraits) : SlotTraits :=
  ⟨a.expression || b.expression, a.gappy || b.gappy⟩

/-- A named place of a node. An array slot takes several values. -/
structure Slot where
  name : String
  isArray : Bool := false
  traits : SlotTraits := {}
  deriving DecidableEq

namespace Slot

/-- The name that stands for no name. -/
def anonymousName : String :=
  "."

/-- The slot of a value for which no name was given. -/
def anonymous : Slot :=
  { name := anonymousName }

def isAnonymous (s : Slot) : Bool :=
  s.name = anonymousName

def display (s : Slot) : String :=
  if s.isArray then s.name ++ "[]" else s.name

end Slot

end GrammarMachine
