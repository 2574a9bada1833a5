import GrammarMachine.ParseError

/-!
Joining the slots asked for along a chain of transparent rules. At most one name may be given; the
traits add up.
-/

namespace GrammarMachine.Slot

/-- The slot of a value for which an outer and an inner rule each ask for a slot. -/
def merge (outer inner : Slot) : Except ParseError Slot :=
  let traits := outer.traits.union inner.traits
  if outer.isAnonymous then .ok { inner with traits }
  else if inner.isAnonymous then .ok { outer with traits }
  else if outer.name = inner.name ∧ outer.isArray = inner.isArray then .ok { outer with traits }
  else .error (.conflictingSlots outer inner)

end GrammarMachine.Slot
