import GrammarMachine.Language.Grammar
import GrammarMachine.ParseError

/-!
Languages: a grammar with an address and named dependencies on other languages. The languages of a
parse form a catalog and are told apart by their place in it, since several may share an address.
-/

namespace GrammarMachine

/-- A language of a catalog of `n` languages. Dependencies are in ascending order of their names. -/
structure Language (σ : Type) (n : Nat) where
  url : String
  grammar : Grammar σ
  dependencies : List (String × Fin n) := []

namespace Language

variable {σ : Type} {n : Nat}

def dependency? (l : Language σ n) (name : String) : Option (Fin n) :=
  l.dependencies.lookup name

/-- The rule of a type, which must be there. -/
def production (l : Language σ n) (nodeType : String) : Except ParseError (Rule σ) :=
  match l.grammar.rule? nodeType with
  | some rule => .ok rule
  | none => .error (.unknownProduction l.url nodeType)

end Language

/-- The languages that can occur in a parse. -/
abbrev Catalog (σ : Type) (n : Nat) := Fin n → Language σ n

end GrammarMachine
