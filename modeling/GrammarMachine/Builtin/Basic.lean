import GrammarMachine.Builtin.Arithmetic

/-!
The built-in languages by name.
-/

namespace GrammarMachine.Builtin

/-- Languages with the one to begin with and the goal for a whole input. -/
structure Document where
  size : Nat
  catalog : Catalog Automaton size
  language : Fin size
  goal : Goal

/-- The machine that reads a whole input. -/
def Document.machine (d : Document) (options : Options) : Machine Automaton d.size where
  catalog := d.catalog
  language := d.language
  goal := d.goal
  options := options

def names : List String :=
  ["arithmetic", "digits"]

/-- Numbers on their own. -/
def digits : Document where
  size := 1
  catalog := fun _ => Digits.language 1
  language := 0
  goal := Digits.document

/-- Arithmetic expressions, which depend on numbers. -/
def arithmetic : Document where
  size := 2
  catalog
    | 0 => Digits.language 2
    | 1 => Arithmetic.language 0
  language := 1
  goal := Arithmetic.document

def named? (name : String) : Option Document :=
  match name with
  | "arithmetic" => some arithmetic
  | "digits" => some digits
  | _ => none

end GrammarMachine.Builtin
