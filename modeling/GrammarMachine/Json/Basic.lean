import GrammarMachine.Decimal.Binary64

/-!
JSON values. The fields of an object are kept in ascending order of their keys wherever the library
builds one from named parts, so two objects with the same fields are equal.
-/

namespace GrammarMachine

open Decimal

/-- A number is whole and exact or binary. -/
inductive Number where
  | whole (value : Int)
  | binary (value : Binary64)
  deriving DecidableEq

/-- The text of a number, with exponents written as asked. -/
def Number.textWith (sign : Decimal.Binary64.ExponentSign) : Number → String
  | .whole value => toString value
  | .binary value => value.text sign

/-- The text of a number; an exponent always has a sign. -/
def Number.text (n : Number) : String :=
  n.textWith .always

inductive Json where
  | null
  | bool (value : Bool)
  | num (value : Number)
  | str (value : String)
  | arr (items : List Json)
  | obj (fields : List (String × Json))

/-- Named values in ascending order of their names. -/
abbrev Fields := List (String × Json)

namespace Fields

/-- Sets a field, keeping the order of names. -/
def insert (key : String) (value : Json) : Fields → Fields
  | [] => [(key, value)]
  | (name, old) :: rest =>
      if key < name then (key, value) :: (name, old) :: rest
      else if name = key then (key, value) :: rest
      else (name, old) :: insert key value rest

/-- Sets a field unless it is there. -/
def insertNew (key : String) (value : Json) (fields : Fields) : Fields :=
  if (fields.lookup key).isSome then fields else fields.insert key value

/-- Adds every field of `others`, which win over those already there. -/
def merge (fields others : Fields) : Fields :=
  others.foldl (fun merged field => merged.insert field.1 field.2) fields

end Fields

namespace Json

def nat (n : Nat) : Json :=
  .num (.whole n)

/-- The value of a field of an object. A missing field and one of another kind of value read as
absent. -/
def field? (name : String) : Json → Option Json
  | .obj fields => fields.lookup name
  | _ => none

end Json

end GrammarMachine
