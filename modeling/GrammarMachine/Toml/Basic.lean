import GrammarMachine.Decimal.Binary64

/-!
Values of TOML documents. Points in time are kept as text.
-/

namespace GrammarMachine

open Decimal

/-- A value of a TOML document. -/
inductive Toml where
  | bool (value : Bool)
  | int (value : Int)
  | float (value : Binary64)
  | str (value : String)
  | array (items : List Toml)
  | table (fields : List (String × Toml))

namespace Toml

/-- How a table under construction came about, which decides what may still be added to it. -/
inductive Origin where
  /-- By its own header. -/
  | header
  /-- On the way to a table named by a header. -/
  | onTheWay
  /-- By a key with dots. -/
  | dotted
  deriving DecidableEq

/-- A part of a document under construction. -/
inductive Item where
  /-- A finished value. -/
  | value (value : Toml)
  /-- A table that can still grow. -/
  | table (origin : Origin) (fields : List (String × Item))
  /-- A row of tables, the last one first, of which the last one can still grow. -/
  | tables (earlier : List Toml) (fields : List (String × Item))

/-- Fields under construction. -/
abbrev Items := List (String × Item)

mutual

/-- The value of a finished part. -/
def Item.finish : Item → Toml
  | .value value => value
  | .table _ fields => .table (Items.finish fields)
  | .tables earlier fields => .array (.table (Items.finish fields) :: earlier).reverse

def Items.finish : List (String × Item) → List (String × Toml)
  | [] => []
  | (name, item) :: rest => (name, item.finish) :: Items.finish rest

end

namespace Items

/-- Replaces a field or adds it at the end. -/
def set (fields : Items) (name : String) (item : Item) : Items :=
  match fields with
  | [] => [(name, item)]
  | (other, old) :: rest =>
      if other = name then (name, item) :: rest else (other, old) :: set rest name item

/-- Adds a value under a path of names. The tables on the way must not have been named by a header,
the last of them must have been made by a key with dots, and the last name must be new. -/
def define (value : Toml) : List String → Items → Option Items
  | [], _ => none
  | [name], fields =>
      match fields.lookup name with
      | some _ => none
      | none => some (fields.set name (.value value))
  | name :: path, fields =>
      match fields.lookup name with
      | none => do return fields.set name (.table .dotted (← define value path []))
      | some (.table origin inner) =>
          if origin = .dotted ∨ (origin = .onTheWay ∧ path.length ≠ 1) then do
            return fields.set name (.table origin (← define value path inner))
          else none
      | some (.tables earlier inner) =>
          if path.length = 1 then none
          else do return fields.set name (.tables earlier (← define value path inner))
      | some (.value _) => none

/-- Changes the fields of the table at a path of names. Missing tables on the way are made; of a row
of tables the last one is meant. -/
def change (f : Items → Option Items) : List String → Items → Option Items
  | [], fields => f fields
  | name :: path, fields =>
      match fields.lookup name with
      | none => do return fields.set name (.table .onTheWay (← change f path []))
      | some (.table origin inner) => do
          return fields.set name (.table origin (← change f path inner))
      | some (.tables earlier inner) => do
          return fields.set name (.tables earlier (← change f path inner))
      | some (.value _) => none

/-- Names a table by a header, which may be done once. -/
def openTable (name : String) (fields : Items) : Option Items :=
  match fields.lookup name with
  | none => some (fields.set name (.table .header []))
  | some (.table .onTheWay inner) => some (fields.set name (.table .header inner))
  | some _ => none

/-- Adds a table to a row of tables. -/
def addTable (name : String) (fields : Items) : Option Items :=
  match fields.lookup name with
  | none => some (fields.set name (.tables [] []))
  | some (.tables earlier inner) =>
      some (fields.set name (.tables (.table (Items.finish inner) :: earlier) []))
  | some _ => none

end Items

end Toml

end GrammarMachine
