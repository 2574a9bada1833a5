import GrammarMachine.Production.Basic
import GrammarMachine.Text.Printable

/-!
Grammars as tables: rules by type, the node types, the cover types with the types they admit, the
types that may match nothing, and attributes by type.
-/

namespace GrammarMachine

/-- The tables of a grammar. Of two rules for one type the one defined last counts. -/
structure Grammar (σ : Type) where
  rules : List (String × Rule σ) := []
  nodes : List String := []
  covers : List (String × List String) := []
  emptyables : List String := []
  attributes : List (String × String × Json) := []
  unbound : List (String × String) := []

namespace Grammar

variable {σ : Type}

def node (g : Grammar σ) (nodeType : String) : Grammar σ :=
  { g with nodes := nodeType :: g.nodes }

/-- Declares a cover type and the types it admits. -/
def cover (g : Grammar σ) (name : String) (members : List String) : Grammar σ :=
  { g with covers := (name, members) :: g.covers }

/-- Permits a type to match nothing. -/
def emptyable (g : Grammar σ) (nodeType : String) : Grammar σ :=
  { g with emptyables := nodeType :: g.emptyables }

def define (g : Grammar σ) (nodeType : String) (rule : Rule σ) : Grammar σ :=
  { g with rules := (nodeType, rule) :: g.rules }

def withAttribute (g : Grammar σ) (nodeType key : String) (value : Json) : Grammar σ :=
  { g with attributes := g.attributes ++ [(nodeType, key, value)] }

/-- Expects the rule of a type to bind an attribute. -/
def expect (g : Grammar σ) (nodeType key : String) : Grammar σ :=
  { g with unbound := g.unbound ++ [(nodeType, key)] }

def isCover (g : Grammar σ) (nodeType : String) : Bool :=
  g.covers.any (·.1 = nodeType)

/-- Whether a type is a node type. Cover types are none, even if declared so. -/
def isNode (g : Grammar σ) (nodeType : String) : Bool :=
  g.nodes.contains nodeType && !g.isCover nodeType

def isEmptyable (g : Grammar σ) (nodeType : String) : Bool :=
  g.emptyables.contains nodeType

def rule? (g : Grammar σ) (nodeType : String) : Option (Rule σ) :=
  g.rules.lookup nodeType

/-- The attributes of the nodes of a type. -/
def attributesOf (g : Grammar σ) (nodeType : String) : Fields :=
  g.attributes.foldl (fun fields (type, key, value) =>
    if type = nodeType then Fields.insert key value fields else fields) []

/-- The attributes that the rule of a type is expected to bind, in the order they were declared. -/
def unboundOf (g : Grammar σ) (nodeType : String) : List String :=
  g.unbound.filterMap fun (type, key) => if type = nodeType then some key else none

/-- Adds a name to names in ascending order, unless it is there. -/
def insertName (name : String) : List String → List String
  | [] => [name]
  | first :: rest =>
      if name < first then name :: first :: rest
      else if name = first then first :: rest
      else first :: insertName name rest

/-- Names in ascending order, each one once and in quotes, between brackets. -/
def namesText (names : List String) : String :=
  "[" ++ String.intercalate ", " ((names.foldr insertName []).map Text.quoted) ++ "]"

def debug (g : Grammar σ) : String :=
  "Grammar \x7b productions: " ++ namesText (g.rules.map (·.1)) ++
    ", nodes: " ++ namesText g.nodes ++ ", covers: " ++ namesText (g.covers.map (·.1)) ++ " \x7d"

end Grammar

end GrammarMachine
