import GrammarMachine.Recognizer
import GrammarMachine.Tag.Basic

/-!
Goals: what one matching instruction tries to recognize, and the slot in which the result is stored.
-/

namespace GrammarMachine

/-- A node that is asked for. The language is relative to the current one or absolute; without one
the current language is meant. -/
structure NodeGoal where
  nodeType : String
  traits : NodeTraits := {}
  language : Option String := none
  intrinsic : Option Recognizer := none
  attributes : Fields := []

/-- The shapes of what is asked for. -/
inductive Form where
  | node (node : NodeGoal)
  | literal (text : String)
  | pattern (pattern : Pattern)
  | gap
  | null
  | array

/-- What is asked for, and where it is stored. -/
structure Goal where
  slot : Option Slot := none
  form : Form

namespace Goal

def node (nodeType : String) : Goal :=
  { form := .node { nodeType } }

/-- A token, whose text is recognized directly. -/
def token (nodeType : String) (intrinsic : Recognizer) : Goal :=
  { form := .node { nodeType, traits := { token := true }, intrinsic := some intrinsic } }

def literal (text : String) : Goal :=
  { form := .literal text }

def pattern (p : Pattern) : Goal :=
  { form := .pattern p }

def gap : Goal :=
  { form := .gap }

def null : Goal :=
  { form := .null }

def array : Goal :=
  { form := .array }

def named (g : Goal) (name : String) : Goal :=
  match g.slot with
  | some slot => { g with slot := some { slot with name } }
  | none => { g with slot := some { name } }

/-- Stores the result in the array slot of the given name. -/
def inArray (g : Goal) (name : String) : Goal :=
  let g := g.named name
  { g with slot := g.slot.map fun slot => { slot with isArray := true } }

def allowGap (g : Goal) : Goal :=
  let slot := g.slot.getD .anonymous
  { g with slot := some { slot with traits := { slot.traits with gappy := true } } }

/-- Marks the slot, if there is one, as an expression. -/
def asExpression (g : Goal) : Goal :=
  { g with slot := g.slot.map fun slot =>
      { slot with traits := { slot.traits with expression := true } } }

def mapNode (g : Goal) (f : NodeGoal → NodeGoal) : Goal :=
  match g.form with
  | .node n => { g with form := .node (f n) }
  | _ => g

def inLanguage (g : Goal) (language : String) : Goal :=
  g.mapNode fun n => { n with language := some language }

def withTraits (g : Goal) (traits : NodeTraits) : Goal :=
  g.mapNode fun n => { n with traits }

def withAttribute (g : Goal) (key : String) (value : Json) : Goal :=
  g.mapNode fun n => { n with attributes := n.attributes.insert key value }

/-- Recognizes the node's own text. -/
def withIntrinsic (g : Goal) (r : Recognizer) : Goal :=
  g.mapNode fun n => { n with intrinsic := some r }

def node? (g : Goal) : Option NodeGoal :=
  match g.form with
  | .node n => some n
  | _ => none

/-- The slot asked for; without one the anonymous slot. -/
def targetSlot (g : Goal) : Slot :=
  g.slot.getD .anonymous

/-- The recognizer of a goal that is raw text. -/
def recognizer? (g : Goal) : Option Recognizer :=
  match g.form with
  | .literal text => some (.literal text)
  | .pattern p => some (.pattern p)
  | _ => none

def formText : Form → String
  | .node n =>
      match n.language with
      | some language => "<" ++ language ++ ":" ++ n.nodeType ++ ">"
      | none => "<" ++ n.nodeType ++ ">"
  | .literal text => Text.quoted text
  | .pattern p => p.display
  | .gap => "<//>"
  | .null => "null"
  | .array => "[]"

def display (g : Goal) : String :=
  match g.slot with
  | some slot => slot.display ++ ": " ++ formText g.form
  | none => formText g.form

end Goal

end GrammarMachine
