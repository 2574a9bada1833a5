import GrammarMachine.Instruction
import GrammarMachine.Source.Position

/-!
Productions: rules as procedures that are run one step at a time. Each step is given the value of
the instruction before it and asks for the next instruction or is done, handing back at most one
last instruction whose result becomes its own. When its frame is over, a production may ask for a
cleanup.
-/

namespace GrammarMachine

/-- What a rule is told when it is invoked. -/
structure Invocation where
  /-- The payload of the invoking instruction. -/
  value : Option Json
  cursor : Cursor
  /-- The address of the language of the rule. -/
  language : String
  nodeType : String
  attributes : Fields
  /-- The text recognized before the rule began. -/
  intrinsic : Option String
  /-- The attributes that the rule is expected to bind. -/
  unbound : List String

/-- What a production does at a step. -/
inductive Step where
  | yield (instruction : Instruction)
  | done (tail : Option Instruction)

/-- Procedures of any kind that can be run step by step. -/
class Stepper (σ : Type) where
  /-- One step at a cursor, given the value of the instruction before it. -/
  step : σ → Cursor → Option Extent → Step × σ
  /-- The instructions to be carried out when the procedure is given up. -/
  cleanup : σ → List Instruction

/-- A fixed row of instructions, and perhaps one that is handed back at the end. -/
structure Script where
  body : List Instruction
  tail : Option Instruction := none

/-- The next instruction of a script. Once the tail is handed back, it is gone. -/
def Script.step (s : Script) : Step × Script :=
  match s.body with
  | instruction :: rest => (.yield instruction, { s with body := rest })
  | [] => (.done s.tail, ⟨[], none⟩)

/-- A production is a script or any other procedure. -/
inductive Production (σ : Type) where
  | script (script : Script)
  | custom (state : σ)

namespace Production

variable {σ : Type} [Stepper σ]

def step (p : Production σ) (cursor : Cursor) (input : Option Extent) : Step × Production σ :=
  match p with
  | .script s => (s.step.1, .script s.step.2)
  | .custom s =>
      let (step, s) := Stepper.step s cursor input
      (step, .custom s)

def cleanup (p : Production σ) : List Instruction :=
  match p with
  | .script _ => []
  | .custom s => Stepper.cleanup s

end Production

/-- A rule makes a production for each invocation. -/
abbrev Rule (σ : Type) := Invocation → Production σ

namespace Rule

variable {σ : Type}

/-- The rule that runs a row of instructions. -/
def script (body : List Instruction) (tail : Option Instruction) : Rule σ :=
  fun _ => .script ⟨body, tail⟩

end Rule

end GrammarMachine
