import GrammarMachine.Frame.Stack
import GrammarMachine.Language.Index
import GrammarMachine.Tape.Basic

/-!
The machine: what it is set up with, the state of a run and the record it keeps of a run.
-/

namespace GrammarMachine

/-- Limits of a run. -/
structure Options where
  /-- How many frames may be active at once. -/
  maxDepth : Nat := 4096
  /-- Whether gaps of the input may be matched. -/
  allowGaps : Bool := true

/-- A machine: the languages, the one to begin with and the goal for the whole input. -/
structure Machine (σ : Type) (n : Nat) where
  catalog : Catalog σ n
  language : Fin n
  goal : Goal
  options : Options := {}

/-- The languages that the machine can reach. -/
def Machine.index {σ : Type} {n : Nat} (m : Machine σ n) : LanguageIndex n :=
  .ofRoot m.catalog m.language

/-- What happens in a run. Invocations of rules are numbered; the outermost production has number
zero. -/
inductive Event where
  /-- The tape was changed. -/
  | performed (act : Act)
  /-- A rule was invoked. -/
  | invoked (serial : Nat) (invocation : Invocation)
  /-- A production made a step. -/
  | stepped (serial : Nat) (nodeType : String) (cursor : Cursor) (input : Option Extent)
      (step : Step)
  /-- A production was given up. -/
  | finalized (serial : Nat) (nodeType : String) (cleanup : List Instruction)

/-- What the machine does next. -/
inductive Flow where
  /-- Step the active production with the value of its instruction. -/
  | resume (value : Option Extent)
  /-- Finish the active frame, which may have failed. -/
  | complete (failed : Bool)

/-- The state of a run. -/
structure Run (σ : Type) (n : Nat) (T : Type) where
  tape : T
  stack : Stack σ n
  flow : Flow := .resume none
  /-- The type that matched nothing, if the present failure began with one. -/
  emptied : Option String := none
  /-- What happened so far, the latest first. -/
  events : List Event := []
  /-- The number of productions made so far. -/
  productions : Nat := 0

/-- How a run ends. -/
inductive Outcome where
  /-- The whole input was matched. -/
  | accepted (extent : Extent)
  /-- The parse stopped. -/
  | rejected (error : ParseError)
  /-- An invariant was broken. -/
  | faulted (fault : Fault)

/-- The end of a run, with the state it left. -/
structure Halt (σ : Type) (n : Nat) (T : Type) where
  run : Run σ n T
  outcome : Outcome

namespace Run

variable {σ : Type} {n : Nat} {T : Type} [Tape T]

def halt {α : Type} (r : Run σ n T) (outcome : Outcome) : Except (Halt σ n T) α :=
  .error ⟨r, outcome⟩

def record (r : Run σ n T) (event : Event) : Run σ n T :=
  { r with events := event :: r.events }

def perform (r : Run σ n T) (act : Act) : Run σ n T :=
  { r with tape := Tape.perform act r.tape, events := .performed act :: r.events }

def emit (r : Run σ n T) (tags : List Tag) : Run σ n T :=
  tags.foldl (fun r tag => r.perform (.advance tag)) r

/-- Records the present mark as the start of the frames that have none. -/
def startCapture (r : Run σ n T) : Run σ n T :=
  { r with stack := r.stack.startCapture (Tape.mark r.tape) }

def cursor (r : Run σ n T) : Cursor :=
  Tape.cursor r.tape

/-- The end of a run that has no frame to go on with. -/
def haltWithoutFrame {α : Type} (r : Run σ n T) : Except (Halt σ n T) α :=
  r.halt (.rejected (.failed r.cursor.position.offset))

/-- The match from a mark to the last tag written, ending at a position. -/
def extentFrom (r : Run σ n T) (name : String) (start : Mark) (stop : Position) : Extent where
  name := name
  firstTag := start.tag
  lastTag := Tape.tagCount r.tape
  start := start.position
  stop := stop
  text := Tape.textBetween r.tape start.position stop

end Run

end GrammarMachine
