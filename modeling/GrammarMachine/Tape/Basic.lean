import GrammarMachine.ParseError
import GrammarMachine.Recognizer
import GrammarMachine.Source.Position
import GrammarMachine.Tag.Basic

/-!
Tapes: where the machine reads its input and writes its tags. The machine asks a tape for its state
and changes it only by acts, so every change of every tape is a value that can be recorded.
-/

namespace GrammarMachine

/-- A change of a tape. -/
inductive Act where
  /-- Names the root language. -/
  | init (language : String)
  /-- A rule begins at a depth. -/
  | startFrame (depth : Nat) (nodeType : String)
  /-- The rule at a depth is over. -/
  | endFrame (depth : Nat)
  /-- A tag is written; literals and gaps move the cursor. -/
  | advance (tag : Tag)
  /-- A transaction begins. -/
  | branch
  /-- The last transaction is kept. -/
  | accept
  /-- The last transaction is undone. -/
  | reject
  /-- A rule without a transaction of its own failed. -/
  | throw
  /-- A text goes to the side channel. -/
  | write (text : String) (options : Option Json)
  /-- A span opens. -/
  | openSpan (name : String)
  /-- The innermost span of a name closes. -/
  | closeSpan (name : String)
  /-- The innermost open node gets an attribute. -/
  | bind (key : String) (value : Json)

/-- What the machine needs of a tape. -/
class Tape (T : Type) where
  /-- Where the input is read. -/
  cursor : T → Cursor
  tagCount : T → Nat
  /-- The tag written last. -/
  lastTag? : T → Option Tag
  /-- The size of the input text in bytes. -/
  inputSize : T → Nat
  /-- The input text between two positions. -/
  textBetween : T → Position → Position → String
  /-- The text at the cursor that is recognized; nothing is consumed. -/
  recognize : T → Recognizer → Except Fault (Option String)
  /-- Whether the innermost open node has received a reference of the given name. -/
  hasReference : T → String → Bool
  /-- The number of open transactions. -/
  branchDepth : T → Nat
  /-- Changes the tape. -/
  perform : Act → T → T

namespace Tape

variable {T : Type} [Tape T]

/-- The present point of the tag stream and the input. -/
def mark (t : T) : Mark :=
  ⟨tagCount t, (cursor t).position⟩

end Tape

end GrammarMachine
