import GrammarMachine.Frame.Basic
import GrammarMachine.ParseError

/-!
The stack of frames. A tail call takes over the slot of its caller instead of growing the stack, so
the depth follows the nesting of the tree.
-/

namespace GrammarMachine

/-- Frames, the active one first, and how many there may be. -/
structure Stack (σ : Type) (n : Nat) where
  frames : List (Frame σ n) := []
  limit : Nat

namespace Stack

variable {σ : Type} {n : Nat}

def size (s : Stack σ n) : Nat :=
  s.frames.length

def top? (s : Stack σ n) : Option (Frame σ n) :=
  s.frames.head?

/-- The place of the active frame, counted from the outermost one. -/
def topPlace? (s : Stack σ n) : Option Nat :=
  if s.frames.isEmpty then none else some (s.size - 1)

/-- The frame at a place counted from the outermost one. -/
def get? (s : Stack σ n) (place : Nat) : Option (Frame σ n) :=
  s.frames.reverse[place]?

def modifyTop (s : Stack σ n) (f : Frame σ n → Frame σ n) : Stack σ n :=
  match s.frames with
  | top :: rest => { s with frames := f top :: rest }
  | [] => s

/-- Adds a frame as a child of the active one, unless there are too many. -/
def push (s : Stack σ n) (frame : Frame σ n) : Except ParseError (Stack σ n) :=
  if s.limit ≤ s.size then .error (.depthExceeded s.limit)
  else .ok { s with frames := { frame with parent := s.topPlace?, depth := s.size } :: s.frames }

def pop? (s : Stack σ n) : Option (Frame σ n × Stack σ n) :=
  match s.frames with
  | top :: rest => some (top, { s with frames := rest })
  | [] => none

/-- Puts a frame in the place of the active one. It takes over parent, depth, start, transaction and
policy, and may match nothing only if both may. The replaced frame is handed back. -/
def splice? (s : Stack σ n) (frame : Frame σ n) : Option (Frame σ n × Stack σ n) :=
  match s.frames with
  | top :: rest =>
      let frame := { frame with
        parent := top.parent
        depth := top.depth
        -- What the replaced rule has matched counts as matched by its successor.
        capture := { frame.capture with start := top.capture.start }
        branched := top.branched
        policy := top.policy
        allowEmpty := top.allowEmpty && frame.allowEmpty }
      some (top, { s with frames := frame :: rest })
  | [] => none

/-- Records a start in the first frames, up to one that has a start. -/
def recordStart (mark : Mark) : List (Frame σ n) → List (Frame σ n)
  | [] => []
  | frame :: rest =>
      match frame.capture.start with
      -- Frames below one that has a start have one as well.
      | some _ => frame :: rest
      | none =>
          let capture := { frame.capture with start := some mark }
          { frame with capture } :: recordStart mark rest

/-- Records the start of the active frame and of all frames below it that have none yet. -/
def startCapture (s : Stack σ n) (mark : Mark) : Stack σ n :=
  { s with frames := recordStart mark s.frames }

/-- Records the end of the active frame, and its start if it has none. -/
def endCapture (s : Stack σ n) (mark : Mark) : Except Fault (Option Capture × Stack σ n) :=
  match s.frames with
  | [] => .ok (none, s)
  | top :: rest =>
      match top.capture.stop with
      | some _ => .error .endRecordedTwice
      | none =>
          let capture := ⟨some (top.capture.start.getD mark), some mark⟩
          .ok (some capture, { s with frames := { top with capture } :: rest })

end Stack

end GrammarMachine
