import GrammarMachine.Machine.Plan

/-!
The loop of the machine. Each step runs the active production, or finishes the active frame and
hands its result to the frame below it. A failure finishes one frame after the other until one
absorbs it.
-/

namespace GrammarMachine

namespace Run

variable {σ : Type} {n : Nat} {T : Type} [Tape T] [Stepper σ]

/-- Gives up the production of a frame. Its cleanup may only write. -/
def finalize (r : Run σ n T) (frame : Frame σ n) : Except (Halt σ n T) (Run σ n T) :=
  let cleanup := frame.production.cleanup
  cleanup.foldlM (fun r instruction =>
    match instruction with
    | .write text options => .ok (r.perform (.write text options))
    | other => r.halt (.rejected (.cleanupViolation frame.nodeType other.verbName)))
    (r.record (.finalized frame.serial frame.nodeType cleanup))

/-- Puts the frame of an entry on the stack: in the place of the active frame, which is given up, or
above it, with a transaction of its own if it may have to be undone. -/
def pushEntry (r : Run σ n T) (e : Entry σ n) : Except (Halt σ n T) (Run σ n T) :=
  let frame := { e.frame with serial := r.productions }
  let r := { r with productions := r.productions + 1 }
  let r := r.record (.invoked frame.serial e.invocation)
  if e.replaces then
    match r.stack.splice? frame with
    -- The cleanup of the replaced production comes after the invocation of its successor.
    | some (replaced, stack) => Run.finalize { r with stack } replaced
    | none => .ok r
  else
    let r := if e.returns then
        { r with stack := r.stack.modifyTop fun top => { top with returning := true } }
      else r
    match r.stack.push frame with
    | .error error => r.halt (.rejected error)
    | .ok stack =>
        let r := { r with stack }
        if frame.policy.branches then
          let r := r.perform .branch
          .ok { r with stack := r.stack.modifyTop fun top => { top with branched := true } }
        else .ok r

/-- Enters a rule: its frame, the shift of the value it adopts and the opening of its node. -/
def enter (r : Run σ n T) (e : Entry σ n) : Except (Halt σ n T) (Run σ n T) := do
  let r ← r.pushEntry e
  match r.stack.topPlace? with
  | none => r.halt (.faulted .noActiveFrame)
  | some depth =>
      let r := r.perform (.startFrame depth e.frame.nodeType)
      -- The range begins with the shift, if a value is adopted.
      let r := match e.adopts with
        | some name => r.startCapture.emit [.shift name]
        | none => r
      let r := match e.opening with
        | some opening =>
            let r := r.startCapture
            r.emit (slotTags r.tape e.frame.slot ++ [opening])
        | none => r
      return { r with flow := .resume none }

/-- Writes the tags of a match in place, if it is kept, and makes its value. -/
def place (r : Run σ n T) (keeps : Bool) (tags : List Tag) (value : Option (String × Position)) :
    Run σ n T × Option Extent :=
  let start := Tape.mark r.tape
  let r := if keeps && !tags.isEmpty then r.startCapture.emit tags else r
  (r, value.map fun (name, stop) => r.extentFrom name start stop)

/-- Goes on with the value of an instruction. The value of a last instruction is that of its
production, which is then finished. -/
def continueWith (r : Run σ n T) (value : Option Extent) (tail : Bool) : Run σ n T :=
  { r with flow := if tail then .complete false else .resume value }

end Run

namespace Machine

variable {σ : Type} {n : Nat} {T : Type} [Tape T] [Stepper σ]

/-- Carries out a matching instruction. -/
def attempt (m : Machine σ n) (r : Run σ n T) (a : Attempt) (tail : Bool) :
    Except (Halt σ n T) (Run σ n T) :=
  match r.stack.top? with
  | none => r.haltWithoutFrame
  | some top =>
      match m.plan r.tape top a tail with
      | .error outcome => r.halt outcome
      | .ok (.miss emptied) =>
          -- An absorbed miss leaves its cause behind; every failure sets it anew.
          let r := { r with emptied }
          if a.verb.policy.absorbs then .ok (r.continueWith none tail)
          else .ok { r with flow := .complete true }
      | .ok (.place tags value) =>
          let (r, value) := r.place a.verb.policy.keeps tags value
          .ok (r.continueWith value tail)
      | .ok (.enter entry) => r.enter entry

def dispatch (m : Machine σ n) (r : Run σ n T) (instruction : Instruction) (tail : Bool) :
    Except (Halt σ n T) (Run σ n T) :=
  match instruction with
  | .attempt a => m.attempt r a tail
  | .fail => .ok { r with emptied := none, flow := .complete true }
  | .write text options => .ok ((r.perform (.write text options)).continueWith none tail)
  | .openSpan name => .ok ((r.perform (.openSpan name)).continueWith none tail)
  | .closeSpan name => .ok ((r.perform (.closeSpan name)).continueWith none tail)
  | .bind key value => .ok ((r.perform (.bind key value)).continueWith none tail)

/-- Steps the active production with a value. -/
def resume (m : Machine σ n) (r : Run σ n T) (value : Option Extent) :
    Except (Halt σ n T) (Run σ n T) :=
  match r.stack.top? with
  | none => r.haltWithoutFrame
  | some top =>
      let (step, production) := top.production.step r.cursor value
      let r := r.record (.stepped top.serial top.nodeType r.cursor value step)
      let r := { r with stack := r.stack.modifyTop fun top => { top with production } }
      match step with
      | .yield instruction => m.dispatch r instruction false
      | .done (some instruction) => m.dispatch r instruction true
      | .done none => .ok { r with flow := .complete false }

end Machine

namespace Run

variable {σ : Type} {n : Nat} {T : Type} [Tape T] [Stepper σ]

/-- Writes the closing tag of a frame and records its end. -/
def close (r : Run σ n T) (top : Frame σ n) : Except (Halt σ n T) (Run σ n T) :=
  let r := r.emit (if top.isNode then [.closeNode] else [])
  let r := r.emit (if top.isFragment then [.closeFragment] else [])
  match r.stack.endCapture (Tape.mark r.tape) with
  | .ok (_, stack) => .ok { r with stack }
  | .error fault => r.halt (.faulted fault)

/-- Settles the transaction of a finished frame. A failure without a transaction is only announced.
-/
def settle (r : Run σ n T) (frame : Frame σ n) (failing : Bool) : Run σ n T :=
  if frame.branched then
    r.perform (if failing || !frame.policy.keeps then .reject else .accept)
  else if failing then r.perform .throw
  else r

/-- The end of a run whose outermost frame is finished, given the offset before it was. -/
def conclude (r : Run σ n T) (value : Option Extent) (failing : Bool) (offset : Nat) : Outcome :=
  if r.stack.size ≠ 0 then .faulted .framesLeft
  else if Tape.branchDepth r.tape ≠ 0 then .faulted .branchesLeft
  else if failing then
    match r.emptied with
    | some nodeType => .rejected (.emptyMatch nodeType)
    | none => .rejected (.failed offset)
  else if !r.cursor.done then
    .rejected (.incomplete r.cursor.position.offset (Tape.inputSize r.tape))
  else
    match value with
    | some extent => .accepted extent
    | none => .rejected (.failed r.cursor.position.offset)

/-- Goes on below a finished frame. -/
def goOnBelow (r : Run σ n T) (frame : Frame σ n) (value : Option Extent) (failing : Bool) :
    Except (Halt σ n T) (Run σ n T) :=
  if failing && !frame.policy.absorbs then .ok { r with flow := .complete true }
  else
    match r.stack.top? with
    | none => r.haltWithoutFrame
    | some top => .ok { r with flow := if top.returning then .complete false else .resume value }

/-- The value of a finished frame: its range, unless it failed. -/
def valueOf (r : Run σ n T) (frame : Frame σ n) (failing : Bool) : Option Extent :=
  match failing, frame.capture.start, frame.capture.stop with
  | false, some start, some stop =>
      some {
        name := frame.slot.name
        firstTag := start.tag
        lastTag := stop.tag
        start := start.position
        stop := stop.position
        text := Tape.textBetween r.tape start.position stop.position }
  | _, _, _ => none

/-- Takes the active frame off the stack and hands its value on. -/
def leave (r : Run σ n T) (failing : Bool) (offset : Nat) : Except (Halt σ n T) (Run σ n T) :=
  match r.stack.pop? with
  | none => r.haltWithoutFrame
  | some (frame, stack) => do
      -- A match that is only looked at has a value, although its tags are undone below.
      let value := r.valueOf frame failing
      let r ← Run.finalize { r with stack } frame
      let r := (r.settle frame failing).perform (.endFrame frame.depth)
      if frame.parent.isNone then r.halt (r.conclude value failing offset)
      else r.goOnBelow frame value failing

/-- Finishes the active frame. A frame that matched nothing fails unless it may be empty. -/
def complete (r : Run σ n T) (failed : Bool) : Except (Halt σ n T) (Run σ n T) :=
  match r.stack.top? with
  | none => r.haltWithoutFrame
  | some top => do
      let position := r.cursor.position
      let emptied := !failed && top.capture.isEmptyAt position && !top.allowEmpty
      if emptied then Run.leave { r with emptied := some top.nodeType } true position.offset
      else if failed then r.leave true position.offset
      else (← r.close top).leave false position.offset

end Run

namespace Machine

variable {σ : Type} {n : Nat} {T : Type} [Tape T] [Stepper σ]

def step (m : Machine σ n) (r : Run σ n T) : Except (Halt σ n T) (Run σ n T) :=
  match r.flow with
  | .resume value => m.resume r value
  | .complete failed => r.complete failed

/-- Several steps of a run, fewer if it ends. -/
def steps (m : Machine σ n) : Nat → Run σ n T → Except (Halt σ n T) (Run σ n T)
  | 0, r => .ok r
  | count + 1, r =>
      match m.step r with
      | .ok r => m.steps count r
      | .error halt => .error halt

/-- The outermost frame, whose production asks once for the goal of the machine. -/
def fragmentFrame (m : Machine σ n) (props : Option Json) : Frame σ n where
  language := m.language
  scope := [m.language]
  nodeType := fragmentType
  isNode := false
  isCover := false
  policy := Verb.eat.policy
  production := .script ⟨[.attempt { verb := .eat, goal := .gap, props }], none⟩
  slot := .anonymous
  allowEmpty := true

/-- The state in which a run begins: the fragment is open and its production about to be stepped. -/
def start (m : Machine σ n) (tape : T) (props : Option Json) : Except (Halt σ n T) (Run σ n T) :=
  let r : Run σ n T := { tape, stack := { limit := m.options.maxDepth } }
  match m.goal.slot with
  | some slot => r.halt (.rejected (.namedRoot slot.name))
  | none =>
      let url := (m.catalog m.language).url
      let r := r.perform (.init url)
      match r.stack.push (m.fragmentFrame props) with
      | .error error => r.halt (.rejected error)
      | .ok stack =>
          let r := { r with stack, productions := 1 }
          let r := r.perform (.startFrame 0 fragmentType)
          -- The doctype stands before the range of the outermost frame.
          let r := r.emit [.doctype url []]
          .ok (r.startCapture.emit [.openFragment { gappy := m.options.allowGaps }])

/-- Runs the machine over a tape. The run may go on for ever, so it is given a number of steps and
is `none` if these do not suffice. -/
def run (m : Machine σ n) (tape : T) (props : Option Json) (fuel : Nat) : Option (Halt σ n T) :=
  match m.start tape props with
  | .error halt => some halt
  | .ok r =>
      match m.steps fuel r with
      | .error halt => some halt
      | .ok _ => none

end Machine

end GrammarMachine
