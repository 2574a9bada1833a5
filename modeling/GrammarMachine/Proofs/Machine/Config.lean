import GrammarMachine.Machine.Step
import GrammarMachine.Proofs.Draft.Extension
import GrammarMachine.Proofs.Machine.Plan

/-!
Runs without their record. How a run over a draft goes on depends neither on the events recorded nor
on the numbers of the productions. A configuration leaves them out, and `Machine.move` makes one
step of it; the steps of runs and the moves of configurations agree.
-/

namespace GrammarMachine

variable {σ : Type} {n : Nat}

section Moves

variable [Stepper σ]

/-- What decides how a run over a draft goes on. -/
structure Config (σ : Type) (n : Nat) where
  frames : List (Frame σ n)
  limit : Nat
  tape : Draft
  flow : Flow
  emptied : Option String

/-- A frame without the number of its production. -/
def Frame.bare (f : Frame σ n) : Frame σ n :=
  { f with serial := 0 }

/-- A run without its record. -/
def Run.config (r : Run σ n Draft) : Config σ n where
  frames := r.stack.frames.map Frame.bare
  limit := r.stack.limit
  tape := r.tape
  flow := r.flow
  emptied := r.emptied

omit [Stepper σ] in
theorem Run.config_cons {r : Run σ n Draft} {f : Frame σ n} {rest : List (Frame σ n)}
    (h : r.stack.frames = f :: rest) : r.config.frames = f.bare :: rest.map Frame.bare := by
  simp [config, h]

/-- What becomes of a configuration: it goes on, or the run ends with a tape and an outcome. -/
abbrev Result (σ : Type) (n : Nat) := Except (Draft × Outcome) (Config σ n)

/-- The result of a step of a run, without the record. -/
def Result.of : Except (Halt σ n Draft) (Run σ n Draft) → Result σ n
  | .ok r => .ok r.config
  | .error halt => .error (halt.run.tape, halt.outcome)

/-- Carries out a cleanup, up to the first instruction that is no write. -/
def Draft.clean (d : Draft) : List Instruction → Except (Draft × Instruction) Draft
  | [] => .ok d
  | .write text options :: rest => (d.perform (.write text options)).clean rest
  | other :: _ => .error (d, other)

/-- Gives up the production of a frame. -/
def Frame.finish (frame : Frame σ n) (d : Draft) : Except (Draft × Outcome) Draft :=
  match d.clean frame.production.cleanup with
  | .ok d => .ok d
  | .error (d, other) => .error (d, .rejected (.cleanupViolation frame.nodeType other.verbName))

/-- The tags with which a rule is entered: the shift of the value that is adopted, then the slot and
the opening of the node. -/
def Entry.tags (e : Entry σ n) (d : Draft) : List Tag :=
  let shift := e.adopts.toList.map Tag.shift
  shift ++ e.opening.toList.flatMap fun opening =>
    slotTags (d.advanceAll shift) e.frame.slot ++ [opening]

/-- The frames after tags have been written at a mark. -/
def captured (mark : Mark) (tags : List Tag) (frames : List (Frame σ n)) : List (Frame σ n) :=
  if tags.isEmpty then frames else Stack.recordStart mark frames

/-- The frame of an entry that stands above another frame and `below` more. -/
def Entry.pushed (e : Entry σ n) (below : Nat) : Frame σ n :=
  { e.frame with
    serial := 0
    parent := some below
    depth := below + 1
    branched := e.frame.policy.branches || e.frame.branched }

/-- The frame of an entry that stands in the place of another one. -/
def Entry.spliced (e : Entry σ n) (top : Frame σ n) : Frame σ n :=
  { e.frame with
    serial := 0
    parent := top.parent
    depth := top.depth
    capture := { e.frame.capture with start := top.capture.start }
    branched := top.branched
    policy := top.policy
    allowEmpty := top.allowEmpty && e.frame.allowEmpty }

def Draft.branchIf (wanted : Bool) (d : Draft) : Draft :=
  if wanted then d.perform .branch else d

namespace Config

def write (c : Config σ n) (tags : List Tag) : Config σ n :=
  { c with
    frames := captured (Tape.mark c.tape) tags c.frames
    tape := c.tape.advanceAll tags }

/-- Puts the frame of an entry on the stack: in the place of the frame `top` or above it. -/
def push (c : Config σ n) (top : Frame σ n) (rest : List (Frame σ n)) (e : Entry σ n) :
    Result σ n :=
  if e.replaces then
    match top.finish c.tape with
    | .error halt => .error halt
    | .ok tape => .ok { c with frames := e.spliced top :: rest, tape }
  else if c.limit ≤ rest.length + 1 then .error (c.tape, .rejected (.depthExceeded c.limit))
  else
    let below := { top with returning := e.returns || top.returning }
    .ok { c with
      frames := e.pushed rest.length :: below :: rest
      tape := c.tape.branchIf e.frame.policy.branches }

def enter (c : Config σ n) (top : Frame σ n) (rest : List (Frame σ n)) (e : Entry σ n) :
    Result σ n :=
  match c.push top rest e with
  | .error halt => .error halt
  | .ok c => .ok { c.write (e.tags c.tape) with flow := .resume none }

def next (value : Option Extent) (tail : Bool) : Flow :=
  if tail then .complete false else .resume value

end Config

namespace Machine

/-- Carries out a plan of the frame `top`. -/
def follow (c : Config σ n) (top : Frame σ n) (rest : List (Frame σ n)) (policy : Policy)
    (tail : Bool) : Plan σ n → Result σ n
  | .miss emptied =>
      .ok { c with
        emptied
        flow := if policy.absorbs then Config.next none tail else .complete true }
  | .place tags value =>
      let written := c.write (if policy.keeps then tags else [])
      let extent := value.map fun (name, stop) =>
        { name
          firstTag := c.tape.tags.size
          lastTag := written.tape.tags.size
          start := c.tape.position
          stop
          text := c.tape.textBetween c.tape.position stop }
      .ok { written with flow := Config.next extent tail }
  | .enter e => c.enter top rest e

def obey (m : Machine σ n) (c : Config σ n) (top : Frame σ n) (rest : List (Frame σ n))
    (instruction : Instruction) (tail : Bool) : Result σ n :=
  let quietly (act : Act) : Result σ n :=
    .ok { c with tape := c.tape.perform act, flow := Config.next none tail }
  match instruction with
  | .attempt a =>
      match m.plan c.tape top a tail with
      | .error outcome => .error (c.tape, outcome)
      | .ok plan => follow c top rest a.verb.policy tail plan
  | .fail => .ok { c with emptied := none, flow := .complete true }
  | .write text options => quietly (.write text options)
  | .openSpan name => quietly (.openSpan name)
  | .closeSpan name => quietly (.closeSpan name)
  | .bind key value => quietly (.bind key value)

def stepTop (m : Machine σ n) (c : Config σ n) (top : Frame σ n) (rest : List (Frame σ n))
    (value : Option Extent) : Result σ n :=
  let (step, production) := top.production.step c.tape.cursor value
  let top := { top with production }
  let c := { c with frames := top :: rest }
  match step with
  | .yield instruction => m.obey c top rest instruction false
  | .done (some instruction) => m.obey c top rest instruction true
  | .done none => .ok { c with flow := .complete false }

end Machine

namespace Frame

/-- Whether the frame fails when it is finished at a position. -/
def fails (f : Frame σ n) (failed : Bool) (position : Position) : Bool :=
  failed || f.capture.isEmptyAt position && !f.allowEmpty

def closing (f : Frame σ n) (failing : Bool) : List Tag :=
  if failing then []
  else (if f.isNode then [.closeNode] else []) ++ (if f.isFragment then [.closeFragment] else [])

def settle (f : Frame σ n) (failing : Bool) (d : Draft) : Draft :=
  if f.branched then d.perform (if failing || !f.policy.keeps then .reject else .accept) else d

/-- The value of the frame, if it is finished with a draft. -/
def valueAt (f : Frame σ n) (failing : Bool) (d : Draft) : Option Extent :=
  if failing then none
  else
    let start := f.capture.start.getD (Tape.mark d)
    some {
      name := f.slot.name
      firstTag := start.tag
      lastTag := d.tags.size
      start := start.position
      stop := d.position
      text := d.textBetween start.position d.position }

end Frame

namespace Config

/-- The outcome of a run whose outermost frame is finished. -/
def conclude (d : Draft) (left : Nat) (value : Option Extent) (failing : Bool)
    (emptied : Option String) (offset : Nat) : Outcome :=
  if left ≠ 0 then .faulted .framesLeft
  else if d.branches.length ≠ 0 then .faulted .branchesLeft
  else if failing then
    match emptied with
    | some nodeType => .rejected (.emptyMatch nodeType)
    | none => .rejected (.failed offset)
  else if !d.cursor.done then .rejected (.incomplete d.position.offset d.source.size)
  else
    match value with
    | some extent => .accepted extent
    | none => .rejected (.failed d.position.offset)

/-- Goes on below a finished frame. -/
def resumeBelow (c : Config σ n) (frame : Frame σ n) (value : Option Extent) (failing : Bool) :
    Result σ n :=
  if failing && !frame.policy.absorbs then .ok { c with flow := .complete true }
  else
    match c.frames with
    | [] => .error (c.tape, .rejected (.failed c.tape.position.offset))
    | top :: _ => .ok { c with flow := if top.returning then .complete false else .resume value }

/-- Finishes the frame `top`. -/
def finishTop (c : Config σ n) (top : Frame σ n) (rest : List (Frame σ n)) (failed : Bool) :
    Result σ n :=
  let failing := top.fails failed c.tape.position
  let emptied := if failing && !failed then some top.nodeType else c.emptied
  let closed := c.tape.advanceAll (top.closing failing)
  if !failing && top.capture.stop.isSome then .error (closed, .faulted .endRecordedTwice)
  else
    match top.finish closed with
    | .error halt => .error halt
    | .ok cleaned =>
        let tape := top.settle failing cleaned
        let value := top.valueAt failing closed
        if top.parent.isNone then
          .error (tape, conclude tape rest.length value failing emptied c.tape.position.offset)
        else resumeBelow { c with frames := rest, tape, emptied } top value failing

end Config

/-- One move of a configuration. -/
def Machine.move (m : Machine σ n) (c : Config σ n) : Result σ n :=
  match c.frames with
  | [] => .error (c.tape, .rejected (.failed c.tape.position.offset))
  | top :: rest =>
      match c.flow with
      | .resume value => m.stepTop c top rest value
      | .complete failed => c.finishTop top rest failed

/-- Several moves of a configuration, fewer if the run ends. -/
def Machine.moves (m : Machine σ n) : Nat → Config σ n → Result σ n
  | 0, c => .ok c
  | count + 1, c =>
      match m.move c with
      | .ok c => m.moves count c
      | .error halt => .error halt

end Moves

/-- A plan looks only at the scope, the kind and the slot of the active frame. -/
theorem Machine.plan_congr {T : Type} [Tape T] (m : Machine σ n) (tape : T) {f g : Frame σ n}
    (hscope : f.scope = g.scope) (hnode : f.isNode = g.isNode)
    (hfragment : f.isFragment = g.isFragment) (hslot : f.slot = g.slot) (a : Attempt)
    (tail : Bool) : m.plan tape f a tail = m.plan tape g a tail := by
  have htransparent : f.isTransparent = g.isTransparent := by
    simp [Frame.isTransparent, hnode, hfragment]
  have hslotFor : f.slotFor = g.slotFor := by
    funext own
    simp [Frame.slotFor, htransparent, hslot]
  have hscopeFor : f.scopeFor = g.scopeFor := by
    funext language isNode
    simp [Frame.scopeFor, hscope]
  simp only [plan, planNull, planArray, planGap, planNode, planEntry, hfragment, htransparent,
    hslotFor, hscopeFor, hscope, hslot]

theorem Stack.recordStart_recordStart (mark mark' : Mark) (frames : List (Frame σ n)) :
    recordStart mark' (recordStart mark frames) = recordStart mark frames := by
  rcases frames with _ | ⟨f, rest⟩
  · rfl
  · rcases hstart : f.capture.start with _ | start <;> simp [recordStart, hstart]

/-- What leaves the starts of frames alone may be done before or after one is recorded. -/
theorem Stack.map_recordStart {g : Frame σ n → Frame σ n}
    (hg : ∀ (f : Frame σ n) (start : Option Mark),
      g { f with capture := { f.capture with start } } =
        { g f with capture := { (g f).capture with start } })
    (mark : Mark) (frames : List (Frame σ n)) :
    (recordStart mark frames).map g = recordStart mark (frames.map g) := by
  induction frames with
  | nil => rfl
  | cons f rest ih =>
      have hsame : (g f).capture.start = f.capture.start :=
        congrArg (·.capture.start) (hg f f.capture.start)
      rcases hstart : f.capture.start with _ | start
      · simp only [recordStart, hstart, List.map_cons, hsame, ih]
        exact congrArg (· :: _) (hg f (some mark))
      · simp only [recordStart, hstart, List.map_cons, hsame]

theorem Config.write_append (c : Config σ n) (tags more : List Tag) :
    c.write (tags ++ more) = (c.write tags).write more := by
  rcases tags with _ | ⟨tag, tags⟩
  · simp [Config.write, captured]
  · rcases more with _ | ⟨next, more⟩
    · simp [Config.write, captured]
    · simp [Config.write, captured, Stack.recordStart_recordStart, Draft.advanceAll_append]

namespace Run

theorem emit_eq (r : Run σ n Draft) (tags : List Tag) :
    ∃ events, r.emit tags = { r with tape := r.tape.advanceAll tags, events } := by
  induction tags generalizing r with
  | nil => exact ⟨r.events, rfl⟩
  | cons tag tags ih => exact ih (r.perform (.advance tag))

theorem config_emit (r : Run σ n Draft) (tags : List Tag) :
    (r.emit tags).config = { r.config with tape := r.tape.advanceAll tags } := by
  obtain ⟨events, h⟩ := r.emit_eq tags
  rw [h]
  rfl

theorem config_startCapture_emit (r : Run σ n Draft) {tags : List Tag} (h : tags ≠ []) :
    (r.startCapture.emit tags).config = r.config.write tags := by
  rw [config_emit]
  simp only [startCapture, Stack.startCapture, config, Config.write, captured,
    Stack.map_recordStart (g := Frame.bare) fun _ _ => rfl, List.isEmpty_eq_false_iff.mpr h]
  rfl

theorem config_open (r : Run σ n Draft) (e : Entry σ n) :
    (let r := match e.adopts with
        | some name => r.startCapture.emit [.shift name]
        | none => r
      let r := match e.opening with
        | some opening =>
            let r := r.startCapture
            r.emit (slotTags r.tape e.frame.slot ++ [opening])
        | none => r
      r).config = r.config.write (e.tags r.tape) := by
  rcases hadopts : e.adopts with _ | name <;> rcases hopening : e.opening with _ | opening
  · simp [Entry.tags, hadopts, hopening, Config.write, captured]
  · simp only [Entry.tags, hadopts, hopening, Option.toList_none, Option.toList_some,
      List.map_nil, List.nil_append, List.flatMap_singleton, Draft.advanceAll_nil]
    exact config_startCapture_emit r (by simp)
  · simp only [Entry.tags, hadopts, hopening, Option.toList_none, Option.toList_some,
      List.flatMap_nil, List.append_nil, List.map_cons, List.map_nil]
    exact config_startCapture_emit r (by simp)
  · -- The frame is started by the shift, so the opening starts it no more.
    simp only [Entry.tags, hadopts, hopening, Option.toList_some, List.map_cons, List.map_nil,
      List.flatMap_singleton]
    have hshift := config_startCapture_emit r (show [Tag.shift name] ≠ [] by simp)
    have htape : (r.startCapture.emit [.shift name]).tape = r.tape.advanceAll [.shift name] := rfl
    generalize r.startCapture.emit [.shift name] = r' at hshift htape
    have hopen := config_startCapture_emit r'
      (show slotTags r'.tape e.frame.slot ++ [opening] ≠ [] by simp)
    have htape' : r'.startCapture.tape = r'.tape := rfl
    rw [htape', hopen, hshift, htape]
    exact (Config.write_append r.config _ _).symm

theorem config_place (r : Run σ n Draft) (keeps : Bool) (tags : List Tag)
    (value : Option (String × Position)) :
    (r.place keeps tags value).1.config = r.config.write (if keeps then tags else []) ∧
      (r.place keeps tags value).2 = value.map fun (name, stop) =>
        { name
          firstTag := r.tape.tags.size
          lastTag := (r.place keeps tags value).1.tape.tags.size
          start := r.tape.position
          stop
          text := r.tape.textBetween r.tape.position stop } := by
  have hconfig : (r.place keeps tags value).1.config =
      r.config.write (if keeps then tags else []) := by
    simp only [place]
    by_cases hwrites : (keeps && !tags.isEmpty) = true
    · obtain ⟨hkeeps, htags⟩ := Bool.and_eq_true_iff.mp hwrites
      rw [if_pos hwrites, if_pos hkeeps]
      exact config_startCapture_emit r (by simpa using htags)
    · rw [if_neg hwrites]
      rcases keeps with _ | _
      · rfl
      · obtain rfl : tags = [] := by simpa using hwrites
        rfl
  refine ⟨hconfig, ?_⟩
  have hsource : (r.place keeps tags value).1.tape.source = r.tape.source := by
    rw [show (r.place keeps tags value).1.tape = _ from congrArg Config.tape hconfig]
    exact Draft.advanceAll_source _ _
  have htext : ∀ start stop, (r.place keeps tags value).1.tape.textBetween start stop =
      r.tape.textBetween start stop := by
    intro start stop
    simp only [Draft.textBetween, hsource]
  rcases value with _ | ⟨name, stop⟩
  · rfl
  · simp only [Option.map_some, ← htext]
    rfl

/-- A cleanup, instruction by instruction. The record differs from round to round, so that this is
about any run. -/
theorem config_cleanup (nodeType : String) (cleanup : List Instruction) (r : Run σ n Draft) :
    Result.of (cleanup.foldlM (fun r instruction =>
      match instruction with
      | .write text options => .ok (r.perform (.write text options))
      | other => r.halt (.rejected (.cleanupViolation nodeType other.verbName))) r) =
    match (match r.tape.clean cleanup with
      | .ok d => .ok d
      | .error (d, other) => .error (d, .rejected (.cleanupViolation nodeType other.verbName)) :
        Except (Draft × Outcome) Draft) with
    | .ok tape => .ok { r.config with tape }
    | .error halt => .error halt := by
  induction cleanup generalizing r with
  | nil => rfl
  | cons instruction rest ih =>
      cases instruction with
      | write text options => exact ih (r.perform (.write text options))
      | attempt => rfl
      | fail => rfl
      | openSpan => rfl
      | closeSpan => rfl
      | bind => rfl

variable [Stepper σ]

theorem config_finalize (r : Run σ n Draft) (frame : Frame σ n) :
    Result.of (r.finalize frame) =
      match frame.finish r.tape with
      | .ok tape => .ok { r.config with tape }
      | .error halt => .error halt := by
  unfold finalize Frame.finish
  exact config_cleanup frame.nodeType frame.production.cleanup
    (r.record (.finalized frame.serial frame.nodeType frame.production.cleanup))

theorem config_pushEntry (r : Run σ n Draft) (e : Entry σ n) {top : Frame σ n}
    {rest : List (Frame σ n)} (hframes : r.stack.frames = top :: rest) :
    Result.of (r.pushEntry e) = r.config.push top.bare (rest.map Frame.bare) e := by
  unfold pushEntry Config.push
  by_cases hreplaces : e.replaces = true
  · simp only [hreplaces, if_true, record, hframes, Stack.splice?]
    rw [config_finalize]
    have hfinish : top.bare.finish r.config.tape = top.finish r.tape := rfl
    rw [hfinish]
    dsimp only
    cases top.finish r.tape <;> rfl
  · simp only [hreplaces, Bool.false_eq_true, if_false, record, config, List.length_map]
    have hreturns : (if e.returns = true then
          ({ r with
            productions := r.productions + 1
            events := .invoked r.productions e.invocation :: r.events
            stack := r.stack.modifyTop fun top => { top with returning := true } } : Run σ n Draft)
        else
          { r with
            productions := r.productions + 1
            events := .invoked r.productions e.invocation :: r.events }) =
        { r with
          productions := r.productions + 1
          events := .invoked r.productions e.invocation :: r.events
          stack := ⟨{ top with returning := e.returns || top.returning } :: rest,
            r.stack.limit⟩ } := by
      rcases r with ⟨tape, ⟨frames, limit⟩, flow, emptied, events, productions⟩
      cases hframes
      cases e.returns <;> rfl
    simp only [hreturns]
    by_cases hlimit : r.stack.limit ≤ rest.length + 1
    · simp [Stack.push, Stack.size, hlimit, Result.of, halt]
    · simp only [Stack.push, Stack.size, List.length_cons, hlimit, if_false]
      cases hbranches : e.frame.policy.branches
      · simp [Result.of, config, Entry.pushed, Frame.bare, Stack.topPlace?, Stack.size,
          Draft.branchIf, hbranches]
      · simp [Result.of, config, Entry.pushed, Frame.bare, Stack.topPlace?, Stack.size,
          Draft.branchIf, hbranches, perform, Stack.modifyTop]
        rfl

theorem frames_of_push {c c' : Config σ n} {top : Frame σ n} {rest : List (Frame σ n)}
    {e : Entry σ n} (h : c.push top rest e = .ok c') : ∃ f below, c'.frames = f :: below := by
  unfold Config.push at h
  repeat' split at h
  all_goals cases h
  all_goals exact ⟨_, _, rfl⟩

theorem config_enter (r : Run σ n Draft) (e : Entry σ n) {top : Frame σ n}
    {rest : List (Frame σ n)} (hframes : r.stack.frames = top :: rest) :
    Result.of (r.enter e) = r.config.enter top.bare (rest.map Frame.bare) e := by
  have hpush := config_pushEntry r e hframes
  unfold enter Config.enter
  rcases hr : r.pushEntry e with halt | r'
  · rw [hr] at hpush
    rw [← hpush]
    rfl
  · rw [hr] at hpush
    rw [← hpush]
    obtain ⟨depth, hdepth⟩ : ∃ depth, r'.stack.topPlace? = some depth := by
      obtain ⟨f, below, hpushed⟩ := frames_of_push hpush.symm
      rcases hr' : r'.stack.frames with _ | ⟨g, rest'⟩
      · simp [config, hr'] at hpushed
      · exact ⟨rest'.length, by simp [Stack.topPlace?, Stack.size, hr']⟩
    have h := config_open (r'.perform (.startFrame depth e.frame.nodeType)) e
    simp only [bind, Except.bind, hdepth, Result.of, pure, Except.pure]
    exact congrArg (fun c : Config σ n => Except.ok { c with flow := .resume none }) h

end Run

namespace Machine

theorem plan_bare (m : Machine σ n) (d : Draft) (top : Frame σ n) (a : Attempt) (tail : Bool) :
    m.plan d top.bare a tail = m.plan d top a tail :=
  m.plan_congr d rfl rfl rfl rfl a tail

/-- The configuration in which runs over an input begin. -/
def initial (m : Machine σ n) (source : Source) (props : Option Json) : Config σ n :=
  let url := (m.catalog m.language).url
  { frames := [{ m.fragmentFrame props with capture := ⟨some ⟨1, {}⟩, none⟩ }]
    limit := m.options.maxDepth
    tape := ({ Draft.fresh source with language := some url } : Draft).advanceAll
      [.doctype url [], .openFragment { gappy := m.options.allowGaps }]
    flow := .resume none
    emptied := none }

/-- A run over an input begins in the initial configuration, unless the goal names a slot or no
frame is allowed. -/
theorem start_eq (m : Machine σ n) (source : Source) (props : Option Json) :
    match m.goal.slot with
    | some slot => ∃ r, m.start (Draft.fresh source) props =
        .error ⟨r, .rejected (.namedRoot slot.name)⟩
    | none =>
        if m.options.maxDepth = 0 then
          ∃ r, m.start (Draft.fresh source) props = .error ⟨r, .rejected (.depthExceeded 0)⟩
        else
          ∃ r, m.start (Draft.fresh source) props = .ok r ∧ r.config = m.initial source props := by
  unfold start
  rcases m.goal.slot with _ | slot
  · dsimp only
    split
    · rename_i hdepth
      simp [Stack.push, Stack.size, Run.perform, hdepth, Run.halt]
    · rename_i hdepth
      have hlimit : ¬ m.options.maxDepth ≤ 0 := by omega
      have hpush : (⟨[], m.options.maxDepth⟩ : Stack σ n).push (m.fragmentFrame props) =
          .ok ⟨[m.fragmentFrame props], m.options.maxDepth⟩ :=
        if_neg hlimit
      simp only [Run.perform, hpush]
      exact ⟨_, rfl, rfl⟩
  · exact ⟨_, rfl⟩

variable [Stepper σ]

theorem config_attempt (m : Machine σ n) (r : Run σ n Draft) (a : Attempt) (tail : Bool)
    {top : Frame σ n} {rest : List (Frame σ n)} (hframes : r.stack.frames = top :: rest) :
    Result.of (m.attempt r a tail) =
      m.obey r.config top.bare (rest.map Frame.bare) (.attempt a) tail := by
  have htop : r.stack.top? = some top := by simp [Stack.top?, hframes]
  have htape : r.config.tape = r.tape := rfl
  simp only [attempt, htop, obey, plan_bare, htape]
  rcases m.plan r.tape top a tail with outcome | ⟨emptied⟩ | ⟨tags, value⟩ | e
  · rfl
  · simp only [follow]
    cases a.verb.policy.absorbs <;> rfl
  · have hplaced := r.config_place a.verb.policy.keeps tags value
    obtain ⟨hconfig, hvalue⟩ := hplaced
    rcases hplace : r.place a.verb.policy.keeps tags value with ⟨r', value'⟩
    simp only [hplace] at hconfig hvalue
    simp only [follow, ← hconfig, hplace, Result.of, Except.ok.injEq]
    change ({ r'.config with flow := Config.next value' tail } : Config σ n) = _
    rw [hvalue]
    rfl
  · exact r.config_enter e hframes

theorem config_dispatch (m : Machine σ n) (r : Run σ n Draft) (instruction : Instruction)
    (tail : Bool) {top : Frame σ n} {rest : List (Frame σ n)}
    (hframes : r.stack.frames = top :: rest) :
    Result.of (m.dispatch r instruction tail) =
      m.obey r.config top.bare (rest.map Frame.bare) instruction tail := by
  cases instruction with
  | attempt a => exact m.config_attempt r a tail hframes
  | fail => rfl
  | write text options => rfl
  | openSpan name => rfl
  | closeSpan name => rfl
  | bind key value => rfl

theorem config_resume (m : Machine σ n) (r : Run σ n Draft) (value : Option Extent)
    {top : Frame σ n} {rest : List (Frame σ n)} (hframes : r.stack.frames = top :: rest) :
    Result.of (m.resume r value) = m.stepTop r.config top.bare (rest.map Frame.bare) value := by
  rcases r with ⟨tape, ⟨frames, limit⟩, flow, emptied, events, productions⟩
  cases hframes
  simp only [resume, Stack.top?, List.head?_cons, stepTop]
  rcases hstep : top.production.step tape.cursor value with ⟨step, production⟩
  have hbare : top.bare.production.step tape.cursor value = (step, production) := hstep
  have hcursor : Tape.cursor tape = tape.cursor := rfl
  simp only [Run.cursor, Run.config, hcursor, hstep, hbare]
  rcases step with instruction | _ | instruction
  · exact @config_dispatch σ n _ m _ instruction false { top with production } rest rfl
  · rfl
  · exact @config_dispatch σ n _ m _ instruction true { top with production } rest rfl

end Machine

namespace Run

theorem config_settle (r : Run σ n Draft) (frame : Frame σ n) (failing : Bool) :
    (r.settle frame failing).config =
      { r.config with tape := frame.settle failing r.tape } := by
  unfold settle Frame.settle
  cases frame.branched
  · cases failing <;> rfl
  · rfl

theorem config_conclude (r : Run σ n Draft) (value : Option Extent) (failing : Bool)
    (offset : Nat) :
    r.conclude value failing offset =
      Config.conclude r.tape r.config.frames.length value failing r.emptied offset := by
  have hsize : r.stack.size = r.config.frames.length := by simp [config, Stack.size]
  unfold conclude Config.conclude
  rw [hsize]
  rfl

theorem config_goOnBelow (r : Run σ n Draft) (frame : Frame σ n) (value : Option Extent)
    (failing : Bool) :
    Result.of (r.goOnBelow frame value failing) =
      r.config.resumeBelow frame.bare value failing := by
  rcases r with ⟨tape, ⟨frames, limit⟩, flow, emptied, events, productions⟩
  unfold goOnBelow Config.resumeBelow
  cases hcascade : (failing && !frame.policy.absorbs)
  · have hbare : (failing && !frame.bare.policy.absorbs) = false := hcascade
    rw [hbare]
    rcases frames with _ | ⟨top, rest⟩ <;> rfl
  · have hbare : (failing && !frame.bare.policy.absorbs) = true := hcascade
    rw [hbare]
    rfl

theorem close_eq (r : Run σ n Draft) {top : Frame σ n} {rest : List (Frame σ n)}
    (hframes : r.stack.frames = top :: rest) :
    ∃ events,
      let closed := r.tape.advanceAll (top.closing false)
      let mark := Tape.mark closed
      r.close top =
        if top.capture.stop.isSome then
          .error ⟨{ r with tape := closed, events }, .faulted .endRecordedTwice⟩
        else
          .ok { r with
            tape := closed
            events
            stack := ⟨{ top with
              capture := ⟨some (top.capture.start.getD mark), some mark⟩ } :: rest,
              r.stack.limit⟩ } := by
  rcases r with ⟨tape, ⟨frames, limit⟩, flow, emptied, events, productions⟩
  cases hframes
  obtain ⟨events₁, h₁⟩ := emit_eq
    (⟨tape, ⟨top :: rest, limit⟩, flow, emptied, events, productions⟩ : Run σ n Draft)
    (if top.isNode then [.closeNode] else [])
  obtain ⟨events₂, h₂⟩ := emit_eq
    (⟨tape.advanceAll (if top.isNode then [.closeNode] else []), ⟨top :: rest, limit⟩, flow,
      emptied, events₁, productions⟩ : Run σ n Draft)
    (if top.isFragment then [.closeFragment] else [])
  have hclosed : (tape.advanceAll (if top.isNode then [.closeNode] else [])).advanceAll
      (if top.isFragment then [.closeFragment] else []) = tape.advanceAll (top.closing false) := by
    simp only [Frame.closing, Bool.false_eq_true, if_false, Draft.advanceAll_append]
  refine ⟨events₂, ?_⟩
  simp only [close, h₁, h₂, hclosed, Stack.endCapture]
  rcases top.capture.stop with _ | stop <;> rfl

variable [Stepper σ]

theorem config_leave (r : Run σ n Draft) (failing : Bool) (offset : Nat) {top : Frame σ n}
    {rest : List (Frame σ n)} (hframes : r.stack.frames = top :: rest) :
    Result.of (r.leave failing offset) =
      match top.finish r.tape with
      | .error halt => .error halt
      | .ok cleaned =>
          let tape := top.settle failing cleaned
          let value := r.valueOf top failing
          if top.parent.isNone then
            .error (tape, Config.conclude tape rest.length value failing r.emptied offset)
          else
            Config.resumeBelow { r.config with frames := rest.map Frame.bare, tape } top.bare value
              failing := by
  rcases r with ⟨tape, ⟨frames, limit⟩, flow, emptied, events, productions⟩
  cases hframes
  have hfinalize := config_finalize
    (⟨tape, ⟨rest, limit⟩, flow, emptied, events, productions⟩ : Run σ n Draft) top
  simp only [leave, Stack.pop?]
  generalize (⟨tape, ⟨top :: rest, limit⟩, flow, emptied, events, productions⟩ :
    Run σ n Draft).valueOf top failing = value
  rcases hr : Run.finalize
    (⟨tape, ⟨rest, limit⟩, flow, emptied, events, productions⟩ : Run σ n Draft) top with halt | r'
  · rw [hr] at hfinalize
    rcases hfinish : top.finish tape with halt' | cleaned
    · simp only [hfinish] at hfinalize
      exact hfinalize
    · simp [hfinish, Result.of] at hfinalize
  · rw [hr] at hfinalize
    rcases hfinish : top.finish tape with halt' | cleaned
    · simp [hfinish, Result.of] at hfinalize
    · simp only [hfinish, Result.of, Except.ok.injEq] at hfinalize
      have htape : r'.tape = cleaned := congrArg Config.tape hfinalize
      have hleft : ((r'.settle top failing).perform (.endFrame top.depth)).config =
          ⟨rest.map Frame.bare, limit, top.settle failing cleaned, flow, emptied⟩ := by
        have hsettle := config_settle r' top failing
        rw [hfinalize, htape] at hsettle
        exact hsettle
      simp only [bind, Except.bind]
      generalize (r'.settle top failing).perform (.endFrame top.depth) = left at hleft ⊢
      split
      · have htape' : left.tape = top.settle failing cleaned := congrArg Config.tape hleft
        have hemptied : left.emptied = emptied := congrArg Config.emptied hleft
        simp only [halt, Result.of, config_conclude, hleft, htape', hemptied, List.length_map]
      · rw [config_goOnBelow, hleft]
        rfl

theorem config_complete (r : Run σ n Draft) (failed : Bool) {top : Frame σ n}
    {rest : List (Frame σ n)} (hframes : r.stack.frames = top :: rest) :
    Result.of (r.complete failed) =
      r.config.finishTop top.bare (rest.map Frame.bare) failed := by
  have htop : r.stack.top? = some top := by simp [Stack.top?, hframes]
  simp only [complete, htop]
  rcases failed with _ | _
  · cases hempty : (top.capture.isEmptyAt r.cursor.position && !top.allowEmpty)
    · have hfails : top.bare.fails false r.config.tape.position = false := hempty
      obtain ⟨events, hclose⟩ := r.close_eq hframes
      simp only [hempty, Bool.not_false, Bool.true_and, Bool.false_eq_true, if_false, hclose,
        Config.finishTop, hfails]
      have hstop : top.bare.capture.stop.isSome = top.capture.stop.isSome := rfl
      rw [hstop]
      split
      · rfl
      · simp only [bind, Except.bind]
        rw [config_leave _ false _ rfl]
        simp only [List.length_map]
        rfl
    · have hfails : top.bare.fails false r.config.tape.position = true := hempty
      simp only [hempty, Bool.not_false, Bool.true_and, if_true, Config.finishTop, hfails]
      rw [config_leave { r with emptied := some top.nodeType } true _ hframes]
      simp only [List.length_map]
      rfl
  · have hfails : top.bare.fails true r.config.tape.position = true := rfl
    simp only [Bool.not_true, Bool.false_and, Bool.false_eq_true, if_false, if_true,
      Config.finishTop, hfails]
    rw [config_leave _ true _ hframes]
    simp only [List.length_map]
    rfl

end Run

namespace Machine

variable [Stepper σ]

/-- A step of a run is a move of its configuration. -/
theorem config_step (m : Machine σ n) (r : Run σ n Draft) :
    Result.of (m.step r) = m.move r.config := by
  rcases hframes : r.stack.frames with _ | ⟨top, rest⟩
  · have htop : r.stack.top? = none := by simp [Stack.top?, hframes]
    have hconfig : r.config.frames = [] := by simp [Run.config, hframes]
    simp only [step, move, hconfig]
    rcases r.flow with value | failed
    · simp only [resume, htop]
      rfl
    · simp only [Run.complete, htop]
      rfl
  · have hconfig : r.config.frames = top.bare :: rest.map Frame.bare := by
      simp [Run.config, hframes]
    have hflow : r.config.flow = r.flow := rfl
    simp only [step, move, hconfig, hflow]
    rcases r.flow with value | failed
    · exact m.config_resume r value hframes
    · exact r.config_complete failed hframes

theorem move_of_step {m : Machine σ n} {r r' : Run σ n Draft} (h : m.step r = .ok r') :
    m.move r.config = .ok r'.config := by
  rw [← config_step, h]
  rfl

theorem move_of_halt {m : Machine σ n} {r : Run σ n Draft} {halt : Halt σ n Draft}
    (h : m.step r = .error halt) : m.move r.config = .error (halt.run.tape, halt.outcome) := by
  rw [← config_step, h]
  rfl

theorem step_of_move {m : Machine σ n} {r : Run σ n Draft} {c : Config σ n}
    (h : m.move r.config = .ok c) : ∃ r', m.step r = .ok r' ∧ r'.config = c := by
  rcases hstep : m.step r with halt | r'
  · rw [move_of_halt hstep] at h
    cases h
  · rw [move_of_step hstep] at h
    exact ⟨r', rfl, Except.ok.inj h⟩

theorem halt_of_move {m : Machine σ n} {r : Run σ n Draft} {d : Draft} {outcome : Outcome}
    (h : m.move r.config = .error (d, outcome)) :
    ∃ halt, m.step r = .error halt ∧ halt.outcome = outcome := by
  rcases hstep : m.step r with halt | r'
  · rw [move_of_halt hstep] at h
    exact ⟨halt, rfl, congrArg Prod.snd (Except.error.inj h)⟩
  · rw [move_of_step hstep] at h
    cases h

theorem move_of_complete (m : Machine σ n) {r : Run σ n Draft} {f : Frame σ n}
    {rest : List (Frame σ n)} {failed : Bool} (hframes : r.stack.frames = f :: rest)
    (hflow : r.flow = .complete failed) :
    m.move r.config = r.config.finishTop f.bare (rest.map Frame.bare) failed := by
  have hflow' : r.config.flow = .complete failed := hflow
  simp only [move, Run.config_cons hframes, hflow']

theorem config_steps (m : Machine σ n) (count : Nat) (r : Run σ n Draft) :
    Result.of (m.steps count r) = m.moves count r.config := by
  induction count generalizing r with
  | zero => rfl
  | succ count ih =>
      have hstep := m.config_step r
      simp only [steps, moves, ← hstep]
      rcases m.step r with halt | r'
      · rfl
      · exact ih r'

theorem moves_error {m : Machine σ n} {P : Config σ n → Prop}
    (hmove : ∀ c c', P c → m.move c = .ok c' → P c') {count : Nat} {c : Config σ n} (hc : P c)
    {halt : Draft × Outcome} (h : m.moves count c = .error halt) :
    ∃ c', P c' ∧ m.move c' = .error halt := by
  induction count generalizing c with
  | zero => cases h
  | succ count ih =>
      rcases hnext : m.move c with halt' | c'
      · simp only [moves, hnext] at h
        exact ⟨c, hc, h ▸ hnext⟩
      · simp only [moves, hnext] at h
        exact ih (hmove c c' hc hnext) h

/-- How a run that ends came to its end: it did not begin, or it made moves. -/
theorem run_eq_some {m : Machine σ n} {source : Source} {props : Option Json} {fuel : Nat}
    {halt : Halt σ n Draft} (h : m.run (Draft.fresh source) props fuel = some halt) :
    (∃ slot, m.goal.slot = some slot ∧ halt.outcome = .rejected (.namedRoot slot.name)) ∨
      halt.outcome = .rejected (.depthExceeded 0) ∨
      (m.goal.slot = none ∧ m.options.maxDepth ≠ 0 ∧
        m.moves fuel (m.initial source props) = .error (halt.run.tape, halt.outcome)) := by
  have hstart := m.start_eq source props
  unfold run at h
  split at hstart
  · rename_i hslot
    obtain ⟨r, hstart⟩ := hstart
    simp only [hstart, Option.some.injEq] at h
    subst h
    exact .inl ⟨_, hslot, rfl⟩
  · rename_i hslot
    split at hstart
    · obtain ⟨r, hstart⟩ := hstart
      simp only [hstart, Option.some.injEq] at h
      subst h
      exact .inr (.inl rfl)
    · rename_i hdepth
      obtain ⟨r, hstart, hconfig⟩ := hstart
      simp only [hstart] at h
      refine .inr (.inr ⟨hslot, hdepth, ?_⟩)
      rw [← hconfig, ← config_steps]
      rcases hsteps : m.steps fuel r with halt' | r'
      · simp only [hsteps, Option.some.injEq] at h
        rw [← h]
        rfl
      · simp [hsteps] at h

theorem run_of_moves {m : Machine σ n} {source : Source} {props : Option Json} {fuel : Nat}
    (hslot : m.goal.slot = none) (hdepth : m.options.maxDepth ≠ 0) {tape : Draft}
    {outcome : Outcome} (h : m.moves fuel (m.initial source props) = .error (tape, outcome)) :
    ∃ halt, m.run (Draft.fresh source) props fuel = some halt ∧ halt.run.tape = tape ∧
      halt.outcome = outcome := by
  have hstart := m.start_eq source props
  simp only [hslot, if_neg hdepth] at hstart
  obtain ⟨r, hstart, hconfig⟩ := hstart
  rw [← hconfig, ← config_steps] at h
  rcases hsteps : m.steps fuel r with halt | r'
  · simp only [hsteps, Result.of, Except.error.injEq, Prod.mk.injEq] at h
    refine ⟨halt, ?_, h.1, h.2⟩
    simp only [run, hstart, hsteps]
  · simp [hsteps, Result.of] at h

theorem steps_error {m : Machine σ n} {fuel : Nat} {r : Run σ n Draft} {halt : Halt σ n Draft}
    (h : m.steps fuel r = .error halt) (more : Nat) : m.steps (fuel + more) r = .error halt := by
  induction fuel generalizing r with
  | zero => cases h
  | succ fuel ih =>
      rw [Nat.add_right_comm, steps]
      rw [steps] at h
      rcases hstep : m.step r with halt' | r'
      · rw [hstep] at h
        exact h
      · rw [hstep] at h
        exact ih h

/-- A run ends in one way only, however many steps it is given. -/
theorem run_unique {m : Machine σ n} {source : Source} {props : Option Json} {fuel fuel' : Nat}
    {halt halt' : Halt σ n Draft} (h : m.run (Draft.fresh source) props fuel = some halt)
    (h' : m.run (Draft.fresh source) props fuel' = some halt') : halt = halt' := by
  unfold run at h h'
  rcases hstart : m.start (Draft.fresh source) props with begun | r
  · simp only [hstart, Option.some.injEq] at h h'
    exact h.symm.trans h'
  · simp only [hstart] at h h'
    rcases hsteps : m.steps fuel r with halted | r₁
    · rcases hsteps' : m.steps fuel' r with halted' | r₂
      · simp only [hsteps, Option.some.injEq] at h
        simp only [hsteps', Option.some.injEq] at h'
        have hlong := steps_error hsteps fuel'
        rw [Nat.add_comm, steps_error hsteps' fuel, Except.error.injEq] at hlong
        exact h.symm.trans (hlong.symm.trans h')
      · simp only [hsteps'] at h'
        cases h'
    · simp only [hsteps] at h
      cases h

end Machine

end GrammarMachine
