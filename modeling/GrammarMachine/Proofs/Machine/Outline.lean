import GrammarMachine.Proofs.Machine.Intact
import GrammarMachine.Proofs.Machine.Leads

/-!
Steps in outline. How the stack of a run changes, which productions are called and when transactions
begin and end does not depend on the tape. The outline of a run leaves out the tape and all that is
written on it; `Machine.Turn` says what one step does to the outline over any tape, and
`Machine.End` how a step ends the run.
-/

namespace GrammarMachine

variable {σ : Type} {n : Nat} {T : Type}

/-- Whether an act begins or ends a transaction. -/
def Act.isTransactional : Act → Bool
  | .branch | .accept | .reject => true
  | _ => false

/-- Whether an event is the invocation of a rule, a call on a production or the begin or end of a
transaction. -/
def Event.isMilestone : Event → Bool
  | .performed act => act.isTransactional
  | _ => true

/-- A run without its tape. Frames are kept without their starts, of the events only the milestones.
-/
structure Outline (σ : Type) (n : Nat) where
  frames : List (Frame σ n)
  flow : Flow
  milestones : List Event
  productions : Nat

def Run.outline (r : Run σ n T) : Outline σ n where
  frames := r.stack.frames.map Frame.unstarted
  flow := r.flow
  milestones := r.events.filter Event.isMilestone
  productions := r.productions

theorem Run.outline_cons {r : Run σ n T} {f : Frame σ n} {rest : List (Frame σ n)}
    (h : r.stack.frames = f :: rest) :
    r.outline.frames = f.unstarted :: rest.map Frame.unstarted := by
  simp [outline, h]

theorem filterMap_milestones {α : Type} {g : Event → Option α}
    (h : ∀ act, act.isTransactional = false → g (.performed act) = none) (events : List Event) :
    (events.filter Event.isMilestone).filterMap g = events.filterMap g := by
  induction events with
  | nil => rfl
  | cons event earlier ih =>
      rw [List.filter_cons, List.filterMap_cons]
      rcases hevent : event.isMilestone with _ | _
      · cases event with
        | performed act => simp [ih, h act hevent]
        | _ => cases hevent
      · simp [List.filterMap_cons, ih]

/-- Frames that stand in their places over the outermost one, which has no transaction and may match
nothing. -/
def Rooted : List (Frame σ n) → Prop
  | [] => False
  | [f] => f.parent = none ∧ f.depth = 0 ∧ f.branched = false ∧ f.allowEmpty = true
  | f :: g :: rest => f.parent = some rest.length ∧ f.depth = rest.length + 1 ∧ Rooted (g :: rest)

/-- The step of a production that asks for an instruction, as its last one or not. -/
def Instruction.asStep (i : Instruction) (tail : Bool) : Step :=
  if tail then .done (some i) else .yield i

/-- The end of the transaction of a frame, if it has one. -/
def Frame.settlement (f : Frame σ n) (failing : Bool) : List Event :=
  if f.branched then [.performed (if failing || !f.policy.keeps then .reject else .accept)] else []

/-- What the machine does below a finished frame. -/
def Frame.flowBelow (f below : Frame σ n) (failing : Bool) (value : Option Extent) : Flow :=
  if failing && !f.policy.absorbs then .complete true
  else if below.returning then .complete false
  else .resume value

/-- Whether an instruction that fails gives its production nothing instead of aborting it. -/
def Instruction.absorbs : Instruction → Bool
  | .attempt a => a.verb.policy.absorbs
  | _ => false

/-- What the machine does after an instruction: its production goes on, with a value if the
instruction has succeeded and has one, or it is aborted. -/
def Flow.Answers (succeeded absorbs valued : Bool) : Flow → Prop
  | .resume value => (succeeded || absorbs) = true ∧ value.isSome = (succeeded && valued)
  | .complete failed => failed = true ∧ (succeeded || absorbs) = false

namespace Machine

section Plan

variable [Tape T]

/-- Whether an instruction succeeds without entering a rule. -/
def succeeds (m : Machine σ n) (tape : T) (top : Frame σ n) : Instruction → Bool
  | .attempt a =>
      match m.plan tape top a false with
      | .ok (.place ..) => true
      | _ => false
  | .fail => false
  | _ => true

/-- Whether an instruction asks for a text, a gap or a node. -/
def asksValue (m : Machine σ n) (top : Frame σ n) : Instruction → Bool
  | .attempt a => (m.goalFor top a).form.valued
  | _ => false

/-- What the machine does after a step of a production that enters no rule. -/
inductive Settles (m : Machine σ n) (tape : T) (top : Frame σ n) : Step → Flow → Prop where
  | returned (tail : Option Instruction) : m.Settles tape top (.done tail) (.complete false)
  | aborted (i : Instruction) : m.Settles tape top (.done (some i)) (.complete true)
  | answered {i : Instruction} {flow : Flow} :
      flow.Answers (m.succeeds tape top i) i.absorbs (m.asksValue top i) →
      m.Settles tape top (.yield i) flow

theorem plan_enter_entry {m : Machine σ n} {tape : T} {top : Frame σ n} {a : Attempt} {tail : Bool}
    {e : Entry σ n} (h : m.plan tape top a tail = .ok (.enter e)) :
    ∃ node slot place intrinsic rule, (m.goalFor top a).form = .node node ∧
      e = m.entry tape top a tail node (m.ownSlot (m.goalFor top a)) slot place intrinsic rule := by
  obtain ⟨node, slot, place, intrinsic, rule, hform, -, -, -, rfl⟩ := plan_enter_resolved h
  exact ⟨node, slot, place, intrinsic, rule, hform, rfl⟩

end Plan

end Machine

section Turns

variable [Tape T] [Stepper σ]

/-- The production of the active frame `top` makes a step with a value. -/
structure Run.Stepping (r : Run σ n T) (top : Frame σ n) (rest : List (Frame σ n))
    (value : Option Extent) (step : Step) (production : Production σ) : Prop where
  frames : r.stack.frames = top :: rest
  flow : r.flow = .resume value
  step : top.production.step r.cursor value = (step, production)

/-- What a step does to the outline of a run. -/
inductive Machine.Turn (m : Machine σ n) (r : Run σ n T) : Outline σ n → Prop where
  /-- The active production makes a step and enters no rule. -/
  | kept {top : Frame σ n} {rest : List (Frame σ n)} {value : Option Extent} {step : Step}
      {production : Production σ} {flow : Flow} : r.Stepping top rest value step production →
      m.Settles r.tape top step flow →
      m.Turn r {
        frames := ({ top with production } :: rest).map Frame.unstarted
        flow
        milestones := .stepped top.serial top.nodeType r.cursor value step :: r.outline.milestones
        productions := r.productions }
  /-- A rule is entered above the active frame. -/
  | pushed {top : Frame σ n} {rest : List (Frame σ n)} {value : Option Extent} {a : Attempt}
      {tail : Bool} {production : Production σ} {e : Entry σ n} :
      r.Stepping top rest value ((Instruction.attempt a).asStep tail) production →
      m.plan r.tape top a tail = .ok (.enter e) → e.replaces = false →
      m.Turn r {
        frames := ({ e.pushed rest.length with serial := r.productions } ::
          { top with production, returning := e.returns || top.returning } :: rest).map
            Frame.unstarted
        flow := .resume none
        milestones := (if e.frame.policy.branches then [.performed .branch] else []) ++
          .invoked r.productions e.invocation ::
          .stepped top.serial top.nodeType r.cursor value ((Instruction.attempt a).asStep tail) ::
          r.outline.milestones
        productions := r.productions + 1 }
  /-- A rule is entered in the place of the active frame, which is given up. -/
  | spliced {top : Frame σ n} {rest : List (Frame σ n)} {value : Option Extent} {a : Attempt}
      {tail : Bool} {production : Production σ} {e : Entry σ n} :
      r.Stepping top rest value ((Instruction.attempt a).asStep tail) production →
      m.plan r.tape top a tail = .ok (.enter e) → e.replaces = true →
      m.Turn r {
        frames := ({ e.spliced top with serial := r.productions } :: rest).map Frame.unstarted
        flow := .resume none
        milestones := .finalized top.serial top.nodeType production.cleanup ::
          .invoked r.productions e.invocation ::
          .stepped top.serial top.nodeType r.cursor value ((Instruction.attempt a).asStep tail) ::
          r.outline.milestones
        productions := r.productions + 1 }
  /-- The active frame is finished. -/
  | finished {top below : Frame σ n} {rest : List (Frame σ n)} {failed : Bool}
      {value : Option Extent} : r.stack.frames = top :: below :: rest → r.flow = .complete failed →
      value.isSome = !top.fails failed r.cursor.position →
      m.Turn r {
        frames := (below :: rest).map Frame.unstarted
        flow := top.flowBelow below (top.fails failed r.cursor.position) value
        milestones := top.settlement (top.fails failed r.cursor.position) ++
          .finalized top.serial top.nodeType top.production.cleanup :: r.outline.milestones
        productions := r.productions }

/-- How a step ends the run, with the milestones it leaves. -/
inductive Machine.End (r : Run σ n T) : List Event → Outcome → Prop where
  /-- The instruction of the active production is refused. -/
  | refused {top : Frame σ n} {rest : List (Frame σ n)} {value : Option Extent} {step : Step}
      {production : Production σ} {outcome : Outcome} : r.Stepping top rest value step production →
      outcome.ordinary = false →
      Machine.End r (.stepped top.serial top.nodeType r.cursor value step :: r.outline.milestones)
        outcome
  /-- There is no room for the rule. -/
  | crowded {top : Frame σ n} {rest : List (Frame σ n)} {value : Option Extent} {step : Step}
      {production : Production σ} {outcome : Outcome} (invocation : Invocation) :
      r.Stepping top rest value step production → outcome.ordinary = false →
      Machine.End r (.invoked r.productions invocation ::
        .stepped top.serial top.nodeType r.cursor value step :: r.outline.milestones) outcome
  /-- The replaced frame has a cleanup that is not allowed. -/
  | unreplaced {top : Frame σ n} {rest : List (Frame σ n)} {value : Option Extent} {i : Instruction}
      {production : Production σ} {outcome : Outcome} (invocation : Invocation) :
      r.Stepping top rest value (i.asStep true) production → outcome.ordinary = false →
      Machine.End r (.finalized top.serial top.nodeType production.cleanup ::
        .invoked r.productions invocation ::
        .stepped top.serial top.nodeType r.cursor value (i.asStep true) :: r.outline.milestones)
        outcome
  /-- The end of the active frame cannot be recorded. -/
  | unclosed {outcome : Outcome} : r.flow = .complete false → outcome.ordinary = false →
      Machine.End r r.outline.milestones outcome
  /-- The finished frame has a cleanup that is not allowed. -/
  | uncleaned {top : Frame σ n} {rest : List (Frame σ n)} {failed : Bool} {outcome : Outcome} :
      r.stack.frames = top :: rest → r.flow = .complete failed → outcome.ordinary = false →
      Machine.End r (.finalized top.serial top.nodeType top.production.cleanup ::
        r.outline.milestones) outcome
  /-- The outermost frame is finished. -/
  | concluded {top : Frame σ n} {failed : Bool} {outcome : Outcome} : r.stack.frames = [top] →
      r.flow = .complete failed →
      Machine.End r (.finalized top.serial top.nodeType top.production.cleanup ::
        r.outline.milestones) outcome

end Turns

namespace Run

section Writing

variable [Tape T]

@[simp] theorem outline_perform (r : Run σ n T) {act : Act} (h : act.isTransactional = false) :
    (r.perform act).outline = r.outline := by
  simp [outline, perform, Event.isMilestone, h]

@[simp] theorem outline_emit (r : Run σ n T) (tags : List Tag) :
    (r.emit tags).outline = r.outline := by
  induction tags generalizing r with
  | nil => rfl
  | cons tag tags ih => exact (ih (r.perform (.advance tag))).trans (r.outline_perform rfl)

@[simp] theorem outline_startCapture (r : Run σ n T) : r.startCapture.outline = r.outline := by
  simp only [outline, startCapture, Stack.startCapture, map_unstarted_recordStart]

theorem stack_emit (r : Run σ n T) (tags : List Tag) : (r.emit tags).stack = r.stack := by
  induction tags generalizing r with
  | nil => rfl
  | cons tag tags ih => exact ih (r.perform (.advance tag))

theorem outline_place (r : Run σ n T) (keeps : Bool) (tags : List Tag)
    (value : Option (String × Position)) : (r.place keeps tags value).1.outline = r.outline := by
  unfold place
  dsimp only
  split
  · rw [outline_emit, outline_startCapture]
  · rfl

theorem outline_branch (r : Run σ n T) (wanted : Bool) :
    (if wanted then r.perform .branch else r).outline = { r.outline with
      milestones := (if wanted then [.performed .branch] else []) ++ r.outline.milestones } := by
  cases wanted <;> rfl

theorem outline_settle (r : Run σ n T) (f : Frame σ n) (failing : Bool) :
    (r.settle f failing).outline = { r.outline with
      milestones := f.settlement failing ++ r.outline.milestones } := by
  unfold settle Frame.settlement
  cases f.branched
  · cases failing
    · rfl
    · exact r.outline_perform rfl
  · simp only [if_true]
    cases (failing || !f.policy.keeps) <;> rfl

theorem outline_open (r : Run σ n T) (e : Entry σ n) :
    (let r := match e.adopts with
        | some name => r.startCapture.emit [.shift name]
        | none => r
      let r := match e.opening with
        | some opening =>
            let r := r.startCapture
            r.emit (slotTags r.tape e.frame.slot ++ [opening])
        | none => r
      r).outline = r.outline := by
  rcases e.adopts with _ | name <;> rcases e.opening with _ | opening
  all_goals simp only [outline_emit, outline_startCapture]

end Writing

theorem cleanup_outline [Tape T] {r : Run σ n T} {o : Outline σ n} (nodeType : String)
    (cleanup : List Instruction) (h : r.outline = o) :
    match (cleanup.foldlM (fun r instruction =>
      match instruction with
      | .write text options => .ok (r.perform (.write text options))
      | other => r.halt (.rejected (.cleanupViolation nodeType other.verbName))) r :
        Except (Halt σ n T) (Run σ n T)) with
    | .ok r' => r'.outline = o
    | .error halt => halt.run.outline = o ∧ halt.outcome.ordinary = false := by
  induction cleanup generalizing r with
  | nil => exact h
  | cons instruction rest ih =>
      cases instruction with
      | write text options =>
          have hwritten : (r.perform (.write text options)).outline = o := h
          exact ih hwritten
      | attempt => exact ⟨h, rfl⟩
      | fail => exact ⟨h, rfl⟩
      | openSpan => exact ⟨h, rfl⟩
      | closeSpan => exact ⟨h, rfl⟩
      | bind => exact ⟨h, rfl⟩

section Stepping

variable [Tape T] [Stepper σ]

/-- Giving up a production is one milestone; the cleanup is none. -/
theorem finalize_outline (r : Run σ n T) (f : Frame σ n) :
    let noted := { r.outline with
      milestones := .finalized f.serial f.nodeType f.production.cleanup :: r.outline.milestones }
    match r.finalize f with
    | .ok r' => r'.outline = noted
    | .error halt => halt.run.outline = noted ∧ halt.outcome.ordinary = false := by
  unfold finalize
  apply cleanup_outline
  rfl

/-- The run in which a rule was invoked. -/
def invoke (r : Run σ n T) (e : Entry σ n) (frames : List (Frame σ n)) : Run σ n T :=
  { r with
    stack := ⟨frames, r.stack.limit⟩
    events := .invoked r.productions e.invocation :: r.events
    productions := r.productions + 1 }

theorem pushEntry_of_replaces {r : Run σ n T} {top : Frame σ n} {rest : List (Frame σ n)}
    {e : Entry σ n} (hframes : r.stack.frames = top :: rest) (h : e.replaces = true) :
    r.pushEntry e =
      (r.invoke e ({ e.spliced top with serial := r.productions } :: rest)).finalize top := by
  simp only [pushEntry, h, if_true, record, hframes, Stack.splice?]
  rfl

theorem pushEntry_of_pushes {r : Run σ n T} {top : Frame σ n} {rest : List (Frame σ n)}
    {e : Entry σ n} (hframes : r.stack.frames = top :: rest) (h : e.replaces = false) :
    let below := { top with returning := e.returns || top.returning }
    r.pushEntry e =
      if r.stack.limit ≤ rest.length + 1 then
        (r.invoke e (below :: rest)).halt (.rejected (.depthExceeded r.stack.limit))
      else
        let pushed := r.invoke e
          ({ e.pushed rest.length with serial := r.productions } :: below :: rest)
        .ok (if e.frame.policy.branches then pushed.perform .branch else pushed) := by
  rcases r with ⟨tape, ⟨frames, limit⟩, flow, emptied, events, productions⟩
  cases hframes
  have hreturns : (if e.returns = true then
        (⟨tape, Stack.modifyTop ⟨top :: rest, limit⟩ fun top => { top with returning := true },
          flow, emptied, .invoked productions e.invocation :: events, productions + 1⟩ : Run σ n T)
      else ⟨tape, ⟨top :: rest, limit⟩, flow, emptied, .invoked productions e.invocation :: events,
        productions + 1⟩) =
      ⟨tape, ⟨{ top with returning := e.returns || top.returning } :: rest, limit⟩, flow, emptied,
        .invoked productions e.invocation :: events, productions + 1⟩ := by
    cases e.returns <;> rfl
  simp only [pushEntry, h, Bool.false_eq_true, if_false, record, hreturns, Stack.push, Stack.size,
    List.length_cons]
  by_cases hlimit : limit ≤ rest.length + 1
  · simp only [hlimit, if_true]
    rfl
  · simp only [hlimit, if_false]
    cases hbranches : e.frame.policy.branches
    · simp [invoke, Entry.pushed, Stack.topPlace?, Stack.size, hbranches]
    · simp [invoke, Entry.pushed, Stack.topPlace?, Stack.size, hbranches, perform, Stack.modifyTop]

theorem finalize_ok {r r' : Run σ n T} {f : Frame σ n} (h : r.finalize f = .ok r') :
    r'.outline = { r.outline with
      milestones := .finalized f.serial f.nodeType f.production.cleanup ::
        r.outline.milestones } := by
  have houtline := r.finalize_outline f
  rw [h] at houtline
  exact houtline

theorem finalize_error {r : Run σ n T} {f : Frame σ n} {halt : Halt σ n T}
    (h : r.finalize f = .error halt) :
    halt.run.outline.milestones =
        .finalized f.serial f.nodeType f.production.cleanup :: r.outline.milestones ∧
      halt.outcome.ordinary = false := by
  have houtline := r.finalize_outline f
  rw [h] at houtline
  exact ⟨congrArg Outline.milestones houtline.1, houtline.2⟩

theorem pushEntry_frames {r r' : Run σ n T} {top : Frame σ n} {rest : List (Frame σ n)}
    {e : Entry σ n} (hframes : r.stack.frames = top :: rest) (h : r.pushEntry e = .ok r') :
    r'.outline.frames ≠ [] := by
  rcases hreplaces : e.replaces with _ | _
  · rw [pushEntry_of_pushes hframes hreplaces] at h
    split at h
    · cases h
    · cases h
      split
      · exact List.cons_ne_nil _ _
      · exact List.cons_ne_nil _ _
  · rw [pushEntry_of_replaces hframes hreplaces] at h
    rw [finalize_ok h]
    exact List.cons_ne_nil _ _

theorem enter_cases {r : Run σ n T} {top : Frame σ n} {rest : List (Frame σ n)} (e : Entry σ n)
    (hframes : r.stack.frames = top :: rest) :
    match r.pushEntry e with
    | .ok pushed => ∃ r', r.enter e = .ok r' ∧
        r'.outline = { pushed.outline with flow := .resume none }
    | .error halt => r.enter e = .error halt := by
  rcases hpush : r.pushEntry e with halt | pushed
  · simp only [enter, hpush]
    rfl
  · have hne := pushEntry_frames hframes hpush
    obtain ⟨depth, hdepth⟩ : ∃ depth, pushed.stack.topPlace? = some depth := by
      rcases hpushed : pushed.stack.frames with _ | ⟨f, below⟩
      · simp [outline, hpushed] at hne
      · exact ⟨below.length, by simp [Stack.topPlace?, Stack.size, hpushed]⟩
    have hopen := (pushed.perform (.startFrame depth e.frame.nodeType)).outline_open e
    rw [outline_perform _ rfl] at hopen
    simp only [enter, hpush, bind, Except.bind, hdepth, pure, Except.pure]
    refine ⟨_, rfl, ?_⟩
    exact congrArg (fun o : Outline σ n => { o with flow := .resume none }) hopen

end Stepping

end Run

namespace Machine

variable [Tape T]

theorem plan_production (m : Machine σ n) (tape : T) (top : Frame σ n) (production : Production σ)
    (a : Attempt) (tail : Bool) :
    m.plan tape { top with production } a tail = m.plan tape top a tail :=
  m.plan_congr tape rfl rfl rfl rfl a tail

theorem Settles.next {m : Machine σ n} {tape : T} {top : Frame σ n} {i : Instruction}
    {value : Option Extent} {tail : Bool}
    (h : tail = false → (m.succeeds tape top i || i.absorbs) = true ∧
      value.isSome = (m.succeeds tape top i && m.asksValue top i)) :
    m.Settles tape top (i.asStep tail) (if tail then .complete false else .resume value) := by
  cases tail with
  | false => exact .answered (h rfl)
  | true => exact .returned _

theorem Settles.abort {m : Machine σ n} {tape : T} {top : Frame σ n} {i : Instruction} {tail : Bool}
    (h : tail = false → (m.succeeds tape top i || i.absorbs) = false) :
    m.Settles tape top (i.asStep tail) (.complete true) := by
  cases tail with
  | false => exact .answered ⟨rfl, h rfl⟩
  | true => exact .aborted _

theorem ordinary_of_plan {m : Machine σ n} {tape : T} {top : Frame σ n} {a : Attempt} {tail : Bool}
    {outcome : Outcome} (h : m.plan tape top a tail = .error outcome) :
    outcome.ordinary = false := by
  obtain ⟨cause, rfl, hcause⟩ | ⟨_, _, -, rfl⟩ := plan_error h
  · cases cause <;> first | rfl | cases hcause
  · rfl

variable [Stepper σ] {m : Machine σ n} {r : Run σ n T} {top : Frame σ n}
  {rest : List (Frame σ n)} {production : Production σ} {i : Instruction} {tail : Bool}

theorem attempt_outline {a : Attempt} (hframes : r.stack.frames = { top with production } :: rest) :
    (∃ e, m.plan r.tape top a tail = .ok (.enter e) ∧ m.attempt r a tail = r.enter e) ∨
      match m.attempt r a tail with
      | .ok r' => ∃ flow, m.Settles r.tape top ((Instruction.attempt a).asStep tail) flow ∧
          r'.outline = { r.outline with flow }
      | .error halt => halt.run = r ∧ halt.outcome.ordinary = false := by
  have htop : r.stack.top? = some { top with production } := by simp [Stack.top?, hframes]
  simp only [attempt, htop, plan_production]
  rcases hplan : m.plan r.tape top a tail with outcome | emptied | ⟨tags, value⟩ | e
  · exact .inr ⟨rfl, ordinary_of_plan hplan⟩
  · right
    dsimp only
    cases habsorbs : a.verb.policy.absorbs
    · refine ⟨_, .abort ?_, rfl⟩
      rintro rfl
      simp [succeeds, hplan, Instruction.absorbs, habsorbs]
    · refine ⟨_, .next ?_, rfl⟩
      rintro rfl
      simp [succeeds, hplan, Instruction.absorbs, habsorbs]
  · right
    have hplace := r.outline_place a.verb.policy.keeps tags value
    have hvalue : (r.place a.verb.policy.keeps tags value).2.isSome = value.isSome := by
      simp [Run.place]
    dsimp only
    generalize r.place a.verb.policy.keeps tags value = placed at hplace hvalue ⊢
    refine ⟨if tail then .complete false else .resume placed.2, .next ?_, ?_⟩
    · rintro rfl
      simp [succeeds, hplan, asksValue, ← isSome_of_plan hplan, hvalue]
    · rw [← hplace]
      rfl
  · exact .inl ⟨e, rfl, rfl⟩

theorem dispatch_outline (m : Machine σ n) (i : Instruction) (tail : Bool)
    (hframes : r.stack.frames = { top with production } :: rest) :
    (∃ a e, i = .attempt a ∧ m.plan r.tape top a tail = .ok (.enter e) ∧
      m.dispatch r i tail = r.enter e) ∨
      match m.dispatch r i tail with
      | .ok r' => ∃ flow, m.Settles r.tape top (i.asStep tail) flow ∧
          r'.outline = { r.outline with flow }
      | .error halt => halt.run = r ∧ halt.outcome.ordinary = false := by
  have hquiet : ∀ act : Act, act.isTransactional = false →
      ((r.perform act).continueWith none tail).outline =
        { r.outline with flow := if tail then .complete false else .resume none } := by
    intro act hact
    rw [← r.outline_perform hact]
    rfl
  cases i with
  | attempt a =>
      rcases attempt_outline hframes with ⟨e, hplan, henter⟩ | hsettled
      · exact .inl ⟨a, e, rfl, hplan, henter⟩
      · exact .inr hsettled
  | fail => exact .inr ⟨_, .abort fun _ => rfl, rfl⟩
  | write text options =>
      exact .inr ⟨_, .next fun _ => ⟨rfl, rfl⟩, hquiet (.write text options) rfl⟩
  | openSpan name => exact .inr ⟨_, .next fun _ => ⟨rfl, rfl⟩, hquiet (.openSpan name) rfl⟩
  | closeSpan name => exact .inr ⟨_, .next fun _ => ⟨rfl, rfl⟩, hquiet (.closeSpan name) rfl⟩
  | bind key value => exact .inr ⟨_, .next fun _ => ⟨rfl, rfl⟩, hquiet (.bind key value) rfl⟩

/-- The run in which the active production made a step. -/
def stepped (r : Run σ n T) (top : Frame σ n) (rest : List (Frame σ n)) (value : Option Extent)
    (step : Step) (production : Production σ) : Run σ n T :=
  { r with
    stack := ⟨{ top with production } :: rest, r.stack.limit⟩
    events := .stepped top.serial top.nodeType r.cursor value step :: r.events }

theorem resume_eq {value : Option Extent} {step : Step}
    (h : r.Stepping top rest value step production) :
    m.resume r value = match step with
      | .yield i => m.dispatch (stepped r top rest value step production) i false
      | .done (some i) => m.dispatch (stepped r top rest value step production) i true
      | .done none =>
          .ok { stepped r top rest value step production with flow := .complete false } := by
  rcases r with ⟨tape, ⟨frames, limit⟩, flow, emptied, events, productions⟩
  obtain ⟨hframes, -, hstep⟩ := h
  cases hframes
  simp only [resume, Stack.top?, List.head?_cons, hstep]
  rcases step with i | _ | i <;> rfl

theorem enter_turn {value : Option Extent} {a : Attempt} {e : Entry σ n}
    (h : r.Stepping top rest value ((Instruction.attempt a).asStep tail) production)
    (hplan : m.plan r.tape top a tail = .ok (.enter e)) :
    match (stepped r top rest value ((Instruction.attempt a).asStep tail) production).enter e with
    | .ok r' => m.Turn r r'.outline
    | .error halt => Machine.End r halt.run.outline.milestones halt.outcome := by
  have hframes : (stepped r top rest value ((Instruction.attempt a).asStep tail)
      production).stack.frames = { top with production } :: rest := rfl
  have henter := Run.enter_cases e hframes
  rcases hreplaces : e.replaces with _ | _
  · rw [Run.pushEntry_of_pushes hframes hreplaces] at henter
    dsimp only at henter
    by_cases hlimit : (stepped r top rest value ((Instruction.attempt a).asStep tail)
        production).stack.limit ≤ rest.length + 1
    · rw [if_pos hlimit] at henter
      rw [henter]
      exact .crowded e.invocation h rfl
    · rw [if_neg hlimit] at henter
      obtain ⟨r', hr', houtline⟩ := henter
      rw [hr']
      change m.Turn r r'.outline
      rw [houtline, Run.outline_branch]
      exact .pushed h hplan hreplaces
  · rw [Run.pushEntry_of_replaces hframes hreplaces] at henter
    obtain ⟨rfl, -, -⟩ := (plan_enter hplan).replaces hreplaces
    split at henter
    · rename_i pushed hpushed
      obtain ⟨r', hr', houtline⟩ := henter
      rw [hr']
      change m.Turn r r'.outline
      rw [houtline, Run.finalize_ok hpushed]
      have hturn := Turn.spliced h hplan hreplaces
      exact hturn
    · rename_i halt hhalt
      rw [henter]
      obtain ⟨hmilestones, hordinary⟩ := Run.finalize_error hhalt
      change Machine.End r halt.run.outline.milestones halt.outcome
      rw [hmilestones]
      have hend := End.unreplaced e.invocation h hordinary
      exact hend

theorem resume_outline {value : Option Extent} {step : Step}
    (h : r.Stepping top rest value step production) :
    match m.resume r value with
    | .ok r' => m.Turn r r'.outline
    | .error halt => Machine.End r halt.run.outline.milestones halt.outcome := by
  have hobey : ∀ i tail, step = Instruction.asStep i tail →
      match m.dispatch (stepped r top rest value step production) i tail with
      | .ok r' => m.Turn r r'.outline
      | .error halt => Machine.End r halt.run.outline.milestones halt.outcome := by
    rintro i tail rfl
    obtain ⟨a, e, rfl, hplan, henter⟩ | hsettled :=
      dispatch_outline m i tail
        (rfl : (stepped r top rest value (i.asStep tail) production).stack.frames = _)
    · rw [henter]
      exact enter_turn h hplan
    · split at hsettled
      · obtain ⟨flow, hflow, houtline⟩ := hsettled
        rw [houtline]
        exact .kept h hflow
      · obtain ⟨hrun, hordinary⟩ := hsettled
        rw [hrun]
        exact .refused h hordinary
  rw [resume_eq h]
  rcases step with i | _ | i
  · exact hobey i false rfl
  · exact .kept h (.returned none)
  · exact hobey i true rfl

end Machine

namespace Run

variable [Tape T] {r : Run σ n T} {top : Frame σ n} {rest : List (Frame σ n)}

theorem close_cases (hframes : r.stack.frames = top :: rest) :
    match r.close top with
    | .ok r' => ∃ capture : Capture, capture.start.isSome = true ∧ capture.stop.isSome = true ∧
        r'.stack.frames = { top with capture } :: rest ∧
        r'.outline.milestones = r.outline.milestones ∧ r'.productions = r.productions
    | .error halt => halt.run.outline = r.outline ∧ halt.outcome.ordinary = false := by
  unfold close
  dsimp only
  generalize hclosed : (r.emit (if top.isNode then [.closeNode] else [])).emit
    (if top.isFragment then [.closeFragment] else []) = closed
  have hstack : closed.stack.frames = top :: rest := by
    rw [← hclosed, stack_emit, stack_emit, hframes]
  have houtline : closed.outline = r.outline := by
    rw [← hclosed, outline_emit, outline_emit]
  have hmilestones : closed.outline.milestones = r.outline.milestones := by rw [houtline]
  have hproductions : closed.productions = r.productions :=
    congrArg Outline.productions houtline
  simp only [Stack.endCapture, hstack]
  rcases top.capture.stop with _ | stop
  · exact ⟨_, rfl, rfl, rfl, hmilestones, hproductions⟩
  · exact ⟨houtline, rfl⟩

theorem isSome_valueOf (r : Run σ n T) {f : Frame σ n} {failing : Bool}
    (h : failing = false → f.capture.start.isSome = true ∧ f.capture.stop.isSome = true) :
    (r.valueOf f failing).isSome = !failing := by
  cases failing with
  | false =>
      obtain ⟨hstart, hstop⟩ := h rfl
      obtain ⟨start, hstart⟩ := Option.isSome_iff_exists.mp hstart
      obtain ⟨stop, hstop⟩ := Option.isSome_iff_exists.mp hstop
      simp only [valueOf, hstart, hstop]
      rfl
  | true => rfl

theorem goOnBelow_outline {o : Outline σ n} {below : Frame σ n} (frame : Frame σ n)
    (value : Option Extent) (failing : Bool) (h : r.outline = o)
    (hframes : o.frames = (below :: rest).map Frame.unstarted) :
    ∃ r', r.goOnBelow frame value failing = .ok r' ∧
      r'.outline = { o with flow := frame.flowBelow below failing value } := by
  subst h
  unfold goOnBelow Frame.flowBelow
  rcases hstack : r.stack.frames with _ | ⟨f, fs⟩
  · simp [outline, hstack] at hframes
  · have hreturning : f.returning = below.returning := by
      simp only [outline, hstack, List.map_cons, List.cons.injEq] at hframes
      simpa [Frame.unstarted] using congrArg Frame.returning hframes.1
    split
    · exact ⟨_, rfl, rfl⟩
    · simp only [Stack.top?, hstack, List.head?_cons, hreturning]
      exact ⟨_, rfl, rfl⟩

variable [Stepper σ]

theorem leave_cases {failing : Bool} (offset : Nat) (hframes : r.stack.frames = top :: rest)
    (hrooted : Rooted (top :: rest))
    (hcapture : failing = false →
      top.capture.start.isSome = true ∧ top.capture.stop.isSome = true) :
    match r.leave failing offset with
    | .ok r' => ∃ below rest' value, rest = below :: rest' ∧ value.isSome = !failing ∧
        r'.outline = {
          frames := rest.map Frame.unstarted
          flow := top.flowBelow below failing value
          milestones := top.settlement failing ++
            .finalized top.serial top.nodeType top.production.cleanup :: r.outline.milestones
          productions := r.productions }
    | .error halt => halt.run.outline.milestones =
          .finalized top.serial top.nodeType top.production.cleanup :: r.outline.milestones ∧
        (halt.outcome.ordinary = true → rest = []) := by
  have hpop : r.stack.pop? = some (top, ⟨rest, r.stack.limit⟩) := by
    simp only [Stack.pop?, hframes]
  have hvalue := r.isSome_valueOf hcapture
  simp only [leave, hpop]
  generalize r.valueOf top failing = value at hvalue
  rcases hfinalize : Run.finalize { r with stack := ⟨rest, r.stack.limit⟩ } top with halt | cleaned
  · obtain ⟨hmilestones, hordinary⟩ := finalize_error hfinalize
    exact ⟨hmilestones, by simp [hordinary]⟩
  · have hcleaned := finalize_ok hfinalize
    have hleft : ((cleaned.settle top failing).perform (.endFrame top.depth)).outline = {
        frames := rest.map Frame.unstarted
        flow := r.flow
        milestones := top.settlement failing ++
          .finalized top.serial top.nodeType top.production.cleanup :: r.outline.milestones
        productions := r.productions } := by
      rw [outline_perform _ rfl, outline_settle, hcleaned]
      rfl
    simp only [bind, Except.bind]
    generalize (cleaned.settle top failing).perform (.endFrame top.depth) = left at hleft ⊢
    rcases rest with _ | ⟨below, rest'⟩
    · obtain ⟨hparent, -, hbranched⟩ := hrooted
      simp only [hparent, Option.isNone_none, if_true, halt, hleft, Frame.settlement, hbranched]
      simp
    · obtain ⟨hparent, -, -⟩ := hrooted
      simp only [hparent, Option.isNone_some, Bool.false_eq_true, if_false]
      obtain ⟨r', hr', houtline⟩ := goOnBelow_outline top value failing hleft rfl
      rw [hr']
      exact ⟨below, rest', value, rfl, hvalue, houtline⟩

theorem complete_outline {m : Machine σ n} {failed : Bool} (hframes : r.stack.frames = top :: rest)
    (hrooted : Rooted (top :: rest)) (hflow : r.flow = .complete failed) :
    match r.complete failed with
    | .ok r' => m.Turn r r'.outline
    | .error halt => Machine.End r halt.run.outline.milestones halt.outcome := by
  have htop : r.stack.top? = some top := by simp [Stack.top?, hframes]
  -- The frame is left by a run with the same outline, and with an end unless it fails.
  have hleave : ∀ (closed : Run σ n T) (capture : Capture) (failing : Bool) (offset : Nat),
      failing = top.fails failed r.cursor.position →
      closed.stack.frames = { top with capture } :: rest →
      closed.outline.milestones = r.outline.milestones → closed.productions = r.productions →
      (failing = false → capture.start.isSome = true ∧ capture.stop.isSome = true) →
      match closed.leave failing offset with
      | .ok r' => m.Turn r r'.outline
      | .error halt => Machine.End r halt.run.outline.milestones halt.outcome := by
    intro closed capture failing offset hfailing hclosed hmilestones hproductions hcapture
    have hrooted' : Rooted ({ top with capture } :: rest) := by
      rcases rest with _ | ⟨below, rest'⟩ <;> exact hrooted
    have hleft := leave_cases offset hclosed hrooted' hcapture
    split at hleft
    · obtain ⟨below, rest', value, rfl, hvalue, houtline⟩ := hleft
      rw [houtline, hmilestones, hproductions]
      subst hfailing
      exact .finished hframes hflow hvalue
    · rename_i halt hhalt
      obtain ⟨hhalted, hordinary⟩ := hleft
      rw [hhalted, hmilestones]
      change Machine.End r (.finalized top.serial top.nodeType top.production.cleanup ::
        r.outline.milestones) halt.outcome
      rcases rest with _ | ⟨below, rest'⟩
      · exact .concluded hframes hflow
      · refine .uncleaned hframes hflow ?_
        simpa using hordinary
  simp only [complete, htop]
  cases failed with
  | true => exact hleave r top.capture true _ rfl hframes rfl rfl (by simp)
  | false =>
      cases hempty : (top.capture.isEmptyAt r.cursor.position && !top.allowEmpty) with
      | true =>
          simp only [Bool.not_false, Bool.true_and, hempty, if_true]
          exact hleave { r with emptied := some top.nodeType } top.capture true _ hempty.symm
            hframes rfl rfl (by simp)
      | false =>
          simp only [Bool.not_false, Bool.true_and, hempty, Bool.false_eq_true, if_false]
          have hclose := close_cases hframes
          rcases hr : r.close top with halt | closed
          · rw [hr] at hclose
            obtain ⟨houtline, hordinary⟩ := hclose
            change Machine.End r halt.run.outline.milestones halt.outcome
            rw [houtline]
            exact .unclosed hflow hordinary
          · rw [hr] at hclose
            obtain ⟨capture, hstart, hstop, hclosed, hmilestones, hproductions⟩ := hclose
            exact hleave closed capture false _ hempty.symm hclosed hmilestones hproductions
              fun _ => ⟨hstart, hstop⟩

end Run

theorem Rooted.replaceTop {f g : Frame σ n} {rest : List (Frame σ n)} (h : Rooted (f :: rest))
    (hparent : g.parent = f.parent) (hdepth : g.depth = f.depth)
    (hbranched : g.branched = f.branched)
    (hallow : f.isFragment = true → g.allowEmpty = f.allowEmpty) : Rooted (g :: rest) := by
  rcases rest with _ | ⟨below, rest⟩
  · obtain ⟨hparent', hdepth', hbranched', hallow'⟩ := h
    have hfragment : f.isFragment = true := by simp [Frame.isFragment, hdepth']
    exact ⟨hparent.trans hparent', hdepth.trans hdepth', hbranched.trans hbranched',
      (hallow hfragment).trans hallow'⟩
  · exact ⟨hparent.trans h.1, hdepth.trans h.2.1, h.2.2⟩

theorem rooted_map_unstarted {frames : List (Frame σ n)} :
    Rooted (frames.map Frame.unstarted) ↔ Rooted frames := by
  induction frames with
  | nil => rfl
  | cons f rest ih =>
      rcases rest with _ | ⟨g, rest⟩
      · rfl
      · simp only [List.map_cons, Rooted, List.length_map] at ih ⊢
        rw [ih]
        rfl

namespace Machine

variable [Tape T] {m : Machine σ n}

theorem start_outline {tape : T} {props : Option Json} {first : Run σ n T}
    (h : m.start tape props = .ok first) :
    first.outline = ⟨[m.fragmentFrame props], .resume none, [], 1⟩ := by
  unfold start at h
  dsimp only at h
  split at h
  · cases h
  · split at h
    · cases h
    · rename_i stack hpush
      by_cases hlimit : m.options.maxDepth ≤ 0
      · cases (if_pos hlimit).symm.trans hpush
      · cases (if_neg hlimit).symm.trans hpush
        cases h
        rw [Run.outline_emit, Run.outline_startCapture, Run.outline_emit, Run.outline_perform _ rfl]
        rfl

theorem start_error {tape : T} {props : Option Json} {halt : Halt σ n T}
    (h : m.start tape props = .error halt) :
    halt.run.outline.milestones = [] ∧ halt.outcome.ordinary = false := by
  unfold start at h
  dsimp only at h
  split at h
  · cases h
    exact ⟨rfl, rfl⟩
  · split at h
    · rename_i hpush
      cases h
      by_cases hlimit : m.options.maxDepth ≤ 0
      · cases (if_pos hlimit).symm.trans hpush
        exact ⟨rfl, rfl⟩
      · cases (if_neg hlimit).symm.trans hpush
    · cases h

variable [Stepper σ] {r r' : Run σ n T}

/-- What a step does in outline. -/
theorem step_cases (m : Machine σ n) (hrooted : Rooted r.stack.frames) :
    match m.step r with
    | .ok r' => m.Turn r r'.outline
    | .error halt => Machine.End r halt.run.outline.milestones halt.outcome := by
  rcases hframes : r.stack.frames with _ | ⟨top, rest⟩
  · rw [hframes] at hrooted
    exact hrooted.elim
  · rw [hframes] at hrooted
    rcases hflow : r.flow with value | failed
    · simp only [step, hflow]
      exact resume_outline ⟨hframes, hflow, rfl⟩
    · simp only [step, hflow]
      exact Run.complete_outline hframes hrooted hflow

theorem step_turn (hrooted : Rooted r.stack.frames) (h : m.step r = .ok r') :
    m.Turn r r'.outline := by
  have hcases := step_cases m hrooted
  rw [h] at hcases
  exact hcases

theorem step_end {halt : Halt σ n T} (hrooted : Rooted r.stack.frames)
    (h : m.step r = .error halt) : Machine.End r halt.run.outline.milestones halt.outcome := by
  have hcases := step_cases m hrooted
  rw [h] at hcases
  exact hcases

theorem End.outermost {milestones : List Event} {outcome : Outcome}
    (h : Machine.End r milestones outcome) (hordinary : outcome.ordinary = true) :
    ∃ top failed, r.stack.frames = [top] ∧ r.flow = .complete failed ∧ milestones =
      .finalized top.serial top.nodeType top.production.cleanup :: r.outline.milestones := by
  cases h with
  | concluded hframes hflow => exact ⟨_, _, hframes, hflow, rfl⟩
  | _ => simp_all

/-- Each turn leaves the frames in their places. -/
theorem Turn.rooted {o : Outline σ n} (h : m.Turn r o) (hrooted : Rooted r.stack.frames) :
    Rooted o.frames := by
  cases h with
  | kept hstepping _ =>
      rw [hstepping.frames] at hrooted
      rw [rooted_map_unstarted]
      exact hrooted.replaceTop rfl rfl rfl fun _ => rfl
  | pushed hstepping hplan _ =>
      rw [hstepping.frames] at hrooted
      rw [rooted_map_unstarted]
      exact ⟨rfl, rfl, hrooted.replaceTop rfl rfl rfl fun _ => rfl⟩
  | spliced hstepping hplan hreplaces =>
      rw [hstepping.frames] at hrooted
      rw [rooted_map_unstarted]
      refine hrooted.replaceTop rfl rfl rfl ?_
      obtain ⟨-, -, htransparent⟩ := (plan_enter hplan).replaces hreplaces
      simp only [Frame.isTransparent, Bool.and_eq_true, Bool.not_eq_true'] at htransparent
      simp [htransparent.2]
  | finished hframes _ _ =>
      rw [hframes] at hrooted
      rw [rooted_map_unstarted]
      exact hrooted.2.2

end Machine

end GrammarMachine
