import GrammarMachine.Proofs.Machine.Outline

/-!
How failures begin. An attempt misses if what it asks for is not there, or if it is a token that may
not match nothing and does. A production whose instruction fails is aborted, unless the instruction
absorbs the failure. Apart from that, only a frame that ends without a match begins to fail.
-/

namespace GrammarMachine

variable {σ : Type} {n : Nat} {T : Type}

namespace Machine

section Plan

variable [Tape T]

/-- An attempt asks for a node for which no gap stands. -/
structure Seeks (m : Machine σ n) (tape : T) (top : Frame σ n) (a : Attempt) (tail : Bool)
    (node : NodeGoal) (place : Fin n) : Prop where
  form : (m.goalFor top a).form = .node node
  hold : a.verb.isHold = true → tail = true
  resolved : m.index.resolve m.catalog top.scope node.language = .ok place
  checked : m.checkNodeAt tape a node place = .ok ()
  apart : m.interpolates tape a node (m.ownSlot (m.goalFor top a)) place = false

/-- What an attempt asks for is not there, or it is a token that may not match nothing and does. In
the latter case the type of the token is the cause. -/
inductive Misses (m : Machine σ n) (tape : T) (top : Frame σ n) (a : Attempt) (tail : Bool) :
    Option String → Prop where
  | text {r : Recognizer} : a.verb.isHold = false → (m.goalFor top a).recognizer? = some r →
      Tape.recognize tape r = .ok none → m.Misses tape top a tail none
  | gap : a.verb.isHold = false → (m.goalFor top a).form = .gap →
      (m.options.allowGaps && (Tape.cursor tape).atGap) = false → m.Misses tape top a tail none
  | intrinsic {node : NodeGoal} {place : Fin n} {r : Recognizer} :
      m.Seeks tape top a tail node place → node.intrinsic = some r →
      Tape.recognize tape r = .ok none → m.Misses tape top a tail none
  | token {node : NodeGoal} {place : Fin n} {r : Recognizer} {slot : Slot} :
      m.Seeks tape top a tail node place → node.intrinsic = some r →
      Tape.recognize tape r = .ok (some "") → node.traits.token = true →
      nodeSlot top a (m.ownSlot (m.goalFor top a)) = .ok slot →
      (m.catalog place).grammar.isEmptyable node.nodeType = false →
      m.Misses tape top a tail (some node.nodeType)

variable {m : Machine σ n} {tape : T} {top : Frame σ n} {a : Attempt} {tail : Bool}
  {cause : Option String}

theorem planText_miss_iff {r : Recognizer} {own : Slot} :
    planText tape r own = (.ok (.miss cause) : Except Outcome (Plan σ n)) ↔
      Tape.recognize tape r = .ok none ∧ cause = none := by
  unfold planText
  rw [bind_eq_ok]
  constructor
  · rintro ⟨found, hfound, h⟩
    rw [mapError_eq_ok] at hfound
    rcases found with _ | text
    · cases h
      exact ⟨hfound, rfl⟩
    · cases h
  · rintro ⟨hfound, rfl⟩
    exact ⟨none, mapError_eq_ok.mpr hfound, rfl⟩

theorem planGap_miss_iff {own : Slot} :
    m.planGap tape top own = .ok (.miss cause) ↔
      (m.options.allowGaps && (Tape.cursor tape).atGap) = false ∧ cause = none := by
  unfold planGap
  dsimp only
  cases hgap : (m.options.allowGaps && (Tape.cursor tape).atGap) with
  | true =>
      simp only [if_true, bind_eq_ok, Bool.true_eq_false, false_and, iff_false]
      rintro ⟨slot, -, h⟩
      cases h
  | false =>
      simp only [Bool.false_eq_true, if_false, pure, Except.pure, Except.ok.injEq, Plan.miss.injEq,
        true_and]
      exact eq_comm

theorem planToken_miss_iff {language : Language σ n} {node : NodeGoal} {slot : Slot}
    {text : String} : planToken tape language node slot text = .miss cause ↔
      text = "" ∧ language.grammar.isEmptyable node.nodeType = false ∧
        cause = some node.nodeType := by
  unfold planToken
  constructor
  · intro h
    split at h
    · rename_i hempty
      cases h
      simpa using hempty
    · cases h
  · rintro ⟨rfl, hempty, rfl⟩
    simp [hempty]

theorem planEntry_ne_miss {node : NodeGoal} {own slot : Slot} {place : Fin n}
    {intrinsic : Option String} :
    m.planEntry tape top a tail node own slot place intrinsic ≠ .ok (.miss cause) := by
  intro h
  obtain ⟨rule, -, h⟩ := bind_eq_ok.mp h
  cases h

theorem planFound_miss_iff {node : NodeGoal} {own : Slot} {place : Fin n} {found : Option String} :
    m.planFound tape top a tail node own place found = .ok (.miss cause) ↔
      found = some "" ∧ node.traits.token = true ∧ (∃ slot, nodeSlot top a own = .ok slot) ∧
        (m.catalog place).grammar.isEmptyable node.nodeType = false ∧
        cause = some node.nodeType := by
  constructor
  · intro h
    rcases found with _ | text
    · obtain ⟨slot, -, h⟩ := bind_eq_ok.mp h
      exact absurd h planEntry_ne_miss
    · obtain ⟨slot, hslot, h⟩ := bind_eq_ok.mp h
      split at h
      · rename_i htoken
        obtain ⟨rfl, hempty, rfl⟩ := planToken_miss_iff.mp (Except.ok.inj h)
        exact ⟨rfl, htoken, ⟨slot, hslot⟩, hempty, rfl⟩
      · exact absurd h planEntry_ne_miss
  · rintro ⟨rfl, htoken, ⟨slot, hslot⟩, hempty, rfl⟩
    refine bind_eq_ok.mpr ⟨slot, hslot, ?_⟩
    rw [if_pos htoken]
    exact congrArg Except.ok (planToken_miss_iff.mpr ⟨rfl, hempty, rfl⟩)

theorem Seeks.plan_eq {node : NodeGoal} {place : Fin n} {r : Recognizer} {found : Option String}
    (h : m.Seeks tape top a tail node place) (hintrinsic : node.intrinsic = some r)
    (hread : Tape.recognize tape r = .ok found) :
    m.plan tape top a tail = found.elim (.ok (.miss none)) fun text =>
      m.planFound tape top a tail node (m.ownSlot (m.goalFor top a)) place (some text) := by
  rw [plan_form rfl h.form h.hold, planNode_eq, h.resolved]
  simp only [mapError_ok, bind, Except.bind, h.checked, h.apart, Bool.false_eq_true, if_false,
    hintrinsic, hread]
  cases found <;> rfl

theorem Misses.plan_eq (h : m.Misses tape top a tail cause) :
    m.plan tape top a tail = .ok (.miss cause) := by
  cases h with
  | @text r hhold hr hread =>
      rw [Machine.plan_eq, hhold]
      simp only [Bool.false_and, Bool.false_eq_true, if_false, planForm]
      unfold Goal.recognizer? at hr
      split at hr
      · rename_i hform
        cases hr
        rw [hform]
        exact planText_miss_iff.mpr ⟨hread, rfl⟩
      · rename_i hform
        cases hr
        rw [hform]
        exact planText_miss_iff.mpr ⟨hread, rfl⟩
      · cases hr
  | gap hhold hform hgap =>
      rw [Machine.plan_eq, hhold]
      simp only [Bool.false_and, Bool.false_eq_true, if_false, planForm, hform]
      exact planGap_miss_iff.mpr ⟨hgap, rfl⟩
  | intrinsic hseeks hintrinsic hread => exact hseeks.plan_eq hintrinsic hread
  | token hseeks hintrinsic hread htoken hslot hempty =>
      rw [hseeks.plan_eq hintrinsic hread]
      exact planFound_miss_iff.mpr ⟨rfl, htoken, ⟨_, hslot⟩, hempty, rfl⟩

theorem misses_of_planNode {node : NodeGoal} (hform : (m.goalFor top a).form = .node node)
    (hhold : a.verb.isHold = true → tail = true)
    (h : m.planNode tape top a tail node (m.ownSlot (m.goalFor top a)) = .ok (.miss cause)) :
    m.Misses tape top a tail cause := by
  rw [planNode_eq] at h
  obtain ⟨place, hplace, h⟩ := bind_eq_ok.mp h
  obtain ⟨⟨⟩, hcheck, h⟩ := bind_eq_ok.mp h
  rw [mapError_eq_ok] at hplace hcheck
  split at h
  · -- Where a gap stands for the node, there is one.
    rename_i hgap
    simp only [interpolates, Bool.and_eq_true] at hgap
    have hmiss := (planGap_miss_iff.mp h).1
    simp [hgap] at hmiss
  · rename_i hgap
    have hseeks : m.Seeks tape top a tail node place :=
      ⟨hform, hhold, hplace, hcheck, by simpa using hgap⟩
    split at h
    · cases (planFound_miss_iff.mp h).1
    · rename_i r hintrinsic
      obtain ⟨found, hfound, h⟩ := bind_eq_ok.mp h
      rw [mapError_eq_ok] at hfound
      rcases found with _ | text
      · cases h
        exact .intrinsic hseeks hintrinsic hfound
      · obtain ⟨htext, htoken, ⟨slot, hslot⟩, hempty, rfl⟩ := planFound_miss_iff.mp h
        rw [htext] at hfound
        exact .token hseeks hintrinsic hfound htoken hslot hempty

theorem misses_of_plan (h : m.plan tape top a tail = .ok (.miss cause)) :
    m.Misses tape top a tail cause := by
  rw [plan_eq] at h
  split at h
  · cases h
  rename_i hreturned
  split at h
  · cases h
  rename_i hnode
  have hhold : (m.goalFor top a).node? = none → a.verb.isHold = false := by
    intro hnone
    simpa [hnone] using hnode
  unfold planForm at h
  split at h
  · rename_i hform
    obtain ⟨hread, rfl⟩ := planText_miss_iff.mp h
    exact .text (hhold (by simp only [Goal.node?, hform])) (by simp only [Goal.recognizer?, hform])
      hread
  · rename_i hform
    obtain ⟨hread, rfl⟩ := planText_miss_iff.mp h
    exact .text (hhold (by simp only [Goal.node?, hform])) (by simp only [Goal.recognizer?, hform])
      hread
  · rename_i hform
    obtain ⟨hgap, rfl⟩ := planGap_miss_iff.mp h
    exact .gap (hhold (by simp only [Goal.node?, hform])) hform hgap
  · obtain ⟨slot, -, h⟩ := bind_eq_ok.mp h
    cases h
  · obtain ⟨slot, -, h⟩ := bind_eq_ok.mp h
    cases h
  · rename_i node hform
    apply misses_of_planNode hform _ h
    intro hverb
    simpa [hverb] using hreturned

end Plan

end Machine

section Aborting

variable [Tape T] [Stepper σ]

/-- The active frame is about to be finished and fails. -/
structure Run.Failing (r : Run σ n T) (top : Frame σ n) (rest : List (Frame σ n))
    (cause : Option String) : Prop where
  frames : r.stack.frames = top :: rest
  failed : ∃ failed, r.flow = .complete failed ∧ top.fails failed r.cursor.position = true ∧
    cause = if failed then r.emptied else some top.nodeType

theorem Run.flow_enter {r r' : Run σ n T} {e : Entry σ n} (h : r.enter e = .ok r') :
    r'.flow = .resume none := by
  unfold enter at h
  obtain ⟨pushed, -, h⟩ := Machine.bind_eq_ok.mp h
  split at h
  · cases h
  · cases h
    rfl

omit [Tape T] [Stepper σ] in
theorem Run.flow_continueWith (r : Run σ n T) (value : Option Extent) (tail : Bool) :
    (r.continueWith value tail).flow ≠ .complete true := by
  cases tail <;> simp [continueWith]

namespace Machine

/-- An instruction fails and its production is aborted. -/
inductive Aborts (m : Machine σ n) (tape : T) (top : Frame σ n) :
    Instruction → Bool → Option String → Prop where
  | fail (tail : Bool) : m.Aborts tape top .fail tail none
  | missed {a : Attempt} {tail : Bool} {cause : Option String} : a.verb.policy.absorbs = false →
      m.Misses tape top a tail cause → m.Aborts tape top (.attempt a) tail cause

/-- The active frame begins to fail: its production is aborted, which takes a step, or it is about
to be finished without having matched anything, although it has to. Given are the frames at that
time and the type that has matched nothing, if there is one. -/
inductive BeginsToFail (m : Machine σ n) (r : Run σ n T) :
    Nat → List (Frame σ n) → Option String → Prop where
  | aborted {top : Frame σ n} {rest : List (Frame σ n)} {value : Option Extent} {i : Instruction}
      {tail : Bool} {production : Production σ} {cause : Option String} :
      r.Stepping top rest value (i.asStep tail) production → m.Aborts r.tape top i tail cause →
      m.BeginsToFail r 1 ({ top with production } :: rest) cause
  | emptied {top : Frame σ n} {rest : List (Frame σ n)} : r.stack.frames = top :: rest →
      r.flow = .complete false → top.capture.isEmptyAt r.cursor.position = true →
      top.allowEmpty = false → m.BeginsToFail r 0 (top :: rest) (some top.nodeType)

variable {m : Machine σ n} {r r' : Run σ n T} {top : Frame σ n} {rest : List (Frame σ n)}
  {production : Production σ} {i : Instruction} {tail : Bool} {cause : Option String}

theorem Aborts.dispatch_eq (h : m.Aborts r.tape top i tail cause)
    (hframes : r.stack.frames = { top with production } :: rest) :
    m.dispatch r i tail = .ok { r with emptied := cause, flow := .complete true } := by
  cases h with
  | fail => rfl
  | missed habsorbs hmisses =>
      have htop : r.stack.top? = some { top with production } := by simp [Stack.top?, hframes]
      simp only [dispatch, attempt, htop, plan_production, hmisses.plan_eq, habsorbs,
        Bool.false_eq_true, if_false]

theorem aborts_of_dispatch (hframes : r.stack.frames = { top with production } :: rest)
    (h : m.dispatch r i tail = .ok r') (hflow : r'.flow = .complete true) :
    m.Aborts r.tape top i tail r'.emptied ∧ r'.stack = r.stack := by
  cases i with
  | fail =>
      cases h
      exact ⟨.fail tail, rfl⟩
  | attempt a =>
      have htop : r.stack.top? = some { top with production } := by simp [Stack.top?, hframes]
      simp only [dispatch, attempt, htop, plan_production] at h
      rcases hplan : m.plan r.tape top a tail with outcome | emptied | ⟨tags, value⟩ | e
      · simp [hplan, Run.halt] at h
      · simp only [hplan] at h
        cases habsorbs : a.verb.policy.absorbs with
        | true =>
            simp only [habsorbs, if_true, Except.ok.injEq] at h
            subst h
            exact absurd hflow (Run.flow_continueWith _ _ _)
        | false =>
            simp only [habsorbs, Bool.false_eq_true, if_false, Except.ok.injEq] at h
            subst h
            exact ⟨.missed habsorbs (misses_of_plan hplan), rfl⟩
      · simp only [hplan, Except.ok.injEq] at h
        subst h
        exact absurd hflow (Run.flow_continueWith _ _ _)
      · simp only [hplan] at h
        rw [Run.flow_enter h] at hflow
        cases hflow
  | write | openSpan | closeSpan | bind =>
      cases h
      exact absurd hflow (Run.flow_continueWith _ _ _)

theorem Aborts.step_ok {value : Option Extent} (h : m.Aborts r.tape top i tail cause)
    (hstepping : r.Stepping top rest value (i.asStep tail) production) :
    ∃ s, m.step r = .ok s ∧ s.stack.frames = { top with production } :: rest ∧
      s.flow = .complete true ∧ s.emptied = cause := by
  refine ⟨{ stepped r top rest value (i.asStep tail) production with
    emptied := cause, flow := .complete true }, ?_, rfl, rfl, rfl⟩
  simp only [step, hstepping.flow, resume_eq hstepping]
  cases tail <;> exact Aborts.dispatch_eq h rfl

theorem BeginsToFail.failing {lead : Nat} {frames : List (Frame σ n)}
    (h : m.BeginsToFail r lead frames cause) :
    ∃ s top rest, m.steps lead r = .ok s ∧ frames = top :: rest ∧ s.Failing top rest cause := by
  cases h with
  | aborted hstepping haborts =>
      obtain ⟨s, hstep, hframes, hflow, hcause⟩ := haborts.step_ok hstepping
      refine ⟨s, _, _, ?_, rfl, hframes, true, hflow, rfl, hcause.symm⟩
      simp only [steps, hstep]
  | @emptied top rest hframes hflow hempty hallow =>
      refine ⟨r, top, rest, rfl, rfl, hframes, false, hflow, ?_, rfl⟩
      simp [Frame.fails, hempty, hallow]

theorem BeginsToFail.of_step {value : Option Extent} (hflow : r.flow = .resume value)
    (h : m.step r = .ok r') (hfailed : r'.flow = .complete true) :
    m.BeginsToFail r 1 r'.stack.frames r'.emptied := by
  simp only [step, hflow] at h
  rcases hframes : r.stack.frames with _ | ⟨top, rest⟩
  · simp [resume, Stack.top?, hframes, Run.haltWithoutFrame, Run.halt] at h
  rcases hstep : top.production.step r.cursor value with ⟨step, production⟩
  have hstepping : r.Stepping top rest value step production := ⟨hframes, hflow, hstep⟩
  -- An instruction that is dispatched is one that aborts.
  have hbegins : ∀ i tail, step = Instruction.asStep i tail →
      m.dispatch (stepped r top rest value step production) i tail = .ok r' →
      m.BeginsToFail r 1 r'.stack.frames r'.emptied := by
    rintro i tail rfl hdispatch
    obtain ⟨haborts, hstack⟩ := aborts_of_dispatch rfl hdispatch hfailed
    rw [hstack]
    exact .aborted hstepping haborts
  rw [resume_eq hstepping] at h
  rcases step with i | _ | i
  · exact hbegins i false rfl h
  · cases h
    cases hfailed
  · exact hbegins i true rfl h

end Machine

end Aborting

end GrammarMachine
