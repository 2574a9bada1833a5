import GrammarMachine.Proofs.Machine.Writes
import GrammarMachine.Proofs.Slot.Chains
import Mathlib.Data.List.Forall2

/-!
The slots of values. What is planned for an instruction depends on the slot of its frame only where
a value needs a slot: there the slot of the frame is merged with the one asked for. Along
transparent frames the slots asked for form a chain, which `Machine.Traced` keeps beside the states
of a run; the slot of each frame is the one that its chain stands for.
-/

namespace GrammarMachine

open Slot

variable {σ : Type} {n : Nat} {T : Type}

/-- Whether the outcome says that slots disagree. -/
def Outcome.isConflict : Outcome → Bool
  | .rejected (.conflictingSlots ..) => true
  | _ => false

/-- A result that is not an error for slots that disagree. -/
def Agreeable {α : Type} (x : Except Outcome α) : Prop :=
  ∀ outcome, x = .error outcome → outcome.isConflict = false

theorem agreeable_ok {α : Type} {a : α} : Agreeable (.ok a) :=
  nofun

theorem agreeable_faulted {α : Type} {x : Except Fault α} :
    Agreeable (x.mapError .faulted) := by
  intro outcome h
  obtain ⟨fault, -, rfl⟩ := Machine.mapError_eq_error.mp h
  rfl

/-- What is planned is the same whatever the slot of the frame is, or it follows from the slot of a
value. -/
inductive SlotCases {α : Type} (ask : Slot → Except Outcome Slot)
    (plans : Slot → Except Outcome α) : Prop where
  | fixed (result : Except Outcome α) : (∀ slot, plans slot = result) → Agreeable result →
      SlotCases ask plans
  | asked (rest : Slot → Except Outcome α) : (∀ slot, plans slot = ask slot >>= rest) →
      (∀ slot, Agreeable (rest slot)) → SlotCases ask plans

namespace SlotCases

variable {α β : Type} {ask : Slot → Except Outcome Slot} {plans : Slot → Except Outcome α}

theorem bind {x : Except Outcome β} {f : Slot → β → Except Outcome α} (hx : Agreeable x)
    (hf : ∀ b, x = .ok b → SlotCases ask fun slot => f slot b) :
    SlotCases ask fun slot => x >>= f slot := by
  rcases x with outcome | b
  · exact .fixed (.error outcome) (fun _ => rfl) fun outcome' h => hx outcome' (by cases h; rfl)
  · exact hf b rfl

theorem ask_of_conflict (h : SlotCases ask plans) {slot : Slot} {outcome : Outcome}
    (hplan : plans slot = .error outcome) (hconflict : outcome.isConflict = true) :
    ask slot = .error outcome := by
  cases h with
  | fixed result hresult hagreeable =>
      rw [hresult] at hplan
      rw [hagreeable outcome hplan] at hconflict
      cases hconflict
  | asked rest hrest hagreeable =>
      rw [hrest] at hplan
      rcases Machine.bind_eq_error.mp hplan with h | ⟨s, -, h⟩
      · exact h
      · rw [hagreeable s outcome h] at hconflict
        cases hconflict

theorem error_of_ask (h : SlotCases ask plans) {slot : Slot} {outcome : Outcome}
    (hask : ask slot = .error outcome) :
    plans slot = .error outcome ∨ ∀ other, plans other = plans slot := by
  cases h with
  | fixed result hresult _ =>
      right
      intro other
      rw [hresult, hresult]
  | asked rest hrest _ =>
      left
      rw [hrest, hask]
      rfl

end SlotCases

namespace Machine

section Plans

variable [Tape T] {m : Machine σ n} {tape : T} {top : Frame σ n} {a : Attempt} {tail : Bool}
  {own slot : Slot}

theorem agreeable_resolve {index : LanguageIndex n} {catalog : Catalog σ n} {scope : List (Fin n)}
    {reference : Option String} :
    Agreeable ((index.resolve catalog scope reference).mapError .rejected) := by
  intro outcome h
  obtain ⟨cause, h, rfl⟩ := mapError_eq_error.mp h
  simp only [LanguageIndex.resolve] at h
  repeat' split at h
  all_goals cases h
  rfl

theorem agreeable_checkNode {verb : Verb} {node : NodeGoal} {isNode isCover : Bool} :
    Agreeable ((checkNode tape verb node isNode isCover).mapError .rejected) := by
  intro outcome h
  obtain ⟨cause, h, rfl⟩ := mapError_eq_error.mp h
  simp only [checkNode, bind, Except.bind, pure, Except.pure] at h
  repeat' split at h
  all_goals cases h
  all_goals rfl

theorem agreeable_planEntry {node : NodeGoal} {place : Fin n} {intrinsic : Option String} :
    Agreeable (m.planEntry tape top a tail node own slot place intrinsic) := by
  intro outcome h
  rcases bind_eq_error.mp h with h | ⟨rule, -, h⟩
  · obtain ⟨cause, h, rfl⟩ := mapError_eq_error.mp h
    unfold Language.production at h
    split at h <;> cases h
    rfl
  · cases h

theorem agreeable_planText {r : Recognizer} :
    Agreeable (planText tape r own : Except Outcome (Plan σ n)) := by
  intro outcome h
  rcases bind_eq_error.mp h with h | ⟨found, -, h⟩
  · exact agreeable_faulted outcome h
  · rcases found with _ | text <;> cases h

theorem slotFor_slotCases (hhold : a.verb.isHold = false) {rest : Slot → Except Outcome (Plan σ n)}
    (hrest : ∀ slot, Agreeable (rest slot)) :
    SlotCases (fun slot => nodeSlot { top with slot } a own)
      fun slot => (Frame.slotFor { top with slot } own).mapError .rejected >>= rest := by
  refine .asked rest (fun slot => ?_) hrest
  rw [nodeSlot_of_slotFor hhold]

theorem planGap_slotCases (hhold : a.verb.isHold = false) :
    SlotCases (fun slot => nodeSlot { top with slot } a own)
      fun slot => m.planGap tape { top with slot } own := by
  by_cases hgap : (m.options.allowGaps && (Tape.cursor tape).atGap) = true
  · simp only [planGap, hgap, if_true]
    exact slotFor_slotCases hhold fun slot => agreeable_ok
  · simp only [planGap, hgap]
    exact .fixed (.ok (.miss none)) (fun _ => rfl) agreeable_ok

theorem planFound_slotCases {node : NodeGoal} {place : Fin n} {intrinsic : Option String} :
    SlotCases (fun slot => nodeSlot { top with slot } a own)
      fun slot => m.planFound tape { top with slot } a tail node own place intrinsic := by
  rcases intrinsic with _ | text
  · exact .asked (fun slot => m.planEntry tape top a tail node own slot place none) (fun _ => rfl)
      fun slot => agreeable_planEntry
  · refine .asked (fun slot =>
      if node.traits.token then .ok (planToken tape (m.catalog place) node slot text)
      else m.planEntry tape top a tail node own slot place (some text)) (fun _ => rfl) ?_
    intro slot
    split
    · exact agreeable_ok
    · exact agreeable_planEntry

theorem planNode_slotCases {node : NodeGoal} :
    SlotCases (fun slot => nodeSlot { top with slot } a own)
      fun slot => m.planNode tape { top with slot } a tail node own := by
  simp only [planNode_eq]
  refine .bind agreeable_resolve fun place _ => ?_
  have hcheck : Agreeable ((m.checkNodeAt tape a node place).mapError Outcome.rejected) :=
    agreeable_checkNode
  refine .bind hcheck fun _ _ => ?_
  by_cases hgap : m.interpolates tape a node own place = true
  · simp only [hgap, if_true]
    simp only [interpolates, Bool.and_eq_true, Bool.not_eq_true'] at hgap
    exact planGap_slotCases hgap.2
  · simp only [hgap, Bool.false_eq_true, if_false]
    rcases node.intrinsic with _ | r
    · exact planFound_slotCases
    · refine .bind agreeable_faulted fun found _ => ?_
      rcases found with _ | text
      · exact .fixed (.ok (.miss none)) (fun _ => rfl) agreeable_ok
      · exact planFound_slotCases

/-- Where a plan depends on the slot of the frame, it begins with the slot of the value. -/
theorem plan_slotCases (m : Machine σ n) (tape : T) (top : Frame σ n) (a : Attempt) (tail : Bool) :
    SlotCases (fun slot => nodeSlot { top with slot } a (m.ownSlot (m.goalFor top a)))
      fun slot => m.plan tape { top with slot } a tail := by
  have hgoal : ∀ slot, m.goalFor { top with slot } a = m.goalFor top a := fun _ => rfl
  simp only [plan_eq, hgoal]
  generalize m.goalFor top a = goal
  by_cases hreturned : (a.verb.isHold && !tail) = true
  · simp only [hreturned, if_true]
    exact .fixed _ (fun _ => rfl)
      fun outcome h => by cases h; rfl
  by_cases hnode : (a.verb.isHold && goal.node?.isNone) = true
  · simp only [hreturned, hnode, if_true]
    exact .fixed _ (fun _ => rfl)
      fun outcome h => by cases h; rfl
  simp only [hreturned, hnode, planForm]
  have hhold : goal.node? = none → a.verb.isHold = false := by
    intro h
    simpa [h] using hnode
  unfold Goal.node? at hhold
  rcases hform : goal.form with node | text | pattern | _ | _ | _
  · exact planNode_slotCases
  · exact .fixed (planText tape (.literal text) (m.ownSlot goal)) (fun _ => rfl) agreeable_planText
  · exact .fixed (planText tape (.pattern pattern) (m.ownSlot goal)) (fun _ => rfl)
      agreeable_planText
  · rw [hform] at hhold
    exact planGap_slotCases (hhold rfl)
  · rw [hform] at hhold
    exact slotFor_slotCases (hhold rfl) fun slot => agreeable_ok
  · rw [hform] at hhold
    exact slotFor_slotCases (hhold rfl) fun slot => agreeable_ok

/-- The slots asked for on the way to the value of an instruction, outermost first, given those on
the way to its frame. A frame that is not transparent begins a new chain, and a hold asks for no
slot of its own. -/
def chainTo (m : Machine σ n) (top : Frame σ n) (chain : List Slot) (a : Attempt) : List Slot :=
  match top.isTransparent, a.verb.isHold with
  | true, true => chain
  | true, false => chain ++ [m.ownSlot (m.goalFor top a)]
  | false, true => [.anonymous]
  | false, false => [m.ownSlot (m.goalFor top a)]

theorem nodeSlot_joins {chain : List Slot} (h : Joins chain top.slot) (a : Attempt) :
    match nodeSlot top a (m.ownSlot (m.goalFor top a)) with
    | .ok slot => Joins (m.chainTo top chain a) slot
    | .error outcome =>
        ∃ error, outcome = .rejected error ∧ Disagreement (m.chainTo top chain a) error := by
  unfold nodeSlot Frame.slotFor chainTo
  rcases htransparent : top.isTransparent with _ | _
  · rcases hhold : a.verb.isHold with _ | _
    · exact joins_singleton _
    · exact joins_singleton _
  · rcases hhold : a.verb.isHold with _ | _
    · have hmerge := h.merge (joins_singleton (m.ownSlot (m.goalFor top a)))
      simp only [Bool.false_eq_true, if_false, if_true]
      rcases hslot : top.slot.merge (m.ownSlot (m.goalFor top a)) with error | slot
      · rw [hslot] at hmerge
        exact ⟨error, rfl, hmerge⟩
      · rw [hslot] at hmerge
        exact hmerge
    · exact h

end Plans

section Runs

variable [Tape T] [Stepper σ] {m : Machine σ n} {tape : T} {props : Option Json} {r r' : Run σ n T}
  {top : Frame σ n} {a : Attempt} {tail : Bool} {plan : Except Outcome (Plan σ n)}
  {chain : List Slot} {chains : List (List Slot)}

/-- The slots of the frames, the active one first. -/
def slotsOf (frames : List (Frame σ n)) : List Slot :=
  frames.map Frame.slot

/-- What a step does to the number of frames, to that of productions and to the slots. -/
inductive SlotTurn (m : Machine σ n) (r : Run σ n T) (size productions : Nat) (slots : List Slot) :
    Prop where
  | kept : size = r.stack.size → productions = r.productions → slots = slotsOf r.stack.frames →
      SlotTurn m r size productions slots
  | pushed {top : Frame σ n} {a : Attempt} {tail : Bool} {e : Entry σ n} :
      m.Plans r top a tail (.ok (.enter e)) → r.stack.size < size →
      slots = e.frame.slot :: slotsOf r.stack.frames → SlotTurn m r size productions slots
  | spliced {top : Frame σ n} {a : Attempt} {tail : Bool} {e : Entry σ n} :
      m.Plans r top a tail (.ok (.enter e)) → size = r.stack.size → r.productions < productions →
      slots = e.frame.slot :: (slotsOf r.stack.frames).tail → SlotTurn m r size productions slots
  | finished : size < r.stack.size → slots = (slotsOf r.stack.frames).tail →
      SlotTurn m r size productions slots

omit [Tape T] [Stepper σ] in
theorem slotsOf_unstarted (frames : List (Frame σ n)) :
    slotsOf (frames.map Frame.unstarted) = slotsOf frames :=
  List.map_map

theorem Turn.slotTurn {o : Outline σ n} (h : m.Turn r o) :
    m.SlotTurn r o.frames.length o.productions (slotsOf o.frames) := by
  cases h with
  | kept hstepping _ =>
      refine .kept ?_ rfl ?_
      · simp [Stack.size, hstepping.frames]
      · rw [slotsOf_unstarted, hstepping.frames]
        rfl
  | pushed hstepping hplan _ =>
      refine .pushed ⟨_, _, _, hstepping, hplan⟩ ?_ ?_
      · simp [Stack.size, hstepping.frames]
      · rw [slotsOf_unstarted, hstepping.frames]
        rfl
  | spliced hstepping hplan _ =>
      refine .spliced ⟨_, _, _, hstepping, hplan⟩ ?_ (Nat.lt_succ_self _) ?_
      · simp [Stack.size, hstepping.frames]
      · rw [slotsOf_unstarted, hstepping.frames]
        rfl
  | finished hframes _ _ =>
      refine .finished ?_ ?_
      · simp [Stack.size, hframes]
      · rw [slotsOf_unstarted, hframes]
        rfl

theorem Reaches.slotTurn (h : m.Reaches tape props r) (hstep : m.step r = .ok r') :
    m.SlotTurn r r'.stack.size r'.productions (slotsOf r'.stack.frames) := by
  have hslots : slotsOf r'.outline.frames = slotsOf r'.stack.frames := slotsOf_unstarted _
  rw [← hslots, ← r'.length_outline]
  exact (h.turn hstep).slotTurn

/-- The chains of slots that lead to the frames of a run, the active frame first. A rule that is
entered, above the active frame or in its place, has the chain of the value it was asked for. -/
inductive Traced (m : Machine σ n) (tape : T) (props : Option Json) :
    Run σ n T → List (List Slot) → Prop where
  | start {r : Run σ n T} : m.start tape props = .ok r → Traced m tape props r [[.anonymous]]
  | kept {r r' : Run σ n T} {chains : List (List Slot)} : Traced m tape props r chains →
      m.step r = .ok r' → r'.stack.size = r.stack.size → r'.productions = r.productions →
      Traced m tape props r' chains
  | pushed {r r' : Run σ n T} {top : Frame σ n} {a : Attempt} {tail : Bool}
      {plan : Except Outcome (Plan σ n)} {chain : List Slot} {chains : List (List Slot)} :
      Traced m tape props r (chain :: chains) → m.Plans r top a tail plan → m.step r = .ok r' →
      r.stack.size < r'.stack.size →
      Traced m tape props r' (m.chainTo top chain a :: chain :: chains)
  | spliced {r r' : Run σ n T} {top : Frame σ n} {a : Attempt} {tail : Bool}
      {plan : Except Outcome (Plan σ n)} {chain : List Slot} {chains : List (List Slot)} :
      Traced m tape props r (chain :: chains) → m.Plans r top a tail plan → m.step r = .ok r' →
      r'.stack.size = r.stack.size → r.productions < r'.productions →
      Traced m tape props r' (m.chainTo top chain a :: chains)
  | finished {r r' : Run σ n T} {chain : List Slot} {chains : List (List Slot)} :
      Traced m tape props r (chain :: chains) → m.step r = .ok r' →
      r'.stack.size < r.stack.size → Traced m tape props r' chains

theorem Traced.reaches (h : m.Traced tape props r chains) : m.Reaches tape props r := by
  induction h with
  | start hstart => exact ⟨_, 0, hstart, rfl⟩
  | kept _ hstep _ _ ih => exact ih.step hstep
  | pushed _ _ hstep _ ih => exact ih.step hstep
  | spliced _ _ hstep _ _ ih => exact ih.step hstep
  | finished _ hstep _ ih => exact ih.step hstep

theorem Plans.joins {e : Entry σ n} (h : m.Plans r top a tail (.ok (.enter e)))
    (hchain : Joins chain top.slot) : Joins (m.chainTo top chain a) e.frame.slot := by
  obtain ⟨node, slot, place, intrinsic, rule, -, -, hslot, -, rfl⟩ := plan_enter_resolved h.plan
  have hjoins := nodeSlot_joins (m := m) hchain a
  rw [hslot] at hjoins
  exact hjoins

/-- The slot of each frame is the one that its chain stands for. -/
theorem Traced.joins (h : m.Traced tape props r chains) :
    List.Forall₂ Joins chains (slotsOf r.stack.frames) := by
  -- Each case is the one turn that changes sizes and numbers in its way.
  induction h with
  | @start r hstart =>
      have hslots : slotsOf r.outline.frames = slotsOf r.stack.frames := slotsOf_unstarted _
      rw [← hslots, start_outline hstart]
      exact .cons (joins_singleton _) .nil
  | @kept r r' chains htraced hstep hsame hmade ih =>
      cases htraced.reaches.slotTurn hstep with
      | kept _ _ hslots =>
          rw [hslots]
          exact ih
      | _ => omega
  | @pushed r r' top a tail plan chain chains htraced hplans hstep hgrown ih =>
      cases htraced.reaches.slotTurn hstep with
      | pushed hplans' _ hslots =>
          obtain ⟨rfl, rfl, rfl, rfl⟩ := hplans.unique hplans'
          obtain ⟨rest, hframes⟩ := hplans.frames
          rw [hslots]
          rw [hframes] at ih ⊢
          obtain ⟨hchain, -⟩ := List.forall₂_cons.mp ih
          exact .cons (hplans.joins hchain) ih
      | _ => omega
  | @spliced r r' top a tail plan chain chains htraced hplans hstep hsame hmade ih =>
      cases htraced.reaches.slotTurn hstep with
      | spliced hplans' _ _ hslots =>
          obtain ⟨rfl, rfl, rfl, rfl⟩ := hplans.unique hplans'
          obtain ⟨rest, hframes⟩ := hplans.frames
          rw [hslots]
          rw [hframes] at ih ⊢
          obtain ⟨hchain, hchains⟩ := List.forall₂_cons.mp ih
          exact .cons (hplans.joins hchain) hchains
      | _ => omega
  | @finished r r' chain chains htraced hstep hless ih =>
      cases htraced.reaches.slotTurn hstep with
      | finished _ hslots =>
          rw [hslots]
          generalize slotsOf r.stack.frames = slots at ih
          cases ih with
          | cons _ hchains => exact hchains
      | _ => omega

theorem Traced.exists_cons (h : m.Traced tape props r chains) (hframes : r.stack.frames ≠ []) :
    ∃ chain rest, chains = chain :: rest := by
  have hjoins := h.joins
  rcases hstack : r.stack.frames with _ | ⟨top, below⟩
  · exact absurd hstack hframes
  · rw [hstack] at hjoins
    cases hjoins with
    | cons => exact ⟨_, _, rfl⟩

theorem Reaches.exists_traced (h : m.Reaches tape props r) :
    ∃ chains, m.Traced tape props r chains := by
  refine h.induction ?_ ?_
  · intro first hfirst
    exact ⟨_, .start hfirst⟩
  · rintro r r' hr ⟨chains, htraced⟩ hstep
    cases hr.slotTurn hstep with
    | kept hsize hmade _ => exact ⟨chains, .kept htraced hstep hsize hmade⟩
    | pushed hplans hgrown _ =>
        obtain ⟨rest, hframes⟩ := hplans.frames
        obtain ⟨chain, chains, rfl⟩ := htraced.exists_cons (by simp [hframes])
        exact ⟨_, .pushed htraced hplans hstep hgrown⟩
    | spliced hplans hsize hmade _ =>
        obtain ⟨rest, hframes⟩ := hplans.frames
        obtain ⟨chain, chains, rfl⟩ := htraced.exists_cons (by simp [hframes])
        exact ⟨_, .spliced htraced hplans hstep hsize hmade⟩
    | finished hless _ =>
        have hframes : r.stack.frames ≠ [] := by
          intro hnil
          simp [Stack.size, hnil] at hless
        obtain ⟨chain, chains, rfl⟩ := htraced.exists_cons hframes
        exact ⟨_, .finished htraced hstep hless⟩

theorem Traced.head (h : m.Traced tape props r chains) (hplans : m.Plans r top a tail plan) :
    ∃ chain ∈ chains.head?, Joins chain top.slot := by
  obtain ⟨rest, hframes⟩ := hplans.frames
  obtain ⟨chain, chains, rfl⟩ := h.exists_cons (by simp [hframes])
  have hjoins := h.joins
  rw [hframes] at hjoins
  exact ⟨chain, rfl, (List.forall₂_cons.mp hjoins).1⟩

theorem Plans.step_error {outcome : Outcome} (h : m.Plans r top a tail (.error outcome)) :
    ∃ halt, m.step r = .error halt ∧ halt.outcome = outcome := by
  obtain ⟨rest, value, production, hstepping, hplan⟩ := h
  have hplan' : m.plan r.tape { top with production } a tail = .error outcome := by
    rw [m.plan_production]
    exact hplan
  have hdispatch : ∀ stepped : Run σ n T, stepped.stack.frames = { top with production } :: rest →
      stepped.tape = r.tape → m.dispatch stepped (.attempt a) tail = .error ⟨stepped, outcome⟩ := by
    intro stepped hframes htape
    have htop : stepped.stack.top? = some { top with production } := by simp [Stack.top?, hframes]
    simp only [dispatch, attempt, htop, htape, hplan']
    rfl
  rw [step, hstepping.flow]
  dsimp only
  rw [resume_eq hstepping]
  cases tail
  · exact ⟨_, hdispatch _ rfl rfl, rfl⟩
  · exact ⟨_, hdispatch _ rfl rfl, rfl⟩

omit [Tape T] [Stepper σ] in
theorem not_ofLoop_of_isConflict {outcome : Outcome} (h : outcome.isConflict = true) :
    outcome.ofLoop = false := by
  unfold Outcome.isConflict at h
  split at h
  · rfl
  · cases h

/-- Slots that disagree end a run only as the refusal of a plan. -/
theorem refuses_of_conflict {halt : Halt σ n T} (h : m.step r = .error halt)
    (hconflict : halt.outcome.isConflict = true) : m.Refuses r halt.outcome := by
  have hyields := m.yields_step r
  rw [h] at hyields
  rcases hyields.2 with hloop | hrefuses
  · rw [not_ofLoop_of_isConflict hconflict] at hloop
    cases hloop
  · exact hrefuses

/-- What becomes of the slot of a value that the active production asks for, given the chain of the
slots asked for on the way to it. -/
structure Lands (m : Machine σ n) (r : Run σ n T) (top : Frame σ n) (a : Attempt) (tail : Bool)
    (chain : List Slot) : Prop where
  /-- References are written for the slot of the chain. -/
  written : ∀ r' s, m.step r = .ok r' → r.WritesTo r' (.reference s) →
    ∃ slot, Joins chain slot ∧ (s = slot ∨ s = slot.introducer)
  /-- The run ends with slots that disagree exactly if they do and a slot is needed. -/
  refused : (∃ halt, m.step r = .error halt ∧ halt.outcome.isConflict = true) ↔
    ¬Alike chain ∧ ∃ slot, m.plan r.tape { top with slot } a tail ≠ m.plan r.tape top a tail
  shown : ∀ halt, m.step r = .error halt → halt.outcome.isConflict = true →
    ∃ error, halt.outcome = .rejected error ∧ Disagreement chain error

omit [Tape T] [Stepper σ] in
theorem nodeSlot_anonymous (top : Frame σ n) (a : Attempt) (own : Slot) (outcome : Outcome) :
    nodeSlot { top with slot := .anonymous } a own ≠ .error outcome := by
  unfold nodeSlot Frame.slotFor
  intro h
  split at h
  · cases h
  · split at h
    · cases h
    · cases h

/-- For slots that disagree there is no slot, and where it matters this is what ends the run. -/
theorem Plans.lands (h : m.Plans r top a tail plan) (hchain : Joins chain top.slot) :
    m.Lands r top a tail (m.chainTo top chain a) := by
  have hjoins := nodeSlot_joins (m := m) hchain a
  have hcases := m.plan_slotCases r.tape top a tail
  have hrefused : ∀ halt, m.step r = .error halt → halt.outcome.isConflict = true →
      m.plan r.tape top a tail = .error halt.outcome := by
    intro halt hstep hconflict
    obtain ⟨top', a', tail', hplans⟩ := refuses_of_conflict hstep hconflict
    obtain ⟨rfl, rfl, rfl, rfl⟩ := h.unique hplans
    exact h.plan
  have hshown : ∀ halt, m.step r = .error halt → halt.outcome.isConflict = true →
      ∃ error, halt.outcome = .rejected error ∧ Disagreement (m.chainTo top chain a) error := by
    intro halt hstep hconflict
    have hask : nodeSlot top a (m.ownSlot (m.goalFor top a)) = .error halt.outcome :=
      hcases.ask_of_conflict (hrefused halt hstep hconflict) hconflict
    rw [hask] at hjoins
    exact hjoins
  refine ⟨?_, ⟨?_, ?_⟩, hshown⟩
  · intro r' s hstep hwrites
    obtain ⟨top', a', tail', plan', slot, hplans, hslot, hs⟩ :=
      (writes_of_step hstep hwrites).reference
    obtain ⟨rfl, rfl, -, -⟩ := h.unique hplans
    rw [hslot] at hjoins
    exact ⟨slot, hjoins, hs⟩
  · rintro ⟨halt, hstep, hconflict⟩
    obtain ⟨error, -, hdisagree⟩ := hshown halt hstep hconflict
    -- Without a name the frame leaves the slot to the value, so then nothing is refused.
    refine ⟨hdisagree.not_alike, .anonymous, ?_⟩
    intro hsame
    have hplan := hsame.trans (hrefused halt hstep hconflict)
    exact nodeSlot_anonymous top a _ _ (hcases.ask_of_conflict hplan hconflict)
  · rintro ⟨hdiffer, slot, hmatters⟩
    rcases hask : nodeSlot top a (m.ownSlot (m.goalFor top a)) with outcome | joined
    · rw [hask] at hjoins
      obtain ⟨error, rfl, hdisagree⟩ := hjoins
      obtain ⟨outer, inner, -, -, rfl, -⟩ := hdisagree
      have hplan : m.plan r.tape top a tail =
          .error (.rejected (.conflictingSlots outer inner)) := by
        rcases hcases.error_of_ask hask with hplan | hsame
        · exact hplan
        · exact absurd (hsame slot) hmatters
      rw [h.plan] at hplan
      subst hplan
      obtain ⟨halt, hstep, houtcome⟩ := h.step_error
      exact ⟨halt, hstep, by rw [houtcome]; rfl⟩
    · rw [hask] at hjoins
      exact absurd hjoins.alike hdiffer

/-- Merging the slots of a chain gives the same in every grouping: the slot that the chain stands
for if its named slots agree, and else an error that shows two of them. In a run each frame has the
slot of its chain, which goes on along transparent frames, those that were replaced included. A
value lands in the slot of its chain alone, and a run ends with slots that disagree exactly where
those of a chain do and a slot is needed. -/
theorem run_slots (m : Machine σ n) (tape : T) (props : Option Json) :
    (∀ g : Grouping, ((∃ slot, g.merge = .ok slot) ↔ Alike g.slots) ∧
      (∀ slot, g.merge = .ok slot ↔ Joins g.slots slot) ∧
      ∀ error, g.merge = .error error → Disagreement g.slots error) ∧
    (∀ r, m.Reaches tape props r → ∃ chains, m.Traced tape props r chains) ∧
    (∀ r chains, m.Traced tape props r chains →
      List.Forall₂ Joins chains (slotsOf r.stack.frames) ∧
      (∀ top a tail plan, m.Plans r top a tail plan → ∃ chain ∈ chains.head?,
        m.Lands r top a tail (m.chainTo top chain a)) ∧
      ∀ r' slot, m.step r = .ok r' → r.WritesTo r' (.reference slot) →
        ∃ top a tail plan, m.Plans r top a tail plan) ∧
    ∀ fuel halt, m.run tape props fuel = some halt → halt.outcome.isConflict = true →
      ∃ r, m.Reaches tape props r ∧ m.step r = .error halt ∧ m.Refuses r halt.outcome := by
  refine ⟨?_, fun r hr => hr.exists_traced, ?_, ?_⟩
  · intro g
    exact ⟨g.exists_merge_iff, fun _ => Grouping.merge_eq_ok_iff,
      fun _ => Grouping.disagreement_of_merge⟩
  · intro r chains htraced
    refine ⟨htraced.joins, ?_, ?_⟩
    · intro top a tail plan hplans
      obtain ⟨chain, hhead, hchain⟩ := htraced.head hplans
      exact ⟨chain, hhead, hplans.lands hchain⟩
    · intro r' slot hstep hwrites
      obtain ⟨top, a, tail, plan, -, hplans, -⟩ := (writes_of_step hstep hwrites).reference
      exact ⟨top, a, tail, plan, hplans⟩
  · intro fuel halt hrun hconflict
    have hwritten : ∀ r, m.Reaches tape props r → ∀ tag, m.Writes r tag → True :=
      fun _ _ _ _ => trivial
    obtain ⟨-, hloop | hrefuses⟩ := run_goes hrun trivial (fun _ => trivial) hwritten
    · rw [not_ofLoop_of_isConflict hconflict] at hloop
      cases hloop
    · exact hrefuses

end Runs

/-- Two nested rules without tags ask for a leaf. The outer one names the slot `x` and is replaced
by the inner one, which asks for a slot of its own. -/
def nestedReader (slot : Slot) : Machine Automaton 1 where
  catalog _ := {
    url := "urn:nested"
    grammar := ({} : Grammar Automaton).node "Leaf"
      |>.define "Outer" (.script [] (some (.eat ((Goal.node "Inner").named "x"))))
      |>.define "Inner" (.script [.eat { Goal.token "Leaf" (.literal "a") with slot := some slot }]
        none) }
  language := Fin.last 0
  goal := .node "Outer"

/-- The state in which the inner rule asks for the leaf, and the chain that leads there. -/
theorem nestedReader_traced (slot : Slot) : ∃ r top a plan,
    (nestedReader slot).stateAt? (.ofSegments [some "a"]) 2 = some r ∧
    (nestedReader slot).Traced (Draft.fresh (.ofSegments [some "a"])) none r
      [[.anonymous, { name := "x" }], [.anonymous]] ∧
    (nestedReader slot).Plans r top a false plan ∧
    (nestedReader slot).chainTo top [.anonymous, { name := "x" }] a =
      [.anonymous, { name := "x" }, slot] := by
  obtain ⟨r₀, r₁, r₂, outer, inner, top, a, a', a'', plan, plan', plan'', hstart, hfirst, hsecond,
      hstate, houter, hinner, htop, hchains, hsizes, hmade⟩ :
      ∃ r₀ r₁ r₂ outer inner top a a' a'' plan plan' plan'',
      (nestedReader slot).start (Draft.fresh (.ofSegments [some "a"])) none = .ok r₀ ∧
      (nestedReader slot).step r₀ = .ok r₁ ∧ (nestedReader slot).step r₁ = .ok r₂ ∧
      (nestedReader slot).stateAt? (.ofSegments [some "a"]) 2 = some r₂ ∧
      (nestedReader slot).Plans r₀ outer a false plan ∧
      (nestedReader slot).Plans r₁ inner a' true plan' ∧
      (nestedReader slot).Plans r₂ top a'' false plan'' ∧
      [(nestedReader slot).chainTo outer [.anonymous] a,
        (nestedReader slot).chainTo inner [.anonymous] a',
        (nestedReader slot).chainTo top [.anonymous, { name := "x" }] a''] =
        [[.anonymous], [.anonymous, { name := "x" }], [.anonymous, { name := "x" }, slot]] ∧
      [r₀.stack.size, r₁.stack.size, r₂.stack.size] = [1, 2, 2] ∧
      [r₁.productions, r₂.productions] = [2, 3] :=
    ⟨_, _, _, _, _, _, _, _, _, _, _, _, rfl, rfl, rfl, rfl, ⟨_, _, _, ⟨rfl, rfl, rfl⟩, rfl⟩,
      ⟨_, _, _, ⟨rfl, rfl, rfl⟩, rfl⟩, ⟨_, _, _, ⟨rfl, rfl, rfl⟩, rfl⟩, rfl, rfl, rfl⟩
  simp only [List.cons.injEq, and_true] at hchains hsizes hmade
  obtain ⟨hchain, hchain', hchain''⟩ := hchains
  have hpushed := Traced.pushed (.start hstart) houter hfirst (by omega)
  rw [hchain] at hpushed
  have hspliced := hpushed.spliced hinner hsecond (by omega) (by omega)
  rw [hchain'] at hspliced
  exact ⟨r₂, top, a'', plan'', hstate, hspliced, htop, hchain''⟩

/-- An array that has no name adds that gaps are permitted, and the leaf lands in the slot `x`;
another name ends the run. -/
theorem run_slots_nestedReader :
    (∃ (r r' : Run Automaton 1 Draft) (slot : Slot),
      (nestedReader ⟨".", true, ⟨false, true⟩⟩).step r = .ok r' ∧
      r.WritesTo r' (.reference { name := "x", traits := ⟨false, true⟩ }) ∧
      Joins [.anonymous, { name := "x" }, ⟨".", true, ⟨false, true⟩⟩] slot ∧
      ({ name := "x", traits := ⟨false, true⟩ } = slot ∨
        { name := "x", traits := ⟨false, true⟩ } = slot.introducer)) ∧
    ∃ (r : Run Automaton 1 Draft) (halt : Halt Automaton 1 Draft),
      (nestedReader { name := "y" }).step r = .error halt ∧
      halt.outcome.isConflict = true ∧
      ¬Alike [.anonymous, { name := "x" }, { name := "y" }] := by
  constructor
  · obtain ⟨r, top, a, plan, hstate, htraced, hplans, hchain⟩ :=
      nestedReader_traced ⟨".", true, ⟨false, true⟩⟩
    obtain ⟨r₂, r', close, text, leaf, stepped, hstate', hstep, hevents⟩ :
        ∃ r₂ r' close text leaf stepped,
        (nestedReader ⟨".", true, ⟨false, true⟩⟩).stateAt? (.ofSegments [some "a"]) 2 = some r₂ ∧
        (nestedReader ⟨".", true, ⟨false, true⟩⟩).step r₂ = .ok r' ∧
        r'.events = [close, text, leaf, .performed (.advance (.reference
          { name := "x", traits := ⟨false, true⟩ })), stepped] ++ r₂.events :=
      ⟨_, _, _, _, _, _, rfl, rfl, rfl⟩
    obtain rfl : r = r₂ := Option.some.inj (hstate.symm.trans hstate')
    obtain ⟨-, hlands, -⟩ := (run_slots _ _ _).2.2.1 r _ htraced
    obtain ⟨chain, hhead, hlands⟩ := hlands top a false plan hplans
    cases hhead
    rw [hchain] at hlands
    have hwrites : r.WritesTo r' (.reference { name := "x", traits := ⟨false, true⟩ }) :=
      ⟨_, hevents, by simp [Wrote]⟩
    obtain ⟨slot, hjoins, hslot⟩ := hlands.written r' _ hstep hwrites
    exact ⟨r, r', slot, hstep, hwrites, hjoins, hslot⟩
  · obtain ⟨r, top, a, plan, hstate, htraced, hplans, hchain⟩ := nestedReader_traced { name := "y" }
    obtain ⟨r₂, halt, hstate', hstep, hconflict⟩ : ∃ r₂ halt,
        (nestedReader { name := "y" }).stateAt? (.ofSegments [some "a"]) 2 = some r₂ ∧
        (nestedReader { name := "y" }).step r₂ = .error halt ∧ halt.outcome.isConflict = true :=
      ⟨_, _, rfl, rfl, rfl⟩
    obtain rfl : r = r₂ := Option.some.inj (hstate.symm.trans hstate')
    obtain ⟨-, hlands, -⟩ := (run_slots _ _ _).2.2.1 r _ htraced
    obtain ⟨chain, hhead, hlands⟩ := hlands top a false plan hplans
    cases hhead
    rw [hchain] at hlands
    exact ⟨r, halt, hstep, hconflict, (hlands.refused.mp ⟨halt, hstep, hconflict⟩).1⟩

end Machine

end GrammarMachine
