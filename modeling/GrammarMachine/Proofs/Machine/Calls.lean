import GrammarMachine.Proofs.Machine.Places

/-!
The calls on productions. Each production is stepped first without a value, then once for each
instruction that it has asked for, and it is given up at the end. The stage of a production tells
how far its calls have come. A state is orderly if the stages of all productions fit the stack:
those of the frames below the active one wait, those without a frame have been given up.
-/

namespace GrammarMachine

variable {σ : Type} {n : Nat} {T : Type}

/-- A call on a production. -/
inductive Call where
  | step (input : Option Extent) (answer : Step)
  | finalize

def Call.isFinalize : Call → Bool
  | .step .. => false
  | .finalize => true

/-- The calls on the production with a number, the latest first. -/
def callsOn (serial : Nat) (events : List Event) : List Call :=
  events.filterMap fun
    | .stepped number _ _ input answer =>
        if number = serial then some (.step input answer) else none
    | .finalized number _ _ => if number = serial then some .finalize else none
    | _ => none

/-- The numbers of the productions made so far, the latest first. -/
def made (events : List Event) : List Nat :=
  (events.filterMap fun
    | .invoked serial _ => some serial
    | _ => none) ++ [0]

/-- How far the calls on a production have come: none, it has asked for an instruction, it has
returned, it has been given up. -/
inductive Stage where
  | fresh
  | waiting
  | returned
  | finalized
  deriving DecidableEq

/-- The stage after a step. -/
def Step.stage : Step → Stage
  | .yield _ => .waiting
  | .done _ => .returned

/-- The stage after some calls, the latest of which stands first. It is none if they are out of
order. -/
def stage : List Call → Option Stage
  | [] => some .fresh
  | .step input answer :: earlier =>
      match stage earlier with
      | some .fresh => if input.isNone then some answer.stage else none
      | some .waiting => some answer.stage
      | _ => none
  | .finalize :: earlier =>
      match stage earlier with
      | some .waiting | some .returned => some .finalized
      | _ => none

/-- The stages of the active production that fit what the machine does next. -/
def Flow.Suits (returning : Bool) (reached : Option Stage) : Flow → Prop
  | .resume value => returning = false ∧
      (reached = some .waiting ∨ reached = some .fresh ∧ value = none)
  | .complete false => reached = some .returned
  | .complete true => reached = some .waiting ∨ reached = some .returned

theorem Flow.Suits.isSome {flow : Flow} {returning : Bool} {reached : Option Stage}
    (h : flow.Suits returning reached) : reached.isSome = true := by
  rcases flow with value | _ | _
  · rcases h.2 with rfl | ⟨rfl, -⟩ <;> rfl
  · obtain rfl : reached = some .returned := h
    rfl
  · rcases h with rfl | rfl <;> rfl

/-- The calls that the next step may make on the active production `f`. -/
def Run.MayCall [Tape T] [Stepper σ] (r : Run σ n T) (f : Frame σ n) (calls : List Call) : Prop :=
  match r.flow with
  | .resume value =>
      let answer := (f.production.step r.cursor value).1
      calls = [.step value answer] ∨
        (∃ i, answer = .done (some i)) ∧ calls = [.finalize, .step value answer]
  | .complete _ => calls = [.finalize]

theorem countP_isFinalize {calls : List Call} {reached : Stage} (h : stage calls = some reached) :
    calls.countP Call.isFinalize = if reached = .finalized then 1 else 0 := by
  induction calls generalizing reached with
  | nil =>
      cases h
      rfl
  | cons call earlier ih =>
      cases call with
      | step input answer =>
          rw [stage] at h
          rw [List.countP_cons_of_neg (by simp [Call.isFinalize])]
          split at h
          · rename_i hearlier
            split at h
            · cases h
              rw [ih hearlier]
              cases answer <;> rfl
            · cases h
          · rename_i hearlier
            cases h
            rw [ih hearlier]
            cases answer <;> rfl
          · cases h
      | finalize =>
          rw [stage] at h
          rw [List.countP_cons_of_pos rfl]
          split at h
          · rename_i hearlier
            cases h
            rw [ih hearlier]
            rfl
          · rename_i hearlier
            cases h
            rw [ih hearlier]
            rfl
          · cases h

theorem stage_step {value : Option Extent} {calls : List Call} {returning : Bool}
    (h : (Flow.resume value).Suits returning (stage calls)) (answer : Step) :
    stage (.step value answer :: calls) = some answer.stage := by
  rcases h.2 with hwaiting | ⟨hfresh, rfl⟩
  · simp only [stage, hwaiting]
  · simp only [stage, hfresh]
    rfl

theorem stage_finalize {failed returning : Bool} {calls : List Call}
    (h : (Flow.complete failed).Suits returning (stage calls)) :
    stage (.finalize :: calls) = some .finalized := by
  cases failed with
  | false =>
      change stage calls = some .returned at h
      simp only [stage, h]
  | true =>
      rcases h with hwaiting | hreturned
      · simp only [stage, hwaiting]
      · simp only [stage, hreturned]

theorem callsOn_milestones (serial : Nat) (events : List Event) :
    callsOn serial (events.filter Event.isMilestone) = callsOn serial events :=
  filterMap_milestones (fun _ _ => rfl) events

theorem made_milestones (events : List Event) :
    made (events.filter Event.isMilestone) = made events := by
  unfold made
  rw [filterMap_milestones (fun _ _ => rfl)]

section Events

variable (serial number : Nat) (nodeType : String) (events : List Event)

@[simp] theorem callsOn_stepped (cursor : Cursor) (input : Option Extent) (answer : Step) :
    callsOn serial (.stepped number nodeType cursor input answer :: events) =
      if number = serial then .step input answer :: callsOn serial events
      else callsOn serial events := by
  by_cases h : number = serial <;> simp [callsOn, h]

@[simp] theorem callsOn_finalized (cleanup : List Instruction) :
    callsOn serial (.finalized number nodeType cleanup :: events) =
      if number = serial then .finalize :: callsOn serial events
      else callsOn serial events := by
  by_cases h : number = serial <;> simp [callsOn, h]

@[simp] theorem callsOn_invoked (invocation : Invocation) :
    callsOn serial (.invoked number invocation :: events) = callsOn serial events := rfl

@[simp] theorem callsOn_branch (wanted : Bool) :
    callsOn serial ((if wanted then [.performed .branch] else []) ++ events) =
      callsOn serial events := by
  cases wanted <;> rfl

@[simp] theorem callsOn_settlement (f : Frame σ n) (failing : Bool) :
    callsOn serial (f.settlement failing ++ events) = callsOn serial events := by
  unfold Frame.settlement
  split <;> rfl

end Events

section Order

variable [Tape T] [Stepper σ] {m : Machine σ n} {r : Run σ n T} {o : Outline σ n}

theorem Machine.Turn.calls (h : m.Turn r o) :
    ∃ f rest new, r.stack.frames = f :: rest ∧ r.MayCall f new ∧
      ∀ serial, callsOn serial o.milestones =
        (if f.serial = serial then new else []) ++ callsOn serial r.outline.milestones := by
  cases h with
  | @kept top rest value step production flow hstepping _ =>
      refine ⟨top, rest, [.step value step], hstepping.frames, ?_, ?_⟩
      · simp [Run.MayCall, hstepping.flow, hstepping.step]
      · intro serial
        simp only [callsOn_stepped]
        split <;> rfl
  | @pushed top rest value a tail production e hstepping hplan _ =>
      refine ⟨top, rest, [.step value ((Instruction.attempt a).asStep tail)], hstepping.frames, ?_,
        ?_⟩
      · simp [Run.MayCall, hstepping.flow, hstepping.step]
      · intro serial
        simp only [callsOn_branch, callsOn_invoked, callsOn_stepped]
        split <;> rfl
  | @spliced top rest value a tail production e hstepping hplan hreplaces =>
      obtain ⟨rfl, -, -⟩ := (Machine.plan_enter hplan).replaces hreplaces
      refine ⟨top, rest, [.finalize, .step value ((Instruction.attempt a).asStep true)],
        hstepping.frames, ?_, ?_⟩
      · simp only [Run.MayCall, hstepping.flow, hstepping.step]
        exact .inr ⟨⟨_, rfl⟩, trivial⟩
      · intro serial
        simp only [callsOn_finalized, callsOn_invoked, callsOn_stepped]
        split <;> rfl
  | @finished top below rest failed value hframes hflow _ =>
      refine ⟨top, below :: rest, [.finalize], hframes, ?_, ?_⟩
      · simp [Run.MayCall, hflow]
      · intro serial
        simp only [callsOn_settlement, callsOn_finalized]
        split <;> rfl

theorem Machine.End.calls {milestones : List Event} {outcome : Outcome}
    (h : Machine.End r milestones outcome) (hrooted : Rooted r.stack.frames) :
    ∃ f rest new, r.stack.frames = f :: rest ∧
      (new = [] ∧ r.flow = .complete false ∨ r.MayCall f new) ∧
      ∀ serial, callsOn serial milestones =
        (if f.serial = serial then new else []) ++ callsOn serial r.outline.milestones := by
  cases h with
  | @refused top rest value step production outcome hstepping _ =>
      refine ⟨top, rest, [.step value step], hstepping.frames, .inr ?_, ?_⟩
      · simp [Run.MayCall, hstepping.flow, hstepping.step]
      · intro serial
        simp only [callsOn_stepped]
        split <;> rfl
  | @crowded top rest value step production outcome invocation hstepping _ =>
      refine ⟨top, rest, [.step value step], hstepping.frames, .inr ?_, ?_⟩
      · simp [Run.MayCall, hstepping.flow, hstepping.step]
      · intro serial
        simp only [callsOn_invoked, callsOn_stepped]
        split <;> rfl
  | @unreplaced top rest value i production outcome invocation hstepping _ =>
      refine ⟨top, rest, [.finalize, .step value (i.asStep true)], hstepping.frames, .inr ?_, ?_⟩
      · simp only [Run.MayCall, hstepping.flow, hstepping.step]
        exact .inr ⟨⟨i, rfl⟩, trivial⟩
      · intro serial
        simp only [callsOn_finalized, callsOn_invoked, callsOn_stepped]
        split <;> rfl
  | unclosed hflow _ =>
      rcases hframes : r.stack.frames with _ | ⟨f, rest⟩
      · rw [hframes] at hrooted
        exact hrooted.elim
      · refine ⟨f, rest, [], rfl, .inl ⟨rfl, hflow⟩, ?_⟩
        intro serial
        split <;> rfl
  | @uncleaned top rest failed outcome hframes hflow _ =>
      refine ⟨top, rest, [.finalize], hframes, .inr ?_, ?_⟩
      · simp [Run.MayCall, hflow]
      · intro serial
        simp only [callsOn_finalized]
        split <;> rfl
  | @concluded top failed outcome hframes hflow =>
      refine ⟨top, [], [.finalize], hframes, .inr ?_, ?_⟩
      · simp [Run.MayCall, hflow]
      · intro serial
        simp only [callsOn_finalized]
        split <;> rfl

/-- The stages of all productions fit the stack. -/
structure Outline.Orderly (o : Outline σ n) : Prop where
  descending : o.frames.Pairwise fun f g => g.serial < f.serial
  known : ∀ f ∈ o.frames, f.serial < o.productions
  active : ∀ f ∈ o.frames.head?, o.flow.Suits f.returning (stage (callsOn f.serial o.milestones))
  waiting : ∀ f ∈ o.frames.tail, stage (callsOn f.serial o.milestones) =
    some (if f.returning then .returned else .waiting)
  finished : ∀ serial < o.productions, (∀ f ∈ o.frames, f.serial ≠ serial) →
    stage (callsOn serial o.milestones) = some .finalized
  unmade : ∀ serial, o.productions ≤ serial → callsOn serial o.milestones = []
  numbered : made o.milestones = (List.range o.productions).reverse

end Order

namespace Outline.Orderly

variable {o : Outline σ n} {top : Frame σ n} {below : List (Frame σ n)} {milestones : List Event}

theorem serial_lt (h : o.Orderly) (hframes : o.frames = top :: below) :
    ∀ g ∈ below, g.serial < top.serial := by
  have hdescending := h.descending
  rw [hframes] at hdescending
  exact (List.pairwise_cons.mp hdescending).1

theorem others (h : o.Orderly) (hframes : o.frames = top :: below)
    (hcalls : ∀ serial, top.serial ≠ serial →
      callsOn serial milestones = callsOn serial o.milestones) :
    (∀ f ∈ below, stage (callsOn f.serial milestones) =
      some (if f.returning then .returned else .waiting)) ∧
    (∀ serial < o.productions, top.serial ≠ serial → (∀ f ∈ below, f.serial ≠ serial) →
      stage (callsOn serial milestones) = some .finalized) ∧
    ∀ serial, o.productions ≤ serial → callsOn serial milestones = [] := by
  have hknown : top.serial < o.productions := h.known top (by simp [hframes])
  refine ⟨?_, ?_, ?_⟩
  · intro f hf
    rw [hcalls f.serial (Nat.ne_of_gt (h.serial_lt hframes f hf))]
    exact h.waiting f (by simpa [hframes] using hf)
  · intro serial hserial htop hbelow
    rw [hcalls serial htop]
    refine h.finished serial hserial ?_
    rw [hframes, List.forall_mem_cons]
    exact ⟨htop, hbelow⟩
  · intro serial hserial
    rw [hcalls serial (by omega)]
    exact h.unmade serial hserial

theorem suits (h : o.Orderly) (hframes : o.frames = top :: below) :
    o.flow.Suits top.returning (stage (callsOn top.serial o.milestones)) :=
  h.active top (by simp [hframes])

theorem isSome_stage (h : o.Orderly) (serial : Nat) :
    (stage (callsOn serial o.milestones)).isSome = true := by
  rcases Nat.lt_or_ge serial o.productions with hmade | hunmade
  · by_cases hframe : ∃ f ∈ o.frames, f.serial = serial
    · obtain ⟨f, hf, rfl⟩ := hframe
      rcases hframes : o.frames with _ | ⟨top, below⟩
      · simp [hframes] at hf
      · rw [hframes] at hf
        rcases List.mem_cons.mp hf with rfl | hf
        · exact (h.suits hframes).isSome
        · rw [h.waiting f (by simpa [hframes] using hf)]
          rfl
    · rw [h.finished serial hmade fun f hf hserial => hframe ⟨f, hf, hserial⟩]
      rfl
  · rw [h.unmade serial hunmade]
    rfl

variable {top' new next : Frame σ n} {flow : Flow}

theorem keep (h : o.Orderly) (hframes : o.frames = top :: below)
    (hcalls : ∀ serial, top.serial ≠ serial →
      callsOn serial milestones = callsOn serial o.milestones)
    (hserial : top'.serial = top.serial)
    (hactive : flow.Suits top'.returning (stage (callsOn top.serial milestones)))
    (hmade : made milestones = made o.milestones) :
    Outline.Orderly ⟨top' :: below, flow, milestones, o.productions⟩ := by
  obtain ⟨hwaiting, hfinished, hunmade⟩ := h.others hframes hcalls
  have hdescending := h.descending
  have hknown := h.known
  rw [hframes] at hdescending hknown
  obtain ⟨htop, hbelow⟩ := List.forall_mem_cons.mp hknown
  refine ⟨?_, ?_, ?_, hwaiting, ?_, hunmade, hmade.trans h.numbered⟩
  · rw [List.pairwise_cons, hserial]
    exact List.pairwise_cons.mp hdescending
  · rw [List.forall_mem_cons, hserial]
    exact ⟨htop, hbelow⟩
  · intro f hf
    obtain rfl : top' = f := by simpa using hf
    rw [hserial]
    exact hactive
  · intro serial hlt hnone
    rw [List.forall_mem_cons, hserial] at hnone
    exact hfinished serial hlt hnone.1 hnone.2

/-- A production is made for a new frame. What is asked for is the order of the frames below it. -/
theorem invoked {fs : List (Frame σ n)} (h : o.Orderly) (hnew : new.serial = o.productions)
    (hidle : new.returning = false) (hmade : made milestones = o.productions :: made o.milestones)
    (hdescending : fs.Pairwise fun f g => g.serial < f.serial)
    (hknown : ∀ f ∈ fs, f.serial < o.productions)
    (hwaiting : ∀ f ∈ fs, stage (callsOn f.serial milestones) =
      some (if f.returning then .returned else .waiting))
    (hfinished : ∀ serial < o.productions, (∀ f ∈ fs, f.serial ≠ serial) →
      stage (callsOn serial milestones) = some .finalized)
    (hunmade : ∀ serial, o.productions ≤ serial → callsOn serial milestones = []) :
    Outline.Orderly ⟨new :: fs, .resume none, milestones, o.productions + 1⟩ := by
  refine ⟨?_, ?_, ?_, hwaiting, ?_, ?_, ?_⟩
  · simp only [List.pairwise_cons, hnew]
    exact ⟨hknown, hdescending⟩
  · simp only [List.forall_mem_cons, hnew]
    exact ⟨Nat.lt_succ_self _, fun f hf => Nat.lt_succ_of_lt (hknown f hf)⟩
  · intro f hf
    obtain rfl : new = f := by simpa using hf
    rw [hnew, hunmade _ (Nat.le_refl _)]
    exact ⟨hidle, .inr ⟨rfl, rfl⟩⟩
  · intro serial hlt hnone
    simp only [List.forall_mem_cons, hnew] at hnone
    exact hfinished serial (Nat.lt_of_le_of_ne (Nat.le_of_lt_succ hlt) hnone.1.symm) hnone.2
  · intro serial hle
    exact hunmade serial (Nat.le_of_succ_le hle)
  · rw [hmade, h.numbered, List.range_succ]
    simp

theorem push (h : o.Orderly) (hframes : o.frames = top :: below)
    (hcalls : ∀ serial, top.serial ≠ serial →
      callsOn serial milestones = callsOn serial o.milestones)
    (hserial : top'.serial = top.serial) (hnew : new.serial = o.productions)
    (hidle : new.returning = false)
    (hwaits : stage (callsOn top.serial milestones) =
      some (if top'.returning then .returned else .waiting))
    (hmade : made milestones = o.productions :: made o.milestones) :
    Outline.Orderly ⟨new :: top' :: below, .resume none, milestones, o.productions + 1⟩ := by
  obtain ⟨hwaiting, hfinished, hunmade⟩ := h.others hframes hcalls
  have hdescending := h.descending
  have hknown := h.known
  rw [hframes] at hdescending hknown
  refine h.invoked hnew hidle hmade ?_ ?_ ?_ ?_ hunmade
  · rw [List.pairwise_cons, hserial]
    exact List.pairwise_cons.mp hdescending
  · rw [List.forall_mem_cons, hserial]
    exact List.forall_mem_cons.mp hknown
  · rw [List.forall_mem_cons, hserial]
    exact ⟨hwaits, hwaiting⟩
  · intro serial hlt hnone
    rw [List.forall_mem_cons, hserial] at hnone
    exact hfinished serial hlt hnone.1 hnone.2

theorem splice (h : o.Orderly) (hframes : o.frames = top :: below)
    (hcalls : ∀ serial, top.serial ≠ serial →
      callsOn serial milestones = callsOn serial o.milestones)
    (hnew : new.serial = o.productions) (hidle : new.returning = false)
    (hfinalized : stage (callsOn top.serial milestones) = some .finalized)
    (hmade : made milestones = o.productions :: made o.milestones) :
    Outline.Orderly ⟨new :: below, .resume none, milestones, o.productions + 1⟩ := by
  obtain ⟨hwaiting, hfinished, hunmade⟩ := h.others hframes hcalls
  have hdescending := h.descending
  have hknown := h.known
  rw [hframes] at hdescending hknown
  refine h.invoked hnew hidle hmade (List.pairwise_cons.mp hdescending).2
    (List.forall_mem_cons.mp hknown).2 hwaiting ?_ hunmade
  intro serial hlt hnone
  by_cases hserial : top.serial = serial
  · rw [← hserial]
    exact hfinalized
  · exact hfinished serial hlt hserial hnone

theorem pop (h : o.Orderly) (hframes : o.frames = top :: next :: below)
    (hcalls : ∀ serial, top.serial ≠ serial →
      callsOn serial milestones = callsOn serial o.milestones)
    (hfinalized : stage (callsOn top.serial milestones) = some .finalized)
    (hactive : flow.Suits next.returning
      (some (if next.returning then .returned else .waiting)))
    (hmade : made milestones = made o.milestones) :
    Outline.Orderly ⟨next :: below, flow, milestones, o.productions⟩ := by
  obtain ⟨hwaiting, hfinished, hunmade⟩ := h.others hframes hcalls
  have hdescending := h.descending
  have hknown := h.known
  rw [hframes] at hdescending hknown
  obtain ⟨hnext, hwaiting⟩ := List.forall_mem_cons.mp hwaiting
  refine ⟨(List.pairwise_cons.mp hdescending).2, (List.forall_mem_cons.mp hknown).2, ?_, hwaiting,
    ?_, hunmade, hmade.trans h.numbered⟩
  · intro f hf
    obtain rfl : next = f := by simpa using hf
    rw [hnext]
    exact hactive
  · intro serial hlt hnone
    by_cases hserial : top.serial = serial
    · rw [← hserial]
      exact hfinalized
    · exact hfinished serial hlt hserial hnone

end Outline.Orderly

theorem Frame.flowBelow_suits (f below : Frame σ n) (failing : Bool) (value : Option Extent) :
    (f.flowBelow below failing value).Suits below.returning
      (some (if below.returning then .returned else .waiting)) := by
  unfold Frame.flowBelow
  rcases below.returning with _ | _ <;> rcases (failing && !f.policy.absorbs) with _ | _
  · exact ⟨rfl, .inl rfl⟩
  · exact .inl rfl
  · rfl
  · exact .inr rfl

section Order

variable [Tape T] {m : Machine σ n}

theorem Machine.Settles.suits {tape : T} {top : Frame σ n} {step : Step} {flow : Flow}
    (h : m.Settles tape top step flow) : flow.Suits false (some step.stage) := by
  cases h with
  | returned tail => rfl
  | aborted i => exact .inr rfl
  | @answered i flow hanswers =>
      cases flow with
      | resume value => exact ⟨rfl, .inl rfl⟩
      | complete failed =>
          obtain ⟨rfl, -⟩ := hanswers
          exact .inl rfl

variable [Stepper σ] {r : Run σ n T} {o : Outline σ n}

omit [Tape T] [Stepper σ] in
theorem Run.suits (h : r.outline.Orderly) {f : Frame σ n} {rest : List (Frame σ n)}
    (hframes : r.stack.frames = f :: rest) :
    r.flow.Suits f.returning (stage (callsOn f.serial r.outline.milestones)) := by
  have hsuits := h.suits (outline_cons hframes)
  exact hsuits

theorem Run.Stepping.suits {top : Frame σ n} {rest : List (Frame σ n)} {value : Option Extent}
    {step : Step} {production : Production σ} (h : r.Stepping top rest value step production)
    (hr : r.outline.Orderly) :
    (Flow.resume value).Suits top.returning (stage (callsOn top.serial r.outline.milestones)) := by
  have hsuits := Run.suits hr h.frames
  rw [h.flow] at hsuits
  exact hsuits

/-- Each turn keeps the order. -/
theorem Machine.Turn.orderly (h : m.Turn r o) (hr : r.outline.Orderly) : o.Orderly := by
  cases h with
  | @kept top rest value step production flow hstepping hsettles =>
      have hsuits := hstepping.suits hr
      refine hr.keep (Run.outline_cons hstepping.frames) ?_ rfl ?_ rfl
      · intro serial (hserial : top.serial ≠ serial)
        rw [callsOn_stepped, if_neg hserial]
      · change flow.Suits top.returning (stage (callsOn top.serial _))
        rw [callsOn_stepped, if_pos rfl, stage_step hsuits, hsuits.1]
        exact hsettles.suits
  | @pushed top rest value a tail production e hstepping hplan habove =>
      have hsuits := hstepping.suits hr
      have hfits := Machine.plan_enter hplan
      -- The frame below waits for the answer, or for its end if this was its last instruction.
      refine hr.push (Run.outline_cons hstepping.frames) ?_ rfl rfl hfits.returning ?_ ?_
      · intro serial (hserial : top.serial ≠ serial)
        rw [callsOn_branch, callsOn_invoked, callsOn_stepped, if_neg hserial]
      · change stage (callsOn top.serial _) =
          some (if (e.returns || top.returning) = true then .returned else .waiting)
        rw [callsOn_branch, callsOn_invoked, callsOn_stepped, if_pos rfl, stage_step hsuits,
          hfits.returns, habove, hsuits.1]
        cases tail <;> rfl
      · cases e.frame.policy.branches <;> rfl
  | @spliced top rest value a tail production e hstepping hplan hreplaces =>
      have hsuits := hstepping.suits hr
      have hfits := Machine.plan_enter hplan
      -- Only a production that returns is replaced, so it can be given up in the same step.
      obtain ⟨rfl, -, -⟩ := hfits.replaces hreplaces
      refine hr.splice (Run.outline_cons hstepping.frames) ?_ rfl hfits.returning ?_ rfl
      · intro serial (hserial : top.serial ≠ serial)
        rw [callsOn_finalized, if_neg hserial, callsOn_invoked, callsOn_stepped, if_neg hserial]
      · change stage (callsOn top.serial _) = _
        rw [callsOn_finalized, if_pos rfl, callsOn_invoked, callsOn_stepped, if_pos rfl]
        have hreturned : (Flow.complete false).Suits false _ :=
          stage_step hsuits ((Instruction.attempt a).asStep true)
        exact stage_finalize hreturned
  | @finished top below rest failed value hstack hflow _ =>
      have hsuits := Run.suits hr hstack
      rw [hflow] at hsuits
      refine hr.pop (Run.outline_cons hstack) ?_ ?_ ?_ ?_
      · intro serial (hserial : top.serial ≠ serial)
        rw [callsOn_settlement, callsOn_finalized, if_neg hserial]
      · change stage (callsOn top.serial _) = _
        rw [callsOn_settlement, callsOn_finalized, if_pos rfl]
        exact stage_finalize hsuits
      · exact top.flowBelow_suits below _ value
      · unfold Frame.settlement
        split <;> rfl

theorem Machine.Reaches.orderly {tape : T} {props : Option Json} (h : m.Reaches tape props r) :
    r.outline.Orderly := by
  refine h.induction ?_ ?_
  · intro first hfirst
    rw [Machine.start_outline hfirst]
    refine ⟨List.pairwise_singleton _ _, ?_, ?_, by simp, ?_, fun _ _ => rfl, rfl⟩
    · intro f hf
      rw [List.mem_singleton.mp hf]
      exact Nat.zero_lt_one
    · intro f hf
      obtain rfl : m.fragmentFrame props = f := by simpa using hf
      exact ⟨rfl, .inr ⟨rfl, rfl⟩⟩
    · intro serial hlt hnone
      have hserial : serial = 0 := Nat.lt_one_iff.mp hlt
      exact absurd hserial.symm (hnone _ List.mem_cons_self)
  · intro r r' hr ih hstep
    exact (hr.turn hstep).orderly ih

theorem Run.MayCall.isSome {f : Frame σ n} {new calls : List Call} {returning : Bool}
    (h : r.MayCall f new) (hsuits : r.flow.Suits returning (stage calls)) :
    (stage (new ++ calls)).isSome = true := by
  unfold Run.MayCall at h
  rcases hflow : r.flow with value | failed
  · rw [hflow] at h hsuits
    have hstep := stage_step hsuits (f.production.step r.cursor value).1
    rcases h with rfl | ⟨⟨i, hi⟩, rfl⟩
    · rw [List.singleton_append, hstep]
      rfl
    · rw [hi] at hstep ⊢
      have hreturned : (Flow.complete false).Suits false _ := hstep
      rw [List.cons_append, List.singleton_append, stage_finalize hreturned]
      rfl
  · rw [hflow] at h hsuits
    obtain rfl : new = [.finalize] := h
    rw [List.singleton_append, stage_finalize hsuits]
    rfl

theorem Machine.End.made_cases {milestones : List Event} {outcome : Outcome}
    (h : Machine.End r milestones outcome) :
    made milestones = made r.outline.milestones ∨
      made milestones = r.productions :: made r.outline.milestones := by
  cases h <;> first | exact .inl rfl | exact .inr rfl

end Order

end GrammarMachine
