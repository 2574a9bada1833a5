import GrammarMachine.Proofs.Machine.Calls
import GrammarMachine.Proofs.Machine.TailCall
import Mathlib.Data.List.Nodup

/-!
The protocol of productions. A production that has asked for an instruction is stepped again when
the instruction has been carried out, at once or by rules entered above its frame, and it is then
given the value of the instruction if there is one. No other call is made on it before. A production
that has returned, or whose frame has failed, is only given up.
-/

namespace GrammarMachine

variable {σ : Type} {n : Nat} {T : Type} [Tape T] [Stepper σ]

/-- No two productions have the same number, and the calls on each of them are in order. -/
def InOrder (events : List Event) : Prop :=
  (made events).Nodup ∧ ∀ serial, (stage (callsOn serial events)).isSome = true

/-- The production with the number is the active one. -/
def Run.Active (r : Run σ n T) (serial : Nat) : Prop :=
  ∃ f rest, r.stack.frames = f :: rest ∧ f.serial = serial

namespace Machine

/-- The instruction that the active frame `top` of the state `asked` asks for has been carried out
when the run comes to a state: at once, or by the rule that was entered for it. -/
inductive Answered (m : Machine σ n) (asked : Run σ n T) (top : Frame σ n) (i : Instruction) :
    Bool → Run σ n T → Prop where
  | inPlace {r : Run σ n T} : m.step asked = .ok r → r.stack.size = asked.stack.size →
      m.Answered asked top i (m.succeeds asked.tape top i) r
  | byRule {count : Nat} {r r' : Run σ n T} {f : Frame σ n} {rest : List (Frame σ n)}
      {failed : Bool} : m.Put asked count r → r.stack.frames = f :: rest →
      rest.length = asked.stack.size → r.flow = .complete failed → m.step r = .ok r' →
      m.Answered asked top i (!f.fails failed r.cursor.position) r'

end Machine

omit [Tape T] [Stepper σ] in
theorem Frame.serial_eq {f g : Frame σ n} (h : f.unstarted = g.unstarted) :
    f.serial = g.serial := by
  have hserial := congrArg (fun x : Frame σ n => x.serial) h
  exact hserial

omit [Tape T] [Stepper σ] in
theorem Run.active_of_outline {r : Run σ n T} {f : Frame σ n} {rest : List (Frame σ n)}
    (h : r.outline.frames = f :: rest) : r.Active f.serial := by
  rcases hframes : r.stack.frames with _ | ⟨g, rest'⟩
  · simp [outline, hframes] at h
  · simp only [outline, hframes, List.map_cons] at h
    obtain ⟨rfl, -⟩ := List.cons.inj h
    exact ⟨g, rest', hframes, rfl⟩

namespace Machine

variable {m : Machine σ n} {tape : T} {props : Option Json} {r r' before : Run σ n T} {count : Nat}
  {top f : Frame σ n} {rest : List (Frame σ n)} {value : Option Extent} {step : Step}
  {production : Production σ}

theorem Put.le_serial (h : m.Put before count r) (hbefore : m.Reaches tape props before)
    (hframes : r.stack.frames = f :: rest) : before.productions ≤ f.serial := by
  obtain ⟨_, _, _, _, _, _, high, g, _, houtline, -, -, hserials⟩ := h.frames hbefore
  simp only [Run.outline, hframes, List.map_cons] at houtline
  rcases high with _ | ⟨x, high⟩
  · obtain ⟨rfl, -⟩ := List.cons.inj houtline
    exact hserials f.unstarted List.mem_cons_self
  · obtain ⟨rfl, -⟩ := List.cons.inj houtline
    exact hserials f.unstarted (by simp)

/-- While a place is taken, the productions made before are not called. -/
theorem Put.callsOn (h : m.Put before count r) (hbefore : m.Reaches tape props before)
    (hstepping : before.Stepping top rest value step production) {serial : Nat}
    (hserial : serial < before.productions) :
    callsOn serial r.outline.milestones =
      (if top.serial = serial then [.step value step] else []) ++
        callsOn serial before.outline.milestones := by
  induction h with
  | @first r hstep hsize =>
      have hturn := hbefore.turn hstep
      rw [← r.length_outline] at hsize
      generalize r.outline = o at hturn hsize
      cases hturn with
      | kept h _ => simp [Stack.size, h.frames] at hsize
      | pushed h _ _ =>
          obtain ⟨rfl, rfl, rfl, rfl, rfl⟩ := hstepping.unique h
          simp only [callsOn_branch, callsOn_invoked, callsOn_stepped]
          split <;> rfl
      | spliced h _ _ => simp [Stack.size, h.frames] at hsize
      | finished _ hflow _ => simp [hstepping.flow] at hflow
  | @next count r r' hput hstep hsize ih =>
      obtain ⟨g, rest', new, hframes, -, hcalls⟩ := ((hput.reaches hbefore).turn hstep).calls
      have hmade := hput.le_serial hbefore hframes
      rw [hcalls, if_neg (by omega), List.nil_append, ih]

theorem Put.asked {asked : Run σ n T} {below : Frame σ n} {rest' : List (Frame σ n)}
    (h : m.Put asked count r) (hasked : m.Reaches tape props asked)
    (hframes : r.stack.frames = f :: below :: rest')
    (hsize : (below :: rest').length = asked.stack.size) :
    ∃ top rest a tail production e, m.Pushes asked top rest a tail production e ∧
      f.policy = a.verb.policy ∧ below.serial = top.serial ∧
      below.returning = (tail || top.returning) := by
  obtain ⟨top, rest, a, tail, production, e, high, g, hpushes, houtline, hpolicy, -, -⟩ :=
    h.frames hasked
  obtain ⟨value, hstepping⟩ := hpushes.stepping
  have hfits := plan_enter hpushes.plan
  have hlength := congrArg List.length houtline
  simp only [Run.outline, hframes, List.length_map, List.length_append, List.length_cons] at hlength
  simp only [Stack.size, hstepping.frames, List.length_cons] at hsize
  obtain rfl : high = [] := List.eq_nil_of_length_eq_zero (by omega)
  simp only [Run.outline, hframes, List.map_cons, List.nil_append, List.cons.injEq] at houtline
  obtain ⟨rfl, hbelow, -⟩ := houtline
  refine ⟨top, rest, a, tail, production, e, hpushes, hpolicy.trans hfits.policy, ?_, ?_⟩
  · have hserial := Frame.serial_eq hbelow
    exact hserial
  · have hreturning := congrArg (fun g : Frame σ n => g.returning) hbelow
    simp only [Frame.unstarted, hfits.returns, hpushes.above] at hreturning
    simpa using hreturning

omit [Stepper σ] in
theorem asksValue_of_enter {a : Attempt} {tail : Bool} {e : Entry σ n} {tape : T}
    (h : m.plan tape top a tail = .ok (.enter e)) : m.asksValue top (.attempt a) = true := by
  obtain ⟨node, _, _, _, _, hform, -⟩ := plan_enter_entry h
  simp [asksValue, hform, Form.valued]

omit [Tape T] [Stepper σ] in
theorem flowBelow_answers (f : Frame σ n) {below : Frame σ n} {failing : Bool}
    {value : Option Extent}
    (hreturning : below.returning = false) (hvalue : value.isSome = !failing) :
    (f.flowBelow below failing value).Answers (!failing) f.policy.absorbs true := by
  unfold Frame.flowBelow
  rw [hreturning]
  cases failing with
  | false => exact ⟨rfl, by simp [hvalue]⟩
  | true =>
      cases habsorbs : f.policy.absorbs with
      | false => exact ⟨rfl, by simp⟩
      | true => exact ⟨by simp, by simp [hvalue]⟩

theorem Reaches.not_returning (h : m.Reaches tape props r)
    (hstepping : r.Stepping top rest value step production) : top.returning = false :=
  (hstepping.suits h.orderly).1

theorem Reaches.serial_lt (h : m.Reaches tape props r) (hframes : r.stack.frames = f :: rest) :
    f.serial < r.productions := by
  refine h.orderly.known f.unstarted ?_
  simp [Run.outline_cons hframes]

omit [Tape T] [Stepper σ] in
theorem flowBelow_of_returning (f : Frame σ n) {below : Frame σ n} {failing : Bool}
    {value : Option Extent} (h : below.returning = true) :
    ∃ failed, f.flowBelow below failing value = .complete failed := by
  unfold Frame.flowBelow
  rw [h]
  split
  · exact ⟨true, rfl⟩
  · exact ⟨false, rfl⟩

/-- When an instruction has been carried out, the production that asked for it is active again and
has not been called since. -/
theorem Answered.answers {asked : Run σ n T} {i : Instruction} {succeeded : Bool}
    (h : m.Answered asked top i succeeded r) (hasked : m.Reaches tape props asked)
    (hstepping : asked.Stepping top rest value (.yield i) production) :
    r.Active top.serial ∧
      callsOn top.serial r.outline.milestones =
        .step value (.yield i) :: callsOn top.serial asked.outline.milestones ∧
      r.flow.Answers succeeded i.absorbs (m.asksValue top i) := by
  cases h with
  | inPlace hstep hsize =>
      have hturn := hasked.turn hstep
      have hactive : ∀ f rest', r.outline.frames = f :: rest' → r.Active f.serial :=
        fun _ _ => Run.active_of_outline
      change _ ∧ _ ∧ r.outline.flow.Answers _ _ _
      rw [← r.length_outline] at hsize
      generalize r.outline = o at hturn hsize hactive ⊢
      cases hturn with
      | kept h hsettles =>
          obtain ⟨rfl, rfl, rfl, rfl, rfl⟩ := hstepping.unique h
          have hsame := hactive _ _ rfl
          refine ⟨hsame, ?_, ?_⟩
          · rw [callsOn_stepped, if_pos rfl]
          · cases hsettles with
            | answered hanswers => exact hanswers
      | pushed h _ _ => simp [Stack.size, h.frames] at hsize
      | spliced h hplan hreplaces =>
          -- Only a last instruction takes over the place of its frame.
          obtain ⟨rfl, -, -⟩ := (plan_enter hplan).replaces hreplaces
          obtain ⟨-, -, -, hstep, -⟩ := hstepping.unique h
          cases hstep
      | finished _ hflow _ => simp [hstepping.flow] at hflow
  | @byRule count s r f rest' failed hput hframes hlength hflow hstep =>
      have hs := hput.reaches hasked
      have hturn := hs.turn hstep
      have hactive : ∀ f rest', r.outline.frames = f :: rest' → r.Active f.serial :=
        fun _ _ => Run.active_of_outline
      change _ ∧ _ ∧ r.outline.flow.Answers _ _ _
      generalize r.outline = o at hturn hactive ⊢
      cases hturn with
      | kept h _ => cases h.flow.symm.trans hflow
      | pushed h _ _ => cases h.flow.symm.trans hflow
      | spliced h _ _ => cases h.flow.symm.trans hflow
      | finished hframes' hflow' hvalue =>
          obtain ⟨rfl, rfl⟩ := List.cons.inj (hframes.symm.trans hframes')
          obtain rfl := Flow.complete.inj (hflow.symm.trans hflow')
          obtain ⟨_, _, a, tail, _, e, hpushes, hpolicy, hserial, hreturning⟩ :=
            hput.asked hasked hframes' hlength
          obtain ⟨_, h⟩ := hpushes.stepping
          obtain ⟨rfl, rfl, rfl, hstep, rfl⟩ := hstepping.unique h
          cases tail with
          | true => cases hstep
          | false =>
              cases hstep
              have hgoesOn := hasked.not_returning hstepping
              rw [Bool.false_or, hgoesOn] at hreturning
              have hsame := hactive _ _ rfl
              refine ⟨hserial ▸ hsame, ?_, ?_⟩
              · have hknown := hasked.serial_lt hstepping.frames
                have hmade := hput.le_serial hasked hframes'
                rw [callsOn_settlement, callsOn_finalized, if_neg (by omega),
                  hput.callsOn hasked hstepping hknown, if_pos rfl]
                rfl
              · have hanswers := flowBelow_answers f hreturning hvalue
                rw [hpolicy] at hanswers
                rw [asksValue_of_enter hpushes.plan]
                exact hanswers

/-- The active production has not been called yet, or it has returned, or an instruction that it
asked for has just been carried out. -/
theorem Reaches.active (h : m.Reaches tape props r) (hframes : r.stack.frames = f :: rest) :
    (callsOn f.serial r.outline.milestones = [] ∧ r.flow = .resume none) ∨
    (stage (callsOn f.serial r.outline.milestones) = some .returned ∧
      ∃ failed, r.flow = .complete failed) ∨
    ∃ asked top rest' input i production succeeded, m.Reaches tape props asked ∧
      asked.Stepping top rest' input (.yield i) production ∧ top.serial = f.serial ∧
      m.Answered asked top i succeeded r := by
  have htop := Run.outline_cons hframes
  have hsize := r.length_outline
  change (_ ∧ r.outline.flow = _) ∨ (_ ∧ ∃ failed, r.outline.flow = _) ∨ _
  rcases h.exists_prior with hfirst | ⟨p, hp, hstep⟩
  · left
    rw [start_outline hfirst]
    exact ⟨rfl, rfl⟩
  · have hturn := hp.turn hstep
    have hfresh := hp.orderly.unmade p.productions (Nat.le_refl _)
    generalize r.outline = o at hturn hsize htop ⊢
    cases hturn with
    | @kept top rest' input answer production flow hstepping hsettles =>
        right
        obtain ⟨hsame, -⟩ := List.cons.inj htop
        have hserial := Frame.serial_eq hsame
        change top.serial = f.serial at hserial
        have hstage := stage_step (hstepping.suits hp.orderly) answer
        rw [← hserial, callsOn_stepped, if_pos rfl, hstage]
        cases hsettles with
        | returned _ => exact .inl ⟨rfl, _, rfl⟩
        | aborted _ => exact .inl ⟨rfl, _, rfl⟩
        | @answered i _ _ =>
            right
            refine ⟨p, top, rest', input, i, production, _, hp, hstepping, rfl, .inPlace hstep ?_⟩
            rw [← hsize]
            simp [Stack.size, hstepping.frames]
    | @pushed top rest' input a tail production e hstepping hplan _ =>
        left
        obtain ⟨hsame, -⟩ := List.cons.inj htop
        have hserial : p.productions = f.serial := Frame.serial_eq hsame
        have hknown := hp.serial_lt hstepping.frames
        rw [← hserial, callsOn_branch, callsOn_invoked, callsOn_stepped, if_neg (by omega)]
        exact ⟨hfresh, rfl⟩
    | @spliced top rest' input a tail production e hstepping hplan _ =>
        left
        obtain ⟨hsame, -⟩ := List.cons.inj htop
        have hserial : p.productions = f.serial := Frame.serial_eq hsame
        have hknown := hp.serial_lt hstepping.frames
        rw [← hserial, callsOn_finalized, if_neg (by omega), callsOn_invoked, callsOn_stepped,
          if_neg (by omega)]
        exact ⟨hfresh, rfl⟩
    | @finished top below rest' failed result hstack hcomplete _ =>
        right
        obtain ⟨hsame, -⟩ := List.cons.inj htop
        have hserial := Frame.serial_eq hsame
        cases hreturning : below.returning with
        | true =>
            left
            refine ⟨?_, flowBelow_of_returning top hreturning⟩
            have hunder := hp.orderly.serial_lt (Run.outline_cons hstack)
            have hlt : below.serial < top.serial := hunder below.unstarted List.mem_cons_self
            have hwaits := hp.orderly.waiting below.unstarted (by simp [Run.outline, hstack])
            rw [← hserial, callsOn_settlement, callsOn_finalized, if_neg (by omega)]
            refine hwaits.trans ?_
            simp [Frame.unstarted, hreturning]
        | false =>
            right
            obtain ⟨asked, count, hasked, hplace, hput⟩ :=
              hp.exists_put (Nat.succ_pos rest'.length) (by simp [Stack.size, hstack])
            obtain ⟨top', rest'', a, tail, production, e, hpushes, -, hserial', hreturning'⟩ :=
              hput.asked hasked hstack hplace.symm
            obtain ⟨input, hstepping⟩ := hpushes.stepping
            cases tail with
            | true => simp [hreturning] at hreturning'
            | false =>
                exact ⟨asked, top', rest'', input, .attempt a, production, _, hasked, hstepping,
                  hserial'.symm.trans hserial, .byRule hput hstack hplace.symm hcomplete hstep⟩

theorem Reaches.steps (h : m.Reaches tape props r) (hsteps : m.steps count r = .ok r') :
    m.Reaches tape props r' ∧ r.productions ≤ r'.productions := by
  induction count generalizing r' with
  | zero =>
      cases hsteps
      exact ⟨h, Nat.le_refl _⟩
  | succ count ih =>
      rw [steps_succ] at hsteps
      rcases hprior : m.steps count r with halt | prior
      · rw [hprior] at hsteps
        cases hsteps
      · rw [hprior] at hsteps
        obtain ⟨hreaches, hle⟩ := ih hprior
        exact ⟨hreaches.step hsteps, Nat.le_trans hle (hreaches.turn hsteps).productions_le⟩

/-- When a frame is active, the productions of all frames that have been above it are given up. -/
theorem Reaches.nested (h : m.Reaches tape props r) {high mid low : List (Frame σ n)}
    {g : Frame σ n} (hframes : r.stack.frames = high ++ f :: mid ++ g :: low)
    (hsteps : m.steps count r = .ok r') (hactive : r'.Active g.serial) :
    stage (callsOn f.serial r'.outline.milestones) = some .finalized := by
  obtain ⟨hreaches, hle⟩ := h.steps hsteps
  have horderly := h.orderly
  have houtline : r.outline.frames = high.map Frame.unstarted ++ f.unstarted ::
      (mid.map Frame.unstarted ++ g.unstarted :: low.map Frame.unstarted) := by
    simp [Run.outline, hframes]
  have habove : g.serial < f.serial := by
    have hdescending := horderly.descending
    rw [houtline] at hdescending
    have hover := (List.pairwise_append.mp hdescending).2.1
    exact (List.pairwise_cons.mp hover).1 g.unstarted (by simp)
  have hknown : f.serial < r.productions := by
    refine horderly.known f.unstarted ?_
    simp [houtline]
  refine hreaches.orderly.finished f.serial (Nat.lt_of_lt_of_le hknown hle) ?_
  obtain ⟨top, rest, htop, hserial⟩ := hactive
  have houtline' := Run.outline_cons htop
  have hunder := hreaches.orderly.serial_lt houtline'
  rw [houtline', List.forall_mem_cons]
  refine ⟨?_, ?_⟩
  · change top.serial ≠ f.serial
    omega
  · intro x hx
    have hlt : x.serial < top.serial := hunder x hx
    omega

/-- How productions are called in a state of a run and in the step after it. -/
structure Protocol (m : Machine σ n) (tape : T) (props : Option Json) (r : Run σ n T) : Prop where
  ordered : InOrder r.events
  /-- Only the active production is called. -/
  called : ∀ r', m.step r = .ok r' → ∃ f rest calls, r.stack.frames = f :: rest ∧
    r.MayCall f calls ∧ ∀ serial, callsOn serial r'.events =
      (if f.serial = serial then calls else []) ++ callsOn serial r.events
  halted : ∀ halt, m.step r = .error halt → ∃ f rest calls, r.stack.frames = f :: rest ∧
    (calls = [] ∧ r.flow = .complete false ∨ r.MayCall f calls) ∧
    ∀ serial, callsOn serial halt.run.events =
      (if f.serial = serial then calls else []) ++ callsOn serial r.events
  /-- A production is called again just when the instruction it asked for has been carried out, and
  gets a value exactly if the instruction has succeeded and has one. -/
  answered : ∀ asked top rest value i production succeeded, m.Reaches tape props asked →
    asked.Stepping top rest value (.yield i) production → m.Answered asked top i succeeded r →
    r.Active top.serial ∧
      callsOn top.serial r.events = .step value (.yield i) :: callsOn top.serial asked.events ∧
      r.flow.Answers succeeded i.absorbs (m.asksValue top i)
  /-- The active production has not been called yet, or it has returned and its frame is to be
  finished, or the instruction it asked for has just been carried out. -/
  active : ∀ f rest, r.stack.frames = f :: rest →
    (callsOn f.serial r.events = [] ∧ r.flow = .resume none) ∨
    (stage (callsOn f.serial r.events) = some .returned ∧ ∃ failed, r.flow = .complete failed) ∨
    ∃ asked top rest' input i production succeeded, m.Reaches tape props asked ∧
      asked.Stepping top rest' input (.yield i) production ∧ top.serial = f.serial ∧
      m.Answered asked top i succeeded r
  /-- A frame is called again only when the productions of all frames above it are given up. -/
  nested : ∀ high f mid g low count r', r.stack.frames = high ++ f :: mid ++ g :: low →
    m.steps count r = .ok r' → r'.Active g.serial →
    stage (callsOn f.serial r'.events) = some .finalized

theorem Reaches.inOrder (h : m.Reaches tape props r) : InOrder r.events := by
  have horderly := h.orderly
  refine ⟨?_, ?_⟩
  · rw [← made_milestones]
    change (made r.outline.milestones).Nodup
    rw [horderly.numbered]
    exact List.nodup_reverse.mpr List.nodup_range
  · intro serial
    rw [← callsOn_milestones]
    exact horderly.isSome_stage serial

theorem Reaches.protocol (h : m.Reaches tape props r) : m.Protocol tape props r where
  ordered := h.inOrder
  called := by
    intro r' hstep
    obtain ⟨f, rest, calls, hframes, hmay, hcalls⟩ := (h.turn hstep).calls
    refine ⟨f, rest, calls, hframes, hmay, ?_⟩
    intro serial
    rw [← callsOn_milestones, ← callsOn_milestones serial r.events]
    exact hcalls serial
  halted := by
    intro halt hstep
    obtain ⟨f, rest, calls, hframes, hmay, hcalls⟩ := (h.ending hstep).calls h.rooted
    refine ⟨f, rest, calls, hframes, hmay, ?_⟩
    intro serial
    rw [← callsOn_milestones, ← callsOn_milestones serial r.events]
    exact hcalls serial
  answered := by
    intro asked top rest value i production succeeded hasked hstepping hanswered
    rw [← callsOn_milestones, ← callsOn_milestones top.serial asked.events]
    exact hanswered.answers hasked hstepping
  active := by
    intro f rest hframes
    rw [← callsOn_milestones]
    exact h.active hframes
  nested := by
    intro high f mid g low count r' hframes hsteps hactive
    rw [← callsOn_milestones]
    exact h.nested hframes hsteps hactive

theorem End.inOrder {milestones : List Event} {outcome : Outcome}
    (h : Machine.End r milestones outcome) (hr : m.Reaches tape props r) :
    (made milestones).Nodup ∧ ∀ serial, (stage (callsOn serial milestones)).isSome = true := by
  have horderly := hr.orderly
  refine ⟨?_, ?_⟩
  · rcases h.made_cases with hmade | hmade
    · rw [hmade, horderly.numbered]
      exact List.nodup_reverse.mpr List.nodup_range
    · have hnext : made milestones = (List.range (r.productions + 1)).reverse := by
        rw [hmade, horderly.numbered, List.range_succ, List.reverse_append]
        rfl
      rw [hnext]
      exact List.nodup_reverse.mpr List.nodup_range
  · intro serial
    obtain ⟨f, rest, calls, hframes, hmay, hcalls⟩ := h.calls hr.rooted
    rw [hcalls]
    split
    · rename_i hserial
      subst hserial
      rcases hmay with ⟨rfl, -⟩ | hmay
      · exact horderly.isSome_stage _
      · exact hmay.isSome (Run.suits horderly hframes)
    · exact horderly.isSome_stage serial

theorem End.finalized {milestones : List Event} {outcome : Outcome}
    (h : Machine.End r milestones outcome) (hr : m.Reaches tape props r)
    (hordinary : outcome.ordinary = true) {serial : Nat} (hserial : serial ∈ made milestones) :
    stage (callsOn serial milestones) = some .finalized := by
  have horderly := hr.orderly
  obtain ⟨top, failed, hframes, hflow, rfl⟩ := h.outermost hordinary
  rw [callsOn_finalized]
  split
  · rename_i htop
    subst htop
    have hsuits := Run.suits horderly hframes
    rw [hflow] at hsuits
    exact stage_finalize hsuits
  · rename_i htop
    have hmade : serial ∈ made r.outline.milestones := hserial
    rw [horderly.numbered, List.mem_reverse, List.mem_range] at hmade
    refine horderly.finished serial hmade ?_
    intro f hf
    rw [Run.outline_cons hframes] at hf
    rw [List.mem_singleton.mp hf]
    exact htop

/-- Every production is called in order, whatever the languages and the tape. At an ordinary end all
productions that were made have been given up, each of them once. -/
theorem run_protocol (m : Machine σ n) (tape : T) (props : Option Json) :
    (∀ r, m.Reaches tape props r → m.Protocol tape props r) ∧
    ∀ fuel halt, m.run tape props fuel = some halt → InOrder halt.run.events ∧
      (halt.outcome.ordinary = true → ∀ serial ∈ made halt.run.events,
        (callsOn serial halt.run.events).countP Call.isFinalize = 1) := by
  refine ⟨fun r hr => hr.protocol, ?_⟩
  intro fuel halt hrun
  unfold InOrder
  simp only [← callsOn_milestones _ halt.run.events]
  rw [← made_milestones]
  change ((made halt.run.outline.milestones).Nodup ∧
    ∀ serial, (stage (callsOn serial halt.run.outline.milestones)).isSome = true) ∧
    (_ → ∀ serial ∈ made halt.run.outline.milestones,
      (callsOn serial halt.run.outline.milestones).countP Call.isFinalize = 1)
  rcases run_ends hrun with hstart | ⟨r, hr, hstep⟩
  · obtain ⟨hmilestones, hordinary⟩ := start_error hstart
    rw [hmilestones, hordinary]
    exact ⟨⟨List.pairwise_singleton _ 0, fun _ => rfl⟩, nofun⟩
  · have hend := hr.ending hstep
    refine ⟨hend.inOrder hr, ?_⟩
    intro hordinary serial hserial
    rw [countP_isFinalize (hend.finalized hr hordinary hserial)]
    rfl

/-- One word is tried inside of another one and fails. -/
theorem run_protocol_wordReader : ∃ r halt,
    let m := wordReader [.eatMatch (.node "Word")]
    let tape := Draft.fresh (.ofSegments [some "aa"])
    m.Protocol tape none r ∧ r.flow = .complete true ∧ m.run tape none 15 = some halt ∧
      made halt.run.events = [5, 4, 3, 2, 1, 0] ∧ ∀ serial ∈ made halt.run.events,
        (callsOn serial halt.run.events).countP Call.isFinalize = 1 := by
  obtain ⟨r, hr, hflow⟩ : ∃ r,
      (wordReader [.eatMatch (.node "Word")]).stateAt? (.ofSegments [some "aa"]) 8 = some r ∧
        r.flow = .complete true := ⟨_, rfl, rfl⟩
  obtain ⟨halt, extent, hrun, haccepted, hmade⟩ : ∃ halt extent,
      (wordReader [.eatMatch (.node "Word")]).run (Draft.fresh (.ofSegments [some "aa"])) none 15 =
        some halt ∧ halt.outcome = .accepted extent ∧
      made halt.run.events = [5, 4, 3, 2, 1, 0] := ⟨_, _, rfl, rfl, rfl⟩
  obtain ⟨hprotocol, hends⟩ := run_protocol (wordReader [.eatMatch (.node "Word")])
    (Draft.fresh (.ofSegments [some "aa"])) none
  refine ⟨r, halt, hprotocol r (reaches_of_stateAt? hr), hflow, hrun, hmade, ?_⟩
  exact (hends 15 halt hrun).2 (by rw [haccepted]; rfl)

end Machine

end GrammarMachine
