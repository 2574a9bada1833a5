import GrammarMachine.Proofs.Machine.Extents
import GrammarMachine.Proofs.Machine.Misses

/-!
Failures. A frame that fails hands its failure down to the frame below it, unless it absorbs the
failure; then the tape is as it was before the place of the frame was taken. A failure that no frame
absorbs ends the run with the cause with which it began. While frames are left, their cleanups are
carried out, and one that asks for more than writes ends the run at once.
-/

namespace GrammarMachine

variable {σ : Type} {n : Nat}

/-- Whether an instruction is a write, the only one that a cleanup may ask for. -/
def Instruction.isWrite : Instruction → Bool
  | .write .. => true
  | _ => false

theorem Draft.clean_cases (d : Draft) (cleanup : List Instruction) :
    match cleanup.find? (!·.isWrite) with
    | none => ∃ cleaned, d.clean cleanup = .ok cleaned
    | some i => ∃ cleaned, d.clean cleanup = .error (cleaned, i) := by
  fun_induction Draft.clean d cleanup with
  | case1 d => exact ⟨d, rfl⟩
  | case2 d text options rest ih => exact ih
  | case3 d i rest hwrite =>
      have hstray : i.isWrite = false := by
        cases i with
        | write text options => exact absurd rfl (hwrite text options)
        | _ => rfl
      rw [List.find?_cons_of_pos (by simp [hstray])]
      exact ⟨d, rfl⟩

namespace Frame

variable [Stepper σ] {f : Frame σ n}

/-- The first instruction in the cleanup of a frame that is not allowed there. -/
def stray? (f : Frame σ n) : Option Instruction :=
  f.production.cleanup.find? (!·.isWrite)

/-- A frame that leaves its failure to the frame below it. -/
def HandsDown (f : Frame σ n) : Prop :=
  f.policy.absorbs = false ∧ f.stray? = none

theorem finish_of_stray?_none (h : f.stray? = none) (d : Draft) :
    ∃ cleaned, f.finish d = .ok cleaned := by
  have hclean := d.clean_cases f.production.cleanup
  rw [show f.production.cleanup.find? _ = none from h] at hclean
  obtain ⟨cleaned, hclean⟩ := hclean
  simp only [finish, hclean]
  exact ⟨cleaned, rfl⟩

theorem finish_of_stray? {i : Instruction} (h : f.stray? = some i) (d : Draft) :
    ∃ cleaned,
      f.finish d = .error (cleaned, .rejected (.cleanupViolation f.nodeType i.verbName)) := by
  have hclean := d.clean_cases f.production.cleanup
  rw [show f.production.cleanup.find? _ = some i from h] at hclean
  obtain ⟨cleaned, hclean⟩ := hclean
  simp only [finish, hclean]
  exact ⟨cleaned, rfl⟩

end Frame

namespace Outcome

/-- The outcome of a run that has failed, given the type that matched nothing, if there is one. -/
def Reports (outcome : Outcome) : Option String → Prop
  | some nodeType => outcome = .rejected (.emptyMatch nodeType)
  | none => ∃ consumed, outcome = .rejected (.failed consumed)

variable {outcome : Outcome} {cause cause' : Option String}

theorem Reports.unique (h : outcome.Reports cause) (h' : outcome.Reports cause') :
    cause = cause' := by
  cases cause with
  | none =>
      obtain ⟨consumed, rfl⟩ := h
      cases cause' with
      | none => rfl
      | some nodeType => cases h'
  | some nodeType =>
      cases h
      cases cause' with
      | none =>
          obtain ⟨consumed, h'⟩ := h'
          cases h'
      | some nodeType' =>
          cases h'
          rfl

theorem Reports.ordinary (h : outcome.Reports cause) :
    outcome.ordinary = true ∧ outcome.blamesGrammar = false := by
  cases cause with
  | none =>
      obtain ⟨consumed, rfl⟩ := h
      exact ⟨rfl, rfl⟩
  | some nodeType =>
      cases h
      exact ⟨rfl, rfl⟩

theorem Reports.failing {d : Draft} {left offset : Nat} {value : Option Extent} {failing : Bool}
    {emptied : Option String}
    (h : (Config.conclude d left value failing emptied offset).Reports cause)
    (hvalue : value.isSome = !failing) : failing = true := by
  cases failing with
  | true => rfl
  | false =>
      -- The run is accepted, or it has not read the whole input.
      obtain ⟨extent, rfl⟩ := Option.isSome_iff_exists.mp hvalue
      unfold Config.conclude at h
      repeat' split at h
      all_goals cases cause <;> simp_all [Reports]

theorem Reports.fails [Stepper σ] {c : Config σ n} {top : Frame σ n} {rest : List (Frame σ n)}
    {failed : Bool} {d : Draft} (h : outcome.Reports cause) (hparent : top.parent = none)
    (hfinish : c.finishTop top rest failed = .error (d, outcome)) :
    top.fails failed c.tape.position = true := by
  simp only [Config.finishTop, hparent, Option.isNone_none, if_true] at hfinish
  split at hfinish
  · cases hfinish
    cases h.ordinary.1
  · split at hfinish
    · rename_i halt hhalt
      cases hfinish
      have hblames := h.ordinary.2
      rw [Frame.finish_error hhalt] at hblames
      cases hblames
    · cases hfinish
      apply h.failing
      cases top.fails failed c.tape.position <;> rfl

end Outcome

section Leaving

variable [Stepper σ]

/-- A frame that fails is cleaned up and its transaction undone, then the run ends or goes on below.
-/
theorem Config.finishTop_failing {c : Config σ n} {top : Frame σ n} {failed : Bool}
    (rest : List (Frame σ n)) (h : top.fails failed c.tape.position = true) :
    c.finishTop top rest failed =
      let emptied := if failed then c.emptied else some top.nodeType
      top.finish c.tape >>= fun cleaned =>
        if top.parent.isNone then
          .error (top.settle true cleaned, conclude (top.settle true cleaned) rest.length none true
            emptied c.tape.position.offset)
        else
          resumeBelow { c with frames := rest, tape := top.settle true cleaned, emptied } top none
            true := by
  simp only [finishTop, h, Frame.closing, Frame.valueAt, if_true, Draft.advanceAll_nil, bind,
    Except.bind, Bool.not_true, Bool.false_and, Bool.false_eq_true, if_false]
  cases failed <;> cases top.finish c.tape <;> rfl

omit [Stepper σ] in
theorem Run.frames_eq {r : Run σ n Draft} {frames : List (Frame σ n)}
    (hconfig : r.config.frames = frames.map Frame.bare)
    (houtline : r.outline.frames = frames.map Frame.unstarted) : r.stack.frames = frames := by
  simp only [config, outline] at hconfig houtline
  generalize r.stack.frames = frames' at hconfig houtline
  induction frames' generalizing frames with
  | nil => simpa using hconfig.symm
  | cons f rest ih =>
      rcases frames with _ | ⟨g, rest'⟩
      · cases hconfig
      · simp only [List.map_cons, List.cons.injEq] at hconfig houtline
        obtain ⟨hbare, hrest⟩ := hconfig
        obtain ⟨hunstarted, hrest'⟩ := houtline
        have hsame : f = g := by
          cases f
          cases g
          simp_all [Frame.bare, Frame.unstarted]
        rw [hsame, ih hrest hrest']

namespace Machine

theorem Turn.frames_of_complete {T : Type} [Tape T] {m : Machine σ n} {r : Run σ n T}
    {o : Outline σ n} (h : m.Turn r o) {failed : Bool} (hflow : r.flow = .complete failed) :
    o.frames = r.stack.frames.tail.map Frame.unstarted := by
  cases h with
  | kept hstepping => simp [hstepping.flow] at hflow
  | pushed hstepping => simp [hstepping.flow] at hflow
  | spliced hstepping => simp [hstepping.flow] at hflow
  | finished hframes => rw [hframes, List.tail_cons]

end Machine

namespace Run.Failing

variable {m : Machine σ n} {source : Source} {props : Option Json} {r : Run σ n Draft}
  {top below : Frame σ n} {rest : List (Frame σ n)} {cause : Option String}

theorem move_eq (h : r.Failing top rest cause) (m : Machine σ n) :
    m.move r.config = top.finish r.tape >>= fun cleaned =>
      if top.parent.isNone then
        .error (top.settle true cleaned, Config.conclude (top.settle true cleaned) rest.length none
          true cause r.cursor.position.offset)
      else
        Config.resumeBelow { r.config with
          frames := rest.map Frame.bare
          tape := top.settle true cleaned
          emptied := cause } top.bare none true := by
  obtain ⟨hframes, failed, hflow, hfails, rfl⟩ := h
  rw [Machine.move_of_complete m hframes hflow, Config.finishTop_failing _ hfails, List.length_map]
  rfl

theorem step_of_stray {i : Instruction} (h : r.Failing top rest cause) (m : Machine σ n)
    (hstray : top.stray? = some i) : ∃ halt, m.step r = .error halt ∧
      halt.outcome = .rejected (.cleanupViolation top.nodeType i.verbName) := by
  obtain ⟨cleaned, hfinish⟩ := Frame.finish_of_stray? hstray r.tape
  apply Machine.halt_of_move (d := cleaned)
  rw [h.move_eq, hfinish]
  rfl

theorem step_of_outermost (h : r.Failing top [] cause)
    (hr : m.Reaches (Draft.fresh source) props r) (hstray : top.stray? = none) :
    ∃ halt, m.step r = .error halt ∧ halt.outcome.Reports cause := by
  obtain ⟨cleaned, hfinish⟩ := Frame.finish_of_stray?_none hstray r.tape
  obtain ⟨bases, hsound⟩ := hr.sound
  have hlayers := hsound.layers
  rw [Run.config_cons h.frames] at hlayers
  have hrooted := hr.rooted
  rw [h.frames] at hrooted
  obtain ⟨hparent, -, hbranched, -⟩ := hrooted
  have hsettle : top.settle true cleaned = cleaned := by simp [Frame.settle, hbranched]
  have hbranches : cleaned.branches.length = 0 := by
    rw [(Frame.finish_silent hfinish).branches]
    cases hlayers with
    | fragment _ _ _ _ _ _ _ hnone => exact congrArg List.length hnone
  have hmove := h.move_eq m
  simp only [hfinish, hparent, Option.isNone_none, if_true, bind, Except.bind, hsettle] at hmove
  obtain ⟨halt, hstep, houtcome⟩ := Machine.halt_of_move hmove
  refine ⟨halt, hstep, ?_⟩
  rw [houtcome]
  simp only [Config.conclude, List.length_nil, hbranches, ne_eq, not_true_eq_false, if_false,
    if_true]
  cases cause with
  | none => exact ⟨_, rfl⟩
  | some nodeType => rfl

theorem step_of_below (h : r.Failing top (below :: rest) cause)
    (hr : m.Reaches (Draft.fresh source) props r) (hstray : top.stray? = none) :
    ∃ s cleaned, m.step r = .ok s ∧ s.stack.frames = below :: rest ∧
      s.flow = top.flowBelow below true none ∧ s.emptied = cause ∧
      top.finish r.tape = .ok cleaned ∧ s.tape = top.settle true cleaned := by
  obtain ⟨cleaned, hfinish⟩ := Frame.finish_of_stray?_none hstray r.tape
  have hrooted := hr.rooted
  rw [h.frames] at hrooted
  obtain ⟨hparent, -, -⟩ := hrooted
  have hmove : m.move r.config = .ok { r.config with
      frames := (below :: rest).map Frame.bare
      tape := top.settle true cleaned
      flow := top.bare.flowBelow below.bare true none
      emptied := cause } := by
    rw [h.move_eq, hfinish]
    simp only [bind, Except.bind, hparent, Option.isNone_some, Bool.false_eq_true, if_false]
    exact Config.resumeBelow_cons rfl top.bare none true
  obtain ⟨s, hstep, hconfig⟩ := Machine.step_of_move hmove
  refine ⟨s, cleaned, hstep, Run.frames_eq ?_ ?_, ?_, ?_, hfinish, ?_⟩
  · rw [hconfig]
  · obtain ⟨failed, hflow, -, -⟩ := h.failed
    rw [(hr.turn hstep).frames_of_complete hflow, h.frames, List.tail_cons]
  · exact congrArg Config.flow hconfig
  · exact congrArg Config.emptied hconfig
  · exact congrArg Config.tape hconfig

theorem tape_of_absorbs (h : r.Failing top (below :: rest) cause)
    (hr : m.Reaches (Draft.fresh source) props r) (habsorbs : top.policy.absorbs = true)
    {cleaned : Draft} (hfinish : top.finish r.tape = .ok cleaned) :
    ∃ before count, m.Reaches (Draft.fresh source) props before ∧
      before.stack.size = (below :: rest).length ∧ m.Put before count r ∧
      top.settle true cleaned = before.tape := by
  obtain ⟨bases, hsound, hbases⟩ := hr.based
  have hlayers := hsound.layers
  rw [Run.config_cons h.frames] at hlayers
  cases hlayers with
  | @cons _ _ _ base _ bases hbelow hover =>
      obtain ⟨before, count, hbefore, hsize, hput, rfl⟩ := hbases [] base bases rfl
      refine ⟨before, count, hbefore, ?_, hput, ?_⟩
      · rw [hsize, ← hbelow.length_bases]
        simp
      · have hbranched : top.branched = true := by
          rw [show top.branched = top.policy.branches from hover.branched, Policy.branches,
            habsorbs, Bool.or_true]
        have hundone := (hover.silent (Frame.finish_silent hfinish)).reject_eq hbranched
        simp only [Frame.settle, hbranched, if_true, Bool.true_or]
        exact hundone

end Run.Failing

end Leaving

namespace Machine

variable [Stepper σ] {m : Machine σ n} {source : Source} {props : Option Json}
  {r r' : Run σ n Draft} {frames high low : List (Frame σ n)} {f : Frame σ n}
  {cause : Option String} {lead : Nat}

theorem Reaches.policy_outermost {T : Type} [Tape T] {tape : T} {r : Run σ n T}
    (h : m.Reaches tape props r) (high : List (Frame σ n))
    (hframes : r.stack.frames = high ++ [f]) : f.policy = Verb.eat.policy := by
  have houtermost : ∃ high f, r.outline.frames = high ++ [f] ∧ f.policy = Verb.eat.policy := by
    refine h.induction ?_ ?_
    · intro first hfirst
      rw [start_outline hfirst]
      exact ⟨[], m.fragmentFrame props, rfl, rfl⟩
    · rintro r r' hr ⟨high, f, hframes, hpolicy⟩ hstep
      have htaken : 0 < r'.outline.frames.length := by
        rw [Run.length_outline]
        apply List.length_pos_iff.mpr
        intro hnil
        have hrooted := (hr.step hstep).rooted
        rw [hnil] at hrooted
        exact hrooted
      obtain ⟨high', f', hframes', hrenews, -⟩ := (hr.turn hstep).renews hframes htaken
      exact ⟨high', f', hframes', hrenews.policy.trans hpolicy⟩
  obtain ⟨high', f', hframes', hpolicy⟩ := houtermost
  have hsame : high.map Frame.unstarted ++ [f.unstarted] = high' ++ [f'] := by
    rw [← hframes', Run.outline, hframes, List.map_append]
    rfl
  obtain ⟨-, hlast⟩ := List.append_inj' hsame rfl
  cases hlast
  exact hpolicy

/-- A failure that is there when a frame has been left is the one of that frame. -/
theorem Reaches.handed (h : m.Reaches (Draft.fresh source) props r) (hstep : m.step r = .ok r')
    {failed : Bool} (hflow : r.flow = .complete failed) (hfailed : r'.flow = .complete true) :
    ∃ left, r.Failing left r'.stack.frames r'.emptied ∧ left.HandsDown := by
  have hturn := h.turn hstep
  generalize ho : r'.outline = o at hturn
  have hflow' : o.flow = .complete true := by
    rw [← ho]
    exact hfailed
  cases hturn with
  | kept hstepping => simp [hstepping.flow] at hflow
  | pushed hstepping => simp [hstepping.flow] at hflow
  | spliced hstepping => simp [hstepping.flow] at hflow
  | @finished left below rest failed' value hframes hcomplete hvalue =>
      have hfails : left.fails failed' r.cursor.position = true ∧ left.policy.absorbs = false := by
        simp only [Frame.flowBelow] at hflow'
        split at hflow'
        · rename_i hcascade
          simpa using hcascade
        · split at hflow' <;> cases hflow'
      obtain ⟨hfailing, habsorbs⟩ := hfails
      have hleft : r.Failing left (below :: rest) _ := ⟨hframes, failed', hcomplete, hfailing, rfl⟩
      rcases hstray : left.stray? with _ | i
      · obtain ⟨s, cleaned, hs, hstack, -, hcause, -, -⟩ := hleft.step_of_below h hstray
        rw [hstep] at hs
        cases hs
        rw [← hcause, ← hstack] at hleft
        exact ⟨left, hleft, habsorbs, hstray⟩
      · obtain ⟨halt, hhalt, -⟩ := hleft.step_of_stray m hstray
        rw [hstep] at hhalt
        cases hhalt

theorem Reaches.unwind {top : Frame σ n} {rest : List (Frame σ n)}
    (hr : m.Reaches (Draft.fresh source) props r) (h : r.Failing top rest cause)
    (hframes : top :: rest = high ++ f :: low) (hhigh : ∀ g ∈ high, g.HandsDown) :
    ∃ s, m.steps high.length r = .ok s ∧ m.Reaches (Draft.fresh source) props s ∧
      s.Failing f low cause := by
  induction high generalizing r top rest with
  | nil =>
      cases hframes
      exact ⟨r, rfl, hr, h⟩
  | cons g high ih =>
      rw [List.cons_append] at hframes
      obtain ⟨rfl, rfl⟩ := List.cons.inj hframes
      obtain ⟨below, rest, hrest⟩ : ∃ below rest, high ++ f :: low = below :: rest :=
        List.exists_cons_of_ne_nil (by simp)
      rw [hrest] at h
      obtain ⟨habsorbs, hstray⟩ := hhigh top List.mem_cons_self
      obtain ⟨s, cleaned, hstep, hstack, hflow, hcause, -, -⟩ := h.step_of_below hr hstray
      have hfailed : s.flow = .complete true := by
        rw [hflow, Frame.flowBelow, habsorbs]
        rfl
      have hs : s.Failing below rest cause := ⟨hstack, true, hfailed, rfl, hcause.symm⟩
      obtain ⟨s', hsteps, hs'⟩ := ih (hr.step hstep) hs hrest.symm
        (fun g hg => hhigh g (List.mem_cons_of_mem _ hg))
      refine ⟨s', ?_, hs'⟩
      rw [List.length_cons, Machine.steps, hstep]
      exact hsteps

theorem Reaches.failing_at (hr : m.Reaches (Draft.fresh source) props r)
    (h : m.BeginsToFail r lead frames cause) (hframes : frames = high ++ f :: low)
    (hhigh : ∀ g ∈ high, g.HandsDown) :
    ∃ s, m.steps (lead + high.length) r = .ok s ∧ m.Reaches (Draft.fresh source) props s ∧
      s.Failing f low cause := by
  obtain ⟨failing, top, rest, hlead, rfl, hfailing⟩ := h.failing
  obtain ⟨s, hsteps, hs⟩ := (hr.steps hlead).1.unwind hfailing hframes hhigh
  refine ⟨s, ?_, hs⟩
  rw [steps_add, hlead]
  exact hsteps

/-- Every failure has begun in some state and has been handed down since. -/
theorem Reaches.exists_begin (h : m.Reaches (Draft.fresh source) props r) :
    ∀ top rest cause, r.Failing top rest cause →
      ∃ first lead high, m.Reaches (Draft.fresh source) props first ∧
        m.BeginsToFail first lead (high ++ top :: rest) cause ∧ (∀ g ∈ high, g.HandsDown) ∧
        m.steps (lead + high.length) first = .ok r := by
  refine h.induction ?_ ?_
  · rintro first hfirst top rest cause ⟨-, failed, hflow, -⟩
    have hresume : first.flow = .resume none := congrArg Outline.flow (start_outline hfirst)
    rw [hresume] at hflow
    cases hflow
  · rintro r r' hr ih hstep top rest cause ⟨hframes, failed, hflow, hfails, rfl⟩
    cases failed with
    | false =>
        simp only [Frame.fails, Bool.false_or, Bool.and_eq_true, Bool.not_eq_true'] at hfails
        exact ⟨r', 0, [], hr.step hstep, .emptied hframes hflow hfails.1 hfails.2, by simp, rfl⟩
    | true =>
        rcases hbefore : r.flow with value | failed
        · have hbegins := BeginsToFail.of_step hbefore hstep hflow
          rw [hframes] at hbegins
          exact ⟨r, 1, [], hr, hbegins, by simp, steps_next rfl |>.trans hstep⟩
        · -- The failure was handed down by the frame that has just been left.
          obtain ⟨left, hfailing, hhands⟩ := hr.handed hstep hbefore hflow
          rw [hframes] at hfailing
          obtain ⟨first, lead, high, hfirst, hbegins, hhigh, hsteps⟩ := ih left _ _ hfailing
          refine ⟨first, lead, high ++ [left], hfirst, ?_, ?_, ?_⟩
          · rw [List.append_assoc]
            exact hbegins
          · exact List.forall_mem_append.mpr ⟨hhigh, List.forall_mem_singleton.mpr hhands⟩
          · rw [List.length_append, ← Nat.add_assoc]
            exact (steps_next hsteps).trans hstep

/-- What becomes of the frames of a state in which the active one begins to fail. -/
structure Unwinds (m : Machine σ n) (source : Source) (props : Option Json) (r : Run σ n Draft)
    (lead : Nat) (frames : List (Frame σ n)) (cause : Option String) : Prop where
  /-- As long as the failure is handed down, each step leaves one frame. -/
  handed : ∀ high f low, frames = high ++ f :: low → (∀ g ∈ high, g.HandsDown) →
    ∃ s, m.steps (lead + high.length) r = .ok s ∧ s.stack.frames = f :: low
  /-- The first frame that absorbs the failure is left with the tape on which its place was taken.
  The production of the frame below it is given nothing, or has nothing more to do. -/
  absorbed : ∀ high f low, frames = high ++ f :: low → (∀ g ∈ high, g.HandsDown) →
    f.policy.absorbs = true → f.stray? = none →
    ∃ before count last s below rest, m.steps (lead + high.length) r = .ok last ∧
      m.Reaches (Draft.fresh source) props before ∧ before.stack.size = low.length ∧
      m.Put before count last ∧ m.steps (lead + high.length + 1) r = .ok s ∧
      s.stack.frames = low ∧ s.tape = before.tape ∧ low = below :: rest ∧
      s.flow = if below.returning then .complete false else .resume none
  /-- A failure that no frame absorbs ends the run. -/
  unabsorbed : (∀ g ∈ frames, g.HandsDown) →
    ∃ halt, m.steps (lead + frames.length) r = .error halt ∧ halt.outcome.Reports cause
  /-- So does a frame whose cleanup is not allowed, and then this is what is reported. -/
  unclean : ∀ high f low i, frames = high ++ f :: low → (∀ g ∈ high, g.HandsDown) →
    f.stray? = some i →
    ∃ halt, m.steps (lead + high.length + 1) r = .error halt ∧
      halt.outcome = .rejected (.cleanupViolation f.nodeType i.verbName)

theorem Reaches.unwinds (hr : m.Reaches (Draft.fresh source) props r)
    (h : m.BeginsToFail r lead frames cause) : m.Unwinds source props r lead frames cause where
  handed := by
    intro high f low hframes hhigh
    obtain ⟨s, hsteps, -, hs⟩ := hr.failing_at h hframes hhigh
    exact ⟨s, hsteps, hs.frames⟩
  absorbed := by
    intro high f low hframes hhigh habsorbs hstray
    obtain ⟨last, hsteps, hlast, hfailing⟩ := hr.failing_at h hframes hhigh
    rcases low with _ | ⟨below, rest⟩
    · have hpolicy := hlast.policy_outermost [] hfailing.frames
      rw [hpolicy] at habsorbs
      cases habsorbs
    obtain ⟨s, cleaned, hstep, hstack, hflow, -, hfinish, htape⟩ :=
      hfailing.step_of_below hlast hstray
    obtain ⟨before, count, hbefore, hsize, hput, hundone⟩ :=
      hfailing.tape_of_absorbs hlast habsorbs hfinish
    refine ⟨before, count, last, s, below, rest, hsteps, hbefore, hsize, hput,
      (steps_next hsteps).trans hstep, hstack, htape.trans hundone, rfl, ?_⟩
    rw [hflow, Frame.flowBelow, habsorbs]
    rfl
  unabsorbed := by
    intro hhands
    obtain ⟨high, f, rfl⟩ : ∃ high f, frames = high ++ [f] := by
      obtain ⟨-, top, rest, -, rfl, -⟩ := h.failing
      exact ⟨_, _, (List.dropLast_append_getLast (List.cons_ne_nil top rest)).symm⟩
    obtain ⟨hhigh, hlast⟩ := List.forall_mem_append.mp hhands
    obtain ⟨-, hstray⟩ := List.forall_mem_singleton.mp hlast
    obtain ⟨last, hsteps, hlast, hfailing⟩ := hr.failing_at h rfl hhigh
    obtain ⟨halt, hstep, hreports⟩ := hfailing.step_of_outermost hlast hstray
    refine ⟨halt, ?_, hreports⟩
    rw [List.length_append, ← Nat.add_assoc]
    exact (steps_next hsteps).trans hstep
  unclean := by
    intro high f low i hframes hhigh hstray
    obtain ⟨last, hsteps, -, hfailing⟩ := hr.failing_at h hframes hhigh
    obtain ⟨halt, hstep, houtcome⟩ := hfailing.step_of_stray m hstray
    exact ⟨halt, (steps_next hsteps).trans hstep, houtcome⟩

theorem Reaches.failing_of_reports (hr : m.Reaches (Draft.fresh source) props r)
    {halt : Halt σ n Draft} (hstep : m.step r = .error halt) (h : halt.outcome.Reports cause) :
    ∃ top, r.Failing top [] cause ∧ top.HandsDown := by
  obtain ⟨top, failed, hframes, hflow, -⟩ := (hr.ending hstep).outermost h.ordinary.1
  have hfails : top.fails failed r.cursor.position = true := by
    have hrooted := hr.rooted
    rw [hframes] at hrooted
    have hmove := move_of_halt hstep
    rw [move_of_complete m hframes hflow] at hmove
    exact h.fails hrooted.1 hmove
  have hfailing : r.Failing top [] _ := ⟨hframes, failed, hflow, hfails, rfl⟩
  have habsorbs : top.policy.absorbs = false := by
    rw [hr.policy_outermost [] hframes]
    rfl
  rcases hstray : top.stray? with _ | i
  · obtain ⟨halt', hhalt, hreports⟩ := hfailing.step_of_outermost hr hstray
    rw [hstep] at hhalt
    cases hhalt
    rw [hreports.unique h] at hfailing
    exact ⟨top, hfailing, habsorbs, hstray⟩
  · obtain ⟨halt', hhalt, houtcome⟩ := hfailing.step_of_stray m hstray
    rw [hstep] at hhalt
    cases hhalt
    have hordinary := h.ordinary.1
    rw [houtcome] at hordinary
    cases hordinary

/-- A failure is handed down to the first frame that absorbs it, and this one is left as if it had
never been there. If there is no such frame, the run ends with the cause with which the failure
began. What a run reports is never the cause of a failure that has been absorbed. -/
theorem run_failures (m : Machine σ n) (source : Source) (props : Option Json) :
    (∀ r lead frames cause, m.Reaches (Draft.fresh source) props r →
      m.BeginsToFail r lead frames cause → m.Unwinds source props r lead frames cause) ∧
    ∀ fuel halt cause, m.run (Draft.fresh source) props fuel = some halt →
      halt.outcome.Reports cause →
      ∃ r lead frames, m.Reaches (Draft.fresh source) props r ∧
        m.BeginsToFail r lead frames cause ∧ (∀ f ∈ frames, f.HandsDown) ∧
        m.steps (lead + frames.length) r = .error halt := by
  refine ⟨?_, ?_⟩
  · intro r lead frames cause hr hbegins
    exact hr.unwinds hbegins
  · intro fuel halt cause hrun hreports
    rcases run_ends hrun with hstart | ⟨r, hr, hstep⟩
    · have hordinary := (start_error hstart).2
      rw [hreports.ordinary.1] at hordinary
      cases hordinary
    · obtain ⟨top, hfailing, hhands⟩ := hr.failing_of_reports hstep hreports
      obtain ⟨first, lead, high, hfirst, hbegins, hhigh, hsteps⟩ :=
        hr.exists_begin top [] cause hfailing
      refine ⟨first, lead, high ++ [top], hfirst, hbegins, ?_, ?_⟩
      · exact List.forall_mem_append.mpr ⟨hhigh, List.forall_mem_singleton.mpr hhands⟩
      · rw [List.length_append, ← Nat.add_assoc]
        exact (steps_next hsteps).trans hstep

/-- A machine that tries a rule which matches nothing, and then gives up. -/
def blankReader (cleanup : List Instruction) : Machine Automaton 1 where
  catalog _ := {
    url := "urn:word"
    grammar := ({} : Grammar Automaton).node "Word"
      |>.node "Blank"
      |>.define "Word" (fun _ => .custom {
          states := [[(.always, .yield (.eatMatch (.node "Blank")) 1)],
            [(.always, .yield .fail 2)]]
          cleanup })
      |>.define "Blank" (.script [] none) }
  language := Fin.last 0
  goal := .node "Word"

/-- The failure of the blank is absorbed; that of the word is reported in the end. -/
theorem run_failures_blankReader :
    (∃ r frames before count last s,
      (blankReader []).Reaches (Draft.fresh (.ofSegments [some "a"])) none r ∧
      (blankReader []).BeginsToFail r 0 frames (some "Blank") ∧
      (blankReader []).Put before count last ∧ (blankReader []).steps 1 r = .ok s ∧
      s.tape = before.tape ∧ s.flow = .resume none) ∧
    ∃ halt r lead frames,
      (blankReader []).run (Draft.fresh (.ofSegments [some "a"])) none 9 = some halt ∧
      halt.outcome = .rejected (.failed 0) ∧ (blankReader []).BeginsToFail r lead frames none ∧
      (blankReader []).steps (lead + frames.length) r = .error halt := by
  obtain ⟨hunwinds, hreports⟩ := run_failures (blankReader []) (.ofSegments [some "a"]) none
  refine ⟨?_, ?_⟩
  · obtain ⟨r, top, below, rest, hr, hframes, hflow, hempty, hallow, htype, habsorbs, hstray,
        hreturning⟩ : ∃ r top below rest,
          (blankReader []).stateAt? (.ofSegments [some "a"]) 3 = some r ∧
          r.stack.frames = top :: below :: rest ∧ r.flow = .complete false ∧
          top.capture.isEmptyAt r.cursor.position = true ∧ top.allowEmpty = false ∧
          top.nodeType = "Blank" ∧ top.policy.absorbs = true ∧ top.stray? = none ∧
          below.returning = false :=
      ⟨_, _, _, _, rfl, rfl, rfl, rfl, rfl, rfl, rfl, rfl, rfl⟩
    have hreaches := reaches_of_stateAt? hr
    have hbegins := BeginsToFail.emptied (m := blankReader []) hframes hflow hempty hallow
    rw [htype] at hbegins
    obtain ⟨before, count, last, s, below', rest', -, -, -, hput, hstep, -, htape, hlow, hflow'⟩ :=
      (hunwinds r 0 _ _ hreaches hbegins).absorbed [] top _ rfl (by simp) habsorbs hstray
    obtain ⟨rfl, rfl⟩ := List.cons.inj hlow
    rw [hreturning] at hflow'
    exact ⟨r, _, before, count, last, s, hreaches, hbegins, hput, hstep, htape, hflow'⟩
  · obtain ⟨halt, hrun, houtcome⟩ : ∃ halt,
        (blankReader []).run (Draft.fresh (.ofSegments [some "a"])) none 9 = some halt ∧
          halt.outcome = .rejected (.failed 0) := ⟨_, rfl, rfl⟩
    obtain ⟨r, lead, frames, -, hbegins, -, hsteps⟩ := hreports 9 halt none hrun ⟨0, houtcome⟩
    exact ⟨halt, r, lead, frames, hrun, houtcome, hbegins, hsteps⟩

/-- A failure that no frame absorbs is not reported if the cleanup of a frame is not allowed. -/
theorem unabsorbed_unreported : ∃ r frames halt,
    (blankReader [.fail]).Reaches (Draft.fresh (.ofSegments [some "a"])) none r ∧
      (blankReader [.fail]).BeginsToFail r 1 frames none ∧
      (∀ f ∈ frames, f.policy.absorbs = false) ∧
      (blankReader [.fail]).steps 2 r = .error halt ∧
      (blankReader [.fail]).run (Draft.fresh (.ofSegments [some "a"])) none 9 = some halt ∧
      halt.outcome = .rejected (.cleanupViolation "Word" "fail") ∧
      ∀ cause, ¬ halt.outcome.Reports cause := by
  obtain ⟨r, top, bottom, value, production, halt, hr, hstepping, htop, hbottom, hsteps, hrun,
      houtcome⟩ : ∃ r top bottom value production halt,
        (blankReader [.fail]).stateAt? (.ofSegments [some "a"]) 4 = some r ∧
        r.Stepping top [bottom] value (Instruction.fail.asStep false) production ∧
        top.policy.absorbs = false ∧ bottom.policy.absorbs = false ∧
        (blankReader [.fail]).steps 2 r = .error halt ∧
        (blankReader [.fail]).run (Draft.fresh (.ofSegments [some "a"])) none 9 = some halt ∧
        halt.outcome = .rejected (.cleanupViolation "Word" "fail") :=
    ⟨_, _, _, _, _, _, rfl, ⟨rfl, rfl, rfl⟩, rfl, rfl, rfl, rfl, rfl⟩
  refine ⟨r, _, halt, reaches_of_stateAt? hr, .aborted hstepping (.fail false), ?_, hsteps, hrun,
    houtcome, ?_⟩
  · simp [htop, hbottom]
  · intro cause hreports
    have hordinary := hreports.ordinary.1
    rw [houtcome] at hordinary
    cases hordinary

end Machine

end GrammarMachine
