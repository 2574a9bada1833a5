import GrammarMachine.Proofs.Machine.Folding
import GrammarMachine.Proofs.Machine.Intact

/-!
How folded frames are finished. Where the first run finishes one frame, the second one finishes the
frames for which it stands, one after the other. Both come to the same end, unless in the second run
a frame matches nothing, may not do so, and is waited for by one that has already matched something.
-/

namespace GrammarMachine

variable {σ : Type} {n : Nat}

/-- Drafts that become the same when the latest transaction is undone. -/
structure Draft.SameBelow (d d' : Draft) : Prop where
  branches : d'.branches = d.branches
  reject : d.branches ≠ [] → d'.reject = d.reject

theorem Draft.SameBelow.of_eq {d d' : Draft} (h : d' = d) : d.SameBelow d' := by
  subst h
  exact ⟨rfl, fun _ => rfl⟩

theorem Draft.SameBelow.trans {a b c : Draft} (hab : a.SameBelow b) (hbc : b.SameBelow c) :
    a.SameBelow c where
  branches := hbc.branches.trans hab.branches
  reject := fun h => (hbc.reject (hab.branches ▸ h)).trans (hab.reject h)

/-- The latest transaction goes back to a tape that has only grown since. -/
theorem Layers.latest {source : Source} {frames : List (Frame σ n)} {bases : List Draft}
    {d : Draft} (h : Layers source frames bases d) (hopen : d.branches ≠ []) :
    ∃ base : Draft, base.Extends d ∧ d.branches = base.snapshot :: base.branches := by
  induction h with
  | fragment _ _ _ _ _ _ _ hnone => exact absurd hnone hopen
  | @cons f _ _ base _ _ _ hover _ _ _ _ _ ih =>
      have hbranches := hover.branches
      split at hbranches
      · exact ⟨base, hover.grown, hbranches⟩
      · obtain ⟨lower, hgrown, hlower⟩ := ih (hbranches ▸ hopen)
        exact ⟨lower, hgrown.trans hover.grown, hbranches.trans hlower⟩

theorem Layers.sameBelow_advanceAll {source : Source} {frames : List (Frame σ n)}
    {bases : List Draft} {d : Draft} (h : Layers source frames bases d) (tags : List Tag) :
    d.SameBelow (d.advanceAll tags) := by
  refine ⟨Draft.advanceAll_branches d tags, fun hopen => ?_⟩
  obtain ⟨base, hgrown, hbranches⟩ := h.latest hopen
  rw [Draft.reject_eq hgrown hbranches]
  exact Draft.reject_eq (hgrown.trans (.advanceAll d tags))
    ((Draft.advanceAll_branches d tags).trans hbranches)

/-- Ways to go on that differ at most in the value of the last instruction. -/
def Flow.Alike : Flow → Flow → Prop
  | .resume _, .resume _ => True
  | .complete failed, .complete failed' => failed' = failed
  | _, _ => False

theorem Flow.Alike.refl (flow : Flow) : flow.Alike flow := by
  cases flow with
  | resume => trivial
  | complete => rfl

theorem Flow.Alike.complete {flow : Flow} {failed : Bool}
    (h : Flow.Alike (.complete failed) flow) : flow = .complete failed := by
  cases flow with
  | resume => cases h
  | complete failed' => rw [show failed' = failed from h]

theorem Flow.Alike.resume {flow : Flow} {value : Option Extent}
    (h : Flow.Alike (.resume value) flow) : ∃ value', flow = .resume value' := by
  cases flow with
  | resume value' => exact ⟨value', rfl⟩
  | complete => cases h

/-- Ends of runs that accept an input with the same tape, or do not accept it. -/
structure Agree (halt halt' : Draft × Outcome) : Prop where
  outcome : ∀ extent, halt'.2 = .accepted extent ↔ halt.2 = .accepted extent
  tape : ∀ extent, halt.2 = .accepted extent → halt'.1 = halt.1

theorem Agree.refl (halt : Draft × Outcome) : Agree halt halt :=
  ⟨fun _ => .rfl, fun _ _ => rfl⟩

theorem Agree.of_ne {d d' : Draft} {outcome outcome' : Outcome}
    (h : ∀ extent, outcome ≠ .accepted extent) (h' : ∀ extent, outcome' ≠ .accepted extent) :
    Agree (d, outcome) (d', outcome') :=
  ⟨fun extent => ⟨fun hacc => absurd hacc (h' extent), fun hacc => absurd hacc (h extent)⟩,
    fun extent hacc => absurd hacc (h extent)⟩

/-- Configurations of which the first one stands for the second one. While a failure is handed down,
the tapes may differ in tags that are going to be undone. -/
structure Config.Folds (place : Fin n) (nodeType : String) (c c' : Config σ n) : Prop where
  frames : Folded place nodeType c.frames c'.frames
  below : c.tape.SameBelow c'.tape
  tape : c.flow ≠ .complete true → c'.tape = c.tape
  flow : c.flow.Alike c'.flow

/-- Results of moves of which the first one stands for the second one, unless there were too many
frames. -/
inductive Result.Folds (place : Fin n) (nodeType : String) : Result σ n → Result σ n → Prop where
  | ok {c c' : Config σ n} : c.Folds place nodeType c' →
      Result.Folds place nodeType (.ok c) (.ok c')
  | error {halt halt' : Draft × Outcome} : Agree halt halt' →
      Result.Folds place nodeType (.error halt) (.error halt')
  | deepFirst (d : Draft) (limit : Nat) (x : Result σ n) :
      Result.Folds place nodeType (.error (d, .rejected (.depthExceeded limit))) x
  | deepSecond (d : Draft) (limit : Nat) (x : Result σ n) :
      Result.Folds place nodeType x (.error (d, .rejected (.depthExceeded limit)))

/-- Whether a rule that may not match nothing is about to end without having matched anything, while
a rule of the given type that waits for it, and asks for nothing more, has already matched
something. There may be more such rules between them. -/
def Config.endsEmpty (place : Fin n) (nodeType : String) (c : Config σ n) : Bool :=
  match c.flow, c.frames with
  | .complete false, top :: rest =>
      !top.allowEmpty && top.capture.isEmptyAt c.tape.position &&
        (rest.takeWhile (·.awaitsLast place nodeType)).any (!·.capture.isEmptyAt c.tape.position)
  | _, _ => false

variable {place : Fin n} {nodeType : String} {f g : Frame σ n} {callers fs gs : List (Frame σ n)}
  {source : Source} {bases : List Draft}

theorem Frame.closing_position (f : Frame σ n) (failing : Bool) (d : Draft) :
    (d.advanceAll (f.closing failing)).position = d.position := by
  unfold Frame.closing
  cases failing <;> cases f.isNode <;> cases f.isFragment <;> rfl

theorem Frame.closing_of_awaitsLast (h : f.awaitsLast place nodeType = true) (failing : Bool) :
    f.closing failing = [] := by
  have htransparent := (awaitsLast_script h).1
  simp only [isTransparent, Bool.and_eq_true, Bool.not_eq_true'] at htransparent
  simp [closing, htransparent]

theorem Frame.Shares.settle (h : f.Shares place nodeType g []) {d d' : Draft}
    (hbelow : d.SameBelow d') (hopen : f.branched = true → d.branches ≠ []) {failing : Bool}
    (hclosed : failing = false → d' = d) :
    (f.settle failing d).SameBelow (g.settle failing d') ∧
      (failing = false ∨ f.branched = true → g.settle failing d' = f.settle failing d) := by
  cases h with
  | alone hpolicy hbranched =>
      unfold Frame.settle
      rw [hpolicy, hbranched]
      cases failing with
      | false =>
          rw [hclosed rfl]
          exact ⟨.of_eq rfl, fun _ => rfl⟩
      | true =>
          cases hbranch : f.branched with
          | false => exact ⟨hbelow, by simp⟩
          | true =>
              have hundone : d'.reject = d.reject := hbelow.reject (hopen hbranch)
              exact ⟨.of_eq hundone, fun _ => hundone⟩

theorem Config.conclude_failing (d : Draft) (left : Nat) (value : Option Extent)
    (emptied : Option String) (offset : Nat) (extent : Extent) :
    conclude d left value true emptied offset ≠ .accepted extent := by
  unfold conclude
  split
  · simp
  split
  · simp
  cases emptied <;> simp

theorem Layers.branches_ne_nil {frames : List (Frame σ n)} {d : Draft}
    (h : Layers source (f :: frames) bases d) (hbranched : f.branched = true) :
    d.branches ≠ [] := by
  cases h with
  | fragment _ _ _ hbranched' => simp [hbranched'] at hbranched
  | cons _ hover => simp [hover.branches, hbranched]

theorem Frame.Shares.nonempty {caller : Frame σ n} {c : Config σ n}
    (h : f.Shares place nodeType caller callers)
    (hawaits : caller.awaitsLast place nodeType = true)
    (hframes : c.frames = g :: (caller :: callers ++ gs)) (hflow : c.flow = .complete false)
    (hends : c.endsEmpty place nodeType = false)
    (hfull : f.capture.isEmptyAt c.tape.position = false) (hallow : g.allowEmpty = false) :
    g.capture.isEmptyAt c.tape.position = false := by
  have hwaiting : ∀ x ∈ caller :: callers, x.awaitsLast place nodeType = true := by
    intro x hx
    rcases List.mem_cons.mp hx with rfl | hx
    · exact hawaits
    · exact h.awaits x hx
  obtain ⟨outer, houter, hstart⟩ := h.start
  have hsomething : ((caller :: callers ++ gs).takeWhile (·.awaitsLast place nodeType)).any
      (!·.capture.isEmptyAt c.tape.position) = true := by
    rw [List.takeWhile_append_of_pos hwaiting]
    refine List.any_eq_true.mpr ⟨outer, List.mem_append_left _ houter, ?_⟩
    rw [Capture.isEmptyAt, hstart, ← Capture.isEmptyAt, hfull]
    rfl
  simp only [Config.endsEmpty, hflow, hframes, hallow, Bool.not_false, Bool.true_and] at hends
  rwa [hsomething, Bool.and_true] at hends

section

variable [Stepper σ] {m m' : Machine σ n} {c c' : Config σ n} {rest : List (Frame σ n)}
  {failed : Bool}

theorem Frame.finish_script (h : ∃ script, f.production = .script script) (d : Draft) :
    f.finish d = .ok d := by
  obtain ⟨script, hscript⟩ := h
  simp only [Frame.finish, hscript, Production.cleanup, Draft.clean]

theorem Config.finishTop_script (hsound : c.Sound source bases) (hframes : c.frames = f :: rest)
    (hscript : ∃ script, f.production = .script script) {failing : Bool}
    (hfailing : f.fails failed c.tape.position = failing) :
    let closed := c.tape.advanceAll (f.closing failing)
    let tape := f.settle failing closed
    ∃ emptied, c.finishTop f rest failed =
      if f.parent.isNone then
        .error (tape, conclude tape rest.length (f.valueAt failing closed) failing emptied
          c.tape.position.offset)
      else
        resumeBelow { c with frames := rest, tape, emptied } f (f.valueAt failing closed)
          failing := by
  have hlayers := hsound.layers
  rw [hframes] at hlayers
  refine ⟨if failing && !failed then some f.nodeType else c.emptied, ?_⟩
  simp only [finishTop, hfailing, hlayers.running, Option.isSome_none, Bool.and_false,
    Bool.false_eq_true, if_false, Frame.finish_script hscript]

theorem Config.Sound.leave {caller : Frame σ n} (h : c.Sound source bases)
    (hframes : c.frames = g :: caller :: rest) (hflow : c.flow = .complete failed)
    (hscript : ∃ script, g.production = .script script) (hpolicy : g.policy = Verb.eat.policy)
    (hbranched : g.branched = false) (hparent : g.parent.isNone = false)
    (hawaits : caller.awaitsLast place nodeType = true) (hreturning : caller.returning = false)
    {failing : Bool} (hfailing : g.fails failed c.tape.position = failing) :
    ∃ count emptied, m.moves count c = .ok { c with
      frames := caller :: rest
      tape := c.tape.advanceAll (g.closing failing)
      flow := .complete failing
      emptied } := by
  obtain ⟨emptied, hfinish⟩ := finishTop_script h hframes hscript hfailing
  have hsettle : ∀ d, g.settle failing d = d := by
    intro d
    simp [Frame.settle, hbranched]
  have habsorbs : g.policy.absorbs = false := by
    rw [hpolicy]
    rfl
  simp only [hsettle, hparent, Bool.false_eq_true, if_false, resumeBelow, habsorbs, Bool.not_false,
    Bool.and_true, hreturning] at hfinish
  have hmove : m.move c = c.finishTop g (caller :: rest) failed := by
    simp only [Machine.move, hframes, hflow]
  cases failing with
  | true =>
      refine ⟨1, emptied, ?_⟩
      simp only [Machine.moves, hmove, hfinish, if_true]
  | false =>
      -- The caller is resumed, and has nothing left to do.
      refine ⟨2, emptied, ?_⟩
      simp only [Machine.moves, hmove, hfinish, Bool.false_eq_true, if_false]
      rw [m.move_done rfl (Frame.awaitsLast_script hawaits).2 rfl]

/-- The frames that share a place are left one after the other, until only the outermost one is
there. It fails if and only if the place as a whole does. -/
theorem Frame.Shares.unwind (h : f.Shares place nodeType g callers) (hsound : c.Sound source bases)
    (hframes : c.frames = g :: (callers ++ gs)) (hflow : c.flow = .complete failed)
    (hscript : ∃ script, g.production = .script script)
    (hends : ∀ count d, m.moves count c = .ok d → d.endsEmpty place nodeType = false)
    {failing : Bool}
    (hfailing : failing = (failed || f.capture.isEmptyAt c.tape.position &&
      !(g.allowEmpty && callers.all (·.allowEmpty)))) :
    ∃ count outer written failed' emptied,
      m.moves count c = .ok { c with
        frames := outer :: gs
        tape := c.tape.advanceAll written
        flow := .complete failed'
        emptied } ∧
      f.Shares place nodeType outer [] ∧ (∃ script, outer.production = .script script) ∧
      outer.fails failed' (c.tape.advanceAll written).position = failing ∧
      (failing = false → written ++ outer.closing false = g.closing false) ∧
      (callers = [] → outer = g) := by
  induction h generalizing c bases failed with
  | @alone g hpolicy hbranched hstart hparent =>
      refine ⟨0, g, [], failed, c.emptied, ?_, .alone hpolicy hbranched hstart hparent, hscript, ?_,
        fun _ => List.nil_append _, fun _ => rfl⟩
      · rw [Machine.moves, Draft.advanceAll_nil, ← hflow, ← List.nil_append gs, ← hframes]
      · have hempty : g.capture.isEmptyAt = f.capture.isEmptyAt := by
          funext position
          rw [Capture.isEmptyAt, Capture.isEmptyAt, hstart]
        rw [hfailing, fails, hempty, List.all_nil, Bool.and_true, Draft.advanceAll_nil]
  | @above g caller callers hpolicy hbranched hparent hawaits hreturning hshares ih =>
      have hlayers := hsound.layers
      rw [hframes] at hlayers
      obtain ⟨count, emptied, hmoved⟩ := hsound.leave (m := m) hframes hflow hscript hpolicy
        hbranched hparent hawaits hreturning rfl
      obtain ⟨bases', hsound'⟩ := Machine.moves_sound hsound hmoved
      have hempty : f.capture.isEmptyAt c.tape.position = true →
          g.capture.isEmptyAt c.tape.position = true := fun hempty =>
        (Frame.Shares.above hpolicy hbranched hparent hawaits hreturning hshares).isEmptyAt hlayers
          ⟨Nat.le_refl _, Nat.le_refl _⟩ hempty g List.mem_cons_self
      -- If the place has matched something, the frame may not have matched nothing.
      have hfull : failed = false → f.capture.isEmptyAt c.tape.position = false →
          g.allowEmpty = false → g.capture.isEmptyAt c.tape.position = false := by
        rintro rfl hfull hallow
        exact hshares.nonempty hawaits hframes hflow (hends 0 c rfl) hfull hallow
      have hfailing' : failing = (g.fails failed c.tape.position ||
          f.capture.isEmptyAt c.tape.position &&
            !(caller.allowEmpty && callers.all (·.allowEmpty))) := by
        rw [hfailing, fails, List.all_cons]
        cases failed with
        | true => rfl
        | false =>
            cases hplace : f.capture.isEmptyAt c.tape.position with
            | true => simp [hempty hplace]
            | false =>
                cases hallow : g.allowEmpty with
                | true => simp
                | false => simp [hfull rfl hplace hallow]
      obtain ⟨count', outer, written, failed', emptied', hmoved', hshares', hscript', hfails,
        hclosing, -⟩ := ih hsound' rfl rfl ⟨_, (awaitsLast_script hawaits).2⟩ (by
          intro more d hmore
          refine hends (count + more) d ?_
          rw [Machine.moves_add, hmoved]
          exact hmore) (by
          rw [Frame.closing_position]
          exact hfailing')
      refine ⟨count + count', outer, g.closing (g.fails failed c.tape.position) ++ written, failed',
        emptied', ?_, hshares', hscript', ?_, ?_, by simp⟩
      · rw [Machine.moves_add, hmoved]
        simp only [hmoved', Draft.advanceAll_append]
      · rw [Draft.advanceAll_append]
        exact hfails
      · intro hsuccess
        have hkept : g.fails failed c.tape.position = false := by
          rw [hsuccess] at hfailing'
          exact (Bool.or_eq_false_iff.mp hfailing'.symm).1
        have hnothing := hclosing hsuccess
        rw [Frame.closing_of_awaitsLast hawaits] at hnothing
        rw [hkept, List.append_assoc, hnothing, List.append_nil]

/-- Below frames with the same policy the runs go on alike. A caller that still has to find out that
it is done needs one more move. -/
theorem Folded.resumeBelow (h : Folded place nodeType c.frames c'.frames) (m : Machine σ n)
    (hpolicy : g.policy = f.policy) {failing : Bool} (hbelow : c.tape.SameBelow c'.tape)
    (htape : (failing && !f.policy.absorbs) = false → c'.tape = c.tape)
    (value value' : Option Extent) :
    ∃ count, Result.Folds place nodeType (c.resumeBelow f value failing)
      (c'.resumeBelow g value' failing >>= m.moves count) := by
  unfold Config.resumeBelow
  rw [hpolicy]
  cases hcascade : (failing && !f.policy.absorbs) with
  | true => exact ⟨0, .ok ⟨h, hbelow, fun hflow => absurd rfl hflow, rfl⟩⟩
  | false =>
      simp only [Bool.false_eq_true, if_false]
      have hsame := htape hcascade
      rcases c with ⟨frames, limit, tape, flow, emptied⟩
      rcases c' with ⟨frames', limit', tape', flow', emptied'⟩
      cases h with
      | nil => exact ⟨0, .error (.of_ne (by simp) (by simp))⟩
      | @cons f₁ g₁ callers₁ fs₁ gs₁ hfolds hfolded =>
          rcases hfolds.abreast with ⟨hreturning, -⟩ | ⟨hreturning, hreturning', hdone⟩
          · refine ⟨0, .ok ⟨.cons hfolds hfolded, hbelow, fun _ => hsame, ?_⟩⟩
            simp only [hreturning]
            cases f₁.returning
            · trivial
            · rfl
          · refine ⟨1, ?_⟩
            simp only [hreturning, hreturning', if_true, Bool.false_eq_true, if_false, bind,
              Except.bind, Machine.moves]
            rw [m.move_done rfl hdone rfl]
            exact .ok ⟨.cons hfolds hfolded, hbelow, fun _ => hsame, rfl⟩

theorem Frame.Shares.finishTop (h : f.Shares place nodeType g []) (m : Machine σ n)
    {d : Config σ n} {bases' : List Draft} {failed' failing : Bool} (hc : c.Sound source bases)
    (hd : d.Sound source bases') (hframes : c.frames = f :: fs) (hframes' : d.frames = g :: gs)
    (hfolded : Folded place nodeType fs gs) (hscript : ∃ script, f.production = .script script)
    (hscript' : ∃ script, g.production = .script script)
    (hslot : f.parent = none → g.slot = f.slot)
    (hfails : f.fails failed c.tape.position = failing)
    (hfails' : g.fails failed' d.tape.position = failing)
    (hbelow : (c.tape.advanceAll (f.closing failing)).SameBelow
      (d.tape.advanceAll (g.closing failing)))
    (hclosed : failing = false →
      d.tape.advanceAll (g.closing failing) = c.tape.advanceAll (f.closing failing)) :
    ∃ count, Result.Folds place nodeType (c.finishTop f fs failed)
      (d.finishTop g gs failed' >>= m.moves count) := by
  have hlayers := hc.layers
  have hlayers' := hd.layers
  rw [hframes] at hlayers
  rw [hframes'] at hlayers'
  obtain ⟨emptied, hfinish⟩ := Config.finishTop_script hc hframes hscript hfails
  obtain ⟨emptied', hfinish'⟩ := Config.finishTop_script hd hframes' hscript' hfails'
  obtain ⟨hsettled, hsame⟩ := h.settle hbelow (by
    intro hbranched
    rw [Draft.advanceAll_branches]
    exact hlayers.branches_ne_nil hbranched) hclosed
  cases h with
  | alone hpolicy hbranched hstart hparent =>
      rw [hfinish, hfinish', hparent]
      rcases hnone : f.parent with _ | below
      · -- The outermost frame ends the run.
        refine ⟨0, .error ?_⟩
        obtain ⟨rfl, -⟩ := hlayers.outermost hnone
        rw [hnone] at hparent
        obtain ⟨rfl, -⟩ := hlayers'.outermost (Option.isNone_iff_eq_none.mp hparent)
        cases failing with
        | true =>
            exact .of_ne (fun _ => Config.conclude_failing _ _ _ _ _ _)
              (fun _ => Config.conclude_failing _ _ _ _ _ _)
        | false =>
            have hvalue : g.valueAt false = f.valueAt false := by
              funext closed
              simp only [Frame.valueAt, hstart, hslot hnone]
            rw [hsame (.inl rfl), hclosed rfl, hvalue]
            exact .refl _
      · refine Folded.resumeBelow hfolded m hpolicy hsettled ?_ _ _
        intro hgoes
        apply hsame
        cases failing with
        | false => exact .inl rfl
        | true =>
            -- What is absorbed is undone.
            have habsorbs : f.policy.absorbs = true := by simpa using hgoes
            cases hlayers with
            | fragment _ hparent' => simp [hnone] at hparent'
            | cons _ hover => exact .inr (by simp [hover.branched, Policy.branches, habsorbs])

/-- Where the first run finishes a frame, the second one finishes the frames for which it stands. -/
theorem Config.Folds.finishTop (h : c.Folds place nodeType c') {bases' : List Draft}
    (hc : c.Sound source bases) (hc' : c'.Sound source bases') (hflow : c.flow = .complete failed)
    (hends : ∀ count d, m'.moves count c' = .ok d → d.endsEmpty place nodeType = false) :
    ∃ count, Result.Folds place nodeType (m.move c) (m'.moves (count + 1) c') := by
  have hflow' : c'.flow = .complete failed := (hflow ▸ h.flow).complete
  have hfolded := h.frames
  rcases hframes : c.frames with _ | ⟨f, fs⟩
  · exact absurd hframes hc.layers.ne_nil
  rw [hframes] at hfolded
  generalize hframes' : c'.frames = frames' at hfolded
  cases hfolded with
  | @cons _ g callers _ gs hfolds hfolded =>
      have hlayers := hc.layers
      rw [hframes] at hlayers
      generalize hfailing : f.fails failed c.tape.position = failing
      have hfailing' : failing = (failed || f.capture.isEmptyAt c'.tape.position &&
          !(g.allowEmpty && callers.all (·.allowEmpty))) := by
        rw [← hfailing, Frame.fails, hfolds.allowEmpty]
        cases failed with
        | true => rfl
        | false => rw [h.tape (by simp [hflow])]
      obtain ⟨count, outer, written, failed', emptied, hmoved, hshares, hscript, hfails, hclosing,
        halone⟩ := hfolds.shares.unwind hc' hframes' hflow' hfolds.script hends hfailing'
      obtain ⟨bases'', hd⟩ := Machine.moves_sound hc' hmoved
      -- Both write the same closing tags unless they fail.
      have hclosed : failing = false → (c'.tape.advanceAll written).advanceAll
          (outer.closing failing) = c.tape.advanceAll (f.closing failing) := by
        rintro rfl
        have hfailed : failed = false := by
          simp only [Frame.fails, Bool.or_eq_false_iff] at hfailing
          exact hfailing.1
        rw [← Draft.advanceAll_append, hclosing rfl, h.tape (by simp [hflow, hfailed])]
        simp only [Frame.closing, hfolds.isNode, hfolds.isFragment]
      have hbelow : (c.tape.advanceAll (f.closing failing)).SameBelow
          ((c'.tape.advanceAll written).advanceAll (outer.closing failing)) := by
        cases failing with
        | false => exact .of_eq (hclosed rfl)
        | true => exact h.below.trans (hc'.layers.sameBelow_advanceAll written)
      obtain ⟨more, hfinished⟩ := hshares.finishTop m' hc hd hframes rfl hfolded
        hfolds.scripted hscript (by
          intro hparent
          rw [halone (hfolds.outermost hparent), hfolds.slot]) hfailing hfails hbelow hclosed
      refine ⟨count + more, ?_⟩
      rw [Nat.add_assoc, Machine.moves_add, hmoved]
      simp only [Machine.moves_succ, Machine.move, hframes, hflow]
      exact hfinished

end

end GrammarMachine
