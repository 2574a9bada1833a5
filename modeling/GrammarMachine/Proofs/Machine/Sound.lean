import GrammarMachine.Proofs.Machine.Layers
import GrammarMachine.Proofs.Machine.Moves

/-!
Runs keep their configurations in order, whatever the productions do, so every run that is accepted
has written a finished stream of its input.
-/

namespace GrammarMachine

variable {σ : Type} {n : Nat}

/-- A configuration in order. While a failure is handed down, nothing is said about the tags that
were written since the last branch. -/
structure Config.Sound (source : Source) (bases : List Draft) (c : Config σ n) : Prop where
  layers : Layers source c.frames bases c.tape
  opened : ∀ f ∈ c.frames, f.isNode = true → f.capture.start.isSome = true
  begun : c.flow ≠ .complete true → Stream.Begun source (nodeCount c.frames) c.tape.tags.toList
  waiting : ∀ value, c.flow = .resume value → ∀ f ∈ c.frames.head?, f.returning = false

namespace Stack

theorem opened_recordStart (mark : Mark) {frames : List (Frame σ n)}
    (h : ∀ f ∈ frames.tail, f.isNode = true → f.capture.start.isSome = true) :
    ∀ f ∈ recordStart mark frames, f.isNode = true → f.capture.start.isSome = true := by
  induction frames with
  | nil => simp [recordStart]
  | cons top rest ih =>
      intro f hf hnode
      rcases hstart : top.capture.start with _ | start
      · rw [recordStart_unstarted _ _ hstart] at hf
        rcases List.mem_cons.mp hf with rfl | hf
        · rfl
        · exact ih (fun f hf => h f (List.mem_of_mem_tail hf)) f hf hnode
      · have hsome : top.capture.start.isSome = true := by simp [hstart]
        rw [recordStart_started _ _ hsome] at hf
        rcases List.mem_cons.mp hf with rfl | hf
        · exact hsome
        · exact h f hf hnode

theorem returning_recordStart {mark : Mark} {frames : List (Frame σ n)} {f : Frame σ n}
    (h : f ∈ (recordStart mark frames).head?) : ∃ g ∈ frames.head?, f.returning = g.returning := by
  rcases frames with _ | ⟨g, rest⟩
  · cases h
  · refine ⟨g, rfl, ?_⟩
    simp only [recordStart] at h
    split at h <;> cases h <;> rfl

end Stack

theorem Stream.Begun.enter {source : Source} {depth : Nat} {d : Draft} {e : Entry σ n}
    (h : Stream.Begun source depth d.tags.toList) (hsource : d.source = source)
    (hd : d.Faithful)
    (hopening : (e.frame.isNode = false ∧ e.opening = none) ∨
      (e.frame.isNode = true ∧ ∃ traits url nodeType attributes,
        e.opening = some (.openNode traits url nodeType attributes)))
    (hadopts : e.adopts ≠ none → (Tape.lastTag? d).any Tag.completesValue = true) :
    Stream.Begun source (depth + if e.frame.isNode then 1 else 0)
      (d.advanceAll (e.tags d)).tags.toList := by
  -- First the shift, which is there if a value is adopted, then the opening.
  have hshift : Stream.Begun source depth
      (d.advanceAll (e.adopts.toList.map Tag.shift)).tags.toList := by
    rcases hname : e.adopts with _ | name
    · exact h
    · have hlast := hadopts (by simp [hname])
      rw [Draft.advanceAll_tags]
      refine .shift name h ?_
      rw [Array.getLast?_toList]
      exact hlast
  have hfaithful := hd.advanceAll (e.adopts.toList.map Tag.shift)
  have hsource' : (d.advanceAll (e.adopts.toList.map Tag.shift)).source = source := by
    rw [Draft.advanceAll_source, hsource]
  simp only [Entry.tags, Draft.advanceAll_append]
  generalize d.advanceAll (e.adopts.toList.map Tag.shift) = d' at hshift hfaithful hsource'
  rcases hopening with ⟨hnode, hnone⟩ | ⟨hnode, traits, url, nodeType, attributes, hsome⟩
  · simpa [hnode, hnone] using hshift
  · have hopen := hshift.openNode e.frame.slot traits url nodeType attributes
    rw [← hsource', hfaithful.slotTags_replay, hsource'] at hopen
    simpa [hnode, hsome] using hopen

namespace Config.Sound

variable {source : Source} {bases : List Draft} {c c' : Config σ n} {top : Frame σ n}
  {rest : List (Frame σ n)}

theorem withProduction (h : c.Sound source bases) (hframes : c.frames = top :: rest)
    (production : Production σ) :
    ({ c with frames := { top with production } :: rest } : Config σ n).Sound source bases := by
  have hlayers := h.layers
  have hopened := h.opened
  have hbegun := h.begun
  have hwaiting := h.waiting
  rw [hframes] at hlayers hopened hbegun hwaiting
  refine ⟨hlayers.replaceTop rfl rfl rfl rfl rfl (fun _ => rfl), ?_, ?_, ?_⟩
  · intro f hf
    rcases List.mem_cons.mp hf with rfl | hf
    · exact hopened top List.mem_cons_self
    · exact hopened f (List.mem_cons_of_mem _ hf)
  · intro hflow
    simpa [nodeCount, List.countP_cons] using hbegun hflow
  · intro value hflow f hf
    cases hf
    exact hwaiting value hflow top rfl

theorem silent (h : c.Sound source bases) {value : Option Extent} (hresume : c.flow = .resume value)
    {tape : Draft} (hsilent : c.tape.Silent tape) (flow : Flow) (emptied : Option String) :
    ({ c with tape, flow, emptied } : Config σ n).Sound source bases := by
  refine ⟨h.layers.silent hsilent, h.opened, ?_, fun _ _ => h.waiting value hresume⟩
  intro _
  rw [hsilent.tags]
  exact h.begun (by simp [hresume])

theorem write (h : c.Sound source bases) {value : Option Extent} (hresume : c.flow = .resume value)
    {tags : List Tag} (hplaced : Placed c.tape tags) (flow : Flow) :
    ({ c.write tags with flow } : Config σ n).Sound source bases := by
  have hfaithful := h.layers.faithful
  have hsource := h.layers.source_eq
  have htags : tags.isEmpty = false := List.isEmpty_eq_false_iff.mpr hplaced.ne_nil
  refine ⟨h.layers.write tags, ?_, ?_, ?_⟩
  · simp only [Config.write, captured, htags, Bool.false_eq_true, if_false]
    exact Stack.opened_recordStart _ (fun f hf => h.opened f (List.mem_of_mem_tail hf))
  · intro _
    have hreplayed := hplaced.replay hfaithful
    rw [hsource] at hreplayed
    have hbegun := (h.begun (by simp [hresume])).place hreplayed
    simpa [Config.write, captured, htags] using hbegun
  · intro _ _ f hf
    simp only [Config.write, captured, htags, Bool.false_eq_true, if_false] at hf
    obtain ⟨g, hg, hreturning⟩ := Stack.returning_recordStart hf
    rw [hreturning]
    exact h.waiting value hresume g hg

theorem opening {m : Machine σ n} {tape : Draft} {below : Frame σ n} {a : Attempt} {tail : Bool}
    {e : Entry σ n} {depth : Nat} (hfits : e.Fits m tape below a tail)
    (hframes : c.frames = top :: rest)
    (hlayers : Layers source (top :: rest) bases c.tape)
    (hopened : ∀ f ∈ rest, f.isNode = true → f.capture.start.isSome = true)
    (hbegun : Stream.Begun source depth c.tape.tags.toList)
    (hcount : nodeCount (top :: rest) = depth + if e.frame.isNode then 1 else 0)
    (hnode : top.isNode = e.frame.isNode) (hreturning : top.returning = false)
    (hlast : Tape.lastTag? c.tape = Tape.lastTag? tape) :
    ({ c.write (e.tags c.tape) with flow := .resume none } : Config σ n).Sound source bases := by
  have hentered := hbegun.enter hlayers.source_eq hlayers.faithful hfits.opening (by
    intro hadopts
    obtain ⟨name, hname⟩ := Option.ne_none_iff_exists'.mp hadopts
    rw [hlast]
    exact (hfits.adopts name hname).2)
  refine ⟨?_, ?_, ?_, ?_⟩
  · have hwritten := hlayers.write (e.tags c.tape)
    rw [← hframes] at hwritten
    exact hwritten
  · simp only [Config.write, captured, hframes]
    split
    · -- Nothing is written only if there is no node to open.
      rename_i hempty
      intro f hf hf'
      rcases List.mem_cons.mp hf with rfl | hf
      · rcases hfits.opening with ⟨hplain, -⟩ | ⟨-, traits, url, nodeType, attributes, hsome⟩
        · simp [hnode, hplain] at hf'
        · simp [Entry.tags, hsome] at hempty
      · exact hopened f hf hf'
    · exact Stack.opened_recordStart _ hopened
  · intro _
    have hcount' : nodeCount (captured (Tape.mark c.tape) (e.tags c.tape) c.frames) =
        depth + if e.frame.isNode then 1 else 0 := by
      rw [hframes, ← hcount]
      unfold captured
      split
      · rfl
      · exact Stack.nodeCount_recordStart _ _
    simp only [Config.write, hcount']
    exact hentered
  · intro _ _ f hf
    simp only [Config.write, captured, hframes] at hf
    split at hf
    · cases hf
      exact hreturning
    · obtain ⟨g, hg, hsame⟩ := Stack.returning_recordStart hf
      cases hg
      rw [hsame, hreturning]

theorem enter [Stepper σ] {m : Machine σ n} {a : Attempt} {tail : Bool} {e : Entry σ n}
    (h : c.Sound source bases) {value : Option Extent} (hresume : c.flow = .resume value)
    (hframes : c.frames = top :: rest) (hfits : e.Fits m c.tape top a tail)
    (hentered : c.enter top rest e = .ok c') :
    c'.Sound source (if e.replaces then bases else c.tape :: bases) := by
  have hlayers := h.layers
  have hopened := h.opened
  have hbegun := h.begun (by simp [hresume])
  rw [hframes] at hlayers hopened hbegun
  rcases Config.enter_ok hentered with ⟨hreplaces, tape, hsilent, rfl⟩ | ⟨hreplaces, rfl⟩
  · -- The replaced frame is no node, so that the new one may become it.
    obtain ⟨-, -, htransparent⟩ := hfits.replaces hreplaces
    have hnode : top.isNode = false := by
      simp only [Frame.isTransparent, Bool.and_eq_true, Bool.not_eq_true'] at htransparent
      exact htransparent.1
    rw [if_pos hreplaces]
    refine opening hfits rfl (hlayers.splice hfits hreplaces hsilent) ?_ (hsilent.tags ▸ hbegun) ?_
      rfl hfits.returning ?_
    · exact fun f hf => hopened f (List.mem_cons_of_mem _ hf)
    · simp only [nodeCount, List.countP_cons, Entry.spliced, hnode]
      simp
    · exact congrArg Array.back? hsilent.tags
  · have htags : (c.tape.branchIf e.frame.policy.branches).tags = c.tape.tags := by
      unfold Draft.branchIf
      split <;> rfl
    rw [if_neg (by simp [hreplaces])]
    refine opening hfits rfl (hlayers.pushEntry hfits hbegun) ?_ (htags ▸ hbegun) ?_ rfl
      hfits.returning ?_
    · intro f hf
      rcases List.mem_cons.mp hf with rfl | hf
      · exact hopened top List.mem_cons_self
      · exact hopened f (List.mem_cons_of_mem _ hf)
    · simp only [nodeCount, List.countP_cons, Entry.pushed]
    · exact congrArg Array.back? htags

theorem carried [Stepper σ] {m : Machine σ n} (h : c.Sound source bases) {value : Option Extent}
    (hresume : c.flow = .resume value) (hframes : c.frames = top :: rest)
    (hcarried : m.Carried c top rest c') :
    ∃ bases', c'.Sound source bases' ∧ (bases' = bases ∨ bases' = c.tape :: bases) := by
  cases hcarried with
  | silent flow emptied hsilent => exact ⟨bases, h.silent hresume hsilent flow emptied, .inl rfl⟩
  | placed flow hplaced _ => exact ⟨bases, h.write hresume hplaced flow, .inl rfl⟩
  | @entered _ _ e _ hfits hentered =>
      refine ⟨_, h.enter hresume hframes hfits hentered, ?_⟩
      cases e.replaces
      · exact .inr rfl
      · exact .inl rfl

theorem stepTop [Stepper σ] {m : Machine σ n} (h : c.Sound source bases) {value : Option Extent}
    (hresume : c.flow = .resume value) (hframes : c.frames = top :: rest)
    (hstep : m.stepTop c top rest value = .ok c') :
    ∃ bases', c'.Sound source bases' ∧ (bases' = bases ∨ bases' = c.tape :: bases) := by
  obtain ⟨production, hcarried⟩ := Machine.stepTop_ok hstep
  exact (h.withProduction hframes production).carried hresume rfl hcarried

/-- What becomes of the tape when a frame that lies over another one is finished. -/
inductive Settled (f : Frame σ n) (base d : Draft) (failing : Bool) (tape : Draft) : Prop where
  /-- The frame is undone. -/
  | undone : f.branched = true → failing = true ∨ f.policy.keeps = false → tape = base →
      Settled f base d failing tape
  /-- What was written stays. -/
  | kept : f.policy.keeps = true → failing = false ∨ f.policy.absorbs = false →
      d.Extends tape → tape.tags = d.tags → tape.position = d.position →
      tape.opened = d.opened → tape.branches = base.branches →
      Settled f base d failing tape

theorem settled {f : Frame σ n} {base d : Draft} (hover : f.Over base d) (failing : Bool) :
    Settled f base d failing (f.settle failing d) := by
  have hbranches := hover.branches
  have hbranched := hover.branched
  unfold Frame.settle
  rcases hb : f.branched with _ | _
  · simp only [hb, Bool.false_eq_true, if_false] at hbranches ⊢
    have hpolicy : f.policy.keeps = true ∧ f.policy.absorbs = false := by
      simpa [hb, Policy.branches] using hbranched.symm
    exact .kept hpolicy.1 (.inr hpolicy.2) (.refl d) rfl rfl rfl hbranches
  · simp only [hb, if_true] at hbranches ⊢
    by_cases hundo : (failing || !f.policy.keeps) = true
    · rw [if_pos hundo]
      refine .undone hb (by simpa using hundo) ?_
      exact hover.reject_eq hb
    · rw [if_neg hundo]
      obtain ⟨hfailing, hkeeps⟩ : failing = false ∧ f.policy.keeps = true := by simpa using hundo
      refine .kept hkeeps (.inl hfailing) ?_ rfl rfl rfl ?_
      · exact (Draft.Extends.refl d).of_branches d.branches d.branches.tail
      · change d.branches.tail = base.branches
        rw [hbranches, List.tail_cons]

theorem over_closing {f : Frame σ n} {base d : Draft} (hover : f.Over base d)
    (hopened : f.isNode = true → f.capture.start.isSome = true) (hfragment : f.isFragment = false)
    (failing : Bool) : f.Over base (d.advanceAll (f.closing failing)) where
  grown := hover.grown.trans (.advanceAll d _)
  branches := by rw [Draft.advanceAll_branches]; exact hover.branches
  branched := hover.branched
  started := hover.started
  unstarted := by
    intro hstart
    have hnode : f.isNode = false := by
      rw [← Bool.not_eq_true]
      intro hnode
      simpa [hstart] using hopened hnode
    have hclosing : f.closing failing = [] := by
      simp [Frame.closing, hnode, hfragment]
    rw [hclosing]
    exact hover.unstarted hstart
  running := hover.running

theorem below {f g : Frame σ n} {base cleaned tape : Draft} {failing : Bool}
    (hbelow : Layers source (g :: rest) bases base) (hover : f.Over base cleaned)
    (hmono : f.capture.start.isSome = true → g.capture.start.isSome = true)
    (hcleaned : cleaned.Faithful) (hsettled : Settled f base cleaned failing tape) :
    Layers source (g :: rest) bases tape := by
  cases hsettled with
  | undone _ _ htape => rwa [htape]
  | kept _ _ hgrown htags hposition hopened hbranches =>
      refine hbelow.extend (hover.grown.trans hgrown) hbranches ?_ ?_
      · intro hstart
        rw [htags]
        apply hover.unstarted
        rw [← Option.not_isSome_iff_eq_none]
        intro hsome
        simpa [hstart] using hmono hsome
      · refine ⟨?_, ?_⟩
        · rw [hposition, hgrown.source, htags]
          exact hcleaned.position
        · rw [hopened, hgrown.source, htags]
          exact hcleaned.opened

theorem begun_closing {f : Frame σ n} {frames : List (Frame σ n)} {d : Draft}
    (h : Stream.Begun source (nodeCount (f :: frames)) d.tags.toList)
    (hfragment : f.isFragment = false) :
    Stream.Begun source (nodeCount frames) (d.advanceAll (f.closing false)).tags.toList := by
  rcases hnode : f.isNode with _ | _
  · simpa [Frame.closing, hnode, hfragment, nodeCount, List.countP_cons] using h
  · have hclosed : Stream.Begun source (nodeCount frames + 1) d.tags.toList := by
      simpa [nodeCount, List.countP_cons, hnode] using h
    rw [Draft.advanceAll_tags]
    simpa [Frame.closing, hnode, hfragment] using hclosed.closeNode

/-- What is left when the frame `top` over the tape `base` has been finished. -/
structure Left (top : Frame σ n) (rest : List (Frame σ n)) (base : Draft) (failing : Bool)
    (value : Option Extent) (c' : Config σ n) : Prop where
  frames : c'.frames = rest
  valued : value.isSome = !failing
  tape : c'.tape = base ∨
    (top.policy.keeps = true ∧ (failing = false ∨ top.policy.absorbs = false))
  flow : ∀ g ∈ rest.head?, c'.flow =
    if failing && !top.policy.absorbs then .complete true
    else if g.returning then .complete false
    else .resume value

theorem resumeBelow_ok {frame : Frame σ n} {value : Option Extent} {failing : Bool}
    (hframes : c.frames = top :: rest) (h : c.resumeBelow frame value failing = .ok c') :
    c' = { c with flow :=
      if failing && !frame.policy.absorbs then .complete true
      else if top.returning then .complete false
      else .resume value } := by
  unfold Config.resumeBelow at h
  split at h
  · rename_i hcascade
    cases h
    rw [if_pos hcascade]
  · rename_i hcascade
    simp only [hframes, Except.ok.injEq] at h
    rw [if_neg hcascade, ← h, ← hframes]

/-- A frame that is finished leaves the frames below it in order. -/
theorem finishTop [Stepper σ] (h : c.Sound source bases) {failed : Bool}
    (hflow : c.flow = .complete failed) (hframes : c.frames = top :: rest)
    (hfinish : c.finishTop top rest failed = .ok c') :
    ∃ base bases' failing value, bases = base :: bases' ∧ c'.Sound source bases' ∧
      Left top rest base failing value c' := by
  have hlayers := h.layers
  have hopened := h.opened
  have hbegun := h.begun
  rw [hframes] at hlayers hopened hbegun
  unfold Config.finishTop at hfinish
  simp only [hlayers.running, Option.isSome_none, Bool.and_false, Bool.false_eq_true,
    if_false] at hfinish
  rcases hcleaned : top.finish (c.tape.advanceAll
    (top.closing (top.fails failed c.tape.position))) with halt | cleaned
  · simp [hcleaned] at hfinish
  simp only [hcleaned] at hfinish
  cases hlayers with
  | fragment _ hparent => simp [hparent] at hfinish
  | @cons _ g rest base _ bases hbelow hover hdepth hparent hmono hbase hfaithful =>
      have hfragment : top.isFragment = false := by simp [Frame.isFragment, hdepth]
      have hsilent := Frame.finish_silent hcleaned
      simp only [hparent, Option.isNone_some, Bool.false_eq_true, if_false] at hfinish
      generalize hfailing : top.fails failed c.tape.position = failing at hsilent hfinish
      have hclosed := (over_closing hover (hopened top List.mem_cons_self) hfragment failing).silent
        hsilent
      have hsettled := settled hclosed failing
      have hcleaned' := hsilent.faithful (hfaithful.advanceAll (top.closing failing))
      have hlayers' := below hbelow hclosed hmono hcleaned' hsettled
      have hc' := resumeBelow_ok rfl hfinish
      subst hc'
      refine ⟨base, bases, failing, top.valueAt failing (c.tape.advanceAll (top.closing failing)),
        rfl, ⟨hlayers', ?_, ?_, ?_⟩, ⟨rfl, ?_, ?_, ?_⟩⟩
      · exact fun f hf => hopened f (List.mem_cons_of_mem _ hf)
      · intro hgoes
        dsimp only at hgoes ⊢
        cases hsettled with
        | undone _ _ htape =>
            rw [htape]
            exact hbase
        | kept _ hkept _ htags _ _ _ =>
            -- A failure that is not undone is handed down.
            have hsuccess : failing = false := by
              rcases hkept with hkept | hkept
              · exact hkept
              · rcases failing with _ | _
                · rfl
                · simp [hkept] at hgoes
            subst hsuccess
            have hfailed : failed = false := by
              simp only [Frame.fails, Bool.or_eq_false_iff] at hfailing
              exact hfailing.1
            rw [htags, hsilent.tags]
            exact begun_closing (hbegun (by simp [hflow, hfailed])) hfragment
      · intro value hresume f hf
        dsimp only at hresume hf
        cases hf
        split at hresume
        · cases hresume
        · split at hresume
          · cases hresume
          · rename_i hreturning
            exact Bool.not_eq_true _ ▸ hreturning
      · cases failing <;> rfl
      · cases hsettled with
        | undone _ _ htape => exact .inl htape
        | kept hkeeps hkept _ _ _ _ _ => exact .inr ⟨hkeeps, hkept⟩
      · intro g' hg'
        cases hg'
        rfl

/-- Every move keeps the order: it stays in the active frame, puts a frame over the present tape or
finishes the active frame. -/
theorem move [Stepper σ] {m : Machine σ n} (h : c.Sound source bases) (hmove : m.move c = .ok c') :
    ∃ bases', c'.Sound source bases' ∧
      (bases' = bases ∨ bases' = c.tape :: bases ∨ ∃ base, bases = base :: bases') := by
  unfold Machine.move at hmove
  rcases hframes : c.frames with _ | ⟨top, rest⟩
  · simp [hframes] at hmove
  · rcases hflow : c.flow with value | failed
    · simp only [hframes, hflow] at hmove
      obtain ⟨bases', hsound, hsame | hpushed⟩ := h.stepTop hflow hframes hmove
      · exact ⟨bases', hsound, .inl hsame⟩
      · exact ⟨bases', hsound, .inr (.inl hpushed)⟩
    · simp only [hframes, hflow] at hmove
      obtain ⟨base, bases', _, _, hbases, hsound, -⟩ := h.finishTop hflow hframes hmove
      exact ⟨bases', hsound, .inr (.inr ⟨base, hbases⟩)⟩

theorem moved [Stepper σ] {m : Machine σ n} (h : c.Sound source bases) (hmove : m.move c = .ok c') :
    c'.Sound source ((c.tape :: bases).drop (c.frames.length + 1 - c'.frames.length)) := by
  obtain ⟨bases', hsound, hcases⟩ := h.move hmove
  have hbefore := h.layers.length_bases
  have hafter := hsound.layers.length_bases
  rw [hbefore, hafter]
  rcases hcases with rfl | rfl | ⟨base, rfl⟩
  · simpa using hsound
  · simpa using hsound
  · have htwo : bases'.length + 1 + 1 + 1 - (bases'.length + 1) = 2 := by omega
    simpa [htwo] using hsound

/-- Only the outermost frame ends the run by being finished, without frames or branches that are
left over, unless the grammar is to blame. -/
theorem finishTop_error [Stepper σ] (h : c.Sound source bases) {failed : Bool}
    (hflow : c.flow = .complete failed) (hframes : c.frames = top :: rest) {d : Draft}
    {outcome : Outcome} (hfinish : c.finishTop top rest failed = .error (d, outcome)) :
    outcome.blamesGrammar = true ∨
      (rest = [] ∧ outcome.ordinary = true ∧
        ∀ extent, outcome = .accepted extent → Stream.Finished source d.tags.toList) := by
  have hlayers := h.layers
  have hbegun := h.begun
  rw [hframes] at hlayers hbegun
  unfold Config.finishTop at hfinish
  simp only [hlayers.running, Option.isSome_none, Bool.and_false, Bool.false_eq_true,
    if_false] at hfinish
  generalize hfailing : top.fails failed c.tape.position = failing at hfinish
  rcases hcleaned : top.finish (c.tape.advanceAll (top.closing failing)) with ⟨d', cause⟩ | cleaned
  · simp only [hcleaned, Except.error.injEq, Prod.mk.injEq] at hfinish
    obtain ⟨rfl, rfl⟩ := hfinish
    exact .inl (Frame.finish_error hcleaned)
  simp only [hcleaned] at hfinish
  -- A frame over another one hands its result down; only the outermost one ends the run.
  cases hlayers with
  | cons hbelow hover hdepth hparent =>
      simp only [hparent, Option.isNone_some, Bool.false_eq_true, if_false] at hfinish
      rcases hcascade : (failing && !top.policy.absorbs) with _ | _
      · simp [Config.resumeBelow, hcascade] at hfinish
      · simp [Config.resumeBelow, hcascade] at hfinish
  | fragment hdepth hparent hnode hbranched hstart hstop hsource hnone hfaithful =>
      have hsilent := Frame.finish_silent hcleaned
      have hsettle : top.settle failing cleaned = cleaned := by simp [Frame.settle, hbranched]
      have hbranches : cleaned.branches.length = 0 := by
        rw [hsilent.branches, Draft.advanceAll_branches, hnone]
        rfl
      simp only [hparent, Option.isNone_none, if_true, hsettle, Except.error.injEq,
        Prod.mk.injEq] at hfinish
      obtain ⟨rfl, rfl⟩ := hfinish
      refine .inr ⟨rfl, ?_⟩
      unfold Config.conclude
      simp only [List.length_nil, ne_eq, not_true_eq_false, if_false, hbranches]
      rcases failing with _ | _
      · by_cases hdone : cleaned.cursor.done = true
        · simp only [hdone, Bool.not_true, Bool.false_eq_true, if_false, Frame.valueAt]
          refine ⟨rfl, ?_⟩
          intro _ _
          have hfailed : failed = false := by
            simp only [Frame.fails, Bool.or_eq_false_iff] at hfailing
            exact hfailing.1
          have hclosing : top.closing false = [.closeFragment] := by
            simp [Frame.closing, hnode, Frame.isFragment, hdepth]
          rw [hclosing] at hsilent
          refine ⟨c.tape.tags.toList, ?_, ?_, ?_⟩
          · simpa [nodeCount, hnode] using hbegun (by simp [hflow, hfailed])
          · have hposition : cleaned.position = c.tape.position := hsilent.position
            have hstop := of_decide_eq_true hdone
            rw [hsilent.extends'.source, Draft.advanceAll_source, hsource, hposition,
              hfaithful.position, hsource] at hstop
            exact hstop
          · rw [hsilent.tags, Draft.advanceAll_tags]
        · simp only [hdone, Bool.not_false, if_true, Bool.false_eq_true, if_false]
          exact ⟨rfl, fun _ h => by cases h⟩
      · simp only [if_true]
        rcases (if (true && !failed) = true then some top.nodeType else c.emptied) with _ | nodeType
        · exact ⟨rfl, fun _ h => by cases h⟩
        · exact ⟨rfl, fun _ h => by cases h⟩

/-- The ends of runs in order. An ordinary end leaves no frame but the outermost one, and with an
accepted input comes a finished stream. -/
theorem halt [Stepper σ] {m : Machine σ n} (h : c.Sound source bases) {d : Draft}
    {outcome : Outcome} (hmove : m.move c = .error (d, outcome)) :
    outcome.blamesGrammar = true ∨ outcome = .rejected (.depthExceeded c.limit) ∨
      (∃ value r fault, c.flow = .resume value ∧ Tape.recognize c.tape r = .error fault ∧
        outcome = .faulted fault) ∨
      (c.frames.length = 1 ∧ outcome.ordinary = true ∧
        ∀ extent, outcome = .accepted extent → Stream.Finished source d.tags.toList) := by
  unfold Machine.move at hmove
  rcases hframes : c.frames with _ | ⟨top, rest⟩
  · have hlayers := h.layers
    rw [hframes] at hlayers
    cases hlayers
  · rcases hflow : c.flow with value | failed
    · simp only [hframes, hflow] at hmove
      rcases Machine.stepTop_error hmove with hblames | hdepth | ⟨r, fault, hread, hfault⟩
      · exact .inl hblames
      · exact .inr (.inl hdepth)
      · exact .inr (.inr (.inl ⟨value, r, fault, rfl, hread, hfault⟩))
    · simp only [hframes, hflow] at hmove
      rcases h.finishTop_error hflow hframes hmove with hblames | ⟨rfl, hend⟩
      · exact .inl hblames
      · exact .inr (.inr (.inr ⟨rfl, hend⟩))

theorem recognize_ok {symbols : List Symbol} (h : c.Sound (.ofSymbols symbols) bases)
    {value : Option Extent} (hresume : c.flow = .resume value) (r : Recognizer) :
    ∃ found, Tape.recognize c.tape r = .ok found := by
  obtain ⟨window, hwindow⟩ := (h.begun (by simp [hresume])).accounted.window_ok
  have hviews := h.layers.faithful.views.1 r
  rw [h.layers.source_eq] at hviews
  refine ⟨r.read? window, ?_⟩
  rw [← hviews]
  change (Draft.replay _ _).window.map r.read? = _
  rw [hwindow]
  rfl

/-- Runs over inputs that consist of symbols have no faults. -/
theorem halt_of_symbols [Stepper σ] {symbols : List Symbol} {m : Machine σ n}
    (h : c.Sound (.ofSymbols symbols) bases) {d : Draft} {outcome : Outcome}
    (hmove : m.move c = .error (d, outcome)) :
    outcome.blamesGrammar = true ∨ outcome = .rejected (.depthExceeded c.limit) ∨
      (c.frames.length = 1 ∧ outcome.ordinary = true) := by
  rcases h.halt hmove with hblames | hdepth | ⟨value, r, fault, hflow, hread, -⟩ | ⟨hone, hend, -⟩
  · exact .inl hblames
  · exact .inr (.inl hdepth)
  · obtain ⟨found, hfound⟩ := h.recognize_ok hflow r
    rw [hfound] at hread
    cases hread
  · exact .inr (.inr ⟨hone, hend⟩)

end Config.Sound

namespace Machine

theorem initial_sound (m : Machine σ n) (source : Source) (props : Option Json) :
    (m.initial source props).Sound source [] := by
  refine ⟨?_, ?_, ?_, ?_⟩
  · refine .fragment rfl rfl rfl rfl rfl rfl rfl rfl ?_
    exact Draft.Faithful.advanceAll ⟨rfl, rfl⟩ _
  · intro f hf hnode
    cases List.mem_singleton.mp hf
    cases hnode
  · intro _
    exact .start _ _
  · intro _ _ f hf
    cases hf
    rfl

variable [Stepper σ]

theorem run_sound {m : Machine σ n} {source : Source} {props : Option Json} {fuel : Nat}
    {halt : Halt σ n Draft} (h : m.run (Draft.fresh source) props fuel = some halt) :
    halt.outcome.blamesGrammar = true ∨ halt.outcome = .rejected (.depthExceeded 0) ∨
      ∃ c bases, c.Sound source bases ∧ m.move c = .error (halt.run.tape, halt.outcome) := by
  rcases run_eq_some h with ⟨slot, -, hnamed⟩ | hdepth | ⟨-, -, hmoves⟩
  · exact .inl (by rw [hnamed]; rfl)
  · exact .inr (.inl hdepth)
  · have hkeeps : ∀ c c' : Config σ n, (∃ bases, c.Sound source bases) → m.move c = .ok c' →
        ∃ bases, c'.Sound source bases := by
      rintro c c' ⟨bases, hsound⟩ hmove
      obtain ⟨bases', hsound', -⟩ := hsound.move hmove
      exact ⟨bases', hsound'⟩
    obtain ⟨c, ⟨bases, hsound⟩, hmove⟩ :=
      moves_error hkeeps ⟨[], m.initial_sound source props⟩ hmoves
    exact .inr (.inr ⟨c, bases, hsound, hmove⟩)

/-- A run that is accepted has written a finished stream of its input. -/
theorem run_finished {m : Machine σ n} {source : Source} {props : Option Json} {fuel : Nat}
    {halt : Halt σ n Draft} (h : m.run (Draft.fresh source) props fuel = some halt)
    {extent : Extent} (haccepted : halt.outcome = .accepted extent) :
    Stream.Finished source halt.run.tape.tags.toList := by
  rcases run_sound h with hblames | hdepth | ⟨c, bases, hsound, hmove⟩
  · rw [haccepted] at hblames
    cases hblames
  · rw [haccepted] at hdepth
    cases hdepth
  · rcases hsound.halt hmove with hblames | hdepth | ⟨_, _, _, -, -, hfault⟩ | ⟨-, -, hfinished⟩
    · rw [haccepted] at hblames
      cases hblames
    · rw [haccepted] at hdepth
      cases hdepth
    · rw [haccepted] at hfault
      cases hfault
    · exact hfinished extent haccepted

end Machine

end GrammarMachine
