import GrammarMachine.Proofs.Machine.Unwinding

/-!
Tail calls. A script may hand its last match back instead of asking for it. The rule that is entered
then takes the place of the script on the stack, if the script has no node of its own. This saves
frames and moves, and changes neither what is accepted nor what is written, as long as no rule that
may not match nothing does so for a caller that has already matched something: a rule in the place
of its caller is not looked at alone.
-/

namespace GrammarMachine

variable {σ : Type} {n : Nat}

/-- A rule that hands back its last match. -/
def Rule.returning (body : Invocation → List Instruction) (last : Invocation → Attempt) : Rule σ :=
  fun invocation => .script ⟨body invocation, some (.attempt (last invocation))⟩

/-- The rule that asks for its last match like for the others. -/
def Rule.asking (body : Invocation → List Instruction) (last : Invocation → Attempt) : Rule σ :=
  fun invocation => .script ⟨body invocation ++ [.attempt (last invocation)], none⟩

/-- All rules of all languages are scripts. -/
def Machine.Scripted (m : Machine σ n) : Prop :=
  ∀ l wanted rule, (m.catalog l).grammar.rule? wanted = some rule →
    ∀ invocation, ∃ script, rule invocation = .script script

/-- The plan of an instruction that is not handed back. -/
def Plan.yielded : Plan σ n → Plan σ n
  | .enter e => .enter { e with replaces := false, returns := false }
  | plan => plan

namespace Machine

variable {T : Type} [Tape T]

theorem map_yielded {x : Except Outcome (Plan σ n)} (h : ∀ e, x ≠ .ok (.enter e)) :
    Plan.yielded <$> x = x := by
  rcases x with outcome | emptied | ⟨tags, value⟩ | e
  · rfl
  · rfl
  · rfl
  · exact absurd rfl (h e)

theorem planEntry_yielded (m : Machine σ n) (tape : T) (top : Frame σ n) (a : Attempt)
    (node : NodeGoal) (own slot : Slot) (place : Fin n) (intrinsic : Option String) :
    m.planEntry tape top a false node own slot place intrinsic =
      Plan.yielded <$> m.planEntry tape top a true node own slot place intrinsic := by
  unfold planEntry
  rw [map_bind]
  rfl

theorem planFound_yielded (m : Machine σ n) (tape : T) (top : Frame σ n) (a : Attempt)
    (node : NodeGoal) (own : Slot) (place : Fin n) (found : Option String) :
    m.planFound tape top a false node own place found =
      Plan.yielded <$> m.planFound tape top a true node own place found := by
  rcases found with _ | text
  · simp only [planFound, map_bind]
    refine congrArg (_ >>= ·) (funext fun slot => ?_)
    exact m.planEntry_yielded tape top a node own slot place none
  · simp only [planFound, map_bind]
    refine congrArg (_ >>= ·) (funext fun slot => ?_)
    split
    · symm
      apply map_yielded
      intro e h
      simp only [planToken, Except.ok.injEq] at h
      split at h <;> cases h
    · exact m.planEntry_yielded tape top a node own slot place (some text)

theorem planNode_yielded (m : Machine σ n) (tape : T) (top : Frame σ n) (a : Attempt)
    (node : NodeGoal) (own : Slot) :
    m.planNode tape top a false node own =
      Plan.yielded <$> m.planNode tape top a true node own := by
  rw [planNode_eq, planNode_eq, map_bind]
  refine congrArg (_ >>= ·) (funext fun place => ?_)
  rw [map_bind]
  refine congrArg (_ >>= ·) (funext fun _ => ?_)
  split
  · symm
    exact map_yielded fun e => planGap_ne_enter
  · split
    · exact m.planFound_yielded tape top a node own place none
    · rw [map_bind]
      refine congrArg (_ >>= ·) (funext fun found => ?_)
      rcases found with _ | text
      · rfl
      · exact m.planFound_yielded tape top a node own place (some text)

/-- Only the place of the frame that is entered depends on whether a match is handed back. -/
theorem plan_yielded (m : Machine σ n) (tape : T) (top : Frame σ n) {a : Attempt}
    (hhold : a.verb.isHold = false) :
    m.plan tape top a false = Plan.yielded <$> m.plan tape top a true := by
  rw [plan_eq, plan_eq, hhold]
  simp only [Bool.false_and, Bool.false_eq_true, if_false]
  unfold planForm
  split
  · exact (map_yielded fun _ => planText_ne_enter).symm
  · exact (map_yielded fun _ => planText_ne_enter).symm
  · exact (map_yielded fun _ => planGap_ne_enter).symm
  · symm
    apply map_yielded
    intro e h
    obtain ⟨slot, -, h⟩ := bind_eq_ok.mp h
    cases h
  · symm
    apply map_yielded
    intro e h
    obtain ⟨slot, -, h⟩ := bind_eq_ok.mp h
    cases h
  · exact m.planNode_yielded tape top a _ _

end Machine

/-- Machines whose rules are scripts, of which the first one hands back what the second one asks for
last. -/
structure Machine.Unfolds (place : Fin n) (nodeType : String) (m m' : Machine σ n) : Prop where
  scripted : m.Scripted
  plans : ∀ (tape : Draft) (top : Frame σ n) a tail, Plan.Alike (Rewritten place nodeType)
    (m.plan tape top a tail) (m'.plan tape top a tail)

/-- Configurations over one tape in which the productions of the frames `f` and `g` are run. -/
structure Config.Runs (place : Fin n) (nodeType : String) (source : Source) (c c' : Config σ n)
    (f g : Frame σ n) (callers fs gs : List (Frame σ n)) : Prop where
  frames : c.frames = f :: fs
  frames' : c'.frames = g :: (callers ++ gs)
  folds : f.Folds place nodeType g callers
  folded : Folded place nodeType fs gs
  tape : c'.tape = c.tape
  active : f.returning = false
  layers : ∃ bases, Layers source (f :: fs) bases c.tape
  layers' : ∃ bases, Layers source (g :: (callers ++ gs)) bases c.tape
  begun : Stream.Begun source (nodeCount (f :: fs)) c.tape.tags.toList
  begun' : Stream.Begun source (nodeCount (g :: (callers ++ gs))) c.tape.tags.toList

variable {place : Fin n} {nodeType : String} {source : Source} {m m' : Machine σ n}
  {c c' : Config σ n} {f g : Frame σ n} {callers fs gs : List (Frame σ n)}

theorem Entry.Fits.script {e : Entry σ n} {top : Frame σ n} {tape : Draft} {a : Attempt}
    {tail : Bool} (h : e.Fits m tape top a tail) (hm : m.Unfolds place nodeType m') :
    ∃ script, e.frame.production = .script script := by
  obtain ⟨rule, hrule, hproduction⟩ := h.rule
  rw [hproduction]
  exact hm.scripted _ _ rule hrule _

namespace Frame.Folds

theorem rewritten (h : f.Folds place nodeType g callers) (hactive : f.returning = false) :
    g.returning = false ∧
      Rewritten place nodeType f.language f.nodeType f.production g.production := by
  rcases h.abreast with ⟨hreturning, hrewritten⟩ | ⟨hreturning, -, -⟩
  · exact ⟨hreturning.trans hactive, hrewritten⟩
  · simp [hactive] at hreturning

theorem isTransparent (h : f.Folds place nodeType g callers) :
    g.isTransparent = f.isTransparent := by
  simp only [Frame.isTransparent, h.isNode, h.isFragment]

theorem goOn (h : f.Folds place nodeType g callers) {p q : Production σ} {r r' : Bool}
    (hscript : ∃ script, p = .script script)
    (habreast : ({ f with production := p, returning := r } : Frame σ n).Abreast place nodeType
      { g with production := q, returning := r' }) :
    ({ f with production := p, returning := r } : Frame σ n).Folds place nodeType
      { g with production := q, returning := r' } callers where
  language := h.language
  kind := h.kind
  scope := h.scope
  isNode := h.isNode
  isFragment := h.isFragment
  slot := h.slot
  scripted := hscript
  abreast := habreast
  allowEmpty := h.allowEmpty
  shares := h.shares.replace rfl rfl rfl rfl rfl rfl rfl rfl
  outermost := h.outermost

theorem pushed {e : Entry σ n} {q : Production σ} (replaces returns : Bool)
    (hrewritten : Rewritten place nodeType e.frame.language e.frame.nodeType e.frame.production q)
    (hscript : ∃ script, e.frame.production = .script script) (below below' : Nat) :
    (e.pushed below).Folds place nodeType
      (Entry.pushed { e with frame := { e.frame with production := q }, replaces, returns } below')
      [] where
  language := rfl
  kind := rfl
  scope := rfl
  isNode := rfl
  isFragment := by simp [Frame.isFragment, Entry.pushed]
  slot := rfl
  scripted := hscript
  abreast := .inl ⟨rfl, hrewritten⟩
  allowEmpty := by simp [Entry.pushed]
  shares := .alone rfl rfl rfl rfl
  outermost := fun _ => rfl

theorem spliced (h : f.Folds place nodeType g callers) {e : Entry σ n} {q : Production σ}
    (hrewritten : Rewritten place nodeType e.frame.language e.frame.nodeType e.frame.production q)
    (hscript : ∃ script, e.frame.production = .script script) :
    (e.spliced f).Folds place nodeType
      (Entry.spliced { e with frame := { e.frame with production := q } } g) callers where
  language := rfl
  kind := rfl
  scope := rfl
  isNode := rfl
  isFragment := h.isFragment
  slot := rfl
  scripted := hscript
  abreast := .inl ⟨rfl, hrewritten⟩
  allowEmpty := by simp only [Entry.spliced, h.allowEmpty, Bool.and_right_comm]
  shares := h.shares.replace rfl rfl rfl rfl rfl rfl rfl rfl
  outermost := h.outermost

/-- The frame that takes the place of the first one stands as well for the second one, which waits
for the same frame above it. -/
theorem called (h : f.Folds place nodeType g callers) {e : Entry σ n} {q : Production σ}
    (hrewritten : Rewritten place nodeType e.frame.language e.frame.nodeType e.frame.production q)
    (hscript : ∃ script, e.frame.production = .script script)
    (hpolicy : e.frame.policy = Verb.eat.policy) (hbranched : e.frame.branched = false)
    (hparent : f.parent ≠ none) (hawaits : g.awaitsLast place nodeType = true)
    (hactive : g.returning = false) (below : Nat) :
    (e.spliced f).Folds place nodeType
      (Entry.pushed
        { e with frame := { e.frame with production := q }, replaces := false, returns := false }
        below) (g :: callers) where
  language := rfl
  kind := rfl
  scope := rfl
  isNode := rfl
  isFragment := by
    have htransparent := (awaitsLast_script hawaits).1
    simp only [Frame.isTransparent, Bool.and_eq_true, Bool.not_eq_true'] at htransparent
    have hinner : (e.spliced f).isFragment = false := h.isFragment.symm.trans htransparent.2
    rw [hinner]
    simp [Frame.isFragment, Entry.pushed]
  slot := rfl
  scripted := hscript
  abreast := .inl ⟨rfl, hrewritten⟩
  allowEmpty := by
    simp only [Entry.spliced, Entry.pushed, h.allowEmpty, List.all_cons]
    exact Bool.and_comm _ _
  shares := by
    refine .above hpolicy ?_ rfl hawaits hactive ?_
    · simp only [Entry.pushed, hpolicy, hbranched]
      rfl
    · exact h.shares.replace rfl rfl rfl rfl rfl rfl rfl rfl
  outermost := fun hnone => absurd hnone hparent

end Frame.Folds

theorem Folded.entered (hframes : Folded place nodeType fs gs) {d d' : Config σ n} {tape : Draft}
    {bases bases' : List Draft} (hlayers : Layers source fs bases tape)
    (hlayers' : Layers source gs bases' tape) (tags : List Tag) :
    Result.Folds place nodeType
      (.ok { Config.write { d with frames := fs, tape } tags with flow := .resume none })
      (.ok { Config.write { d' with frames := gs, tape } tags with flow := .resume none }) :=
  .ok ⟨hframes.captured hlayers.startedOver hlayers'.startedOver _ tags, .of_eq rfl, fun _ => rfl,
    trivial⟩

theorem Config.write_head (hframes : c.frames = f :: fs) (tags : List Tag) :
    ∃ start rest, (c.write tags).frames =
      { f with capture := { f.capture with start } } :: rest := by
  have hrecorded : Recorded c.tape (f :: fs) (c.write tags).frames := by
    simp only [Config.write, captured, hframes]
    split
    · exact .inl rfl
    · exact .inr rfl
  exact hrecorded.head

theorem Config.Runs.folded_frames (h : c.Runs place nodeType source c' f g callers fs gs) :
    Folded place nodeType c.frames c'.frames := by
  rw [h.frames, h.frames']
  exact .cons h.folds h.folded

theorem Config.Runs.folded_write (h : c.Runs place nodeType source c' f g callers fs gs)
    (tags : List Tag) :
    Folded place nodeType (c.write tags).frames (c'.write tags).frames := by
  obtain ⟨bases, hlayers⟩ := h.layers
  obtain ⟨bases', hlayers'⟩ := h.layers'
  rw [← h.frames] at hlayers
  rw [← h.frames'] at hlayers'
  simp only [Config.write, h.tape]
  exact h.folded_frames.captured hlayers.startedOver hlayers'.startedOver _ tags

theorem Config.Runs.plan_eq (h : c.Runs place nodeType source c' f g callers fs gs)
    (m : Machine σ n) (a : Attempt) (tail : Bool) :
    m.plan c'.tape g a tail = m.plan c.tape f a tail := by
  rw [h.tape]
  exact m.plan_congr c.tape h.folds.scope h.folds.isNode h.folds.isFragment h.folds.slot a tail

theorem Config.Folds.runs (h : c.Folds place nodeType c') {bases bases' : List Draft}
    (hc : c.Sound source bases) (hc' : c'.Sound source bases') {value : Option Extent}
    (hflow : c.flow = .resume value) (hframes : c.frames = f :: fs)
    (hframes' : c'.frames = g :: (callers ++ gs)) (hfolds : f.Folds place nodeType g callers)
    (hfolded : Folded place nodeType fs gs) {p q : Production σ}
    (hscript : ∃ script, p = .script script)
    (hrewritten : Rewritten place nodeType f.language f.nodeType p q) :
    Config.Runs place nodeType source { c with frames := { f with production := p } :: fs }
      { c' with frames := { g with production := q } :: (callers ++ gs) }
      { f with production := p } { g with production := q } callers fs gs := by
  have hactive : f.returning = false := hc.waiting value hflow f (by simp [hframes])
  obtain ⟨value', hflow'⟩ := (hflow ▸ h.flow).resume
  have htape : c'.tape = c.tape := h.tape (by simp [hflow])
  have hstepped := hc.withProduction hframes p
  have hstepped' := hc'.withProduction hframes' q
  have hlayers' := hstepped'.layers
  have hbegun' := hstepped'.begun (by simp [hflow'])
  dsimp only at hlayers' hbegun'
  rw [htape] at hlayers' hbegun'
  exact {
    frames := rfl
    frames' := rfl
    folds := hfolds.goOn hscript
      (.inl ⟨(hfolds.rewritten hactive).1.trans hactive.symm, hrewritten⟩)
    folded := hfolded
    tape := htape
    active := hactive
    layers := ⟨bases, hstepped.layers⟩
    layers' := ⟨bases', hlayers'⟩
    begun := hstepped.begun (by simp [hflow])
    begun' := hbegun' }

theorem Machine.initial_folds (m : Machine σ n) (source : Source) (props : Option Json) :
    (m.initial source props).Folds place nodeType (m.initial source props) := by
  let outermost : Frame σ n := { m.fragmentFrame props with capture := ⟨some ⟨1, {}⟩, none⟩ }
  have hfolds : outermost.Folds place nodeType outermost [] := {
    language := rfl
    kind := rfl
    scope := rfl
    isNode := rfl
    isFragment := rfl
    slot := rfl
    scripted := ⟨_, rfl⟩
    abreast := .inl ⟨rfl, .inl rfl⟩
    allowEmpty := rfl
    shares := .alone rfl rfl rfl rfl
    outermost := fun _ => rfl }
  exact ⟨.cons hfolds .nil, .of_eq rfl, fun _ => rfl, trivial⟩

section

variable [Stepper σ]

namespace Config.Runs

variable {a : Attempt} {tail tail' : Bool} {e : Entry σ n} {q : Production σ}

theorem push (h : c.Runs place nodeType source c' f g callers fs gs)
    (hm : m.Unfolds place nodeType m') {returns : Bool} (hfits : e.Fits m c.tape f a tail)
    (hfits' : ({ e with frame := { e.frame with production := q }, replaces := false, returns } :
      Entry σ n).Fits m' c.tape g a tail')
    (hrewritten : Rewritten place nodeType e.frame.language e.frame.nodeType e.frame.production q)
    (hreplaces : e.replaces = false)
    (habreast : ({ f with returning := e.returns } : Frame σ n).Abreast place nodeType
      { g with returning := returns }) :
    Result.Folds place nodeType (c.enter f fs e)
      (c'.enter g (callers ++ gs)
        { e with frame := { e.frame with production := q }, replaces := false, returns }) := by
  obtain ⟨bases, hlayers⟩ := h.layers
  obtain ⟨bases', hlayers'⟩ := h.layers'
  have hpushed := hlayers.pushEntry hfits h.begun
  have hpushed' := hlayers'.pushEntry hfits' h.begun'
  simp only [h.active, (h.folds.rewritten h.active).1, Bool.or_false] at hpushed hpushed'
  simp only [Config.enter, Config.push, hreplaces, Bool.false_eq_true, if_false, h.tape, h.active,
    (h.folds.rewritten h.active).1, Bool.or_false]
  by_cases hlimit : c.limit ≤ fs.length + 1
  · simp only [if_pos hlimit]
    exact .deepFirst _ _ _
  by_cases hlimit' : c'.limit ≤ (callers ++ gs).length + 1
  · simp only [if_pos hlimit']
    exact .deepSecond _ _ _
  simp only [if_neg hlimit, if_neg hlimit']
  refine Folded.entered ?_ hpushed hpushed' _
  refine .cons (.pushed false returns hrewritten (hfits.script hm) _ _) (.cons ?_ h.folded)
  exact h.folds.goOn h.folds.scripted habreast

theorem splice (h : c.Runs place nodeType source c' f g callers fs gs)
    (hm : m.Unfolds place nodeType m') (hfits : e.Fits m c.tape f a tail)
    (hfits' : ({ e with frame := { e.frame with production := q } } : Entry σ n).Fits m' c.tape g a
      tail')
    (hrewritten : Rewritten place nodeType e.frame.language e.frame.nodeType e.frame.production q)
    (hreplaces : e.replaces = true) :
    Result.Folds place nodeType (c.enter f fs e)
      (c'.enter g (callers ++ gs) { e with frame := { e.frame with production := q } }) := by
  obtain ⟨bases, hlayers⟩ := h.layers
  obtain ⟨bases', hlayers'⟩ := h.layers'
  simp only [Config.enter, Config.push, hreplaces, if_true, h.tape,
    Frame.finish_script h.folds.scripted, Frame.finish_script h.folds.script]
  exact Folded.entered (.cons (h.folds.spliced hrewritten (hfits.script hm)) h.folded)
    (hlayers.splice hfits hreplaces (.refl _)) (hlayers'.splice hfits' hreplaces (.refl _)) _

theorem call (h : c.Runs place nodeType source c' f g callers fs gs)
    (hm : m.Unfolds place nodeType m') (hfits : e.Fits m c.tape f a tail)
    (hfits' : ({ e with
        frame := { e.frame with production := q }, replaces := false, returns := false } :
      Entry σ n).Fits m' c.tape g a tail')
    (hrewritten : Rewritten place nodeType e.frame.language e.frame.nodeType e.frame.production q)
    (hreplaces : e.replaces = true) (hawaits : g.awaitsLast place nodeType = true) :
    Result.Folds place nodeType (c.enter f fs e)
      (c'.enter g (callers ++ gs)
        { e with
          frame := { e.frame with production := q }, replaces := false, returns := false }) := by
  obtain ⟨bases, hlayers⟩ := h.layers
  obtain ⟨bases', hlayers'⟩ := h.layers'
  obtain ⟨-, heat, htransparent⟩ := hfits.replaces hreplaces
  have hpolicy : e.frame.policy = Verb.eat.policy := hfits.policy.trans heat
  have hactive := (h.folds.rewritten h.active).1
  have hpushed := hlayers'.pushEntry hfits' h.begun'
  have hbranchIf : ∀ d : Draft, d.branchIf e.frame.policy.branches = d := by
    intro d
    rw [hpolicy]
    rfl
  simp only [hactive, Bool.or_false, hbranchIf] at hpushed
  simp only [Config.enter, Config.push, hreplaces, if_true, Bool.false_eq_true, if_false, h.tape,
    Frame.finish_script h.folds.scripted, hactive, Bool.or_false, hbranchIf]
  -- The first run needs no new frame, so that only the second one may have too many.
  by_cases hlimit : c'.limit ≤ (callers ++ gs).length + 1
  · simp only [if_pos hlimit]
    exact .deepSecond _ _ _
  simp only [if_neg hlimit]
  have hparent : f.parent ≠ none := by
    intro hnone
    have hfragment := hlayers.isFragment_iff.mpr (hlayers.outermost hnone).1
    simp [Frame.isTransparent, hfragment] at htransparent
  have hsame : ({ g with returning := false } : Frame σ n) = g := by
    rw [← hactive]
  rw [hsame] at hpushed ⊢
  have hcalled := h.folds.called hrewritten (hfits.script hm) hpolicy hfits.branched hparent hawaits
    hactive (callers ++ gs).length
  exact Folded.entered (.cons hcalled h.folded) (hlayers.splice hfits hreplaces (.refl _)) hpushed _

theorem obey (h : c.Runs place nodeType source c' f g callers fs gs)
    (hm : m.Unfolds place nodeType m') (instruction : Instruction) (tail : Bool) :
    Result.Folds place nodeType (m.obey c f fs instruction tail)
      (m'.obey c' g (callers ++ gs) instruction tail) := by
  have hquiet : ∀ act, Result.Folds place nodeType
      (.ok { c with tape := c.tape.perform act, flow := Config.next none tail })
      (.ok { c' with tape := c'.tape.perform act, flow := Config.next none tail }) := by
    intro act
    rw [h.tape]
    exact .ok ⟨h.folded_frames, .of_eq rfl, fun _ => rfl, .refl _⟩
  cases instruction with
  | attempt a =>
      have halike := hm.plans c.tape f a tail
      have hsame := h.plan_eq m' a tail
      simp only [Machine.obey, hsame]
      rcases hown : m.plan c.tape f a tail with outcome | plan
      all_goals rcases hother : m'.plan c.tape f a tail with outcome' | plan'
      all_goals rw [hown, hother] at halike
      · cases halike
        rw [h.tape]
        exact .error (.refl _)
      · cases halike
      · cases halike
      · cases halike with
        | miss emptied => exact .ok ⟨h.folded_frames, .of_eq h.tape, fun _ => h.tape, .refl _⟩
        | place tags value =>
            refine .ok ⟨h.folded_write _, .of_eq ?_, fun _ => ?_, ?_⟩
            · simp only [Config.write, h.tape]
            · simp only [Config.write, h.tape]
            · cases tail
              · trivial
              · rfl
        | @enter e q hrewritten =>
            have hfits := Machine.plan_enter hown
            have hfits' := Machine.plan_enter (hsame.trans hother)
            rw [h.tape] at hfits'
            simp only [Machine.follow]
            by_cases hreplaces : e.replaces = true
            · exact h.splice hm hfits hfits' hrewritten hreplaces
            · rw [Bool.not_eq_true] at hreplaces
              rcases e with ⟨frame, invocation, replaces, returns, adopts, opening⟩
              cases hreplaces
              exact h.push hm hfits hfits' hrewritten rfl
                (.inl ⟨rfl, (h.folds.rewritten h.active).2⟩)
  | fail => exact .ok ⟨h.folded_frames, .of_eq h.tape, fun _ => h.tape, .refl _⟩
  | write text options => exact hquiet _
  | openSpan name => exact hquiet _
  | closeSpan name => exact hquiet _
  | bind key value => exact hquiet _

/-- The last match is handed back by the first script and asked for by the second one, which then
has nothing left to do. -/
theorem obeyLast (h : c.Runs place nodeType source c' f g callers fs gs)
    (hm : m.Unfolds place nodeType m') (hverb : a.verb = .eat)
    (hdone : g.production = .script ⟨[], none⟩) (hplace : f.language = place)
    (hkind : f.nodeType = nodeType) :
    ∃ count, Result.Folds place nodeType (m.obey c f fs (.attempt a) true)
      (m'.obey c' g (callers ++ gs) (.attempt a) false >>= m'.moves count) := by
  have halike := hm.plans c.tape f a true
  have hyielded := m'.plan_yielded c'.tape g (a := a) (by rw [hverb]; rfl)
  rw [h.plan_eq m' a true] at hyielded
  simp only [Machine.obey, hyielded]
  rcases hown : m.plan c.tape f a true with outcome | plan
  all_goals rcases hother : m'.plan c.tape f a true with outcome' | plan'
  all_goals rw [hown, hother] at halike
  · cases halike
    rw [h.tape]
    exact ⟨0, .error (.refl _)⟩
  · cases halike
  · cases halike
  · cases halike with
    | miss emptied =>
        refine ⟨0, .ok ⟨h.folded_frames, .of_eq h.tape, fun _ => h.tape, ?_⟩⟩
        rw [hverb]
        rfl
    | place tags value =>
        -- The second script is resumed once more, only to find that it is done.
        refine ⟨1, ?_⟩
        generalize hwritten : (if a.verb.policy.keeps then tags else []) = written
        obtain ⟨start, rest, hhead⟩ := Config.write_head h.frames' written
        have hmoved : ∀ extent, m'.move { c'.write written with flow := .resume extent } =
            .ok { c'.write written with flow := .complete false } :=
          fun extent => m'.move_done (c := { c'.write written with flow := .resume extent }) hhead
            hdone rfl
        simp only [Machine.follow, Functor.map, Except.map, Plan.yielded, bind, Except.bind,
          Machine.moves, hwritten, Config.next, if_true, Bool.false_eq_true, if_false, hmoved]
        refine .ok ⟨h.folded_write _, .of_eq ?_, fun _ => ?_, rfl⟩
        · simp only [Config.write, h.tape]
        · simp only [Config.write, h.tape]
    | @enter e q hrewritten =>
        refine ⟨0, ?_⟩
        rw [m'.bind_moves_zero]
        have hfits := Machine.plan_enter hown
        rw [hother] at hyielded
        have hfits' := Machine.plan_enter hyielded
        rw [h.tape] at hfits'
        simp only [Machine.follow, Functor.map, Except.map, Plan.yielded]
        by_cases hreplaces : e.replaces = true
        · obtain ⟨-, -, htransparent⟩ := hfits.replaces hreplaces
          have hawaits : g.awaitsLast place nodeType = true := by
            simp [Frame.awaitsLast, h.folds.isTransparent, htransparent, h.folds.language, hplace,
              h.folds.kind, hkind, hdone]
          exact h.call hm hfits hfits' hrewritten hreplaces hawaits
        · rw [Bool.not_eq_true] at hreplaces
          have hreturns : e.returns = true := by rw [hfits.returns, hreplaces]; rfl
          exact h.push hm hfits hfits' hrewritten hreplaces (.inr ⟨hreturns, rfl, hdone⟩)

end Config.Runs

/-- Where the first run steps a script, the second one steps its script as well, and once more if
it has to find out that the script is done. -/
theorem Config.Folds.stepTop (h : c.Folds place nodeType c') (hm : m.Unfolds place nodeType m')
    {bases bases' : List Draft} (hc : c.Sound source bases) (hc' : c'.Sound source bases')
    {value : Option Extent} (hflow : c.flow = .resume value) :
    ∃ count, Result.Folds place nodeType (m.move c) (m'.moves (count + 1) c') := by
  obtain ⟨value', hflow'⟩ := (hflow ▸ h.flow).resume
  have hfolded := h.frames
  rcases hframes : c.frames with _ | ⟨f, fs⟩
  · exact absurd hframes hc.layers.ne_nil
  rw [hframes] at hfolded
  generalize hframes' : c'.frames = frames' at hfolded
  cases hfolded with
  | @cons _ g callers _ gs hfolds hfolded =>
      have hactive : f.returning = false := hc.waiting value hflow f (by simp [hframes])
      have htape : c'.tape = c.tape := h.tape (by simp [hflow])
      have hruns := fun p q => @Config.Folds.runs σ n place nodeType source c c' f g callers fs gs h
        bases bases' hc hc' value hflow hframes hframes' hfolds hfolded p q
      rcases (hfolds.rewritten hactive).2 with hsame | ⟨hplace, hkind, body, a, hverb, hp, hq⟩
      · -- The productions are the same.
        refine ⟨0, ?_⟩
        rw [m'.moves_succ, m'.bind_moves_zero]
        obtain ⟨⟨_ | ⟨instruction, body⟩, _ | last⟩, hscript⟩ := hfolds.scripted
        · rw [m.move_done hframes hscript hflow, m'.move_done hframes' (hsame.trans hscript) hflow']
          exact .ok ⟨h.frames, .of_eq htape, fun _ => htape, rfl⟩
        · rw [m.move_tail hframes hscript hflow, m'.move_tail hframes' (hsame.trans hscript) hflow']
          exact (hruns _ _ ⟨_, rfl⟩ (.inl rfl)).obey hm last true
        · rw [m.move_body hframes hscript hflow, m'.move_body hframes' (hsame.trans hscript) hflow']
          exact (hruns _ _ ⟨_, rfl⟩ (.inl rfl)).obey hm instruction false
        · rw [m.move_body hframes hscript hflow, m'.move_body hframes' (hsame.trans hscript) hflow']
          exact (hruns _ _ ⟨_, rfl⟩ (.inl rfl)).obey hm instruction false
      · rcases body with _ | ⟨instruction, body⟩
        · obtain ⟨count, hlast⟩ :=
            (hruns _ _ ⟨_, rfl⟩ (.inl rfl)).obeyLast hm hverb rfl hplace hkind
          refine ⟨count, ?_⟩
          rw [m'.moves_succ, m.move_tail hframes hp hflow, m'.move_body hframes' hq hflow']
          exact hlast
        · refine ⟨0, ?_⟩
          rw [m'.moves_succ, m'.bind_moves_zero, m.move_body hframes hp hflow,
            m'.move_body hframes' hq hflow']
          exact (hruns _ _ ⟨_, rfl⟩ (.inr ⟨hplace, hkind, body, a, hverb, rfl, rfl⟩)).obey hm
            instruction false

theorem Config.Folds.move (h : c.Folds place nodeType c') (hm : m.Unfolds place nodeType m')
    {bases bases' : List Draft} (hc : c.Sound source bases) (hc' : c'.Sound source bases')
    (hends : ∀ count d, m'.moves count c' = .ok d → d.endsEmpty place nodeType = false) :
    ∃ count, Result.Folds place nodeType (m.move c) (m'.moves (count + 1) c') := by
  rcases hflow : c.flow with value | failed
  · exact h.stepTop hm hc hc' hflow
  · exact h.finishTop hc hc' hflow hends

/-- Runs of which the first one stands for the second one come to ends that agree. The induction is
on the moves of the first run, each of which takes one or more moves of the second one. -/
theorem Config.Folds.agree (h : c.Folds place nodeType c') (hm : m.Unfolds place nodeType m')
    {bases bases' : List Draft} (hc : c.Sound source bases) (hc' : c'.Sound source bases')
    {fuel fuel' : Nat} {halt halt' : Draft × Outcome} (hmoves : m.moves fuel c = .error halt)
    (hmoves' : m'.moves fuel' c' = .error halt')
    (hdepth : ∀ limit, halt.2 ≠ .rejected (.depthExceeded limit))
    (hdepth' : ∀ limit, halt'.2 ≠ .rejected (.depthExceeded limit))
    (hends : ∀ count d, m'.moves count c' = .ok d → d.endsEmpty place nodeType = false) :
    Agree halt halt' := by
  induction fuel generalizing c c' bases bases' fuel' with
  | zero => cases hmoves
  | succ fuel ih =>
      obtain ⟨count, hfolds⟩ := h.move hm hc hc' hends
      rw [Machine.moves_succ] at hmoves
      generalize hmove : m.move c = x at hfolds hmoves
      generalize hmoved : m'.moves (count + 1) c' = y at hfolds
      cases hfolds with
      | @ok d d' hd =>
          obtain ⟨bases₁, hsound, -⟩ := hc.move hmove
          obtain ⟨bases₂, hsound'⟩ := Machine.moves_sound hc' hmoved
          obtain ⟨rest, hrest⟩ := Machine.moves_rest hmoves' hmoved
          refine ih hd hsound hsound' hmoves hrest ?_
          intro more e hmore
          refine hends (count + 1 + more) e ?_
          rw [Machine.moves_add, hmoved]
          exact hmore
      | error hagree =>
          cases hmoves
          rw [← Machine.moves_unique hmoved hmoves']
          exact hagree
      | deepFirst d limit =>
          cases hmoves
          exact absurd rfl (hdepth limit)
      | deepSecond d limit =>
          rw [← Machine.moves_unique hmoved hmoves'] at hdepth'
          exact absurd rfl (hdepth' limit)

end

namespace Machine

variable [Stepper σ]

/-- Tail calls are only a shortcut. If all rules are scripts, a match that a rule hands back may as
well be asked for: the same inputs are accepted, with the same tape. This holds unless there are too
many frames, or unless a rule that may not match nothing ends without a match for a caller that has
already matched something and asks for nothing more. -/
theorem run_tail_call {m : Machine σ n} {place : Fin n} {nodeType : String}
    {body : Invocation → List Instruction} {last : Invocation → Attempt} (hscripted : m.Scripted)
    (hrule : (m.catalog place).grammar.rule? nodeType = some (.returning body last))
    (hverb : ∀ invocation, (last invocation).verb = .eat) {source : Source} {props : Option Json}
    {fuel fuel' : Nat} {halt halt' : Halt σ n Draft}
    (hrun : m.run (Draft.fresh source) props fuel = some halt)
    (hrun' : (m.redefine place nodeType (.asking body last)).run (Draft.fresh source) props fuel' =
      some halt')
    (hdepth : ∀ limit, halt.outcome ≠ .rejected (.depthExceeded limit))
    (hdepth' : ∀ limit, halt'.outcome ≠ .rejected (.depthExceeded limit))
    (hends : ∀ r, (m.redefine place nodeType (.asking body last)).Reaches (Draft.fresh source) props
      r → r.config.endsEmpty place nodeType = false) :
    (∀ extent, halt'.outcome = .accepted extent ↔ halt.outcome = .accepted extent) ∧
      ∀ extent, halt.outcome = .accepted extent → halt'.run.tape = halt.run.tape := by
  have hunfolds : m.Unfolds place nodeType (m.redefine place nodeType (.asking body last)) := by
    refine ⟨hscripted, fun tape top a tail => plan_alike (fun _ _ _ => .inl rfl) hrule ?_ tape top a
      tail⟩
    exact fun invocation => .inr ⟨rfl, rfl, _, _, hverb invocation, rfl, rfl⟩
  generalize hm' : m.redefine place nodeType (.asking body last) = m' at hunfolds hrun' hends
  have hgoal : m'.goal = m.goal := by
    rw [← hm']
    rfl
  have hinitial : m'.initial source props = m.initial source props := by
    rw [← hm']
    simp only [initial, redefine_catalog]
    rfl
  rcases run_eq_some hrun with ⟨slot, hslot, hnamed⟩ | hzero | ⟨hslot, -, hmoves⟩
  · -- Neither run begins.
    rcases run_eq_some hrun' with ⟨slot', -, hnamed'⟩ | hzero | ⟨hslot', -⟩
    · simp [hnamed, hnamed']
    · exact absurd hzero (hdepth' 0)
    · rw [hgoal, hslot] at hslot'
      cases hslot'
  · exact absurd hzero (hdepth 0)
  rcases run_eq_some hrun' with ⟨slot, hslot', -⟩ | hzero | ⟨hslot', hlimit, hmoves'⟩
  · rw [hgoal, hslot] at hslot'
    cases hslot'
  · exact absurd hzero (hdepth' 0)
  have hsound := m.initial_sound source props
  have hagree := Config.Folds.agree (m.initial_folds source props) hunfolds hsound hsound hmoves
    (hinitial ▸ hmoves') hdepth hdepth' (by
      intro count d hmoved
      rw [← hinitial] at hmoved
      obtain ⟨r, hr, rfl⟩ := reaches_of_moves hslot' hlimit hmoved
      exact hends r hr)
  exact ⟨hagree.outcome, hagree.tape⟩

/-- A machine that reads an `a` and then the rest of a word. -/
def wordReader (rest : List Instruction) : Machine Automaton 1 where
  catalog _ := {
    url := "urn:word"
    grammar := ({} : Grammar Automaton).node "Rest"
      |>.cover "Word" ["Rest"]
      |>.define "Word" (.returning (fun _ => [.eat (.literal "a")])
          (fun _ => { verb := .eat, goal := .node "Rest" }))
      |>.define "Rest" (.script rest none) }
  language := Fin.last 0
  goal := .node "Word"

def askingReader (rest : List Instruction) : Machine Automaton 1 :=
  (wordReader rest).redefine (Fin.last 0) "Word" (.asking (fun _ => [.eat (.literal "a")])
    (fun _ => { verb := .eat, goal := .node "Rest" }))

theorem wordReader_scripted (rest : List Instruction) : (wordReader rest).Scripted := by
  intro l wanted rule hrule invocation
  change List.lookup wanted [("Rest", _), ("Word", _)] = some rule at hrule
  simp only [List.lookup_cons, List.lookup_nil] at hrule
  split at hrule
  · cases hrule
    exact ⟨_, rfl⟩
  · split at hrule
    · cases hrule
      exact ⟨_, rfl⟩
    · cases hrule

theorem askingReader_full {r : Run Automaton 1 Draft}
    (h : (askingReader [.eat (.literal "b")]).Reaches (Draft.fresh (.ofSegments [some "ab"])) none
      r) : r.config.endsEmpty 0 "Word" = false :=
  Reaches.of_stateAt? (P := fun r => r.config.endsEmpty 0 "Word" = false) 11 rfl
    (by decide +kernel) h

theorem run_tail_call_wordReader :
    ∃ halt halt' extent,
      (wordReader [.eat (.literal "b")]).run (Draft.fresh (.ofSegments [some "ab"])) none 9 =
        some halt ∧
      (askingReader [.eat (.literal "b")]).run (Draft.fresh (.ofSegments [some "ab"])) none 11 =
        some halt' ∧
      halt.outcome = .accepted extent ∧ halt'.outcome = .accepted extent ∧
      halt'.run.tape = halt.run.tape := by
  obtain ⟨halt, extent, hrun, haccepted⟩ : ∃ halt extent,
      (wordReader [.eat (.literal "b")]).run (Draft.fresh (.ofSegments [some "ab"])) none 9 =
        some halt ∧ halt.outcome = .accepted extent := ⟨_, _, rfl, rfl⟩
  obtain ⟨halt', extent', hrun', haccepted'⟩ : ∃ halt' extent',
      (askingReader [.eat (.literal "b")]).run (Draft.fresh (.ofSegments [some "ab"])) none 11 =
        some halt' ∧ halt'.outcome = .accepted extent' := ⟨_, _, rfl, rfl⟩
  obtain ⟨hiff, htape⟩ := run_tail_call (wordReader_scripted _) rfl (fun _ => rfl) hrun hrun'
    (by simp [haccepted]) (by simp [haccepted']) (fun _ => askingReader_full)
  exact ⟨halt, halt', extent, hrun, hrun', haccepted, (hiff extent).mpr haccepted,
    htape extent haccepted⟩

/-- A rule that may not match nothing does so after an `a`. In the place of its caller it is
accepted, since the place has matched the `a`. Above its caller it is not. -/
theorem tail_call_accepts_empty :
    (wordReader []).Scripted ∧
      ((wordReader []).catalog 0).grammar.rule? "Word" =
        some (.returning (fun _ => [.eat (.literal "a")])
          (fun _ => { verb := .eat, goal := .node "Rest" })) ∧
      (∃ halt extent,
        (wordReader []).run (Draft.fresh (.ofSegments [some "a"])) none 9 = some halt ∧
          halt.outcome = .accepted extent) ∧
      ∃ halt,
        (askingReader []).run (Draft.fresh (.ofSegments [some "a"])) none 9 = some halt ∧
          halt.outcome = .rejected (.emptyMatch "Rest") :=
  ⟨wordReader_scripted [], rfl, ⟨_, _, rfl, rfl⟩, _, rfl, rfl⟩

end Machine

end GrammarMachine
