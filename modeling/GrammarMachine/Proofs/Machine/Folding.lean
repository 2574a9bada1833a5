import GrammarMachine.Proofs.Machine.Redefine
import GrammarMachine.Proofs.Machine.Sound

/-!
Folded frames. A rule whose last match is handed back gives its place on the stack to the rule that
is entered for it, while one that asks for it like for any other match stays below and waits. So one
frame of the first run stands for several of the second: the active one and the callers that wait
for it. The frame has the place, the policy and the start of the outermost caller, does what the
active one does, and may match nothing only if all of them may.
-/

namespace GrammarMachine

variable {σ : Type} {n : Nat}

/-- A rule of a type, without a node of its own, that has asked for all it asks for. -/
def Frame.awaitsLast (place : Fin n) (nodeType : String) (f : Frame σ n) : Bool :=
  f.isTransparent && f.language = place && f.nodeType = nodeType &&
    match f.production with
    | .script ⟨[], none⟩ => true
    | _ => false

/-- Productions that are the same, or scripts of one type of which the first one hands back the
match that the second one asks for at the end. -/
def Rewritten (place : Fin n) (nodeType : String) (l : Fin n) (wanted : String)
    (p q : Production σ) : Prop :=
  q = p ∨ (l = place ∧ wanted = nodeType ∧ ∃ body a, a.verb = .eat ∧
    p = .script ⟨body, some (.attempt a)⟩ ∧ q = .script ⟨body ++ [.attempt a], none⟩)

/-- The frame `f` has the place of the outermost one of the frame `g` and the callers that wait for
it. -/
inductive Frame.Shares (place : Fin n) (nodeType : String) (f : Frame σ n) :
    Frame σ n → List (Frame σ n) → Prop where
  | alone {g : Frame σ n} : g.policy = f.policy → g.branched = f.branched →
      g.capture.start = f.capture.start → g.parent.isNone = f.parent.isNone →
      Frame.Shares place nodeType f g []
  | above {g caller : Frame σ n} {callers : List (Frame σ n)} : g.policy = Verb.eat.policy →
      g.branched = false → g.parent.isNone = false → caller.awaitsLast place nodeType = true →
      caller.returning = false → Frame.Shares place nodeType f caller callers →
      Frame.Shares place nodeType f g (caller :: callers)

/-- How far two productions have come: they do the same from now on, or the first one waits for the
match it has handed back, while the second one waits with nothing left to do. -/
def Frame.Abreast (place : Fin n) (nodeType : String) (f g : Frame σ n) : Prop :=
  (g.returning = f.returning ∧
    Rewritten place nodeType f.language f.nodeType f.production g.production) ∨
  (f.returning = true ∧ g.returning = false ∧ g.production = .script ⟨[], none⟩)

/-- The frame `f` stands for the frame `g` and the callers that wait for it. -/
structure Frame.Folds (place : Fin n) (nodeType : String) (f g : Frame σ n)
    (callers : List (Frame σ n)) : Prop where
  language : g.language = f.language
  kind : g.nodeType = f.nodeType
  scope : g.scope = f.scope
  isNode : g.isNode = f.isNode
  isFragment : g.isFragment = f.isFragment
  slot : g.slot = f.slot
  scripted : ∃ script, f.production = .script script
  abreast : f.Abreast place nodeType g
  allowEmpty : f.allowEmpty = (g.allowEmpty && callers.all (·.allowEmpty))
  shares : f.Shares place nodeType g callers
  outermost : f.parent = none → callers = []

/-- Frames each of which stands for some of the others. -/
inductive Folded (place : Fin n) (nodeType : String) :
    List (Frame σ n) → List (Frame σ n) → Prop where
  | nil : Folded place nodeType [] []
  | cons {f g : Frame σ n} {callers fs gs : List (Frame σ n)} : f.Folds place nodeType g callers →
      Folded place nodeType fs gs → Folded place nodeType (f :: fs) (g :: (callers ++ gs))

/-- A frame that has a start lies over one that has. -/
def Frame.StartedOver (f g : Frame σ n) : Prop :=
  f.capture.start.isSome = true → g.capture.start.isSome = true

variable {place : Fin n} {nodeType : String} {f g : Frame σ n} {callers fs gs : List (Frame σ n)}

theorem Layers.startedOver {source : Source} {frames : List (Frame σ n)} {bases : List Draft}
    {d : Draft} (h : Layers source frames bases d) : frames.Pairwise Frame.StartedOver := by
  induction h with
  | fragment => exact List.pairwise_singleton _ _
  | @cons f g rest base d bases _ _ _ _ hmono _ _ ih =>
      refine List.pairwise_cons.mpr ⟨?_, ih⟩
      intro x hx hstart
      rcases List.mem_cons.mp hx with rfl | hx
      · exact hmono hstart
      · exact (List.pairwise_cons.mp ih).1 x hx (hmono hstart)

def Frame.recorded (mark : Mark) (f : Frame σ n) : Frame σ n :=
  { f with capture := { f.capture with start := f.capture.start.or (some mark) } }

theorem Frame.recorded_of_started (mark : Mark) (h : f.capture.start.isSome = true) :
    f.recorded mark = f := by
  obtain ⟨start, hstart⟩ := Option.isSome_iff_exists.mp h
  simp only [recorded, hstart, Option.some_or]
  rw [← hstart]

/-- Frames without a start lie above the others, so a start is recorded in all of them. -/
theorem Stack.recordStart_eq_map {mark : Mark} {frames : List (Frame σ n)}
    (h : frames.Pairwise Frame.StartedOver) :
    recordStart mark frames = frames.map (·.recorded mark) := by
  induction frames with
  | nil => rfl
  | cons f rest ih =>
      obtain ⟨hover, hrest⟩ := List.pairwise_cons.mp h
      rcases hstart : f.capture.start with _ | start
      · rw [recordStart_unstarted _ _ hstart, ih hrest]
        simp only [List.map_cons, Frame.recorded, hstart, Option.none_or]
      · have hsome : f.capture.start.isSome = true := by simp [hstart]
        rw [recordStart_started _ _ hsome, List.map_cons, Frame.recorded_of_started _ hsome]
        have hsame : rest.map (·.recorded mark) = rest.map id := by
          apply List.map_congr_left
          intro g hg
          exact Frame.recorded_of_started mark (hover g hg hsome)
        rw [hsame, List.map_id]

theorem Frame.awaitsLast_script (h : f.awaitsLast place nodeType = true) :
    f.isTransparent = true ∧ f.production = .script ⟨[], none⟩ := by
  unfold awaitsLast at h
  simp only [Bool.and_eq_true] at h
  obtain ⟨⟨⟨htransparent, -⟩, -⟩, hscript⟩ := h
  refine ⟨htransparent, ?_⟩
  split at hscript
  · assumption
  · cases hscript

theorem Rewritten.script {l : Fin n} {wanted : String} {p q : Production σ}
    (h : Rewritten place nodeType l wanted p q) (hp : ∃ script, p = .script script) :
    ∃ script, q = .script script := by
  rcases h with rfl | ⟨-, -, body, a, -, -, rfl⟩
  · exact hp
  · exact ⟨_, rfl⟩

theorem Frame.Folds.script (h : f.Folds place nodeType g callers) :
    ∃ script, g.production = .script script := by
  rcases h.abreast with ⟨-, hrewritten⟩ | ⟨-, -, hscript⟩
  · exact hrewritten.script h.scripted
  · exact ⟨_, hscript⟩

namespace Frame.Shares

theorem awaits (h : f.Shares place nodeType g callers) :
    ∀ caller ∈ callers, caller.awaitsLast place nodeType = true := by
  induction h with
  | alone => simp
  | above _ _ _ hawaits _ _ ih =>
      intro caller hcaller
      rcases List.mem_cons.mp hcaller with rfl | hcaller
      · exact hawaits
      · exact ih caller hcaller

theorem start (h : f.Shares place nodeType g callers) :
    ∃ outer ∈ g :: callers, outer.capture.start = f.capture.start := by
  induction h with
  | @alone g _ _ hstart => exact ⟨g, List.mem_cons_self, hstart⟩
  | above _ _ _ _ _ _ ih =>
      obtain ⟨outer, houter, hstart⟩ := ih
      exact ⟨outer, List.mem_cons_of_mem _ houter, hstart⟩

theorem replace {f' g' : Frame σ n} (h : f.Shares place nodeType g callers)
    (hpolicy : f'.policy = f.policy) (hbranched : f'.branched = f.branched)
    (hstart : f'.capture.start = f.capture.start) (hparent : f'.parent.isNone = f.parent.isNone)
    (hpolicy' : g'.policy = g.policy) (hbranched' : g'.branched = g.branched)
    (hstart' : g'.capture.start = g.capture.start) (hparent' : g'.parent.isNone = g.parent.isNone) :
    f'.Shares place nodeType g' callers := by
  induction h generalizing g' with
  | alone hp hb hs hn =>
      refine .alone ?_ ?_ ?_ ?_
      · rw [hpolicy', hp, hpolicy]
      · rw [hbranched', hb, hbranched]
      · rw [hstart', hs, hstart]
      · rw [hparent', hn, hparent]
  | above hp hb hn hawaits hreturning _ ih =>
      refine .above (hpolicy'.trans hp) (hbranched'.trans hb) (hparent'.trans hn) hawaits hreturning
        ?_
      exact ih rfl rfl rfl rfl

theorem recorded (h : f.Shares place nodeType g callers) (mark : Mark) :
    (f.recorded mark).Shares place nodeType (g.recorded mark)
      (callers.map (·.recorded mark)) := by
  induction h with
  | alone hpolicy hbranched hstart hparent =>
      refine .alone hpolicy hbranched ?_ hparent
      simp only [Frame.recorded, hstart]
  | above hpolicy hbranched hparent hawaits hreturning _ ih =>
      exact .above hpolicy hbranched hparent hawaits hreturning ih

end Frame.Shares

theorem Frame.Folds.recorded (h : f.Folds place nodeType g callers) (mark : Mark) :
    (f.recorded mark).Folds place nodeType (g.recorded mark)
      (callers.map (·.recorded mark)) where
  language := h.language
  kind := h.kind
  scope := h.scope
  isNode := h.isNode
  isFragment := h.isFragment
  slot := h.slot
  scripted := h.scripted
  abreast := h.abreast
  allowEmpty := by
    rw [List.all_map]
    exact h.allowEmpty
  shares := h.shares.recorded mark
  outermost := fun hparent => by rw [h.outermost hparent, List.map_nil]

theorem Folded.captured (h : Folded place nodeType fs gs)
    (hfs : fs.Pairwise Frame.StartedOver) (hgs : gs.Pairwise Frame.StartedOver) (mark : Mark)
    (tags : List Tag) :
    Folded place nodeType (captured mark tags fs) (captured mark tags gs) := by
  unfold GrammarMachine.captured
  split
  · exact h
  · rw [Stack.recordStart_eq_map hfs, Stack.recordStart_eq_map hgs]
    clear hfs hgs
    induction h with
    | nil => exact .nil
    | cons hfolds _ ih =>
        rw [List.map_cons, List.map_cons, List.map_append]
        exact .cons (hfolds.recorded mark) ih

/-- Positions in the order of the input. -/
def Position.Before (p q : Position) : Prop :=
  p.offset ≤ q.offset ∧ p.gaps ≤ q.gaps

theorem Draft.Extends.before {base d : Draft} (h : base.Extends d) (hbase : base.Faithful)
    (hd : d.Faithful) : base.position.Before d.position := by
  obtain ⟨more, hmore⟩ := h.tags
  rw [hbase.position, hd.position, ← h.source, ← hmore, Draft.replay_append,
    Draft.advanceAll_position]
  exact ⟨Nat.le_add_right _ _, Nat.le_add_right _ _⟩

theorem Position.Before.trans {p q r : Position} (hpq : p.Before q) (hqr : q.Before r) :
    p.Before r :=
  ⟨Nat.le_trans hpq.1 hqr.1, Nat.le_trans hpq.2 hqr.2⟩

theorem Position.Before.antisymm {p q : Position} (hpq : p.Before q) (hqp : q.Before p) :
    p = q := by
  cases p
  cases q
  exact Position.mk.injEq .. ▸ ⟨Nat.le_antisymm hpq.1 hqp.1, Nat.le_antisymm hpq.2 hqp.2⟩

theorem Layers.base_before {source : Source} {base : Draft} {bases : List Draft} {d : Draft}
    (h : Layers source (f :: g :: fs) (base :: bases) d) :
    Layers source (g :: fs) bases base ∧ base.position.Before d.position := by
  cases h with
  | cons hbelow hover _ _ _ _ hfaithful =>
      exact ⟨hbelow, hover.grown.before hbelow.faithful hfaithful⟩

/-- A frame over one that has matched nothing has matched nothing. -/
theorem Layers.isEmptyAt_over {source : Source} {bases : List Draft} {d : Draft} {p : Position}
    (h : Layers source (f :: g :: fs) bases d) (hinner : g.isFragment = false)
    (hbefore : d.position.Before p) (hempty : g.capture.isEmptyAt p = true) :
    f.capture.isEmptyAt p = true := by
  cases h with
  | @cons _ _ _ base _ _ hbelow hover _ _ hmono _ hfaithful =>
      rcases hstart : f.capture.start with _ | mark
      · simp [Capture.isEmptyAt, hstart]
      · obtain ⟨mark', hstart'⟩ := Option.isSome_iff_exists.mp (hmono (by simp [hstart]))
        have hpresent := hover.grown.before hbelow.faithful hfaithful
        cases hbelow with
        | fragment hdepth => simp [Frame.isFragment, hdepth] at hinner
        | @cons _ _ _ lower _ _ hlower hover' _ _ _ _ hfaithful' =>
            -- The start lies between the start of the frame below and the present position.
            have hfirst := hover'.grown.before hlower.faithful hfaithful'
            have hmark : mark.position = base.position := by
              rw [hover.started mark hstart]
              rfl
            have hmark' : lower.position = p := by
              simp only [Capture.isEmptyAt, hstart', Option.all_some, decide_eq_true_eq] at hempty
              rw [← hempty, hover'.started mark' hstart']
              rfl
            have hsame : base.position = p :=
              (hpresent.trans hbefore).antisymm (hmark' ▸ hfirst)
            simp [Capture.isEmptyAt, hstart, hmark, hsame]

theorem Frame.Shares.isEmptyAt (h : f.Shares place nodeType g callers) {source : Source}
    {bases : List Draft} {d : Draft} {p : Position}
    (hlayers : Layers source (g :: (callers ++ gs)) bases d) (hbefore : d.position.Before p)
    (hempty : f.capture.isEmptyAt p = true) :
    ∀ x ∈ g :: callers, x.capture.isEmptyAt p = true := by
  induction h generalizing bases d with
  | alone _ _ hstart =>
      intro x hx
      rw [List.mem_singleton.mp hx]
      simpa only [Capture.isEmptyAt, hstart] using hempty
  | @above g caller callers _ _ _ hawaits _ _ ih =>
      rcases bases with _ | ⟨base, bases⟩
      · cases hlayers
      obtain ⟨hbelow, hbase⟩ := hlayers.base_before
      have hrest := ih hbelow (hbase.trans hbefore)
      have hinner : caller.isFragment = false := by
        have htransparent := (awaitsLast_script hawaits).1
        simp only [isTransparent, Bool.and_eq_true, Bool.not_eq_true'] at htransparent
        exact htransparent.2
      intro x hx
      rcases List.mem_cons.mp hx with rfl | hx
      · exact hlayers.isEmptyAt_over hinner hbefore (hrest caller List.mem_cons_self)
      · exact hrest x hx

end GrammarMachine
