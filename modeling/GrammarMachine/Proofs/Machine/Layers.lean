import GrammarMachine.Proofs.Machine.Config
import GrammarMachine.Proofs.Stream.Begun

/-!
The order in which frames, branches and tags stand. Each frame lies over the tape on which it was
put: the tape has only grown since, a branched frame can be undone to just that tape, and the start
recorded for a frame is the end of that tape. All moves keep this order, whatever the productions
do.
-/

namespace GrammarMachine

variable {σ : Type} {n : Nat}

/-- What is known of a frame that was put on the tape `base` when the tape has become `d`. -/
structure Frame.Over (f : Frame σ n) (base d : Draft) : Prop where
  grown : base.Extends d
  branches : d.branches = if f.branched then base.snapshot :: base.branches else base.branches
  branched : f.branched = f.policy.branches
  started : ∀ mark, f.capture.start = some mark → mark = Tape.mark base
  unstarted : f.capture.start = none → d.tags = base.tags
  running : f.capture.stop = none

/-- The number of frames that stand for nodes. -/
def nodeCount (frames : List (Frame σ n)) : Nat :=
  frames.countP (·.isNode)

/-- Frames over the tapes on which they were put, all of them over the tape of the fragment. -/
inductive Layers (source : Source) : List (Frame σ n) → List Draft → Draft → Prop where
  | fragment {f : Frame σ n} {d : Draft} : f.depth = 0 → f.parent = none → f.isNode = false →
      f.branched = false → f.capture.start.isSome = true → f.capture.stop = none →
      d.source = source → d.branches = [] → d.Faithful → Layers source [f] [] d
  | cons {f g : Frame σ n} {rest : List (Frame σ n)} {base d : Draft} {bases : List Draft} :
      Layers source (g :: rest) bases base → f.Over base d → f.depth = rest.length + 1 →
      f.parent = some rest.length →
      (f.capture.start.isSome = true → g.capture.start.isSome = true) →
      Stream.Begun source (nodeCount (g :: rest)) base.tags.toList → d.Faithful →
      Layers source (f :: g :: rest) (base :: bases) d

namespace Stack

theorem recordStart_started (mark : Mark) {f : Frame σ n} (rest : List (Frame σ n))
    (h : f.capture.start.isSome = true) : recordStart mark (f :: rest) = f :: rest := by
  obtain ⟨start, hstart⟩ := Option.isSome_iff_exists.mp h
  simp [recordStart, hstart]

theorem recordStart_unstarted (mark : Mark) {f : Frame σ n} (rest : List (Frame σ n))
    (h : f.capture.start = none) :
    recordStart mark (f :: rest) =
      { f with capture := { f.capture with start := some mark } } :: recordStart mark rest := by
  simp [recordStart, h]

@[simp] theorem length_recordStart (mark : Mark) (frames : List (Frame σ n)) :
    (recordStart mark frames).length = frames.length := by
  fun_induction recordStart mark frames <;> simp_all

@[simp] theorem nodeCount_recordStart (mark : Mark) (frames : List (Frame σ n)) :
    nodeCount (recordStart mark frames) = nodeCount frames := by
  fun_induction recordStart mark frames <;> simp_all [nodeCount, List.countP_cons]

end Stack

theorem Frame.Over.silent {f : Frame σ n} {base d d' : Draft} (h : f.Over base d)
    (hsilent : d.Silent d') : f.Over base d' where
  grown := h.grown.trans hsilent.extends'
  branches := hsilent.branches.trans h.branches
  branched := h.branched
  started := h.started
  unstarted := fun hstart => hsilent.tags.trans (h.unstarted hstart)
  running := h.running

theorem Frame.Over.reject_eq {f : Frame σ n} {base d : Draft} (h : f.Over base d)
    (hbranched : f.branched = true) : d.reject = base := by
  apply Draft.reject_eq h.grown
  rw [h.branches, if_pos hbranched]

namespace Layers

variable {source : Source} {frames rest : List (Frame σ n)} {f g : Frame σ n} {d d' base : Draft}
  {bases : List Draft}

theorem faithful (h : Layers source frames bases d) : d.Faithful := by
  cases h <;> assumption

theorem source_eq (h : Layers source frames bases d) : d.source = source := by
  induction h with
  | fragment => assumption
  | cons _ hover _ _ _ _ _ ih => exact hover.grown.source.trans ih

theorem depth_eq (h : Layers source (f :: rest) bases d) : f.depth = rest.length := by
  cases h <;> assumption

theorem isFragment_iff (h : Layers source (f :: rest) bases d) :
    f.isFragment = true ↔ rest = [] := by
  simp [Frame.isFragment, h.depth_eq]

theorem running (h : Layers source (f :: rest) bases d) : f.capture.stop = none := by
  cases h with
  | fragment => assumption
  | cons _ hover => exact hover.running

theorem length_bases (h : Layers source frames bases d) : frames.length = bases.length + 1 := by
  induction h with
  | fragment => rfl
  | cons _ _ _ _ _ _ _ ih => simp [ih]

/-- The tape may grow over its frames. What grows over a frame without a start may not be a tag. -/
theorem extend (h : Layers source (f :: rest) bases d) (hgrown : d.Extends d')
    (hbranches : d'.branches = d.branches)
    (hunstarted : f.capture.start = none → d'.tags = d.tags) (hfaithful : d'.Faithful) :
    Layers source (f :: rest) bases d' := by
  cases h with
  | fragment hdepth hparent hnode hbranched hstart hstop hsource hnone _ =>
      exact .fragment hdepth hparent hnode hbranched hstart hstop (hgrown.source.trans hsource)
        (hbranches.trans hnone) hfaithful
  | cons hbelow hover hdepth hparent hmono hbegun _ =>
      refine .cons hbelow ?_ hdepth hparent hmono hbegun hfaithful
      exact {
        grown := hover.grown.trans hgrown
        branches := hbranches.trans hover.branches
        branched := hover.branched
        started := hover.started
        unstarted := fun hstart => (hunstarted hstart).trans (hover.unstarted hstart)
        running := hover.running }

theorem silent (h : Layers source frames bases d) (hsilent : d.Silent d') :
    Layers source frames bases d' := by
  rcases frames with _ | ⟨f, rest⟩
  · cases h
  · exact h.extend hsilent.extends' hsilent.branches (fun _ => hsilent.tags)
      (hsilent.faithful h.faithful)

theorem replaceTop (h : Layers source (f :: rest) bases d)
    (hcapture : g.capture = f.capture) (hdepth : g.depth = f.depth) (hparent : g.parent = f.parent)
    (hbranched : g.branched = f.branched) (hpolicy : g.policy = f.policy)
    (hnode : f.isFragment = true → g.isNode = f.isNode) : Layers source (g :: rest) bases d := by
  cases h with
  | fragment hdepth' hparent' hnode' hbranched' hstart hstop hsource hnone hfaithful =>
      have hfragment : f.isFragment = true := by simp [Frame.isFragment, hdepth']
      exact .fragment (hdepth.trans hdepth') (hparent.trans hparent')
        ((hnode hfragment).trans hnode') (hbranched.trans hbranched') (by rwa [hcapture])
        (by rwa [hcapture]) hsource hnone hfaithful
  | cons hbelow hover hdepth' hparent' hmono hbegun hfaithful =>
      refine .cons hbelow ?_ (hdepth.trans hdepth') (hparent.trans hparent') (by rwa [hcapture])
        hbegun hfaithful
      exact {
        grown := hover.grown
        branches := by rw [hbranched]; exact hover.branches
        branched := by rw [hbranched, hpolicy]; exact hover.branched
        started := by rw [hcapture]; exact hover.started
        unstarted := by rw [hcapture]; exact hover.unstarted
        running := by rw [hcapture]; exact hover.running }

theorem mark_eq_of_unstarted (hover : f.Over base d) (hstart : f.capture.start = none)
    (hbase : base.Faithful) (hfaithful : d.Faithful) : Tape.mark d = Tape.mark base := by
  have htags := hover.unstarted hstart
  obtain ⟨hposition, -⟩ := hfaithful.congr hbase hover.grown.source htags
  change Mark.mk d.tags.size d.position = Mark.mk base.tags.size base.position
  rw [htags, hposition]

theorem record (h : Layers source frames bases d) :
    Layers source (Stack.recordStart (Tape.mark d) frames) bases d ∧
      ∀ f ∈ (Stack.recordStart (Tape.mark d) frames).head?, f.capture.start.isSome = true := by
  induction h with
  | fragment hdepth hparent hnode hbranched hstart hstop hsource hnone hfaithful =>
      rw [Stack.recordStart_started _ _ hstart]
      refine ⟨.fragment hdepth hparent hnode hbranched hstart hstop hsource hnone hfaithful, ?_⟩
      simpa using hstart
  | @cons f g rest base d bases hbelow hover hdepth hparent hmono hbegun hfaithful ih =>
      rcases hstart : f.capture.start with _ | mark
      · -- The frame has no start, so the tape still ends where the frame was put on it.
        have hmark := mark_eq_of_unstarted hover hstart hbelow.faithful hfaithful
        rw [← hmark] at ih
        obtain ⟨hbelow', hstarted⟩ := ih
        have hlength := Stack.length_recordStart (Tape.mark d) (g :: rest)
        have hcount := Stack.nodeCount_recordStart (Tape.mark d) (g :: rest)
        rw [Stack.recordStart_unstarted _ _ hstart]
        rcases hrecorded : Stack.recordStart (Tape.mark d) (g :: rest) with _ | ⟨g', rest'⟩
        · simp [hrecorded] at hlength
        · rw [hrecorded] at hbelow' hstarted hlength hcount
          replace hlength : rest'.length = rest.length := by simpa using hlength
          refine ⟨.cons hbelow' ?_ ?_ ?_ ?_ ?_ hfaithful, ?_⟩
          · exact {
              grown := hover.grown
              branches := hover.branches
              branched := hover.branched
              started := fun mark h => (Option.some.inj h).symm.trans hmark
              unstarted := fun h => absurd h (by simp)
              running := hover.running }
          · rw [hlength]
            exact hdepth
          · rw [hlength]
            exact hparent
          · exact fun _ => hstarted g' rfl
          · rw [hcount]
            exact hbegun
          · simp
      · have hsome : f.capture.start.isSome = true := by simp [hstart]
        rw [Stack.recordStart_started _ _ hsome]
        exact ⟨.cons hbelow hover hdepth hparent hmono hbegun hfaithful, by simpa using hsome⟩

theorem write (h : Layers source frames bases d) (tags : List Tag) :
    Layers source (captured (Tape.mark d) tags frames) bases (d.advanceAll tags) := by
  rcases tags with _ | ⟨tag, tags⟩
  · exact h
  · obtain ⟨hrecorded, hstarted⟩ := h.record
    change Layers source (Stack.recordStart (Tape.mark d) frames) bases _
    rcases hframes : Stack.recordStart (Tape.mark d) frames with _ | ⟨f, rest⟩
    · rw [hframes] at hrecorded
      cases hrecorded
    · rw [hframes] at hrecorded hstarted
      have hstart := hstarted f rfl
      refine hrecorded.extend (.advanceAll d _) (Draft.advanceAll_branches d _) ?_
        (h.faithful.advanceAll _)
      intro hnone
      simp [hnone] at hstart

theorem push (h : Layers source (g :: rest) bases d)
    (hbegun : Stream.Begun source (nodeCount (g :: rest)) d.tags.toList)
    (hcapture : f.capture = {}) (hdepth : f.depth = rest.length + 1)
    (hparent : f.parent = some rest.length) (hbranched : f.branched = f.policy.branches) :
    Layers source (f :: g :: rest) (d :: bases) (d.branchIf f.policy.branches) := by
  have hfaithful := h.faithful
  refine .cons h ?_ hdepth hparent (by simp [hcapture]) hbegun ?_
  · refine ⟨?_, ?_, hbranched, by simp [hcapture], ?_, by simp [hcapture]⟩
    · unfold Draft.branchIf
      split
      · exact (Draft.Extends.refl d).of_branches d.branches _
      · exact .refl d
    · rw [hbranched]
      unfold Draft.branchIf
      split <;> rfl
    · intro _
      unfold Draft.branchIf
      split <;> rfl
  · unfold Draft.branchIf
    split
    · exact ⟨hfaithful.position, hfaithful.opened⟩
    · exact hfaithful

/-- A frame that takes the place of a transparent one lies where that one lay. -/
theorem splice {m : Machine σ n} {a : Attempt} {tail : Bool} {e : Entry σ n}
    (h : Layers source (f :: rest) bases d) (hfits : e.Fits m d f a tail)
    (hreplaces : e.replaces = true) (hsilent : d.Silent d') :
    Layers source (e.spliced f :: rest) bases d' := by
  obtain ⟨-, -, htransparent⟩ := hfits.replaces hreplaces
  have hfragment : f.isFragment = false := by
    simp only [Frame.isTransparent, Bool.and_eq_true, Bool.not_eq_true'] at htransparent
    exact htransparent.2
  refine replaceTop (h.silent hsilent) ?_ rfl rfl rfl rfl ?_
  · have hstop := h.running
    simp only [Entry.spliced, hfits.capture]
    rw [← hstop]
  · simp [hfragment]

theorem pushEntry {m : Machine σ n} {a : Attempt} {tail : Bool} {e : Entry σ n}
    (h : Layers source (f :: rest) bases d) (hfits : e.Fits m d f a tail)
    (hbegun : Stream.Begun source (nodeCount (f :: rest)) d.tags.toList) :
    Layers source
      (e.pushed rest.length :: { f with returning := e.returns || f.returning } :: rest)
      (d :: bases) (d.branchIf e.frame.policy.branches) := by
  have hcapture : (e.pushed rest.length).capture = {} := hfits.capture
  have hbranched : (e.pushed rest.length).branched = (e.pushed rest.length).policy.branches := by
    simp [Entry.pushed, hfits.branched]
  have hbelow : Layers source ({ f with returning := e.returns || f.returning } :: rest) bases d :=
    h.replaceTop rfl rfl rfl rfl rfl (fun _ => rfl)
  exact hbelow.push (by simpa [nodeCount, List.countP_cons] using hbegun) hcapture rfl rfl hbranched

end Layers

end GrammarMachine
