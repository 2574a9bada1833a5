import GrammarMachine.Proofs.Draft.Bookkeeping
import GrammarMachine.Proofs.Machine.Protocol

/-!
The ranges that productions are given. A kept match ends where the tape does, its text is that of
the literals written for it and also that of the input between its ends, and so it is with its gaps.
A match that is not kept leaves the tape where the match began. The range of an accepted run is the
whole input.
-/

namespace GrammarMachine

variable {σ : Type} {n : Nat}

namespace Extent

/-- The tags between the ends of a match. -/
def tagsIn (e : Extent) (tags : List Tag) : List Tag :=
  (tags.take e.lastTag).drop e.firstTag

/-- The text of a match is the input between its ends. -/
def Quotes (e : Extent) (source : Source) : Prop :=
  Text.slice? e.start.offset e.stop.offset source.chars = some e.text.toList

/-- What the range of a kept match tells about the draft on which it has just ended. -/
structure Kept (e : Extent) (d : Draft) : Prop where
  stop : e.stop = d.position
  ordered : e.firstTag ≤ e.lastTag
  lastTag : e.lastTag = d.tags.size
  quotes : e.Quotes d.source
  literals : Stream.literalText (e.tagsIn d.tags.toList) = e.text
  gaps : e.start.gaps + (e.tagsIn d.tags.toList).countP Tag.isGap = e.stop.gaps

/-- What the range of a match that is not kept tells about the draft. -/
structure Discarded (e : Extent) (d : Draft) : Prop where
  start : d.position = e.start
  quotes : e.Quotes d.source

/-- What the range of a match tells, depending on whether the match is kept. -/
def Tells (e : Extent) (keeps : Bool) (d : Draft) : Prop :=
  if keeps then e.Kept d else e.Discarded d

theorem Kept.congr {e : Extent} {d d' : Draft} (h : e.Kept d) (hsource : d'.source = d.source)
    (htags : d'.tags = d.tags) (hposition : d'.position = d.position) : e.Kept d' where
  stop := h.stop.trans hposition.symm
  ordered := h.ordered
  lastTag := by rw [htags, h.lastTag]
  quotes := by rw [hsource]; exact h.quotes
  literals := by rw [htags]; exact h.literals
  gaps := by rw [htags]; exact h.gaps

end Extent

theorem Text.slice?_size_append (before text after : List Char) :
    slice? (size before) (size (before ++ text)) (before ++ text ++ after) = some text := by
  rw [slice?, size_append, if_pos (Nat.le_add_right _ _), Nat.add_sub_cancel_left,
    List.append_assoc, drop?_size_append]
  exact take?_size_append text after

/-- The match from the end of one draft to the end of a later one. -/
def Draft.extentTo (base d : Draft) (name : String) : Extent where
  name := name
  firstTag := base.tags.size
  lastTag := d.tags.size
  start := base.position
  stop := d.position
  text := d.textBetween base.position d.position

/-- The positions of faithful drafts are those of their tags, so that what was written between two
drafts of an input is what stands in the input between their positions. -/
theorem Draft.extentTo_kept {base d : Draft} (hbase : base.Faithful) (hd : d.Faithful)
    (hgrown : base.tags.toList <+: d.tags.toList)
    (htaken : Stream.Accounted d.source d.tags.toList) (name : String) :
    (base.extentTo d name).Kept d := by
  obtain ⟨more, hmore⟩ := hgrown
  have hinside : (base.extentTo d name).tagsIn d.tags.toList = more := by
    simp only [Extent.tagsIn, extentTo, ← Array.length_toList, List.take_length]
    rw [← hmore, List.drop_left]
  have hstart := hbase.position
  have hstop := hd.position
  rw [replay_position] at hstart hstop
  rw [← hmore, Stream.symbols_append] at hstop
  obtain ⟨after, hafter⟩ := htaken.chars
  rw [← hmore, Stream.symbols_append, Symbol.chars_append] at hafter
  have hslice : Text.slice? base.position.offset d.position.offset d.source.chars =
      some (Symbol.chars (Stream.symbols more)) := by
    rw [hstart, hstop, ← hafter, Symbol.chars_append]
    exact Text.slice?_size_append _ _ _
  have htext : (base.extentTo d name).text = Stream.literalText more := by
    simp only [extentTo, textBetween, hslice]
    exact (Stream.literalText_eq more).symm
  refine ⟨rfl, ?_, rfl, ?_, ?_, ?_⟩
  · have hlength := congrArg List.length hmore
    simp only [List.length_append, Array.length_toList] at hlength
    change base.tags.size ≤ d.tags.size
    omega
  · rw [Extent.Quotes, htext, Stream.literalText_eq, String.toList_ofList]
    exact hslice
  · rw [hinside, htext]
  · rw [hinside, ← Stream.length_gapOffsets base.position.offset, Stream.gapOffsets_eq]
    change base.position.gaps + _ = d.position.gaps
    rw [hstart, hstop, Symbol.gapOffsets_append, List.length_append]
    simp

namespace Draft

theorem advanceAll_skip (d : Draft) {tags : List Tag} {text : String}
    (h : Stream.symbols tags = Symbol.ofText text.toList) :
    (d.advanceAll tags).position = d.position.skip text.utf8ByteSize := by
  have hsize : Text.size text.toList = text.utf8ByteSize := by
    rw [← Text.utf8ByteSize_ofList, String.ofList_toList]
  rw [advanceAll_position, h, Symbol.chars_ofText, Symbol.gapOffsets_ofText, hsize]
  rfl

theorem advanceAll_skipGap (d : Draft) {tags : List Tag} (h : Stream.symbols tags = [.gap]) :
    (d.advanceAll tags).position = d.position.skipGap := by
  rw [advanceAll_position, h]
  rfl

end Draft

namespace Machine

theorem plan_stop {m : Machine σ n} {d : Draft} {top : Frame σ n} {a : Attempt} {tail : Bool}
    {tags : List Tag} {name : String} {stop : Position}
    (h : m.plan d top a tail = .ok (.place tags (some (name, stop)))) :
    stop = (d.advanceAll tags).position := by
  cases plan_places h with
  | @text _ text => exact (d.advanceAll_skip (Stream.symbols_textTags text)).symm
  | gap =>
      rw [d.advanceAll_skipGap (by simp [Tag.symbols])]
      rfl
  | @token _ _ _ text =>
      refine (d.advanceAll_skip ?_).symm
      simp [Tag.symbols, Stream.symbols_textTags]

end Machine

theorem Frame.Over.valueAt_eq {f : Frame σ n} {base d : Draft} (h : f.Over base d)
    (hbase : base.Faithful) (hd : d.Faithful) :
    f.valueAt false d = some (base.extentTo d f.slot.name) := by
  have hstart : f.capture.start.getD (Tape.mark d) = Tape.mark base := by
    rcases hstart : f.capture.start with _ | mark
    · exact Layers.mark_eq_of_unstarted h hstart hbase hd
    · exact h.started mark hstart
  simp only [Frame.valueAt, Bool.false_eq_true, if_false, hstart]
  rfl

theorem Config.resumeBelow_cons {c : Config σ n} {below : Frame σ n} {rest : List (Frame σ n)}
    (hframes : c.frames = below :: rest) (top : Frame σ n) (value : Option Extent)
    (failing : Bool) :
    c.resumeBelow top value failing = .ok { c with flow := top.flowBelow below failing value } := by
  simp only [resumeBelow, Frame.flowBelow, hframes]
  split <;> rfl

namespace Config.Sound

variable {m : Machine σ n} {source : Source} {bases : List Draft} {c c' : Config σ n}
  {top below : Frame σ n} {rest : List (Frame σ n)} {extent : Extent}

theorem accounted (h : c.Sound source bases) (hflow : c.flow ≠ .complete true) :
    Stream.Accounted c.tape.source c.tape.tags.toList := by
  rw [h.layers.source_eq]
  exact (h.begun hflow).accounted

theorem placed_kept (h : c.Sound source bases) {value : Option Extent}
    (hresume : c.flow = .resume value) {a : Attempt} {tail : Bool} {tags : List Tag}
    {placed : Option (String × Position)} (name : String)
    (hplan : m.plan c.tape top a tail = .ok (.place tags placed)) :
    (c.tape.extentTo (c.tape.advanceAll tags) name).Kept (c.tape.advanceAll tags) := by
  have hfaithful := h.layers.faithful
  refine Draft.extentTo_kept hfaithful (hfaithful.advanceAll tags) (by simp) ?_ name
  have hbefore := h.accounted (by simp [hresume])
  rw [Draft.advanceAll_source, Draft.advanceAll_tags]
  rcases Machine.plan_place hplan with rfl | hplaced
  · simpa using hbefore
  · exact hbefore.place (hplaced.replay hfaithful)

variable [Stepper σ]

theorem obey_extent (h : c.Sound source bases) {value : Option Extent}
    (hresume : c.flow = .resume value) {a : Attempt}
    (hobey : m.obey c top rest (.attempt a) false = .ok c')
    (hvalue : c'.flow = .resume (some extent)) : extent.Tells a.verb.policy.keeps c'.tape := by
  simp only [Machine.obey] at hobey
  rcases hplan : m.plan c.tape top a false with outcome | plan
  · simp [hplan] at hobey
  simp only [hplan] at hobey
  cases plan with
  | miss emptied =>
      cases hobey
      dsimp only at hvalue
      split at hvalue <;> cases hvalue
  | enter e =>
      rcases Config.enter_ok hobey with ⟨-, tape, -, rfl⟩ | ⟨-, rfl⟩ <;> cases hvalue
  | place tags placed =>
      cases hobey
      rcases placed with _ | ⟨name, stop⟩
      · cases hvalue
      have hkept := h.placed_kept hresume name hplan
      obtain rfl := Machine.plan_stop hplan
      have htext : c.tape.textBetween c.tape.position (c.tape.advanceAll tags).position =
          (c.tape.extentTo (c.tape.advanceAll tags) name).text := by
        rw [Draft.extentTo, Draft.textBetween, Draft.textBetween, Draft.advanceAll_source]
      simp only [Config.next, Bool.false_eq_true, if_false, Option.map_some, htext,
        Flow.resume.injEq, Option.some.injEq] at hvalue
      subst hvalue
      cases hkeeps : a.verb.policy.keeps with
      | true =>
          simp only [Extent.Tells, if_true]
          exact hkept
      | false =>
          simp only [Extent.Tells, Bool.false_eq_true, if_false]
          have hquotes := hkept.quotes
          rw [Draft.advanceAll_source] at hquotes
          exact ⟨rfl, hquotes⟩

theorem finishTop_eq (h : c.Sound source bases) (hframes : c.frames = top :: below :: rest)
    {failed failing : Bool} (hfailing : top.fails failed c.tape.position = failing) :
    c.finishTop top (below :: rest) failed =
      (top.finish (c.tape.advanceAll (top.closing failing))).map fun cleaned => { c with
        frames := below :: rest
        tape := top.settle failing cleaned
        flow := top.flowBelow below failing
          (top.valueAt failing (c.tape.advanceAll (top.closing failing)))
        emptied := if failing && !failed then some top.nodeType else c.emptied } := by
  have hlayers := h.layers
  rw [hframes] at hlayers
  have hparent : top.parent.isNone = false := by
    cases hlayers with
    | cons _ _ _ hparent => simp [hparent]
  simp only [Config.finishTop, hfailing, hlayers.running, Option.isSome_none, Bool.and_false,
    Bool.false_eq_true, if_false, hparent]
  rcases top.finish (c.tape.advanceAll (top.closing failing)) with halt | cleaned
  · rfl
  · exact Config.resumeBelow_cons rfl top _ failing

theorem finishTop_extent (h : c.Sound source bases) {failed : Bool}
    (hflow : c.flow = .complete failed) (hframes : c.frames = top :: below :: rest)
    (hfinish : c.finishTop top (below :: rest) failed = .ok c')
    (hvalue : c'.flow = .resume (some extent)) : extent.Tells top.policy.keeps c'.tape := by
  have hlayers := h.layers
  have hopened := h.opened
  rw [hframes] at hlayers hopened
  rw [h.finishTop_eq hframes rfl] at hfinish
  generalize hfailing : top.fails failed c.tape.position = failing at hfinish
  rcases hcleaned : top.finish (c.tape.advanceAll (top.closing failing)) with halt | cleaned
  · simp [hcleaned, Except.map] at hfinish
  simp only [hcleaned, Except.map, Except.ok.injEq] at hfinish
  subst hfinish
  -- A frame that fails hands no range on.
  have hsuccess : failing = false := by
    cases failing with
    | false => rfl
    | true =>
        simp only [Frame.flowBelow, Frame.valueAt, if_true] at hvalue
        split at hvalue
        · cases hvalue
        · split at hvalue <;> cases hvalue
  subst hsuccess
  have hfailed : failed = false := by
    simp only [Frame.fails, Bool.or_eq_false_iff] at hfailing
    exact hfailing.1
  cases hlayers with
  | @cons _ _ _ base _ bases hbelow hover hdepth hparent hmono hbase hfaithful =>
      have hfragment : top.isFragment = false := by simp [Frame.isFragment, hdepth]
      have hsilent := Frame.finish_silent hcleaned
      have hclosed := over_closing hover (hopened top List.mem_cons_self) hfragment false
      have hbegun := h.begun (by simp [hflow, hfailed])
      rw [hframes] at hbegun
      have htaken := (begun_closing hbegun hfragment).accounted
      have hfaithful' := hfaithful.advanceAll (top.closing false)
      have hkept := Draft.extentTo_kept hbelow.faithful hfaithful' hclosed.grown.tags
        (by rwa [Draft.advanceAll_source, h.layers.source_eq]) top.slot.name
      obtain rfl :
          base.extentTo (c.tape.advanceAll (top.closing false)) top.slot.name = extent := by
        simp only [Frame.flowBelow, hclosed.valueAt_eq hbelow.faithful hfaithful',
          Bool.false_and, Bool.false_eq_true, if_false] at hvalue
        split at hvalue
        · cases hvalue
        · cases hvalue
          rfl
      cases settled (hclosed.silent hsilent) false with
      | undone _ hundone htape =>
          have hkeeps : top.policy.keeps = false := by simpa using hundone
          simp only [Extent.Tells, hkeeps, Bool.false_eq_true, if_false, htape]
          refine ⟨rfl, ?_⟩
          rw [← hclosed.grown.source]
          exact hkept.quotes
      | kept hkeeps _ hgrown htags hposition _ _ =>
          simp only [Extent.Tells, hkeeps, if_true]
          refine hkept.congr ?_ ?_ ?_
          · exact hgrown.source.trans hsilent.extends'.source
          · exact htags.trans hsilent.tags
          · exact hposition.trans hsilent.position

end Config.Sound

/-- The start of the outermost frame. -/
def outermostStart (frames : List (Frame σ n)) : Option Mark :=
  frames.getLast?.bind (·.capture.start)

@[simp] theorem outermostStart_cons (f g : Frame σ n) (rest : List (Frame σ n)) :
    outermostStart (f :: g :: rest) = outermostStart (g :: rest) := by
  simp [outermostStart]

theorem outermostStart_replaceTop {f g : Frame σ n} {rest : List (Frame σ n)} {start : Mark}
    (h : outermostStart (f :: rest) = some start) (hsame : g.capture.start = f.capture.start) :
    outermostStart (g :: rest) = some start := by
  cases rest with
  | nil => exact hsame.trans h
  | cons below rest =>
      rw [outermostStart_cons] at h ⊢
      exact h

theorem outermostStart_recordStart {mark start : Mark} {frames : List (Frame σ n)}
    (h : outermostStart frames = some start) :
    outermostStart (Stack.recordStart mark frames) = some start := by
  induction frames with
  | nil => cases h
  | cons f rest ih =>
      rcases hstart : f.capture.start with _ | recorded
      · cases rest with
        | nil => simp [outermostStart, hstart] at h
        | cons g rest =>
            rw [outermostStart_cons] at h
            have hrecorded := ih h
            rw [Stack.recordStart_unstarted _ _ hstart]
            rcases hbelow : Stack.recordStart mark (g :: rest) with _ | ⟨g', rest'⟩
            · rw [hbelow] at hrecorded
              cases hrecorded
            · rw [hbelow] at hrecorded
              rw [outermostStart_cons, hrecorded]
      · rw [Stack.recordStart_started _ _ (by simp [hstart])]
        exact h

theorem outermostStart_captured {mark start : Mark} (tags : List Tag) {frames : List (Frame σ n)}
    (h : outermostStart frames = some start) :
    outermostStart (captured mark tags frames) = some start := by
  unfold captured
  split
  · exact h
  · exact outermostStart_recordStart h

section Outermost

variable [Stepper σ] {m : Machine σ n} {source : Source} {bases : List Draft} {c c' : Config σ n}
  {top : Frame σ n} {rest : List (Frame σ n)} {start : Mark}

theorem Machine.Carried.outermostStart_eq (h : m.Carried c top rest c')
    (hframes : c.frames = top :: rest) (hstart : outermostStart c.frames = some start) :
    outermostStart c'.frames = some start := by
  cases h with
  | silent => exact hstart
  | placed => exact outermostStart_captured _ hstart
  | @entered _ _ e _ hfits hentered =>
      rw [hframes] at hstart
      rcases Config.enter_ok hentered with ⟨-, tape, -, rfl⟩ | ⟨-, rfl⟩
      · apply outermostStart_captured
        exact outermostStart_replaceTop hstart rfl
      · apply outermostStart_captured
        rw [outermostStart_cons]
        exact outermostStart_replaceTop hstart rfl

theorem Config.Sound.outermostStart_eq (h : c.Sound source bases) (hmove : m.move c = .ok c')
    (hstart : outermostStart c.frames = some start) : outermostStart c'.frames = some start := by
  unfold Machine.move at hmove
  rcases hframes : c.frames with _ | ⟨top, rest⟩
  · simp [hframes] at hmove
  rcases hflow : c.flow with value | failed
  · simp only [hframes, hflow] at hmove
    obtain ⟨production, hcarried⟩ := Machine.stepTop_ok hmove
    rw [hframes] at hstart
    exact hcarried.outermostStart_eq rfl (outermostStart_replaceTop hstart rfl)
  · simp only [hframes, hflow] at hmove
    obtain ⟨base, bases', _, _, -, hsound, hleft⟩ := h.finishTop hflow hframes hmove
    rw [hleft.frames]
    rcases rest with _ | ⟨below, rest⟩
    · have hlayers := hsound.layers
      rw [hleft.frames] at hlayers
      cases hlayers
    · rw [hframes, outermostStart_cons] at hstart
      exact hstart

/-- The range of an accepted run. -/
structure Extent.Whole (e : Extent) (source : Source) (d : Draft) : Prop where
  kept : e.Kept d
  start : e.start = {}
  stop : e.stop = source.stop
  text : e.text = source.text
  /-- All tags lie in the range, but for the first one. -/
  tags : ∃ url attributes, d.tags.toList = .doctype url attributes :: e.tagsIn d.tags.toList

omit [Stepper σ] in
theorem Stream.Begun.exists_doctype {depth : Nat} {tags : List Tag}
    (h : Stream.Begun source depth tags) : ∃ url rest, tags = .doctype url [] :: rest := by
  induction h with
  | start url traits => exact ⟨url, _, rfl⟩
  | place _ _ ih | shift _ _ _ ih | openNode _ _ _ _ _ _ ih | closeNode _ ih =>
      obtain ⟨url, rest, rfl⟩ := ih
      exact ⟨url, _, rfl⟩

omit [Stepper σ] in
theorem Config.conclude_accepted {d : Draft} {left offset : Nat} {value : Option Extent}
    {failing : Bool} {emptied : Option String} {extent : Extent}
    (h : Config.conclude d left value failing emptied offset = .accepted extent) :
    failing = false ∧ d.cursor.done = true ∧ value = some extent := by
  unfold Config.conclude at h
  split at h
  · cases h
  split at h
  · cases h
  split at h
  · split at h <;> cases h
  · rename_i hsuccess
    split at h
    · cases h
    · rename_i hdone
      split at h
      · cases h
        exact ⟨by simpa using hsuccess, by simpa using hdone, rfl⟩
      · cases h

theorem Extent.Kept.whole {e : Extent} {d : Draft} (h : e.Kept d) (hstart : e.start = {})
    (hstop : d.position = d.source.stop) (hfirst : e.firstTag = 1) {url : String}
    {attributes : Fields} {rest : List Tag}
    (htags : d.tags.toList = .doctype url attributes :: rest) :
    e.Whole d.source d := by
  have hend := h.stop.trans hstop
  refine ⟨h, hstart, hend, ?_, url, attributes, ?_⟩
  · have hquotes := h.quotes
    have hall := Text.slice?_size_append [] d.source.chars []
    simp only [List.nil_append, List.append_nil, ← d.source.size_eq] at hall
    rw [Extent.Quotes, hstart, hend] at hquotes
    have hchars : d.source.chars = e.text.toList := Option.some.inj (hall.symm.trans hquotes)
    rw [Source.text, hchars, String.ofList_toList]
  · rw [Extent.tagsIn, h.lastTag, hfirst, ← Array.length_toList, List.take_length, htags]
    rfl

theorem Config.Sound.finishTop_accepted (h : c.Sound source bases) {failed : Bool}
    (hframes : c.frames = [top]) {d : Draft} {extent : Extent}
    (hfinish : c.finishTop top [] failed = .error (d, .accepted extent)) :
    failed = false ∧ (c.tape.advanceAll [.closeFragment]).Silent d ∧ d.cursor.done = true ∧
      top.valueAt false (c.tape.advanceAll [.closeFragment]) = some extent := by
  have hlayers := h.layers
  rw [hframes] at hlayers
  cases hlayers with
  | fragment hdepth hparent hnode hbranched _ hstop _ _ _ =>
      have hsettle : ∀ failing d, top.settle failing d = d := by
        intro failing d
        simp [Frame.settle, hbranched]
      simp only [Config.finishTop, hstop, Option.isSome_none, Bool.and_false, Bool.false_eq_true,
        if_false, hparent, Option.isNone_none, if_true, hsettle] at hfinish
      generalize hfailing : top.fails failed c.tape.position = failing at hfinish
      rcases hcleaned : top.finish (c.tape.advanceAll (top.closing failing)) with
        ⟨d', cause⟩ | cleaned
      · simp only [hcleaned, Except.error.injEq, Prod.mk.injEq] at hfinish
        obtain ⟨-, rfl⟩ := hfinish
        cases Frame.finish_error hcleaned
      · simp only [hcleaned, Except.error.injEq, Prod.mk.injEq] at hfinish
        obtain ⟨rfl, hend⟩ := hfinish
        obtain ⟨rfl, hdone, hvalue⟩ := Config.conclude_accepted hend
        have hclosing : top.closing false = [.closeFragment] := by
          simp [Frame.closing, hnode, Frame.isFragment, hdepth]
        rw [hclosing] at hcleaned hvalue
        simp only [Frame.fails, Bool.or_eq_false_iff] at hfailing
        exact ⟨hfailing.1, Frame.finish_silent hcleaned, hdone, hvalue⟩

theorem Config.Sound.finishTop_whole (h : c.Sound source bases) {failed : Bool}
    (hflow : c.flow = .complete failed) (hframes : c.frames = [top])
    (hstart : outermostStart c.frames = some ⟨1, {}⟩) {d : Draft} {extent : Extent}
    (hfinish : c.finishTop top [] failed = .error (d, .accepted extent)) :
    extent.Whole source d := by
  obtain ⟨rfl, hsilent, hdone, hvalue⟩ := h.finishTop_accepted hframes hfinish
  have hsource := h.layers.source_eq
  have hbegun := h.begun (by simp [hflow])
  obtain ⟨url, rest, htags⟩ := hbegun.exists_doctype
  -- The range begins on the tape on which nothing but the first tag was written.
  have hbase : (Draft.replay source [.doctype url []]).Faithful :=
    Draft.Faithful.advanceAll ⟨rfl, rfl⟩ _
  have hgrown : (Draft.replay source [.doctype url []]).tags.toList <+:
      (c.tape.advanceAll [.closeFragment]).tags.toList := by
    rw [Draft.replay_tags, Draft.advanceAll_tags, htags]
    exact ⟨rest ++ [.closeFragment], rfl⟩
  have htaken : Stream.Accounted (c.tape.advanceAll [.closeFragment]).source
      (c.tape.advanceAll [.closeFragment]).tags.toList := by
    rw [Draft.advanceAll_source, hsource, Draft.advanceAll_tags]
    exact hbegun.accounted.append_silent rfl
  have hkept := Draft.extentTo_kept hbase (h.layers.faithful.advanceAll _) hgrown htaken
    top.slot.name
  obtain rfl : Draft.extentTo (Draft.replay source [.doctype url []])
      (c.tape.advanceAll [.closeFragment]) top.slot.name = extent := by
    rw [hframes] at hstart
    change top.capture.start = _ at hstart
    simp only [Frame.valueAt, Bool.false_eq_true, if_false, hstart, Option.getD_some,
      Option.some.injEq] at hvalue
    exact hvalue
  have hsource' : d.source = source := by
    rw [hsilent.extends'.source, Draft.advanceAll_source, hsource]
  have htags' : d.tags.toList = .doctype url [] :: (rest ++ [.closeFragment]) := by
    rw [hsilent.tags, Draft.advanceAll_tags, htags, List.cons_append]
  rw [← hsource']
  exact (hkept.congr hsilent.extends'.source hsilent.tags hsilent.position).whole rfl
    (of_decide_eq_true hdone) rfl htags'

end Outermost

namespace Machine

variable [Stepper σ] {m : Machine σ n} {source : Source} {props : Option Json} {r : Run σ n Draft}
  {top : Frame σ n} {rest : List (Frame σ n)} {extent : Extent} {step : Step}
  {production : Production σ}

theorem Reaches.outermostStart (h : m.Reaches (Draft.fresh source) props r) :
    GrammarMachine.outermostStart r.config.frames = some ⟨1, {}⟩ := by
  refine h.induction ?_ ?_
  · intro first hfirst
    rw [config_start hfirst]
    rfl
  · intro r r' hr ih hstep
    obtain ⟨bases, hsound, -⟩ := hr.based
    exact hsound.outermostStart_eq (move_of_step hstep) ih

omit [Stepper σ] in
theorem isHold_of_plan {d : Draft} {a : Attempt} {p : Plan σ n}
    (h : m.plan d top a false = .ok p) : a.verb.isHold = false := by
  rw [plan_eq] at h
  split at h
  · cases h
  · rename_i hhold
    simpa using hhold

theorem move_of_stepping {value : Option Extent} {i : Instruction} (m : Machine σ n)
    (h : r.Stepping top rest value (.yield i) production) :
    m.move r.config = m.obey
      { r.config with frames := { top.bare with production } :: rest.map Frame.bare }
      { top.bare with production } (rest.map Frame.bare) i false := by
  have hflow : r.config.flow = .resume value := h.flow
  have hstep : top.bare.production.step r.config.tape.cursor value = (.yield i, production) :=
    h.step
  simp only [move, Run.config_cons h.frames, hflow, stepTop, hstep]

theorem Reaches.tells_inPlace {asked : Run σ n Draft} {input : Option Extent} {a : Attempt}
    (h : m.Reaches (Draft.fresh source) props asked)
    (hstepping : asked.Stepping top rest input (.yield (.attempt a)) production)
    (hstep : m.step asked = .ok r) (hvalue : r.flow = .resume (some extent)) :
    a.verb.isHold = false ∧ extent.Tells a.verb.policy.keeps r.tape := by
  obtain ⟨bases, hsound, -⟩ := h.based
  have hmove := move_of_step hstep
  rw [move_of_stepping m hstepping] at hmove
  refine ⟨?_, ?_⟩
  · simp only [obey] at hmove
    split at hmove
    · cases hmove
    · rename_i plan hplan
      exact isHold_of_plan hplan
  · have hsound' := hsound.withProduction (Run.config_cons hstepping.frames) production
    exact hsound'.obey_extent hstepping.flow hmove hvalue

theorem Reaches.tells_byRule {asked r' : Run σ n Draft} {input : Option Extent} {a : Attempt}
    {count : Nat} {f : Frame σ n} {low : List (Frame σ n)} {failed : Bool}
    (h : m.Reaches (Draft.fresh source) props asked)
    (hstepping : asked.Stepping top rest input (.yield (.attempt a)) production)
    (hput : m.Put asked count r') (hframes : r'.stack.frames = f :: low)
    (hlength : low.length = asked.stack.size) (hflow : r'.flow = .complete failed)
    (hstep : m.step r' = .ok r) (hvalue : r.flow = .resume (some extent)) :
    a.verb.isHold = false ∧ extent.Tells a.verb.policy.keeps r.tape := by
  rcases low with _ | ⟨below, low⟩
  · simp [Stack.size, hstepping.frames] at hlength
  obtain ⟨top', rest', a', tail, production', e, hpushes, hpolicy, -, -⟩ :=
    hput.asked h hframes hlength
  obtain ⟨input', hstepping'⟩ := hpushes.stepping
  obtain ⟨rfl, rfl, rfl, hasked, rfl⟩ := hstepping.unique hstepping'
  cases tail with
  | true => cases hasked
  | false =>
      cases hasked
      refine ⟨isHold_of_plan hpushes.plan, ?_⟩
      obtain ⟨bases, hsound, -⟩ := (hput.reaches h).based
      have hmove := move_of_step hstep
      rw [move_of_complete m hframes hflow] at hmove
      rw [← hpolicy]
      exact hsound.finishTop_extent hflow (Run.config_cons hframes) hmove hvalue

/-- A range that a production is given tells the truth about the instruction it asked for. -/
theorem Reaches.extent_tells (h : m.Reaches (Draft.fresh source) props r)
    (hstepping : r.Stepping top rest (some extent) step production) :
    ∃ asked caller below input a production', m.Reaches (Draft.fresh source) props asked ∧
      asked.Stepping caller below input (.yield (.attempt a)) production' ∧
      caller.serial = top.serial ∧ m.Answered asked caller (.attempt a) true r ∧
      a.verb.isHold = false ∧ extent.Tells a.verb.policy.keeps r.tape := by
  rcases h.active hstepping.frames with ⟨-, hflow⟩ | ⟨-, failed, hflow⟩ |
    ⟨asked, caller, below, input, i, production', succeeded, hasked, hstepping', hserial,
      hanswered⟩
  · cases hstepping.flow.symm.trans hflow
  · cases hstepping.flow.symm.trans hflow
  · obtain ⟨-, -, hanswers⟩ := hanswered.answers hasked hstepping'
    rw [hstepping.flow] at hanswers
    obtain ⟨hsucceeded, hvalued⟩ : succeeded = true ∧ m.asksValue caller i = true := by
      simpa using hanswers.2.symm
    cases i with
    | attempt a =>
        refine ⟨asked, caller, below, input, a, production', hasked, hstepping', hserial,
          hsucceeded ▸ hanswered, ?_⟩
        cases hanswered with
        | inPlace hstep _ => exact hasked.tells_inPlace hstepping' hstep hstepping.flow
        | byRule hput hframes hlength hflow hstep =>
            exact hasked.tells_byRule hstepping' hput hframes hlength hflow hstep hstepping.flow
    | _ => cases hvalued

theorem Reaches.extent_whole (h : m.Reaches (Draft.fresh source) props r) {halt : Halt σ n Draft}
    (hstep : m.step r = .error halt) (haccepted : halt.outcome = .accepted extent) :
    extent.Whole source halt.run.tape := by
  obtain ⟨top, failed, hframes, hflow, -⟩ := (h.ending hstep).outermost (by rw [haccepted]; rfl)
  obtain ⟨bases, hsound, -⟩ := h.based
  have hmove := move_of_halt hstep
  rw [move_of_complete m hframes hflow, haccepted] at hmove
  exact hsound.finishTop_whole hflow (Run.config_cons hframes) h.outermostStart hmove

/-- The ranges of matches tell the truth. A production that is given a range has asked for the match
before; if it is kept, the range is that of the tags written for it, and if not, the tape is where
it was. The range of an accepted run is the whole input. -/
theorem run_extents (m : Machine σ n) (source : Source) (props : Option Json) :
    (∀ r top rest extent step production, m.Reaches (Draft.fresh source) props r →
      r.Stepping top rest (some extent) step production →
      ∃ asked caller below input a production', m.Reaches (Draft.fresh source) props asked ∧
        asked.Stepping caller below input (.yield (.attempt a)) production' ∧
        caller.serial = top.serial ∧ m.Answered asked caller (.attempt a) true r ∧
        a.verb.isHold = false ∧ extent.Tells a.verb.policy.keeps r.tape) ∧
    ∀ fuel halt extent, m.run (Draft.fresh source) props fuel = some halt →
      halt.outcome = .accepted extent → extent.Whole source halt.run.tape := by
  refine ⟨?_, ?_⟩
  · intro r top rest extent step production hr hstepping
    exact hr.extent_tells hstepping
  · intro fuel halt extent hrun haccepted
    rcases run_ends hrun with hstart | ⟨r, hr, hstep⟩
    · have hordinary := (start_error hstart).2
      rw [haccepted] at hordinary
      cases hordinary
    · exact hr.extent_whole hstep haccepted

/-- A word whose rest is looked at before it is read. -/
theorem run_extents_wordReader :
    let m := wordReader [.peek (.literal "b"), .eat (.literal "b")]
    let tape := Draft.fresh (.ofSegments [some "ab"])
    (∃ r top rest extent step production, ∃ a : Attempt, m.Reaches tape none r ∧
      r.Stepping top rest (some extent) step production ∧ extent.text = "b" ∧
      a.verb.isHold = false ∧ extent.Tells a.verb.policy.keeps r.tape) ∧
    ∃ halt extent, m.run tape none 9 = some halt ∧ halt.outcome = .accepted extent ∧
      extent.Whole (.ofSegments [some "ab"]) halt.run.tape := by
  obtain ⟨r, top, rest, extent, step, production, hr, hstepping, htext⟩ :
      ∃ r top rest extent step production,
        (wordReader [.peek (.literal "b"), .eat (.literal "b")]).stateAt?
          (.ofSegments [some "ab"]) 4 = some r ∧
        r.Stepping top rest (some extent) step production ∧ extent.text = "b" :=
    ⟨_, _, _, _, _, _, rfl, ⟨rfl, rfl, rfl⟩, rfl⟩
  obtain ⟨halt, extent', hrun, haccepted⟩ : ∃ halt extent',
      (wordReader [.peek (.literal "b"), .eat (.literal "b")]).run
        (Draft.fresh (.ofSegments [some "ab"])) none 9 = some halt ∧
      halt.outcome = .accepted extent' := ⟨_, _, rfl, rfl⟩
  obtain ⟨hextents, hwhole⟩ := run_extents (wordReader [.peek (.literal "b"), .eat (.literal "b")])
    (.ofSegments [some "ab"]) none
  have hreaches := reaches_of_stateAt? hr
  obtain ⟨_, _, _, _, a, _, -, -, -, -, hhold, htells⟩ :=
    hextents r top rest extent step production hreaches hstepping
  exact ⟨⟨r, top, rest, extent, step, production, a, hreaches, hstepping, htext, hhold, htells⟩,
    halt, extent', hrun, haccepted, hwhole 9 halt extent' hrun haccepted⟩

end Machine

end GrammarMachine
