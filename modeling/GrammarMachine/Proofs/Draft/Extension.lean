import GrammarMachine.Draft.Basic

/-!
How drafts grow. Writing only ever adds to a draft, so a branch that remembers how much there was is
undone by cutting the draft back.
-/

namespace GrammarMachine.Draft

def advanceAll (d : Draft) (tags : List Tag) : Draft :=
  tags.foldl advance d

/-- The draft in which the given tags have been written over an untouched input. -/
def replay (source : Source) (tags : List Tag) : Draft :=
  (fresh source).advanceAll tags

/-- What `d` holds was added to what `base` holds. Open spans may also be closed. -/
structure Extends (base d : Draft) : Prop where
  source : d.source = base.source
  language : d.language = base.language
  tags : base.tags.toList <+: d.tags.toList
  writes : base.writes.toList <+: d.writes.toList
  bindings : base.bindings.toList <+: d.bindings.toList

/-- Nothing was written but side effects: the tags, the position and the branches are the same. -/
structure Silent (d d' : Draft) : Prop where
  extends' : d.Extends d'
  tags : d'.tags = d.tags
  position : d'.position = d.position
  opened : d'.opened = d.opened
  branches : d'.branches = d.branches

/-- The position and the open nodes are those that the tags lead to. -/
structure Faithful (d : Draft) : Prop where
  position : d.position = (replay d.source d.tags.toList).position
  opened : d.opened = (replay d.source d.tags.toList).opened

@[simp] theorem advanceAll_nil (d : Draft) : d.advanceAll [] = d := rfl

@[simp] theorem advanceAll_cons (d : Draft) (tag : Tag) (tags : List Tag) :
    d.advanceAll (tag :: tags) = (d.advance tag).advanceAll tags := rfl

theorem advanceAll_append (d : Draft) (tags more : List Tag) :
    d.advanceAll (tags ++ more) = (d.advanceAll tags).advanceAll more := by
  simp [advanceAll]

theorem replay_append (source : Source) (tags more : List Tag) :
    replay source (tags ++ more) = (replay source tags).advanceAll more :=
  advanceAll_append _ _ _

theorem advanceAll_eq (d : Draft) (tags : List Tag) :
    d.advanceAll tags =
      { d with
        position := (d.advanceAll tags).position
        opened := (d.advanceAll tags).opened
        tags := (d.advanceAll tags).tags } := by
  induction tags generalizing d with
  | nil => rfl
  | cons tag tags ih =>
      rw [advanceAll_cons, ih]
      rfl

@[simp] theorem advanceAll_source (d : Draft) (tags : List Tag) :
    (d.advanceAll tags).source = d.source := by
  rw [advanceAll_eq]

@[simp] theorem advanceAll_language (d : Draft) (tags : List Tag) :
    (d.advanceAll tags).language = d.language := by
  rw [advanceAll_eq]

@[simp] theorem advanceAll_writes (d : Draft) (tags : List Tag) :
    (d.advanceAll tags).writes = d.writes := by
  rw [advanceAll_eq]

@[simp] theorem advanceAll_bindings (d : Draft) (tags : List Tag) :
    (d.advanceAll tags).bindings = d.bindings := by
  rw [advanceAll_eq]

@[simp] theorem advanceAll_branches (d : Draft) (tags : List Tag) :
    (d.advanceAll tags).branches = d.branches := by
  rw [advanceAll_eq]

@[simp] theorem advanceAll_tags (d : Draft) (tags : List Tag) :
    (d.advanceAll tags).tags.toList = d.tags.toList ++ tags := by
  induction tags generalizing d with
  | nil => simp
  | cons tag tags ih => simp [ih, advance]

@[simp] theorem replay_source (source : Source) (tags : List Tag) :
    (replay source tags).source = source :=
  advanceAll_source _ _

@[simp] theorem replay_tags (source : Source) (tags : List Tag) :
    (replay source tags).tags.toList = tags := by
  simp [replay, fresh]

/-- Where tags lead depends only on the position, the open nodes and the number of tags before. -/
theorem advanceAll_agree {d e : Draft} (hposition : d.position = e.position)
    (hopened : d.opened = e.opened) (hsize : d.tags.size = e.tags.size) (tags : List Tag) :
    (d.advanceAll tags).position = (e.advanceAll tags).position ∧
      (d.advanceAll tags).opened = (e.advanceAll tags).opened := by
  induction tags generalizing d e with
  | nil => exact ⟨hposition, hopened⟩
  | cons tag tags ih =>
      apply ih
      · simp [advance, hposition]
      · simp [advance, hopened, hsize]
      · simp [advance, hsize]

theorem Faithful.advanceAll {d : Draft} (h : d.Faithful) (tags : List Tag) :
    (d.advanceAll tags).Faithful := by
  have hsize : d.tags.size = (replay d.source d.tags.toList).tags.size := by
    rw [← Array.length_toList, ← Array.length_toList, replay_tags]
  obtain ⟨hposition, hopened⟩ := advanceAll_agree h.position h.opened hsize tags
  refine ⟨?_, ?_⟩
  · rw [advanceAll_source, advanceAll_tags, replay_append]
    exact hposition
  · rw [advanceAll_source, advanceAll_tags, replay_append]
    exact hopened

theorem Faithful.congr {d e : Draft} (hd : d.Faithful) (he : e.Faithful)
    (hsource : d.source = e.source) (htags : d.tags = e.tags) :
    d.position = e.position ∧ d.opened = e.opened := by
  refine ⟨?_, ?_⟩
  · rw [hd.position, he.position, hsource, htags]
  · rw [hd.opened, he.opened, hsource, htags]

/-- A faithful draft looks to the machine like the replay of its tags. -/
theorem Faithful.views {d : Draft} (h : d.Faithful) :
    let e := replay d.source d.tags.toList
    (∀ r, Tape.recognize e r = Tape.recognize d r) ∧ Tape.cursor e = Tape.cursor d ∧
      Tape.lastTag? e = Tape.lastTag? d ∧
      ∀ name, Tape.hasReference e name = Tape.hasReference d name := by
  intro e
  have hsource : e.source = d.source := replay_source _ _
  have htags : e.tags = d.tags := Array.toList_inj.mp (replay_tags _ _)
  have hposition : e.position = d.position := h.position.symm
  have hopened : e.opened = d.opened := h.opened.symm
  refine ⟨?_, ?_, ?_, ?_⟩
  · intro r
    change e.window.map r.read? = d.window.map r.read?
    simp only [window, nextGap?, hsource, hposition]
  · change e.cursor = d.cursor
    unfold cursor nextGap?
    rw [hsource, hposition]
  · exact congrArg Array.back? htags
  · intro name
    change e.hasReference name = d.hasReference name
    simp only [hasReference, hopened]

namespace Extends

theorem refl (d : Draft) : d.Extends d :=
  ⟨rfl, rfl, List.prefix_refl _, List.prefix_refl _, List.prefix_refl _⟩

theorem trans {a b c : Draft} (hab : a.Extends b) (hbc : b.Extends c) : a.Extends c :=
  ⟨hbc.source.trans hab.source, hbc.language.trans hab.language, hab.tags.trans hbc.tags,
    hab.writes.trans hbc.writes, hab.bindings.trans hbc.bindings⟩

theorem advanceAll (d : Draft) (tags : List Tag) : d.Extends (d.advanceAll tags) :=
  ⟨by simp, by simp, by simp, by simp, by simp⟩

theorem of_branches {a b : Draft} (h : a.Extends b) (branches branches' : List Snapshot) :
    ({ a with branches } : Draft).Extends { b with branches := branches' } :=
  ⟨h.source, h.language, h.tags, h.writes, h.bindings⟩

end Extends

namespace Silent

theorem refl (d : Draft) : d.Silent d :=
  ⟨.refl d, rfl, rfl, rfl, rfl⟩

theorem trans {a b c : Draft} (hab : a.Silent b) (hbc : b.Silent c) : a.Silent c :=
  ⟨hab.extends'.trans hbc.extends', hbc.tags.trans hab.tags, hbc.position.trans hab.position,
    hbc.opened.trans hab.opened, hbc.branches.trans hab.branches⟩

theorem faithful {d d' : Draft} (h : d.Silent d') (hd : d.Faithful) : d'.Faithful := by
  refine ⟨?_, ?_⟩
  · rw [h.position, h.tags, h.extends'.source]
    exact hd.position
  · rw [h.opened, h.tags, h.extends'.source]
    exact hd.opened

theorem perform_write (d : Draft) (text : String) (options : Option Json) :
    d.Silent (d.perform (.write text options)) :=
  ⟨⟨rfl, rfl, List.prefix_refl _, by simp [perform], List.prefix_refl _⟩, rfl, rfl, rfl, rfl⟩

theorem perform_openSpan (d : Draft) (name : String) : d.Silent (d.perform (.openSpan name)) :=
  ⟨⟨rfl, rfl, List.prefix_refl _, List.prefix_refl _, List.prefix_refl _⟩, rfl, rfl, rfl, rfl⟩

theorem perform_closeSpan (d : Draft) (name : String) : d.Silent (d.perform (.closeSpan name)) :=
  ⟨⟨rfl, rfl, List.prefix_refl _, List.prefix_refl _, List.prefix_refl _⟩, rfl, rfl, rfl, rfl⟩

theorem perform_bind (d : Draft) (key : String) (value : Json) :
    d.Silent (d.perform (.bind key value)) := by
  change d.Silent (d.bind key value)
  unfold bind
  split
  · exact ⟨⟨rfl, rfl, List.prefix_refl _, List.prefix_refl _, by simp⟩, rfl, rfl, rfl, rfl⟩
  · exact refl d

end Silent

theorem shrink_eq_of_isPrefix {α : Type} {small large : Array α}
    (h : small.toList <+: large.toList) : large.shrink small.size = small := by
  apply Array.toList_inj.mp
  rw [Array.toList_shrink, ← Array.length_toList]
  exact (List.prefix_iff_eq_take.mp h).symm

theorem restore_snapshot {base d : Draft} (h : base.Extends d) :
    d.restore base.snapshot = { base with branches := d.branches } := by
  have htags := shrink_eq_of_isPrefix h.tags
  have hwrites := shrink_eq_of_isPrefix h.writes
  have hbindings := shrink_eq_of_isPrefix h.bindings
  simp only [restore, snapshot, htags, hwrites, hbindings, h.source, h.language]

theorem reject_eq {base d : Draft} (h : base.Extends d)
    (hbranches : d.branches = base.snapshot :: base.branches) : d.reject = base := by
  simp only [reject, hbranches, restore_snapshot h]

end GrammarMachine.Draft
