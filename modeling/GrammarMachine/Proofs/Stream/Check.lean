import GrammarMachine.Proofs.Stream.Begun
import GrammarMachine.Proofs.Tree.Pushed
import GrammarMachine.Stream.Basic

/-!
When streams are in order. A stream passes every check exactly if it describes a tree. A stream that
a parse has finished describes a tree exactly if each of its shifts is followed by the node that
adopts the shifted value.
-/

namespace GrammarMachine

namespace Builder

theorem push_reference_pending {b b' : Builder} {index : Nat} {slot : Slot}
    (h : b.push index (.reference slot) = .ok b') :
    b'.pending = some ⟨slot.name, slot.isArray⟩ := by
  cases push_cases h with
  | reference => rfl
  | part hpart => cases hpart

theorem push_shift_shifted {b b' : Builder} {index : Nat} {name : String}
    (h : b.push index (.shift name) = .ok b') : b'.shifted.isSome = true := by
  cases push_cases h with
  | part hpart => cases hpart
  | shift => rfl

theorem push_arrayStart_pending {b b' : Builder} {index : Nat}
    (h : b.push index .arrayStart = .ok b') : ∃ name, b.pending = some ⟨name, true⟩ := by
  cases push_cases h with
  | part hpart =>
      obtain ⟨⟨name, isArray⟩, hpending, harray⟩ := Option.bind_eq_some_iff.mp hpart
      obtain ⟨rfl, -⟩ := Option.ite_none_right_eq_some.mp harray
      exact ⟨name, hpending⟩

theorem pushAll_begin {b : Builder} {tags : List Tag} (h : ({} : Builder).pushAll 0 tags = .ok b)
    (hresult : b.result.isSome = true) :
    ∃ language attributes traits rest,
      tags = .doctype language attributes :: .openFragment traits :: rest := by
  rcases tags with _ | ⟨first, tags⟩
  · cases h
    cases hresult
  obtain ⟨b₁, h₁, h⟩ := pushAll_cons_ok h
  obtain ⟨language, attributes, rfl, rfl⟩ : ∃ language attributes,
      first = .doctype language attributes ∧ b₁ = { language := some language } := by
    cases first with
    | doctype language attributes =>
        simp [push, refusal?, setDoctype] at h₁
        exact ⟨language, attributes, rfl, h₁.symm⟩
    | _ =>
        simp [push, refusal?, openFragment, closeFragment, openNode, closeNode, refer, startArray,
          fill, addText, shift] at h₁
  rcases tags with _ | ⟨second, tags⟩
  · cases h
    cases hresult
  obtain ⟨b₂, h₂, -⟩ := pushAll_cons_ok h
  cases second with
  | openFragment traits => exact ⟨language, attributes, traits, tags, rfl⟩
  | _ =>
      simp [push, refusal?, setDoctype, closeFragment, openNode, closeNode, refer, startArray, fill,
        addText, shift] at h₂

theorem pushAll_end {b b' : Builder} {index : Nat} {tags : List Tag}
    (h : b.pushAll index tags = .ok b') (hb : b.result = none) (hresult : b'.result.isSome = true) :
    tags.getLast? = some .closeFragment := by
  induction tags generalizing b index with
  | nil =>
      cases h
      simp [hb] at hresult
  | cons tag tags ih =>
      obtain ⟨next, hpush, hmore⟩ := pushAll_cons_ok h
      rcases hnext : next.result with _ | node
      · have hlast := ih hmore hnext
        rcases tags with _ | ⟨second, tags⟩
        · cases hlast
        · rw [List.getLast?_cons_cons]
          exact hlast
      · obtain ⟨rfl, -⟩ := (push_effect hpush).2 (by simp [hnext])
        rcases tags with _ | ⟨second, tags⟩
        · rfl
        · obtain ⟨_, hpush', -⟩ := pushAll_cons_ok hmore
          have hnone := (push_ok hpush').1
          simp [hnext] at hnone

end Builder

namespace Stream

theorem scan_cons {index depth : Nat} {tag : Tag} {tags : List Tag}
    (h : scan index depth (tag :: tags) = .ok ()) :
    (∃ depth', depth' + (if tag.closes then 1 else 0) = depth + (if tag.opens then 1 else 0) ∧
      scan (index + 1) depth' tags = .ok ()) ∧
      ∀ slot, tag = .reference slot → mayFollow slot tags.head? = true := by
  cases tag with
  | reference slot =>
      simp only [scan, Tag.opens, Tag.closes, Bool.false_and, Bool.false_eq_true, if_false] at h
      split at h
      · rename_i hfollow
        refine ⟨⟨depth, rfl, h⟩, ?_⟩
        rintro slot' ⟨⟩
        exact hfollow
      · cases h
  | closeNode | closeFragment =>
      simp only [scan, Tag.opens, Tag.closes, Bool.true_and, Bool.false_eq_true, if_false,
        if_true] at h
      split at h
      · cases h
      · rename_i hdepth
        refine ⟨⟨depth - 1, ?_, h⟩, by simp⟩
        have hne : depth ≠ 0 := by simpa using hdepth
        simp only [Tag.closes, Tag.opens, Bool.false_eq_true, if_false, if_true]
        omega
  | openNode | openFragment =>
      refine ⟨⟨depth + 1, rfl, ?_⟩, by simp⟩
      simpa [scan, Tag.opens, Tag.closes] using h
  | _ =>
      refine ⟨⟨depth, rfl, ?_⟩, by simp⟩
      simpa [scan, Tag.opens, Tag.closes] using h

/-- Streams that pass the scan never close more than they open, and close it all in the end. -/
theorem scan_balanced {index depth : Nat} {tags : List Tag} (h : scan index depth tags = .ok ()) :
    (∀ before after, tags = before ++ after →
      before.countP Tag.closes ≤ depth + before.countP Tag.opens) ∧
      tags.countP Tag.closes = depth + tags.countP Tag.opens := by
  induction tags generalizing index depth with
  | nil =>
      have hdepth : depth = 0 := by
        rw [scan] at h
        split at h
        · assumption
        · cases h
      refine ⟨?_, by simp [hdepth]⟩
      intro before after htags
      obtain ⟨rfl, -⟩ := List.append_eq_nil_iff.mp htags.symm
      simp
  | cons tag tags ih =>
      obtain ⟨⟨depth', hdepth, hrest⟩, -⟩ := scan_cons h
      obtain ⟨hle, heq⟩ := ih hrest
      refine ⟨?_, ?_⟩
      · intro before after htags
        rcases before with _ | ⟨first, before⟩
        · simp
        · obtain ⟨rfl, hrest'⟩ := List.cons.inj htags
          have hbefore := hle before after hrest'
          simp only [List.countP_cons]
          omega
      · simp only [List.countP_cons]
        omega

theorem scan_reference {index depth : Nat} {tags before after : List Tag} {slot : Slot}
    (h : scan index depth tags = .ok ()) (htags : tags = before ++ .reference slot :: after) :
    mayFollow slot after.head? = true := by
  induction before generalizing index depth tags with
  | nil =>
      subst htags
      exact (scan_cons h).2 slot rfl
  | cons tag before ih =>
      subst htags
      obtain ⟨⟨depth', -, hrest⟩, -⟩ := scan_cons h
      exact ih hrest rfl

theorem mayFollow_of_push {b b' : Builder} {index : Nat} {slot : Slot} {tag : Tag}
    (hpending : b.pending = some ⟨slot.name, slot.isArray⟩) (h : b.push index tag = .ok b') :
    mayFollow slot (some tag) = true := by
  obtain ⟨-, -, hvalue⟩ := Builder.push_ok h
  cases tag with
  | arrayStart =>
      obtain ⟨name, hname⟩ := Builder.push_arrayStart_pending h
      rw [hpending, Option.some.injEq, Place.mk.injEq] at hname
      exact hname.2
  | _ => simpa [mayFollow, Builder.startsArray] using hvalue (by simp [hpending])

/-- Tags that the builder takes are balanced and have a value after each reference. -/
theorem scan_of_pushAll {b b' : Builder} {index : Nat} {tags : List Tag}
    (h : b.pushAll index tags = .ok b') (hresult : b'.result.isSome = true)
    (hb : b.result.isSome = true → b.opened = []) : scan index b.opened.length tags = .ok () := by
  induction tags generalizing b index with
  | nil =>
      cases h
      simp [scan, hb hresult]
  | cons tag tags ih =>
      obtain ⟨next, hpush, hmore⟩ := Builder.pushAll_cons_ok h
      obtain ⟨hlength, hend⟩ := Builder.push_effect hpush
      have hrest := ih hmore (fun hsome => (hend hsome).2)
      have hfollow : ∀ slot, tag = .reference slot → mayFollow slot tags.head? = true := by
        rintro slot rfl
        rcases tags with _ | ⟨value, tags⟩
        · cases hmore
          cases (hend hresult).1
        · obtain ⟨_, hpush', -⟩ := Builder.pushAll_cons_ok hmore
          exact mayFollow_of_push (Builder.push_reference_pending hpush) hpush'
      cases tag with
      | reference slot =>
          have hsame : b.opened.length = next.opened.length := by
            simpa [Tag.closes, Tag.opens] using hlength.symm
          simpa [scan, Tag.closes, Tag.opens, hfollow slot rfl, hsame] using hrest
      | openFragment | openNode =>
          simp only [Tag.closes, Tag.opens, Bool.false_eq_true, if_false, if_true,
            Nat.add_zero] at hlength
          simpa [scan, Tag.closes, Tag.opens, hlength] using hrest
      | closeFragment | closeNode =>
          simp only [Tag.closes, Tag.opens, Bool.false_eq_true, if_false, if_true,
            Nat.add_zero] at hlength
          simpa [scan, Tag.closes, Tag.opens, ← hlength] using hrest
      | _ =>
          simp only [Tag.closes, Tag.opens, Bool.false_eq_true, if_false, Nat.add_zero] at hlength
          simpa [scan, Tag.closes, Tag.opens, hlength] using hrest

theorem ofTags_ok {tags : List Tag} {node : Node} (h : Node.ofTags tags = .ok node) :
    ∃ b, ({} : Builder).pushAll 0 tags = .ok b ∧ b.result.isSome = true := by
  obtain ⟨b, hb, hresult⟩ := Node.ofTags_eq_ok.mp h
  exact ⟨b, hb, by simp [hresult]⟩

theorem check_of_ofTags {tags : List Tag} {node : Node} (h : Node.ofTags tags = .ok node) :
    check tags = .ok () := by
  obtain ⟨b, hb, hresult⟩ := ofTags_ok h
  have hscan := scan_of_pushAll hb hresult (by simp)
  have hlast := Builder.pushAll_end hb rfl hresult
  obtain ⟨language, attributes, traits, rest, rfl⟩ := Builder.pushAll_begin hb hresult
  unfold check
  simp only [hlast]
  simp only [List.length_nil] at hscan
  simp [hscan, h, bind, Except.bind]

theorem ofTags_of_check {tags : List Tag} (h : check tags = .ok ()) :
    ∃ node, Node.ofTags tags = .ok node := by
  unfold check at h
  split at h
  · split at h
    · obtain ⟨_, -, h⟩ := Machine.bind_eq_ok.mp h
      split at h
      · rename_i node hnode
        exact ⟨node, hnode⟩
      · cases h
    · cases h
  · cases h
  · cases h

/-- The checks of single tags and of what follows them refuse no stream that describes a tree. -/
theorem check_iff_ofTags (tags : List Tag) :
    check tags = .ok () ↔ ∃ node, Node.ofTags tags = .ok node := by
  constructor
  · exact ofTags_of_check
  · rintro ⟨node, hnode⟩
    exact check_of_ofTags hnode

/-- Every shift is followed by the opening of a node. -/
def ShiftsAdopted (tags : List Tag) : Prop :=
  ∀ before name after, tags = before ++ .shift name :: after →
    after.head?.any Builder.opensNode = true

/-- Every shift that is followed by anything is followed by the opening of a node. -/
def AdoptedInside (tags : List Tag) : Prop :=
  ∀ before name next after, tags = before ++ .shift name :: next :: after →
    Builder.opensNode next = true

theorem AdoptedInside.left {tags more : List Tag} (h : AdoptedInside (tags ++ more)) :
    AdoptedInside tags := by
  intro before name next after htags
  apply h before name next (after ++ more)
  simp [htags]

theorem AdoptedInside.next {tags more : List Tag} {next : Tag}
    (h : AdoptedInside (tags ++ next :: more))
    (hlast : tags.getLast?.any Tag.isShift = true) : Builder.opensNode next = true := by
  obtain ⟨last, hlast', hshift⟩ : ∃ last, tags.getLast? = some last ∧ last.isShift = true := by
    rcases hgot : tags.getLast? with _ | last
    · simp [hgot] at hlast
    · exact ⟨last, rfl, by simpa [hgot] using hlast⟩
  obtain ⟨before, rfl⟩ := List.getLast?_eq_some_iff.mp hlast'
  cases last with
  | shift name => exact h before name next more (by simp)
  | _ => cases hshift

/-- Streams that describe trees have no shift without an adopting node. -/
theorem shiftsAdopted_of_ofTags {tags : List Tag} {node : Node} (h : Node.ofTags tags = .ok node) :
    ShiftsAdopted tags := by
  rintro before name after rfl
  obtain ⟨b, hb, hresult⟩ := ofTags_ok h
  rw [Builder.pushAll_append] at hb
  rcases hbefore : ({} : Builder).pushAll 0 before with error | b₁
  · simp [hbefore] at hb
  simp only [hbefore] at hb
  obtain ⟨b₂, hshift, hafter⟩ := Builder.pushAll_cons_ok hb
  rcases after with _ | ⟨next, after⟩
  · cases hafter
    cases ((Builder.push_effect hshift).2 hresult).1
  · obtain ⟨b₃, hnext, -⟩ := Builder.pushAll_cons_ok hafter
    exact (Builder.push_ok hnext).2.1 (Builder.push_shift_shifted hshift)

/-- The builder after the tags of a stream in the making. -/
structure Tracked (b : Builder) (depth : Nat) (tags : List Tag) : Prop where
  idle : tags.getLast?.any Tag.isShift = false → b.Idle depth
  holds : tags.getLast?.any Tag.isShift = true → b.Holds depth
  completed : tags.getLast?.any Tag.completesValue = true → b.Completed

theorem Tracked.of_idle {b : Builder} {depth : Nat} {tags : List Tag} (last : Tag)
    (hidle : b.Idle depth) (hlast : tags.getLast? = some last) (hshift : last.isShift = false)
    (hcompleted : last.completesValue = true → b.Completed) : Tracked b depth tags where
  idle := fun _ => hidle
  holds := by simp [hlast, hshift]
  completed := by simpa [hlast] using hcompleted

end Stream

namespace Builder

theorem Idle.pushAll_arrayTags {b : Builder} {depth : Nat} (h : b.Idle depth) (index : Nat)
    (slot : Slot) : ∃ b', b.pushAll index (arrayTags slot) = .ok b' ∧ b'.Idle depth := by
  obtain ⟨b₁, h₁, hawaits⟩ := h.push_reference index
    { slot with isArray := true, traits := { slot.traits with expression := false } }
  obtain ⟨b₂, h₂, hidle⟩ := hawaits.push_arrayStart (index + 1)
  exact ⟨b₂, by simp [arrayTags, pushAll, h₁, h₂], hidle⟩

theorem Idle.pushAll_slotTags {b : Builder} {depth : Nat} (h : b.Idle depth) (index : Nat)
    {d : Draft} (hlast : (Tape.lastTag? d).any Tag.isShift = false) (slot : Slot) :
    ∃ b', b.pushAll index (slotTags d slot) = .ok b' ∧
      b'.Awaits depth ⟨slot.name, slot.isArray⟩ := by
  unfold slotTags
  rw [if_neg (by simp [hlast])]
  split
  · obtain ⟨b₁, h₁, hidle⟩ := h.pushAll_arrayTags index slot
    obtain ⟨b₂, h₂, hawaits⟩ := hidle.push_reference (index + (arrayTags slot).length) slot
    exact ⟨b₂, pushAll_append_ok h₁ (pushAll_singleton h₂), hawaits⟩
  · obtain ⟨b', h', hawaits⟩ := h.push_reference index slot
    exact ⟨b', pushAll_singleton h', hawaits⟩

theorem Idle.pushAll_textTags {b : Builder} {depth : Nat} (h : b.Idle depth) (index : Nat)
    (text : String) : ∃ b', b.pushAll index (textTags text) = .ok b' ∧ b'.Idle depth := by
  unfold textTags
  split
  · exact ⟨b, rfl, h⟩
  · obtain ⟨b', h', hidle⟩ := h.push_literal index text
    exact ⟨b', pushAll_singleton h', hidle⟩

end Builder

namespace Stream

theorem lastTag?_replay (source : Source) (tags : List Tag) :
    Tape.lastTag? (Draft.replay source tags) = tags.getLast? := by
  change (Draft.replay source tags).tags.back? = _
  rw [← Array.getLast?_toList, Draft.replay_tags]

theorem slotTags_replay_of_shift {source : Source} {tags : List Tag}
    (h : tags.getLast?.any Tag.isShift = true) (slot : Slot) :
    slotTags (Draft.replay source tags) slot = [] := by
  rw [slotTags, lastTag?_replay, if_pos h]

theorem Tracked.open {b : Builder} {depth : Nat} {tags : List Tag} (h : Tracked b depth tags)
    (source : Source) (index : Nat) (slot : Slot) (traits : NodeTraits)
    (url nodeType : String) (attributes : Fields) :
    ∃ b', b.pushAll index (slotTags (Draft.replay source tags) slot ++
      [.openNode traits url nodeType attributes]) = .ok b' ∧ b'.Idle (depth + 1) := by
  have hlast := lastTag?_replay source tags
  rcases hshift : tags.getLast?.any Tag.isShift with _ | _
  · obtain ⟨b₁, h₁, hawaits⟩ := (h.idle hshift).pushAll_slotTags index (by rwa [hlast]) slot
    obtain ⟨b₂, h₂, hidle⟩ := hawaits.push_openNode
      (index + (slotTags (Draft.replay source tags) slot).length) traits url nodeType attributes
    exact ⟨b₂, Builder.pushAll_append_ok h₁ (Builder.pushAll_singleton h₂), hidle⟩
  · obtain ⟨b', h', hidle⟩ := (h.holds hshift).push_openNode index traits url nodeType attributes
    rw [slotTags_replay_of_shift hshift]
    exact ⟨b', Builder.pushAll_singleton h', hidle⟩

theorem Tracked.idle_of_adopted {b : Builder} {depth : Nat} {tags more : List Tag} {next : Tag}
    (h : Tracked b depth tags) (hadopted : AdoptedInside (tags ++ next :: more))
    (hnext : Builder.opensNode next = false) :
    tags.getLast?.any Tag.isShift = false ∧ b.Idle depth := by
  have hshift : tags.getLast?.any Tag.isShift = false := by
    rw [← Bool.not_eq_true]
    intro hshift
    simp [hadopted.next hshift] at hnext
  exact ⟨hshift, h.idle hshift⟩

theorem Tracked.place {b : Builder} {depth : Nat} {tags more : List Tag} {source : Source}
    (h : Tracked b depth tags) (hmore : Placed (Draft.replay source tags) more)
    (hadopted : AdoptedInside (tags ++ more)) (index : Nat) :
    ∃ b', b.pushAll index more = .ok b' ∧ Tracked b' depth (tags ++ more) := by
  have hlast := lastTag?_replay source tags
  -- A gap or a null after its slot: the slot is empty after a shift, which is then not adopted.
  have hslot : ∀ (slot : Slot) (value : Tag), Builder.opensNode value = false →
      AdoptedInside (tags ++ (slotTags (Draft.replay source tags) slot ++ [value])) →
      tags.getLast?.any Tag.isShift = false := by
    intro slot value hvalue hadopted
    rw [← Bool.not_eq_true]
    intro hshift
    rw [slotTags_replay_of_shift hshift, List.nil_append] at hadopted
    simp [hadopted.next hshift] at hvalue
  cases hmore with
  | @text r text hread hempty =>
      obtain ⟨-, hidle⟩ := h.idle_of_adopted hadopted rfl
      obtain ⟨b', h', hidle'⟩ := hidle.push_literal index text
      exact ⟨b', Builder.pushAll_singleton h',
        .of_idle (.literal text) hidle' (by simp) rfl (by simp [Tag.completesValue])⟩
  | gap slot hgap =>
      have hshift := hslot slot .gap rfl hadopted
      obtain ⟨b₁, h₁, hawaits⟩ := (h.idle hshift).pushAll_slotTags index (by rwa [hlast]) slot
      obtain ⟨b₂, h₂, hidle, hcompleted⟩ := hawaits.push_gap
        (index + (slotTags (Draft.replay source tags) slot).length)
      refine ⟨b₂, Builder.pushAll_append_ok h₁ (Builder.pushAll_singleton h₂), ?_⟩
      exact .of_idle .gap hidle (by simp [← List.append_assoc]) rfl (fun _ => hcompleted)
  | null slot hnew harray =>
      have hshift := hslot slot .null rfl hadopted
      obtain ⟨b₁, h₁, hawaits⟩ := (h.idle hshift).pushAll_slotTags index (by rwa [hlast]) slot
      obtain ⟨b₂, h₂, hidle⟩ := hawaits.push_null
        (index + (slotTags (Draft.replay source tags) slot).length)
      refine ⟨b₂, Builder.pushAll_append_ok h₁ (Builder.pushAll_singleton h₂), ?_⟩
      exact .of_idle .null hidle (by simp [← List.append_assoc]) rfl (by simp [Tag.completesValue])
  | array slot hnew =>
      obtain ⟨-, hidle⟩ := h.idle_of_adopted hadopted rfl
      obtain ⟨b', h', hidle'⟩ := hidle.pushAll_arrayTags index slot
      exact ⟨b', h',
        .of_idle .arrayStart hidle' (by simp [arrayTags]) rfl (by simp [Tag.completesValue])⟩
  | @token r text slot traits url nodeType attributes hread =>
      obtain ⟨b₁, h₁, hidle₁⟩ := h.open source index slot traits url nodeType attributes
      obtain ⟨b₂, h₂, hidle₂⟩ := hidle₁.pushAll_textTags (index +
        (slotTags (Draft.replay source tags) slot ++
          [Tag.openNode traits url nodeType attributes]).length) text
      have h₁₂ := Builder.pushAll_append_ok h₁ h₂
      obtain ⟨b₃, h₃, hidle₃, hcompleted⟩ := hidle₂.push_closeNode (index +
        (slotTags (Draft.replay source tags) slot ++
          [Tag.openNode traits url nodeType attributes] ++ textTags text).length)
      refine ⟨b₃, Builder.pushAll_append_ok h₁₂ (Builder.pushAll_singleton h₃), ?_⟩
      exact .of_idle .closeNode hidle₃ (by simp [← List.append_assoc]) rfl (fun _ => hcompleted)

/-- The builder takes a stream in the making whose shifts are adopted. -/
theorem Begun.tracked {source : Source} {depth : Nat} {tags : List Tag}
    (h : Begun source depth tags) (hadopted : AdoptedInside tags) :
    ∃ b, ({} : Builder).pushAll 0 tags = .ok b ∧ Tracked b depth tags := by
  induction h with
  | start url traits =>
      refine ⟨{
        language := some url
        opened := [{
          heading := { language := url, nodeType := fragmentType, traits }
          place := none }] }, ?_, ?_⟩
      · simp [Builder.pushAll, Builder.push, Builder.refusal?, Builder.setDoctype,
          Builder.openFragment]
      · exact .of_idle (.openFragment traits) ⟨trivial, rfl, rfl, rfl⟩ rfl rfl
          (by simp [Tag.completesValue])
  | place _ hmore ih =>
      obtain ⟨b, hb, htracked⟩ := ih hadopted.left
      obtain ⟨b', hb', htracked'⟩ := htracked.place hmore hadopted _
      exact ⟨b', Builder.pushAll_append_ok hb hb', htracked'⟩
  | shift name _ hlast ih =>
      obtain ⟨b, hb, htracked⟩ := ih hadopted.left
      obtain ⟨-, hidle⟩ := htracked.idle_of_adopted hadopted rfl
      obtain ⟨b', hb', hholds⟩ := hidle.push_shift (htracked.completed hlast) _ name
      refine ⟨b', Builder.pushAll_append_ok hb (Builder.pushAll_singleton hb'), ?_⟩
      refine ⟨?_, fun _ => hholds, ?_⟩
      · simp [Tag.isShift]
      · simp [Tag.completesValue]
  | openNode slot traits url nodeType attributes _ ih =>
      obtain ⟨b, hb, htracked⟩ := ih hadopted.left
      obtain ⟨b', hb', hidle⟩ := htracked.open source _ slot traits url nodeType attributes
      refine ⟨b', Builder.pushAll_append_ok hb hb', ?_⟩
      exact .of_idle (.openNode traits url nodeType attributes) hidle
        (by simp [← List.append_assoc]) rfl (by simp [Tag.completesValue])
  | closeNode _ ih =>
      obtain ⟨b, hb, htracked⟩ := ih hadopted.left
      obtain ⟨-, hidle⟩ := htracked.idle_of_adopted hadopted rfl
      obtain ⟨b', hb', hidle', hcompleted⟩ := hidle.push_closeNode _
      refine ⟨b', Builder.pushAll_append_ok hb (Builder.pushAll_singleton hb'), ?_⟩
      exact .of_idle .closeNode hidle' (by simp) rfl (fun _ => hcompleted)

theorem ShiftsAdopted.inside {tags : List Tag} (h : ShiftsAdopted tags) : AdoptedInside tags := by
  intro before name next after htags
  simpa using h before name (next :: after) htags

theorem Finished.ofTags {source : Source} {tags : List Tag} (h : Finished source tags)
    (hadopted : ShiftsAdopted tags) : ∃ node, Node.ofTags tags = .ok node := by
  obtain ⟨begun, hbegun, -, rfl⟩ := h
  obtain ⟨b, hb, htracked⟩ := hbegun.tracked hadopted.inside.left
  obtain ⟨-, hidle⟩ := htracked.idle_of_adopted hadopted.inside rfl
  obtain ⟨b', hb', hresult⟩ := hidle.push_closeFragment begun.length
  have hall := Builder.pushAll_append_ok hb
    (show b.pushAll (0 + begun.length) [.closeFragment] = .ok b' by
      rw [Nat.zero_add]
      exact Builder.pushAll_singleton hb')
  obtain ⟨node, hnode⟩ := Option.isSome_iff_exists.mp hresult
  exact ⟨node, by simp [Node.ofTags, hall, hnode]⟩

/-- A finished stream is in order exactly if each of its shifts is followed by the node that adopts
the shifted value. -/
theorem Finished.check_iff {source : Source} {tags : List Tag} (h : Finished source tags) :
    check tags = .ok () ↔ ShiftsAdopted tags := by
  constructor
  · intro hcheck
    obtain ⟨node, hnode⟩ := ofTags_of_check hcheck
    exact shiftsAdopted_of_ofTags hnode
  · intro hadopted
    obtain ⟨node, hnode⟩ := h.ofTags hadopted
    exact check_of_ofTags hnode

end Stream

end GrammarMachine
