import GrammarMachine.Proofs.Tree.Adds
import GrammarMachine.Proofs.Tree.Pushed

/-!
What a shift means. What the builder does inside a node does not depend on the node and on what is
around it, so the tags of a value can be taken elsewhere. A stream with a shift describes the tree
of the stream in which the shifted value is written inside the node that adopts it.
-/

namespace GrammarMachine

namespace Stream

/-- Whether tags that begin inside `depth` brackets close these and no others. -/
def closesAll (depth : Nat) : List Tag → Bool
  | [] => depth = 0
  | tag :: rest =>
      if tag.opens then closesAll (depth + 1) rest
      else if tag.closes then 0 < depth && closesAll (depth - 1) rest
      else closesAll depth rest

/-- The tags of a value that can be shifted: a gap, or a node up to its own end. -/
inductive ValueBlock : List Tag → Prop where
  | gap : ValueBlock [.gap]
  | node {content : List Tag} (traits : NodeTraits) (url nodeType : String)
      (attributes : Fields) : closesAll 0 content = true →
      ValueBlock (.openNode traits url nodeType attributes :: (content ++ [Tag.closeNode]))

theorem closesAll_cons {depth : Nat} {tag : Tag} {tags : List Tag}
    (h : closesAll depth (tag :: tags) = true) :
    (tag.closes = true → 0 < depth) ∧ ∀ depth',
      depth' + (if tag.closes then 1 else 0) = depth + (if tag.opens then 1 else 0) →
        closesAll depth' tags = true := by
  cases tag with
  | openNode | openFragment =>
      refine ⟨by simp [Tag.closes], ?_⟩
      intro depth' hdepth
      obtain rfl : depth' = depth + 1 := by simpa [Tag.opens, Tag.closes] using hdepth
      simpa [closesAll, Tag.opens] using h
  | closeNode | closeFragment =>
      obtain ⟨hpositive, hrest⟩ : 0 < depth ∧ closesAll (depth - 1) tags = true := by
        simpa [closesAll, Tag.opens, Tag.closes] using h
      refine ⟨fun _ => hpositive, ?_⟩
      intro depth' hdepth
      obtain rfl : depth = depth' + 1 := by simpa [Tag.opens, Tag.closes] using hdepth.symm
      exact hrest
  | _ =>
      refine ⟨by simp [Tag.closes], ?_⟩
      intro depth' hdepth
      obtain rfl : depth' = depth := by simpa [Tag.opens, Tag.closes] using hdepth
      simpa [closesAll, Tag.opens, Tag.closes] using h

end Stream

/-- What has happened inside a node: the nodes opened in it, innermost first, its new parts, the
last one first, and what is under way. -/
structure Interior where
  opened : List Unfinished := []
  parts : List Child := []
  pending : Option Place := none
  shifted : Option Shifted := none

namespace Interior

/-- The builder inside a node in which that has happened. -/
def inside (i : Interior) (language : Option String) (node : Unfinished)
    (outer : List Unfinished) : Builder where
  language
  opened := i.opened ++ { node with parts := i.parts ++ node.parts } :: outer
  pending := i.pending
  shifted := i.shifted

def addChild (i : Interior) (child : Child) : Interior :=
  match i.opened with
  | inner :: rest => { i with opened := { inner with parts := child :: inner.parts } :: rest }
  | [] => { i with parts := child :: i.parts }

theorem inside_addChild (i : Interior) (child : Child) (language : Option String)
    (node : Unfinished) (outer : List Unfinished) :
    (i.addChild child).inside language node outer =
      (i.inside language node outer).addChild child := by
  rcases i with ⟨_ | ⟨inner, rest⟩, parts, pending, shifted⟩
  · rfl
  · rfl

/-- Inside every node the tag leads from the one state to the other. -/
def Takes (i : Interior) (tag : Tag) (i' : Interior) : Prop :=
  ∀ language node outer index,
    (i.inside language node outer).Pushed index tag (i'.inside language node outer)

variable {i : Interior} {language : Option String} {node : Unfinished} {outer : List Unfinished}

theorem inside_opened_ne_nil (i : Interior) (language : Option String) (node : Unfinished)
    (outer : List Unfinished) : (i.inside language node outer).opened ≠ [] := by
  simp [inside]

theorem takes_closeNode (hopened : i.opened ≠ []) : ∃ i', i.Takes .closeNode i' := by
  rcases hinner : i.opened with _ | ⟨inner, _ | ⟨second, rest⟩⟩
  · exact absurd hinner hopened
  · refine ⟨{ i with opened := [], parts := inner.stored ++ i.parts }, ?_⟩
    intro language node outer index
    have hclose := @Builder.Pushed.closeNode (i.inside language node outer) index inner
      { node with parts := i.parts ++ node.parts } outer (by simp [inside, hinner])
    simpa [inside] using hclose
  · refine ⟨{ i with opened := { second with parts := inner.stored ++ second.parts } :: rest }, ?_⟩
    intro language node outer index
    exact @Builder.Pushed.closeNode (i.inside language node outer) index inner second _
      (by simp [inside, hinner])

theorem takes_shift {last : Unfinished} {rest : List Unfinished} {slot : String} {isArray : Bool}
    {value : Filler} {parts : List Child} (name : String) (hnew : node.parts = [])
    (hopened : (i.inside language node outer).opened =
      { last with parts := .property slot isArray value :: parts } :: rest)
    (hvalue : value = .gap ∨ ∃ heading children, value = .node heading children) :
    ∃ i', i.Takes (.shift name) i' := by
  rcases hinner : i.opened with _ | ⟨inner, more⟩
  · -- The node had no parts, so the value was completed since.
    have hparts : i.parts = .property slot isArray value :: parts := by
      simp only [inside, hinner, hnew, List.append_nil, List.nil_append, List.cons.injEq,
        Unfinished.mk.injEq] at hopened
      exact hopened.1.2.1
    refine ⟨{ i with parts, shifted := some ⟨name, ⟨slot, isArray⟩, value⟩ }, ?_⟩
    intro language node outer index
    have hshift := @Builder.Pushed.shift (i.inside language node outer) index node outer slot
      isArray value (parts ++ node.parts) name (by simp [inside, hinner, hparts]) hvalue
    simpa [inside, hinner] using hshift
  · obtain ⟨rfl, -⟩ : inner = { last with parts := .property slot isArray value :: parts } ∧
        more ++ { node with parts := i.parts ++ node.parts } :: outer = rest := by
      simpa [inside, hinner] using hopened
    refine ⟨{ i with
      opened := { last with parts } :: more
      shifted := some ⟨name, ⟨slot, isArray⟩, value⟩ }, ?_⟩
    intro language node outer index
    exact .shift name (by simp [inside, hinner]) hvalue

/-- What a tag does inside a new node it does inside every node, as long as it does not close that
node and the node is inside another one. -/
theorem takes_of_pushed {tag : Tag} {index : Nat} {b : Builder} (hnew : node.parts = [])
    (houter : outer ≠ []) (hindex : index ≠ 0) (hcloses : tag.closes = true → i.opened ≠ [])
    (h : (i.inside language node outer).Pushed index tag b) : ∃ i', i.Takes tag i' := by
  have hne := i.inside_opened_ne_nil
  cases h with
  | doctype _ _ hfirst => exact absurd hfirst hindex
  | openFragment _ hopened => exact absurd hopened (hne _ _ _)
  | closeFragment hopened => simp [inside, List.append_eq_singleton_iff, houter] at hopened
  | @adopt s traits url nodeType attributes hshifted =>
      refine ⟨{ i with
        shifted := none
        pending := none
        opened := ⟨⟨url, nodeType, traits, attributes⟩, [.property s.name false s.value],
          some s.place⟩ :: i.opened }, ?_⟩
      intro language node outer index
      exact .adopt traits url nodeType attributes hshifted (hne _ _ _)
  | @openNode place traits url nodeType attributes hshifted hpending =>
      refine ⟨{ i with
        shifted := none
        pending := none
        opened := ⟨⟨url, nodeType, traits, attributes⟩, [], some place⟩ :: i.opened }, ?_⟩
      intro language node outer index
      exact .openNode traits url nodeType attributes hshifted hpending (hne _ _ _)
  | closeNode => exact takes_closeNode (hcloses rfl)
  | reference slot =>
      refine ⟨{ i with pending := some ⟨slot.name, slot.isArray⟩ }, ?_⟩
      intro language node outer index
      exact .reference slot (hne _ _ _)
  | @part _ child hpart =>
      refine ⟨{ i with pending := none }.addChild child, ?_⟩
      intro language node outer index
      rw [inside_addChild]
      exact .part hpart fun _ => hne _ _ _
  | shift name hopened hvalue => exact takes_shift name hnew hopened hvalue

/-- Balanced tags that the builder takes inside one node it takes inside every node, with the same
effect. -/
theorem pushAll_inside {tags : List Tag} {index : Nat} {b : Builder} (hnew : node.parts = [])
    (houter : outer ≠ []) (hindex : index ≠ 0)
    (hcloses : Stream.closesAll i.opened.length tags = true)
    (h : (i.inside language node outer).pushAll index tags = .ok b) :
    ∃ i' : Interior, i'.opened = [] ∧ ∀ language node outer index,
      (i.inside language node outer).pushAll index tags = .ok (i'.inside language node outer) := by
  induction tags generalizing i index with
  | nil =>
      refine ⟨i, ?_, fun _ _ _ _ => rfl⟩
      simpa [Stream.closesAll] using hcloses
  | cons tag tags ih =>
      obtain ⟨next, hpush, hmore⟩ := Builder.pushAll_cons_ok h
      obtain ⟨hpositive, hrest⟩ := Stream.closesAll_cons hcloses
      obtain ⟨i₁, htakes⟩ := takes_of_pushed hnew houter hindex
        (fun htag => List.ne_nil_of_length_pos (hpositive htag)) (Builder.push_cases hpush)
      -- Whether a tag is refused does not depend on the open nodes.
      have hrefusal := Builder.refusal_of_push hpush
      have hsame : ∀ language node outer index,
          (i.inside language node outer).push index tag = .ok (i₁.inside language node outer) :=
        fun language node outer index => (htakes language node outer index).push hrefusal
      obtain rfl : i₁.inside language node outer = next :=
        Except.ok.inj ((hsame language node outer index).symm.trans hpush)
      have hdepth : i₁.opened.length + (if tag.closes then 1 else 0) =
          i.opened.length + (if tag.opens then 1 else 0) := by
        have heffect := (Builder.push_effect hpush).1
        simp only [inside, List.length_append, List.length_cons] at heffect
        omega
      obtain ⟨i', hopened, hall⟩ := ih (Nat.succ_ne_zero index) (hrest _ hdepth) hmore
      refine ⟨i', hopened, ?_⟩
      intro language node outer index
      simp only [Builder.pushAll, hsame]
      exact hall language node outer (index + 1)

end Interior

namespace Stream

theorem adds_of_pushAll {content : List Tag} {language : Option String} {heading : Heading}
    {place : Option Place} {outer : List Unfinished} {index : Nat} {b : Builder}
    (hcloses : closesAll 0 content = true) (houter : outer ≠ []) (hindex : index ≠ 0)
    (h : (Builder.inside language ⟨heading, [], place⟩ outer).pushAll index content = .ok b)
    (hpending : b.pending = none) (hshifted : b.shifted = none) :
    ∃ children, Adds content children := by
  obtain ⟨⟨opened, parts, pending, shifted⟩, rfl, hall⟩ :=
    @Interior.pushAll_inside {} language ⟨heading, [], place⟩ outer content index b rfl houter
      hindex hcloses h
  obtain rfl := Except.ok.inj ((hall language ⟨heading, [], place⟩ outer index).symm.trans h)
  obtain rfl : pending = none := hpending
  obtain rfl : shifted = none := hshifted
  refine ⟨parts.reverse, ?_⟩
  intro language node outer index
  rw [List.reverse_reverse]
  exact hall language node outer index

theorem ValueBlock.describes {tags : List Tag} (h : ValueBlock tags) {language : Option String}
    {node : Unfinished} {outer : List Unfinished} {place : Place} {index : Nat} {b : Builder}
    (hpush : (Builder.awaiting language node outer place).pushAll index tags = .ok b) :
    ∃ value, Describes tags value ∧
      (value = .gap ∨ ∃ heading children, value = .node heading children) := by
  cases h with
  | gap => exact ⟨.gap, describes_gap, .inl rfl⟩
  | @node content traits url nodeType attributes hcloses =>
      obtain ⟨opened, hopen, hmore⟩ := Builder.pushAll_cons_ok hpush
      obtain rfl : Builder.inside language ⟨⟨url, nodeType, traits, attributes⟩, [], some place⟩
          (node :: outer) = opened := Except.ok.inj hopen
      obtain ⟨filled, hcontent, hclose⟩ := Builder.pushAll_append_ok_iff.mp hmore
      obtain ⟨closed, hclosed, -⟩ := Builder.pushAll_cons_ok hclose
      obtain ⟨children, hadds⟩ := adds_of_pushAll hcloses (List.cons_ne_nil _ _)
        (Nat.succ_ne_zero index) hcontent (Builder.pending_of_push hclosed rfl rfl)
        (Builder.shifted_of_push hclosed rfl)
      exact ⟨_, hadds.describes traits url nodeType attributes, .inr ⟨_, _, rfl⟩⟩

theorem push_reference {b b' : Builder} {index : Nat} {slot : Slot}
    (h : b.push index (.reference slot) = .ok b') :
    ∃ language node outer, b = .inside language node outer ∧
      b' = .awaiting language node outer ⟨slot.name, slot.isArray⟩ := by
  have hpending := Builder.pending_of_push h rfl rfl
  have hshifted := Builder.shifted_of_push h rfl
  obtain ⟨hresult, -, -⟩ := Builder.push_ok h
  obtain ⟨language, opened, pending, shifted, result⟩ := b
  subst hpending hshifted hresult
  cases Builder.push_cases h with
  | reference _ hne =>
      rcases opened with _ | ⟨node, outer⟩
      · exact absurd rfl hne
      · exact ⟨language, node, outer, rfl, rfl⟩
  | part hpart => cases hpart

section Adoption

variable {tags : List Tag} {value : Filler} (slot : Slot) (name : String) (slotTraits : SlotTraits)
  (traits : NodeTraits) (url nodeType : String) (attributes : Fields)

theorem Describes.pushAll_shift (h : Describes tags value)
    (hvalue : value = .gap ∨ ∃ heading children, value = .node heading children)
    (language : Option String) (node : Unfinished) (outer : List Unfinished) (index : Nat) :
    (Builder.inside language node outer).pushAll index
        ([Tag.reference slot] ++ tags ++
          [Tag.shift name, .openNode traits url nodeType attributes]) =
      .ok (.inside language ⟨⟨url, nodeType, traits, attributes⟩, [.property name false value],
        some ⟨slot.name, slot.isArray⟩⟩ (node :: outer)) := by
  refine Builder.pushAll_append_ok (h.adds slot language node outer index) ?_
  exact pushAll_adopt hvalue language node outer ⟨slot.name, slot.isArray⟩ name traits url nodeType
    attributes _

theorem Describes.pushAll_inside (h : Describes tags value) (language : Option String)
    (node : Unfinished) (outer : List Unfinished) (index : Nat) :
    (Builder.inside language node outer).pushAll index
        ([Tag.reference slot, .openNode traits url nodeType attributes,
          .reference { name, isArray := false, traits := slotTraits }] ++ tags) =
      .ok (.inside language ⟨⟨url, nodeType, traits, attributes⟩, [.property name false value],
        some ⟨slot.name, slot.isArray⟩⟩ (node :: outer)) := by
  have hopen : (Builder.inside language node outer).pushAll index
      [.reference slot, .openNode traits url nodeType attributes,
        .reference { name, isArray := false, traits := slotTraits }] =
      .ok (.awaiting language ⟨⟨url, nodeType, traits, attributes⟩, [],
        some ⟨slot.name, slot.isArray⟩⟩ (node :: outer) ⟨name, false⟩) := rfl
  exact Builder.pushAll_append_ok hopen (h _ _ _ _ _)

/-- A value in its slot and a shift to the next node are taken as that node with the value inside
it. -/
theorem ValueBlock.pushAll_shift_iff (h : ValueBlock tags) (b b' : Builder) (index : Nat) :
    b.pushAll index
        ([Tag.reference slot] ++ tags ++
          [Tag.shift name, .openNode traits url nodeType attributes]) =
          .ok b' ↔
      b.pushAll index ([Tag.reference slot, .openNode traits url nodeType attributes,
        .reference { name, isArray := false, traits := slotTraits }] ++ tags) = .ok b' := by
  constructor
  · intro hpush
    obtain ⟨held, hheld, -⟩ := Builder.pushAll_append_ok_iff.mp hpush
    obtain ⟨awaiting, hreference, hblock⟩ := Builder.pushAll_cons_ok hheld
    obtain ⟨language, node, outer, rfl, rfl⟩ := push_reference hreference
    obtain ⟨value, hdescribes, hvalue⟩ := h.describes hblock
    rw [← hpush, hdescribes.pushAll_inside, hdescribes.pushAll_shift _ _ _ _ _ _ hvalue]
  · intro hpush
    obtain ⟨awaiting, hopen, hblock⟩ := Builder.pushAll_append_ok_iff.mp hpush
    obtain ⟨_, hreference, -⟩ := Builder.pushAll_cons_ok hopen
    obtain ⟨language, node, outer, rfl, -⟩ := push_reference hreference
    obtain rfl : Builder.awaiting language ⟨⟨url, nodeType, traits, attributes⟩, [],
        some ⟨slot.name, slot.isArray⟩⟩ (node :: outer) ⟨name, false⟩ = awaiting :=
      Except.ok.inj hopen
    obtain ⟨value, hdescribes, hvalue⟩ := h.describes hblock
    rw [← hpush, hdescribes.pushAll_inside, hdescribes.pushAll_shift _ _ _ _ _ _ hvalue]

end Adoption

end Stream

theorem Node.ofTags_congr {tags tags' : List Tag} (hlength : tags.length = tags'.length)
    (h : ∀ (b b' : Builder) (index : Nat),
      b.pushAll index tags = .ok b' ↔ b.pushAll index tags' = .ok b')
    (before after : List Tag) (tree : Node) :
    Node.ofTags (before ++ tags ++ after) = .ok tree ↔
      Node.ofTags (before ++ tags' ++ after) = .ok tree := by
  simp only [Node.ofTags_eq_ok, Builder.pushAll_append_ok_iff, List.length_append, h, hlength]

/-- A stream with a shift describes a tree exactly if the stream in which the shifted value is
written inside the node that adopts it describes the same tree. -/
theorem Node.ofTags_shift_iff {block : List Tag} (hblock : Stream.ValueBlock block)
    (before after : List Tag) (slot : Slot) (name : String) (slotTraits : SlotTraits)
    (traits : NodeTraits) (url nodeType : String) (attributes : Fields) (tree : Node) :
    Node.ofTags (before ++ [Tag.reference slot] ++ block ++
        [Tag.shift name, .openNode traits url nodeType attributes] ++ after) = .ok tree ↔
      Node.ofTags (before ++ [Tag.reference slot, .openNode traits url nodeType attributes,
        .reference { name, isArray := false, traits := slotTraits }] ++ block ++ after) =
          .ok tree := by
  have htaken := hblock.pushAll_shift_iff slot name slotTraits traits url nodeType attributes
  have hcongr := Node.ofTags_congr (by simp) htaken before after tree
  simpa only [List.append_assoc] using hcongr

/-- A group around a gap, in which the gap has been shifted. -/
def Stream.groupBlock : List Tag :=
  [.openNode {} "urn:sum" "Group" [], .literal "(", .reference { name := "inner" }, .gap,
    .shift "left", .openNode {} "urn:sum" "Sum" [], .literal "+", .closeNode, .literal ")",
    .closeNode]

theorem Node.ofTags_shift_iff_group :
    ∃ tree, Stream.ValueBlock Stream.groupBlock ∧
      Node.ofTags ([Tag.doctype "urn:sum" [], .openFragment {}] ++ [Tag.reference .anonymous] ++
        Stream.groupBlock ++ [Tag.shift "left", .openNode {} "urn:sum" "Sum" []] ++
          [Tag.literal "-", .closeNode, .closeFragment]) = .ok tree ∧
      Node.ofTags ([Tag.doctype "urn:sum" [], .openFragment {}] ++ [Tag.reference .anonymous,
        .openNode {} "urn:sum" "Sum" [], .reference { name := "left", isArray := false }] ++
          Stream.groupBlock ++ [Tag.literal "-", .closeNode, .closeFragment]) = .ok tree := by
  have hblock : Stream.ValueBlock Stream.groupBlock :=
    @Stream.ValueBlock.node [.literal "(", .reference { name := "inner" }, .gap, .shift "left",
      .openNode {} "urn:sum" "Sum" [], .literal "+", .closeNode, .literal ")"] {} "urn:sum" "Group"
      [] rfl
  obtain ⟨tree, htree⟩ : ∃ tree, Node.ofTags ([Tag.doctype "urn:sum" [], .openFragment {}] ++
      [Tag.reference .anonymous] ++ Stream.groupBlock ++
        [Tag.shift "left", .openNode {} "urn:sum" "Sum" []] ++
          [Tag.literal "-", .closeNode, .closeFragment]) = .ok tree := ⟨_, rfl⟩
  have hiff := Node.ofTags_shift_iff hblock [.doctype "urn:sum" [], .openFragment {}]
    [.literal "-", .closeNode, .closeFragment] .anonymous "left" {} {} "urn:sum" "Sum" [] tree
  exact ⟨tree, hblock, htree, hiff.mp htree⟩

end GrammarMachine
