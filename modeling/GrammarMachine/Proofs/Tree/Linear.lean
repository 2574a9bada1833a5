import GrammarMachine.Proofs.Stream.Check
import GrammarMachine.Proofs.Tree.Adds

/-!
Trees written as tags. At any time the builder stands for a row of tags without shifts, the parts of
its open nodes written out. A tag is added to the end of that row; a shift leaves the row as it is,
and the node after it is opened before the shifted value. So a tree without shifts is written as the
tags it was built from, and with shifts the text is still in the order of the tags.
-/

namespace GrammarMachine

/-- The tag without what trees do not keep. -/
def Tag.bare : Tag → Tag
  | .doctype language _ => .doctype language []
  | .reference slot => .reference { slot with traits := {} }
  | tag => tag

def Heading.openTag (h : Heading) : Tag :=
  .openNode h.traits h.language h.nodeType h.attributes

def Place.reference (p : Place) : Tag :=
  .reference { name := p.name, isArray := p.isArray }

mutual

def Child.toTags : Child → List Tag
  | .literal text => [.literal text]
  | .property name isArray value => .reference { name, isArray } :: value.toTags
  | .arrayStart name => [.reference { name, isArray := true }, .arrayStart]

def Filler.toTags : Filler → List Tag
  | .node heading children => heading.openTag :: (Child.toTagsOf children ++ [Tag.closeNode])
  | .literal text => [.literal text]
  | .null => [.null]
  | .gap => [.gap]

def Child.toTagsOf : List Child → List Tag
  | [] => []
  | child :: rest => child.toTags ++ Child.toTagsOf rest

end

/-- The tags between the doctype and the end. -/
def Node.fragmentTags (n : Node) : List Tag :=
  .openFragment n.heading.traits :: (Child.toTagsOf n.children ++ [Tag.closeFragment])

def Node.toTags (n : Node) : List Tag :=
  .doctype n.heading.language [] :: n.fragmentTags

@[simp] theorem Child.toTagsOf_append (children more : List Child) :
    Child.toTagsOf (children ++ more) = Child.toTagsOf children ++ Child.toTagsOf more := by
  induction children with
  | nil => rfl
  | cons child children ih => simp [Child.toTagsOf, ih]

@[simp] theorem Child.toTagsOf_singleton (child : Child) :
    Child.toTagsOf [child] = child.toTags := by
  simp [Child.toTagsOf]

theorem Place.toTags_child (place : Place) (value : Filler) :
    (place.child value).toTags = place.reference :: value.toTags := by
  simp [Place.child, Child.toTags, Place.reference]

mutual

theorem Child.adds_toTags : ∀ child : Child, Stream.Adds child.toTags [child]
  | .literal text => Stream.adds_literal text
  | .property name isArray value => (Filler.describes_toTags value).adds { name, isArray }
  | .arrayStart name => Stream.adds_arrayTags { name }

theorem Filler.describes_toTags : ∀ value : Filler, Stream.Describes value.toTags value
  | .node heading children =>
      (Child.adds_toTagsOf children).describes heading.traits heading.language heading.nodeType
        heading.attributes
  | .literal _ => fun _ _ _ _ _ => rfl
  | .null => fun _ _ _ _ _ => rfl
  | .gap => Stream.describes_gap

theorem Child.adds_toTagsOf :
    ∀ children : List Child, Stream.Adds (Child.toTagsOf children) children
  | [] => Stream.adds_nil
  | child :: rest => (Child.adds_toTags child).append (Child.adds_toTagsOf rest)

end

/-- A fragment is built again from its tags. -/
theorem Node.ofTags_toTags {n : Node} (hfragment : n.isFragment = true)
    (hattributes : n.heading.attributes = []) : Node.ofTags n.toTags = .ok n := by
  obtain ⟨⟨language, nodeType, traits, attributes⟩, children⟩ := n
  obtain rfl : nodeType = fragmentType := by simpa [Node.isFragment] using hfragment
  obtain rfl : attributes = [] := hattributes
  exact (Child.adds_toTagsOf children).ofTags language [] traits

namespace Builder

theorem pushAll_bare (b : Builder) (index : Nat) (tags : List Tag) (b' : Builder) :
    b.pushAll index (tags.map Tag.bare) = .ok b' ↔ b.pushAll index tags = .ok b' := by
  induction tags generalizing b index with
  | nil => rfl
  | cons tag tags ih =>
      have hsame : b.push index tag.bare = b.push index tag := by
        cases tag <;> rfl
      simp only [List.map_cons, pushAll, hsame]
      rcases b.push index tag with reason | next
      · simp
      · exact ih next (index + 1)

end Builder

/-- The opening of an unfinished node, after its reference if it has a place. -/
def Unfinished.openTags (node : Unfinished) : List Tag :=
  match node.place with
  | some place => [place.reference, node.heading.openTag]
  | none => [.openFragment node.heading.traits]

/-- The open nodes and their parts, from the outermost one on. -/
def Unfinished.written : List Unfinished → List Tag
  | [] => []
  | node :: outer => written outer ++ (node.openTags ++ Child.toTagsOf node.parts.reverse)

namespace Builder

/-- The row of tags that the builder stands for. A shifted value is in its old place still. -/
def written (b : Builder) : List Tag :=
  b.language.toList.map (Tag.doctype · []) ++ Unfinished.written b.opened ++
    (b.shifted.toList.flatMap fun s => (s.place.child s.value).toTags) ++
    b.pending.toList.map Place.reference ++ b.result.toList.flatMap Node.fragmentTags

/-- How a tag changes the row of tags that the builder stands for. -/
inductive Writes (b : Builder) (tag : Tag) (b' : Builder) : Prop where
  | append : b.shifted = none → b'.shifted = none → b'.written = b.written ++ [tag.bare] →
      Writes b tag b'
  | shift : tag.isShift = true → b'.written = b.written → Writes b tag b'
  | adopt (before value : List Tag) (name : String) : b.shifted ≠ none → opensNode tag = true →
      b.written = before ++ value →
      b'.written = before ++ (tag.bare :: .reference { name } :: value) → Writes b tag b'

theorem toTags_part {pending : Option Place} {tag : Tag} {child : Child}
    (h : tag.part? pending = some child) :
    child.toTags = pending.toList.map Place.reference ++ [tag.bare] := by
  cases tag with
  | literal text =>
      cases h
      cases pending with
      | none => rfl
      | some place => simp [Place.toTags_child, Filler.toTags, Tag.bare]
  | null =>
      obtain ⟨place, rfl, rfl⟩ := Option.map_eq_some_iff.mp h
      simp [Place.toTags_child, Filler.toTags, Tag.bare]
  | gap =>
      obtain ⟨place, rfl, rfl⟩ := Option.map_eq_some_iff.mp h
      simp [Place.toTags_child, Filler.toTags, Tag.bare]
  | arrayStart =>
      obtain ⟨⟨name, isArray⟩, rfl, harray⟩ := Option.bind_eq_some_iff.mp h
      obtain ⟨rfl, ⟨⟩⟩ := Option.ite_none_right_eq_some.mp harray
      rfl
  | _ => cases h

theorem Sound.writes {b b' : Builder} {index : Nat} {tag : Tag} (h : b.Sound)
    (hpush : b.push index tag = .ok b') : b.Writes tag b' := by
  obtain ⟨hresult, -, -⟩ := push_ok hpush
  have hrooted := h.rooted
  cases push_cases hpush with
  | doctype url attributes _ hlanguage =>
      rw [hlanguage] at hrooted
      have hopened := hrooted.eq_nil
      obtain ⟨hpending, hshifted⟩ := h.settled hopened
      refine .append hshifted hshifted ?_
      simp [written, hlanguage, hopened, hpending, hshifted, hresult, Unfinished.written, Tag.bare]
  | openFragment traits hopened hlanguage =>
      obtain ⟨hpending, hshifted⟩ := h.settled hopened
      refine .append hshifted hshifted ?_
      simp [written, hopened, hpending, hshifted, hresult, Unfinished.written,
        Unfinished.openTags, Tag.bare, fragmentHeading, Child.toTagsOf]
  | closeFragment hopened =>
      have hpending := pending_of_push hpush rfl rfl
      have hshifted := shifted_of_push hpush rfl
      rw [hopened] at hrooted
      refine .append hshifted hshifted ?_
      cases hrooted with
      | fragment traits parts hlanguage =>
          simp [written, hopened, hpending, hshifted, hresult, Unfinished.written,
            Unfinished.openTags, Tag.bare, Node.fragmentTags]
      | node _ _ _ _ hne => exact absurd rfl hne
  | @adopt s traits url nodeType attributes hshifted hne =>
      -- The reference of the old place stays, and the node is opened between it and the value.
      have hpending := h.single (by simp [hshifted])
      refine .adopt (b.language.toList.map (Tag.doctype · []) ++ Unfinished.written b.opened ++
        [s.place.reference]) s.value.toTags s.name (by simp [hshifted]) rfl ?_ ?_
      · simp [written, hshifted, hpending, hresult, Place.toTags_child]
      · simp [written, hresult, Unfinished.written, Unfinished.openTags, Tag.bare, Heading.openTag,
          Child.toTags]
  | openNode traits url nodeType attributes hshifted hpending hne =>
      refine .append hshifted rfl ?_
      simp [written, hshifted, hpending, hresult, Unfinished.written, Unfinished.openTags, Tag.bare,
        Heading.openTag, Child.toTagsOf]
  | closeNode hopened =>
      have hpending := pending_of_push hpush rfl rfl
      have hshifted := shifted_of_push hpush rfl
      rw [hopened] at hrooted
      refine .append hshifted hshifted ?_
      cases hrooted with
      | node heading parts place =>
          simp [written, hopened, hpending, hshifted, hresult, Unfinished.written,
            Unfinished.openTags, Unfinished.stored, Tag.bare, Place.toTags_child, Filler.toTags]
  | reference slot hne =>
      have hpending := pending_of_push hpush rfl rfl
      have hshifted := shifted_of_push hpush rfl
      refine .append hshifted hshifted ?_
      simp [written, hpending, hshifted, hresult, Tag.bare, Place.reference]
  | part hpart hinside =>
      have hshifted := shifted_of_push hpush (Tag.not_bracket_of_part? hpart).2.2
      refine .append hshifted (by simp [hshifted]) ?_
      rcases hopened : b.opened with _ | ⟨node, outer⟩
      · exact absurd hopened (hinside (h.settled hopened).1)
      · simp [written, addChild, hopened, hshifted, hresult, Unfinished.written,
          Unfinished.openTags, toTags_part hpart]
  | shift name hopened =>
      have hpending := pending_of_push hpush rfl rfl
      have hshifted := shifted_of_push hpush rfl
      refine .shift rfl ?_
      simp [written, hopened, hpending, hshifted, hresult, Unfinished.written, Unfinished.openTags,
        Place.child]

/-- Without shifts every tag is added to the end. -/
theorem Sound.written_pushAll {b b' : Builder} {index : Nat} {tags : List Tag} (h : b.Sound)
    (hnone : b.shifted = none) (hshifts : ∀ tag ∈ tags, tag.isShift = false)
    (hpush : b.pushAll index tags = .ok b') : b'.written = b.written ++ tags.map Tag.bare := by
  induction tags generalizing b index with
  | nil =>
      cases hpush
      simp
  | cons tag tags ih =>
      obtain ⟨next, hnext, hmore⟩ := pushAll_cons_ok hpush
      have htag : tag.isShift = false := hshifts tag List.mem_cons_self
      cases h.writes hnext with
      | append _ hnone' hwritten =>
          have htags : ∀ tag ∈ tags, tag.isShift = false :=
            fun tag hmem => hshifts tag (List.mem_cons_of_mem _ hmem)
          rw [ih (h.push hnext) hnone' htags hmore, hwritten]
          simp
      | shift hshift => simp [htag] at hshift
      | adopt _ _ _ hsome => exact absurd hnone hsome

theorem Sound.written_result {b : Builder} {n : Node} (h : b.Sound) (hresult : b.result = some n) :
    b.written = n.toTags ∧ n.isFragment = true ∧ n.heading.attributes = [] := by
  obtain ⟨hopened, url, traits, hlanguage, hheading⟩ := h.result n hresult
  obtain ⟨hpending, hshifted⟩ := h.settled hopened
  refine ⟨?_, ?_, ?_⟩
  · simp [written, hlanguage, hopened, hshifted, hpending, hresult, Unfinished.written,
      Node.toTags, hheading, fragmentHeading]
  · simp [Node.isFragment, hheading, fragmentHeading]
  · simp [hheading, fragmentHeading]

end Builder

/-- A fragment is built again from its tags, and a stream without shifts describes a tree exactly if
it is the row of tags of that tree, except for the traits of slots and the attributes of the
doctype. -/
theorem Node.ofTags_iff_toTags :
    (∀ n : Node, n.isFragment = true → n.heading.attributes = [] → Node.ofTags n.toTags = .ok n) ∧
      ∀ tags : List Tag, (∀ tag ∈ tags, tag.isShift = false) → ∀ n : Node,
        Node.ofTags tags = .ok n ↔
          n.isFragment = true ∧ n.heading.attributes = [] ∧ n.toTags = tags.map Tag.bare := by
  refine ⟨fun n => Node.ofTags_toTags, ?_⟩
  intro tags hshifts n
  constructor
  · intro h
    obtain ⟨b, hb, hresult⟩ := Node.ofTags_eq_ok.mp h
    have hwritten := Builder.sound_empty.written_pushAll rfl hshifts hb
    obtain ⟨htags, hfragment, hattributes⟩ :=
      (Builder.sound_empty.pushAll hb).written_result hresult
    exact ⟨hfragment, hattributes, htags.symm.trans hwritten⟩
  · rintro ⟨hfragment, hattributes, htags⟩
    have h := Node.ofTags_toTags hfragment hattributes
    rw [htags, Node.ofTags_eq_ok] at h
    simpa only [Builder.pushAll_bare, Node.ofTags_eq_ok] using h

/-- A list of an item and a gap, with traits and attributes that trees do not keep. -/
def Stream.itemTags : List Tag :=
  [.doctype "urn:list" [("version", .str "1")], .openFragment { gappy := true },
    .reference { name := "items", isArray := true, traits := { expression := true } }, .arrayStart,
    .reference { name := "items", isArray := true },
    .openNode { token := true } "urn:list" "Item" [("kind", .str "word")], .literal "a", .closeNode,
    .literal ",",
    .reference { name := "items", isArray := true, traits := { gappy := true } }, .gap,
    .reference { name := "rest" }, .null, .closeFragment]

theorem Node.ofTags_iff_toTags_items :
    ∃ n, Node.ofTags Stream.itemTags = .ok n ∧ n.toTags = Stream.itemTags.map Tag.bare ∧
      Node.ofTags n.toTags = .ok n := by
  obtain ⟨hbuilt, hiff⟩ := Node.ofTags_iff_toTags
  obtain ⟨n, hn⟩ : ∃ n, Node.ofTags Stream.itemTags = .ok n := ⟨_, rfl⟩
  have hshifts : ∀ tag ∈ Stream.itemTags, tag.isShift = false := by
    simp [Stream.itemTags, Tag.isShift]
  obtain ⟨hfragment, hattributes, htags⟩ := (hiff Stream.itemTags hshifts n).mp hn
  exact ⟨n, hn, htags, hbuilt n hfragment hattributes⟩

namespace Stream

theorem template_append (tags more : List Tag) :
    template (tags ++ more) = template tags ++ template more := by
  fun_induction template tags with
  | case1 => simp
  | case2 text rest ih => simp [template, ih, String.append_assoc]
  | case3 rest ih => simp [template, ih, String.append_assoc]
  | case4 tag rest hliteral hgap ih =>
      rw [List.cons_append, template, ih]
      all_goals assumption

theorem template_cons (tag : Tag) (tags : List Tag) :
    template (tag :: tags) = template [tag] ++ template tags :=
  template_append [tag] tags

theorem template_bare (tag : Tag) : template [tag.bare] = template [tag] := by
  cases tag <;> rfl

theorem template_of_isShift {tag : Tag} (h : tag.isShift = true) : template [tag] = "" := by
  cases tag with
  | shift name => rfl
  | _ => cases h

theorem template_of_opensNode {tag : Tag} (h : Builder.opensNode tag = true) :
    template [tag] = "" := by
  cases tag with
  | openNode => rfl
  | _ => cases h

end Stream

mutual

theorem Child.template_toTags : ∀ child : Child, Stream.template child.toTags = child.sourceText
  | .literal text => by simp [Child.toTags, Child.sourceText, Stream.template]
  | .arrayStart name => rfl
  | .property name isArray value => by
      simp [Child.toTags, Child.sourceText, Stream.template, Filler.template_toTags value]

theorem Filler.template_toTags : ∀ value : Filler, Stream.template value.toTags = value.sourceText
  | .node heading children => by
      simp [Filler.toTags, Filler.sourceText, Stream.template, Stream.template_append,
        Heading.openTag, Child.template_toTagsOf children]
  | .literal text => by simp [Filler.toTags, Filler.sourceText, Stream.template]
  | .null => rfl
  | .gap => by simp [Filler.toTags, Filler.sourceText, Stream.template]

theorem Child.template_toTagsOf : ∀ children : List Child,
    Stream.template (Child.toTagsOf children) = Child.sourceTextOf children
  | [] => rfl
  | child :: rest => by
      rw [Child.toTagsOf, Stream.template_append, Child.template_toTags child,
        Child.template_toTagsOf rest, Child.sourceTextOf]

end

theorem Node.template_toTags (n : Node) : Stream.template n.toTags = n.sourceText := by
  simp [Node.toTags, Node.fragmentTags, Stream.template, Stream.template_append,
    Child.template_toTagsOf, Node.sourceText]

namespace Builder

theorem Writes.template {b b' : Builder} {tag : Tag} (h : b.Writes tag b') :
    Stream.template b'.written = Stream.template b.written ++ Stream.template [tag] := by
  cases h with
  | append _ _ hwritten => rw [hwritten, Stream.template_append, Stream.template_bare]
  | shift hshift hwritten => rw [hwritten, Stream.template_of_isShift hshift, String.append_empty]
  | adopt before value name _ hopens hbefore hwritten =>
      have hreference : Stream.template (.reference { name } :: value) = Stream.template value :=
        rfl
      rw [hwritten, hbefore, Stream.template_append, Stream.template_append, Stream.template_cons,
        Stream.template_bare, Stream.template_of_opensNode hopens, hreference, String.empty_append,
        String.append_empty]

theorem Sound.template_pushAll {b b' : Builder} {index : Nat} {tags : List Tag} (h : b.Sound)
    (hpush : b.pushAll index tags = .ok b') :
    Stream.template b'.written = Stream.template b.written ++ Stream.template tags := by
  induction tags generalizing b index with
  | nil =>
      cases hpush
      simp [Stream.template]
  | cons tag tags ih =>
      obtain ⟨next, hnext, hmore⟩ := pushAll_cons_ok hpush
      rw [ih (h.push hnext) hmore, (h.writes hnext).template, Stream.template_cons tag tags,
        String.append_assoc]

end Builder

/-- The text of a tree is the text of its tags in order, however its values were shifted. -/
theorem Node.sourceText_ofTags {tags : List Tag} {n : Node} (h : Node.ofTags tags = .ok n) :
    n.sourceText = Stream.template tags := by
  obtain ⟨b, hb, hresult⟩ := Node.ofTags_eq_ok.mp h
  obtain ⟨hwritten, -, -⟩ := (Builder.sound_empty.pushAll hb).written_result hresult
  have htemplate := Builder.sound_empty.template_pushAll hb
  rw [hwritten, Node.template_toTags] at htemplate
  simpa [Builder.written, Unfinished.written, Stream.template] using htemplate

/-- A number, shifted into a difference, which is shifted into another one. -/
def Stream.differenceTags : List Tag :=
  [.doctype "urn:sum" [], .openFragment {}, .reference .anonymous,
    .openNode {} "urn:sum" "Number" [], .literal "1", .closeNode,
    .shift "left", .openNode {} "urn:sum" "Difference" [], .literal "-",
      .reference { name := "right" }, .literal "2", .closeNode,
    .shift "left", .openNode {} "urn:sum" "Difference" [], .literal " - ",
      .reference { name := "right" }, .gap, .closeNode, .closeFragment]

theorem Node.sourceText_ofTags_differences :
    ∃ n, Node.ofTags Stream.differenceTags = .ok n ∧ n.sourceText = "1-2 - $\x7b\x7d" := by
  obtain ⟨n, hn⟩ : ∃ n, Node.ofTags Stream.differenceTags = .ok n := ⟨_, rfl⟩
  have htext : Stream.template Stream.differenceTags = "1-2 - $\x7b\x7d" := by decide
  exact ⟨n, hn, (Node.sourceText_ofTags hn).trans htext⟩

end GrammarMachine
