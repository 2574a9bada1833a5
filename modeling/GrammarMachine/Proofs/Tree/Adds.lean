import GrammarMachine.Machine.Plan
import GrammarMachine.Proofs.Machine.Plan
import GrammarMachine.Proofs.Tree.Builder

/-!
The parts that rows of tags add to a node. A row that leaves the builder as it found it, but for
parts added to the innermost open node, adds these parts wherever it stands.
-/

namespace GrammarMachine

/-- The builder between two values: it is inside the node `node` and the nodes around it. -/
def Builder.inside (language : Option String) (node : Unfinished) (outer : List Unfinished) :
    Builder :=
  { language, opened := node :: outer }

/-- The builder inside the same nodes, when a value is awaited. -/
def Builder.awaiting (language : Option String) (node : Unfinished) (outer : List Unfinished)
    (place : Place) : Builder :=
  { language, opened := node :: outer, pending := some place }

/-- The row of tags adds the children to the innermost open node. -/
def Stream.Adds (tags : List Tag) (children : List Child) : Prop :=
  ∀ language node outer index,
    (Builder.inside language node outer).pushAll index tags =
      .ok (.inside language { node with parts := children.reverse ++ node.parts } outer)

/-- The row of tags describes the value, wherever one is awaited. -/
def Stream.Describes (tags : List Tag) (value : Filler) : Prop :=
  ∀ language node outer place index,
    (Builder.awaiting language node outer place).pushAll index tags =
      .ok (.inside language { node with parts := place.child value :: node.parts } outer)

namespace Stream

theorem adds_nil : Adds [] [] :=
  fun _ _ _ _ => rfl

theorem Adds.append {tags more : List Tag} {children others : List Child} (h : Adds tags children)
    (hmore : Adds more others) : Adds (tags ++ more) (children ++ others) := by
  intro language node outer index
  rw [List.reverse_append, List.append_assoc]
  exact Builder.pushAll_append_ok (h language node outer index) (hmore _ _ _ _)

theorem adds_literal (text : String) : Adds [.literal text] [.literal text] :=
  fun _ _ _ _ => rfl

theorem adds_textTags (text : String) :
    Adds (textTags text) (if text.isEmpty then [] else [.literal text]) := by
  unfold textTags
  split
  · exact adds_nil
  · exact adds_literal text

theorem adds_arrayTags (slot : Slot) : Adds (arrayTags slot) [.arrayStart slot.name] :=
  fun _ _ _ _ => rfl

theorem describes_gap : Describes [.gap] .gap :=
  fun _ _ _ _ _ => rfl

theorem Describes.adds {tags : List Tag} {value : Filler} (h : Describes tags value) (slot : Slot) :
    Adds (.reference slot :: tags) [.property slot.name slot.isArray value] :=
  fun language node outer index => h language node outer ⟨slot.name, slot.isArray⟩ (index + 1)

theorem adds_gap (slot : Slot) :
    Adds [.reference slot, .gap] [.property slot.name slot.isArray .gap] :=
  describes_gap.adds slot

theorem pushAll_closeNode (language : Option String) (heading : Heading) (parts : List Child)
    (place : Place) (node : Unfinished) (outer : List Unfinished) (index : Nat) :
    (Builder.inside language ⟨heading, parts, some place⟩ (node :: outer)).pushAll index
        [.closeNode] =
      .ok (.inside language
        { node with parts := place.child (.node heading parts.reverse) :: node.parts } outer) :=
  rfl

theorem Adds.describes {tags : List Tag} {children : List Child} (h : Adds tags children)
    (traits : NodeTraits) (url nodeType : String) (attributes : Fields) :
    Describes (.openNode traits url nodeType attributes :: (tags ++ [Tag.closeNode]))
      (.node ⟨url, nodeType, traits, attributes⟩ children) := by
  intro language node outer place index
  have hopen : (Builder.awaiting language node outer place).pushAll index
      [.openNode traits url nodeType attributes] =
        .ok (.inside language ⟨⟨url, nodeType, traits, attributes⟩, [], some place⟩
          (node :: outer)) := rfl
  rw [← List.singleton_append]
  refine Builder.pushAll_append_ok hopen (Builder.pushAll_append_ok (h _ _ _ _) ?_)
  rw [pushAll_closeNode, List.append_nil, List.reverse_reverse]

theorem Adds.node {tags : List Tag} {children : List Child} (h : Adds tags children) (slot : Slot)
    (traits : NodeTraits) (url nodeType : String) (attributes : Fields) :
    Adds ([Tag.reference slot, .openNode traits url nodeType attributes] ++
        (tags ++ [Tag.closeNode]))
      [.property slot.name slot.isArray (.node ⟨url, nodeType, traits, attributes⟩ children)] :=
  (h.describes traits url nodeType attributes).adds slot

/-- The node after a shift takes over the slot of the value completed last, which it adopts. -/
theorem pushAll_adopt {value : Filler}
    (hvalue : value = .gap ∨ ∃ heading parts, value = .node heading parts)
    (language : Option String) (node : Unfinished) (outer : List Unfinished) (place : Place)
    (adopted : String) (traits : NodeTraits) (url nodeType : String) (attributes : Fields)
    (index : Nat) :
    (Builder.inside language { node with parts := place.child value :: node.parts } outer).pushAll
        index [.shift adopted, .openNode traits url nodeType attributes] =
      .ok (.inside language ⟨⟨url, nodeType, traits, attributes⟩,
        [.property adopted false value], some place⟩ (node :: outer)) := by
  rcases hvalue with rfl | ⟨heading, parts, rfl⟩
  · rfl
  · rfl

theorem Adds.adopt {tags inner : List Tag} {children : List Child} {name : String}
    {isArray : Bool} {value : Filler} (h : Adds tags [.property name isArray value])
    (hvalue : value = .gap ∨ ∃ heading parts, value = .node heading parts)
    (hinner : Adds inner children) (adopted : String) (traits : NodeTraits)
    (url nodeType : String) (attributes : Fields) :
    Adds (tags ++ ([Tag.shift adopted, .openNode traits url nodeType attributes] ++
        (inner ++ [Tag.closeNode])))
      [.property name isArray (.node ⟨url, nodeType, traits, attributes⟩
        (.property adopted false value :: children))] := by
  intro language node outer index
  refine Builder.pushAll_append_ok (h language node outer index) ?_
  have hopen := pushAll_adopt hvalue language node outer ⟨name, isArray⟩ adopted traits url nodeType
    attributes
  refine Builder.pushAll_append_ok (hopen _) (Builder.pushAll_append_ok (hinner _ _ _ _) ?_)
  rw [pushAll_closeNode, List.reverse_append, List.reverse_reverse]
  rfl

/-- The tree of a stream whose fragment has the given parts. -/
theorem Adds.ofTags {tags : List Tag} {children : List Child} (h : Adds tags children)
    (url : String) (attributes : Fields) (traits : NodeTraits) :
    Node.ofTags ([Tag.doctype url attributes, .openFragment traits] ++
        (tags ++ [Tag.closeFragment])) =
      .ok ⟨{ language := url, nodeType := fragmentType, traits }, children⟩ := by
  have hopen : ({} : Builder).pushAll 0 [.doctype url attributes, .openFragment traits] =
      .ok (.inside (some url) { heading := { language := url, nodeType := fragmentType, traits }
                                place := none } []) := rfl
  have hclose : ∀ index, (Builder.inside (some url)
      { heading := { language := url, nodeType := fragmentType, traits }
        parts := children.reverse ++ []
        place := none } []).pushAll index [.closeFragment] =
      .ok { language := some url
            result := some ⟨{ language := url, nodeType := fragmentType, traits },
              (children.reverse ++ []).reverse⟩ } := fun _ => rfl
  rw [List.append_nil, List.reverse_reverse] at hclose
  have hall := Builder.pushAll_append_ok hopen
    (Builder.pushAll_append_ok (h _ _ _ _) (by rw [List.append_nil]; exact hclose _))
  rw [Node.ofTags, hall]

end Stream

end GrammarMachine
