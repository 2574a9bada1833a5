import GrammarMachine.Tree.Build

/-!
How the builder of trees takes the tags of a value. Between values it is idle; after a reference it
awaits a value, and after a shift a node.
-/

namespace GrammarMachine.Builder

/-- Open nodes inside each other: the fragment and `depth` nodes that have a place. -/
def Nested : Nat → List Unfinished → Prop
  | 0, [_] => True
  | depth + 1, node :: rest => node.place.isSome = true ∧ Nested depth rest
  | _, _ => False

/-- Inside the fragment and `depth` nodes, with no value under way. -/
structure Idle (b : Builder) (depth : Nat) : Prop where
  nested : Nested depth b.opened
  pending : b.pending = none
  shifted : b.shifted = none
  result : b.result = none

/-- A value is awaited for a place. -/
structure Awaits (b : Builder) (depth : Nat) (place : Place) : Prop where
  nested : Nested depth b.opened
  pending : b.pending = some place
  shifted : b.shifted = none
  result : b.result = none

/-- A node is awaited that adopts a value. -/
structure Holds (b : Builder) (depth : Nat) : Prop where
  nested : Nested depth b.opened
  pending : b.pending = none
  shifted : b.shifted.isSome = true
  result : b.result = none

/-- The part completed last is a value that can be shifted. -/
def Completed (b : Builder) : Prop :=
  ∃ (node : Unfinished) (rest : List Unfinished) (slot : String) (isArray : Bool) (value : Filler)
    (parts : List Child),
    b.opened = { node with parts := .property slot isArray value :: parts } :: rest ∧
      (value = .gap ∨ ∃ heading children, value = .node heading children)

theorem pushAll_append (b : Builder) (index : Nat) (tags more : List Tag) :
    b.pushAll index (tags ++ more) =
      match b.pushAll index tags with
      | .ok b => b.pushAll (index + tags.length) more
      | .error error => .error error := by
  induction tags generalizing b index with
  | nil => rfl
  | cons tag tags ih =>
      simp only [List.cons_append, pushAll, List.length_cons]
      rcases b.push index tag with reason | b'
      · rfl
      · simp only [ih, Nat.add_assoc, Nat.add_comm 1]

theorem pushAll_append_ok_iff {b b'' : Builder} {index : Nat} {tags more : List Tag} :
    b.pushAll index (tags ++ more) = .ok b'' ↔
      ∃ b', b.pushAll index tags = .ok b' ∧ b'.pushAll (index + tags.length) more = .ok b'' := by
  rw [pushAll_append]
  rcases b.pushAll index tags with error | b'
  · simp
  · simp

theorem pushAll_append_ok {b b' b'' : Builder} {index : Nat} {tags more : List Tag}
    (h : b.pushAll index tags = .ok b') (h' : b'.pushAll (index + tags.length) more = .ok b'') :
    b.pushAll index (tags ++ more) = .ok b'' :=
  pushAll_append_ok_iff.mpr ⟨b', h, h'⟩

theorem pushAll_singleton {b b' : Builder} {index : Nat} {tag : Tag}
    (h : b.push index tag = .ok b') : b.pushAll index [tag] = .ok b' := by
  simp [pushAll, h]

theorem Nested.addChild {b : Builder} {depth : Nat} (h : Nested depth b.opened) (child : Child) :
    Nested depth (b.addChild child).opened := by
  unfold Builder.addChild
  split
  · rename_i node rest hopened
    rw [hopened] at h
    rcases depth with _ | depth
    · rcases rest with _ | ⟨_, _⟩
      · trivial
      · exact h.elim
    · exact h
  · exact h

theorem Nested.ne_nil {depth : Nat} {opened : List Unfinished} (h : Nested depth opened) :
    opened.isEmpty = false := by
  rcases opened with _ | ⟨node, rest⟩
  · cases depth <;> exact h.elim
  · rfl

@[simp] theorem addChild_pending (b : Builder) (child : Child) :
    (b.addChild child).pending = b.pending := by
  unfold addChild
  split <;> rfl

@[simp] theorem addChild_shifted (b : Builder) (child : Child) :
    (b.addChild child).shifted = b.shifted := by
  unfold addChild
  split <;> rfl

@[simp] theorem addChild_result (b : Builder) (child : Child) :
    (b.addChild child).result = b.result := by
  unfold addChild
  split <;> rfl

@[simp] theorem length_addChild (b : Builder) (child : Child) :
    (b.addChild child).opened.length = b.opened.length := by
  unfold addChild
  split <;> simp_all

theorem completed_addChild {b : Builder} {depth : Nat} (h : Nested depth b.opened) {slot : String}
    {isArray : Bool} {value : Filler}
    (hvalue : value = .gap ∨ ∃ heading children, value = .node heading children) :
    (b.addChild (.property slot isArray value)).Completed := by
  rcases hopened : b.opened with _ | ⟨node, rest⟩
  · have hempty := h.ne_nil
    simp [hopened] at hempty
  · exact ⟨node, rest, slot, isArray, value, node.parts, by simp [addChild, hopened], hvalue⟩

theorem Idle.refusal {b : Builder} {depth : Nat} (h : b.Idle depth) (tag : Tag) :
    b.refusal? tag = none := by
  simp [refusal?, h.result, h.shifted, h.pending]

theorem Awaits.refusal {b : Builder} {depth : Nat} {place : Place} (h : b.Awaits depth place)
    (tag : Tag) (htag : tag.fillsSlot = true ∨ startsArray tag = true) :
    b.refusal? tag = none := by
  rcases htag with htag | htag <;> simp [refusal?, h.result, h.shifted, htag]

theorem Idle.push_reference {b : Builder} {depth : Nat} (h : b.Idle depth) (index : Nat)
    (slot : Slot) :
    ∃ b', b.push index (.reference slot) = .ok b' ∧ b'.Awaits depth ⟨slot.name, slot.isArray⟩ := by
  refine ⟨{ b with pending := some ⟨slot.name, slot.isArray⟩ }, ?_, ?_⟩
  · simp [push, h.refusal, refer, h.nested.ne_nil]
  · exact ⟨h.nested, rfl, h.shifted, h.result⟩

theorem Idle.push_literal {b : Builder} {depth : Nat} (h : b.Idle depth) (index : Nat)
    (text : String) : ∃ b', b.push index (.literal text) = .ok b' ∧ b'.Idle depth := by
  refine ⟨b.addChild (.literal text), ?_, ?_⟩
  · simp [push, h.refusal, addText, h.pending, h.nested.ne_nil]
  · exact ⟨h.nested.addChild _, by simp [h.pending], by simp [h.shifted], by simp [h.result]⟩

theorem Idle.push_closeNode {b : Builder} {depth : Nat} (h : b.Idle (depth + 1)) (index : Nat) :
    ∃ b', b.push index .closeNode = .ok b' ∧ b'.Idle depth ∧ b'.Completed := by
  have hnested := h.nested
  rcases hopened : b.opened with _ | ⟨node, _ | ⟨outer, rest⟩⟩
  · rw [hopened] at hnested
    exact hnested.elim
  · rw [hopened] at hnested
    cases depth <;> exact hnested.2.elim
  · rw [hopened] at hnested
    obtain ⟨place, hplace⟩ := Option.isSome_iff_exists.mp hnested.1
    have hbelow : Nested depth ({ b with opened := outer :: rest } : Builder).opened := hnested.2
    refine ⟨({ b with opened := outer :: rest } : Builder).addChild
      (place.child (.node node.heading node.parts.reverse)), ?_, ?_, ?_⟩
    · simp [push, h.refusal, closeNode, hopened, hplace]
    · exact ⟨hbelow.addChild _, by simp [h.pending], by simp [h.shifted], by simp [h.result]⟩
    · exact completed_addChild hbelow (.inr ⟨_, _, rfl⟩)

theorem Idle.push_shift {b : Builder} {depth : Nat} (h : b.Idle depth) (hcompleted : b.Completed)
    (index : Nat) (name : String) :
    ∃ b', b.push index (.shift name) = .ok b' ∧ b'.Holds depth := by
  obtain ⟨node, rest, slot, isArray, value, parts, hopened, hvalue⟩ := hcompleted
  have hnested := h.nested
  rw [hopened] at hnested
  refine ⟨{ b with
    opened := { node with parts } :: rest
    shifted := some ⟨name, ⟨slot, isArray⟩, value⟩ }, ?_, ?_⟩
  · rcases hvalue with rfl | ⟨heading, children, rfl⟩
    · simp [push, h.refusal, shift, hopened]
    · simp [push, h.refusal, shift, hopened]
  · refine ⟨?_, h.pending, rfl, h.result⟩
    rcases depth with _ | depth
    · rcases rest with _ | ⟨_, _⟩
      · trivial
      · exact hnested.elim
    · exact hnested

theorem Idle.push_closeFragment {b : Builder} (h : b.Idle 0) (index : Nat) :
    ∃ b', b.push index .closeFragment = .ok b' ∧ b'.result.isSome = true := by
  have hnested := h.nested
  rcases hopened : b.opened with _ | ⟨node, _ | ⟨outer, rest⟩⟩
  · rw [hopened] at hnested
    exact hnested.elim
  · refine ⟨{ b with opened := [], result := some ⟨node.heading, node.parts.reverse⟩ }, ?_, rfl⟩
    simp [push, h.refusal, closeFragment, hopened]
  · rw [hopened] at hnested
    exact hnested.elim

theorem Awaits.push_arrayStart {b : Builder} {depth : Nat} {name : String}
    (h : b.Awaits depth ⟨name, true⟩) (index : Nat) :
    ∃ b', b.push index .arrayStart = .ok b' ∧ b'.Idle depth := by
  have hnested : Nested depth ({ b with pending := none } : Builder).opened := h.nested
  refine ⟨({ b with pending := none } : Builder).addChild (.arrayStart name), ?_, ?_⟩
  · simp [push, h.refusal .arrayStart (.inr rfl), startArray, h.pending]
  · exact ⟨hnested.addChild _, by simp, by simp [h.shifted], by simp [h.result]⟩

theorem Awaits.fill {b : Builder} {depth : Nat} {place : Place} (h : b.Awaits depth place)
    (value : Filler) (reason : Misplacement) :
    ∃ b', b.fill value reason = .ok b' ∧ b'.Idle depth ∧ (value = .gap → b'.Completed) := by
  have hnested : Nested depth ({ b with pending := none } : Builder).opened := h.nested
  refine ⟨({ b with pending := none } : Builder).addChild (place.child value), ?_, ?_, ?_⟩
  · simp [Builder.fill, h.pending]
  · exact ⟨hnested.addChild _, by simp, by simp [h.shifted], by simp [h.result]⟩
  · intro hgap
    exact completed_addChild hnested (.inl hgap)

theorem Awaits.push_null {b : Builder} {depth : Nat} {place : Place} (h : b.Awaits depth place)
    (index : Nat) : ∃ b', b.push index .null = .ok b' ∧ b'.Idle depth := by
  obtain ⟨b', hfill, hidle, -⟩ := h.fill .null .nullWithoutReference
  exact ⟨b', by simpa [push, h.refusal .null (.inl rfl)] using hfill, hidle⟩

theorem Awaits.push_gap {b : Builder} {depth : Nat} {place : Place} (h : b.Awaits depth place)
    (index : Nat) : ∃ b', b.push index .gap = .ok b' ∧ b'.Idle depth ∧ b'.Completed := by
  obtain ⟨b', hfill, hidle, hcompleted⟩ := h.fill .gap .gapWithoutReference
  exact ⟨b', by simpa [push, h.refusal .gap (.inl rfl)] using hfill, hidle, hcompleted rfl⟩

theorem Awaits.push_openNode {b : Builder} {depth : Nat} {place : Place}
    (h : b.Awaits depth place) (index : Nat) (traits : NodeTraits) (url nodeType : String)
    (attributes : Fields) :
    ∃ b', b.push index (.openNode traits url nodeType attributes) = .ok b' ∧
      b'.Idle (depth + 1) := by
  refine ⟨{ b with
    shifted := none
    pending := none
    opened := { heading := ⟨url, nodeType, traits, attributes⟩, place := some place } ::
      b.opened }, ?_, ?_⟩
  · simp [push, h.refusal (.openNode traits url nodeType attributes) (.inl rfl), openNode,
      h.nested.ne_nil, h.shifted, h.pending]
  · exact ⟨⟨rfl, h.nested⟩, rfl, rfl, h.result⟩

theorem Holds.push_openNode {b : Builder} {depth : Nat} (h : b.Holds depth) (index : Nat)
    (traits : NodeTraits) (url nodeType : String) (attributes : Fields) :
    ∃ b', b.push index (.openNode traits url nodeType attributes) = .ok b' ∧
      b'.Idle (depth + 1) := by
  obtain ⟨shifted, hshifted⟩ := Option.isSome_iff_exists.mp h.shifted
  have hrefusal : b.refusal? (.openNode traits url nodeType attributes) = none := by
    simp [refusal?, h.result, opensNode, h.pending]
  refine ⟨{ b with
    shifted := none
    pending := none
    opened := {
      heading := ⟨url, nodeType, traits, attributes⟩
      parts := [.property shifted.name false shifted.value]
      place := some shifted.place } :: b.opened }, ?_, ?_⟩
  · simp [push, hrefusal, openNode, h.nested.ne_nil, hshifted]
  · exact ⟨⟨rfl, h.nested⟩, rfl, rfl, h.result⟩

end GrammarMachine.Builder
