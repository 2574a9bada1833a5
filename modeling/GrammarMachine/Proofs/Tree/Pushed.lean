import GrammarMachine.Proofs.Tree.Builder

/-!
What one tag can do to the builder of trees, and what holds of the builder after any tags: its open
nodes are the fragment, which is stored nowhere, and nodes that have a place.
-/

namespace GrammarMachine

def fragmentHeading (url : String) (traits : NodeTraits) : Heading :=
  { language := url, nodeType := fragmentType, traits }

/-- The node that is stored when a node is closed. The fragment is stored nowhere. -/
def Unfinished.stored (node : Unfinished) : List Child :=
  node.place.toList.map fun place => place.child (.node node.heading node.parts.reverse)

/-- The part that a tag alone makes. A value goes to the pending place. -/
def Tag.part? (pending : Option Place) : Tag → Option Child
  | .literal text => some (pending.elim (.literal text) (·.child (.literal text)))
  | .null => pending.map (·.child .null)
  | .gap => pending.map (·.child .gap)
  | .arrayStart => pending.bind fun place =>
      if place.isArray then some (.arrayStart place.name) else none
  | _ => none

theorem Tag.not_bracket_of_part? {pending : Option Place} {tag : Tag} {child : Child}
    (h : tag.part? pending = some child) :
    tag.opens = false ∧ tag.closes = false ∧ Builder.opensNode tag = false := by
  cases tag with
  | literal | null | gap | arrayStart => exact ⟨rfl, rfl, rfl⟩
  | _ => cases h

namespace Builder

/-- What one tag can do to the builder. -/
inductive Pushed (b : Builder) (index : Nat) : Tag → Builder → Prop where
  | doctype (url : String) (attributes : Fields) : index = 0 → b.language = none →
      Pushed b index (.doctype url attributes) { b with language := some url }
  | openFragment {url : String} (traits : NodeTraits) : b.opened = [] → b.language = some url →
      Pushed b index (.openFragment traits)
        { b with opened := [⟨fragmentHeading url traits, [], none⟩] }
  | closeFragment {node : Unfinished} : b.opened = [node] →
      Pushed b index .closeFragment
        { b with opened := [], result := some ⟨node.heading, node.parts.reverse⟩ }
  | adopt {s : Shifted} (traits : NodeTraits) (url nodeType : String) (attributes : Fields) :
      b.shifted = some s → b.opened ≠ [] →
      Pushed b index (.openNode traits url nodeType attributes)
        { b with
          shifted := none
          pending := none
          opened := ⟨⟨url, nodeType, traits, attributes⟩, [.property s.name false s.value],
            some s.place⟩ :: b.opened }
  | openNode {place : Place} (traits : NodeTraits) (url nodeType : String) (attributes : Fields) :
      b.shifted = none → b.pending = some place → b.opened ≠ [] →
      Pushed b index (.openNode traits url nodeType attributes)
        { b with
          shifted := none
          pending := none
          opened := ⟨⟨url, nodeType, traits, attributes⟩, [], some place⟩ :: b.opened }
  | closeNode {node outer : Unfinished} {rest : List Unfinished} :
      b.opened = node :: outer :: rest →
      Pushed b index .closeNode
        { b with opened := { outer with parts := node.stored ++ outer.parts } :: rest }
  | reference (slot : Slot) : b.opened ≠ [] →
      Pushed b index (.reference slot) { b with pending := some ⟨slot.name, slot.isArray⟩ }
  | part {tag : Tag} {child : Child} : tag.part? b.pending = some child →
      (b.pending = none → b.opened ≠ []) →
      Pushed b index tag ({ b with pending := none }.addChild child)
  | shift {node : Unfinished} {rest : List Unfinished} {slot : String} {isArray : Bool}
      {value : Filler} {parts : List Child} (name : String) :
      b.opened = { node with parts := .property slot isArray value :: parts } :: rest →
      (value = .gap ∨ ∃ heading children, value = .node heading children) →
      Pushed b index (.shift name)
        { b with
          opened := { node with parts } :: rest
          shifted := some ⟨name, ⟨slot, isArray⟩, value⟩ }

section Cases

variable {b b' : Builder} {index : Nat}

theorem openNode_pushed {traits : NodeTraits} {url nodeType : String} {attributes : Fields}
    (h : b.openNode ⟨url, nodeType, traits, attributes⟩ = .ok b') :
    b.Pushed index (.openNode traits url nodeType attributes) b' := by
  simp only [openNode] at h
  split at h
  · cases h
  · rename_i hopened
    have hne : b.opened ≠ [] := by simpa using hopened
    split at h
    · rename_i hshifted
      cases h
      exact .adopt traits url nodeType attributes hshifted hne
    · rename_i hshifted hpending
      cases h
      exact .openNode traits url nodeType attributes hshifted hpending hne
    · cases h

theorem closeNode_pushed (h : b.closeNode = .ok b') : b.Pushed index .closeNode b' := by
  simp only [closeNode] at h
  split at h
  · rename_i node outer rest hopened
    have hclose := @Pushed.closeNode b index node outer rest hopened
    split at h
    · rename_i hplace
      cases h
      simpa [Unfinished.stored, hplace, addChild] using hclose
    · rename_i hplace
      cases h
      simpa [Unfinished.stored, hplace] using hclose
  · cases h

theorem fill_pushed {tag : Tag} {value : Filler} {reason : Misplacement}
    (hpart : ∀ place, tag.part? (some place) = some (place.child value))
    (h : b.fill value reason = .ok b') : b.Pushed index tag b' := by
  simp only [fill] at h
  split at h
  · rename_i place hpending
    cases h
    refine .part ?_ (by simp [hpending])
    rw [hpending]
    exact hpart place
  · cases h

theorem addText_pushed {text : String} (h : b.addText text = .ok b') :
    b.Pushed index (.literal text) b' := by
  simp only [addText] at h
  split at h
  · exact fill_pushed (fun _ => rfl) h
  · rename_i hpending
    have hpart : (Tag.literal text).part? b.pending = some (.literal text) := by
      simp [Tag.part?, hpending]
    have hsame : ({ b with pending := none } : Builder) = b := by rw [← hpending]
    split at h
    · cases h
    · rename_i hopened
      have hpushed := @Pushed.part b index _ _ hpart (fun _ => by simpa using hopened)
      rw [hsame] at hpushed
      cases h
      exact hpushed

theorem shift_pushed {name : String} (h : b.shift name = .ok b') :
    b.Pushed index (.shift name) b' := by
  simp only [shift] at h
  split at h
  · cases h
  · rename_i node rest hopened
    split at h
    · cases h
    · rename_i hparts
      cases h
      exact .shift name (by rw [hopened, ← hparts]) (.inr ⟨_, _, rfl⟩)
    · rename_i hparts
      cases h
      exact .shift name (by rw [hopened, ← hparts]) (.inl rfl)
    · cases h

theorem push_cases {tag : Tag} (h : b.push index tag = .ok b') : b.Pushed index tag b' := by
  unfold push at h
  split at h
  · cases h
  cases tag with
  | doctype url attributes =>
      simp only [setDoctype] at h
      split at h
      · cases h
      · rename_i hfirst
        cases h
        obtain ⟨hlanguage, hindex⟩ : b.language = none ∧ index = 0 := by simpa using hfirst
        exact .doctype url attributes hindex hlanguage
  | openFragment traits =>
      simp only [openFragment] at h
      split at h
      · cases h
      · rename_i hopened
        split at h
        · cases h
        · rename_i hlanguage
          cases h
          exact .openFragment traits (by simpa using hopened) hlanguage
  | closeFragment =>
      simp only [closeFragment] at h
      split at h
      · rename_i hopened
        cases h
        exact .closeFragment hopened
      · cases h
  | openNode traits url nodeType attributes => exact openNode_pushed h
  | closeNode => exact closeNode_pushed h
  | reference slot =>
      simp only [refer] at h
      split at h
      · cases h
      · rename_i hopened
        cases h
        exact .reference slot (by simpa using hopened)
  | arrayStart =>
      simp only [startArray] at h
      split at h
      · rename_i hpending
        cases h
        exact .part (by simp [Tag.part?, hpending]) (by simp [hpending])
      · cases h
  | null => exact fill_pushed (fun _ => rfl) h
  | gap => exact fill_pushed (fun _ => rfl) h
  | literal text => exact addText_pushed h
  | shift name => exact shift_pushed h

end Cases

theorem Pushed.push {b b' : Builder} {index : Nat} {tag : Tag} (h : b.Pushed index tag b')
    (hrefusal : b.refusal? tag = none) : b.push index tag = .ok b' := by
  unfold Builder.push
  rw [hrefusal]
  cases h with
  | doctype url attributes hindex hlanguage => simp [setDoctype, hindex, hlanguage]
  | openFragment traits hopened hlanguage =>
      simp [Builder.openFragment, hopened, hlanguage, fragmentHeading]
  | closeFragment hopened => simp [Builder.closeFragment, hopened]
  | adopt traits url nodeType attributes hshifted hne =>
      simp [Builder.openNode, hshifted, hne]
  | openNode traits url nodeType attributes hshifted hpending hne =>
      simp [Builder.openNode, hshifted, hpending, hne]
  | @closeNode node outer rest hopened =>
      rcases hplace : node.place with _ | place
      · simp [Builder.closeNode, hopened, hplace, Unfinished.stored]
      · simp [Builder.closeNode, hopened, hplace, Unfinished.stored, addChild]
  | reference slot hne => simp [refer, hne]
  | part hpart hinside =>
      cases tag with
      | literal text =>
          cases hpart
          rcases hpending : b.pending with _ | place
          · have hsame : ({ b with pending := none } : Builder) = b := by rw [← hpending]
            simp [addText, hpending, hinside hpending, hsame]
          · simp [addText, fill, hpending]
      | null =>
          obtain ⟨place, hpending, rfl⟩ := Option.map_eq_some_iff.mp hpart
          simp [fill, hpending]
      | gap =>
          obtain ⟨place, hpending, rfl⟩ := Option.map_eq_some_iff.mp hpart
          simp [fill, hpending]
      | arrayStart =>
          obtain ⟨⟨name, isArray⟩, hpending, harray⟩ := Option.bind_eq_some_iff.mp hpart
          obtain ⟨rfl, ⟨⟩⟩ := Option.ite_none_right_eq_some.mp harray
          simp [startArray, hpending]
      | _ => cases hpart
  | shift name hopened hvalue =>
      rcases hvalue with rfl | ⟨heading, children, rfl⟩
      · simp [Builder.shift, hopened]
      · simp [Builder.shift, hopened]

theorem refusal_of_push {b b' : Builder} {index : Nat} {tag : Tag}
    (h : b.push index tag = .ok b') : b.refusal? tag = none := by
  unfold push at h
  split at h
  · cases h
  · assumption

theorem push_ok {b b' : Builder} {index : Nat} {tag : Tag} (h : b.push index tag = .ok b') :
    b.result = none ∧ (b.shifted.isSome = true → opensNode tag = true) ∧
      (b.pending.isSome = true → tag.fillsSlot = true ∨ startsArray tag = true) := by
  have hrefusal := refusal_of_push h
  unfold refusal? at hrefusal
  split at hrefusal
  · cases hrefusal
  split at hrefusal
  · cases hrefusal
  split at hrefusal
  · cases hrefusal
  rename_i hresult hshifted hpending
  refine ⟨by simpa using hresult, ?_, ?_⟩
  · intro hsome
    simpa [hsome] using hshifted
  · intro hsome
    by_cases hfills : tag.fillsSlot = true
    · exact .inl hfills
    · exact .inr (by simpa [hsome, hfills] using hpending)

theorem shifted_of_push {b b' : Builder} {index : Nat} {tag : Tag} (h : b.push index tag = .ok b')
    (htag : opensNode tag = false) : b.shifted = none := by
  simpa [htag] using (push_ok h).2.1

theorem pending_of_push {b b' : Builder} {index : Nat} {tag : Tag} (h : b.push index tag = .ok b')
    (htag : tag.fillsSlot = false) (harray : startsArray tag = false) : b.pending = none := by
  simpa [htag, harray] using (push_ok h).2.2

/-- A tag opens or closes at most one node, and only the end of the fragment makes a result. -/
theorem push_effect {b b' : Builder} {index : Nat} {tag : Tag} (h : b.push index tag = .ok b') :
    b'.opened.length + (if tag.closes then 1 else 0) =
        b.opened.length + (if tag.opens then 1 else 0) ∧
      (b'.result.isSome = true → tag = .closeFragment ∧ b'.opened = []) := by
  obtain ⟨hresult, -, -⟩ := push_ok h
  cases push_cases h with
  | doctype => simp [Tag.closes, Tag.opens, hresult]
  | openFragment _ hopened => simp [Tag.closes, Tag.opens, hresult, hopened]
  | closeFragment hopened => simp [Tag.closes, Tag.opens, hopened]
  | adopt => simp [Tag.closes, Tag.opens, hresult]
  | openNode => simp [Tag.closes, Tag.opens, hresult]
  | closeNode hopened => simp [Tag.closes, Tag.opens, hresult, hopened]
  | reference => simp [Tag.closes, Tag.opens, hresult]
  | part hpart =>
      obtain ⟨hopens, hcloses, -⟩ := Tag.not_bracket_of_part? hpart
      simp [hopens, hcloses, hresult]
  | shift name hopened => simp [Tag.closes, Tag.opens, hresult, hopened]

theorem pushAll_cons_ok {b b' : Builder} {index : Nat} {tag : Tag} {tags : List Tag}
    (h : b.pushAll index (tag :: tags) = .ok b') :
    ∃ next, b.push index tag = .ok next ∧ next.pushAll (index + 1) tags = .ok b' := by
  simp only [pushAll] at h
  rcases hnext : b.push index tag with reason | next
  · simp [hnext] at h
  · simp only [hnext] at h
    exact ⟨next, rfl, h⟩

/-- The open nodes: the fragment, which is stored nowhere, and inside it nodes that have a place. -/
inductive Rooted (language : Option String) : List Unfinished → Prop where
  | nil : Rooted language []
  | fragment {url : String} (traits : NodeTraits) (parts : List Child) : language = some url →
      Rooted language [⟨fragmentHeading url traits, parts, none⟩]
  | node {outer : List Unfinished} (heading : Heading) (parts : List Child) (place : Place) :
      Rooted language outer → outer ≠ [] → Rooted language (⟨heading, parts, some place⟩ :: outer)

theorem Rooted.withParts {language : Option String} {node : Unfinished} {outer : List Unfinished}
    (h : Rooted language (node :: outer)) (parts : List Child) :
    Rooted language ({ node with parts } :: outer) := by
  cases h with
  | fragment traits _ hlanguage => exact .fragment traits parts hlanguage
  | node heading _ place houter hne => exact .node heading parts place houter hne

theorem Rooted.tail {language : Option String} {node : Unfinished} {outer : List Unfinished}
    (h : Rooted language (node :: outer)) : Rooted language outer := by
  cases h with
  | fragment => exact .nil
  | node _ _ _ houter => exact houter

theorem Rooted.eq_nil {opened : List Unfinished} (h : Rooted none opened) : opened = [] := by
  induction h with
  | nil => rfl
  | fragment _ _ hlanguage => cases hlanguage
  | node _ _ _ _ hne ih => exact absurd ih hne

theorem Rooted.addChild {b : Builder} (h : Rooted b.language b.opened) (child : Child) :
    Rooted (b.addChild child).language (b.addChild child).opened := by
  unfold Builder.addChild
  split
  · rename_i hopened
    rw [hopened] at h
    exact h.withParts _
  · exact h

/-- What holds of the builder after any tags. -/
structure Sound (b : Builder) : Prop where
  rooted : Rooted b.language b.opened
  /-- Values are under way inside the fragment only, and one at a time. -/
  settled : b.opened = [] → b.pending = none ∧ b.shifted = none
  single : b.shifted ≠ none → b.pending = none
  result : ∀ node, b.result = some node → b.opened = [] ∧
    ∃ url traits, b.language = some url ∧ node.heading = fragmentHeading url traits

theorem sound_empty : Sound {} where
  rooted := .nil
  settled := fun _ => ⟨rfl, rfl⟩
  single := fun _ => rfl
  result := nofun

theorem Sound.push {b b' : Builder} {index : Nat} {tag : Tag} (h : b.Sound)
    (hpush : b.push index tag = .ok b') : b'.Sound := by
  obtain ⟨hresult, -, -⟩ := push_ok hpush
  have hrooted := h.rooted
  have hnone : ∀ {P : Node → Prop} node, b.result = some node → P node := by simp [hresult]
  cases push_cases hpush with
  | doctype url attributes _ hlanguage =>
      rw [hlanguage] at hrooted
      refine ⟨?_, h.settled, h.single, hnone⟩
      simp only [hrooted.eq_nil]
      exact .nil
  | openFragment traits _ hlanguage =>
      exact ⟨.fragment traits [] hlanguage, nofun, h.single, hnone⟩
  | closeFragment hopened =>
      have hpending := pending_of_push hpush rfl rfl
      have hshifted := shifted_of_push hpush rfl
      rw [hopened] at hrooted
      cases hrooted with
      | fragment traits parts hlanguage =>
          refine ⟨.nil, fun _ => ⟨hpending, hshifted⟩, h.single, ?_⟩
          rintro node ⟨⟩
          exact ⟨rfl, _, traits, hlanguage, rfl⟩
      | node _ _ _ _ hne => exact absurd rfl hne
  | adopt traits url nodeType attributes hshifted hne =>
      exact ⟨.node _ _ _ hrooted hne, nofun, fun _ => rfl, hnone⟩
  | openNode traits url nodeType attributes hshifted hpending hne =>
      exact ⟨.node _ _ _ hrooted hne, nofun, fun _ => rfl, hnone⟩
  | closeNode hopened =>
      rw [hopened] at hrooted
      exact ⟨hrooted.tail.withParts _, nofun, h.single, hnone⟩
  | reference slot hne =>
      have hshifted := shifted_of_push hpush rfl
      exact ⟨hrooted, fun hnil => absurd hnil hne, fun hsome => absurd hshifted hsome, hnone⟩
  | part hpart hinside =>
      have hrooted : Rooted { b with pending := none }.language { b with pending := none }.opened :=
        h.rooted
      refine ⟨hrooted.addChild _, fun hnil => ⟨by simp, ?_⟩, by simp, ?_⟩
      · rw [← List.length_eq_zero_iff, length_addChild, List.length_eq_zero_iff] at hnil
        simpa using (h.settled hnil).2
      · rw [addChild_result]
        exact hnone
  | shift name hopened =>
      have hpending := pending_of_push hpush rfl rfl
      rw [hopened] at hrooted
      exact ⟨hrooted.withParts _, nofun, fun _ => hpending, hnone⟩

theorem Sound.pushAll {b b' : Builder} {index : Nat} {tags : List Tag} (h : b.Sound)
    (hpush : b.pushAll index tags = .ok b') : b'.Sound := by
  induction tags generalizing b index with
  | nil =>
      cases hpush
      exact h
  | cons tag tags ih =>
      obtain ⟨next, hnext, hmore⟩ := pushAll_cons_ok hpush
      exact ih (h.push hnext) hmore

end Builder

theorem Node.ofTags_eq_ok {tags : List Tag} {n : Node} :
    Node.ofTags tags = .ok n ↔
      ∃ b, ({} : Builder).pushAll 0 tags = .ok b ∧ b.result = some n := by
  unfold Node.ofTags
  constructor
  · intro h
    split at h
    · cases h
    · rename_i b hb
      split at h
      · rename_i hresult
        cases h
        exact ⟨b, hb, hresult⟩
      · cases h
  · rintro ⟨b, hb, hresult⟩
    simp [hb, hresult]

end GrammarMachine
