import GrammarMachine.Proofs.Stream.References
import GrammarMachine.Proofs.Tree.Adoption

/-!
Placeholders. Whether a slot is empty is decided by the references to it, and a value that a node
adopts comes to it without a reference. So among the parts that a node has not adopted a placeholder
stands only for a slot that nothing fills before it.
-/

namespace GrammarMachine

namespace Child

/-- The name under which the part stores a value. -/
def propertyName? : Child → Option String
  | .property name _ _ => some name
  | _ => none

/-- The name of the slot for which the part stands without a value. -/
def placeholder? : Child → Option String
  | .property name _ .null => some name
  | .arrayStart name => some name
  | _ => none

/-- The later one of two parts is no placeholder for a slot that the earlier one fills. -/
def Apart (earlier later : Child) : Prop :=
  ∀ name, later.placeholder? = some name → earlier.propertyName? ≠ some name

end Child

namespace Stream

open Builder (startsArray)

/-- What a node has adopted: nothing, or the value that was shifted before the node was opened. -/
def Adopts (tags : List Tag) (heading : Heading) (adopted : List Child) : Prop :=
  adopted = [] ∨ ∃ name value before after, adopted = [.property name false value] ∧
    tags = before ++ .shift name :: .openNode heading.traits heading.language heading.nodeType
      heading.attributes :: after

/-- No placeholder among the parts of the node stands for a slot that is filled before, unless the
value there was adopted. -/
def Spaced (tags : List Tag) (node : Node) : Prop :=
  ∃ adopted rest, node.children = adopted ++ rest ∧ Adopts tags node.heading adopted ∧
    rest.Pairwise Child.Apart

/-- The parts of an unfinished node, the last one first: what was added under names that are known,
and what the node has adopted. -/
structure Filled (tags : List Tag) (names : List String) (node : Unfinished)
    (added adopted : List Child) : Prop where
  parts : node.parts = added ++ adopted
  adopts : Adopts tags node.heading adopted
  apart : added.Pairwise fun later earlier => earlier.Apart later
  known : ∀ part ∈ added, ∀ name, part.propertyName? = some name → name ∈ names
  inside : ∀ inner ∈ Child.nodesOf node.parts, Spaced tags inner

/-- The innermost open node has referred to the slot. -/
def Refers (opened : List OpenNode) (name : String) : Prop :=
  ∃ node ∈ opened.head?, name ∈ node.names

/-- The unfinished nodes of a tree beside the open nodes of the draft, from the inside to the
outside. If a value has just been completed, the innermost node has it among its added parts. -/
inductive Aligned (tags : List Tag) : Bool → List Unfinished → List OpenNode → Prop
  | nil (completed : Bool) : Aligned tags completed [] []
  | cons {completed : Bool} {node : Unfinished} {known : OpenNode} {outer : List Unfinished}
      {opened : List OpenNode} {added adopted : List Child} :
      Filled tags known.names node added adopted → (completed = true → added ≠ []) →
      (∀ place, node.place = some place → Refers opened place.name) →
      Aligned tags false outer opened → Aligned tags completed (node :: outer) (known :: opened)

section Filled

variable {tags : List Tag} {names names' : List String} {node : Unfinished}
  {added adopted : List Child} {child : Child}

theorem Filled.mono (h : Filled tags names node added adopted)
    (hnames : ∀ name ∈ names, name ∈ names') : Filled tags names' node added adopted where
  parts := h.parts
  adopts := h.adopts
  apart := h.apart
  known := fun part hpart name hname => hnames name (h.known part hpart name hname)
  inside := h.inside

theorem Filled.add (h : Filled tags names node added adopted)
    (hnames : ∀ name ∈ names, name ∈ names')
    (hnew : ∀ name, child.placeholder? = some name → name ∉ names)
    (hknown : ∀ name, child.propertyName? = some name → name ∈ names')
    (hinside : ∀ inner ∈ child.nodes, Spaced tags inner) :
    Filled tags names' { node with parts := child :: node.parts } (child :: added) adopted where
  parts := by rw [h.parts, List.cons_append]
  adopts := h.adopts
  apart := by
    refine List.pairwise_cons.mpr ⟨?_, h.apart⟩
    intro earlier hearlier name hplaceholder hproperty
    exact hnew name hplaceholder (h.known earlier hearlier name hproperty)
  known := by
    intro part hpart name hname
    rcases List.mem_cons.mp hpart with rfl | hpart
    · exact hknown name hname
    · exact hnames name (h.known part hpart name hname)
  inside := by
    intro inner hinner
    rcases List.mem_append.mp hinner with hchild | hpart
    · exact hinside inner hchild
    · exact h.inside inner hpart

theorem Filled.drop (h : Filled tags names { node with parts := child :: node.parts } added adopted)
    (hadded : added ≠ []) :
    ∃ rest, added = child :: rest ∧ Filled tags names node rest adopted := by
  obtain ⟨first, rest, rfl⟩ := List.exists_cons_of_ne_nil hadded
  obtain ⟨rfl, hparts⟩ := List.cons.inj h.parts
  refine ⟨rest, rfl, hparts, h.adopts, (List.pairwise_cons.mp h.apart).2, ?_, ?_⟩
  · intro part hpart
    exact h.known part (List.mem_cons_of_mem _ hpart)
  · intro inner hinner
    exact h.inside inner (List.mem_append_right _ hinner)

theorem Filled.finished (h : Filled tags names node added adopted) :
    ∀ inner ∈ Node.nodes ⟨node.heading, node.parts.reverse⟩, Spaced tags inner := by
  intro inner hinner
  rcases List.mem_cons.mp hinner with rfl | hinner
  · refine ⟨adopted.reverse, added.reverse, ?_, ?_, List.pairwise_reverse.mpr h.apart⟩
    · rw [h.parts, List.reverse_append]
    · rcases h.adopts with rfl | ⟨name, value, before, after, rfl, htags⟩
      · exact .inl rfl
      · exact .inr ⟨name, value, before, after, rfl, htags⟩
  · obtain ⟨part, hpart, hfound⟩ := Child.mem_nodesOf.mp hinner
    exact h.inside inner (Child.mem_nodesOf.mpr ⟨part, List.mem_reverse.mp hpart, hfound⟩)

end Filled

theorem refers_cons {node : OpenNode} {outer : List OpenNode} {name : String} :
    Refers (node :: outer) name ↔ name ∈ node.names := by
  simp [Refers]

theorem hasReference_iff (d : Draft) (name : String) :
    d.hasReference name = true ↔ Refers d.opened name := by
  unfold Draft.hasReference Refers
  split
  · rename_i node rest hopened
    rw [hopened]
    simp
  · rename_i hopened
    rw [hopened]
    simp

/-- The same open nodes, but that the innermost one may have referred to one more slot. -/
inductive Grown : List OpenNode → List OpenNode → Prop
  | refl (opened : List OpenNode) : Grown opened opened
  | refer (node : OpenNode) (outer : List OpenNode) (name : String) :
      Grown (node :: outer) (node.addName name :: outer)

theorem grown_reference (opened : List OpenNode) (index : Nat) (slot : Slot) :
    Grown opened (Draft.openedAfter opened index (.reference slot)) := by
  cases opened with
  | nil => exact .refl []
  | cons node outer => exact .refer node outer slot.name

theorem refers_reference {opened : List OpenNode} (hopened : opened ≠ []) (index : Nat)
    (slot : Slot) : Refers (Draft.openedAfter opened index (.reference slot)) slot.name := by
  obtain ⟨node, outer, rfl⟩ := List.exists_cons_of_ne_nil hopened
  exact refers_cons.mpr ((node.gains_addName slot.name slot.name).mpr (.inr List.mem_cons_self))

namespace Aligned

variable {tags : List Tag} {completed : Bool} {nodes : List Unfinished}
  {opened opened' : List OpenNode}

theorem weaken (h : Aligned tags completed nodes opened) : Aligned tags false nodes opened := by
  cases h with
  | nil => exact .nil false
  | cons hfilled _ hplace houter => exact .cons hfilled nofun hplace houter

theorem grow (h : Aligned tags completed nodes opened) (hgrown : Grown opened opened') :
    Aligned tags completed nodes opened' := by
  cases hgrown with
  | refl => exact h
  | refer node outer name =>
      cases h with
      | cons hfilled hcompleted hplace houter =>
          refine .cons (hfilled.mono ?_) hcompleted hplace houter
          intro other hother
          exact (node.gains_addName name other).mpr (.inl hother)

theorem eq_nil (h : Aligned tags completed [] opened) : opened = [] := by
  cases h
  rfl

theorem ne_nil (h : Aligned tags completed nodes opened) (hnodes : nodes ≠ []) : opened ≠ [] := by
  cases h with
  | nil => exact absurd rfl hnodes
  | cons => exact List.cons_ne_nil _ _

theorem add {b : Builder} (h : Aligned tags completed b.opened opened)
    (hgrown : Grown opened opened') {child : Child}
    (hnew : ∀ name, child.placeholder? = some name → ¬ Refers opened name)
    (hknown : ∀ name, child.propertyName? = some name → Refers opened' name)
    (hinside : ∀ inner ∈ child.nodes, Spaced tags inner) (now : Bool) :
    Aligned tags now (b.addChild child).opened opened' := by
  rcases hnodes : b.opened with _ | ⟨node, outer⟩
  · have hsame : b.addChild child = b := by simp only [Builder.addChild, hnodes]
    rw [hnodes] at h
    obtain rfl := h.eq_nil
    cases hgrown
    rw [hsame, hnodes]
    exact .nil now
  · have hadded : (b.addChild child).opened =
        { node with parts := child :: node.parts } :: outer := by
      simp only [Builder.addChild, hnodes]
    rw [hadded]
    rw [hnodes] at h
    cases h with
    | @cons _ _ known _ rest _ _ hfilled _ hplace houter =>
        have hnot : ∀ name, child.placeholder? = some name → name ∉ known.names :=
          fun name hname hmem => hnew name hname (refers_cons.mpr hmem)
        cases hgrown with
        | refl =>
            exact .cons (hfilled.add (fun _ => id) hnot
              (fun name hname => refers_cons.mp (hknown name hname)) hinside)
              (fun _ => List.cons_ne_nil _ _) hplace houter
        | refer _ _ added =>
            refine .cons (hfilled.add ?_ hnot
              (fun name hname => refers_cons.mp (hknown name hname)) hinside)
              (fun _ => List.cons_ne_nil _ _) hplace houter
            intro other hother
            exact (known.gains_addName added other).mpr (.inl hother)

theorem enter (h : Aligned tags completed nodes opened) {heading : Heading} {adopted : List Child}
    {place : Option Place} (hadopts : Adopts tags heading adopted)
    (hinside : ∀ inner ∈ Child.nodesOf adopted, Spaced tags inner)
    (hplace : ∀ p, place = some p → Refers opened p.name) (index : Nat) :
    Aligned tags false (⟨heading, adopted, place⟩ :: nodes) (⟨index, []⟩ :: opened) :=
  .cons ⟨(List.nil_append adopted).symm, hadopts, .nil, nofun, hinside⟩ nofun hplace h.weaken

theorem close {node outer : Unfinished} {rest : List Unfinished}
    (h : Aligned tags completed (node :: outer :: rest) opened)
    (hstored : node.place.isSome = true) :
    Aligned tags true ({ outer with parts := node.stored ++ outer.parts } :: rest) opened.tail := by
  obtain ⟨place, hplace⟩ := Option.isSome_iff_exists.mp hstored
  have hparts : node.stored = [place.child (.node node.heading node.parts.reverse)] := by
    simp [Unfinished.stored, hplace]
  rw [hparts, List.singleton_append]
  cases h with
  | cons hfilled _ hknown houter =>
      cases houter with
      | cons hfilled' _ hplace' houter' =>
          refine .cons (hfilled'.add (fun _ => id) ?_ ?_ hfilled.finished)
            (fun _ => List.cons_ne_nil _ _) hplace' houter'
          · rintro name ⟨⟩
          · rintro name ⟨⟩
            exact refers_cons.mp (hknown place hplace)

theorem take {node : Unfinished} {rest : List Unfinished} {slot : String} {isArray : Bool}
    {value : Filler} {parts : List Child}
    (h : Aligned tags true ({ node with parts := .property slot isArray value :: parts } :: rest)
      opened) :
    Aligned tags false ({ node with parts } :: rest) opened ∧ Refers opened slot ∧
      ∀ inner ∈ value.nodes, Spaced tags inner := by
  cases h with
  | @cons _ _ known _ outer added adopted hfilled hcompleted hplace houter =>
      have hdrop : Filled tags known.names
          { { node with parts } with parts := .property slot isArray value :: parts } added
          adopted := hfilled
      obtain ⟨earlier, rfl, hrest⟩ := hdrop.drop (hcompleted rfl)
      refine ⟨.cons hrest nofun hplace houter, ?_, ?_⟩
      · exact refers_cons.mpr (hfilled.known _ List.mem_cons_self slot rfl)
      · intro inner hinner
        exact hfilled.inside inner (List.mem_append_left _ hinner)

theorem finish {node : Unfinished} (h : Aligned tags completed [node] opened) :
    opened.tail = [] ∧
      ∀ inner ∈ Node.nodes ⟨node.heading, node.parts.reverse⟩, Spaced tags inner := by
  cases h with
  | cons hfilled _ _ houter => exact ⟨houter.eq_nil, hfilled.finished⟩

end Aligned

theorem part_of_pending {place : Place} {tag : Tag} {child : Child}
    (h : tag.part? (some place) = some child) :
    child.nodes = [] ∧ (∀ name, child.propertyName? = some name → name = place.name) ∧
      ∀ name, child.placeholder? = some name →
        name = place.name ∧ (startsArray tag = true ∨ tag = .null) := by
  cases tag with
  | literal text =>
      cases h
      exact ⟨rfl, fun _ hname => (Option.some.inj hname).symm, nofun⟩
  | gap =>
      cases h
      exact ⟨rfl, fun _ hname => (Option.some.inj hname).symm, nofun⟩
  | null =>
      cases h
      exact ⟨rfl, fun _ hname => (Option.some.inj hname).symm,
        fun _ hname => ⟨(Option.some.inj hname).symm, .inr rfl⟩⟩
  | arrayStart =>
      obtain ⟨-, ⟨⟩⟩ := Option.ite_none_right_eq_some.mp h
      exact ⟨rfl, nofun, fun _ hname => ⟨(Option.some.inj hname).symm, .inl rfl⟩⟩
  | _ => cases h

/-- The builder and the draft after the same tags. A shifted value is that of the last tag. -/
structure Orderly (tags : List Tag) (b : Builder) (d : Draft) : Prop where
  aligned : Aligned tags (d.tags.toList.getLast?.any Tag.completesValue) b.opened d.opened
  shifted : ∀ s, b.shifted = some s → Refers d.opened s.place.name ∧
    (∀ inner ∈ s.value.nodes, Spaced tags inner) ∧
    ∃ before, d.tags.toList = before ++ [.shift s.name]
  result : ∀ node, b.result = some node → ∀ inner ∈ node.nodes, Spaced tags inner

/-- The same with the tags that come next. What follows a reference goes to the slot, which is new
if it is a placeholder. -/
inductive Standing (tags : List Tag) (b : Builder) : Draft → List Tag → Prop
  | settled {d : Draft} (rest : List Tag) : b.pending = none → Orderly tags b d →
      Standing tags b d rest
  | referring {d : Draft} {slot : Slot} {next : Tag} (rest : List Tag) :
      b.pending = some ⟨slot.name, slot.isArray⟩ → b.shifted = none → b.opened ≠ [] →
      Orderly tags b d →
      (startsArray next = true ∨ next = .null → d.hasReference slot.name = false) →
      Standing tags b (d.advance (.reference slot)) (next :: rest)

section Orderly

variable {tags : List Tag} {b b' : Builder} {d : Draft} {index : Nat}

theorem tags_advance (d : Draft) (tag : Tag) :
    (d.advance tag).tags.toList = d.tags.toList ++ [tag] := by
  simp [Draft.advance]

theorem Orderly.of_unshifted (hnone : b.shifted = none) {tag : Tag}
    (haligned : Aligned tags tag.completesValue b.opened (d.advance tag).opened)
    (hresult : ∀ node, b.result = some node → ∀ inner ∈ node.nodes, Spaced tags inner) :
    Orderly tags b (d.advance tag) where
  aligned := by
    rw [tags_advance, List.getLast?_concat]
    exact haligned
  shifted := by
    intro s hs
    rw [hnone] at hs
    cases hs
  result := hresult

theorem Orderly.add (h : Orderly tags b d) (hnone : b.shifted = none) {child : Child} {d' : Draft}
    {tag : Tag} (hgrown : Grown d.opened (d'.advance tag).opened)
    (hnew : ∀ name, child.placeholder? = some name → ¬ Refers d.opened name)
    (hknown : ∀ name, child.propertyName? = some name → Refers (d'.advance tag).opened name)
    (hinside : ∀ inner ∈ child.nodes, Spaced tags inner) (rest : List Tag) :
    Standing tags ({ b with pending := none }.addChild child) (d'.advance tag) rest := by
  have haligned : Aligned tags (d.tags.toList.getLast?.any Tag.completesValue)
      ({ b with pending := none } : Builder).opened d.opened := h.aligned
  refine .settled rest (Builder.addChild_pending _ _) (.of_unshifted ?_ ?_ ?_)
  · rw [Builder.addChild_shifted]
    exact hnone
  · exact haligned.add hgrown hnew hknown hinside _
  · rw [Builder.addChild_result]
    exact h.result

/-- A tag with nothing pending. -/
theorem Orderly.push (h : Orderly tags b d) (hpending : b.pending = none) (hsound : b.Sound)
    {tag : Tag} {rest : List Tag} (htags : tags = d.tags.toList ++ tag :: rest)
    (hannounced : Announced d tag rest)
    (hshift : tag.isShift = true → d.tags.toList.getLast?.any Tag.completesValue = true)
    (hpush : b.push index tag = .ok b') : Standing tags b' (d.advance tag) rest := by
  have hunshifted := @Builder.shifted_of_push _ _ _ _ hpush
  cases Builder.push_cases hpush with
  | doctype =>
      refine .settled rest hpending (.of_unshifted ?_ ?_ h.result)
      · exact hunshifted rfl
      · exact h.aligned.weaken
  | openFragment traits hopened =>
      have haligned := h.aligned
      rw [hopened] at haligned
      refine .settled rest hpending (.of_unshifted ?_ ?_ h.result)
      · exact hunshifted rfl
      · refine haligned.enter (.inl rfl) nofun ?_ _
        rintro _ ⟨⟩
  | @closeFragment node hopened =>
      have haligned := h.aligned
      rw [hopened] at haligned
      obtain ⟨htail, hfinished⟩ := haligned.finish
      refine .settled rest hpending (.of_unshifted ?_ ?_ ?_)
      · exact hunshifted rfl
      · rw [Draft.opened_advance_closing d rfl, htail]
        exact .nil _
      · rintro _ ⟨⟩
        exact hfinished
  | adopt traits url nodeType attributes hshifted hne =>
      obtain ⟨hrefers, hinside, before, hbefore⟩ := h.shifted _ hshifted
      refine .settled rest rfl (.of_unshifted rfl ?_ h.result)
      refine h.aligned.enter (.inr ⟨_, _, before, rest, rfl, ?_⟩) ?_ ?_ _
      · rw [htags, hbefore, List.append_assoc, List.singleton_append]
      · intro inner hinner
        rw [Child.nodesOf, Child.nodesOf, List.append_nil] at hinner
        exact hinside inner hinner
      · rintro _ ⟨⟩
        exact hrefers
  | openNode traits url nodeType attributes _ hsome =>
      rw [hpending] at hsome
      cases hsome
  | @closeNode node outer others hopened =>
      have hrooted := hsound.rooted
      have haligned := h.aligned
      rw [hopened] at hrooted haligned
      have hstored : node.place.isSome = true := by
        cases hrooted with
        | node => rfl
      refine .settled rest hpending (.of_unshifted ?_ ?_ h.result)
      · exact hunshifted rfl
      · exact haligned.close hstored
  | reference slot hne =>
      cases rest with
      | nil => exact hannounced.elim
      | cons next rest =>
          refine .referring rest rfl (hunshifted rfl) hne ⟨h.aligned, h.shifted, h.result⟩ ?_
          rintro (harray | hnull)
          · have hnew := hannounced.1
            rw [harray] at hnew
            simpa using (Bool.and_eq_true_iff.mp hnew.symm).2
          · exact hannounced.2 hnull
  | part hpart =>
      rw [hpending] at hpart
      cases tag with
      | literal text =>
          cases hpart
          have hsame : Grown d.opened (d.advance (.literal text)).opened := .refl d.opened
          refine h.add (hunshifted rfl) hsame ?_ ?_ ?_ rest
          · rintro _ ⟨⟩
          · rintro _ ⟨⟩
          · rintro _ ⟨⟩
      | _ => cases hpart
  | shift name hopened =>
      have haligned := h.aligned
      rw [hshift rfl, hopened] at haligned
      obtain ⟨hrest, hrefers, hinside⟩ := haligned.take
      refine .settled rest hpending ⟨?_, ?_, h.result⟩
      · rw [tags_advance, List.getLast?_concat]
        exact hrest
      · rintro _ ⟨⟩
        exact ⟨hrefers, hinside, d.tags.toList, tags_advance d _⟩

/-- The tag behind a reference. -/
theorem Orderly.fill (h : Orderly tags b d) {slot : Slot}
    (hpending : b.pending = some ⟨slot.name, slot.isArray⟩) (hnone : b.shifted = none)
    (hne : b.opened ≠ []) {tag : Tag}
    (hnew : startsArray tag = true ∨ tag = .null → d.hasReference slot.name = false)
    (hpush : b.push index tag = .ok b') (rest : List Tag) :
    Standing tags b' ((d.advance (.reference slot)).advance tag) rest := by
  have hgrown : Grown d.opened (d.advance (.reference slot)).opened :=
    grown_reference d.opened d.tags.size slot
  have hrefers : Refers (d.advance (.reference slot)).opened slot.name :=
    refers_reference (h.aligned.ne_nil hne) d.tags.size slot
  have hfills := (Builder.push_ok hpush).2.2 (by rw [hpending]; rfl)
  cases Builder.push_cases hpush with
  | adopt _ _ _ _ hshifted =>
      rw [hnone] at hshifted
      cases hshifted
  | openNode traits url nodeType attributes _ hplace =>
      rw [hpending] at hplace
      cases hplace
      refine .settled rest rfl (.of_unshifted rfl ?_ h.result)
      refine (h.aligned.grow hgrown).enter (.inl rfl) nofun ?_ _
      rintro _ ⟨⟩
      exact hrefers
  | part hpart =>
      rw [hpending] at hpart
      obtain ⟨hopens, hcloses, -⟩ := Tag.not_bracket_of_part? hpart
      obtain ⟨hnodes, hproperty, hplaceholder⟩ := part_of_pending hpart
      have hopened : ((d.advance (.reference slot)).advance tag).opened =
          (d.advance (.reference slot)).opened := by
        cases tag with
        | literal | gap | null | arrayStart => rfl
        | _ => cases hpart
      refine h.add hnone (by rwa [hopened]) ?_ ?_ ?_ rest
      · intro name hname hknown
        obtain ⟨rfl, hkind⟩ := hplaceholder name hname
        rw [(hasReference_iff d slot.name).mpr hknown] at hnew
        cases hnew hkind
      · intro name hname
        rw [hproperty name hname, hopened]
        exact hrefers
      · rw [hnodes]
        exact nofun
  | _ => rcases hfills with hfills | hfills <;> cases hfills

theorem Standing.push {tag : Tag} {rest : List Tag} (h : Standing tags b d (tag :: rest))
    (hsound : b.Sound) (htags : tags = d.tags.toList ++ tag :: rest)
    (hannounced : Announced d tag rest)
    (hshift : tag.isShift = true → d.tags.toList.getLast?.any Tag.completesValue = true)
    (hpush : b.push index tag = .ok b') : Standing tags b' (d.advance tag) rest := by
  cases h with
  | settled _ hpending horderly =>
      exact horderly.push hpending hsound htags hannounced hshift hpush
  | referring _ hpending hnone hne horderly hnew =>
      exact horderly.fill hpending hnone hne hnew hpush rest

theorem Standing.pushAll {rest : List Tag} (h : Standing tags b d rest) (hsound : b.Sound)
    (htags : tags = d.tags.toList ++ rest) (hshifts : ShiftsCompleted tags)
    (hintroduces : Introduces d rest) (hpush : b.pushAll index rest = .ok b') :
    Orderly tags b' (d.advanceAll rest) := by
  induction rest generalizing b d index with
  | nil =>
      cases hpush
      cases h with
      | settled _ _ horderly => exact horderly
  | cons tag rest ih =>
      obtain ⟨next, hnext, hmore⟩ := Builder.pushAll_cons_ok hpush
      obtain ⟨hannounced, hrest⟩ := hintroduces
      refine ih (h.push hsound htags hannounced ?_ hnext) (hsound.push hnext) ?_ hrest hmore
      · intro hshift
        cases tag with
        | shift name => exact hshifts _ name rest htags
        | _ => cases hshift
      · rw [htags, tags_advance, List.append_assoc, List.singleton_append]

end Orderly

theorem Finished.spaced {source : Source} {tags : List Tag} (h : Finished source tags) {tree : Node}
    (htree : Node.ofTags tags = .ok tree) : ∀ node ∈ tree.nodes, Spaced tags node := by
  obtain ⟨b, hb, hresult⟩ := Node.ofTags_eq_ok.mp htree
  have horderly : Orderly tags {} (Draft.fresh source) := ⟨.nil _, nofun, nofun⟩
  have hstanding : Standing tags {} (Draft.fresh source) tags := .settled tags rfl horderly
  exact (hstanding.pushAll Builder.sound_empty rfl h.shiftsCompleted h.introduces hb).result tree
    hresult

end Stream

namespace Machine

variable {σ : Type} {n : Nat} [Stepper σ]

/-- In the tree of an accepted run a placeholder stands for a slot that nothing fills before it, but
perhaps the value that the node has adopted under that name. -/
theorem run_placeholders {m : Machine σ n} {source : Source} {props : Option Json} {fuel : Nat}
    {halt : Halt σ n Draft} (h : m.run (Draft.fresh source) props fuel = some halt)
    {extent : Extent} (haccepted : halt.outcome = .accepted extent)
    {tree node : Node} (htree : Node.ofTags halt.run.tape.tags.toList = .ok tree)
    (hnode : node ∈ tree.nodes) {before after : List Child} {child : Child}
    (hchildren : node.children = before ++ child :: after) {name : String}
    (hplaceholder : child.placeholder? = some name) :
    (∀ earlier ∈ before, earlier.propertyName? ≠ some name) ∨
      ∃ value rest front back, before = .property name false value :: rest ∧
        (∀ earlier ∈ rest, earlier.propertyName? ≠ some name) ∧
        halt.run.tape.tags.toList = front ++ .shift name :: .openNode node.heading.traits
          node.heading.language node.heading.nodeType node.heading.attributes :: back := by
  obtain ⟨adopted, rest, hsplit, hadopts, hapart⟩ :=
    (run_finished h haccepted).spaced htree node hnode
  have hempty : ∀ {others : List Child}, rest = others ++ child :: after →
      ∀ earlier ∈ others, earlier.propertyName? ≠ some name := by
    rintro others rfl earlier hearlier
    obtain ⟨-, -, hbetween⟩ := List.pairwise_append.mp hapart
    exact hbetween earlier hearlier child List.mem_cons_self name hplaceholder
  rw [hchildren] at hsplit
  rcases hadopts with rfl | ⟨slot, value, front, back, rfl, htags⟩
  · exact .inl (hempty hsplit.symm)
  · cases before with
    | nil => exact .inl nofun
    | cons first others =>
        obtain ⟨rfl, hothers⟩ := List.cons.inj hsplit
        have hrest := hempty hothers.symm
        by_cases hname : slot = name
        · subst hname
          exact .inr ⟨value, others, front, back, rfl, hrest, htags⟩
        · refine .inl ?_
          intro earlier hearlier
          rcases List.mem_cons.mp hearlier with rfl | hearlier
          · exact fun hsame => hname (Option.some.inj hsame)
          · exact hrest earlier hearlier

/-- A machine that reads an `a`, which a node adopts that reads a `b` and then asks for what is to
stand in the slot of the `a`. -/
def adoptingReader (placeholder : Goal) : Machine Automaton 1 where
  catalog _ := {
    url := "urn:held"
    grammar := ({} : Grammar Automaton).node "Letter"
      |>.node "Pair"
      |>.cover "Sum" ["Pair"]
      |>.define "Sum" (.script [.eat (.token "Letter" (.literal "a"))]
          (some (.hold ((Goal.node "Pair").named "left"))))
      |>.define "Pair" (.script [.eat (.literal "b"), .eat (placeholder.named "left")] none) }
  language := Fin.last 0
  goal := .node "Sum"

/-- The tree of an `a` that a node adopted which has a further part. -/
def adoptedTree (outer heading : Heading) (letter : Filler) (part : Child) : Node :=
  ⟨outer, [.property "." false
    (.node heading [.property "left" false letter, .literal "b", part])]⟩

theorem mem_adoptedTree (outer heading : Heading) (letter : Filler) (part : Child) :
    ⟨heading, [.property "left" false letter, .literal "b", part]⟩ ∈
      (adoptedTree outer heading letter part).nodes := by
  simp [adoptedTree, Node.nodes, Child.nodesOf, Child.nodes, Filler.nodes]

theorem run_placeholders_adoptingReader :
    ∃ halt extent tree node before child,
      (adoptingReader .null).run (Draft.fresh (.ofText "ab")) none 10 = some halt ∧
        halt.outcome = .accepted extent ∧ Node.ofTags halt.run.tape.tags.toList = .ok tree ∧
        node ∈ tree.nodes ∧ node.children = before ++ [child] ∧
        child.placeholder? = some "left" ∧
        ((∀ earlier ∈ before, earlier.propertyName? ≠ some "left") ∨
          ∃ value rest front back, before = .property "left" false value :: rest ∧
            (∀ earlier ∈ rest, earlier.propertyName? ≠ some "left") ∧
            halt.run.tape.tags.toList = front ++ .shift "left" :: .openNode node.heading.traits
              node.heading.language node.heading.nodeType node.heading.attributes :: back) := by
  obtain ⟨halt, extent, outer, heading, letter, hrun, haccepted, htree⟩ :
      ∃ halt extent outer heading letter,
        (adoptingReader .null).run (Draft.fresh (.ofText "ab")) none 10 = some halt ∧
          halt.outcome = .accepted extent ∧ Node.ofTags halt.run.tape.tags.toList =
            .ok (adoptedTree outer heading letter (.property "left" false .null)) :=
    ⟨_, _, _, _, _, rfl, rfl, rfl⟩
  have hnode := mem_adoptedTree outer heading letter (.property "left" false .null)
  have hchildren : (⟨heading, [.property "left" false letter, .literal "b",
      .property "left" false .null]⟩ : Node).children =
      [.property "left" false letter, .literal "b"] ++ [.property "left" false .null] := rfl
  exact ⟨halt, extent, _, _, _, _, hrun, haccepted, htree, hnode, hchildren, rfl,
    run_placeholders hrun haccepted htree hnode hchildren rfl⟩

/-- In an accepted run a placeholder stands for a slot that is filled before in the same node. -/
def Overfills (m : Machine σ n) (source : Source) : Prop :=
  ∃ fuel halt extent tree node before child after name,
    m.run (Draft.fresh source) none fuel = some halt ∧ halt.outcome = .accepted extent ∧
      Node.ofTags halt.run.tape.tags.toList = .ok tree ∧ node ∈ tree.nodes ∧
      node.children = before ++ child :: after ∧ child.placeholder? = some name ∧
      ∃ earlier ∈ before, earlier.propertyName? = some name

theorem overfills_of_adopted {placeholder : Goal} {part : Child}
    (hpart : part.placeholder? = some "left")
    (hrun : ∃ halt extent outer heading letter,
      (adoptingReader placeholder).run (Draft.fresh (.ofText "ab")) none 10 = some halt ∧
        halt.outcome = .accepted extent ∧
        Node.ofTags halt.run.tape.tags.toList = .ok (adoptedTree outer heading letter part)) :
    (adoptingReader placeholder).Overfills (.ofText "ab") := by
  obtain ⟨halt, extent, outer, heading, letter, hrun, haccepted, htree⟩ := hrun
  exact ⟨10, halt, extent, _, _, [.property "left" false letter, .literal "b"], part, [], "left",
    hrun, haccepted, htree, mem_adoptedTree outer heading letter part, rfl, hpart, _,
    List.mem_cons_self, rfl⟩

/-- Where a node has adopted a value, a null and the start of an array still stand for its slot. -/
theorem placeholder_after_adoption :
    (adoptingReader .null).Overfills (.ofText "ab") ∧
      (adoptingReader .array).Overfills (.ofText "ab") := by
  constructor
  · apply overfills_of_adopted (show (Child.property "left" false .null).placeholder? = _ from rfl)
    exact ⟨_, _, _, _, _, rfl, rfl, rfl⟩
  · apply overfills_of_adopted (show (Child.arrayStart "left").placeholder? = _ from rfl)
    exact ⟨_, _, _, _, _, rfl, rfl, rfl⟩

end Machine

end GrammarMachine
