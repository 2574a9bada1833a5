import GrammarMachine.Proofs.Stream.Check

/-!
What becomes of a value that is shifted. The node opened next stands where the value stood and has
it as its first part, and both are found in the tree in the end.
-/

namespace GrammarMachine

mutual

/-- The nodes inside a part. -/
def Child.nodes : Child → List Node
  | .property _ _ value => value.nodes
  | _ => []

/-- The nodes inside what a slot holds, from the outside to the inside. -/
def Filler.nodes : Filler → List Node
  | .node heading children => ⟨heading, children⟩ :: Child.nodesOf children
  | _ => []

def Child.nodesOf : List Child → List Node
  | [] => []
  | child :: rest => child.nodes ++ Child.nodesOf rest

end

/-- The node itself and the nodes inside it. -/
def Node.nodes (n : Node) : List Node :=
  n :: Child.nodesOf n.children

theorem Child.mem_nodesOf {children : List Child} {node : Node} :
    node ∈ Child.nodesOf children ↔ ∃ child ∈ children, node ∈ child.nodes := by
  induction children with
  | nil => simp [Child.nodesOf]
  | cons child rest ih => simp [Child.nodesOf, ih]

namespace Builder

/-- A node with a heading and a first part is somewhere in the tree being built. If it is the
innermost open node and a value has just been completed, that value is a further part of it. -/
inductive Bears (heading : Heading) (first : Child) (completed : Bool) (b : Builder) : Prop where
  | innermost {node : Unfinished} {outer : List Unfinished} (more : List Child) :
      b.opened = node :: outer → node.heading = heading → node.parts = more ++ [first] →
      (completed = true → more ≠ []) → Bears heading first completed b
  | outer {inner node : Unfinished} {outer : List Unfinished} (more : List Child) :
      b.opened = inner :: outer → node ∈ outer → node.heading = heading →
      node.parts = more ++ [first] → Bears heading first completed b
  | inside {node : Unfinished} {part : Child} : node ∈ b.opened → part ∈ node.parts →
      (∃ children, ⟨heading, first :: children⟩ ∈ part.nodes) → Bears heading first completed b
  | shifted {s : Shifted} : b.shifted = some s →
      (∃ children, ⟨heading, first :: children⟩ ∈ s.value.nodes) → Bears heading first completed b
  | done {node : Node} : b.result = some node →
      (∃ children, ⟨heading, first :: children⟩ ∈ node.nodes) → Bears heading first completed b

variable {heading : Heading} {first : Child} {completed : Bool} {b b' : Builder}

theorem Bears.addChild (h : b.Bears heading first completed) (child : Child) (now : Bool) :
    (b.addChild child).Bears heading first now := by
  rcases hopened : b.opened with _ | ⟨node, rest⟩
  · have hsame : b.addChild child = b := by simp only [Builder.addChild, hopened]
    rw [hsame]
    cases h with
    | innermost _ hsome => simp [hopened] at hsome
    | outer _ hsome => simp [hopened] at hsome
    | inside hnode => simp [hopened] at hnode
    | shifted hshifted hfound => exact .shifted hshifted hfound
    | done hresult hfound => exact .done hresult hfound
  · have hadded : b.addChild child =
        { b with opened := { node with parts := child :: node.parts } :: rest } := by
      simp only [Builder.addChild, hopened]
    rw [hadded]
    cases h with
    | innermost more hsome hheading hparts =>
        obtain ⟨rfl, rfl⟩ := List.cons.inj (hopened.symm.trans hsome)
        refine .innermost (child :: more) rfl hheading ?_ (fun _ => List.cons_ne_nil _ _)
        rw [hparts, List.cons_append]
    | outer more hsome hmem hheading hparts =>
        obtain ⟨rfl, rfl⟩ := List.cons.inj (hopened.symm.trans hsome)
        exact .outer more rfl hmem hheading hparts
    | inside hnode hpart hfound =>
        rw [hopened] at hnode
        rcases List.mem_cons.mp hnode with rfl | hnode
        · exact .inside List.mem_cons_self (List.mem_cons_of_mem _ hpart) hfound
        · exact .inside (List.mem_cons_of_mem _ hnode) hpart hfound
    | shifted hshifted hfound => exact .shifted hshifted hfound
    | done hresult hfound => exact .done hresult hfound

theorem Bears.opening {node : Unfinished} {pending : Option Place}
    (h : b.Bears heading first completed)
    (hshifted : ∀ s ∈ b.shifted, ∃ name, .property name false s.value ∈ node.parts) :
    ({ b with shifted := none, pending, opened := node :: b.opened } : Builder).Bears heading first
      false := by
  cases h with
  | innermost more hsome hheading hparts =>
      refine .outer more rfl ?_ hheading hparts
      rw [hsome]
      exact List.mem_cons_self
  | outer more hsome hmem hheading hparts =>
      refine .outer more rfl ?_ hheading hparts
      rw [hsome]
      exact List.mem_cons_of_mem _ hmem
  | inside hnode hpart hfound => exact .inside (List.mem_cons_of_mem _ hnode) hpart hfound
  | shifted hsome hfound =>
      obtain ⟨name, hpart⟩ := hshifted _ hsome
      exact .inside List.mem_cons_self hpart hfound
  | done hresult hfound => exact .done hresult hfound

theorem Bears.closing {node outer : Unfinished} {rest : List Unfinished}
    (h : b.Bears heading first completed) (hopened : b.opened = node :: outer :: rest)
    (hplace : node.place.isSome = true) :
    ({ b with opened := { outer with parts := node.stored ++ outer.parts } :: rest } :
      Builder).Bears heading first true := by
  obtain ⟨place, hplace⟩ := Option.isSome_iff_exists.mp hplace
  have hstored : node.stored = [place.child (.node node.heading node.parts.reverse)] := by
    simp [Unfinished.stored, hplace]
  rw [hstored]
  cases h with
  | innermost more hsome hheading hparts =>
      obtain ⟨rfl, rfl⟩ := List.cons.inj (hopened.symm.trans hsome)
      refine .inside List.mem_cons_self List.mem_cons_self ⟨more.reverse, ?_⟩
      simp [Place.child, Child.nodes, Filler.nodes, hheading, hparts]
  | @outer _ found _ more hsome hmem hheading hparts =>
      obtain ⟨rfl, rfl⟩ := List.cons.inj (hopened.symm.trans hsome)
      rcases List.mem_cons.mp hmem with rfl | hmem
      · refine .innermost (place.child (.node node.heading node.parts.reverse) :: more) rfl hheading
          ?_ (fun _ => List.cons_ne_nil _ _)
        rw [hparts]
        rfl
      · exact .outer more rfl hmem hheading hparts
  | inside hnode hpart hfound =>
      rw [hopened] at hnode
      rcases List.mem_cons.mp hnode with rfl | hnode
      · obtain ⟨children, hfound⟩ := hfound
        refine .inside List.mem_cons_self List.mem_cons_self ⟨children, ?_⟩
        exact List.mem_cons_of_mem _
          (Child.mem_nodesOf.mpr ⟨_, List.mem_reverse.mpr hpart, hfound⟩)
      · rcases List.mem_cons.mp hnode with rfl | hnode
        · exact .inside List.mem_cons_self (List.mem_cons_of_mem _ hpart) hfound
        · exact .inside (List.mem_cons_of_mem _ hnode) hpart hfound
  | shifted hsome hfound => exact .shifted hsome hfound
  | done hresult hfound => exact .done hresult hfound

theorem Bears.shifting {node : Unfinished} {rest : List Unfinished} {slot : String}
    {isArray : Bool} {value : Filler} {parts : List Child} (h : b.Bears heading first true)
    (name : String)
    (hopened : b.opened = { node with parts := .property slot isArray value :: parts } :: rest)
    (hnone : b.shifted = none) :
    ({ b with
      opened := { node with parts } :: rest
      shifted := some ⟨name, ⟨slot, isArray⟩, value⟩ } : Builder).Bears heading first false := by
  cases h with
  | innermost more hsome hheading hparts hmore =>
      obtain ⟨rfl, rfl⟩ := List.cons.inj (hopened.symm.trans hsome)
      rcases more with _ | ⟨child, more⟩
      · exact absurd rfl (hmore rfl)
      · exact .innermost more rfl hheading (List.cons.inj hparts).2 nofun
  | outer more hsome hmem hheading hparts =>
      obtain ⟨rfl, rfl⟩ := List.cons.inj (hopened.symm.trans hsome)
      exact .outer more rfl hmem hheading hparts
  | inside hnode hpart hfound =>
      rw [hopened] at hnode
      rcases List.mem_cons.mp hnode with rfl | hnode
      · rcases List.mem_cons.mp hpart with rfl | hpart
        · exact .shifted rfl hfound
        · exact .inside List.mem_cons_self hpart hfound
      · exact .inside (List.mem_cons_of_mem _ hnode) hpart hfound
  | shifted hsome => simp [hnone] at hsome
  | done hresult hfound => exact .done hresult hfound

theorem Bears.ending {node : Unfinished} (h : b.Bears heading first completed)
    (hopened : b.opened = [node]) (hnone : b.result = none) :
    ({ b with opened := [], result := some ⟨node.heading, node.parts.reverse⟩ } :
      Builder).Bears heading first false := by
  cases h with
  | innermost more hsome hheading hparts =>
      obtain ⟨rfl, rfl⟩ := List.cons.inj (hopened.symm.trans hsome)
      refine .done rfl ⟨more.reverse, ?_⟩
      simp [Node.nodes, hheading, hparts]
  | outer more hsome hmem =>
      obtain ⟨rfl, rfl⟩ := List.cons.inj (hopened.symm.trans hsome)
      cases hmem
  | inside hnode hpart hfound =>
      rw [hopened] at hnode
      cases List.mem_singleton.mp hnode
      obtain ⟨children, hfound⟩ := hfound
      refine .done rfl ⟨children, List.mem_cons_of_mem _ ?_⟩
      exact Child.mem_nodesOf.mpr ⟨_, List.mem_reverse.mpr hpart, hfound⟩
  | shifted hsome hfound => exact .shifted hsome hfound
  | done hresult => simp [hnone] at hresult

/-- Every tag leaves the node where it is or moves it with the value that holds it. -/
theorem Bears.push (h : b.Bears heading first completed) (hsound : b.Sound) {index : Nat}
    {tag : Tag} (hpush : b.push index tag = .ok b')
    (hshift : tag.isShift = true → completed = true) :
    b'.Bears heading first tag.completesValue := by
  obtain ⟨hresult, -, -⟩ := push_ok hpush
  -- A tag after which the open nodes are the same.
  have hsame : ∀ {language pending}, ({ b with language, pending } : Builder).Bears heading first
      false := by
    intro language pending
    cases h with
    | innermost more hsome hheading hparts => exact .innermost more hsome hheading hparts nofun
    | outer more hsome hmem hheading hparts => exact .outer more hsome hmem hheading hparts
    | inside hnode hpart hfound => exact .inside hnode hpart hfound
    | shifted hsome hfound => exact .shifted hsome hfound
    | done hsome hfound => exact .done hsome hfound
  cases push_cases hpush with
  | doctype => exact hsame
  | openFragment traits hopened =>
      cases h with
      | innermost _ hsome => simp [hopened] at hsome
      | outer _ hsome => simp [hopened] at hsome
      | inside hnode => simp [hopened] at hnode
      | shifted hsome hfound => exact .shifted hsome hfound
      | done hsome => simp [hresult] at hsome
  | closeFragment hopened => exact h.ending hopened hresult
  | adopt traits url nodeType attributes hshifted =>
      refine h.opening ?_
      intro s hs
      rw [hshifted] at hs
      cases hs
      exact ⟨_, List.mem_cons_self⟩
  | openNode traits url nodeType attributes hshifted =>
      refine h.opening ?_
      intro s hs
      rw [hshifted] at hs
      cases hs
  | closeNode hopened =>
      refine h.closing hopened ?_
      have hrooted := hsound.rooted
      rw [hopened] at hrooted
      cases hrooted with
      | node => rfl
  | reference => exact hsame
  | part => exact hsame.addChild _ _
  | shift name hopened =>
      rw [hshift rfl] at h
      exact h.shifting name hopened (shifted_of_push hpush rfl)

/-- What follows a shift opens a node, which gets the place of the shifted value and has it for its
first part. -/
theorem push_adopting {held : Builder} {index index' : Nat} {name : String} {next : Tag}
    (hshift : b.push index (.shift name) = .ok held) (hnext : held.push index' next = .ok b') :
    ∃ (traits : NodeTraits) (url nodeType : String) (attributes : Fields) (node : Unfinished)
      (outer : List Unfinished) (place : Place) (value : Filler) (parts : List Child),
      next = .openNode traits url nodeType attributes ∧
      b.opened = { node with parts := place.child value :: parts } :: outer ∧
      b' = { b with
        pending := none
        opened := ⟨⟨url, nodeType, traits, attributes⟩, [.property name false value],
          some place⟩ :: { node with parts } :: outer } := by
  have hnone := shifted_of_push hshift rfl
  have hopens := (push_ok hnext).2.1 (push_shift_shifted hshift)
  cases push_cases hshift with
  | part hpart => cases hpart
  | @shift node outer slot isArray value parts _ hopened =>
      cases push_cases hnext with
      | adopt traits url nodeType attributes hsome =>
          cases hsome
          refine ⟨traits, url, nodeType, attributes, node, outer, ⟨slot, isArray⟩, value, parts,
            rfl, hopened, ?_⟩
          simp [hnone]
      | openNode _ _ _ _ hsome => cases hsome
      | part hpart =>
          cases next with
          | openNode => cases hpart
          | _ => cases hopens
      | _ => cases hopens

end Builder

namespace Stream

/-- Every shift follows a tag that completes a value. -/
def ShiftsCompleted (tags : List Tag) : Prop :=
  ∀ before name after, tags = before ++ .shift name :: after →
    before.getLast?.any Tag.completesValue = true

theorem ShiftsCompleted.append {tags more : List Tag} (h : ShiftsCompleted tags)
    (hmore : ∀ name, .shift name ∉ more) : ShiftsCompleted (tags ++ more) := by
  intro before name after heq
  rcases List.append_eq_append_iff.mp heq with ⟨middle, rfl, hright⟩ | ⟨middle, rfl, hright⟩
  · refine absurd ?_ (hmore name)
    rw [hright]
    simp
  · rcases middle with _ | ⟨tag, middle⟩
    · refine absurd ?_ (hmore name)
      rw [List.nil_append] at hright
      rw [← hright]
      exact List.mem_cons_self
    · obtain ⟨rfl, -⟩ := List.cons.inj hright
      exact h before name middle rfl

theorem Begun.shiftsCompleted {source : Source} {depth : Nat} {tags : List Tag}
    (h : Begun source depth tags) : ShiftsCompleted tags := by
  have hslot : ∀ {d : Draft} {slot : Slot} {name : String}, .shift name ∉ slotTags d slot := by
    intro d slot name hmem
    unfold slotTags at hmem
    repeat' split at hmem
    all_goals simp [arrayTags] at hmem
  induction h with
  | start url traits =>
      intro before name after heq
      rcases before with _ | ⟨_, _ | ⟨_, before⟩⟩ <;> simp at heq
  | place _ hmore ih =>
      refine ih.append ?_
      intro name hmem
      cases hmore with
      | text => simp at hmem
      | gap slot => simp [hslot] at hmem
      | null slot => simp [hslot] at hmem
      | array slot => simp [arrayTags] at hmem
      | token slot =>
          simp only [textTags, List.mem_append, hslot, false_or] at hmem
          split at hmem <;> simp at hmem
  | @shift depth tags name _ hlast ih =>
      intro before name' after heq
      rcases List.append_eq_append_iff.mp heq with ⟨middle, rfl, hright⟩ | ⟨middle, rfl, hright⟩
      · rcases middle with _ | ⟨tag, middle⟩
        · simpa using hlast
        · simp at hright
      · rcases middle with _ | ⟨tag, middle⟩
        · simpa using hlast
        · obtain ⟨rfl, -⟩ := List.cons.inj hright
          exact ih before name' middle rfl
  | openNode slot traits url nodeType attributes _ ih =>
      refine ih.append ?_
      intro name hmem
      simp [hslot] at hmem
  | closeNode _ ih => exact ih.append (by simp)

theorem bears_pushAll {heading : Heading} {first : Child} {b b' : Builder} {index : Nat}
    {taken tags : List Tag} (hshifts : ShiftsCompleted (taken ++ tags))
    (h : b.Bears heading first (taken.getLast?.any Tag.completesValue))
    (hsound : b.Sound) (hpush : b.pushAll index tags = .ok b') :
    b'.Bears heading first ((taken ++ tags).getLast?.any Tag.completesValue) := by
  induction tags generalizing b index taken with
  | nil =>
      cases hpush
      rw [List.append_nil]
      exact h
  | cons tag tags ih =>
      obtain ⟨next, hnext, hmore⟩ := Builder.pushAll_cons_ok hpush
      rw [List.append_cons] at hshifts ⊢
      refine ih hshifts ?_ (hsound.push hnext) hmore
      rw [List.getLast?_concat]
      refine h.push hsound hnext ?_
      intro hshift
      cases tag with
      | shift name => exact hshifts taken name tags (List.append_cons ..).symm
      | _ => cases hshift

/-- What becomes of a value that is shifted under a name after the tags `before`: it is the last
part of a node then; the node that `after` opens first gets its place and has the value for its
first part, and so it is found in the tree. -/
def Adopted (before : List Tag) (name : String) (after : List Tag) (tree : Node) : Prop :=
  ∃ traits url nodeType attributes rest,
    after = .openNode traits url nodeType attributes :: rest ∧
    ∃ (b : Builder) (node : Unfinished) (outer : List Unfinished) (place : Place)
      (value : Filler) (parts : List Child),
      ({} : Builder).pushAll 0 before = .ok b ∧
      b.opened = { node with parts := place.child value :: parts } :: outer ∧
      b.pushAll before.length [.shift name, .openNode traits url nodeType attributes] = .ok
        { b with
          pending := none
          opened := ⟨⟨url, nodeType, traits, attributes⟩, [.property name false value],
            some place⟩ :: { node with parts } :: outer } ∧
      ∃ children, ⟨⟨url, nodeType, traits, attributes⟩, .property name false value :: children⟩ ∈
        tree.nodes

theorem Finished.shiftsCompleted {source : Source} {tags : List Tag} (h : Finished source tags) :
    ShiftsCompleted tags := by
  obtain ⟨begun, hbegun, -, rfl⟩ := h
  exact hbegun.shiftsCompleted.append (by simp)

/-- In a finished stream that describes a tree every shifted value is adopted. -/
theorem Finished.adopted {source : Source} {before after : List Tag} {name : String} {tree : Node}
    (h : Finished source (before ++ .shift name :: after))
    (htree : Node.ofTags (before ++ .shift name :: after) = .ok tree) :
    Adopted before name after tree := by
  have hshifts := h.shiftsCompleted
  obtain ⟨last, hlast, hresult⟩ := Node.ofTags_eq_ok.mp htree
  rw [Builder.pushAll_append] at hlast
  rcases hb : ({} : Builder).pushAll 0 before with error | b
  · simp [hb] at hlast
  simp only [hb, Nat.zero_add] at hlast
  obtain ⟨held, hshift, hmore⟩ := Builder.pushAll_cons_ok hlast
  rcases after with _ | ⟨next, rest⟩
  · cases hmore
    cases ((Builder.push_effect hshift).2 (by simp [hresult])).1
  obtain ⟨adopted, hadopt, hmore⟩ := Builder.pushAll_cons_ok hmore
  have hpushed : b.pushAll before.length [.shift name, next] = .ok adopted := by
    simp [Builder.pushAll, hshift, hadopt]
  obtain ⟨traits, url, nodeType, attributes, node, outer, place, value, parts, rfl, hopened, rfl⟩ :=
    Builder.push_adopting hshift hadopt
  refine ⟨traits, url, nodeType, attributes, rest, rfl, b, node, outer, place, value, parts, hb,
    hopened, hpushed, ?_⟩
  have hsound := (Builder.sound_empty.pushAll hb).pushAll hpushed
  rw [List.append_cons, List.append_cons] at hshifts
  have hbears := bears_pushAll hshifts (.innermost [] rfl rfl rfl (by simp [Tag.completesValue]))
    hsound hmore
  obtain ⟨hempty, -⟩ := (hsound.pushAll hmore).result _ hresult
  obtain ⟨-, hunshifted⟩ := (hsound.pushAll hmore).settled hempty
  cases hbears with
  | innermost _ hsome => simp [hempty] at hsome
  | outer _ hsome => simp [hempty] at hsome
  | inside hnode => simp [hempty] at hnode
  | shifted hsome => simp [hunshifted] at hsome
  | done hsome hfound =>
      cases hresult.symm.trans hsome
      exact hfound

end Stream

end GrammarMachine
