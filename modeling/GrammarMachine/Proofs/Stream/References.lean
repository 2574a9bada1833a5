import GrammarMachine.Production.Automaton
import GrammarMachine.Proofs.Draft.Bookkeeping
import GrammarMachine.Proofs.Machine.Sound
import GrammarMachine.Tree.Build

/-!
Which references introduce an array. A reference is written with what it announces, in one row: an
array is introduced exactly where its node has not yet referred to the slot.
-/

namespace GrammarMachine

open Builder (startsArray)

namespace Stream

/-- What a reference announces follows it: an array exactly if the slot is an array to which the
innermost open node has not yet referred, and no null where the node has referred to the slot. -/
def Announced (d : Draft) : Tag → List Tag → Prop
  | .reference slot, next :: _ =>
      startsArray next = (slot.isArray && !d.hasReference slot.name) ∧
        (next = .null → d.hasReference slot.name = false)
  | .reference _, [] => False
  | _, _ => True

/-- Every reference among the tags written next is followed by what it announces. -/
def Introduces (d : Draft) : List Tag → Prop
  | [] => True
  | tag :: rest => Announced d tag rest ∧ Introduces (d.advance tag) rest

/-- The references in the node in which the tags begin, `depth` nodes further out, and whether each
of them introduces an array. -/
def references : Nat → List Tag → List (Slot × Bool)
  | _, [] => []
  | 0, .reference slot :: rest => (slot, rest.head?.any startsArray) :: references 0 rest
  | depth, tag :: rest =>
      if tag.opens then references (depth + 1) rest
      else if tag.closes then
        match depth with
        | 0 => []
        | depth + 1 => references depth rest
      else references depth rest

theorem announced_of_names {d : Draft} {tag : Tag} (h : tag.names = []) (rest : List Tag) :
    Announced d tag rest := by
  cases tag with
  | reference slot => cases h
  | _ => trivial

theorem Announced.append {d : Draft} {tag : Tag} {rest : List Tag} (h : Announced d tag rest)
    (more : List Tag) : Announced d tag (rest ++ more) := by
  cases tag with
  | reference slot =>
      cases rest with
      | nil => exact h.elim
      | cons next rest => exact h
  | _ => trivial

theorem Introduces.append {d : Draft} {tags more : List Tag} (h : Introduces d tags)
    (hmore : Introduces (d.advanceAll tags) more) : Introduces d (tags ++ more) := by
  induction tags generalizing d with
  | nil => exact hmore
  | cons tag tags ih => exact ⟨h.1.append more, ih h.2 hmore⟩

theorem Introduces.right {d : Draft} {tags more : List Tag} (h : Introduces d (tags ++ more)) :
    Introduces (d.advanceAll tags) more := by
  induction tags generalizing d with
  | nil => exact h
  | cons tag tags ih => exact ih h.2

theorem introduces_silent {d : Draft} {tags : List Tag} (h : ∀ tag ∈ tags, tag.names = []) :
    Introduces d tags := by
  induction tags generalizing d with
  | nil => trivial
  | cons tag tags ih =>
      constructor
      · exact announced_of_names (h tag List.mem_cons_self) tags
      · apply ih
        intro other hother
        exact h other (List.mem_cons_of_mem _ hother)

/-! ### Rows of tags -/

theorem content_flat {tags : List Tag} (h : ∀ tag ∈ tags, tag.opens = false ∧ tag.closes = false) :
    Content tags (tags.flatMap Tag.names) := by
  induction tags using List.reverseRecOn with
  | nil => exact .nil
  | append_singleton tags tag ih =>
      obtain ⟨hopens, hcloses⟩ := h tag (by simp)
      have htags := ih fun other hother => h other (List.mem_append_left _ hother)
      rw [List.flatMap_append, List.flatMap_singleton]
      exact htags.tag hopens hcloses

theorem flat_slotTags (d : Draft) (slot : Slot) :
    ∀ tag ∈ slotTags d slot, tag.opens = false ∧ tag.closes = false := by
  unfold slotTags
  split
  · exact nofun
  · split
    · simp [arrayTags, Tag.opens, Tag.closes]
    · simp [Tag.opens, Tag.closes]

theorem flat_textTags (text : String) :
    ∀ tag ∈ textTags text, (tag.opens = false ∧ tag.closes = false) ∧ tag.names = [] := by
  unfold textTags
  split
  · exact nofun
  · simp [Tag.opens, Tag.closes, Tag.names]

theorem content_placed {d : Draft} {tags : List Tag} (h : Placed d tags) :
    ∃ names, Content tags names := by
  cases h with
  | text => exact ⟨_, content_flat (by simp [Tag.opens, Tag.closes])⟩
  | gap slot => exact ⟨_, (content_flat (flat_slotTags d slot)).tag rfl rfl⟩
  | null slot => exact ⟨_, (content_flat (flat_slotTags d slot)).tag rfl rfl⟩
  | array slot => exact ⟨_, content_flat (by simp [arrayTags, Tag.opens, Tag.closes])⟩
  | token slot traits url nodeType attributes =>
      rw [List.append_assoc, List.append_assoc]
      exact ⟨_, (content_flat (flat_slotTags d slot)).node rfl
        (content_flat fun tag htag => (flat_textTags _ tag htag).1) rfl⟩

theorem Begun.opened {source : Source} {depth : Nat} {tags : List Tag}
    (h : Begun source depth tags) :
    ∃ node outer, (Draft.replay source tags).opened = node :: outer ∧ outer.length = depth := by
  induction h with
  | start url traits => exact ⟨_, [], rfl, rfl⟩
  | place _ hmore ih =>
      obtain ⟨node, outer, hopened, hlength⟩ := ih
      obtain ⟨names, hcontent⟩ := content_placed hmore
      obtain ⟨node', hopened', -⟩ := Draft.opened_advanceAll_content hcontent _ hopened
      rw [Draft.replay_append]
      exact ⟨node', outer, hopened', hlength⟩
  | shift name _ _ ih =>
      rw [Draft.replay_append]
      exact ih
  | @openNode depth tags slot traits url nodeType attributes _ ih =>
      obtain ⟨node, outer, hopened, hlength⟩ := ih
      obtain ⟨node', hopened', -⟩ := Draft.opened_advanceAll_content
        (content_flat (flat_slotTags (Draft.replay source tags) slot)) _ hopened
      have hopening := Draft.opened_advance_opening
        ((Draft.replay source tags).advanceAll (slotTags (Draft.replay source tags) slot))
        (show (Tag.openNode traits url nodeType attributes).opens = true from rfl)
      rw [hopened'] at hopening
      rw [Draft.replay_append, Draft.advanceAll_append]
      exact ⟨_, node' :: outer, hopening, congrArg (· + 1) hlength⟩
  | closeNode _ ih =>
      obtain ⟨node, outer, hopened, hlength⟩ := ih
      rw [Draft.replay_append]
      cases outer with
      | nil => cases hlength
      | cons node' outer =>
          refine ⟨node', outer, Draft.opened_advance_closing _ rfl |>.trans ?_,
            Nat.succ.inj hlength⟩
          rw [hopened, List.tail_cons]

theorem introduces_arrayTags {d : Draft} {slot : Slot} (hnew : d.hasReference slot.name = false) :
    Introduces d (arrayTags slot) := by
  refine ⟨⟨?_, nofun⟩, trivial, trivial⟩
  rw [hnew]
  rfl

theorem introduces_slotTags {d : Draft} (hopened : d.opened ≠ []) (slot : Slot) {value : Tag}
    {rest : List Tag} (hvalue : startsArray value = false)
    (hnull : value = .null → slot.isArray = false ∧ d.hasReference slot.name = false)
    (hrest : ∀ tag ∈ value :: rest, tag.names = []) :
    Introduces d (slotTags d slot ++ value :: rest) := by
  unfold slotTags
  split
  · exact introduces_silent hrest
  · split
    · rename_i harray
      obtain ⟨hisArray, hnew⟩ := Bool.and_eq_true_iff.mp harray
      replace hnew : d.hasReference slot.name = false := Bool.not_eq_true' _ |>.mp hnew
      rw [List.append_assoc]
      apply (introduces_arrayTags hnew).append
      refine ⟨⟨?_, ?_⟩, introduces_silent hrest⟩
      · -- the introduction of the array is itself a reference to the slot
        obtain ⟨node, outer, hnode⟩ := List.exists_cons_of_ne_nil hopened
        have hflat : Content (arrayTags slot) [slot.name] :=
          content_flat (by simp [arrayTags, Tag.opens, Tag.closes])
        obtain ⟨node', hnode', hgains⟩ := Draft.opened_advanceAll_content hflat _ hnode
        have hknown : (d.advanceAll (arrayTags slot)).hasReference slot.name = true := by
          have hmem : slot.name ∈ node'.names := (hgains _).mpr (.inr List.mem_cons_self)
          simpa [Draft.hasReference, hnode'] using hmem
        rw [hvalue, hknown, Bool.not_true, Bool.and_false]
      · intro hisNull
        rw [(hnull hisNull).1] at hisArray
        cases hisArray
    · rename_i hsingle
      refine ⟨⟨?_, fun hisNull => (hnull hisNull).2⟩, introduces_silent hrest⟩
      rw [hvalue]
      exact (Bool.not_eq_true _ ▸ hsingle).symm

theorem introduces_placed {d : Draft} {tags : List Tag} (h : Placed d tags)
    (hopened : d.opened ≠ []) : Introduces d tags := by
  cases h with
  | text => exact introduces_silent (by simp [Tag.names])
  | gap slot => exact introduces_slotTags hopened slot rfl nofun (by simp [Tag.names])
  | null slot hnew harray =>
      exact introduces_slotTags hopened slot rfl (fun _ => ⟨harray, hnew⟩) (by simp [Tag.names])
  | array slot hnew => exact introduces_arrayTags hnew
  | token slot traits url nodeType attributes =>
      rw [List.append_assoc, List.append_assoc, List.singleton_append]
      refine introduces_slotTags hopened slot rfl nofun ?_
      intro tag htag
      simp only [List.mem_cons, List.mem_append, List.not_mem_nil, or_false] at htag
      rcases htag with rfl | htext | rfl
      · rfl
      · exact (flat_textTags _ tag htext).2
      · rfl

theorem Begun.opened_ne_nil {source : Source} {depth : Nat} {tags : List Tag}
    (h : Begun source depth tags) : (Draft.replay source tags).opened ≠ [] := by
  obtain ⟨node, outer, hopened, -⟩ := h.opened
  rw [hopened]
  exact List.cons_ne_nil node outer

theorem Begun.introduces {source : Source} {depth : Nat} {tags : List Tag}
    (h : Begun source depth tags) : Introduces (Draft.fresh source) tags := by
  induction h with
  | start url traits => exact introduces_silent (by simp [Tag.names])
  | place hbegun hmore ih => exact ih.append (introduces_placed hmore hbegun.opened_ne_nil)
  | shift name _ _ ih => exact ih.append (introduces_silent (by simp [Tag.names]))
  | openNode slot traits url nodeType attributes hbegun ih =>
      apply ih.append
      exact introduces_slotTags hbegun.opened_ne_nil slot rfl nofun (by simp [Tag.names])
  | closeNode _ ih => exact ih.append (introduces_silent (by simp [Tag.names]))

theorem Finished.introduces {source : Source} {tags : List Tag} (h : Finished source tags) :
    Introduces (Draft.fresh source) tags := by
  obtain ⟨begun, hbegun, -, rfl⟩ := h
  exact hbegun.introduces.append (introduces_silent (by simp [Tag.names]))

/-! ### The references of a node -/

theorem references_opening {depth : Nat} {tag : Tag} (h : tag.opens = true) (rest : List Tag) :
    references depth (tag :: rest) = references (depth + 1) rest := by
  cases tag with
  | openNode | openFragment => cases depth <;> rfl
  | _ => cases h

theorem references_closing {depth : Nat} {tag : Tag} (h : tag.closes = true) (rest : List Tag) :
    references (depth + 1) (tag :: rest) = references depth rest := by
  cases tag with
  | closeNode | closeFragment => rfl
  | _ => cases h

theorem references_end {tag : Tag} (h : tag.closes = true) (rest : List Tag) :
    references 0 (tag :: rest) = [] := by
  cases tag with
  | closeNode | closeFragment => rfl
  | _ => cases h

theorem references_inner {depth : Nat} {tag : Tag} (hopens : tag.opens = false)
    (hcloses : tag.closes = false) (rest : List Tag) :
    references (depth + 1) (tag :: rest) = references (depth + 1) rest := by
  cases tag with
  | openNode | openFragment => cases hopens
  | closeNode | closeFragment => cases hcloses
  | _ => rfl

/-- In a node just those array slots are introduced to which it has not referred before. -/
def IntroducedOnce (node : OpenNode) : List (Slot × Bool) → Prop
  | [] => True
  | (slot, introduced) :: rest =>
      introduced = (slot.isArray && !node.names.contains slot.name) ∧
        IntroducedOnce (node.addName slot.name) rest

/-- If the references announce what follows them, those in a node that is `depth` nodes further out
introduce each array once. -/
theorem Introduces.references {d : Draft} {tags : List Tag} (h : Introduces d tags)
    {inner outer : List OpenNode} {node : OpenNode} (hopened : d.opened = inner ++ node :: outer) :
    IntroducedOnce node (references inner.length tags) := by
  induction tags generalizing d inner node with
  | nil => cases inner <;> trivial
  | cons tag tags ih =>
      obtain ⟨hannounced, hrest⟩ := h
      by_cases hopens : tag.opens = true
      · have hopening := Draft.opened_advance_opening d hopens
        rw [hopened, ← List.cons_append] at hopening
        rw [references_opening hopens]
        exact ih hrest hopening
      rw [Bool.not_eq_true] at hopens
      by_cases hcloses : tag.closes = true
      · have hclosing := Draft.opened_advance_closing d hcloses
        cases inner with
        | nil =>
            rw [List.length_nil, references_end hcloses]
            trivial
        | cons first inner =>
            rw [hopened, List.cons_append, List.tail_cons] at hclosing
            rw [List.length_cons, references_closing hcloses]
            exact ih hrest hclosing
      rw [Bool.not_eq_true] at hcloses
      cases inner with
      | cons first inner =>
          obtain ⟨first', hflat, -⟩ := Draft.opened_advance_flat d hopens hcloses hopened
          rw [List.length_cons, references_inner hopens hcloses]
          exact ih hrest (show _ = (first' :: inner) ++ node :: outer from hflat)
      | nil =>
          cases tag with
          | reference slot =>
              cases tags with
              | nil => exact hannounced.elim
              | cons next tags =>
                  constructor
                  · have hfollows := hannounced.1
                    rw [Draft.hasReference, hopened] at hfollows
                    exact hfollows
                  · have hadded : (d.advance (.reference slot)).opened =
                        [] ++ node.addName slot.name :: outer := by
                      simp only [Draft.advance, Draft.openedAfter, hopened, List.nil_append]
                    exact ih hrest hadded
          | openNode | openFragment => cases hopens
          | closeNode | closeFragment => cases hcloses
          | _ => exact ih hrest hopened

theorem IntroducedOnce.known {node : OpenNode} {refs : List (Slot × Bool)}
    (h : IntroducedOnce node refs) {name : String} (hname : name ∈ node.names) :
    ∀ r ∈ refs, r.1.name = name → r.2 = false := by
  induction refs generalizing node with
  | nil => exact nofun
  | cons head rest ih =>
      obtain ⟨hhead, hrest⟩ := h
      intro r hr hsame
      rcases List.mem_cons.mp hr with rfl | hr
      · rw [hhead, hsame, List.contains_iff_mem.mpr hname, Bool.not_true, Bool.and_false]
      · exact ih hrest ((node.gains_addName _ name).mpr (.inl hname)) r hr hsame

/-- Of the references to a slot in one node only the first one can introduce the array, and it does
if it is a reference to an array. -/
theorem IntroducedOnce.first {node : OpenNode} {refs : List (Slot × Bool)}
    (h : IntroducedOnce node refs) {name : String} (hname : name ∉ node.names)
    {first : Slot × Bool} {later : List (Slot × Bool)}
    (hrefs : refs.filter (·.1.name = name) = first :: later) :
    first.2 = first.1.isArray ∧ ∀ r ∈ later, r.2 = false := by
  induction refs generalizing node with
  | nil => cases hrefs
  | cons head rest ih =>
      obtain ⟨hhead, hrest⟩ := h
      by_cases hsame : head.1.name = name
      · simp only [List.filter_cons, hsame, decide_true, if_true] at hrefs
        obtain ⟨rfl, rfl⟩ := List.cons.inj hrefs
        constructor
        · have hnew : node.names.contains head.1.name = false := by
            rw [hsame, ← Bool.not_eq_true, List.contains_iff_mem]
            exact hname
          rw [hhead, hnew, Bool.not_false, Bool.and_true]
        · intro r hr
          obtain ⟨hmem, hof⟩ := List.mem_filter.mp hr
          have hknown : name ∈ (node.addName head.1.name).names :=
            (node.gains_addName _ name).mpr (.inr (List.mem_singleton.mpr hsame.symm))
          exact hrest.known hknown r hmem (of_decide_eq_true hof)
      · simp only [List.filter_cons, hsame, decide_false, Bool.false_eq_true, if_false] at hrefs
        refine ih hrest ?_ hrefs
        rw [node.gains_addName, not_or, List.mem_singleton]
        exact ⟨hname, fun heq => hsame heq.symm⟩

theorem Finished.references {source : Source} {tags : List Tag} (h : Finished source tags)
    {before after : List Tag} {opening : Tag} (htags : tags = before ++ opening :: after)
    (hopens : opening.opens = true) :
    ∃ node : OpenNode, node.names = [] ∧ IntroducedOnce node (references 0 after) := by
  have hintroduces := htags ▸ h.introduces
  obtain ⟨-, hafter⟩ := hintroduces.right
  have hopened : (((Draft.fresh source).advanceAll before).advance opening).opened =
      [] ++ ⟨((Draft.fresh source).advanceAll before).tags.size, []⟩ ::
        ((Draft.fresh source).advanceAll before).opened :=
    Draft.opened_advance_opening _ hopens
  exact ⟨_, rfl, hafter.references hopened⟩

end Stream

namespace Machine

variable {σ : Type} {n : Nat} [Stepper σ]

/-- Array slots are introduced exactly once in each node of an accepted run: at most one of the
references to a slot introduces the array, and if all of them refer to an array it is the first. -/
theorem run_introduces {m : Machine σ n} {source : Source} {props : Option Json} {fuel : Nat}
    {halt : Halt σ n Draft} (h : m.run (Draft.fresh source) props fuel = some halt)
    {extent : Extent} (haccepted : halt.outcome = .accepted extent)
    {before after : List Tag} {opening : Tag}
    (htags : halt.run.tape.tags.toList = before ++ opening :: after) (hopens : opening.opens = true)
    (name : String) :
    let refs := (Stream.references 0 after).filter (·.1.name = name)
    refs.countP (·.2) ≤ 1 ∧
      ((∀ r ∈ refs, r.1.isArray = true) →
        ∀ first later, refs = first :: later → first.2 = true ∧ ∀ r ∈ later, r.2 = false) := by
  intro refs
  obtain ⟨node, hnames, honce⟩ := (run_finished h haccepted).references htags hopens
  have hnew : name ∉ node.names := by
    rw [hnames]
    exact List.not_mem_nil
  constructor
  · rcases hrefs : refs with _ | ⟨first, later⟩
    · exact Nat.zero_le 1
    · obtain ⟨-, hlater⟩ := honce.first hnew hrefs
      have hnone : later.countP (·.2) = 0 := by
        rw [List.countP_eq_zero]
        intro r hr
        rw [hlater r hr]
        decide
      rw [List.countP_cons, hnone]
      split <;> omega
  · intro harrays first later hrefs
    obtain ⟨hfirst, hlater⟩ := honce.first hnew hrefs
    refine ⟨?_, hlater⟩
    rw [hfirst]
    apply harrays
    rw [hrefs]
    exact List.mem_cons_self

/-- A machine that reads a row by the given instructions. -/
def rowReader (body : List Instruction) : Machine Automaton 1 where
  catalog _ := {
    url := "urn:row"
    grammar := ({} : Grammar Automaton).node "Row" |>.node "Letter"
      |>.define "Row" (.script body none) }
  language := Fin.last 0
  goal := .node "Row"

/-- A machine that introduces an array before its items, and tries an item in vain in between. -/
def itemsReader : Machine Automaton 1 :=
  let item (text : String) := (Goal.token "Letter" (.literal text)).inArray "items"
  rowReader [.eat (Goal.array.named "items"), .eatMatch (item "c"), .eat (item "a"),
    .eat (item "b")]

theorem run_introduces_itemsReader :
    ∃ halt extent before opening after,
      itemsReader.run (Draft.fresh (.ofText "ab")) none 9 = some halt ∧
        halt.outcome = .accepted extent ∧
        halt.run.tape.tags.toList = before ++ opening :: after ∧ opening.opens = true ∧
        let refs := (Stream.references 0 after).filter (·.1.name = "items")
        refs.map (·.2) = [true, false, false] ∧ refs.countP (·.2) ≤ 1 ∧
          ∀ first later, refs = first :: later → first.2 = true ∧ ∀ r ∈ later, r.2 = false := by
  obtain ⟨halt, extent, before, opening, after, hrun, haccepted, htags, hopens, hrefs, harrays⟩ :
      ∃ halt extent before opening after,
        itemsReader.run (Draft.fresh (.ofText "ab")) none 9 = some halt ∧
          halt.outcome = .accepted extent ∧
          halt.run.tape.tags.toList = before ++ opening :: after ∧ opening.opens = true ∧
          ((Stream.references 0 after).filter (·.1.name = "items")).map (·.2) =
            [true, false, false] ∧
          ((Stream.references 0 after).filter (·.1.name = "items")).all (·.1.isArray) = true :=
    ⟨_, _, [_, _, _], _, _, rfl, rfl, rfl, rfl, rfl, rfl⟩
  obtain ⟨hcount, hfirst⟩ := run_introduces hrun haccepted htags hopens "items"
  exact ⟨halt, extent, before, opening, after, hrun, haccepted, htags, hopens, hrefs, hcount,
    hfirst (List.all_eq_true.mp harrays)⟩

end Machine

end GrammarMachine
