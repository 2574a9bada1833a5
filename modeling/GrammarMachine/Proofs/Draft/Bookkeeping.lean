import GrammarMachine.Proofs.Draft.Transactions
import GrammarMachine.Proofs.Stream.Begun
import Mathlib.Data.List.Induction

/-!
What a draft keeps beside its tags is determined by them, after any acts whatsoever: the position is
what the literals and gaps add up to, the open nodes are those of the brackets, and attributes are
bound to tags that open a node. The same is true of every state that an open transaction could go
back to.
-/

namespace GrammarMachine

def Tag.isGap : Tag → Bool
  | .gap => true
  | _ => false

/-- The name of the slot that the tag refers to, if it is a reference. -/
def Tag.names : Tag → List String
  | .reference slot => [slot.name]
  | _ => []

namespace Stream

/-- What stands in a node whose inner nodes are all closed, with the names referred to in the node
itself. -/
inductive Content : List Tag → List String → Prop where
  | nil : Content [] []
  | tag {tags : List Tag} {names : List String} {tag : Tag} : Content tags names →
      tag.opens = false → tag.closes = false → Content (tags ++ [tag]) (names ++ tag.names)
  | node {tags inner : List Tag} {names innerNames : List String} {opening closing : Tag} :
      Content tags names → opening.opens = true → Content inner innerNames →
      closing.closes = true → Content (tags ++ (opening :: inner ++ [closing])) names

/-- After the tags the given content stands in the innermost open node. -/
def Inside (tags before content : List Tag) (names : List String) : Prop :=
  ∃ opening, tags = before ++ opening :: content ∧ opening.opens = true ∧ Content content names

/-- The name is referred to in the innermost open node itself, not in a node inside it. -/
def RefersDirectly (tags : List Tag) (name : String) : Prop :=
  ∃ before content names, Inside tags before content names ∧ name ∈ names

/-- The tag with the given index opens a node. -/
def OpensAt (tags : Array Tag) (index : Nat) : Prop :=
  ∃ tag, tags[index]? = some tag ∧ tag.opens = true

namespace Inside

variable {tags before before' content content' : List Tag} {names names' : List String} {tag : Tag}

theorem flat (h : Inside tags before content names) (hopens : tag.opens = false)
    (hcloses : tag.closes = false) :
    Inside (tags ++ [tag]) before (content ++ [tag]) (names ++ tag.names) := by
  obtain ⟨opening, rfl, hopening, hcontent⟩ := h
  exact ⟨opening, by simp, hopening, hcontent.tag hopens hcloses⟩

theorem close (h : Inside tags before content names)
    (houter : Inside before before' content' names') (hcloses : tag.closes = true) :
    ∃ more, Inside (tags ++ [tag]) before' more names' := by
  obtain ⟨opening, rfl, hopening, hcontent⟩ := h
  obtain ⟨outer, rfl, houter, hcontent'⟩ := houter
  exact ⟨_, outer, by simp, houter, hcontent'.node hopening hcontent hcloses⟩

end Inside

theorem OpensAt.push {tags : Array Tag} {index : Nat} (h : OpensAt tags index) (tag : Tag) :
    OpensAt (tags.push tag) index := by
  obtain ⟨opening, hopening, hopens⟩ := h
  have hlt : index < tags.size := (Array.getElem?_eq_some_iff.mp hopening).1
  refine ⟨opening, ?_, hopens⟩
  rw [Array.getElem?_push_lt hlt, ← hopening, Array.getElem?_eq_getElem hlt]

theorem length_gapOffsets (before : Nat) (tags : List Tag) :
    (gapOffsets before tags).length = tags.countP Tag.isGap := by
  fun_induction gapOffsets before tags with
  | case1 => rfl
  | case2 before text rest ih => simpa [Tag.isGap] using ih
  | case3 before rest ih => rw [List.countP_cons_of_pos rfl, List.length_cons, ih]
  | case4 before tag rest htext hgap ih =>
      rw [ih]
      cases tag <;> simp_all [Tag.isGap]

end Stream

namespace OpenNode

/-- A node with the names of another one and some more. -/
def Gains (node : OpenNode) (names : List String) (node' : OpenNode) : Prop :=
  ∀ name, name ∈ node'.names ↔ name ∈ node.names ∨ name ∈ names

theorem gains_addName (node : OpenNode) (name : String) :
    node.Gains [name] (node.addName name) := by
  intro other
  unfold addName
  split
  · rename_i hknown
    have hmem : name ∈ node.names := by simpa using hknown
    constructor
    · exact Or.inl
    · rintro (hother | hother)
      · exact hother
      · rwa [List.mem_singleton.mp hother]
  · simp [or_comm]

theorem Gains.refl (node : OpenNode) : node.Gains [] node := by
  intro name
  simp

theorem Gains.trans {a b c : OpenNode} {names more : List String} (hab : a.Gains names b)
    (hbc : b.Gains more c) : a.Gains (names ++ more) c := by
  intro name
  rw [hbc, hab, List.mem_append, or_assoc]

end OpenNode

namespace Draft

theorem opened_advance_opening (d : Draft) {tag : Tag} (h : tag.opens = true) :
    (d.advance tag).opened = ⟨d.tags.size, []⟩ :: d.opened := by
  cases tag with
  | openNode | openFragment => rfl
  | _ => cases h

theorem opened_advance_closing (d : Draft) {tag : Tag} (h : tag.closes = true) :
    (d.advance tag).opened = d.opened.tail := by
  cases tag with
  | closeNode | closeFragment => rfl
  | _ => cases h

theorem opened_advance_flat (d : Draft) {tag : Tag} (hopens : tag.opens = false)
    (hcloses : tag.closes = false) {node : OpenNode} {rest : List OpenNode}
    (h : d.opened = node :: rest) :
    ∃ node', (d.advance tag).opened = node' :: rest ∧ node.Gains tag.names node' := by
  cases tag with
  | reference slot =>
      refine ⟨node.addName slot.name, ?_, node.gains_addName slot.name⟩
      simp only [advance, openedAfter, h]
  | openNode | openFragment => cases hopens
  | closeNode | closeFragment => cases hcloses
  | _ => exact ⟨node, h, .refl node⟩

/-- Content leaves the open nodes as they are, but for the names that it adds. -/
theorem opened_advanceAll_content {content : List Tag} {names : List String}
    (hcontent : Stream.Content content names) (d : Draft) {node : OpenNode} {rest : List OpenNode}
    (h : d.opened = node :: rest) :
    ∃ node', (d.advanceAll content).opened = node' :: rest ∧ node.Gains names node' := by
  induction hcontent generalizing d node rest with
  | nil => exact ⟨node, h, .refl node⟩
  | @tag tags names tag _ hopens hcloses ih =>
      obtain ⟨before, hbefore, hnames⟩ := ih d h
      obtain ⟨after, hafter, hadded⟩ := opened_advance_flat _ hopens hcloses hbefore
      refine ⟨after, ?_, hnames.trans hadded⟩
      rw [advanceAll_append]
      exact hafter
  | @node tags inner names innerNames opening closing _ hopens _ hcloses ih ihinner =>
      obtain ⟨before, hbefore, hnames⟩ := ih d h
      refine ⟨before, ?_, hnames⟩
      rw [advanceAll_append, List.cons_append, advanceAll_cons, advanceAll_append]
      -- the inner node stands on the stack from its opening tag on, and its closing tag drops it
      obtain ⟨_, hinner, -⟩ := ihinner _ (opened_advance_opening (d.advanceAll tags) hopens)
      exact (opened_advance_closing _ hcloses).trans (by rw [hinner, List.tail_cons, hbefore])

theorem opened_replay_inside (source : Source) {tags before content : List Tag}
    {names : List String} (h : Stream.Inside tags before content names) :
    ∃ node, (replay source tags).opened = node :: (replay source before).opened ∧
      ∀ name, name ∈ node.names ↔ name ∈ names := by
  obtain ⟨opening, rfl, hopens, hcontent⟩ := h
  obtain ⟨node, hnode, hnames⟩ := opened_advanceAll_content hcontent _
    (opened_advance_opening (replay source before) hopens)
  refine ⟨node, ?_, ?_⟩
  · rw [replay_append]
    exact hnode
  · intro name
    simpa using hnames name

/-- Whenever a node is open the tags end with its opening tag and what stands in it. -/
theorem exists_inside (source : Source) (tags : List Tag)
    (h : (replay source tags).opened ≠ []) :
    ∃ before content names, Stream.Inside tags before content names := by
  -- a closing tag leads back to the tags before the node that it closes, hence by length
  induction hlength : tags.length using Nat.strongRecOn generalizing tags with
  | ind length ih =>
      rcases tags.eq_nil_or_concat with rfl | ⟨tags, tag, rfl⟩
      · exact absurd rfl h
      rw [List.concat_eq_append] at h hlength ⊢
      rw [List.length_append, List.length_singleton] at hlength
      rw [replay_append] at h
      change ((replay source tags).advance tag).opened ≠ [] at h
      by_cases hopens : tag.opens = true
      · exact ⟨tags, [], [], tag, rfl, hopens, .nil⟩
      have hbefore : (replay source tags).opened ≠ [] := by
        intro hnil
        apply h
        cases tag <;> simp_all [advance, openedAfter, Tag.opens]
      obtain ⟨before, content, names, hinside⟩ := ih tags.length (by omega) tags hbefore rfl
      by_cases hcloses : tag.closes = true
      · obtain ⟨node, hopened, -⟩ := opened_replay_inside source hinside
        rw [opened_advance_closing _ hcloses, hopened, List.tail_cons] at h
        have hshorter : before.length < length := by
          obtain ⟨opening, rfl, -, -⟩ := hinside
          rw [List.length_append] at hlength
          omega
        obtain ⟨before', content', names', houter⟩ := ih before.length hshorter before h rfl
        obtain ⟨more, hmore⟩ := hinside.close houter hcloses
        exact ⟨before', more, names', hmore⟩
      · exact ⟨before, content ++ [tag], names ++ tag.names,
          hinside.flat (by simpa using hopens) (by simpa using hcloses)⟩

theorem hasReference_replay (source : Source) (tags : List Tag) (name : String) :
    (replay source tags).hasReference name = true ↔ Stream.RefersDirectly tags name := by
  constructor
  · intro h
    have hopen : (replay source tags).opened ≠ [] := by
      intro hnil
      simp [hasReference, hnil] at h
    obtain ⟨before, content, names, hinside⟩ := exists_inside source tags hopen
    obtain ⟨node, hopened, hnames⟩ := opened_replay_inside source hinside
    refine ⟨before, content, names, hinside, (hnames name).mp ?_⟩
    simpa [hasReference, hopened] using h
  · rintro ⟨before, content, names, hinside, hname⟩
    obtain ⟨node, hopened, hnames⟩ := opened_replay_inside source hinside
    simpa [hasReference, hopened] using (hnames name).mpr hname

theorem mem_openedAfter {opened : List OpenNode} {index : Nat} {tag : Tag} {node : OpenNode}
    (h : node ∈ openedAfter opened index tag) :
    (node.tag = index ∧ tag.opens = true) ∨ ∃ old ∈ opened, node.tag = old.tag := by
  fun_cases openedAfter opened index tag with
  | case1 | case2 =>
      rcases List.mem_cons.mp h with rfl | hold
      · exact .inl ⟨rfl, rfl⟩
      · exact .inr ⟨node, hold, rfl⟩
  | case3 | case4 => exact .inr ⟨node, List.mem_of_mem_tail h, rfl⟩
  | case5 slot first rest =>
      rcases List.mem_cons.mp h with rfl | hold
      · exact .inr ⟨first, List.mem_cons_self, rfl⟩
      · exact .inr ⟨node, List.mem_cons_of_mem _ hold, rfl⟩
  | case6 => cases h
  | case7 => exact .inr ⟨node, by simpa [openedAfter] using h, rfl⟩

theorem opensAt_opened (source : Source) (tags : List Tag) :
    ∀ node ∈ (replay source tags).opened, Stream.OpensAt tags.toArray node.tag := by
  induction tags using List.reverseRecOn with
  | nil => exact nofun
  | append_singleton tags tag ih =>
      intro node hnode
      rw [replay_append] at hnode
      rw [← List.push_toArray]
      have hsize : (replay source tags).tags.size = tags.toArray.size := by
        rw [← Array.length_toList, replay_tags, List.size_toArray]
      rcases mem_openedAfter hnode with ⟨hindex, hopens⟩ | ⟨old, hold, htag⟩
      · refine ⟨tag, ?_, hopens⟩
        rw [hindex, hsize, Array.getElem?_push_size]
      · rw [htag]
        exact (ih old hold).push tag

/-- The position and the open nodes of a draft follow from its tags, and each bound attribute
belongs to a node. -/
structure Kept (d : Draft) : Prop where
  faithful : d.Faithful
  bound : ∀ b ∈ d.bindings, Stream.OpensAt d.tags b.tag

/-- What a draft keeps beside its tags says what its tags say. -/
structure Books (d : Draft) : Prop where
  offset : d.position.offset = (Stream.literalText d.tags.toList).utf8ByteSize
  gaps : d.position.gaps = d.tags.toList.countP Tag.isGap
  opened : d.opened = (replay d.source d.tags.toList).opened
  reference : ∀ name, d.hasReference name = true ↔ Stream.RefersDirectly d.tags.toList name
  bound : ∀ entry ∈ d.boundAttributes, Stream.OpensAt d.tags entry.1

theorem mem_addBinding {b : Binding} {bound : List (Nat × Fields)} {entry : Nat × Fields}
    (h : entry ∈ addBinding b bound) : entry.1 = b.tag ∨ ∃ old ∈ bound, entry.1 = old.1 := by
  fun_induction addBinding b bound with
  | case1 => exact .inl (by rw [List.mem_singleton.mp h])
  | case2 tag fields rest hlt =>
      rcases List.mem_cons.mp h with rfl | hold
      · exact .inl rfl
      · exact .inr ⟨entry, hold, rfl⟩
  | case3 fields rest =>
      rcases List.mem_cons.mp h with rfl | hold
      · exact .inl rfl
      · exact .inr ⟨entry, List.mem_cons_of_mem _ hold, rfl⟩
  | case4 tag fields rest hlt hne ih =>
      rcases List.mem_cons.mp h with rfl | hold
      · exact .inr ⟨_, List.mem_cons_self, rfl⟩
      · rcases ih hold with hb | ⟨old, hmem, htag⟩
        · exact .inl hb
        · exact .inr ⟨old, List.mem_cons_of_mem _ hmem, htag⟩

theorem exists_binding {d : Draft} {entry : Nat × Fields} (h : entry ∈ d.boundAttributes) :
    ∃ b ∈ d.bindings, entry.1 = b.tag := by
  have hlisted (bindings : List Binding) (bound : List (Nat × Fields))
      (hentry : entry ∈ bindings.foldl (fun bound b => addBinding b bound) bound) :
      (∃ old ∈ bound, entry.1 = old.1) ∨ ∃ b ∈ bindings, entry.1 = b.tag := by
    induction bindings generalizing bound with
    | nil => exact .inl ⟨entry, hentry, rfl⟩
    | cons b bindings ih =>
        rcases ih _ hentry with ⟨old, hold, htag⟩ | ⟨later, hlater, htag⟩
        · rcases mem_addBinding hold with hb | ⟨first, hfirst, hsame⟩
          · exact .inr ⟨b, List.mem_cons_self, htag.trans hb⟩
          · exact .inl ⟨first, hfirst, htag.trans hsame⟩
        · exact .inr ⟨later, List.mem_cons_of_mem _ hlater, htag⟩
  rw [boundAttributes, ← Array.foldl_toList] at h
  rcases hlisted _ _ h with ⟨old, hold, -⟩ | ⟨b, hb, htag⟩
  · cases hold
  · exact ⟨b, Array.mem_toList_iff.mp hb, htag⟩

theorem Kept.books {d : Draft} (h : d.Kept) : d.Books where
  offset := by
    rw [h.faithful.position, replay_position, Stream.literalText_eq, Text.utf8ByteSize_ofList]
  gaps := by
    rw [h.faithful.position, replay_position, ← Stream.gapOffsets_eq, Stream.length_gapOffsets]
  opened := h.faithful.opened
  reference := by
    intro name
    rw [← hasReference_replay d.source]
    simp only [hasReference, h.faithful.opened]
  bound := by
    intro entry hentry
    obtain ⟨b, hb, htag⟩ := exists_binding hentry
    rw [htag]
    exact h.bound b hb

theorem Kept.silent {d d' : Draft} (h : d.Kept) (hsilent : d.Silent d')
    (hbindings : ∀ b ∈ d'.bindings, b ∈ d.bindings ∨ ∃ node ∈ d.opened, b.tag = node.tag) :
    d'.Kept where
  faithful := hsilent.faithful h.faithful
  bound := by
    intro b hb
    rw [hsilent.tags]
    rcases hbindings b hb with hold | ⟨node, hnode, htag⟩
    · exact h.bound b hold
    · rw [h.faithful.opened] at hnode
      rw [htag]
      exact opensAt_opened d.source d.tags.toList node hnode

theorem keeps_kept : Keeps Kept := by
  intro d act hact h
  cases act with
  | reject => exact absurd rfl hact
  | init language => exact ⟨⟨h.faithful.position, h.faithful.opened⟩, h.bound⟩
  | branch | accept => exact ⟨⟨h.faithful.position, h.faithful.opened⟩, h.bound⟩
  | advance tag =>
      exact ⟨h.faithful.advanceAll [tag], fun b hb => (h.bound b hb).push tag⟩
  | write text options => exact h.silent (.perform_write d text options) fun _ => .inl
  | openSpan name => exact h.silent (.perform_openSpan d name) fun _ => .inl
  | closeSpan name => exact h.silent (.perform_closeSpan d name) fun _ => .inl
  | bind key value =>
      refine h.silent (.perform_bind d key value) ?_
      intro b hb
      change b ∈ (d.bind key value).bindings at hb
      unfold Draft.bind at hb
      split at hb
      · rename_i node rest hopened
        rcases Array.mem_push.mp hb with hold | rfl
        · exact .inl hold
        · exact .inr ⟨node, by simp [hopened], rfl⟩
      · exact .inl hb
  | startFrame | endFrame | throw => exact h

namespace Above

variable {P : Draft → Prop} {base d : Draft} {depth : Nat}

theorem init (hkeeps : Keeps P) (h : Above P base depth d) (language : String) :
    Above P (base.perform (.init language)) depth (d.perform (.init language)) := by
  have hnamed {a b : Draft} (hgrown : a.Extends b) :
      (a.perform (.init language)).Extends (b.perform (.init language)) :=
    ⟨hgrown.source, rfl, hgrown.tags, hgrown.writes, hgrown.bindings⟩
  induction h with
  | ground hgrown hbranches hd =>
      exact .ground (hnamed hgrown) hbranches (hkeeps _ _ nofun hd)
  | branch _ hgrown hbranches hd ih =>
      exact .branch ih (hnamed hgrown) hbranches (hkeeps _ _ nofun hd)

theorem exists_restored (h : Above P base depth d) (hbase : base.branches = []) {s : Snapshot}
    (hs : s ∈ d.branches) : ∃ inner, P inner ∧ inner.Extends d ∧ s = inner.snapshot := by
  induction h with
  | ground _ hbranches _ =>
      rw [hbranches, hbase] at hs
      cases hs
  | @branch _ inner d hinner hgrown hbranches _ ih =>
      rw [hbranches] at hs
      rcases List.mem_cons.mp hs with rfl | hs
      · exact ⟨inner, hinner.holds, hgrown, rfl⟩
      · obtain ⟨outer, houter, hextends, rfl⟩ := ih hs
        exact ⟨outer, houter, hextends.trans hgrown, rfl⟩

end Above

theorem perform_unopened {d : Draft} (h : d.branches = []) {act : Act}
    (hact : act.depthAfter? 0 = none) : (∃ language, act = .init language) ∨ d.perform act = d := by
  cases act with
  | init language => exact .inl ⟨language, rfl⟩
  | accept =>
      right
      change { d with branches := d.branches.tail } = d
      rw [h, List.tail_nil, ← h]
  | reject =>
      right
      change d.reject = d
      rw [reject, h]
  | _ => cases hact

/-- Acts of any kind leave a draft to whose beginning one can go back step by step. -/
theorem exists_above (source : Source) (acts : List Act) :
    ∃ base depth, base.branches = [] ∧ Above Kept base depth ((fresh source).performAll acts) := by
  induction acts using List.reverseRecOn with
  | nil =>
      refine ⟨fresh source, 0, rfl, .ground (.refl _) rfl ⟨⟨rfl, rfl⟩, ?_⟩⟩
      exact nofun
  | append_singleton acts act ih =>
      obtain ⟨base, depth, hbase, habove⟩ := ih
      rw [performAll_append]
      generalize (fresh source).performAll acts = d at habove
      change ∃ base depth, _ ∧ Above Kept base depth (d.perform act)
      rcases hdepth : act.depthAfter? depth with _ | depth'
      · have hnamed : ∀ language, act = .init language →
            ∃ base depth, base.branches = [] ∧ Above Kept base depth (d.perform act) := by
          rintro language rfl
          exact ⟨base.perform (.init language), depth, hbase, habove.init keeps_kept language⟩
        cases habove with
        | ground hgrown hbranches hd =>
            rcases perform_unopened (hbranches.trans hbase) hdepth with ⟨language, hinit⟩ | hsame
            · exact hnamed language hinit
            · rw [hsame]
              exact ⟨base, 0, hbase, .ground hgrown hbranches hd⟩
        | branch =>
            cases act with
            | init language => exact hnamed language rfl
            | _ => cases hdepth
      · exact ⟨base, depth', hbase, habove.perform keeps_kept hdepth⟩

end Draft

/-- One snapshot remembers at least as much as another one. -/
structure Snapshot.Covers (inner outer : Snapshot) : Prop where
  tags : outer.tagCount ≤ inner.tagCount
  writes : outer.writeCount ≤ inner.writeCount
  bindings : outer.bindingCount ≤ inner.bindingCount

theorem Snapshot.Covers.trans {a b c : Snapshot} (hab : a.Covers b) (hbc : b.Covers c) :
    a.Covers c :=
  ⟨Nat.le_trans hbc.tags hab.tags, Nat.le_trans hbc.writes hab.writes,
    Nat.le_trans hbc.bindings hab.bindings⟩

namespace Draft

theorem Extends.covers {base d : Draft} (h : base.Extends d) :
    d.snapshot.Covers base.snapshot where
  tags := by simpa [snapshot] using h.tags.length_le
  writes := by simpa [snapshot] using h.writes.length_le
  bindings := by simpa [snapshot] using h.bindings.length_le

theorem Above.pairwise_covers {P : Draft → Prop} {base d : Draft} {depth : Nat}
    (h : Above P base depth d) (hbase : base.branches = []) :
    (d.snapshot :: d.branches).Pairwise Snapshot.Covers := by
  induction h with
  | ground _ hbranches _ =>
      rw [hbranches, hbase]
      exact List.pairwise_singleton _ _
  | branch _ hgrown hbranches _ ih =>
      rw [hbranches, List.pairwise_cons]
      refine ⟨?_, ih⟩
      intro outer houter
      rcases List.mem_cons.mp houter with rfl | houter
      · exact hgrown.covers
      · exact hgrown.covers.trans ((List.pairwise_cons.mp ih).1 outer houter)

/-- After any acts the books of a draft are in order, and so are those of every draft to which an
open transaction would go back, each within the one inside it. -/
theorem performAll_books (source : Source) (acts : List Act) :
    let d := (fresh source).performAll acts
    d.Books ∧ (∀ s ∈ d.branches, (d.restore s).Books) ∧
      (d.snapshot :: d.branches).Pairwise Snapshot.Covers := by
  intro d
  obtain ⟨base, depth, hbase, habove⟩ := exists_above source acts
  refine ⟨habove.holds.books, ?_, habove.pairwise_covers hbase⟩
  intro s hs
  obtain ⟨inner, hinner, hgrown, rfl⟩ := habove.exists_restored hbase hs
  rw [restore_snapshot hgrown]
  have hkept : ({ inner with branches := d.branches } : Draft).Kept :=
    ⟨⟨hinner.faithful.position, hinner.faithful.opened⟩, hinner.bound⟩
  exact hkept.books

/-- Two transactions are open inside a node that has been closed once too often, and one that ended
without having begun. -/
theorem performAll_books_unbalanced :
    let d := (fresh (.ofText "ab")).performAll
      [.reject, .advance (.openFragment {}), .advance (.reference { name := "x" }), .branch,
        .init "urn:words", .advance (.literal "a"), .bind "k" .null, .branch, .advance .closeNode,
        .advance .closeNode]
    ∃ inner outer, d.branches = [inner, outer] ∧ (d.restore inner).Books ∧
      (d.restore outer).Books ∧ inner.Covers outer := by
  intro d
  obtain ⟨-, hrestored, hcovers⟩ := performAll_books (.ofText "ab")
    [.reject, .advance (.openFragment {}), .advance (.reference { name := "x" }), .branch,
      .init "urn:words", .advance (.literal "a"), .bind "k" .null, .branch, .advance .closeNode,
      .advance .closeNode]
  refine ⟨_, _, rfl, ?_, ?_, ?_⟩
  · exact hrestored _ List.mem_cons_self
  · exact hrestored _ (List.mem_cons_of_mem _ List.mem_cons_self)
  · exact (List.pairwise_cons.mp (List.pairwise_cons.mp hcovers).2).1 _ List.mem_cons_self

end Draft

end GrammarMachine
