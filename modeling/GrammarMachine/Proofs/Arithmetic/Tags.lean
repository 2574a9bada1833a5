import GrammarMachine.Proofs.Arithmetic.Membership
import GrammarMachine.Proofs.Machine.Leads

/-!
The tags of arithmetic expressions. A left operand has been written before its operator is seen; the
operator opens a node that adopts it.
-/

namespace GrammarMachine

def Slot.gappy (slot : Slot) : Slot :=
  { slot with traits := { slot.traits with gappy := true } }

/-- Tags that leave the innermost open node as it was, up to references that are added to it. -/
def Stream.Level (tags : List Tag) : Prop :=
  ∀ d : Draft, ∀ node rest, d.opened = node :: rest →
    ∃ names, (d.advanceAll tags).opened = ⟨node.tag, names⟩ :: rest ∧ node.names ⊆ names

namespace Stream

theorem level_nil : Level [] :=
  fun _ node _ h => ⟨node.names, h, fun _ => id⟩

theorem Level.append {tags more : List Tag} (h : Level tags) (hmore : Level more) :
    Level (tags ++ more) := by
  intro d node rest hopened
  obtain ⟨names, hopened, hnames⟩ := h d node rest hopened
  obtain ⟨names', hopened, hnames'⟩ := hmore _ _ _ hopened
  refine ⟨names', ?_, fun _ hname => hnames' (hnames hname)⟩
  rw [Draft.advanceAll_append]
  exact hopened

theorem level_flat {tag : Tag} (hopens : tag.opens = false) (hcloses : tag.closes = false) :
    Level [tag] := by
  intro d node rest hopened
  cases tag with
  | reference slot =>
      refine ⟨(node.addName slot.name).names, ?_, ?_⟩
      · simp only [Draft.advanceAll_cons, Draft.advanceAll_nil, Draft.advance, Draft.openedAfter,
          hopened]
        rfl
      · intro name hname
        simp only [OpenNode.addName]
        split
        · exact hname
        · exact List.mem_cons_of_mem _ hname
  | openNode => cases hopens
  | openFragment => cases hopens
  | closeNode => cases hcloses
  | closeFragment => cases hcloses
  | _ => exact ⟨node.names, hopened, fun _ => id⟩

theorem Level.bracket {tags : List Tag} (h : Level tags) (traits : NodeTraits)
    (url nodeType : String) (attributes : Fields) :
    Level ([Tag.openNode traits url nodeType attributes] ++ tags ++ [Tag.closeNode]) := by
  intro d node rest hopened
  obtain ⟨names, hinside, -⟩ := h (d.advance (.openNode traits url nodeType attributes))
    ⟨d.tags.size, []⟩ (node :: rest) (by simp only [Draft.advance, Draft.openedAfter, hopened])
  refine ⟨node.names, ?_, fun _ => id⟩
  rw [Draft.advanceAll_append, Draft.advanceAll_append]
  simp only [Draft.advanceAll_cons, Draft.advanceAll_nil]
  rw [Draft.advance, hinside]
  rfl

end Stream

/-- A value for the slot is introduced by a mere reference. -/
structure Draft.Takes (d : Draft) (slot : Slot) : Prop where
  unshifted : d.tags.back?.any Tag.isShift = false
  introduced : slot.isArray = true → d.hasReference slot.name = true

theorem Draft.back?_advanceAll (d : Draft) (tags : List Tag) :
    (d.advanceAll tags).tags.back? = tags.getLast?.or d.tags.back? := by
  have hback : ∀ tags : Array Tag, tags.back? = tags.toList.getLast? := fun tags =>
    (Array.getLast?_toList tags).symm
  rw [hback, hback, advanceAll_tags, List.getLast?_append]

theorem Draft.any_back?_advanceAll (d : Draft) {tags : List Tag} {p : Tag → Bool}
    (h : tags.getLast?.any p = true) : (d.advanceAll tags).tags.back?.any p = true := by
  rw [back?_advanceAll]
  rcases hlast : tags.getLast? with _ | tag
  · rw [hlast] at h
    cases h
  · rw [hlast] at h
    exact h

theorem Stream.Level.hasReference {tags : List Tag} (h : Level tags) {d : Draft} {name : String}
    (hname : d.hasReference name = true) : (d.advanceAll tags).hasReference name = true := by
  unfold Draft.hasReference at hname
  split at hname
  · rename_i node rest hopened
    obtain ⟨names, hopened', hnames⟩ := h d node rest hopened
    rw [List.contains_iff_mem] at hname
    simp only [Draft.hasReference, hopened', List.contains_iff_mem]
    exact hnames hname
  · cases hname

theorem Draft.Reads.branchIf {d : Draft} {symbols : List Symbol} (h : d.Reads symbols)
    (wanted : Bool) : (d.branchIf wanted).Reads symbols := by
  cases wanted
  · exact h
  · exact h

namespace Draft.Takes

variable {d : Draft} {slot : Slot}

theorem plain (h : d.tags.back?.any Tag.isShift = false) (harray : slot.isArray = false) :
    d.Takes slot := by
  refine ⟨h, fun hcontra => ?_⟩
  rw [harray] at hcontra
  cases hcontra

theorem slotTags_eq (h : d.Takes slot) : slotTags d slot = [.reference slot] := by
  have hlast : (Tape.lastTag? d).any Tag.isShift = false := h.unshifted
  rw [slotTags, hlast]
  cases harray : slot.isArray
  · rfl
  · have hreference : Tape.hasReference d slot.name = true := h.introduced harray
    simp only [Bool.false_eq_true, if_false, hreference, Bool.not_true, Bool.and_false]

theorem array {node : OpenNode} {outer : List OpenNode} (hopened : d.opened = node :: outer) :
    (d.advanceAll (arrayTags slot)).Takes slot := by
  constructor
  · rw [back?_advanceAll]
    rfl
  · intro _
    simp only [hasReference, arrayTags, advanceAll_cons, advanceAll_nil, advance, openedAfter,
      hopened, OpenNode.addName, List.contains_iff_mem]
    split
    · assumption
    · exact List.mem_cons_self

theorem gappy (h : d.Takes slot) : d.Takes slot.gappy :=
  ⟨h.unshifted, h.introduced⟩

theorem branchIf (h : d.Takes slot) (wanted : Bool) : (d.branchIf wanted).Takes slot := by
  cases wanted
  · exact h
  · exact ⟨h.unshifted, h.introduced⟩

theorem advanceAll (h : d.Takes slot) {tags : List Tag} (hlevel : Stream.Level tags)
    (hlast : tags.getLast?.any Tag.isShift = false) : (d.advanceAll tags).Takes slot := by
  refine ⟨?_, fun harray => hlevel.hasReference (h.introduced harray)⟩
  rw [back?_advanceAll]
  rcases hlast' : tags.getLast? with _ | tag
  · exact h.unshifted
  · rw [hlast'] at hlast
    exact hlast

end Draft.Takes

namespace Arithmetic

def expressionSlot : Slot := { name := "expression" }

def operatorSlot : Slot := { name := "operator" }

def rightSlot : Slot := { name := "right", traits := { gappy := true } }

def itemsSlot : Slot := { name := "items", isArray := true }

def opening (nodeType : String) : Tag :=
  .openNode { gappy := true } Builtin.Arithmetic.url nodeType []

def tokenTags (url nodeType text : String) : List Tag :=
  [.openNode { token := true } url nodeType [], .literal text, .closeNode]

def Blanks.tags (b : Blanks) : List Tag :=
  textTags (String.ofList b.text)

def Operator.tags (op : Operator) : List Tag :=
  .reference operatorSlot :: tokenTags Builtin.Arithmetic.url "Operator" (String.ofList [op.char])

mutual

def Atom.tags (slot : Slot) : Atom → List Tag
  | .gap => [.reference slot, .gap]
  | .number digits =>
      .reference slot :: tokenTags Builtin.Digits.url "Number" (String.ofList digits.text)
  | .group before body after =>
      [.reference slot, opening "Group", .literal "("] ++
        (before.tags ++ (body.tags expressionSlot ++ (after.tags ++ [.literal ")", .closeNode])))
  | .list before items =>
      [.reference slot, opening "List", .literal "["] ++
        (before.tags ++ (arrayTags itemsSlot ++ (items.tags ++ [.literal "]", .closeNode])))

def Expression.tags (slot : Slot) : Expression → List Tag
  | .mk first rest => first.tags slot.gappy ++ rest.tags

def Chain.tags : Chain → List Tag
  | .nil => []
  | .cons before op after operand rest =>
      [.shift "left", opening "Binary"] ++
        (before.tags ++ (op.tags ++ (after.tags ++ (operand.tags rightSlot ++ [.closeNode])))) ++
        rest.tags

def Items.tags : Items → List Tag
  | .none => []
  | .some first after rest => first.tags itemsSlot ++ (after.tags ++ rest.tags)

def More.tags : More → List Tag
  | .nil => []
  | .trailing after => .literal "," :: after.tags
  | .cons before item after rest =>
      .literal "," :: (before.tags ++ (item.tags itemsSlot ++ (after.tags ++ rest.tags)))

end

def Program.content (p : Program) : List Tag :=
  p.before.tags ++ (p.body.tags expressionSlot ++ (p.after.tags ++ [.closeNode]))

def Program.tags (p : Program) : List Tag :=
  [.reference .anonymous, opening "Program"] ++ p.content

/-! ### The symbols of tags -/

theorem Blanks.symbols_tags (b : Blanks) : Stream.symbols b.tags = b.symbols := by
  rw [Blanks.tags, Stream.symbols_textTags, String.toList_ofList]
  rfl

theorem symbols_tokenTags (url nodeType : String) (text : List Char) :
    Stream.symbols (tokenTags url nodeType (String.ofList text)) = Symbol.ofText text := by
  simp [tokenTags, Tag.symbols]

theorem Operator.symbols_tags (op : Operator) : Stream.symbols op.tags = [.char op.char] := by
  rw [Operator.tags, Stream.symbols_cons, symbols_tokenTags]
  rfl

mutual

theorem Atom.symbols_tags (a : Atom) (slot : Slot) : Stream.symbols (a.tags slot) = a.symbols := by
  cases a with
  | gap => rfl
  | number digits =>
      rw [Atom.tags, Stream.symbols_cons, symbols_tokenTags]
      rfl
  | group before body after =>
      rw [Atom.tags, Atom.symbols]
      simp only [Stream.symbols_append, before.symbols_tags, body.symbols_tags expressionSlot,
        after.symbols_tags]
      simp [Tag.symbols, opening, Symbol.ofText]
  | list before items =>
      rw [Atom.tags, Atom.symbols]
      simp only [Stream.symbols_append, before.symbols_tags, items.symbols_tags]
      simp [Tag.symbols, opening, arrayTags, Symbol.ofText]

theorem Expression.symbols_tags (e : Expression) (slot : Slot) :
    Stream.symbols (e.tags slot) = e.symbols := by
  cases e with
  | mk first chain =>
      rw [Expression.tags, Expression.symbols, Stream.symbols_append, first.symbols_tags,
        chain.symbols_tags]

theorem Chain.symbols_tags (t : Chain) : Stream.symbols t.tags = t.symbols := by
  cases t with
  | nil => rfl
  | cons before op after operand chain =>
      rw [Chain.tags, Chain.symbols]
      simp only [Stream.symbols_append, before.symbols_tags, op.symbols_tags, after.symbols_tags,
        operand.symbols_tags rightSlot, chain.symbols_tags]
      simp [Tag.symbols, opening]

theorem Items.symbols_tags (items : Items) : Stream.symbols items.tags = items.symbols := by
  cases items with
  | none => rfl
  | some first after more =>
      rw [Items.tags, Items.symbols, Stream.symbols_append, Stream.symbols_append,
        first.symbols_tags, after.symbols_tags, more.symbols_tags, List.append_assoc]

theorem More.symbols_tags (more : More) : Stream.symbols more.tags = more.symbols := by
  cases more with
  | nil => rfl
  | trailing after =>
      rw [More.tags, More.symbols, Stream.symbols_cons, after.symbols_tags]
      rfl
  | cons before item after more =>
      rw [More.tags, More.symbols]
      simp only [Stream.symbols_cons, Stream.symbols_append, before.symbols_tags,
        item.symbols_tags itemsSlot, after.symbols_tags, more.symbols_tags]
      simp [Tag.symbols, Symbol.ofText]

end

theorem Program.symbols_tags (p : Program) : Stream.symbols p.tags = p.symbols := by
  rw [Program.tags, Program.content, Program.symbols]
  simp only [Stream.symbols_append, p.before.symbols_tags, p.body.symbols_tags,
    p.after.symbols_tags]
  simp [Tag.symbols, opening]

/-! ### The nodes of tags -/

theorem Blanks.level (b : Blanks) : Stream.Level b.tags := by
  unfold Blanks.tags textTags
  split
  · exact Stream.level_nil
  · exact Stream.level_flat rfl rfl

theorem Blanks.opened_advanceAll (b : Blanks) (d : Draft) :
    (d.advanceAll b.tags).opened = d.opened := by
  unfold Blanks.tags textTags
  split <;> rfl

theorem Blanks.getLast?_tags (b : Blanks) : b.tags.getLast?.any Tag.isShift = false := by
  unfold Blanks.tags textTags
  split <;> rfl

theorem level_tokenTags (slot : Slot) (url nodeType text : String) :
    Stream.Level (.reference slot :: tokenTags url nodeType text) :=
  (@Stream.level_flat (.reference slot) rfl rfl).append
    ((@Stream.level_flat (.literal text) rfl rfl).bracket _ _ _ _)

theorem Operator.level (op : Operator) : Stream.Level op.tags :=
  level_tokenTags _ _ _ _

theorem level_node (slot : Slot) (nodeType : String) {tags : List Tag} (h : Stream.Level tags) :
    Stream.Level ([.reference slot, opening nodeType] ++ (tags ++ [.closeNode])) := by
  have hnode := h.bracket { gappy := true } Builtin.Arithmetic.url nodeType []
  rw [List.append_assoc] at hnode
  exact (@Stream.level_flat (.reference slot) rfl rfl).append hnode

mutual

theorem Atom.level (a : Atom) (slot : Slot) : Stream.Level (a.tags slot) := by
  cases a with
  | gap =>
      exact (@Stream.level_flat (.reference slot) rfl rfl).append
        (@Stream.level_flat .gap rfl rfl)
  | number digits => exact level_tokenTags _ _ _ _
  | group before body after =>
      have hinside := (@Stream.level_flat (.literal "(") rfl rfl).append
        (before.level.append ((body.level expressionSlot).append
          (after.level.append (@Stream.level_flat (.literal ")") rfl rfl))))
      have hnode := level_node slot "Group" hinside
      simp only [List.append_assoc] at hnode
      rw [Atom.tags]
      exact hnode
  | list before items =>
      have hinside := (@Stream.level_flat (.literal "[") rfl rfl).append
        (before.level.append (((@Stream.level_flat (.reference itemsSlot) rfl rfl).append
          (@Stream.level_flat .arrayStart rfl rfl)).append
            (items.level.append (@Stream.level_flat (.literal "]") rfl rfl))))
      have hnode := level_node slot "List" hinside
      simp only [List.append_assoc] at hnode
      rw [Atom.tags]
      exact hnode

theorem Expression.level (e : Expression) (slot : Slot) : Stream.Level (e.tags slot) := by
  cases e with
  | mk first chain =>
      rw [Expression.tags]
      exact (first.level _).append chain.level

theorem Chain.level (t : Chain) : Stream.Level t.tags := by
  cases t with
  | nil => exact Stream.level_nil
  | cons before op after operand chain =>
      have hinside := before.level.append
        (op.level.append (after.level.append (operand.level rightSlot)))
      have hnode := hinside.bracket { gappy := true } Builtin.Arithmetic.url "Binary" []
      have hall := ((@Stream.level_flat (.shift "left") rfl rfl).append hnode).append chain.level
      simp only [List.append_assoc] at hall
      rw [Chain.tags]
      simp only [List.append_assoc]
      exact hall

theorem Items.level (items : Items) : Stream.Level items.tags := by
  cases items with
  | none => exact Stream.level_nil
  | some first after more =>
      rw [Items.tags]
      exact (first.level _).append (after.level.append more.level)

theorem More.level (more : More) : Stream.Level more.tags := by
  cases more with
  | nil => exact Stream.level_nil
  | trailing after =>
      rw [More.tags]
      exact (@Stream.level_flat (.literal ",") rfl rfl).append after.level
  | cons before item after more =>
      rw [More.tags]
      exact (@Stream.level_flat (.literal ",") rfl rfl).append (before.level.append
        ((item.level _).append (after.level.append more.level)))

end

theorem Atom.getLast?_tags (a : Atom) (slot : Slot) :
    (a.tags slot).getLast?.any Tag.completesValue = true := by
  cases a with
  | gap => rfl
  | number digits => rfl
  | group before body after =>
      rw [Atom.tags]
      simp [List.getLast?_cons, List.getLast?_append, Tag.completesValue]
  | list before items =>
      rw [Atom.tags]
      simp [List.getLast?_cons, List.getLast?_append, Tag.completesValue]

theorem isShift_of_completesValue {last : Option Tag} (h : last.any Tag.completesValue = true) :
    last.any Tag.isShift = false := by
  rcases last with _ | tag
  · rfl
  · cases tag <;> first | rfl | cases h

theorem Chain.getLast?_tags (t : Chain) : t.tags.getLast?.any Tag.isShift = false := by
  cases t with
  | nil => rfl
  | cons before op after operand chain =>
      have hchain := chain.getLast?_tags
      rw [Chain.tags, List.getLast?_append]
      rcases hlast : chain.tags.getLast? with _ | tag
      · simp [List.getLast?_cons, List.getLast?_append, Tag.isShift]
      · rw [hlast] at hchain
        exact hchain

theorem Expression.getLast?_tags (e : Expression) (slot : Slot) :
    (e.tags slot).getLast?.any Tag.isShift = false := by
  cases e with
  | mk first chain =>
      have hchain := chain.getLast?_tags
      rw [Expression.tags, List.getLast?_append]
      rcases hlast : chain.tags.getLast? with _ | tag
      · exact isShift_of_completesValue (first.getLast?_tags _)
      · rw [hlast] at hchain
        exact hchain

end Arithmetic

end GrammarMachine
