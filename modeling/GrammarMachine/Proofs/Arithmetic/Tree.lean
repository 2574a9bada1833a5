import GrammarMachine.Proofs.Arithmetic.Recognition
import GrammarMachine.Proofs.Machine.Gapless
import GrammarMachine.Proofs.Tree.Adds

/-!
The trees of arithmetic expressions. Operators associate to the left: the value of a chain is built
from its first operand by one operator after the other.
-/

namespace GrammarMachine.Arithmetic

open Builtin.Arithmetic

/-- The heading of a node that permits gaps if they are allowed. -/
def heading (allowGaps : Bool) (nodeType : String) : Heading where
  language := url
  nodeType
  traits := { gappy := allowGaps }

def token (url nodeType text : String) : Filler :=
  .node { language := url, nodeType, traits := { token := true } } [.literal text]

def Blanks.children (b : Blanks) : List Child :=
  if b.text.isEmpty then [] else [.literal (String.ofList b.text)]

/-- An operator between the value to its left and the value to its right. -/
def binary (allowGaps : Bool) (before : Blanks) (op : Operator) (after : Blanks)
    (left right : Filler) : Filler :=
  .node (heading allowGaps "Binary")
    ([.property "left" false left] ++ before.children ++
      [.property "operator" false (token url "Operator" (String.ofList [op.char]))] ++
      after.children ++ [.property "right" false right])

mutual

def Atom.value (allowGaps : Bool) : Atom → Filler
  | .gap => .gap
  | .number digits => token Builtin.Digits.url "Number" (String.ofList digits.text)
  | .group before body after =>
      .node (heading allowGaps "Group")
        ([.literal "("] ++ before.children ++
          [.property "expression" false (body.value allowGaps)] ++ after.children ++
          [.literal ")"])
  | .list before items =>
      .node (heading allowGaps "List")
        ([.literal "["] ++ before.children ++ [.arrayStart "items"] ++
          items.children allowGaps ++ [.literal "]"])

/-- The value of an expression: its operators are applied from the left to the right. -/
def Expression.value (allowGaps : Bool) : Expression → Filler
  | .mk first rest => rest.applied allowGaps (first.value allowGaps)

/-- The value that operators with their right operands make of a first value. -/
def Chain.applied (allowGaps : Bool) : Chain → Filler → Filler
  | .nil, left => left
  | .cons before op after operand rest, left =>
      rest.applied allowGaps (binary allowGaps before op after left (operand.value allowGaps))

/-- The items of a list in a node. -/
def Items.children (allowGaps : Bool) : Items → List Child
  | .none => []
  | .some first after rest =>
      [.property "items" true (first.value allowGaps)] ++ after.children ++
        rest.children allowGaps

def More.children (allowGaps : Bool) : More → List Child
  | .nil => []
  | .trailing after => [.literal ","] ++ after.children
  | .cons before item after rest =>
      [.literal ","] ++ before.children ++ [.property "items" true (item.value allowGaps)] ++
        after.children ++ rest.children allowGaps

end

/-- The fragment of a whole input. -/
def Program.fragment (allowGaps : Bool) (p : Program) : Node where
  heading := heading allowGaps fragmentType
  children := [.property Slot.anonymousName false (.node (heading allowGaps "Program")
    (p.before.children ++ [.property "expression" false (p.body.value allowGaps)] ++
      p.after.children))]

/-- The tags of a machine that does or does not allow gaps, given those of one that does. -/
def permit (allowGaps : Bool) (tags : List Tag) : List Tag :=
  if allowGaps then tags else tags.map Tag.strict

section

variable {allowGaps : Bool} {tags more inner : List Tag} {children : List Child}

theorem permit_append (allowGaps : Bool) (tags more : List Tag) :
    permit allowGaps (tags ++ more) = permit allowGaps tags ++ permit allowGaps more := by
  cases allowGaps
  · exact List.map_append
  · rfl

/-- The tags add the children, whether or not gaps are allowed. -/
def Describes (allowGaps : Bool) (tags : List Tag) (children : List Child) : Prop :=
  Stream.Adds (permit allowGaps tags) children

theorem Describes.append {others : List Child} (h : Describes allowGaps tags children)
    (hmore : Describes allowGaps more others) :
    Describes allowGaps (tags ++ more) (children ++ others) := by
  rw [Describes, permit_append]
  exact Stream.Adds.append h hmore

theorem describes_nil (allowGaps : Bool) : Describes allowGaps [] [] := by
  cases allowGaps <;> exact Stream.adds_nil

theorem describes_literal (allowGaps : Bool) (text : String) :
    Describes allowGaps [.literal text] [.literal text] := by
  cases allowGaps <;> exact Stream.adds_literal text

theorem describes_items (allowGaps : Bool) :
    Describes allowGaps (arrayTags itemsSlot) [.arrayStart "items"] := by
  cases allowGaps <;> exact Stream.adds_arrayTags itemsSlot

theorem describes_gap (allowGaps : Bool) (slot : Slot) :
    Describes allowGaps [.reference slot, .gap] [.property slot.name slot.isArray .gap] := by
  cases allowGaps
  · exact Stream.adds_gap slot.strict
  · exact Stream.adds_gap slot

theorem describes_token (allowGaps : Bool) (slot : Slot) (url nodeType text : String) :
    Describes allowGaps (.reference slot :: tokenTags url nodeType text)
      [.property slot.name slot.isArray (token url nodeType text)] := by
  have htoken := fun slot => (Stream.adds_literal text).node slot { token := true } url nodeType []
  cases allowGaps
  · exact htoken slot.strict
  · exact htoken slot

theorem Describes.node (h : Describes allowGaps tags children) (slot : Slot) (nodeType : String) :
    Describes allowGaps ([.reference slot, opening nodeType] ++ (tags ++ [.closeNode]))
      [.property slot.name slot.isArray (.node (heading allowGaps nodeType) children)] := by
  rw [Describes, permit_append, permit_append]
  cases allowGaps
  · exact Stream.Adds.node h slot.strict { gappy := false } url nodeType []
  · exact Stream.Adds.node h slot { gappy := true } url nodeType []

theorem Describes.adopt {name : String} {isArray : Bool} {value : Filler}
    (h : Describes allowGaps tags [.property name isArray value])
    (hvalue : value = .gap ∨ ∃ heading parts, value = .node heading parts)
    (hinner : Describes allowGaps inner children) :
    Describes allowGaps (tags ++ ([.shift "left", opening "Binary"] ++ (inner ++ [.closeNode])))
      [.property name isArray (.node (heading allowGaps "Binary")
        (.property "left" false value :: children))] := by
  rw [Describes, permit_append, permit_append, permit_append]
  cases allowGaps
  · exact Stream.Adds.adopt h hvalue hinner "left" { gappy := false } url "Binary" []
  · exact Stream.Adds.adopt h hvalue hinner "left" { gappy := true } url "Binary" []

end

theorem Blanks.describes (b : Blanks) (allowGaps : Bool) :
    Describes allowGaps b.tags b.children := by
  have hadds := Stream.adds_textTags (String.ofList b.text)
  have hempty : (String.ofList b.text).isEmpty = b.text.isEmpty := by
    rw [Bool.eq_iff_iff, String.isEmpty_iff, List.isEmpty_iff, ← String.toList_inj]
    simp
  have hstrict : b.tags.map Tag.strict = b.tags := by
    unfold Blanks.tags textTags
    split <;> rfl
  rw [hempty] at hadds
  unfold Describes permit
  rw [hstrict, ite_self]
  exact hadds

theorem Atom.value_held (a : Atom) (allowGaps : Bool) :
    a.value allowGaps = .gap ∨ ∃ heading parts, a.value allowGaps = .node heading parts := by
  cases a with
  | gap => exact .inl rfl
  | number digits => exact .inr ⟨_, _, rfl⟩
  | group before body after => exact .inr ⟨_, _, rfl⟩
  | list before items => exact .inr ⟨_, _, rfl⟩

mutual

theorem Atom.describes (a : Atom) (allowGaps : Bool) (slot : Slot) :
    Describes allowGaps (a.tags slot)
      [.property slot.name slot.isArray (a.value allowGaps)] := by
  cases a with
  | gap => exact describes_gap allowGaps slot
  | number digits => exact describes_token allowGaps slot _ _ _
  | group before body after =>
      have hbody := body.describes allowGaps expressionSlot
      have hinner := (describes_literal allowGaps "(").append
        ((before.describes allowGaps).append (hbody.append
          ((after.describes allowGaps).append (describes_literal allowGaps ")"))))
      have hnode := hinner.node slot "Group"
      simp only [List.append_assoc] at hnode
      rw [Atom.tags, Atom.value]
      simp only [List.append_assoc]
      exact hnode
  | list before items =>
      have hinner := (describes_literal allowGaps "[").append
        ((before.describes allowGaps).append ((describes_items allowGaps).append
          ((items.describes allowGaps).append (describes_literal allowGaps "]"))))
      have hnode := hinner.node slot "List"
      simp only [List.append_assoc] at hnode
      rw [Atom.tags, Atom.value]
      simp only [List.append_assoc]
      exact hnode

theorem Expression.describes (e : Expression) (allowGaps : Bool) (slot : Slot) :
    Describes allowGaps (e.tags slot)
      [.property slot.name slot.isArray (e.value allowGaps)] := by
  cases e with
  | mk first rest =>
      have hfirst := first.describes allowGaps slot.gappy
      rw [Expression.tags, Expression.value]
      exact rest.describes allowGaps hfirst (first.value_held allowGaps)

/-- A chain goes on from any value that can be held. -/
theorem Chain.describes (t : Chain) (allowGaps : Bool) {tags : List Tag} {name : String}
    {isArray : Bool} {left : Filler}
    (h : Describes allowGaps tags [.property name isArray left])
    (hleft : left = .gap ∨ ∃ heading parts, left = .node heading parts) :
    Describes allowGaps (tags ++ t.tags) [.property name isArray (t.applied allowGaps left)] := by
  cases t with
  | nil =>
      rw [Chain.tags, Chain.applied, List.append_nil]
      exact h
  | cons before op after operand rest =>
      have hright := operand.describes allowGaps rightSlot
      have hinner := (before.describes allowGaps).append
        ((describes_token allowGaps operatorSlot url "Operator" (String.ofList [op.char])).append
          ((after.describes allowGaps).append hright))
      have hbinary := h.adopt hleft hinner
      have hrest := rest.describes allowGaps hbinary (.inr ⟨_, _, rfl⟩)
      rw [Chain.tags, Chain.applied, binary]
      simp only [List.append_assoc] at hrest ⊢
      exact hrest

theorem Items.describes (items : Items) (allowGaps : Bool) :
    Describes allowGaps items.tags (items.children allowGaps) := by
  cases items with
  | none => exact describes_nil allowGaps
  | some first after rest =>
      rw [Items.tags, Items.children, List.append_assoc]
      exact (first.describes allowGaps itemsSlot).append
        ((after.describes allowGaps).append (rest.describes allowGaps))

theorem More.describes (more : More) (allowGaps : Bool) :
    Describes allowGaps more.tags (more.children allowGaps) := by
  cases more with
  | nil => exact describes_nil allowGaps
  | trailing after =>
      rw [More.tags, More.children]
      exact (describes_literal allowGaps ",").append (after.describes allowGaps)
  | cons before item after rest =>
      rw [More.tags, More.children]
      simp only [List.append_assoc]
      exact (describes_literal allowGaps ",").append ((before.describes allowGaps).append
        ((item.describes allowGaps itemsSlot).append
          ((after.describes allowGaps).append (rest.describes allowGaps))))

end

/-- The tags of a whole input describe its fragment. -/
theorem Program.ofTags (p : Program) (allowGaps : Bool) :
    Node.ofTags (permit allowGaps (preamble ++ p.tags ++ [.closeFragment])) =
      .ok (p.fragment allowGaps) := by
  have hinner := (p.before.describes allowGaps).append
    ((p.body.describes allowGaps expressionSlot).append (p.after.describes allowGaps))
  have hprogram := hinner.node .anonymous "Program"
  have hfragment := Stream.Adds.ofTags hprogram url [] { gappy := allowGaps }
  have hpreamble : permit allowGaps preamble =
      [.doctype url [], .openFragment { gappy := allowGaps }] := by
    cases allowGaps <;> rfl
  have hclose : permit allowGaps [.closeFragment] = [.closeFragment] := by
    cases allowGaps <;> rfl
  rw [permit_append, permit_append, hpreamble, hclose, List.append_assoc]
  simp only [Program.tags, Program.content, Program.fragment, List.append_assoc] at hfragment ⊢
  exact hfragment

/-- The tags of what is accepted by the machine that allows gaps. -/
theorem accepted_tags {maxDepth : Nat} {symbols : List Symbol} {props : Option Json} {fuel : Nat}
    {halt : Halt Automaton 2 Draft} {extent : Extent}
    (hrun : (machine maxDepth).run (Draft.fresh (.ofSymbols symbols)) props fuel = some halt)
    (haccepted : halt.outcome = .accepted extent) :
    ∃ p : Program, readProgram symbols = some (p, []) ∧
      halt.run.tape.tags.toList = preamble ++ p.tags ++ [.closeFragment] := by
  obtain ⟨fuel', halt', hrun', hend⟩ := run_concludes maxDepth symbols props
  obtain rfl := Machine.run_unique hrun hrun'
  rcases hend with hend | ⟨hdepth, -⟩
  · unfold Concluded at hend
    rcases hread : readProgram symbols with _ | ⟨p, _ | ⟨symbol, rest⟩⟩
    · simp [hread, haccepted] at hend
    · rw [hread] at hend
      exact ⟨p, rfl, hend.2⟩
    · simp [hread, haccepted] at hend
  · simp [haccepted] at hdepth

/-- The tree of an accepted input is the one in which operators associate to the left. The input is
a word of the grammar in just one way, and the stream of the run describes the fragment of that
word. -/
theorem run_tree (options : Options) {template : String} {props : Option Json} {fuel : Nat}
    {halt : Halt Automaton 2 Draft} {extent : Extent}
    (hrun : (Builtin.arithmetic.machine options).run (Draft.fresh (.ofTemplate template)) props
      fuel = some halt)
    (haccepted : halt.outcome = .accepted extent) :
    ∃ p : Program, p.symbols = Symbol.ofTemplate template.toList ∧
      (∀ q : Program, q.symbols = Symbol.ofTemplate template.toList → q = p) ∧
      Node.ofTags halt.run.tape.tags.toList = .ok (p.fragment options.allowGaps) := by
  have hword : ∀ p : Program, readProgram (Symbol.ofTemplate template.toList) = some (p, []) →
      p.symbols = Symbol.ofTemplate template.toList ∧
        ∀ q : Program, q.symbols = Symbol.ofTemplate template.toList → q = p := by
    intro p hread
    refine ⟨(readProgram_iff _ p).mp hread, ?_⟩
    intro q hq
    rw [(readProgram_iff _ q).mpr hq] at hread
    cases hread
    rfl
  rw [Source.ofTemplate_eq] at hrun
  rcases options with ⟨maxDepth, _ | _⟩
  · obtain ⟨halt', hrun', haccepted', htags⟩ :=
      @Machine.run_of_strict _ _ _ (machine maxDepth) _ _ _ _ _ hrun haccepted
    obtain ⟨p, hread, htags'⟩ := accepted_tags hrun' haccepted'
    refine ⟨p, (hword p hread).1, (hword p hread).2, ?_⟩
    rw [htags, htags']
    exact p.ofTags false
  · obtain ⟨p, hread, htags⟩ := accepted_tags hrun haccepted
    refine ⟨p, (hword p hread).1, (hword p hread).2, ?_⟩
    rw [htags]
    exact p.ofTags true

/-- Two differences, the second of which has a gap to its right. -/
def differences : Program where
  before := ⟨[], rfl⟩
  body := .mk (.number ⟨['1'], by decide +kernel, by simp⟩)
    (.cons ⟨[], rfl⟩ ⟨'-', rfl⟩ ⟨[], rfl⟩ (.number ⟨['2'], by decide +kernel, by simp⟩)
      (.cons ⟨[' '], rfl⟩ ⟨'-', rfl⟩ ⟨[], rfl⟩ .gap .nil))
  after := ⟨[], rfl⟩

theorem run_tree_differences :
    ∃ fuel halt extent,
      (Builtin.arithmetic.machine {}).run (Draft.fresh (.ofTemplate "1-2 -$\x7b\x7d")) none fuel =
          some halt ∧
        halt.outcome = .accepted extent ∧
        Node.ofTags halt.run.tape.tags.toList = .ok ⟨heading true fragmentType,
          [.property "." false (.node (heading true "Program")
            [.property "expression" false (.node (heading true "Binary")
              [.property "left" false (.node (heading true "Binary")
                [.property "left" false (token Builtin.Digits.url "Number" "1"),
                  .property "operator" false (token url "Operator" "-"),
                  .property "right" false (token Builtin.Digits.url "Number" "2")]),
                .literal " ",
                .property "operator" false (token url "Operator" "-"),
                .property "right" false .gap])])]⟩ := by
  have hsymbols : differences.symbols = Symbol.ofTemplate "1-2 -$\x7b\x7d".toList := by rfl
  obtain ⟨fuel, halt, hrun, hend⟩ := run_concludes 4096 differences.symbols none
  have hread := (readProgram_iff _ differences).mpr rfl
  obtain ⟨⟨extent, haccepted⟩, -⟩ : (∃ extent, halt.outcome = .accepted extent) ∧
      halt.run.tape.tags.toList = preamble ++ differences.tags ++ [.closeFragment] := by
    rcases hend with hend | ⟨-, hdepth⟩
    · simpa [Concluded, hread] using hend
    · exact absurd hdepth (by decide)
  rw [hsymbols, ← Source.ofTemplate_eq] at hrun
  obtain ⟨p, -, hunique, htree⟩ := run_tree {} hrun haccepted
  obtain rfl := hunique differences hsymbols
  exact ⟨fuel, halt, extent, hrun, haccepted, htree⟩

end GrammarMachine.Arithmetic
