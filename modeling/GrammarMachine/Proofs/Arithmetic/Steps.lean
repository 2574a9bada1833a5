import GrammarMachine.Proofs.Arithmetic.Tags
import GrammarMachine.Proofs.Pattern.Program
import GrammarMachine.Proofs.Text.Ranges

/-!
The steps of the arithmetic rules. For each kind of instruction in the grammar a rule tells how a
configuration goes on that stands before it.
-/

namespace GrammarMachine.Arithmetic

open Builtin.Arithmetic

def machine (maxDepth : Nat) : Machine Automaton 2 :=
  Builtin.arithmetic.machine { maxDepth, allowGaps := true }

/-! ### What the recognizers read -/

theorem contains_blank : (fun c : Char => blank.contains c.toNat) = isBlank := by
  funext c
  exact Pattern.CharSet.contains_ofChars _ _

theorem contains_operator : (fun c : Char => operator.contains c.toNat) = isOperator := by
  funext c
  exact Pattern.CharSet.contains_ofChars _ _

theorem blank_ne_nil : blank ≠ [] :=
  Pattern.CharSet.ofChars_ne_nil (by decide)

theorem read?_whitespace (source : String) (symbols : List Symbol) :
    (Recognizer.pattern (.ofExpr source (.rep (.one blank) 0 none true))).read?
      (Symbol.visible symbols) = some (String.ofList (Blanks.take symbols).text) := by
  simp only [Recognizer.read?, Pattern.read?_star blank_ne_nil, contains_blank,
    Symbol.takeWhile_visible, Option.map_some]
  rfl

theorem read?_literal {text : String} {c : Char} (htext : text.toList = [c])
    (symbols : List Symbol) :
    (Recognizer.literal text).read? (Symbol.visible symbols) =
      (after? c symbols).map fun _ => text := by
  rcases symbols with _ | ⟨d | _, rest⟩
  · simp [Recognizer.read?, htext, Symbol.visible, Symbol.takeChars, after?]
  · by_cases hd : d = c
    · simp [Recognizer.read?, htext, Symbol.visible, Symbol.takeChars, after?, hd]
    · have hne : ¬ c = d := fun h => hd h.symm
      simp [Recognizer.read?, htext, Symbol.visible, Symbol.takeChars, after?, hd, hne]
  · simp [Recognizer.read?, htext, Symbol.visible, Symbol.takeChars, after?]

theorem isSome_take? (symbols : List Symbol) :
    (Operator.take? symbols).isSome = (Symbol.next? symbols).any isOperator := by
  rcases symbols with _ | ⟨c | _, rest⟩
  · rfl
  · by_cases hc : isOperator c = true <;> simp [Operator.take?, Symbol.next?, hc]
  · rfl

theorem isSome_read?_operatorAhead (source : String) (symbols : List Symbol) :
    ((Recognizer.pattern (.ofExpr source (.seq (.rep (.one blank) 0 none true)
      (.one operator)))).read? (Symbol.visible symbols)).isSome =
        (Operator.take? (skipBlanks symbols)).isSome := by
  have hdisjoint : ∀ c : Char, blank.contains c.toNat = true →
      ¬ operator.contains c.toNat = true := by
    intro c hblank hoperator
    have hblank' : isBlank c = true := (congrFun contains_blank c).symm.trans hblank
    have hoperator' : isOperator c = true := (congrFun contains_operator c).symm.trans hoperator
    rw [isBlank_of_isOperator hoperator'] at hblank'
    cases hblank'
  rw [Recognizer.read?, Option.isSome_map, Pattern.isSome_read?_starOne blank_ne_nil hdisjoint,
    isSome_take?, contains_blank, contains_operator, Symbol.head?_dropWhile_visible]
  rfl

theorem read?_operator (source : String) (symbols : List Symbol) :
    (Recognizer.pattern (.ofExpr source (.one operator))).read?
      (Symbol.visible symbols) =
        (Operator.take? symbols).map fun (op, _) => String.ofList [op.char] := by
  simp only [Recognizer.read?, Pattern.read?_one, contains_operator, Symbol.head?_visible]
  rcases symbols with _ | ⟨c | _, rest⟩
  · rfl
  · by_cases hc : isOperator c = true <;> simp [Operator.take?, Symbol.next?, hc, Option.filter]
  · rfl

theorem read?_digits (source : String) (symbols : List Symbol) :
    (Recognizer.pattern (.ofExpr source (.rep (.one Text.digitRanges) 1 none true))).read?
      (Symbol.visible symbols) =
        (Digits.take? symbols).map fun digits => String.ofList digits.text := by
  have htaken : (Symbol.visible symbols).takeWhile (fun c => Text.digitRanges.contains c.toNat) =
      Symbol.takeChars Text.isDigit symbols := Symbol.takeWhile_visible _ _
  simp only [Recognizer.read?, Pattern.read?_plus, htaken, Digits.take?]
  by_cases hempty : Symbol.takeChars Text.isDigit symbols = []
  · simp [hempty]
  · simp [hempty]

/-! ### Text -/

section Text

variable {maxDepth height : Nat} {source : Source} {bases : List Draft} {d : Draft}
  {f : Frame Automaton 2} {below : List (Frame Automaton 2)} {matched tail : Bool}
  {p : Production Automaton} {symbols rest : List Symbol} {verb : Verb}

theorem eat_blanks (hasks : f.production.Asks d.cursor matched whitespace false p)
    (hreads : d.Reads symbols) :
    (machine maxDepth).Leads height (Config.Stands source bases f below d (.value matched))
      (Config.Stands source bases { f with production := p } below
        (d.advanceAll (Blanks.take symbols).tags) (.value true)) := by
  refine Config.Stands.match_text hasks rfl rfl ?_
  rw [hreads.recognize_eq, read?_whitespace]

theorem reads_blanks (hreads : d.Reads symbols) :
    (d.advanceAll (Blanks.take symbols).tags).Reads (skipBlanks symbols) := by
  apply Draft.Reads.advanceAll
  rwa [Blanks.symbols_tags, take_append_skipBlanks]

theorem match_literal {text : String} {c : Char} (htext : text.toList = [c])
    (hasks : f.production.Asks d.cursor matched (.attempt { verb, goal := .literal text }) tail p)
    (hhold : verb.isHold = false) (hreads : d.Reads symbols)
    (hnext : after? c symbols = some rest) :
    (machine maxDepth).Leads height (Config.Stands source bases f below d (.value matched))
      (Config.Stands source bases { f with production := p } below
        (d.advanceAll (if verb.policy.keeps then [.literal text] else [])) (.next true tail)) := by
  have hfound := hreads.recognize_eq (.literal text)
  rw [read?_literal htext, hnext] at hfound
  have htags : textTags text = [.literal text] := by
    have hne : text.isEmpty = false := by
      rw [← Bool.not_eq_true, String.isEmpty_iff]
      rintro rfl
      cases htext
    rw [textTags, hne]
    rfl
  rw [← htags]
  exact Config.Stands.match_text hasks hhold rfl hfound

theorem miss_literal {text : String} {c : Char} (htext : text.toList = [c])
    (hasks : f.production.Asks d.cursor matched (.attempt { verb, goal := .literal text }) tail p)
    (hhold : verb.isHold = false) (hreads : d.Reads symbols) (hnext : after? c symbols = none) :
    (machine maxDepth).Leads height (Config.Stands source bases f below d (.value matched))
      (Config.Stands source bases { f with production := p } below d
        (if verb.policy.absorbs then .next false tail else .failed)) := by
  have hfound := hreads.recognize_eq (.literal text)
  rw [read?_literal htext, hnext] at hfound
  exact Config.Stands.miss_text hasks hhold rfl hfound

theorem peek_operator (hasks : f.production.Asks d.cursor matched operatorAhead false p)
    (hreads : d.Reads symbols) :
    (machine maxDepth).Leads height (Config.Stands source bases f below d (.value matched))
      (Config.Stands source bases { f with production := p } below d
        (.value (Operator.take? (skipBlanks symbols)).isSome)) := by
  have hfound := hreads.recognize_eq (.pattern (.ofExpr "[ \\t\\r\\n]*[-+*/]"
    (.seq (.rep (.one blank) 0 none true) (.one operator))))
  rw [← isSome_read?_operatorAhead "[ \\t\\r\\n]*[-+*/]"]
  rcases hread : Recognizer.read? _ (Symbol.visible symbols) with _ | text
  · rw [hread] at hfound
    exact Config.Stands.miss_text hasks rfl rfl hfound
  · rw [hread] at hfound
    exact Config.Stands.match_text hasks rfl rfl hfound

end Text

/-! ### Nodes -/

/-- A frame below the fragment that runs a production for a slot. -/
structure Active (f : Frame Automaton 2) (isNode : Bool) (slot : Slot) (p : Production Automaton) :
    Prop where
  isNode : f.isNode = isNode
  inner : f.isFragment = false
  slot : f.slot = slot
  waiting : f.returning = false
  production : f.production = p

/-- Such a frame of the arithmetic language. -/
structure Runs (f : Frame Automaton 2) (isNode : Bool) (slot : Slot) (p : Production Automaton) :
    Prop extends Active f isNode slot p where
  scope : f.scope = [1]

/-- The rule of a type of the grammar makes the given production. -/
structure Defines (nodeType : String) (isNode : Bool) (p : Production Automaton) : Prop where
  rule : ∃ rule, grammar.rule? nodeType = some rule ∧ ∀ invocation, rule invocation = p
  isNode : grammar.isNode nodeType = isNode

/-- The tags with which a node or a rule without tags of its own is entered. -/
def entryTags (d : Draft) (nodeType : String) (isNode : Bool) (slot : Slot) : List Tag :=
  if isNode then slotTags d slot ++ [opening nodeType] else []

section Nodes

variable {maxDepth height : Nat} {source : Source} {bases : List Draft} {d : Draft}
  {f : Frame Automaton 2} {below : List (Frame Automaton 2)} {matched tail fnode isNode : Bool}
  {fslot slot : Slot} {p q q' : Production Automaton} {symbols rest : List Symbol} {verb : Verb}
  {goal : Goal} {nodeType : String} {result : Option (List Tag)}

theorem Runs.with (h : Runs f fnode fslot q) (p : Production Automaton) :
    Runs { f with production := p } fnode fslot p :=
  ⟨⟨h.isNode, h.inner, h.slot, h.waiting, rfl⟩, h.scope⟩

theorem Active.asks {instruction : Instruction} (h : Active f fnode fslot q)
    (hasks : q.Asks d.cursor matched instruction tail q') :
    f.production.Asks d.cursor matched instruction tail q' := by
  rw [h.production]
  exact hasks

theorem Active.ends (h : Active f fnode fslot q) (hends : q.Ends d.cursor matched q') :
    f.production.Ends d.cursor matched q' := by
  rw [h.production]
  exact hends

theorem Active.transparent (h : Active f false fslot q) : f.isTransparent = true := by
  simp only [Frame.isTransparent, h.isNode, h.inner, Bool.not_false, Bool.and_self]

theorem Active.closing (h : Active f fnode fslot q) :
    f.closing false = if fnode then [.closeNode] else [] := by
  simp only [Frame.closing, h.isNode, h.inner, Bool.false_eq_true, if_false, List.append_nil]

theorem Active.slotFor_node (h : Active f true fslot q) (own : Slot) : f.slotFor own = .ok own := by
  simp only [Frame.slotFor, Frame.isTransparent, h.isNode, Bool.not_true, Bool.false_and,
    Bool.false_eq_true, if_false]

theorem Active.slotFor_cover (h : Active f false fslot q) (hnamed : fslot.isAnonymous = false)
    {own : Slot} (hown : own.isAnonymous = true) :
    f.slotFor own = .ok { fslot with traits := fslot.traits.union own.traits } := by
  simp only [Frame.slotFor, h.transparent, if_true, h.slot, Slot.merge, hnamed, hown,
    Bool.false_eq_true, if_false]

theorem Active.slotFor_anonymous (h : Active f false slot q) (hnamed : slot.isAnonymous = false) :
    f.slotFor .anonymous = .ok slot := by
  rw [h.slotFor_cover hnamed rfl]
  simp [SlotTraits.union, Slot.anonymous]

theorem Runs.resolve (h : Runs f fnode fslot q) :
    (machine maxDepth).index.resolve (machine maxDepth).catalog f.scope none = .ok 1 := by
  rw [h.scope]
  rfl

theorem Runs.scopeFor (h : Runs f fnode fslot q) (isNode : Bool) : f.scopeFor 1 isNode = [1] := by
  rw [Frame.scopeFor, h.scope]
  cases isNode <;> rfl

theorem plan_node (hruns : Runs f fnode fslot q) (hform : goal.form = .node { nodeType })
    (hhold : verb.isHold = false)
    (hgap : (d.cursor.atGap && ((machine maxDepth).ownSlot goal).traits.gappy) = false)
    (hslot : f.slotFor ((machine maxDepth).ownSlot goal) = .ok slot)
    (hdefines : Defines nodeType isNode p) :
    ∃ e, (machine maxDepth).plan d f { verb, goal } tail = .ok (.enter e) ∧
      e.tags d = entryTags d nodeType isNode slot ∧ e.frame.policy = verb.policy ∧
      e.replaces = (tail && verb.policy = Verb.eat.policy && f.isTransparent) ∧
      (∀ count, Runs (e.pushed count) isNode slot p) ∧ Runs (e.spliced f) isNode slot p := by
  obtain ⟨⟨rule, hrule, hp⟩, rfl⟩ := hdefines
  have hgoal : (machine maxDepth).goalFor f { verb, goal } = goal := by
    simp only [Machine.goalFor, hform]
  have hcheck : (machine maxDepth).checkNodeAt d { verb, goal } { nodeType } 1 = .ok () := by
    simp only [Machine.checkNodeAt, Machine.checkNode, hhold]
    rfl
  have hnodeSlot : Machine.nodeSlot f { verb, goal } ((machine maxDepth).ownSlot goal) =
      .ok slot := by
    simp only [Machine.nodeSlot, hhold, Bool.false_eq_true, if_false, hslot, Machine.mapError_ok]
  refine ⟨_, Machine.plan_node hgoal hform (by simp [hhold]) hruns.resolve hcheck
    (Machine.interpolates_eq_false hgap) rfl hnodeSlot hrule, ?_, rfl, rfl, ?_, ?_⟩
  · have hnode : (((machine maxDepth).catalog 1).grammar.isNode nodeType && !false) =
        grammar.isNode nodeType := Bool.and_true _
    simp only [Entry.tags, Machine.entry, hhold, hnode, entryTags]
    cases grammar.isNode nodeType
    · rfl
    · exact List.append_nil _
  · intro count
    exact ⟨⟨Bool.and_true _, rfl, rfl, rfl, hp _⟩, hruns.scopeFor _⟩
  · exact ⟨⟨Bool.and_true _, hruns.inner, rfl, rfl, hp _⟩, hruns.scopeFor _⟩

/-- An attempt at a node has the result of its rule. -/
theorem call_node (hruns : Runs f fnode fslot q)
    (hasks : q.Asks d.cursor matched (.attempt { verb, goal }) false q')
    (hform : goal.form = .node { nodeType }) (hhold : verb.isHold = false)
    (hgap : (d.cursor.atGap && ((machine maxDepth).ownSlot goal).traits.gappy) = false)
    (hslot : f.slotFor ((machine maxDepth).ownSlot goal) = .ok slot)
    (hdefines : Defines nodeType isNode p) (hheight : below.length + 2 ≤ height)
    (hkeeps : verb.policy.keeps = true)
    (hmoved : ∀ tags, result = some tags →
      Stream.symbols (entryTags d nodeType isNode slot ++ tags) ≠ [])
    (hbody : ∀ f' d', Runs f' isNode slot p →
      d' = (d.branchIf verb.policy.branches).advanceAll (entryTags d nodeType isNode slot) →
      (machine maxDepth).Leads height
        (Config.Stands source (d :: bases) f' ({ f with production := q' } :: below) d'
          (.value false))
        (Config.Closes source (d :: bases) f' ({ f with production := q' } :: below) d' result)) :
    (machine maxDepth).Leads height (Config.Stands source bases f below d (.value matched))
      (Config.Answered source bases { f with production := q' } below d verb.policy.absorbs
        (result.map (entryTags d nodeType isNode slot ++ ·))) := by
  obtain ⟨e, hplan, htags, hpolicy, -, hpushed, -⟩ :=
    @plan_node maxDepth d f false fnode isNode fslot slot p q verb goal nodeType hruns hform hhold
      hgap hslot hdefines
  rw [← hruns.production] at hasks
  rw [← htags] at hmoved hbody ⊢
  rw [← hpolicy] at hbody
  exact Config.Stands.call hasks hplan hheight hkeeps hruns.waiting hmoved
    (fun d' hd' => hbody _ d' (hpushed _) hd')

/-- A last attempt at a node of a rule without tags of its own takes the place of the rule. -/
theorem splice_node (hruns : Runs f false fslot q)
    (hasks : q.Asks d.cursor matched (.attempt { verb := .eat, goal }) true q')
    (hform : goal.form = .node { nodeType })
    (hgap : (d.cursor.atGap && ((machine maxDepth).ownSlot goal).traits.gappy) = false)
    (hslot : f.slotFor ((machine maxDepth).ownSlot goal) = .ok slot)
    (hdefines : Defines nodeType isNode p) (hclean : q'.cleanup = [])
    (hbody : ∀ f' d', Runs f' isNode slot p → f'.policy = f.policy → f'.branched = f.branched →
      d' = d.advanceAll (entryTags d nodeType isNode slot) →
      (machine maxDepth).Leads height (Config.Stands source bases f' below d' (.value false))
        (Config.Closes source bases f' below d' result)) :
    (machine maxDepth).Leads height (Config.Stands source bases f below d (.value matched))
      (Config.Closes source bases f below d
        (result.map (entryTags d nodeType isNode slot ++ ·))) := by
  obtain ⟨e, hplan, htags, -, hreplaces, -, hspliced⟩ :=
    @plan_node maxDepth d f true false isNode fslot slot p q .eat goal nodeType hruns hform rfl
      hgap hslot hdefines
  rw [← hruns.production] at hasks
  rw [hruns.transparent] at hreplaces
  have hsplice := @Config.Stands.splice _ _ _ (machine maxDepth) height source bases d f below
    matched _ _ hasks e hplan hreplaces hclean
  rw [htags] at hsplice
  refine (hsplice.trans (hbody _ _ hspliced rfl rfl rfl)).trans (.refl ?_)
  intro c hcloses
  exact hcloses.prepend

/-- A completed value is held for the rest of the chain. -/
theorem hold_chain (hruns : Runs f false slot q)
    (hasks : q.Asks d.cursor matched holdChain true q')
    (hlast : d.tags.back?.any Tag.completesValue = true) (hdefines : Defines "Chain" false p)
    (hclean : q'.cleanup = [])
    (hbody : ∀ f' d', Runs f' false slot p → d' = d.advanceAll [.shift "left"] →
      (machine maxDepth).Leads height (Config.Stands source bases f' below d' (.value false))
        (Config.Closes source bases f' below d' result)) :
    (machine maxDepth).Leads height (Config.Stands source bases f below d (.value matched))
      (Config.Closes source bases f below d (result.map ([.shift "left"] ++ ·))) := by
  obtain ⟨⟨rule, hrule, hp⟩, -⟩ := hdefines
  have hcheck : (machine maxDepth).checkNodeAt d
      { verb := .hold, goal := (Goal.node "Chain").named "left" } { nodeType := "Chain" } 1 =
        .ok () := by
    have hlast' : (Tape.lastTag? d).any Tag.completesValue = true := hlast
    simp only [Machine.checkNodeAt, Machine.checkNode, hlast']
    rfl
  have hslot : Machine.nodeSlot f { verb := .hold, goal := (Goal.node "Chain").named "left" }
      ((machine maxDepth).ownSlot ((Goal.node "Chain").named "left")) = .ok slot := by
    simp only [Machine.nodeSlot, hruns.transparent, hruns.slot, if_true]
    rfl
  have hplan := @Machine.plan_node _ _ _ _ (machine maxDepth) d f _ true _ _ _ _ rule rfl rfl
    (fun _ => rfl) hruns.resolve hcheck (Bool.and_false _) rfl hslot hrule
  rw [← hruns.production] at hasks
  have hreplaces : (true && Verb.hold.policy = Verb.eat.policy && f.isTransparent) = true := by
    rw [hruns.transparent]
    rfl
  have hsplice := @Config.Stands.splice _ _ _ (machine maxDepth) height source bases d f below
    matched _ _ hasks _ hplan hreplaces hclean
  refine (hsplice.trans (hbody _ _
    ⟨⟨rfl, hruns.inner, rfl, rfl, hp _⟩, hruns.scopeFor false⟩ rfl)).trans (.refl ?_)
  intro c hcloses
  exact Config.Closes.prepend hcloses

theorem eat_gap (hruns : Runs f fnode fslot q)
    (hasks : q.Asks d.cursor matched (.attempt { verb := .eat, goal }) false q')
    (hform : goal.form = .node { nodeType := "Atom" })
    (hgappy : ((machine maxDepth).ownSlot goal).traits.gappy = true)
    (hslot : f.slotFor ((machine maxDepth).ownSlot goal) = .ok slot)
    (hgap : d.cursor.atGap = true) (htakes : d.Takes slot) :
    (machine maxDepth).Leads height (Config.Stands source bases f below d (.value matched))
      (Config.Stands source bases { f with production := q' } below
        (d.advanceAll [.reference slot, .gap]) (.value true)) := by
  have hgoal : (machine maxDepth).goalFor f { verb := .eat, goal } = goal := by
    simp only [Machine.goalFor, hform]
  have hinterpolates : (machine maxDepth).interpolates d { verb := .eat, goal }
      { nodeType := "Atom" } ((machine maxDepth).ownSlot goal) 1 = true := by
    have hcursor : (Tape.cursor d).atGap = true := hgap
    simp only [Machine.interpolates, hcursor, hgappy]
    rfl
  have hplan := @Machine.plan_node_gap _ _ _ _ (machine maxDepth) d f _ false _ _ _ _ hgoal hform
    hruns.resolve rfl hinterpolates hslot
  rw [htakes.slotTags_eq] at hplan
  rw [← hruns.production] at hasks
  exact Config.Stands.place hasks hplan

theorem planToken_text (tape : Draft) (language : Language Automaton 2) (node : NodeGoal)
    (slot : Slot) {text : List Char} (htext : text ≠ []) :
    ∃ stop, Machine.planToken tape language node slot (String.ofList text) =
      .place (slotTags tape slot ++ [.openNode node.traits language.url node.nodeType
        ((language.grammar.attributesOf node.nodeType).merge node.attributes),
        .literal (String.ofList text), .closeNode]) (some stop) := by
  have hempty : (String.ofList text).isEmpty = false := by
    rw [← Bool.not_eq_true, String.isEmpty_iff, ← String.toList_inj]
    simpa using htext
  simp only [Machine.planToken, hempty, Bool.false_and, Bool.false_eq_true, if_false,
    List.append_assoc, List.cons_append, List.nil_append]
  exact ⟨_, rfl⟩

theorem eat_operator (hruns : Runs f true fslot q)
    (hasks : q.Asks d.cursor matched
      (.eat ((Goal.token "Operator" (.pattern operatorPattern)).named "operator")) false q')
    (hreads : d.Reads symbols) (htakes : d.Takes operatorSlot) {op : Operator}
    (hop : Operator.take? symbols = some (op, rest)) :
    (machine maxDepth).Leads height (Config.Stands source bases f below d (.value matched))
      (Config.Stands source bases { f with production := q' } below (d.advanceAll op.tags)
        (.value true)) := by
  have hfound := hreads.recognize_eq (.pattern operatorPattern)
  rw [operatorPattern, read?_operator, hop, Option.map_some] at hfound
  have hplan := @Machine.plan_token _ _ _ _ (machine maxDepth) d f
    { verb := .eat, goal := (Goal.token "Operator" (.pattern operatorPattern)).named "operator" }
    false _ _ _ _ _ _ rfl rfl rfl hruns.resolve rfl
    (Machine.interpolates_eq_false (Bool.and_false _)) rfl rfl (hruns.slotFor_node _) hfound
  obtain ⟨stop, hplace⟩ := planToken_text d (language 0)
    { nodeType := "Operator", traits := { token := true },
      intrinsic := some (.pattern operatorPattern) } operatorSlot (List.cons_ne_nil op.char [])
  rw [htakes.slotTags_eq] at hplace
  rw [← hruns.production] at hasks
  exact Config.Stands.place hasks (hplan.trans (congrArg Except.ok hplace))

/-- The rule of the language of numbers. -/
def numeralProduction : Production Automaton :=
  .script ⟨[], some (.eat Builtin.Digits.number)⟩

theorem eat_number (hactive : Active f false slot numeralProduction) (hscope : f.scope = [0, 1])
    (hnamed : slot.isAnonymous = false) (hreads : d.Reads symbols) (htakes : d.Takes slot) :
    (machine maxDepth).Leads height (Config.Stands source bases f below d (.value matched))
      (Config.Closes source bases f below d ((Digits.take? symbols).map fun digits =>
        .reference slot ::
          tokenTags Builtin.Digits.url "Number" (String.ofList digits.text))) := by
  have hasks : f.production.Asks d.cursor matched (.eat Builtin.Digits.number) true
      (.script ⟨[], none⟩) := by
    intro value _
    rw [hactive.production]
    rfl
  have hresolve : (machine maxDepth).index.resolve (machine maxDepth).catalog f.scope none =
      .ok 0 := by
    rw [hscope]
    rfl
  have hfound := hreads.recognize_eq (.pattern Builtin.Digits.digits)
  rw [Builtin.Digits.digits, read?_digits] at hfound
  have hplan := @Machine.plan_token _ _ _ _ (machine maxDepth) d f
    { verb := .eat, goal := Builtin.Digits.number } true _ _ _ _ _ _ rfl rfl rfl hresolve rfl
    (Machine.interpolates_eq_false (Bool.and_false _)) rfl rfl (hactive.slotFor_anonymous hnamed)
    hfound
  rcases hdigits : Digits.take? symbols with _ | digits
  · rw [hdigits] at hplan
    refine (Config.Stands.miss hasks hplan).trans (.refl ?_)
    intro c hstands
    exact Config.Closes.of_failed rfl hstands
  · rw [hdigits] at hplan
    obtain ⟨stop, hplace⟩ := planToken_text d (Builtin.Digits.language 2)
      { nodeType := "Number", traits := { token := true },
        intrinsic := some (.pattern Builtin.Digits.digits) } slot digits.nonempty
    rw [htakes.slotTags_eq] at hplace
    refine (Config.Stands.place hasks (hplan.trans (congrArg Except.ok hplace))).trans (.refl ?_)
    intro c hstands
    have hcloses := Config.Closes.of_completed rfl hstands
    rw [hactive.closing] at hcloses
    exact hcloses

/-- A number takes the place of an operand. -/
theorem eat_numeral (hruns : Runs f false slot q) (hnamed : slot.isAnonymous = false)
    (hasks : q.Asks d.cursor matched (.eat ((Goal.node "Numeral").inLanguage "digits")) true q')
    (hclean : q'.cleanup = []) (hreads : d.Reads symbols) (htakes : d.Takes slot) :
    (machine maxDepth).Leads height (Config.Stands source bases f below d (.value matched))
      (Config.Closes source bases f below d ((Digits.take? symbols).map fun digits =>
        .reference slot ::
          tokenTags Builtin.Digits.url "Number" (String.ofList digits.text))) := by
  have hresolve : (machine maxDepth).index.resolve (machine maxDepth).catalog f.scope
      (some "digits") = .ok 0 := by
    rw [hruns.scope]
    rfl
  have hnodeSlot : Machine.nodeSlot f
      { verb := .eat, goal := (Goal.node "Numeral").inLanguage "digits" } .anonymous =
        .ok slot := by
    rw [Machine.nodeSlot, hruns.slotFor_anonymous hnamed]
    rfl
  have hplan := @Machine.plan_node _ _ _ _ (machine maxDepth) d f
    { verb := .eat, goal := (Goal.node "Numeral").inLanguage "digits" } true _ _ _ _
    (fun _ => numeralProduction) rfl rfl (fun _ => rfl) hresolve rfl
    (Machine.interpolates_eq_false (Bool.and_false _)) rfl hnodeSlot rfl
  rw [← hruns.production] at hasks
  have hreplaces : (true && Verb.eat.policy = Verb.eat.policy && f.isTransparent) = true := by
    rw [hruns.transparent]
    rfl
  have hsplice := @Config.Stands.splice _ _ _ (machine maxDepth) height source bases d f below
    matched _ _ hasks _ hplan hreplaces hclean
  have hscope : f.scopeFor 0 false = [0, 1] := by
    rw [Frame.scopeFor, hruns.scope]
    rfl
  exact hsplice.trans (eat_number ⟨rfl, hruns.inner, rfl, rfl, rfl⟩ hscope hnamed hreads htakes)

theorem eat_array (hruns : Runs f true fslot q)
    (hasks : q.Asks d.cursor matched (.eat (Goal.array.inArray "items")) false q')
    (hfresh : d.hasReference "items" = false) :
    (machine maxDepth).Leads height (Config.Stands source bases f below d (.value matched))
      (Config.Stands source bases { f with production := q' } below
        (d.advanceAll (arrayTags itemsSlot)) (.value false)) := by
  have hplan : (machine maxDepth).plan d f { verb := .eat, goal := Goal.array.inArray "items" }
      false = .ok (.place (arrayTags itemsSlot) none) := by
    have hfresh' : Tape.hasReference d itemsSlot.name = false := hfresh
    have hown : (machine maxDepth).ownSlot (Goal.array.inArray "items") = itemsSlot := rfl
    rw [Machine.plan_eq]
    change Machine.planArray d f ((machine maxDepth).ownSlot (Goal.array.inArray "items")) = _
    rw [hown, Machine.planArray, hruns.slotFor_node]
    simp only [Machine.mapError_ok, bind, Except.bind, hfresh']
    rfl
  rw [← hruns.production] at hasks
  exact Config.Stands.place hasks hplan

end Nodes

end GrammarMachine.Arithmetic
