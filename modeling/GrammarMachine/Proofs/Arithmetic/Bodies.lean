import GrammarMachine.Proofs.Arithmetic.Steps

/-!
The rules of the grammar against the reader. Each rule, stepped from its beginning, closes its frame
with the tags of what the reader finds, or fails where the reader finds nothing.
-/

namespace GrammarMachine.Arithmetic

open Builtin.Arithmetic

/-! ### Productions -/

def chainProduction (first : Instruction) (state : Nat) : Production Automaton :=
  .custom { states := chainStates first, state }

def firstAtom : Instruction := .eat (Goal.node "Atom").allowGap

def firstBinary : Instruction := .eat (.node "Binary")

def atomProduction (state : Nat) : Production Automaton :=
  .custom { states := atomStates, state }

def listProduction (state : Nat) : Production Automaton :=
  .custom { states := listStates, state }

def groupProduction : Production Automaton :=
  .script ⟨[.eat (.literal "("), whitespace, .eat (expression.named "expression"), whitespace],
    some (.eat (.literal ")"))⟩

def binaryProduction : Production Automaton :=
  .script ⟨[whitespace,
    .eat ((Goal.token "Operator" (.pattern operatorPattern)).named "operator"), whitespace,
    .eat ((Goal.node "Atom").named "right").allowGap], none⟩

def programProduction : Production Automaton :=
  .script ⟨[whitespace, .eat (expression.named "expression"), whitespace], none⟩

theorem defines_expression : Defines "Expression" false (chainProduction firstAtom 0) :=
  ⟨⟨_, rfl, fun _ => rfl⟩, rfl⟩

theorem defines_chain : Defines "Chain" false (chainProduction firstBinary 0) :=
  ⟨⟨_, rfl, fun _ => rfl⟩, rfl⟩

theorem defines_binary : Defines "Binary" true binaryProduction :=
  ⟨⟨_, rfl, fun _ => rfl⟩, rfl⟩

theorem defines_atom : Defines "Atom" false (atomProduction 0) :=
  ⟨⟨_, rfl, fun _ => rfl⟩, rfl⟩

theorem defines_group : Defines "Group" true groupProduction :=
  ⟨⟨_, rfl, fun _ => rfl⟩, rfl⟩

theorem defines_list : Defines "List" true (listProduction 0) :=
  ⟨⟨_, rfl, fun _ => rfl⟩, rfl⟩

/-! ### Rules and reader -/

/-- From a value of the given kind the frame closes with the result. -/
def Gives (maxDepth height : Nat) (source : Source) (bases : List Draft) (f : Frame Automaton 2)
    (below : List (Frame Automaton 2)) (d : Draft) (matched : Bool) (result : Option (List Tag)) :
    Prop :=
  (machine maxDepth).Leads height (Config.Stands source bases f below d (.value matched))
    (Config.Closes source bases f below d result)

/-- With the given fuel the reader finds what the rules match, as long as the fuel suffices for the
symbols. The height allows for three frames a bracket. -/
structure Agrees (maxDepth height : Nat) (source : Source) (fuel : Nat) : Prop where
  atom : ∀ {bases f below d matched fnode fslot q q' goal slot symbols}, Runs f fnode fslot q →
    q.Asks d.cursor matched (.attempt { verb := .eat, goal }) false q' →
    goal.form = .node { nodeType := "Atom" } →
    ((machine maxDepth).ownSlot goal).traits.gappy = true →
    f.slotFor ((machine maxDepth).ownSlot goal) = .ok slot → slot.isAnonymous = false →
    d.Reads symbols → d.Takes slot → 3 * symbols.length + 1 ≤ fuel →
    below.length + 2 + 3 * nesting symbols ≤ height →
    (machine maxDepth).Leads height (Config.Stands source bases f below d (.value matched))
      (Config.Answered source bases { f with production := q' } below d false
        ((readAtom fuel symbols).map fun found => found.1.tags slot))
  expression : ∀ {bases f below d slot symbols}, Runs f false slot (chainProduction firstAtom 0) →
    slot.isAnonymous = false → d.Reads symbols → d.Takes slot → 3 * symbols.length + 2 ≤ fuel →
    below.length + 3 + 3 * nesting symbols ≤ height →
    Gives maxDepth height source bases f below d false
      ((readExpression fuel symbols).map fun found => found.1.tags slot)
  chain : ∀ {bases f below d slot first symbols}, Runs f false slot (chainProduction first 1) →
    slot.isAnonymous = false → d.Reads symbols → d.tags.back?.any Tag.completesValue = true →
    3 * symbols.length + 1 ≤ fuel → below.length + 3 + 3 * nesting symbols ≤ height →
    Gives maxDepth height source bases f below d true
      ((readChain fuel symbols).map fun found => found.1.tags)
  items : ∀ {bases f below d slot matched symbols}, Runs f true slot (listProduction 3) →
    d.Reads symbols → d.Takes itemsSlot → 3 * symbols.length + 3 ≤ fuel →
    below.length + 4 + 3 * nesting symbols ≤ height →
    Gives maxDepth height source bases f below d matched
      ((after? ']' (readItems fuel symbols).2).map fun _ =>
        (readItems fuel symbols).1.tags ++ [.literal "]", .closeNode])
  more : ∀ {bases f below d slot matched symbols}, Runs f true slot (listProduction 5) →
    d.Reads symbols → d.Takes itemsSlot → 3 * symbols.length + 1 ≤ fuel →
    below.length + 4 + 3 * nesting symbols ≤ height →
    Gives maxDepth height source bases f below d matched
      ((after? ']' (readMore fuel symbols).2).map fun _ =>
        (readMore fuel symbols).1.tags ++ [.literal "]", .closeNode])

section Bodies

variable {maxDepth height : Nat} {source : Source} {bases : List Draft} {d : Draft}
  {f : Frame Automaton 2} {below : List (Frame Automaton 2)} {matched fnode : Bool}
  {slot fslot : Slot} {p q q' : Production Automaton} {symbols rest : List Symbol} {fuel : Nat}
  {result : Option (List Tag)}

theorem Gives.prepend {tags : List Tag} {next : Bool}
    (hgives : Gives maxDepth height source bases { f with production := p } below
      (d.advanceAll tags) next result) :
    (machine maxDepth).Leads height
      (Config.Stands source bases { f with production := p } below (d.advanceAll tags)
        (.value next))
      (Config.Closes source bases f below d (result.map (tags ++ ·))) := by
  refine hgives.trans (.refl ?_)
  intro c hcloses
  exact Config.Closes.prepend hcloses

theorem expression_agrees (h : Agrees maxDepth height source fuel)
    (hruns : Runs f false slot (chainProduction firstAtom 0)) (hnamed : slot.isAnonymous = false)
    (hreads : d.Reads symbols) (htakes : d.Takes slot)
    (hfuel : 3 * symbols.length + 2 ≤ fuel + 1)
    (hheight : below.length + 3 + 3 * nesting symbols ≤ height) :
    Gives maxDepth height source bases f below d false
      ((readExpression (fuel + 1) symbols).map fun found => found.1.tags slot) := by
  have hslot : f.slotFor ((machine maxDepth).ownSlot (Goal.node "Atom").allowGap) =
      .ok slot.gappy := by
    rw [hruns.slotFor_cover hnamed rfl]
    simp [SlotTraits.union, Slot.gappy, Machine.ownSlot, Goal.allowGap, Goal.targetSlot, Goal.node,
      Slot.anonymous, machine, Builtin.Document.machine]
  have hatom := @h.atom bases f below d false _ _ _ (chainProduction firstAtom 1) _ slot.gappy
    symbols hruns (fun _ _ => rfl) rfl rfl hslot hnamed hreads htakes.gappy (by omega) (by omega)
  rw [readExpression, Option.map_bind]
  refine hatom.answered rfl ?_
  rintro ⟨first, behind⟩ hfirst
  have hsymbols := (readsSoundly fuel).atom hfirst
  have hbehind : (d.advanceAll (first.tags slot.gappy)).Reads behind :=
    hreads.after (first.symbols_tags _) hsymbols
  have hlength : behind.length ≤ symbols.length := by
    rw [hsymbols, List.length_append]
    omega
  have hnesting : nesting behind ≤ nesting symbols := by
    rw [hsymbols]
    exact first.nesting_le behind
  have hchain : Gives maxDepth height source bases
      { f with production := chainProduction firstAtom 1 } below
      (d.advanceAll (first.tags slot.gappy)) true
      ((readChain fuel behind).map fun found => found.1.tags) :=
    h.chain (hruns.with _) hnamed hbehind (d.any_back?_advanceAll (first.getLast?_tags _))
      (by omega) (by omega)
  have hprepend := hchain.prepend
  rw [Option.map_map] at hprepend
  simp only [Function.comp_apply, Option.map_map]
  exact hprepend

def operationTags (symbols rest : List Symbol) (op : Operator) (operand : Atom) : List Tag :=
  (Blanks.take symbols).tags ++ (op.tags ++ ((Blanks.take rest).tags ++
    (operand.tags rightSlot ++ [.closeNode])))

theorem symbols_operationTags {op : Operator} {operand : Atom} {behind : List Symbol}
    (hop : Operator.take? (skipBlanks symbols) = some (op, rest))
    (hoperand : skipBlanks rest = operand.symbols ++ behind) :
    symbols = Stream.symbols (operationTags symbols rest op operand) ++ behind := by
  simp only [operationTags, Stream.symbols_append, Blanks.symbols_tags, op.symbols_tags,
    operand.symbols_tags, List.append_assoc]
  calc symbols = (Blanks.take symbols).symbols ++ skipBlanks symbols :=
        (take_append_skipBlanks symbols).symm
    _ = (Blanks.take symbols).symbols ++
          (.char op.char :: ((Blanks.take rest).symbols ++ skipBlanks rest)) := by
        rw [Operator.take?_eq_some hop, take_append_skipBlanks]
    _ = _ := by
        rw [hoperand]
        rfl

theorem binary_gives (h : Agrees maxDepth height source fuel)
    (hruns : Runs f true slot binaryProduction) (hreads : d.Reads symbols)
    (hunshifted : d.tags.back?.any Tag.isShift = false) {op : Operator}
    (hop : Operator.take? (skipBlanks symbols) = some (op, rest))
    (hfuel : 3 * (skipBlanks rest).length + 1 ≤ fuel)
    (hheight : below.length + 2 + 3 * nesting (skipBlanks rest) ≤ height) :
    Gives maxDepth height source bases f below d false
      ((readAtom fuel (skipBlanks rest)).map fun found =>
        operationTags symbols rest op found.1) := by
  have htakes : d.Takes operatorSlot := .plain hunshifted rfl
  have htakes₁ := htakes.advanceAll (Blanks.take symbols).level (Blanks.take symbols).getLast?_tags
  have htakes₂ := htakes₁.advanceAll op.level rfl
  have htakes₃ := htakes₂.advanceAll (Blanks.take rest).level (Blanks.take rest).getLast?_tags
  have hreads₁ := reads_blanks hreads
  have hreads₂ := hreads₁.after op.symbols_tags (Operator.take?_eq_some hop)
  have hreads₃ := reads_blanks hreads₂
  rw [Option.map_eq_bind]
  refine (eat_blanks (hruns.asks (.script _ _ _ _ _)) hreads).trans ?_
  refine (eat_operator (hruns.with _) (.script _ _ _ _ _) hreads₁ htakes₁ hop).trans ?_
  refine (eat_blanks ((hruns.with _).asks (.script _ _ _ _ _)) hreads₂).trans ?_
  refine (h.atom (hruns.with _) (.script _ _ _ _ _) rfl rfl (hruns.slotFor_node _) rfl hreads₃
    (.plain htakes₃.unshifted rfl) hfuel hheight).answered rfl ?_
  rintro ⟨operand, behind⟩ -
  refine (Config.Stands.ends (.script _ _)).trans (.refl ?_)
  intro c hstands
  simp only [← Draft.advanceAll_append] at hstands
  have hcloses := Config.Closes.of_completed rfl hstands
  simp only [hruns.closing, List.append_assoc, if_true] at hcloses
  exact hcloses

theorem ends_cover (hactive : Active f false fslot q) (hends : q.Ends d.cursor matched q')
    (hclean : q'.cleanup = []) :
    Gives maxDepth height source bases f below d matched (some []) := by
  refine (Config.Stands.ends (hactive.ends hends)).trans (.refl ?_)
  intro c hstands
  have hcloses : c.Closes source bases f below d (some ([] ++ f.closing false)) :=
    .of_completed hclean hstands
  rw [hactive.closing] at hcloses
  exact hcloses

/-- The tags of the rest of a chain after its first operand was shifted. -/
def heldTags (fuel : Nat) (symbols rest : List Symbol) (op : Operator) : Option (List Tag) :=
  (readAtom fuel (skipBlanks rest)).bind fun found =>
    ((readChain fuel found.2).map fun more => more.1.tags).map
      ([opening "Binary"] ++ operationTags symbols rest op found.1 ++ ·)

theorem readChain_held {op : Operator}
    (hop : Operator.take? (skipBlanks symbols) = some (op, rest)) :
    ((readChain (fuel + 1) symbols).map fun found => found.1.tags) =
      (heldTags fuel symbols rest op).map ([.shift "left"] ++ ·) := by
  simp only [readChain, hop, heldTags]
  rcases readAtom fuel (skipBlanks rest) with _ | ⟨operand, behind⟩
  · rfl
  · simp only [Option.bind_some]
    rcases readChain fuel behind with _ | ⟨more, rest'⟩
    · rfl
    · rfl

/-- The rest of a chain that begins with an operator. -/
theorem held_gives (h : Agrees maxDepth height source fuel)
    (hruns : Runs f false slot (chainProduction firstBinary 0)) (hnamed : slot.isAnonymous = false)
    (hreads : d.Reads symbols) (hshifted : d.tags.back?.any Tag.isShift = true) {op : Operator}
    (hop : Operator.take? (skipBlanks symbols) = some (op, rest))
    (hfuel : 3 * symbols.length + 1 ≤ fuel + 1)
    (hheight : below.length + 3 + 3 * nesting symbols ≤ height) :
    Gives maxDepth height source bases f below d false (heldTags fuel symbols rest op) := by
  have hsplit := Operator.take?_eq_some hop
  have hlength : (skipBlanks rest).length < symbols.length := by
    have hbefore := length_skipBlanks_le symbols
    have hafter := length_skipBlanks_le rest
    rw [hsplit, List.length_cons] at hbefore
    omega
  have hnesting : nesting (skipBlanks rest) ≤ nesting symbols := by
    have hbefore := nesting_skipBlanks_le symbols
    have hafter := nesting_skipBlanks_le rest
    have hcons := nesting_le_cons (isClosing_of_isOperator op.operator) rest
    rw [hsplit] at hbefore
    omega
  -- After the shift the slot is not named again.
  have htags : entryTags d "Binary" true slot = [opening "Binary"] := by
    have hshifted' : (Tape.lastTag? d).any Tag.isShift = true := hshifted
    simp only [entryTags, slotTags, hshifted', if_true, List.nil_append]
  have hcall := @call_node maxDepth height source bases d f below false false true slot slot
    binaryProduction _ (chainProduction firstBinary 1) .eat (.node "Binary") "Binary"
    ((readAtom fuel (skipBlanks rest)).map fun found => operationTags symbols rest op found.1)
    hruns (fun _ _ => rfl) rfl rfl (Bool.and_false _) (hruns.slotFor_anonymous hnamed)
    defines_binary (by omega) rfl ?_ ?_
  · rw [htags, Option.map_map] at hcall
    refine hcall.answered rfl ?_
    rintro ⟨operand, behind⟩ hoperand
    have hsymbols := (readsSoundly fuel).atom hoperand
    have hbehind := operand.nesting_le behind
    rw [← hsymbols] at hbehind
    have hshorter : behind.length ≤ (skipBlanks rest).length := by
      rw [hsymbols, List.length_append]
      omega
    have hreads' : (d.advanceAll ([opening "Binary"] ++
        operationTags symbols rest op operand)).Reads behind :=
      hreads.after rfl (symbols_operationTags hop hsymbols)
    have hlast : (d.advanceAll ([opening "Binary"] ++
        operationTags symbols rest op operand)).tags.back?.any Tag.completesValue = true := by
      apply Draft.any_back?_advanceAll
      simp [operationTags, List.getLast?_cons, List.getLast?_append, Tag.completesValue]
    have hchain : Gives maxDepth height source bases
        { f with production := chainProduction firstBinary 1 } below
        (d.advanceAll ([opening "Binary"] ++ operationTags symbols rest op operand)) true
        ((readChain fuel behind).map fun found => found.1.tags) :=
      h.chain (hruns.with _) hnamed hreads' hlast (by omega) (by omega)
    exact hchain.prepend
  · rw [htags]
    intro tags htags'
    obtain ⟨found, -, rfl⟩ := Option.map_eq_some_iff.mp htags'
    simp [operationTags, op.symbols_tags]
  · intro f' d' hruns' hd'
    subst hd'
    rw [htags]
    refine binary_gives h hruns' (hreads.silent rfl) ?_ hop (by omega) ?_
    · rw [Draft.back?_advanceAll]
      rfl
    · rw [List.length_cons]
      omega

/-- After an operand the rule ends or the operand is held for an operator. -/
theorem chain_agrees (h : Agrees maxDepth height source fuel) {first : Instruction}
    (hruns : Runs f false slot (chainProduction first 1)) (hnamed : slot.isAnonymous = false)
    (hreads : d.Reads symbols) (hlast : d.tags.back?.any Tag.completesValue = true)
    (hfuel : 3 * symbols.length + 1 ≤ fuel + 1)
    (hheight : below.length + 3 + 3 * nesting symbols ≤ height) :
    Gives maxDepth height source bases f below d true
      ((readChain (fuel + 1) symbols).map fun found => found.1.tags) := by
  by_cases hend : symbols = []
  · subst hend
    have hdone : d.cursor.done = true := hreads.done
    have hends : (chainProduction first 1).Ends d.cursor true (chainProduction first 1) := by
      intro value hvalue
      simp [chainProduction, Production.step, Stepper.step, Automaton.step, Automaton.move,
        chainStates, Condition.holds, hdone]
    exact ends_cover hruns.toActive hends rfl
  · have hdone : d.cursor.done = false := by
      rw [hreads.done, List.isEmpty_eq_false_iff]
      exact hend
    have hasks : (chainProduction first 1).Asks d.cursor true operatorAhead false
        (chainProduction first 2) := by
      intro value hvalue
      simp [chainProduction, Production.step, Stepper.step, Automaton.step, Automaton.move,
        chainStates, Condition.holds, hdone]
    refine (peek_operator (hruns.asks hasks) hreads).trans ?_
    rcases hop : Operator.take? (skipBlanks symbols) with _ | ⟨op, rest⟩
    · simp only [readChain, hop, Option.map_some]
      exact ends_cover (hruns.with _).toActive (.missed rfl) rfl
    · have hheld := @hold_chain maxDepth height source bases d
        { f with production := chainProduction first 2 } below true slot
        (chainProduction firstBinary 0) _ (chainProduction first 2) _ (hruns.with _)
        (.matched fun _ => rfl) hlast defines_chain rfl (fun f' d' hruns' hd' => by
          subst hd'
          exact held_gives h hruns' hnamed (hreads.silent rfl)
            (d.any_back?_advanceAll rfl) hop hfuel hheight)
      rw [readChain_held hop]
      exact hheld

theorem call_expression (h : Agrees maxDepth height source fuel) {verb : Verb} {goal : Goal}
    (hruns : Runs f true fslot q)
    (hasks : q.Asks d.cursor matched (.attempt { verb, goal }) false q')
    (hform : goal.form = .node { nodeType := "Expression" }) (hhold : verb.isHold = false)
    (hkeeps : verb.policy.keeps = true) (hown : (machine maxDepth).ownSlot goal = slot)
    (hgappy : slot.traits.gappy = false) (hnamed : slot.isAnonymous = false)
    (hreads : d.Reads symbols) (htakes : d.Takes slot) (hfuel : 3 * symbols.length + 2 ≤ fuel)
    (hheight : below.length + 4 + 3 * nesting symbols ≤ height) :
    (machine maxDepth).Leads height (Config.Stands source bases f below d (.value matched))
      (Config.Answered source bases { f with production := q' } below d verb.policy.absorbs
        ((readExpression fuel symbols).map fun found => found.1.tags slot)) := by
  have hsame : ∀ result : Option (List Tag),
      result.map (entryTags d "Expression" false slot ++ ·) = result := by
    intro result
    cases result <;> rfl
  have hslot : f.slotFor ((machine maxDepth).ownSlot goal) = .ok slot := by
    rw [hown, hruns.slotFor_node]
  rw [← hsame (Option.map _ _)]
  refine call_node hruns hasks hform hhold (by rw [hown, hgappy, Bool.and_false]) hslot
    defines_expression (by omega) hkeeps ?_ ?_
  · intro tags htags
    obtain ⟨⟨e, rest⟩, -, rfl⟩ := Option.map_eq_some_iff.mp htags
    rw [Stream.symbols_append, e.symbols_tags]
    exact e.symbols_ne_nil
  · intro f' d' hruns' hd'
    subst hd'
    refine h.expression hruns' hnamed (hreads.branchIf _) (htakes.branchIf _) hfuel ?_
    rw [List.length_cons]
    omega

theorem close_gives {text : String} {c : Char} (htext : text.toList = [c])
    (hruns : Runs f true fslot q)
    (hasks : q.Asks d.cursor matched (.eat (.literal text)) true q') (hclean : q'.cleanup = [])
    (hreads : d.Reads symbols) :
    Gives maxDepth height source bases f below d matched
      ((after? c symbols).map fun _ => [.literal text, .closeNode]) := by
  rcases hnext : after? c symbols with _ | rest
  · refine (miss_literal htext (hruns.asks hasks) rfl hreads hnext).trans (.refl ?_)
    intro c hstands
    exact .of_failed hclean hstands
  · refine (match_literal htext (hruns.asks hasks) rfl hreads hnext).trans (.refl ?_)
    intro c hstands
    have hcloses : c.Closes source bases f below d (some ([.literal text] ++ f.closing false)) :=
      .of_completed hclean hstands
    rw [hruns.closing] at hcloses
    exact hcloses

def groupTags (before : Blanks) (body : Expression) (after : Blanks) : List Tag :=
  [.literal "("] ++ (before.tags ++ (body.tags expressionSlot ++ (after.tags ++
    [.literal ")", .closeNode])))

theorem group_gives (h : Agrees maxDepth height source fuel)
    (hruns : Runs f true fslot groupProduction) (hreads : d.Reads symbols)
    (hopen : after? '(' symbols = some rest) (hfuel : 3 * (skipBlanks rest).length + 2 ≤ fuel)
    (hheight : below.length + 4 + 3 * nesting (skipBlanks rest) ≤ height) :
    Gives maxDepth height source bases f below d false
      ((readExpression fuel (skipBlanks rest)).bind fun found =>
        (after? ')' (skipBlanks found.2)).map fun _ =>
          groupTags (.take rest) found.1 (.take found.2)) := by
  have hunshifted : (d.advanceAll [.literal "("]).tags.back?.any Tag.isShift = false := by
    rw [Draft.back?_advanceAll]
    rfl
  have htakes : (d.advanceAll [.literal "("]).Takes expressionSlot := .plain hunshifted rfl
  have htakes' := htakes.advanceAll (Blanks.take rest).level (Blanks.take rest).getLast?_tags
  have hreads₁ : (d.advanceAll [.literal "("]).Reads rest :=
    hreads.after rfl (after?_eq_some.mp hopen)
  have hreads₂ := reads_blanks hreads₁
  refine (match_literal rfl (hruns.asks (.script _ _ _ _ _)) rfl hreads hopen).trans ?_
  refine (eat_blanks ((hruns.with _).asks (.script _ _ _ _ _)) hreads₁).trans ?_
  refine Machine.Leads.answered (call_expression h (hruns.with _) (.script _ _ _ _ _) rfl rfl rfl
    rfl rfl rfl hreads₂ htakes' hfuel hheight) rfl ?_
  rintro ⟨body, behind⟩ hbody
  have hreads₃ := hreads₂.after (body.symbols_tags expressionSlot)
    ((readsSoundly fuel).expression hbody)
  refine (eat_blanks ((hruns.with _).asks (.script _ _ _ _ _)) hreads₃).trans ?_
  refine (close_gives rfl (hruns.with _) (.last _ _ _) rfl (reads_blanks hreads₃)).trans (.refl ?_)
  intro c hcloses
  simp only [← Draft.advanceAll_append] at hcloses
  have hprepended := hcloses.prepend
  simp only [Option.map_map, Function.comp_def, List.append_assoc] at hprepended
  exact hprepended

def listTags (before : Blanks) (items : Items) : List Tag :=
  [.literal "["] ++ (before.tags ++ (arrayTags itemsSlot ++ (items.tags ++
    [.literal "]", .closeNode])))

theorem list_gives (h : Agrees maxDepth height source fuel)
    (hruns : Runs f true fslot (listProduction 0)) (hreads : d.Reads symbols) {node : Nat}
    {outer : List OpenNode} (hopened : d.opened = ⟨node, []⟩ :: outer)
    (hopen : after? '[' symbols = some rest) (hfuel : 3 * (skipBlanks rest).length + 3 ≤ fuel)
    (hheight : below.length + 4 + 3 * nesting (skipBlanks rest) ≤ height) :
    Gives maxDepth height source bases f below d false
      ((after? ']' (readItems fuel (skipBlanks rest)).2).map fun _ =>
        listTags (.take rest) (readItems fuel (skipBlanks rest)).1) := by
  have hreads₁ : (d.advanceAll [.literal "["]).Reads rest :=
    hreads.after rfl (after?_eq_some.mp hopen)
  have hreads₂ := reads_blanks hreads₁
  have hreads₃ := hreads₂.silent (show Stream.symbols (arrayTags itemsSlot) = [] from rfl)
  have hopened' :=
    ((Blanks.take rest).opened_advanceAll (d.advanceAll [.literal "["])).trans hopened
  have hfresh : ((d.advanceAll [.literal "["]).advanceAll
      (Blanks.take rest).tags).hasReference "items" = false := by
    rw [Draft.hasReference, hopened']
    rfl
  have htakes : (((d.advanceAll [.literal "["]).advanceAll (Blanks.take rest).tags).advanceAll
      (arrayTags itemsSlot)).Takes itemsSlot := .array hopened'
  have hliteral : (listProduction 0).Asks d.cursor false (.eat (.literal "[")) false
      (listProduction 1) := fun _ _ => rfl
  have hblanks : (listProduction 1).Asks (d.advanceAll [.literal "["]).cursor true whitespace false
      (listProduction 2) := fun _ _ => rfl
  have harray : (listProduction 2).Asks ((d.advanceAll [.literal "["]).advanceAll
      (Blanks.take rest).tags).cursor true (.eat (Goal.array.inArray "items")) false
      (listProduction 3) := fun _ _ => rfl
  refine (match_literal rfl (hruns.asks hliteral) rfl hreads hopen).trans ?_
  refine (eat_blanks ((hruns.with _).asks hblanks) hreads₁).trans ?_
  refine (eat_array (hruns.with _) harray hfresh).trans ?_
  refine (h.items (hruns.with _) hreads₃ htakes hfuel hheight).trans (.refl ?_)
  intro c hcloses
  simp only [← Draft.advanceAll_append] at hcloses
  have hprepended := hcloses.prepend
  simp only [Option.map_map, Function.comp_def, List.append_assoc] at hprepended
  exact hprepended

/-- The tags of a list from its next item on, given what was found of it. -/
def itemTags (fuel : Nat) (symbols : List Symbol) :
    Option (Expression × List Symbol) → Option (List Tag)
  | none => (after? ']' symbols).map fun _ => [.literal "]", .closeNode]
  | some (item, behind) =>
      (after? ']' (readMore fuel (skipBlanks behind)).2).map fun _ =>
        item.tags itemsSlot ++ ((Blanks.take behind).tags ++
          ((readMore fuel (skipBlanks behind)).1.tags ++ [.literal "]", .closeNode]))

theorem item_gives (h : Agrees maxDepth height source fuel)
    (hruns : Runs f true fslot (listProduction 3)) (hreads : d.Reads symbols)
    (htakes : d.Takes itemsSlot) (hfuel : 3 * symbols.length + 2 ≤ fuel)
    (hheight : below.length + 4 + 3 * nesting symbols ≤ height) :
    Gives maxDepth height source bases f below d matched
      (itemTags fuel symbols (readExpression fuel symbols)) := by
  have hasks : (listProduction 3).Asks d.cursor matched (.eatMatch (expression.inArray "items"))
      false (listProduction 4) := fun _ _ => rfl
  refine Machine.Leads.trans (call_expression h hruns hasks rfl rfl rfl rfl rfl rfl hreads htakes
    hfuel hheight) ?_
  rcases hfound : readExpression fuel symbols with _ | ⟨item, behind⟩
  · exact close_gives rfl (hruns.with _) (.missed rfl) rfl hreads
  · have hsymbols := (readsSoundly fuel).expression hfound
    have hlength := length_skipBlanks_le behind
    have hnesting := nesting_skipBlanks_le behind
    have hbehind := item.nesting_le behind
    have hitem := congrArg List.length hsymbols
    rw [List.length_append] at hitem
    rw [← hsymbols] at hbehind
    have hreads₁ := hreads.after (item.symbols_tags itemsSlot) hsymbols
    have htakes₁ := (htakes.advanceAll (item.level itemsSlot) (item.getLast?_tags _)).advanceAll
      (Blanks.take behind).level (Blanks.take behind).getLast?_tags
    refine Machine.Leads.trans (eat_blanks ((hruns.with _).asks (.matched fun _ => rfl)) hreads₁) ?_
    refine Machine.Leads.trans (h.more (hruns.with (listProduction 5)) (reads_blanks hreads₁)
      htakes₁ (by omega) (by omega)) (.refl ?_)
    intro c hcloses
    simp only [← Draft.advanceAll_append] at hcloses
    have hprepended := hcloses.prepend
    simp only [Option.map_map, Function.comp_def, List.append_assoc] at hprepended
    exact hprepended

theorem items_agrees (h : Agrees maxDepth height source fuel)
    (hruns : Runs f true fslot (listProduction 3)) (hreads : d.Reads symbols)
    (htakes : d.Takes itemsSlot) (hfuel : 3 * symbols.length + 3 ≤ fuel + 1)
    (hheight : below.length + 4 + 3 * nesting symbols ≤ height) :
    Gives maxDepth height source bases f below d matched
      ((after? ']' (readItems (fuel + 1) symbols).2).map fun _ =>
        (readItems (fuel + 1) symbols).1.tags ++ [.literal "]", .closeNode]) := by
  have hitem := @item_gives maxDepth height source bases d f below matched fslot symbols fuel h
    hruns hreads htakes (by omega) hheight
  rw [readItems]
  rcases hfound : readExpression fuel symbols with _ | ⟨first, behind⟩
  · rw [hfound] at hitem
    exact hitem
  · rw [hfound] at hitem
    simp only [Items.tags, List.append_assoc]
    exact hitem

theorem more_agrees (h : Agrees maxDepth height source fuel)
    (hruns : Runs f true fslot (listProduction 5)) (hreads : d.Reads symbols)
    (htakes : d.Takes itemsSlot) (hfuel : 3 * symbols.length + 1 ≤ fuel + 1)
    (hheight : below.length + 4 + 3 * nesting symbols ≤ height) :
    Gives maxDepth height source bases f below d matched
      ((after? ']' (readMore (fuel + 1) symbols).2).map fun _ =>
        (readMore (fuel + 1) symbols).1.tags ++ [.literal "]", .closeNode]) := by
  have hasks : (listProduction 5).Asks d.cursor matched (.eatMatch (.literal ",")) false
      (listProduction 6) := fun _ _ => rfl
  rw [readMore]
  rcases hcomma : after? ',' symbols with _ | rest
  · refine Machine.Leads.trans (miss_literal rfl (hruns.asks hasks) rfl hreads hcomma) ?_
    exact close_gives rfl (hruns.with _) (.missed rfl) rfl hreads
  · have hsymbols := after?_eq_some.mp hcomma
    have hlength := length_skipBlanks_le rest
    have hnesting := nesting_skipBlanks_le rest
    have hrest := nesting_le_cons (show isClosing ',' = false by decide) rest
    rw [hsymbols, List.length_cons] at hfuel
    rw [← hsymbols] at hrest
    have hreads₁ : (d.advanceAll [.literal ","]).Reads rest := hreads.after rfl hsymbols
    have htakes₁ := (htakes.advanceAll (@Stream.level_flat (.literal ",") rfl rfl) rfl).advanceAll
      (Blanks.take rest).level (Blanks.take rest).getLast?_tags
    have hitem := @item_gives maxDepth height source bases _ _ below true fslot _ fuel h
      (hruns.with (listProduction 3)) (reads_blanks hreads₁) htakes₁ (by omega) (by omega)
    refine Machine.Leads.trans (match_literal rfl (hruns.asks hasks) rfl hreads hcomma) ?_
    refine Machine.Leads.trans (eat_blanks ((hruns.with _).asks (.matched fun _ => rfl)) hreads₁) ?_
    refine hitem.trans (.refl ?_)
    intro c hcloses
    simp only [← Draft.advanceAll_append] at hcloses
    have hprepended := hcloses.prepend
    rcases hfound : readExpression fuel (skipBlanks rest) with _ | ⟨item, behind⟩
    · simp only [hfound, itemTags, Option.map_map, Function.comp_def, List.append_assoc]
        at hprepended
      simp only [hfound, More.tags]
      exact hprepended
    · simp only [hfound, itemTags, Option.map_map, Function.comp_def, List.append_assoc]
        at hprepended
      simp only [hfound, More.tags, List.cons_append, List.append_assoc]
      exact hprepended

theorem nesting_behind {c : Char} (hopening : isOpening c = true)
    (hopen : after? c symbols = some rest) :
    nesting (skipBlanks rest) + 1 ≤ nesting symbols ∧
      (skipBlanks rest).length + 1 ≤ symbols.length := by
  rw [after?_eq_some.mp hopen, nesting_opening hopening, List.length_cons]
  have hlength := length_skipBlanks_le rest
  have hnesting := nesting_skipBlanks_le rest
  omega

theorem splice_group (h : Agrees maxDepth height source fuel) (hruns : Runs f false slot q)
    (hasks : q.Asks d.cursor matched (.eat (.node "Group")) true q') (hclean : q'.cleanup = [])
    (hnamed : slot.isAnonymous = false) (hreads : d.Reads symbols) (htakes : d.Takes slot)
    (hopen : after? '(' symbols = some rest) (hfuel : 3 * symbols.length + 1 ≤ fuel + 1)
    (hheight : below.length + 1 + 3 * nesting symbols ≤ height) :
    Gives maxDepth height source bases f below d matched
      ((readExpression fuel (skipBlanks rest)).bind fun found =>
        (after? ')' (skipBlanks found.2)).map fun _ =>
          (Atom.group (.take rest) found.1 (.take found.2)).tags slot) := by
  obtain ⟨hnesting, hlength⟩ := nesting_behind (by decide) hopen
  have htags : entryTags d "Group" true slot = [.reference slot, opening "Group"] := by
    simp only [entryTags, htakes.slotTags_eq]
    rfl
  have hsplice := @splice_node maxDepth height source bases d f below matched true slot slot
    groupProduction q q' (.node "Group") "Group" _ hruns hasks rfl (Bool.and_false _)
    (hruns.slotFor_anonymous hnamed) defines_group hclean (by
      intro f' d' hruns' _ _ hd'
      rw [hd', htags]
      exact group_gives h hruns' (hreads.silent rfl) hopen (by omega) (by omega))
  rw [htags] at hsplice
  simp only [Option.map_bind, Function.comp_def, Option.map_map] at hsplice
  exact hsplice

theorem splice_list (h : Agrees maxDepth height source fuel) (hruns : Runs f false slot q)
    (hasks : q.Asks d.cursor matched (.eat (.node "List")) true q') (hclean : q'.cleanup = [])
    (hnamed : slot.isAnonymous = false) (hreads : d.Reads symbols) (htakes : d.Takes slot)
    (hopen : after? '[' symbols = some rest) (hfuel : 3 * symbols.length + 1 ≤ fuel + 1)
    (hheight : below.length + 1 + 3 * nesting symbols ≤ height) :
    Gives maxDepth height source bases f below d matched
      ((after? ']' (readItems fuel (skipBlanks rest)).2).map fun _ =>
        (Atom.list (.take rest) (readItems fuel (skipBlanks rest)).1).tags slot) := by
  obtain ⟨hnesting, hlength⟩ := nesting_behind (by decide) hopen
  have htags : entryTags d "List" true slot = [.reference slot, opening "List"] := by
    simp only [entryTags, htakes.slotTags_eq]
    rfl
  have hsplice := @splice_node maxDepth height source bases d f below matched true slot slot
    (listProduction 0) q q' (.node "List") "List" _ hruns hasks rfl (Bool.and_false _)
    (hruns.slotFor_anonymous hnamed) defines_list hclean (by
      intro f' d' hruns' _ _ hd'
      rw [hd', htags]
      exact list_gives h hruns' (hreads.silent rfl) rfl hopen (by omega) (by omega))
  rw [htags] at hsplice
  simp only [Option.map_map, Function.comp_def] at hsplice
  exact hsplice

/-- The rule for an operand, where no gap stands for it. -/
theorem atom_gives (h : Agrees maxDepth height source fuel)
    (hruns : Runs f false slot (atomProduction 0)) (hnamed : slot.isAnonymous = false)
    (hgap : symbols.head? ≠ some .gap) (hreads : d.Reads symbols) (htakes : d.Takes slot)
    (hfuel : 3 * symbols.length + 1 ≤ fuel + 1)
    (hheight : below.length + 1 + 3 * nesting symbols ≤ height) :
    Gives maxDepth height source bases f below d false
      ((readAtom (fuel + 1) symbols).map fun found => found.1.tags slot) := by
  have hgap' : d.cursor.atGap = false := by
    rw [hreads.atGap]
    simpa using hgap
  have hround : (atomProduction 0).Asks d.cursor false (.peek (.literal "(")) false
      (atomProduction 1) := fun _ _ => rfl
  rw [readAtom, if_neg hgap]
  rcases hopen : after? '(' symbols with _ | rest
  · refine Machine.Leads.trans (miss_literal rfl (hruns.asks hround) rfl hreads hopen) ?_
    have hsquare : (atomProduction 1).Asks d.cursor false (.peek (.literal "[")) false
        (atomProduction 2) := .missed rfl
    rcases hopen' : after? '[' symbols with _ | rest
    · refine Machine.Leads.trans
        (miss_literal rfl ((hruns.with _).asks hsquare) rfl hreads hopen') ?_
      simp only [Option.map_map]
      exact eat_numeral (hruns.with _) hnamed (.missed rfl) rfl hreads htakes
    · refine Machine.Leads.trans
        (match_literal rfl ((hruns.with _).asks hsquare) rfl hreads hopen') ?_
      simp only [Option.map_map]
      exact splice_list h (hruns.with _) (.matched fun _ => rfl) rfl hnamed hreads htakes hopen'
        hfuel hheight
  · refine Machine.Leads.trans (match_literal rfl (hruns.asks hround) rfl hreads hopen) ?_
    simp only [Option.map_bind, Function.comp_def, Option.map_map]
    exact splice_group h (hruns.with _) (.matched fun _ => rfl) rfl hnamed hreads htakes hopen
      hfuel hheight

theorem atom_agrees (h : Agrees maxDepth height source fuel) {goal : Goal}
    (hruns : Runs f fnode fslot q)
    (hasks : q.Asks d.cursor matched (.attempt { verb := .eat, goal }) false q')
    (hform : goal.form = .node { nodeType := "Atom" })
    (hgappy : ((machine maxDepth).ownSlot goal).traits.gappy = true)
    (hslot : f.slotFor ((machine maxDepth).ownSlot goal) = .ok slot)
    (hnamed : slot.isAnonymous = false) (hreads : d.Reads symbols) (htakes : d.Takes slot)
    (hfuel : 3 * symbols.length + 1 ≤ fuel + 1)
    (hheight : below.length + 2 + 3 * nesting symbols ≤ height) :
    (machine maxDepth).Leads height (Config.Stands source bases f below d (.value matched))
      (Config.Answered source bases { f with production := q' } below d false
        ((readAtom (fuel + 1) symbols).map fun found => found.1.tags slot)) := by
  by_cases hgap : symbols.head? = some .gap
  · have hgap' : d.cursor.atGap = true := by
      rw [hreads.atGap, hgap]
      rfl
    rw [readAtom, if_pos hgap]
    exact eat_gap hruns hasks hform hgappy hslot hgap' htakes
  · have hgap' : d.cursor.atGap = false := by
      rw [hreads.atGap]
      simpa using hgap
    have hsame : ∀ result : Option (List Tag),
        result.map (entryTags d "Atom" false slot ++ ·) = result := by
      intro result
      cases result <;> rfl
    rw [← hsame (Option.map _ _)]
    refine call_node hruns hasks hform rfl (by rw [hgap', Bool.false_and]) hslot defines_atom
      (by omega) rfl ?_ ?_
    · intro tags htags
      obtain ⟨⟨a, rest⟩, -, rfl⟩ := Option.map_eq_some_iff.mp htags
      rw [Stream.symbols_append, a.symbols_tags]
      exact a.symbols_ne_nil
    · intro f' d' hruns' hd'
      subst hd'
      refine atom_gives h hruns' hnamed hgap hreads htakes hfuel ?_
      rw [List.length_cons]
      omega

end Bodies

/-- The rules find what the reader finds. -/
theorem agrees (maxDepth height : Nat) (source : Source) (fuel : Nat) :
    Agrees maxDepth height source fuel := by
  induction fuel with
  | zero =>
      constructor
      · intros
        omega
      · intros
        omega
      · intros
        omega
      · intros
        omega
      · intros
        omega
  | succ fuel ih =>
      constructor
      · exact atom_agrees ih
      · exact expression_agrees ih
      · exact chain_agrees ih
      · exact items_agrees ih
      · exact more_agrees ih

end GrammarMachine.Arithmetic
