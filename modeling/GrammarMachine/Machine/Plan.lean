import GrammarMachine.Machine.Basic
import GrammarMachine.Slot.Merge

/-!
Planning a match. For a matching instruction the machine first decides, without changing anything,
whether it misses, which tags it writes in place, or which rule it enters.
-/

namespace GrammarMachine

/-- A rule to be entered. -/
structure Entry (σ : Type) (n : Nat) where
  frame : Frame σ n
  invocation : Invocation
  /-- Whether the frame takes the place of the active one. -/
  replaces : Bool
  /-- Whether the active frame only waits for the result from now on. -/
  returns : Bool
  /-- The name under which the value completed last is moved into the node. -/
  adopts : Option String
  /-- The tag that opens the node, if the rule has one. -/
  opening : Option Tag

/-- What is to be done for a matching instruction. -/
inductive Plan (σ : Type) (n : Nat) where
  /-- The match fails, perhaps because a type matched nothing. -/
  | miss (emptied : Option String)
  /-- Tags are written in place, if the match is kept. The value has a name and an end. -/
  | place (tags : List Tag) (value : Option (String × Position))
  /-- A rule is entered. -/
  | enter (entry : Entry σ n)

/-- The tags that introduce an array slot. -/
def arrayTags (slot : Slot) : List Tag :=
  [.reference { slot with isArray := true, traits := { slot.traits with expression := false } },
    .arrayStart]

def Tag.isShift : Tag → Bool
  | .shift _ => true
  | _ => false

/-- Whether a tag completes a value that can be held. -/
def Tag.completesValue : Tag → Bool
  | .closeNode | .gap => true
  | _ => false

/-- The tags that name a slot. An array slot is introduced by the first one in its node. After a
shift there are none, because the slot of the shifted value is taken over. -/
def slotTags {T : Type} [Tape T] (tape : T) (slot : Slot) : List Tag :=
  if (Tape.lastTag? tape).any Tag.isShift then []
  else if slot.isArray && !Tape.hasReference tape slot.name then
    arrayTags slot ++ [.reference slot]
  else [.reference slot]

namespace Frame

variable {σ : Type} {n : Nat}

/-- The slot of a value for which the rule of a frame asks for a slot of its own. -/
def slotFor (f : Frame σ n) (own : Slot) : Except ParseError Slot :=
  if f.isTransparent then f.slot.merge own else .ok own

/-- The scope of a rule entered from a frame. A node starts a new scope. -/
def scopeFor (f : Frame σ n) (language : Fin n) (isNode : Bool) : List (Fin n) :=
  if isNode then [language]
  else if f.scope.head? = some language then f.scope
  else language :: f.scope

end Frame

namespace Machine

variable {σ : Type} {n : Nat} {T : Type} [Tape T]

/-- The slot that a goal asks for. Gaps are permitted only if the machine allows them at all. -/
def ownSlot (m : Machine σ n) (goal : Goal) : Slot :=
  let slot := goal.targetSlot
  { slot with traits := { slot.traits with gappy := m.options.allowGaps && slot.traits.gappy } }

/-- Raw text at the cursor. -/
def planText (tape : T) (r : Recognizer) (own : Slot) : Except Outcome (Plan σ n) := do
  match ← (Tape.recognize tape r).mapError .faulted with
  | none => return .miss none
  | some text =>
      let stop := (Tape.cursor tape).position.skip text.utf8ByteSize
      -- The empty text is matched without a tag, but with a value.
      return .place (if text.isEmpty then [] else [.literal text]) (some (own.name, stop))

/-- A gap at the cursor. -/
def planGap (m : Machine σ n) (tape : T) (top : Frame σ n) (own : Slot) :
    Except Outcome (Plan σ n) := do
  let cursor := Tape.cursor tape
  if m.options.allowGaps && cursor.atGap then
    let slot ← (top.slotFor own).mapError .rejected
    return .place (slotTags tape slot ++ [.gap]) (some (slot.name, cursor.position.skipGap))
  else return .miss none

/-- An empty value for a slot that has none yet. -/
def planNull (tape : T) (top : Frame σ n) (own : Slot) : Except Outcome (Plan σ n) := do
  let slot ← (top.slotFor own).mapError .rejected
  let tags :=
    -- Whatever has filled the slot before stands for it, so nothing is left to write.
    if Tape.hasReference tape slot.name then []
    else if slot.isArray then arrayTags slot
    else slotTags tape slot ++ [.null]
  return .place tags none

/-- An array for a slot that has no value yet. -/
def planArray (tape : T) (top : Frame σ n) (own : Slot) : Except Outcome (Plan σ n) := do
  let slot ← (top.slotFor own).mapError .rejected
  return .place (if Tape.hasReference tape slot.name then [] else arrayTags slot) none

/-- A token with the given text. -/
def planToken (tape : T) (language : Language σ n) (node : NodeGoal) (slot : Slot) (text : String) :
    Plan σ n :=
  if text.isEmpty && !language.grammar.isEmptyable node.nodeType then .miss (some node.nodeType)
  else
    let attributes := (language.grammar.attributesOf node.nodeType).merge node.attributes
    let content := if text.isEmpty then [] else [Tag.literal text]
    let stop := (Tape.cursor tape).position.skip text.utf8ByteSize
    .place
      (slotTags tape slot ++ [.openNode node.traits language.url node.nodeType attributes] ++
        content ++ [.closeNode])
      (some (slot.name, stop))

/-- The attributes of a node: those of its type, then those asked for, and null for those that its
rule is expected to bind. -/
def nodeAttributes (grammar : Grammar σ) (node : NodeGoal) : Fields :=
  (grammar.unboundOf node.nodeType).foldl (fun fields key => Fields.insertNew key .null fields)
    ((grammar.attributesOf node.nodeType).merge node.attributes)

/-- A rule to be entered for a node or a cover type. -/
def planEntry (m : Machine σ n) (tape : T) (top : Frame σ n) (attempt : Attempt) (tail : Bool)
    (node : NodeGoal) (own slot : Slot) (place : Fin n) (intrinsic : Option String) :
    Except Outcome (Plan σ n) := do
  let language := m.catalog place
  let isNode := language.grammar.isNode node.nodeType && !attempt.plain
  let rule ← (language.production node.nodeType).mapError .rejected
  let attributes := nodeAttributes language.grammar node
  let invocation : Invocation := {
    value := attempt.props
    cursor := Tape.cursor tape
    language := language.url
    nodeType := node.nodeType
    attributes
    intrinsic
    unbound := language.grammar.unboundOf node.nodeType }
  let policy := attempt.verb.policy
  let replaces := tail && policy = Verb.eat.policy && top.isTransparent
  let gappy := m.options.allowGaps && !node.traits.token
  return .enter {
    frame := {
      language := place
      scope := top.scopeFor place isNode
      nodeType := node.nodeType
      isNode
      isCover := language.grammar.isCover node.nodeType
      policy
      production := rule invocation
      slot
      allowEmpty := language.grammar.isEmptyable node.nodeType }
    invocation
    replaces
    returns := tail && !replaces
    adopts := if attempt.verb.isHold then some own.name else none
    opening :=
      if isNode then
        some (.openNode { node.traits with gappy } language.url node.nodeType attributes)
      else none }

/-- Refuses a token that is no node and a hold that is not possible. -/
def checkNode (tape : T) (verb : Verb) (node : NodeGoal) (isNode isCover : Bool) :
    Except ParseError Unit := do
  if node.traits.token && !isNode then .error (.tokenNotNode node.nodeType)
  if verb.isHold then
    if !(isNode || isCover) then .error (.invalidHold node.nodeType .notNodeOrCover)
    if !(Tape.lastTag? tape).any Tag.completesValue then
      .error (.invalidHold node.nodeType .nothingCompleted)

/-- A node or a cover type. At a gap that the slot permits, the gap stands for the node. -/
def planNode (m : Machine σ n) (tape : T) (top : Frame σ n) (attempt : Attempt) (tail : Bool)
    (node : NodeGoal) (own : Slot) : Except Outcome (Plan σ n) := do
  let place ← (m.index.resolve m.catalog top.scope node.language).mapError .rejected
  let language := m.catalog place
  let isNode := language.grammar.isNode node.nodeType && !attempt.plain
  let isCover := language.grammar.isCover node.nodeType
  (checkNode tape attempt.verb node isNode isCover).mapError .rejected
  let interpolates := (Tape.cursor tape).atGap && m.options.allowGaps && !node.traits.trivia &&
    (isNode || isCover) && own.traits.gappy && !attempt.through && !attempt.verb.isHold
  if interpolates then
    m.planGap tape top own
  else
    let intrinsic ← match node.intrinsic with
      | none => pure none
      | some r =>
          match ← (Tape.recognize tape r).mapError .faulted with
          | none => return .miss none
          | some text => pure (some text)
    let slot ←
      -- A hold asks for no slot, since its node takes over that of the value.
      if attempt.verb.isHold then pure (if top.isTransparent then top.slot else .anonymous)
      else (top.slotFor own).mapError .rejected
    match intrinsic, node.traits.token with
    | some text, true => return planToken tape language node slot text
    | intrinsic, _ => m.planEntry tape top attempt tail node own slot place intrinsic

/-- What is to be done for a matching instruction. The outermost production asks for a gap, which
stands for the goal of the machine. -/
def plan (m : Machine σ n) (tape : T) (top : Frame σ n) (attempt : Attempt) (tail : Bool) :
    Except Outcome (Plan σ n) := do
  if attempt.verb.isHold && !tail then
    .error (.rejected (.invalidHold attempt.goal.display .notReturned))
  let goal := match attempt.goal.form with
    | .gap => if top.isFragment then m.goal else attempt.goal
    | _ => attempt.goal
  if attempt.verb.isHold && goal.node?.isNone then
    .error (.rejected (.invalidHold goal.display .notNode))
  let own := m.ownSlot goal
  match goal.form with
  | .literal text => planText tape (.literal text) own
  | .pattern p => planText tape (.pattern p) own
  | .gap => m.planGap tape top own
  | .null => planNull tape top own
  | .array => planArray tape top own
  | .node node => m.planNode tape top attempt tail node own

end Machine

end GrammarMachine
