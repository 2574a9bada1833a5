import GrammarMachine.Machine.Plan

/-!
What plans can ask for. A plan that writes in place writes one whole value, and a plan that enters a
rule brings a frame in which nothing has happened yet.
-/

namespace GrammarMachine

variable {σ : Type} {n : Nat} {T : Type} [Tape T]

def textTags (text : String) : List Tag :=
  if text.isEmpty then [] else [.literal text]

theorem mem_textTags {text : String} {tag : Tag} (h : tag ∈ textTags text) :
    tag = .literal text := by
  unfold textTags at h
  split at h
  · cases h
  · exact List.mem_singleton.mp h

/-- The rows of tags that stand for one value and are written in place over a tape. -/
inductive Placed (tape : T) : List Tag → Prop where
  | text {r : Recognizer} {text : String} : Tape.recognize tape r = .ok (some text) →
      text.isEmpty = false → Placed tape [.literal text]
  | gap (slot : Slot) : (Tape.cursor tape).atGap = true → Placed tape (slotTags tape slot ++ [.gap])
  | null (slot : Slot) : Tape.hasReference tape slot.name = false → slot.isArray = false →
      Placed tape (slotTags tape slot ++ [.null])
  | array (slot : Slot) : Tape.hasReference tape slot.name = false → Placed tape (arrayTags slot)
  | token {r : Recognizer} {text : String} (slot : Slot) (traits : NodeTraits)
      (url nodeType : String) (attributes : Fields) : Tape.recognize tape r = .ok (some text) →
      Placed tape (slotTags tape slot ++ [.openNode traits url nodeType attributes] ++
        textTags text ++ [.closeNode])

theorem Placed.ne_nil {tape : T} {tags : List Tag} (h : Placed tape tags) : tags ≠ [] := by
  cases h <;> simp [arrayTags]

/-- What is known of a rule that is to be entered from a frame. -/
structure Entry.Fits (m : Machine σ n) (tape : T) (top : Frame σ n) (a : Attempt) (tail : Bool)
    (e : Entry σ n) : Prop where
  capture : e.frame.capture = {}
  branched : e.frame.branched = false
  returning : e.frame.returning = false
  policy : e.frame.policy = a.verb.policy
  /-- The node is opened by a tag exactly if the frame stands for one. -/
  opening : (e.frame.isNode = false ∧ e.opening = none) ∨
    (e.frame.isNode = true ∧ ∃ traits url nodeType attributes,
      e.opening = some (.openNode traits url nodeType attributes))
  adopts : ∀ name, e.adopts = some name →
    a.verb.isHold = true ∧ (Tape.lastTag? tape).any Tag.completesValue = true
  replaces : e.replaces = true →
    tail = true ∧ a.verb.policy = Verb.eat.policy ∧ top.isTransparent = true
  returns : e.returns = (tail && !e.replaces)
  rule : ∃ rule, (m.catalog e.frame.language).grammar.rule? e.frame.nodeType = some rule ∧
    e.frame.production = rule e.invocation

/-- Whether a match of the form has a value. -/
def Form.valued : Form → Bool
  | .null | .array => false
  | _ => true

/-- Whether an error says that the grammar asks for something that makes no sense. The other errors
depend on the input and on the depth limit. -/
def ParseError.blamesGrammar : ParseError → Bool
  | .failed _ | .emptyMatch _ | .incomplete .. | .depthExceeded _ => false
  | _ => true

/-- Whether an outcome blames the grammar. -/
def Outcome.blamesGrammar : Outcome → Bool
  | .rejected error => error.blamesGrammar
  | _ => false

/-- The ends that a plan can bring about: the grammar is to blame, or the text could not be read. -/
def Outcome.FromPlan (tape : T) (outcome : Outcome) : Prop :=
  (∃ cause : ParseError, outcome = .rejected cause ∧ cause.blamesGrammar = true) ∨
    ∃ r fault, Tape.recognize tape r = .error fault ∧ outcome = .faulted fault

namespace Machine

theorem mapError_ok {ε ε' α : Type} (f : ε → ε') (a : α) :
    (Except.ok a : Except ε α).mapError f = .ok a :=
  rfl

theorem mapError_eq_ok {ε ε' α : Type} {f : ε → ε'} {x : Except ε α} {a : α} :
    x.mapError f = .ok a ↔ x = .ok a := by
  cases x with
  | ok b => rw [mapError_ok, Except.ok.injEq, Except.ok.injEq]
  | error cause =>
      constructor
      · rintro ⟨⟩
      · rintro ⟨⟩

theorem mapError_eq_error {ε ε' α : Type} {f : ε → ε'} {x : Except ε α} {e : ε'} :
    x.mapError f = .error e ↔ ∃ cause, x = .error cause ∧ f cause = e := by
  cases x with
  | ok b =>
      constructor
      · rintro ⟨⟩
      · rintro ⟨cause, ⟨⟩, -⟩
  | error cause =>
      constructor
      · intro h
        exact ⟨cause, rfl, Except.error.inj h⟩
      · rintro ⟨cause, ⟨⟩, rfl⟩
        rfl

theorem bind_eq_ok {ε α β : Type} {x : Except ε α} {f : α → Except ε β} {b : β} :
    x >>= f = .ok b ↔ ∃ a, x = .ok a ∧ f a = .ok b := by
  cases x <;> simp [bind, Except.bind]

theorem bind_eq_error {ε α β : Type} {x : Except ε α} {f : α → Except ε β} {e : ε} :
    x >>= f = .error e ↔ x = .error e ∨ ∃ a, x = .ok a ∧ f a = .error e := by
  cases x <;> simp [bind, Except.bind]

/-- The slot of a node. One that holds a value takes over the slot of a transparent frame. -/
def nodeSlot (top : Frame σ n) (a : Attempt) (own : Slot) : Except Outcome Slot :=
  if a.verb.isHold then .ok (if top.isTransparent then top.slot else .anonymous)
  else (top.slotFor own).mapError .rejected

/-- Whether a gap stands for the node. -/
def interpolates (m : Machine σ n) (tape : T) (a : Attempt) (node : NodeGoal) (own : Slot)
    (place : Fin n) : Bool :=
  (Tape.cursor tape).atGap && m.options.allowGaps && !node.traits.trivia &&
    ((m.catalog place).grammar.isNode node.nodeType && !a.plain ||
      (m.catalog place).grammar.isCover node.nodeType) &&
    own.traits.gappy && !a.through && !a.verb.isHold

/-- Refuses what cannot be a node in the language at a place. -/
def checkNodeAt (m : Machine σ n) (tape : T) (a : Attempt) (node : NodeGoal) (place : Fin n) :
    Except ParseError Unit :=
  checkNode tape a.verb node ((m.catalog place).grammar.isNode node.nodeType && !a.plain)
    ((m.catalog place).grammar.isCover node.nodeType)

/-- The plan for a node, once the language and the text of the node are known. -/
def planFound (m : Machine σ n) (tape : T) (top : Frame σ n) (a : Attempt) (tail : Bool)
    (node : NodeGoal) (own : Slot) (place : Fin n) : Option String → Except Outcome (Plan σ n)
  | none => nodeSlot top a own >>= fun slot =>
      m.planEntry tape top a tail node own slot place none
  | some text => nodeSlot top a own >>= fun slot =>
      if node.traits.token then .ok (planToken tape (m.catalog place) node slot text)
      else m.planEntry tape top a tail node own slot place (some text)

theorem planNode_eq (m : Machine σ n) (tape : T) (top : Frame σ n) (a : Attempt) (tail : Bool)
    (node : NodeGoal) (own : Slot) :
    m.planNode tape top a tail node own =
      ((m.index.resolve m.catalog top.scope node.language).mapError .rejected >>= fun place =>
        (m.checkNodeAt tape a node place).mapError .rejected >>= fun _ =>
          if m.interpolates tape a node own place then m.planGap tape top own
          else
            match node.intrinsic with
            | none => m.planFound tape top a tail node own place none
            | some r => (Tape.recognize tape r).mapError .faulted >>= fun found =>
                match found with
                | none => .ok (.miss none)
                | some text => m.planFound tape top a tail node own place (some text)) := by
  refine congrArg (_ >>= ·) (funext fun place => congrArg (_ >>= ·) (funext fun _ => ?_))
  refine ite_congr rfl (fun _ => rfl) (fun _ => ?_)
  cases node.intrinsic with
  | none =>
      unfold planFound nodeSlot
      split <;> rfl
  | some r =>
      refine congrArg (_ >>= ·) (funext fun found => ?_)
      rcases found with _ | text
      · rfl
      · unfold planFound nodeSlot
        cases node.traits.token <;> cases a.verb.isHold <;> rfl

/-- The four things that may be planned for a node, in the language that is meant. -/
theorem planNode_resolved {m : Machine σ n} {tape : T} {top : Frame σ n} {a : Attempt} {tail : Bool}
    {node : NodeGoal} {own : Slot} {p : Plan σ n}
    (h : m.planNode tape top a tail node own = .ok p) :
    ∃ place, m.index.resolve m.catalog top.scope node.language = .ok place ∧
      m.checkNodeAt tape a node place = .ok () ∧
      (a.verb.isHold = false ∧ m.planGap tape top own = .ok p ∨ p = .miss none ∨
        (∃ r text slot, Tape.recognize tape r = .ok (some text) ∧ nodeSlot top a own = .ok slot ∧
          p = planToken tape (m.catalog place) node slot text) ∨
        ∃ slot intrinsic, nodeSlot top a own = .ok slot ∧
          m.planEntry tape top a tail node own slot place intrinsic = .ok p) := by
  rw [planNode_eq] at h
  obtain ⟨place, hplace, h⟩ := bind_eq_ok.mp h
  obtain ⟨⟨⟩, hcheck, h⟩ := bind_eq_ok.mp h
  rw [mapError_eq_ok] at hplace hcheck
  refine ⟨place, hplace, hcheck, ?_⟩
  split at h
  · rename_i hgap
    simp only [interpolates, Bool.and_eq_true, Bool.not_eq_true'] at hgap
    exact .inl ⟨hgap.2, h⟩
  · refine .inr ?_
    split at h
    · obtain ⟨slot, hslot, h⟩ := bind_eq_ok.mp h
      exact .inr (.inr ⟨slot, none, hslot, h⟩)
    · rename_i r _
      obtain ⟨found, hfound, h⟩ := bind_eq_ok.mp h
      rw [mapError_eq_ok] at hfound
      rcases found with _ | text
      · cases h
        exact .inl rfl
      · obtain ⟨slot, hslot, h⟩ := bind_eq_ok.mp h
        split at h
        · cases h
          exact .inr (.inl ⟨r, text, slot, hfound, hslot, rfl⟩)
        · exact .inr (.inr ⟨slot, _, hslot, h⟩)

/-- The goal of a matching instruction: a gap asked for by the outermost frame stands for the goal
of the machine. -/
def goalFor (m : Machine σ n) (top : Frame σ n) (a : Attempt) : Goal :=
  match a.goal.form with
  | .gap => if top.isFragment then m.goal else a.goal
  | _ => a.goal

def planForm (m : Machine σ n) (tape : T) (top : Frame σ n) (a : Attempt) (tail : Bool)
    (goal : Goal) : Except Outcome (Plan σ n) :=
  match goal.form with
  | .literal text => planText tape (.literal text) (m.ownSlot goal)
  | .pattern p => planText tape (.pattern p) (m.ownSlot goal)
  | .gap => m.planGap tape top (m.ownSlot goal)
  | .null => planNull tape top (m.ownSlot goal)
  | .array => planArray tape top (m.ownSlot goal)
  | .node node => m.planNode tape top a tail node (m.ownSlot goal)

theorem plan_eq (m : Machine σ n) (tape : T) (top : Frame σ n) (a : Attempt) (tail : Bool) :
    m.plan tape top a tail =
      if a.verb.isHold && !tail then
        .error (.rejected (.invalidHold a.goal.display .notReturned))
      else if a.verb.isHold && (m.goalFor top a).node?.isNone then
        .error (.rejected (.invalidHold (m.goalFor top a).display .notNode))
      else m.planForm tape top a tail (m.goalFor top a) := by
  simp only [plan, bind, Except.bind]
  rfl

theorem plan_eq_ok {m : Machine σ n} {tape : T} {top : Frame σ n} {a : Attempt} {tail : Bool}
    {p : Plan σ n} (h : m.plan tape top a tail = .ok p) :
    m.planForm tape top a tail (m.goalFor top a) = .ok p := by
  rw [plan_eq] at h
  split at h
  · cases h
  split at h
  · cases h
  exact h

section Places

variable {m : Machine σ n} {tape : T} {top : Frame σ n} {a : Attempt} {tail : Bool}
  {tags : List Tag} {value : Option (String × Position)}

/-- What is written in place for an attempt, with the name and the end of its value. -/
inductive Places (m : Machine σ n) (tape : T) (top : Frame σ n) (a : Attempt) :
    List Tag → Option (String × Position) → Prop where
  | text {r : Recognizer} {text : String} (name : String) :
      (m.goalFor top a).form.valued = true → Tape.recognize tape r = .ok (some text) →
      Places m tape top a (textTags text)
        (some (name, (Tape.cursor tape).position.skip text.utf8ByteSize))
  | gap {slot : Slot} : (m.goalFor top a).form.valued = true → m.options.allowGaps = true →
      (Tape.cursor tape).atGap = true → nodeSlot top a (m.ownSlot (m.goalFor top a)) = .ok slot →
      Places m tape top a (slotTags tape slot ++ [.gap])
        (some (slot.name, (Tape.cursor tape).position.skipGap))
  | filled {slot : Slot} : (m.goalFor top a).form.valued = false →
      nodeSlot top a (m.ownSlot (m.goalFor top a)) = .ok slot →
      Tape.hasReference tape slot.name = true → Places m tape top a [] none
  | null {slot : Slot} : (m.goalFor top a).form.valued = false →
      nodeSlot top a (m.ownSlot (m.goalFor top a)) = .ok slot →
      Tape.hasReference tape slot.name = false → slot.isArray = false →
      Places m tape top a (slotTags tape slot ++ [.null]) none
  | array {slot : Slot} : (m.goalFor top a).form.valued = false →
      nodeSlot top a (m.ownSlot (m.goalFor top a)) = .ok slot →
      Tape.hasReference tape slot.name = false → Places m tape top a (arrayTags slot) none
  | token {node : NodeGoal} {place : Fin n} {r : Recognizer} {text : String} {slot : Slot}
      (attributes : Fields) : (m.goalFor top a).form = .node node →
      m.index.resolve m.catalog top.scope node.language = .ok place →
      Tape.recognize tape r = .ok (some text) →
      nodeSlot top a (m.ownSlot (m.goalFor top a)) = .ok slot →
      Places m tape top a
        (slotTags tape slot ++
          [.openNode node.traits (m.catalog place).url node.nodeType attributes] ++
          textTags text ++ [.closeNode])
        (some (slot.name, (Tape.cursor tape).position.skip text.utf8ByteSize))

theorem not_isHold_of_form {p : Plan σ n} (h : m.plan tape top a tail = .ok p)
    (hnode : (m.goalFor top a).node? = none) : a.verb.isHold = false := by
  rw [plan_eq, hnode] at h
  rcases hhold : a.verb.isHold with _ | _
  · rfl
  · rw [hhold] at h
    cases tail <;> cases h

theorem nodeSlot_of_slotFor {own : Slot} (hhold : a.verb.isHold = false) :
    nodeSlot top a own = (top.slotFor own).mapError .rejected := by
  simp only [nodeSlot, hhold, Bool.false_eq_true, if_false]

theorem planText_places {r : Recognizer} {own : Slot}
    (hvalued : (m.goalFor top a).form.valued = true)
    (h : planText tape r own = (.ok (.place tags value) : Except Outcome (Plan σ n))) :
    m.Places tape top a tags value := by
  obtain ⟨found, hfound, h⟩ := bind_eq_ok.mp h
  rw [mapError_eq_ok] at hfound
  rcases found with _ | text
  · cases h
  · cases h
    exact .text own.name hvalued hfound

theorem planGap_places (hvalued : (m.goalFor top a).form.valued = true)
    (hhold : a.verb.isHold = false)
    (h : m.planGap tape top (m.ownSlot (m.goalFor top a)) = .ok (.place tags value)) :
    m.Places tape top a tags value := by
  simp only [planGap] at h
  split at h
  · rename_i hgap
    obtain ⟨hallowed, hgap⟩ := Bool.and_eq_true_iff.mp hgap
    obtain ⟨slot, hslot, h⟩ := bind_eq_ok.mp h
    cases h
    exact .gap hvalued hallowed hgap ((nodeSlot_of_slotFor hhold).trans hslot)
  · cases h

theorem planNull_places (hvalued : (m.goalFor top a).form.valued = false)
    (hhold : a.verb.isHold = false)
    (h : planNull tape top (m.ownSlot (m.goalFor top a)) =
      (.ok (.place tags value) : Except Outcome (Plan σ n))) : m.Places tape top a tags value := by
  obtain ⟨slot, hslot, h⟩ := bind_eq_ok.mp h
  replace hslot := (nodeSlot_of_slotFor hhold).trans hslot
  cases h
  split
  · exact .filled hvalued hslot ‹_›
  · rename_i hnew
    rw [Bool.not_eq_true] at hnew
    split
    · exact .array hvalued hslot hnew
    · rename_i harray
      exact .null hvalued hslot hnew (Bool.eq_false_iff.mpr harray)

theorem planArray_places (hvalued : (m.goalFor top a).form.valued = false)
    (hhold : a.verb.isHold = false)
    (h : planArray tape top (m.ownSlot (m.goalFor top a)) =
      (.ok (.place tags value) : Except Outcome (Plan σ n))) : m.Places tape top a tags value := by
  obtain ⟨slot, hslot, h⟩ := bind_eq_ok.mp h
  replace hslot := (nodeSlot_of_slotFor hhold).trans hslot
  cases h
  split
  · exact .filled hvalued hslot ‹_›
  · rename_i hnew
    exact .array hvalued hslot (Bool.eq_false_iff.mpr hnew)

theorem planNode_places {node : NodeGoal} (hform : (m.goalFor top a).form = .node node)
    (h : m.planNode tape top a tail node (m.ownSlot (m.goalFor top a)) =
      .ok (.place tags value)) : m.Places tape top a tags value := by
  obtain ⟨place, hplace, -, ⟨hhold, h⟩ | h | ⟨r, text, slot, hread, hslot, h⟩ |
    ⟨slot, intrinsic, -, h⟩⟩ := planNode_resolved h
  · exact planGap_places (congrArg Form.valued hform) hhold h
  · cases h
  · unfold planToken at h
    split at h
    · cases h
    · cases h
      exact .token _ hform hplace hread hslot
  · obtain ⟨rule, -, h⟩ := bind_eq_ok.mp h
    cases h

/-- All that a plan can write in place, and when. -/
theorem plan_places (h : m.plan tape top a tail = .ok (.place tags value)) :
    m.Places tape top a tags value := by
  have hplan := plan_eq_ok h
  have hhold : (m.goalFor top a).node? = none → a.verb.isHold = false := not_isHold_of_form h
  unfold planForm at hplan
  split at hplan
  · rename_i hform
    exact planText_places (congrArg Form.valued hform) hplan
  · rename_i hform
    exact planText_places (congrArg Form.valued hform) hplan
  · rename_i hform
    exact planGap_places (congrArg Form.valued hform) (hhold (by simp only [Goal.node?, hform]))
      hplan
  · rename_i hform
    exact planNull_places (congrArg Form.valued hform) (hhold (by simp only [Goal.node?, hform]))
      hplan
  · rename_i hform
    exact planArray_places (congrArg Form.valued hform) (hhold (by simp only [Goal.node?, hform]))
      hplan
  · rename_i hform
    exact planNode_places hform hplan

/-- What a plan writes in place is one whole value. -/
theorem plan_place (h : m.plan tape top a tail = .ok (.place tags value)) :
    tags = [] ∨ Placed tape tags := by
  cases plan_places h with
  | @text r text name _ hread =>
      unfold textTags
      split
      · exact .inl rfl
      · rename_i hempty
        exact .inr (.text hread (Bool.eq_false_iff.mpr hempty))
  | gap _ _ hgap _ => exact .inr (.gap _ hgap)
  | filled => exact .inl rfl
  | null _ _ hnew harray => exact .inr (.null _ hnew harray)
  | array _ _ hnew => exact .inr (.array _ hnew)
  | token attributes _ _ hread _ => exact .inr (.token _ _ _ _ attributes hread)

theorem isSome_of_plan (h : m.plan tape top a tail = .ok (.place tags value)) :
    value.isSome = (m.goalFor top a).form.valued := by
  cases plan_places h with
  | text _ hvalued _ => exact hvalued.symm
  | gap hvalued _ _ _ => exact hvalued.symm
  | filled hvalued _ _ => exact hvalued.symm
  | null hvalued _ _ _ => exact hvalued.symm
  | array hvalued _ _ => exact hvalued.symm
  | token _ hform _ _ _ => exact (congrArg Form.valued hform).symm

end Places

theorem checkNode_hold {tape : T} {verb : Verb} {node : NodeGoal} {isNode isCover : Bool}
    (h : checkNode tape verb node isNode isCover = .ok ()) (hhold : verb.isHold = true) :
    (Tape.lastTag? tape).any Tag.completesValue = true := by
  simp only [checkNode, hhold, bind, Except.bind, pure, Except.pure] at h
  repeat' split at h
  all_goals simp_all

theorem rule?_of_production {language : Language σ n} {nodeType : String} {rule : Rule σ}
    (h : language.production nodeType = .ok rule) :
    language.grammar.rule? nodeType = some rule := by
  unfold Language.production at h
  split at h
  · rename_i hrule
    cases h
    exact hrule
  · cases h

theorem planEntry_fits {m : Machine σ n} {tape : T} {top : Frame σ n} {a : Attempt} {tail : Bool}
    {node : NodeGoal} {own slot : Slot} {place : Fin n} {intrinsic : Option String} {e : Entry σ n}
    {isNode isCover : Bool} (hcheck : checkNode tape a.verb node isNode isCover = .ok ())
    (h : m.planEntry tape top a tail node own slot place intrinsic = .ok (.enter e)) :
    e.Fits m tape top a tail := by
  obtain ⟨rule, hrule, h⟩ := bind_eq_ok.mp h
  rw [mapError_eq_ok] at hrule
  simp only [pure, Except.pure, Except.ok.injEq, Plan.enter.injEq] at h
  subst h
  refine ⟨rfl, rfl, rfl, rfl, ?_, ?_, ?_, rfl, rule, rule?_of_production hrule, rfl⟩
  · by_cases hnode : ((m.catalog place).grammar.isNode node.nodeType && !a.plain) = true
    · exact .inr ⟨hnode, by simp [hnode]⟩
    · rw [Bool.not_eq_true] at hnode
      exact .inl ⟨hnode, by simp [hnode]⟩
  · intro name hname
    by_cases hhold : a.verb.isHold = true
    · exact ⟨hhold, checkNode_hold hcheck hhold⟩
    · simp [hhold] at hname
  · intro hreplaces
    simpa [and_assoc] using hreplaces

theorem planGap_ne_enter {m : Machine σ n} {tape : T} {top : Frame σ n} {own : Slot}
    {e : Entry σ n} : m.planGap tape top own ≠ .ok (.enter e) := by
  intro h
  simp only [planGap] at h
  split at h
  · obtain ⟨slot, -, h⟩ := bind_eq_ok.mp h
    cases h
  · cases h

theorem planText_ne_enter {tape : T} {r : Recognizer} {own : Slot} {e : Entry σ n} :
    planText tape r own ≠ .ok (.enter e) := by
  intro h
  obtain ⟨found, -, h⟩ := bind_eq_ok.mp h
  rcases found with _ | text <;> cases h

/-- A rule is entered only for a node, in the language that is meant and for the slot of the
node. -/
theorem plan_enter_planEntry {m : Machine σ n} {tape : T} {top : Frame σ n} {a : Attempt}
    {tail : Bool} {e : Entry σ n} (h : m.plan tape top a tail = .ok (.enter e)) :
    ∃ node place slot intrinsic, (m.goalFor top a).form = .node node ∧
      m.index.resolve m.catalog top.scope node.language = .ok place ∧
      m.checkNodeAt tape a node place = .ok () ∧
      nodeSlot top a (m.ownSlot (m.goalFor top a)) = .ok slot ∧
      m.planEntry tape top a tail node (m.ownSlot (m.goalFor top a)) slot place intrinsic =
        .ok (.enter e) := by
  replace h := plan_eq_ok h
  unfold planForm at h
  split at h
  · exact absurd h planText_ne_enter
  · exact absurd h planText_ne_enter
  · exact absurd h planGap_ne_enter
  · obtain ⟨slot, -, h⟩ := bind_eq_ok.mp h
    cases h
  · obtain ⟨slot, -, h⟩ := bind_eq_ok.mp h
    cases h
  · rename_i node hform
    obtain ⟨place, hplace, hcheck,
      ⟨-, h⟩ | h | ⟨r, text, slot, -, -, h⟩ | ⟨slot, intrinsic, hslot, h⟩⟩ :=
      planNode_resolved h
    · exact absurd h planGap_ne_enter
    · cases h
    · unfold planToken at h
      split at h <;> cases h
    · exact ⟨node, place, slot, intrinsic, hform, hplace, hcheck, hslot, h⟩

/-- A plan that enters a rule brings a frame in which nothing has happened yet. -/
theorem plan_enter {m : Machine σ n} {tape : T} {top : Frame σ n} {a : Attempt} {tail : Bool}
    {e : Entry σ n} (h : m.plan tape top a tail = .ok (.enter e)) : e.Fits m tape top a tail := by
  obtain ⟨node, place, slot, intrinsic, -, -, hcheck, -, h⟩ := plan_enter_planEntry h
  exact planEntry_fits hcheck h

theorem slotFor_error {top : Frame σ n} {own : Slot} {cause : ParseError}
    (h : top.slotFor own = .error cause) : cause.blamesGrammar = true := by
  simp only [Frame.slotFor, Slot.merge] at h
  repeat' split at h
  all_goals cases h
  rfl

theorem resolve_error {index : LanguageIndex n} {catalog : Catalog σ n} {scope : List (Fin n)}
    {reference : Option String} {cause : ParseError}
    (h : index.resolve catalog scope reference = .error cause) : cause.blamesGrammar = true := by
  simp only [LanguageIndex.resolve] at h
  repeat' split at h
  all_goals cases h
  rfl

theorem checkNode_error {tape : T} {verb : Verb} {node : NodeGoal} {isNode isCover : Bool}
    {cause : ParseError} (h : checkNode tape verb node isNode isCover = .error cause) :
    cause.blamesGrammar = true := by
  simp only [checkNode, bind, Except.bind, pure, Except.pure] at h
  repeat' split at h
  all_goals cases h
  all_goals rfl

theorem production_error {language : Language σ n} {nodeType : String} {cause : ParseError}
    (h : language.production nodeType = .error cause) : cause.blamesGrammar = true := by
  unfold Language.production at h
  split at h
  · cases h
  · cases h
    rfl

theorem blamesGrammar_of_rejected {α : Type} {x : Except ParseError α} {outcome : Outcome}
    (hx : ∀ cause, x = .error cause → cause.blamesGrammar = true)
    (h : x.mapError .rejected = .error outcome) : outcome.blamesGrammar = true := by
  obtain ⟨cause, hcause, rfl⟩ := mapError_eq_error.mp h
  exact hx cause hcause

theorem fromPlan_of_blamesGrammar {tape : T} {outcome : Outcome}
    (h : outcome.blamesGrammar = true) : outcome.FromPlan tape := by
  cases outcome with
  | rejected cause => exact .inl ⟨cause, rfl, h⟩
  | accepted extent => cases h
  | faulted fault => cases h

theorem planText_error {tape : T} {r : Recognizer} {own : Slot} {outcome : Outcome}
    (h : (planText tape r own : Except Outcome (Plan σ n)) = .error outcome) :
    outcome.FromPlan tape := by
  rcases bind_eq_error.mp h with h | ⟨found, -, h⟩
  · obtain ⟨fault, hfault, rfl⟩ := mapError_eq_error.mp h
    exact .inr ⟨r, fault, hfault, rfl⟩
  · rcases found with _ | text <;> cases h

theorem slot_bind_error {tape : T} {top : Frame σ n} {own : Slot} {outcome : Outcome}
    {f : Slot → Except Outcome (Plan σ n)} (hf : ∀ slot, f slot ≠ .error outcome)
    (h : (top.slotFor own).mapError .rejected >>= f = .error outcome) :
    outcome.FromPlan tape := by
  rcases bind_eq_error.mp h with h | ⟨slot, -, h⟩
  · exact fromPlan_of_blamesGrammar (blamesGrammar_of_rejected (fun _ => slotFor_error) h)
  · exact absurd h (hf slot)

theorem planGap_error {m : Machine σ n} {tape : T} {top : Frame σ n} {own : Slot}
    {outcome : Outcome} (h : m.planGap tape top own = .error outcome) : outcome.FromPlan tape := by
  simp only [planGap] at h
  split at h
  · exact slot_bind_error (fun _ => by simp [pure, Except.pure]) h
  · cases h

theorem nodeSlot_error {top : Frame σ n} {a : Attempt} {own : Slot} {outcome : Outcome}
    (h : nodeSlot top a own = .error outcome) : outcome.blamesGrammar = true := by
  unfold nodeSlot at h
  split at h
  · cases h
  · exact blamesGrammar_of_rejected (fun _ => slotFor_error) h

theorem planEntry_error {m : Machine σ n} {tape : T} {top : Frame σ n} {a : Attempt} {tail : Bool}
    {node : NodeGoal} {own slot : Slot} {place : Fin n} {intrinsic : Option String}
    {outcome : Outcome}
    (h : m.planEntry tape top a tail node own slot place intrinsic = .error outcome) :
    outcome.blamesGrammar = true := by
  rcases bind_eq_error.mp h with h | ⟨rule, -, h⟩
  · exact blamesGrammar_of_rejected (fun _ => production_error) h
  · cases h

theorem planFound_error {m : Machine σ n} {tape : T} {top : Frame σ n} {a : Attempt} {tail : Bool}
    {node : NodeGoal} {own : Slot} {place : Fin n} {intrinsic : Option String} {outcome : Outcome}
    (h : m.planFound tape top a tail node own place intrinsic = .error outcome) :
    outcome.blamesGrammar = true := by
  unfold planFound at h
  split at h
  · rcases bind_eq_error.mp h with h | ⟨slot, -, h⟩
    · exact nodeSlot_error h
    · exact planEntry_error h
  · rcases bind_eq_error.mp h with h | ⟨slot, -, h⟩
    · exact nodeSlot_error h
    · split at h
      · cases h
      · exact planEntry_error h

theorem planNode_error {m : Machine σ n} {tape : T} {top : Frame σ n} {a : Attempt} {tail : Bool}
    {node : NodeGoal} {own : Slot} {outcome : Outcome}
    (h : m.planNode tape top a tail node own = .error outcome) : outcome.FromPlan tape := by
  rw [planNode_eq] at h
  rcases bind_eq_error.mp h with h | ⟨place, -, h⟩
  · exact fromPlan_of_blamesGrammar (blamesGrammar_of_rejected (fun _ => resolve_error) h)
  rcases bind_eq_error.mp h with h | ⟨-, -, h⟩
  · exact fromPlan_of_blamesGrammar (blamesGrammar_of_rejected (fun _ => checkNode_error) h)
  split at h
  · exact planGap_error h
  split at h
  · exact fromPlan_of_blamesGrammar (planFound_error h)
  · rename_i r _
    rcases bind_eq_error.mp h with h | ⟨found, -, h⟩
    · obtain ⟨fault, hfault, rfl⟩ := mapError_eq_error.mp h
      exact .inr ⟨r, fault, hfault, rfl⟩
    · rcases found with _ | text
      · cases h
      · exact fromPlan_of_blamesGrammar (planFound_error h)

/-- A plan is refused because of the grammar, or because the text could not be read. -/
theorem plan_error {m : Machine σ n} {tape : T} {top : Frame σ n} {a : Attempt} {tail : Bool}
    {outcome : Outcome} (h : m.plan tape top a tail = .error outcome) :
    outcome.FromPlan tape := by
  rw [plan_eq] at h
  split at h
  · cases h
    exact .inl ⟨_, rfl, rfl⟩
  split at h
  · cases h
    exact .inl ⟨_, rfl, rfl⟩
  unfold planForm at h
  split at h
  · exact planText_error h
  · exact planText_error h
  · exact planGap_error h
  · exact slot_bind_error (fun _ => by simp [pure, Except.pure]) h
  · exact slot_bind_error (fun _ => by simp [pure, Except.pure]) h
  · exact planNode_error h

/-- The entry that is planned for a node, given its rule. -/
def entry (m : Machine σ n) (tape : T) (top : Frame σ n) (a : Attempt) (tail : Bool)
    (node : NodeGoal) (own slot : Slot) (place : Fin n) (intrinsic : Option String)
    (rule : Rule σ) : Entry σ n :=
  let language := m.catalog place
  let isNode := language.grammar.isNode node.nodeType && !a.plain
  let attributes := nodeAttributes language.grammar node
  let invocation : Invocation := {
    value := a.props
    cursor := Tape.cursor tape
    language := language.url
    nodeType := node.nodeType
    attributes
    intrinsic
    unbound := language.grammar.unboundOf node.nodeType }
  let replaces := tail && a.verb.policy = Verb.eat.policy && top.isTransparent
  { frame := {
      language := place
      scope := top.scopeFor place isNode
      nodeType := node.nodeType
      isNode
      isCover := language.grammar.isCover node.nodeType
      policy := a.verb.policy
      production := rule invocation
      slot
      allowEmpty := language.grammar.isEmptyable node.nodeType }
    invocation
    replaces
    returns := tail && !replaces
    adopts := if a.verb.isHold then some own.name else none
    opening :=
      if isNode then
        some (.openNode { node.traits with gappy := m.options.allowGaps && !node.traits.token }
          language.url node.nodeType attributes)
      else none }

theorem planEntry_eq {m : Machine σ n} {tape : T} {top : Frame σ n} {a : Attempt} {tail : Bool}
    {node : NodeGoal} {own slot : Slot} {place : Fin n} {intrinsic : Option String} {rule : Rule σ}
    (hrule : (m.catalog place).grammar.rule? node.nodeType = some rule) :
    m.planEntry tape top a tail node own slot place intrinsic =
      .ok (.enter (m.entry tape top a tail node own slot place intrinsic rule)) := by
  have hproduction : (m.catalog place).production node.nodeType = .ok rule := by
    simp only [Language.production, hrule]
  simp only [planEntry, hproduction]
  rfl

/-- The rule that is entered is the one of the type of the node. -/
theorem plan_enter_resolved {m : Machine σ n} {tape : T} {top : Frame σ n} {a : Attempt}
    {tail : Bool} {e : Entry σ n} (h : m.plan tape top a tail = .ok (.enter e)) :
    ∃ node slot place intrinsic rule, (m.goalFor top a).form = .node node ∧
      m.index.resolve m.catalog top.scope node.language = .ok place ∧
      nodeSlot top a (m.ownSlot (m.goalFor top a)) = .ok slot ∧
      (m.catalog place).grammar.rule? node.nodeType = some rule ∧
      e = m.entry tape top a tail node (m.ownSlot (m.goalFor top a)) slot place intrinsic rule := by
  obtain ⟨node, place, slot, intrinsic, hform, hplace, -, hslot, h⟩ := plan_enter_planEntry h
  obtain ⟨rule, hproduction, h⟩ := bind_eq_ok.mp h
  rw [mapError_eq_ok] at hproduction
  cases h
  exact ⟨node, slot, place, intrinsic, rule, hform, hplace, hslot, rule?_of_production hproduction,
    rfl⟩

section Planned

variable {m : Machine σ n} {tape : T} {top : Frame σ n} {a : Attempt} {tail : Bool} {goal : Goal}
  {node : NodeGoal} {slot : Slot} {place : Fin n}

theorem plan_form (hgoal : m.goalFor top a = goal) (hform : goal.form = .node node)
    (hhold : a.verb.isHold = true → tail = true) :
    m.plan tape top a tail = m.planNode tape top a tail node (m.ownSlot goal) := by
  have hreturned : (a.verb.isHold && !tail) = false := by
    cases hverb : a.verb.isHold
    · rfl
    · rw [hhold hverb]
      rfl
  have hnode : goal.node? = some node := by simp only [Goal.node?, hform]
  rw [plan_eq, hgoal, hreturned, hnode, Option.isNone_some, Bool.and_false]
  simp only [Bool.false_eq_true, if_false, planForm, hform]

theorem interpolates_eq_false {own : Slot}
    (h : ((Tape.cursor tape).atGap && own.traits.gappy) = false) :
    m.interpolates tape a node own place = false := by
  unfold interpolates
  rcases Bool.and_eq_false_iff.mp h with h | h
  · simp only [h, Bool.false_and]
  · simp only [h, Bool.and_false, Bool.false_and]

theorem plan_node {rule : Rule σ} (hgoal : m.goalFor top a = goal)
    (hform : goal.form = .node node) (hhold : a.verb.isHold = true → tail = true)
    (hresolve : m.index.resolve m.catalog top.scope node.language = .ok place)
    (hcheck : m.checkNodeAt tape a node place = .ok ())
    (hgap : m.interpolates tape a node (m.ownSlot goal) place = false)
    (hintrinsic : node.intrinsic = none) (hslot : nodeSlot top a (m.ownSlot goal) = .ok slot)
    (hrule : (m.catalog place).grammar.rule? node.nodeType = some rule) :
    m.plan tape top a tail =
      .ok (.enter (m.entry tape top a tail node (m.ownSlot goal) slot place none rule)) := by
  rw [plan_form hgoal hform hhold, planNode_eq, hresolve]
  simp only [mapError_ok, bind, Except.bind, hcheck, hgap, Bool.false_eq_true, if_false,
    hintrinsic, planFound, hslot]
  exact planEntry_eq hrule

theorem plan_node_gap (hgoal : m.goalFor top a = goal) (hform : goal.form = .node node)
    (hresolve : m.index.resolve m.catalog top.scope node.language = .ok place)
    (hcheck : m.checkNodeAt tape a node place = .ok ())
    (hgap : m.interpolates tape a node (m.ownSlot goal) place = true)
    (hslot : top.slotFor (m.ownSlot goal) = .ok slot) :
    m.plan tape top a tail = .ok (.place (slotTags tape slot ++ [.gap])
      (some (slot.name, (Tape.cursor tape).position.skipGap))) := by
  have hgap' := hgap
  simp only [interpolates, Bool.and_eq_true, Bool.not_eq_true'] at hgap'
  obtain ⟨⟨⟨⟨⟨⟨hatGap, hallow⟩, -⟩, -⟩, -⟩, -⟩, hverb⟩ := hgap'
  rw [plan_form hgoal hform (by simp [hverb]), planNode_eq, hresolve]
  simp only [mapError_ok, bind, Except.bind, hcheck, hgap, if_true, planGap, hallow, hatGap,
    Bool.and_self, hslot]
  rfl

theorem plan_token {r : Recognizer} {found : Option String} (hgoal : m.goalFor top a = goal)
    (hform : goal.form = .node node) (hhold : a.verb.isHold = false)
    (hresolve : m.index.resolve m.catalog top.scope node.language = .ok place)
    (hcheck : m.checkNodeAt tape a node place = .ok ())
    (hgap : m.interpolates tape a node (m.ownSlot goal) place = false)
    (hintrinsic : node.intrinsic = some r) (htoken : node.traits.token = true)
    (hslot : top.slotFor (m.ownSlot goal) = .ok slot)
    (hfound : Tape.recognize tape r = .ok found) :
    m.plan tape top a tail =
      .ok (found.elim (.miss none) (planToken tape (m.catalog place) node slot)) := by
  have hslot' : nodeSlot top a (m.ownSlot goal) = .ok slot := by
    simp only [nodeSlot, hhold, Bool.false_eq_true, if_false, hslot, mapError_ok]
  rw [plan_form hgoal hform (by simp [hhold]), planNode_eq, hresolve]
  simp only [mapError_ok, bind, Except.bind, hcheck, hgap, Bool.false_eq_true, if_false,
    hintrinsic, hfound]
  cases found with
  | none => rfl
  | some text =>
      simp only [planFound, bind, Except.bind, hslot', htoken, if_true]
      rfl

theorem plan_text {r : Recognizer} {found : Option String} (hhold : a.verb.isHold = false)
    (hr : a.goal.recognizer? = some r) (hfound : Tape.recognize tape r = .ok found) :
    ∃ stop, m.plan tape top a tail =
      .ok (found.elim (.miss none) fun text => .place (textTags text) (some stop)) := by
  have hplan : m.plan tape top a tail = planText tape r (m.ownSlot a.goal) := by
    rw [plan_eq, hhold]
    unfold Goal.recognizer? at hr
    split at hr
    · rename_i hform
      cases hr
      simp only [Bool.false_and, Bool.false_eq_true, if_false, planForm, goalFor, hform]
    · rename_i hform
      cases hr
      simp only [Bool.false_and, Bool.false_eq_true, if_false, planForm, goalFor, hform]
    · cases hr
  rw [hplan, planText, hfound]
  cases found with
  | none => exact ⟨("", ⟨0, 0⟩), rfl⟩
  | some text => exact ⟨_, rfl⟩

end Planned

end Machine

end GrammarMachine
