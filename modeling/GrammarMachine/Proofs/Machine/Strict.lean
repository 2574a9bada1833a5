import GrammarMachine.Proofs.Machine.Sound

/-!
Machines that allow no gaps. Over an input without gaps they do what machines do that allow them,
but that nothing they write permits a gap; over any other input they accept nothing.
-/

namespace GrammarMachine

variable {σ : Type} {n : Nat}

def Slot.strict (s : Slot) : Slot :=
  { s with traits := { s.traits with gappy := false } }

/-- The tag without the permission of gaps. That of a token is asked for by the grammar itself. -/
def Tag.strict : Tag → Tag
  | .openFragment traits => .openFragment { traits with gappy := false }
  | .openNode traits url nodeType attributes =>
      .openNode { traits with gappy := traits.token && traits.gappy } url nodeType attributes
  | .reference slot => .reference slot.strict
  | tag => tag

theorem Tag.strict_token {traits : NodeTraits} (h : traits.token = true) (url nodeType : String)
    (attributes : Fields) :
    (Tag.openNode traits url nodeType attributes).strict =
      .openNode traits url nodeType attributes := by
  rcases traits with ⟨token, trivia, escape, gappy⟩
  cases h
  simp [strict]

def ParseError.strict : ParseError → ParseError
  | .conflictingSlots outer inner => .conflictingSlots outer.strict inner.strict
  | error => error

def Outcome.strict : Outcome → Outcome
  | .rejected error => .rejected error.strict
  | outcome => outcome

def Frame.strict (f : Frame σ n) : Frame σ n :=
  { f with slot := f.slot.strict }

def Draft.strict (d : Draft) : Draft :=
  { d with tags := d.tags.map Tag.strict }

def Entry.strict (e : Entry σ n) : Entry σ n :=
  { e with frame := e.frame.strict, opening := e.opening.map Tag.strict }

def Plan.strict : Plan σ n → Plan σ n
  | .miss emptied => .miss emptied
  | .place tags value => .place (tags.map Tag.strict) value
  | .enter e => .enter e.strict

def Config.strict (c : Config σ n) : Config σ n :=
  { c with frames := c.frames.map Frame.strict, tape := c.tape.strict }

def Result.strict : Result σ n → Result σ n
  | .ok c => .ok c.strict
  | .error (d, outcome) => .error (d.strict, outcome.strict)

/-- The machine that allows no gaps. -/
def Machine.strict (m : Machine σ n) : Machine σ n :=
  { m with options := { m.options with allowGaps := false } }

/-- What is decided, without the permission of gaps. -/
def strictly {α : Type} (f : α → α) : Except Outcome α → Except Outcome α
  | .ok a => .ok (f a)
  | .error outcome => .error outcome.strict

theorem strictly_bind {α β : Type} {x y : Except Outcome α} {f : α → α} {g : β → β}
    {k l : α → Except Outcome β} (hx : y = strictly f x)
    (hk : ∀ a, x = .ok a → l (f a) = strictly g (k a)) :
    (y >>= l) = strictly g (x >>= k) := by
  subst hx
  rcases x with outcome | a
  · rfl
  · exact hk a rfl

namespace Draft

theorem cursor_strict (d : Draft) : Tape.cursor d.strict = Tape.cursor d := rfl

theorem recognize_strict (d : Draft) (r : Recognizer) :
    Tape.recognize d.strict r = Tape.recognize d r := rfl

theorem hasReference_strict (d : Draft) (name : String) :
    Tape.hasReference d.strict name = Tape.hasReference d name := rfl

theorem mark_strict (d : Draft) : Tape.mark d.strict = Tape.mark d := by
  change Mark.mk (d.tags.map Tag.strict).size d.position = Mark.mk d.tags.size d.position
  rw [Array.size_map]

theorem any_lastTag?_strict (d : Draft) {p : Tag → Bool} (hp : ∀ tag, p tag.strict = p tag) :
    (Tape.lastTag? d.strict).any p = (Tape.lastTag? d).any p := by
  change (d.tags.map Tag.strict).back?.any p = d.tags.back?.any p
  rw [Array.back?_map, Option.any_map]
  exact congrArg (d.tags.back?.any ·) (funext hp)

theorem advance_strict (d : Draft) (tag : Tag) :
    d.strict.advance tag.strict = (d.advance tag).strict := by
  have hposition : positionAfter d.position tag.strict = positionAfter d.position tag := by
    cases tag <;> rfl
  have hopened : ∀ index,
      openedAfter d.opened index tag.strict = openedAfter d.opened index tag := by
    intro index
    cases tag <;> rfl
  simp only [advance, strict, hposition, hopened, Array.size_map, Array.map_push]

theorem advanceAll_strict (d : Draft) (tags : List Tag) :
    d.strict.advanceAll (tags.map Tag.strict) = (d.advanceAll tags).strict := by
  induction tags generalizing d with
  | nil => rfl
  | cons tag tags ih =>
      rw [List.map_cons, advanceAll_cons, advanceAll_cons, advance_strict, ih]

theorem branchIf_strict (d : Draft) (wanted : Bool) :
    d.strict.branchIf wanted = (d.branchIf wanted).strict := by
  cases wanted
  · rfl
  · simp only [branchIf, perform, snapshot, strict, if_true, Array.size_map]

theorem reject_strict (d : Draft) : d.strict.reject = d.reject.strict := by
  rcases hbranches : d.branches with _ | ⟨s, rest⟩
  · simp only [reject, strict, hbranches]
  · have hshrink : (d.tags.map Tag.strict).shrink s.tagCount =
        (d.tags.shrink s.tagCount).map Tag.strict := by
      apply Array.toList_inj.mp
      simp
    simp only [reject, strict, hbranches, restore, hshrink]

theorem bind_strict (d : Draft) (key : String) (value : Json) :
    d.strict.bind key value = (d.bind key value).strict := by
  rcases d with ⟨source, language, position, tags, opened, writes, spans, bindings, branches⟩
  rcases opened with _ | ⟨node, outer⟩ <;> rfl

end Draft

theorem slotTags_strict (d : Draft) (slot : Slot) :
    slotTags d.strict slot.strict = (slotTags d slot).map Tag.strict := by
  have hshift := d.any_lastTag?_strict (p := Tag.isShift) (fun tag => by cases tag <;> rfl)
  have harray : slot.strict.isArray = slot.isArray := rfl
  have hname : slot.strict.name = slot.name := rfl
  simp only [slotTags, hshift, Draft.hasReference_strict, harray, hname]
  split
  · rfl
  · split <;> rfl

namespace Frame

variable (f : Frame σ n)

theorem slotFor_strict (own : Slot) :
    (f.strict.slotFor own.strict).mapError .rejected =
      strictly Slot.strict ((f.slotFor own).mapError .rejected) := by
  have htransparent : f.strict.isTransparent = f.isTransparent := rfl
  have hslot : f.strict.slot = f.slot.strict := rfl
  have houter : f.slot.strict.isAnonymous = f.slot.isAnonymous := rfl
  have hinner : own.strict.isAnonymous = own.isAnonymous := rfl
  have hsame : (f.slot.strict.name = own.strict.name ∧ f.slot.strict.isArray = own.strict.isArray) =
      (f.slot.name = own.name ∧ f.slot.isArray = own.isArray) := rfl
  simp only [slotFor, Slot.merge, htransparent, hslot, houter, hinner, hsame]
  split
  · split
    · rfl
    split
    · rfl
    split <;> rfl
  · rfl

end Frame

namespace Machine

variable (m : Machine σ n) (d : Draft) (top : Frame σ n)

theorem ownSlot_strict (goal : Goal) : m.strict.ownSlot goal = (m.ownSlot goal).strict := rfl

theorem planText_strict (r : Recognizer) (own : Slot) :
    (planText d.strict r own.strict : Except Outcome (Plan σ n)) =
      strictly Plan.strict (planText d r own) := by
  unfold planText
  rw [Draft.recognize_strict, Draft.cursor_strict]
  refine strictly_bind (f := id) ?_ ?_
  · rcases Tape.recognize d r with fault | found <;> rfl
  · intro found _
    rcases found with _ | text
    · rfl
    · dsimp only [id]
      split <;> rfl

theorem planNull_strict (own : Slot) :
    planNull d.strict top.strict own.strict = strictly Plan.strict (planNull d top own) := by
  unfold planNull
  refine strictly_bind (top.slotFor_strict own) ?_
  intro slot _
  have hname : slot.strict.name = slot.name := rfl
  have harray : slot.strict.isArray = slot.isArray := rfl
  simp only [Draft.hasReference_strict, hname, harray, slotTags_strict]
  split
  · rfl
  split
  · rfl
  · simp [strictly, Plan.strict, pure, Except.pure, Tag.strict]

theorem planArray_strict (own : Slot) :
    planArray d.strict top.strict own.strict = strictly Plan.strict (planArray d top own) := by
  unfold planArray
  refine strictly_bind (top.slotFor_strict own) ?_
  intro slot _
  have hname : slot.strict.name = slot.name := rfl
  simp only [Draft.hasReference_strict, hname]
  split <;> rfl

variable {d}

theorem planGap_eq_miss (hgap : (Tape.cursor d).atGap = false) (own : Slot) :
    m.planGap d top own = .ok (.miss none) := by
  simp only [planGap, hgap, Bool.and_false, Bool.false_eq_true, if_false]
  rfl

variable (d)

theorem planToken_strict (language : Language σ n) (node : NodeGoal)
    (htoken : node.traits.token = true) (slot : Slot) (text : String) :
    planToken d.strict language node slot.strict text =
      (planToken d language node slot text).strict := by
  unfold planToken
  split
  · rfl
  · have hname : slot.strict.name = slot.name := rfl
    rw [slotTags_strict, Draft.cursor_strict, hname]
    simp only [Plan.strict, List.map_append, List.map_cons, List.map_nil, Tag.strict_token htoken]
    split <;> rfl

theorem planEntry_strict (a : Attempt) (tail : Bool) (node : NodeGoal) (own slot : Slot)
    (place : Fin n) (intrinsic : Option String) :
    m.strict.planEntry d.strict top.strict a tail node own.strict slot.strict place intrinsic =
      strictly Plan.strict (m.planEntry d top a tail node own slot place intrinsic) := by
  unfold planEntry
  refine strictly_bind (f := id) ?_ ?_
  · change ((m.catalog place).production node.nodeType).mapError Outcome.rejected = _
    unfold Language.production
    split <;> rfl
  · intro rule _
    have hopening : ∀ attributes,
        Tag.strict (.openNode
          { node.traits with gappy := m.options.allowGaps && !node.traits.token }
          (m.catalog place).url node.nodeType attributes) =
        .openNode { node.traits with gappy := false && !node.traits.token } (m.catalog place).url
          node.nodeType attributes := by
      intro attributes
      cases htoken : node.traits.token <;> simp [Tag.strict, htoken]
    simp only [strictly, pure, Except.pure, Plan.strict, Entry.strict, Option.map_if, hopening]
    rfl

theorem nodeSlot_strict (a : Attempt) (own : Slot) :
    nodeSlot top.strict a own.strict = strictly Slot.strict (nodeSlot top a own) := by
  unfold nodeSlot
  split
  · have htransparent : top.strict.isTransparent = top.isTransparent := rfl
    rw [htransparent]
    split <;> rfl
  · exact top.slotFor_strict own

theorem planFound_strict (a : Attempt) (tail : Bool) (node : NodeGoal) (own : Slot) (place : Fin n)
    (intrinsic : Option String) :
    m.strict.planFound d.strict top.strict a tail node own.strict place intrinsic =
      strictly Plan.strict (m.planFound d top a tail node own place intrinsic) := by
  rcases intrinsic with _ | text
  · refine strictly_bind (nodeSlot_strict top a own) ?_
    intro slot _
    exact m.planEntry_strict d top a tail node own slot place none
  · refine strictly_bind (nodeSlot_strict top a own) ?_
    intro slot _
    split
    · rename_i htoken
      exact congrArg Except.ok (planToken_strict d (m.catalog place) node htoken slot text)
    · exact m.planEntry_strict d top a tail node own slot place (some text)

theorem checkNodeAt_strict (a : Attempt) (node : NodeGoal) (place : Fin n) :
    m.strict.checkNodeAt d.strict a node place = m.checkNodeAt d a node place := by
  have hcompletes := d.any_lastTag?_strict (p := Tag.completesValue)
    (fun tag => by cases tag <;> rfl)
  unfold checkNodeAt checkNode
  rw [hcompletes]
  rfl

theorem checkNodeAt_error_strict {m : Machine σ n} {d : Draft} {a : Attempt} {node : NodeGoal}
    {place : Fin n} {cause : ParseError} (h : m.checkNodeAt d a node place = .error cause) :
    cause.strict = cause := by
  simp only [checkNodeAt, checkNode, bind, Except.bind, pure, Except.pure] at h
  repeat' split at h
  all_goals cases h
  all_goals rfl

theorem resolve_error_strict {index : LanguageIndex n} {catalog : Catalog σ n}
    {scope : List (Fin n)} {reference : Option String} {cause : ParseError}
    (h : index.resolve catalog scope reference = .error cause) : cause.strict = cause := by
  simp only [LanguageIndex.resolve] at h
  repeat' split at h
  all_goals cases h
  rfl

theorem strictly_id {α : Type} {x : Except ParseError α}
    (h : ∀ cause, x = .error cause → cause.strict = cause) :
    x.mapError .rejected = strictly id (x.mapError .rejected) := by
  rcases x with cause | a
  · change Except.error (Outcome.rejected cause) = .error (.rejected cause.strict)
    rw [h cause rfl]
  · rfl

variable {d}

theorem planNode_strict (hgap : (Tape.cursor d).atGap = false) (a : Attempt) (tail : Bool)
    (node : NodeGoal) (own : Slot) :
    m.strict.planNode d.strict top.strict a tail node own.strict =
      strictly Plan.strict (m.planNode d top a tail node own) := by
  rw [planNode_eq, planNode_eq]
  refine strictly_bind (f := id) (strictly_id fun _ => resolve_error_strict) ?_
  intro place _
  rw [id, checkNodeAt_strict]
  refine strictly_bind (f := id) (strictly_id fun _ => checkNodeAt_error_strict) ?_
  intro _ _
  have hnone : m.interpolates d a node own place = false := by
    simp only [interpolates, hgap, Bool.false_and]
  have hnone' : m.strict.interpolates d.strict a node own.strict place = false := by
    simp only [interpolates, Draft.cursor_strict, hgap, Bool.false_and]
  simp only [hnone, hnone', Bool.false_eq_true, if_false]
  split
  · exact m.planFound_strict d top a tail node own place none
  · rename_i r _
    refine strictly_bind (f := id) ?_ ?_
    · rw [Draft.recognize_strict]
      rcases Tape.recognize d r with fault | found <;> rfl
    · intro found _
      rcases found with _ | text
      · rfl
      · exact m.planFound_strict d top a tail node own place (some text)

/-- Where there is no gap, a machine that allows none plans as one does that allows them. -/
theorem plan_strict (hgap : (Tape.cursor d).atGap = false) (a : Attempt) (tail : Bool) :
    m.strict.plan d.strict top.strict a tail = strictly Plan.strict (m.plan d top a tail) := by
  rw [plan_eq, plan_eq]
  have hgoal : m.strict.goalFor top.strict a = m.goalFor top a := rfl
  rw [hgoal]
  split
  · rfl
  split
  · rfl
  unfold planForm
  simp only [ownSlot_strict]
  split
  · exact planText_strict d _ _
  · exact planText_strict d _ _
  · rw [planGap_eq_miss _ _ hgap, planGap_eq_miss]
    · rfl
    · exact hgap
  · exact planNull_strict d top _
  · exact planArray_strict d top _
  · exact m.planNode_strict top hgap a tail _ _

end Machine

theorem Config.write_strict (c : Config σ n) (tags : List Tag) :
    c.strict.write (tags.map Tag.strict) = (c.write tags).strict := by
  have hframes : captured (Tape.mark c.tape.strict) (tags.map Tag.strict)
      (c.frames.map Frame.strict) =
        (captured (Tape.mark c.tape) tags c.frames).map Frame.strict := by
    unfold captured
    rw [Draft.mark_strict, List.isEmpty_map]
    split
    · rfl
    · exact (Stack.map_recordStart (fun _ _ => rfl) _ _).symm
  simp only [write, strict, hframes, Draft.advanceAll_strict]

theorem Entry.tags_strict (e : Entry σ n) (d : Draft) :
    e.strict.tags d.strict = (e.tags d).map Tag.strict := by
  have hshift : (e.adopts.toList.map Tag.shift).map Tag.strict = e.adopts.toList.map Tag.shift := by
    rw [List.map_map]
    rfl
  have hadvanced := d.advanceAll_strict (e.adopts.toList.map Tag.shift)
  rw [hshift] at hadvanced
  have hadopts : e.strict.adopts = e.adopts := rfl
  have hslot : e.strict.frame.slot = e.frame.slot.strict := rfl
  have hopening : e.strict.opening = e.opening.map Tag.strict := rfl
  simp only [Entry.tags, hadopts, hslot, hopening, hadvanced, slotTags_strict, List.map_append,
    hshift]
  rcases e.opening with _ | opening
  · rfl
  · simp

theorem Config.conclude_strict (d : Draft) (left : Nat) (value : Option Extent) (failing : Bool)
    (emptied : Option String) (offset : Nat) :
    conclude d.strict left value failing emptied offset =
      (conclude d left value failing emptied offset).strict := by
  have hsame : conclude d.strict left value failing emptied offset =
      conclude d left value failing emptied offset := rfl
  rw [hsame]
  unfold conclude
  repeat' split
  all_goals rfl

theorem Frame.settle_strict (f : Frame σ n) (failing : Bool) (d : Draft) :
    f.strict.settle failing d.strict = (f.settle failing d).strict := by
  have hbranched : f.strict.branched = f.branched := rfl
  have hpolicy : f.strict.policy = f.policy := rfl
  unfold Frame.settle
  rw [hbranched, hpolicy]
  split
  · split
    · exact d.reject_strict
    · rfl
  · rfl

theorem Frame.valueAt_strict (f : Frame σ n) (failing : Bool) (d : Draft) :
    f.strict.valueAt failing d.strict = f.valueAt failing d := by
  have hmark := d.mark_strict
  have hcapture : f.strict.capture = f.capture := rfl
  have hsize : d.strict.tags.size = d.tags.size := Array.size_map
  simp only [Frame.valueAt, hmark, hcapture, hsize]
  rfl

theorem Config.resumeBelow_strict (c : Config σ n) (f : Frame σ n) (value : Option Extent)
    (failing : Bool) :
    c.strict.resumeBelow f.strict value failing = (c.resumeBelow f value failing).strict := by
  have hpolicy : f.strict.policy = f.policy := rfl
  unfold resumeBelow
  rw [hpolicy]
  split
  · rfl
  · rcases c with ⟨frames, limit, tape, flow, emptied⟩
    rcases frames with _ | ⟨top, rest⟩ <;> rfl

theorem Machine.initial_strict (m : Machine σ n) (source : Source) (props : Option Json) :
    m.strict.initial source props = (m.initial source props).strict := by
  have hblank : ({ Draft.fresh source with language := some (m.catalog m.language).url } :
      Draft).strict = { Draft.fresh source with language := some (m.catalog m.language).url } := by
    simp [Draft.strict, Draft.fresh]
  simp only [initial, Config.strict, ← Draft.advanceAll_strict, hblank]
  rfl

section Moves

variable [Stepper σ]

theorem Draft.clean_strict (d : Draft) (instructions : List Instruction) :
    d.strict.clean instructions =
      match d.clean instructions with
      | .ok d => .ok d.strict
      | .error (d, other) => .error (d.strict, other) := by
  fun_induction Draft.clean d instructions with
  | case1 => rfl
  | case2 d text options rest ih => exact ih
  | case3 d other rest hother =>
      cases other with
      | write text options => exact absurd rfl (hother text options)
      | _ => rfl

theorem Frame.finish_strict (f : Frame σ n) (d : Draft) :
    f.strict.finish d.strict =
      match f.finish d with
      | .ok d => .ok d.strict
      | .error (d, outcome) => .error (d.strict, outcome.strict) := by
  have hproduction : f.strict.production = f.production := rfl
  simp only [Frame.finish, hproduction, Draft.clean_strict]
  rcases d.clean f.production.cleanup with ⟨d', other⟩ | d' <;> rfl

namespace Config

theorem finishTop_strict (c : Config σ n) (top : Frame σ n) (rest : List (Frame σ n))
    (failed : Bool) :
    c.strict.finishTop top.strict (rest.map Frame.strict) failed =
      (c.finishTop top rest failed).strict := by
  have hfails : top.strict.fails failed c.strict.tape.position =
      top.fails failed c.tape.position := rfl
  have hclosing : ∀ failing, (top.closing failing).map Tag.strict = top.closing failing := by
    intro failing
    unfold Frame.closing
    repeat' split
    all_goals rfl
  have hclosed : c.strict.tape.advanceAll (top.strict.closing (top.fails failed c.tape.position)) =
      (c.tape.advanceAll (top.closing (top.fails failed c.tape.position))).strict := by
    rw [← Draft.advanceAll_strict, hclosing]
    rfl
  have hstop : top.strict.capture.stop = top.capture.stop := rfl
  have hparent : top.strict.parent = top.parent := rfl
  simp only [finishTop, hfails, hclosed, hstop, hparent, Frame.finish_strict, List.length_map]
  split
  · rfl
  · rcases top.finish (c.tape.advanceAll (top.closing (top.fails failed c.tape.position))) with
      ⟨d, outcome⟩ | cleaned
    · rfl
    · simp only [Frame.settle_strict, Frame.valueAt_strict, conclude_strict]
      split
      · rfl
      · exact resumeBelow_strict
          ⟨rest, c.limit, top.settle (top.fails failed c.tape.position) cleaned, c.flow, _⟩ top _ _

theorem push_strict (c : Config σ n) (top : Frame σ n) (rest : List (Frame σ n)) (e : Entry σ n) :
    c.strict.push top.strict (rest.map Frame.strict) e.strict = (c.push top rest e).strict := by
  have hreplaces : e.strict.replaces = e.replaces := rfl
  have hlimit : c.strict.limit = c.limit := rfl
  unfold push
  rw [hreplaces, hlimit, List.length_map]
  split
  · have hfinish := top.finish_strict c.tape
    change top.strict.finish c.strict.tape = _ at hfinish
    rw [hfinish]
    rcases top.finish c.tape with ⟨d, outcome⟩ | tape <;> rfl
  · split
    · rfl
    · simp only [Result.strict, strict, ← Draft.branchIf_strict]
      rfl

theorem enter_strict (c : Config σ n) (top : Frame σ n) (rest : List (Frame σ n)) (e : Entry σ n) :
    c.strict.enter top.strict (rest.map Frame.strict) e.strict = (c.enter top rest e).strict := by
  unfold enter
  rw [push_strict]
  rcases c.push top rest e with ⟨d, outcome⟩ | c'
  · rfl
  · have hwritten := c'.write_strict (e.tags c'.tape)
    rw [← e.tags_strict] at hwritten
    exact congrArg (fun c : Config σ n => Except.ok { c with flow := .resume none }) hwritten

end Config

namespace Machine

theorem follow_strict (c : Config σ n) (top : Frame σ n) (rest : List (Frame σ n))
    (policy : Policy) (tail : Bool) (plan : Plan σ n) :
    follow c.strict top.strict (rest.map Frame.strict) policy tail plan.strict =
      (follow c top rest policy tail plan).strict := by
  cases plan with
  | miss emptied => rfl
  | place tags value =>
      have hwritten := c.write_strict (if policy.keeps then tags else [])
      have htags : (if policy.keeps then tags else []).map Tag.strict =
          if policy.keeps then tags.map Tag.strict else [] := by
        split <;> rfl
      rw [htags] at hwritten
      have hsize : ∀ d : Draft, d.strict.tags.size = d.tags.size := fun d => Array.size_map
      have hbefore := hsize c.tape
      have hafter := hsize (c.write (if policy.keeps then tags else [])).tape
      simp only [follow, Plan.strict, hwritten, Result.strict]
      simp only [Config.strict, hbefore, hafter]
      rfl
  | enter e => exact c.enter_strict top rest e

theorem obey_strict (m : Machine σ n) {c : Config σ n}
    (hgap : (Tape.cursor c.tape).atGap = false) (top : Frame σ n) (rest : List (Frame σ n))
    (instruction : Instruction) (tail : Bool) :
    m.strict.obey c.strict top.strict (rest.map Frame.strict) instruction tail =
      (m.obey c top rest instruction tail).strict := by
  cases instruction with
  | attempt a =>
      have hplan := m.plan_strict top hgap a tail
      change m.strict.plan c.strict.tape top.strict a tail = _ at hplan
      simp only [obey, hplan]
      rcases m.plan c.tape top a tail with outcome | plan
      · rfl
      · exact follow_strict c top rest a.verb.policy tail plan
  | fail => rfl
  | write text options => rfl
  | openSpan name => rfl
  | closeSpan name => rfl
  | bind key value =>
      have hbind := c.tape.bind_strict key value
      simp only [obey, Draft.perform, Config.strict, Result.strict, hbind]

theorem move_strict (m : Machine σ n) {c : Config σ n}
    (hgap : (Tape.cursor c.tape).atGap = false) : m.strict.move c.strict = (m.move c).strict := by
  rcases c with ⟨frames, limit, tape, flow, emptied⟩
  rcases frames with _ | ⟨top, rest⟩
  · rfl
  · rcases flow with value | failed
    · change m.strict.stepTop (Config.strict ⟨top :: rest, limit, tape, .resume value, emptied⟩)
        top.strict (rest.map Frame.strict) value =
        (m.stepTop ⟨top :: rest, limit, tape, .resume value, emptied⟩ top rest value).strict
      have hproduction : top.strict.production = top.production := rfl
      have hcursor : tape.strict.cursor = tape.cursor := rfl
      simp only [stepTop, hproduction, Config.strict, hcursor]
      rcases top.production.step tape.cursor value with ⟨step, production⟩
      have hobey := m.obey_strict (c := ⟨{ top with production } :: rest, limit, tape,
        .resume value, emptied⟩) hgap { top with production } rest
      rcases step with instruction | _ | instruction
      · exact hobey instruction false
      · rfl
      · exact hobey instruction true
    · exact Config.finishTop_strict ⟨top :: rest, limit, tape, .complete failed, emptied⟩ top rest
        failed

theorem atGap_of_gaps {d : Draft} (h : d.source.gaps = []) : (Tape.cursor d).atGap = false := by
  change decide (d.nextGap? = some d.position.offset) = false
  simp [Draft.nextGap?, h]

/-- Over an input without gaps the moves of a machine are those of the machine that allows none. -/
theorem moves_strict (m : Machine σ n) {source : Source} (hgaps : source.gaps = [])
    {bases : List Draft} {c : Config σ n} (h : c.Sound source bases) (count : Nat) :
    m.strict.moves count c.strict = (m.moves count c).strict := by
  induction count generalizing c bases with
  | zero => rfl
  | succ count ih =>
      have hgap : (Tape.cursor c.tape).atGap = false :=
        atGap_of_gaps (by rw [h.layers.source_eq, hgaps])
      simp only [moves, m.move_strict hgap]
      rcases hmove : m.move c with ⟨d, outcome⟩ | c'
      · rfl
      · obtain ⟨bases', hsound, -⟩ := h.move hmove
        exact ih hsound

end Machine

end Moves

end GrammarMachine
