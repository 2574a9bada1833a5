import GrammarMachine.Proofs.Machine.Places

/-!
What steps write. A step adds events to the record of its run, and the acts among them are what it
does to the tape. The tags it writes are those of a match in place, those that open a rule or those
that close a frame.
-/

namespace GrammarMachine

variable {σ : Type} {n : Nat} {T : Type}

/-- The slot in the reference that introduces an array slot. -/
def Slot.introducer (slot : Slot) : Slot :=
  { slot with isArray := true, traits := { slot.traits with expression := false } }

theorem mem_slotTags [Tape T] {tape : T} {slot : Slot} {tag : Tag} (h : tag ∈ slotTags tape slot) :
    tag = .reference slot ∨ tag = .reference slot.introducer ∨ tag = .arrayStart := by
  unfold slotTags at h
  split at h
  · cases h
  · split at h
    · simp only [arrayTags, List.mem_append, List.mem_cons, List.not_mem_nil, or_false] at h
      obtain (h | h) | h := h
      · exact .inr (.inl h)
      · exact .inr (.inr h)
      · exact .inl h
    · exact .inl (List.mem_singleton.mp h)

namespace Machine

section Plans

variable [Tape T] {m : Machine σ n} {tape : T} {top : Frame σ n} {a : Attempt} {tail : Bool}
  {own slot : Slot} {tags : List Tag} {value : Option (String × Position)}

/-- The rows of tags with which a value takes a slot. -/
inductive Fills (m : Machine σ n) (tape : T) (top : Frame σ n) (a : Attempt) (slot : Slot) :
    List Tag → Prop where
  | nothing : Fills m tape top a slot []
  | gap : Fills m tape top a slot (slotTags tape slot ++ [.gap])
  | null : Fills m tape top a slot (slotTags tape slot ++ [.null])
  | array : Fills m tape top a slot (arrayTags slot)
  | token {node : NodeGoal} {place : Fin n} (text : String) (attributes : Fields) :
      (m.goalFor top a).form = .node node →
      m.index.resolve m.catalog top.scope node.language = .ok place →
      Fills m tape top a slot (slotTags tape slot ++
        [.openNode node.traits (m.catalog place).url node.nodeType attributes] ++
        textTags text ++ [.closeNode])

/-- What is written in place is a text or takes the slot of a value. -/
theorem plan_place_fills (h : m.plan tape top a tail = .ok (.place tags value)) :
    (∃ text, tags = textTags text) ∨
      ∃ slot, nodeSlot top a (m.ownSlot (m.goalFor top a)) = .ok slot ∧
        m.Fills tape top a slot tags := by
  cases plan_places h with
  | text => exact .inl ⟨_, rfl⟩
  | gap _ _ _ hslot => exact .inr ⟨_, hslot, .gap⟩
  | filled _ hslot _ => exact .inr ⟨_, hslot, .nothing⟩
  | null _ hslot _ _ => exact .inr ⟨_, hslot, .null⟩
  | array _ hslot _ => exact .inr ⟨_, hslot, .array⟩
  | token attributes hform hplace _ hslot =>
      exact .inr ⟨_, hslot, .token _ attributes hform hplace⟩

theorem Fills.reference (h : m.Fills tape top a slot tags) {s : Slot} (hs : .reference s ∈ tags) :
    s = slot ∨ s = slot.introducer := by
  have hslotTags : .reference s ∈ slotTags tape slot → s = slot ∨ s = slot.introducer := by
    intro hs
    rcases mem_slotTags hs with h | h | h
    · exact .inl (Tag.reference.inj h)
    · exact .inr (Tag.reference.inj h)
    · cases h
  cases h with
  | nothing => cases hs
  | gap => simp_all
  | null => simp_all
  | array =>
      simp only [arrayTags, List.mem_cons, Tag.reference.injEq, reduceCtorEq, List.not_mem_nil,
        or_false] at hs
      exact .inr hs
  | token text attributes hform hplace =>
      simp only [List.mem_append, List.mem_singleton, reduceCtorEq, or_false] at hs
      rcases hs with hs | hs
      · exact hslotTags hs
      · cases mem_textTags hs

theorem Fills.openNode (h : m.Fills tape top a slot tags) {traits : NodeTraits}
    {url nodeType : String} {attributes : Fields}
    (hopen : .openNode traits url nodeType attributes ∈ tags) :
    ∃ node place, (m.goalFor top a).form = .node node ∧
      m.index.resolve m.catalog top.scope node.language = .ok place ∧
      url = (m.catalog place).url := by
  have hslotTags : .openNode traits url nodeType attributes ∉ slotTags tape slot := by
    intro h
    rcases mem_slotTags h with h | h | h <;> cases h
  cases h with
  | nothing => cases hopen
  | gap => simp_all
  | null => simp_all
  | array => simp [arrayTags] at hopen
  | token text attributes hform hplace =>
      simp only [List.mem_append, List.mem_singleton, hslotTags, false_or, reduceCtorEq,
        or_false] at hopen
      rcases hopen with hopen | hopen
      · cases hopen
        exact ⟨_, _, hform, hplace, rfl⟩
      · cases mem_textTags hopen

end Plans

end Machine

/-- The change of the tape that an event is. -/
def Event.act? : Event → Option Act
  | .performed act => some act
  | _ => none

/-- The changes of the tape among events, the latest first. -/
def actsOf (events : List Event) : List Act :=
  events.filterMap Event.act?

/-- Whether an act writes a tag. -/
def Act.isAdvance : Act → Bool
  | .advance _ => true
  | _ => false

/-- A tag is written among the events. -/
def Wrote (events : List Event) (tag : Tag) : Prop :=
  Event.performed (.advance tag) ∈ events

/-- Whether the machine itself ends a run in this way. All other errors come from plans. -/
def Outcome.ofLoop : Outcome → Bool
  | .rejected (.cleanupViolation ..) | .rejected (.depthExceeded _) | .rejected (.failed _)
  | .rejected (.emptyMatch _) | .rejected (.incomplete ..) | .rejected (.namedRoot _) => true
  | .rejected _ => false
  | _ => true

namespace Run

section Goes

variable [Tape T]

/-- The run goes on by events whose acts have changed the tape. All tags they write are
`written`. -/
def Goes (written : Tag → Prop) (r r' : Run σ n T) : Prop :=
  ∃ events, r'.events = events ++ r.events ∧
    r'.tape = (actsOf events).foldr Tape.perform r.tape ∧ ∀ tag, Wrote events tag → written tag

/-- A run goes on to its next state or to its end, which the machine itself brings about or which is
`refused`. -/
def Yields (written : Tag → Prop) (refused : Outcome → Prop) (r : Run σ n T) :
    Except (Halt σ n T) (Run σ n T) → Prop
  | .ok r' => r.Goes written r'
  | .error halt => r.Goes written halt.run ∧ (halt.outcome.ofLoop = true ∨ refused halt.outcome)

variable {written : Tag → Prop} {refused : Outcome → Prop} {r r' r'' : Run σ n T}

theorem Goes.of_eq (hevents : r'.events = r.events) (htape : r'.tape = r.tape) :
    r.Goes written r' := by
  refine ⟨[], hevents, htape, ?_⟩
  rintro tag ⟨⟩

theorem Goes.refl (r : Run σ n T) : r.Goes written r :=
  .of_eq rfl rfl

theorem Goes.trans (h : r.Goes written r') (h' : r'.Goes written r'') : r.Goes written r'' := by
  obtain ⟨events, hevents, htape, hwritten⟩ := h
  obtain ⟨events', hevents', htape', hwritten'⟩ := h'
  refine ⟨events' ++ events, ?_, ?_, ?_⟩
  · rw [hevents', hevents, List.append_assoc]
  · rw [htape', htape, ← List.foldr_append, actsOf, actsOf, actsOf, List.filterMap_append]
  · intro tag htag
    rcases List.mem_append.mp htag with htag | htag
    · exact hwritten' tag htag
    · exact hwritten tag htag

theorem Goes.mono {written' : Tag → Prop} (h : r.Goes written r')
    (hmono : ∀ tag, written tag → written' tag) : r.Goes written' r' := by
  obtain ⟨events, hevents, htape, hwritten⟩ := h
  exact ⟨events, hevents, htape, fun tag htag => hmono tag (hwritten tag htag)⟩

theorem goes_advance (r : Run σ n T) {tag : Tag} (h : written tag) :
    r.Goes written (r.perform (.advance tag)) := by
  refine ⟨[.performed (.advance tag)], rfl, rfl, ?_⟩
  intro tag' htag
  cases List.mem_singleton.mp htag
  exact h

theorem goes_act (r : Run σ n T) {act : Act} (h : act.isAdvance = false) :
    r.Goes written (r.perform act) := by
  refine ⟨[.performed act], rfl, rfl, ?_⟩
  intro tag htag
  cases List.mem_singleton.mp htag
  cases h

theorem goes_record (r : Run σ n T) {event : Event} (h : event.act? = none) :
    r.Goes written (r.record event) := by
  refine ⟨[event], rfl, ?_, ?_⟩
  · simp [actsOf, h, record]
  · intro tag htag
    cases List.mem_singleton.mp htag
    cases h

theorem goes_emit (r : Run σ n T) {tags : List Tag} (h : ∀ tag ∈ tags, written tag) :
    r.Goes written (r.emit tags) := by
  induction tags generalizing r with
  | nil => exact .refl r
  | cons tag tags ih =>
      have hfirst : r.Goes written (r.perform (.advance tag)) :=
        r.goes_advance (h tag List.mem_cons_self)
      exact hfirst.trans (ih _ fun t ht => h t (List.mem_cons_of_mem _ ht))

theorem goes_startCapture (r : Run σ n T) : r.Goes written r.startCapture :=
  .of_eq rfl rfl

namespace Yields

theorem of_goes {x : Except (Halt σ n T) (Run σ n T)} (h : r.Goes written r')
    (hx : r'.Yields written refused x) : r.Yields written refused x := by
  rcases x with halt | r''
  · exact ⟨h.trans hx.1, hx.2⟩
  · exact h.trans hx

theorem bind {x : Except (Halt σ n T) (Run σ n T)}
    {f : Run σ n T → Except (Halt σ n T) (Run σ n T)} (h : r.Yields written refused x)
    (hf : ∀ r', x = .ok r' → r'.Yields written refused (f r')) :
    r.Yields written refused (x >>= f) := by
  rcases x with halt | r'
  · exact h
  · exact .of_goes h (hf r' rfl)

theorem halt (r : Run σ n T) {outcome : Outcome} (h : outcome.ofLoop = true) :
    r.Yields written refused (r.halt outcome) :=
  ⟨.refl r, .inl h⟩

end Yields

theorem goes_invoke (r : Run σ n T) (e : Entry σ n) (frames : List (Frame σ n)) :
    r.Goes written (r.invoke e frames) :=
  ⟨[.invoked r.productions e.invocation], rfl, rfl, by simp [Wrote]⟩

theorem goes_open {e : Entry σ n} (r : Run σ n T)
    (hadopts : ∀ name, e.adopts = some name → written (.shift name))
    (hopening : ∀ (tape : T) opening, e.opening = some opening →
      ∀ tag ∈ slotTags tape e.frame.slot ++ [opening], written tag) :
    r.Goes written
      (let r := match e.adopts with
        | some name => r.startCapture.emit [.shift name]
        | none => r
      match e.opening with
        | some opening =>
            let r := r.startCapture
            r.emit (slotTags r.tape e.frame.slot ++ [opening])
        | none => r) := by
  have hshift : r.Goes written (match e.adopts with
      | some name => r.startCapture.emit [.shift name]
      | none => r) := by
    split
    · rename_i name hname
      refine r.goes_startCapture.trans (goes_emit _ ?_)
      intro tag htag
      cases List.mem_singleton.mp htag
      exact hadopts name hname
    · exact .refl r
  refine hshift.trans ?_
  rcases hopen : e.opening with _ | opening
  · exact .refl _
  · exact (goes_startCapture _).trans (goes_emit _ (hopening _ opening hopen))

theorem goes_place (r : Run σ n T) (keeps : Bool) {tags : List Tag}
    (value : Option (String × Position)) (h : ∀ tag ∈ tags, written tag) :
    r.Goes written (r.place keeps tags value).1 := by
  unfold place
  dsimp only
  split
  · exact r.goes_startCapture.trans (goes_emit _ h)
  · exact .refl r

theorem goes_settle (r : Run σ n T) (f : Frame σ n) (failing : Bool) :
    r.Goes written (r.settle f failing) := by
  unfold settle
  split
  · split
    · exact r.goes_act rfl
    · exact r.goes_act rfl
  · split
    · exact r.goes_act rfl
    · exact .refl r

theorem yields_cleanup (r : Run σ n T) (nodeType : String) (cleanup : List Instruction) :
    r.Yields written refused (cleanup.foldlM (fun r instruction =>
      match instruction with
      | .write text options => .ok (r.perform (.write text options))
      | other => r.halt (.rejected (.cleanupViolation nodeType other.verbName))) r) := by
  induction cleanup generalizing r with
  | nil => exact Goes.refl r
  | cons instruction rest ih =>
      cases instruction with
      | write text options => exact .of_goes (r.goes_act rfl) (ih _)
      | attempt => exact Yields.halt r rfl
      | fail => exact Yields.halt r rfl
      | openSpan => exact Yields.halt r rfl
      | closeSpan => exact Yields.halt r rfl
      | bind => exact Yields.halt r rfl

theorem yields_close (r : Run σ n T) (top : Frame σ n) (hnode : written .closeNode)
    (hfragment : written .closeFragment) : r.Yields written refused (r.close top) := by
  have hclosed : r.Goes written ((r.emit (if top.isNode then [.closeNode] else [])).emit
      (if top.isFragment then [.closeFragment] else [])) := by
    refine (goes_emit r ?_).trans (goes_emit _ ?_)
    · split <;> simp [hnode]
    · split <;> simp [hfragment]
  refine .of_goes hclosed ?_
  unfold close
  dsimp only
  generalize (r.emit (if top.isNode then [.closeNode] else [])).emit
    (if top.isFragment then [.closeFragment] else []) = closed
  split
  · exact Goes.of_eq rfl rfl
  · exact .halt closed rfl

theorem ofLoop_conclude (r : Run σ n T) (value : Option Extent) (failing : Bool) (offset : Nat) :
    (r.conclude value failing offset).ofLoop = true := by
  unfold conclude
  repeat' split
  all_goals rfl

end Goes

section Steps

variable [Tape T] [Stepper σ] {written : Tag → Prop} {refused : Outcome → Prop} {r : Run σ n T}
  {top : Frame σ n} {rest : List (Frame σ n)} {e : Entry σ n}

theorem yields_finalize (r : Run σ n T) (f : Frame σ n) :
    r.Yields written refused (r.finalize f) := by
  have hrecord : r.Goes written
      (r.record (.finalized f.serial f.nodeType f.production.cleanup)) := r.goes_record rfl
  exact .of_goes hrecord (yields_cleanup _ f.nodeType _)

theorem yields_pushEntry (hframes : r.stack.frames = top :: rest) (e : Entry σ n) :
    r.Yields written refused (r.pushEntry e) := by
  rcases hreplaces : e.replaces with _ | _
  · rw [pushEntry_of_pushes hframes hreplaces]
    split
    · exact .of_goes (r.goes_invoke e _) (.halt _ rfl)
    · dsimp only
      split
      · exact (r.goes_invoke e _).trans (goes_act _ rfl)
      · exact r.goes_invoke e _
  · rw [pushEntry_of_replaces hframes hreplaces]
    exact .of_goes (r.goes_invoke e _) (yields_finalize _ top)

theorem yields_enter (hframes : r.stack.frames = top :: rest)
    (hadopts : ∀ name, e.adopts = some name → written (.shift name))
    (hopening : ∀ (tape : T) opening, e.opening = some opening →
      ∀ tag ∈ slotTags tape e.frame.slot ++ [opening], written tag) :
    r.Yields written refused (r.enter e) := by
  unfold enter
  refine (yields_pushEntry hframes e).bind ?_
  rintro pushed -
  split
  · exact .halt pushed rfl
  · rename_i depth _
    have hstarted : pushed.Goes written (pushed.perform (.startFrame depth e.frame.nodeType)) :=
      pushed.goes_act rfl
    refine hstarted.trans ((goes_open _ hadopts hopening).trans ?_)
    exact .of_eq rfl rfl

theorem yields_leave (r : Run σ n T) (failing : Bool) (offset : Nat) :
    r.Yields written refused (r.leave failing offset) := by
  unfold leave
  split
  · exact .halt r rfl
  · rename_i frame stack _
    have hpopped : r.Goes written { r with stack } := .of_eq rfl rfl
    refine .bind (.of_goes hpopped (yields_finalize _ frame)) ?_
    rintro cleaned -
    have hleft : cleaned.Goes written
        ((cleaned.settle frame failing).perform (.endFrame frame.depth)) :=
      (cleaned.goes_settle frame failing).trans (goes_act _ rfl)
    refine .of_goes hleft ?_
    dsimp only
    split
    · exact .halt _ (ofLoop_conclude ..)
    · unfold goOnBelow
      split
      · exact .of_eq rfl rfl
      · split
        · exact .halt _ rfl
        · exact .of_eq rfl rfl

theorem yields_complete (r : Run σ n T) (failed : Bool) (hnode : written .closeNode)
    (hfragment : written .closeFragment) : r.Yields written refused (r.complete failed) := by
  unfold complete
  split
  · exact .halt r rfl
  · rename_i top _
    dsimp only
    split
    · have hnoted : r.Goes written { r with emptied := some top.nodeType } := .of_eq rfl rfl
      exact .of_goes hnoted (yields_leave _ _ _)
    · split
      · exact yields_leave r _ _
      · refine (yields_close r top hnode hfragment).bind ?_
        rintro closed -
        exact yields_leave closed _ _

end Steps

/-- A tag is written on the way from one state of a run to another. -/
def WritesTo (r r' : Run σ n T) (tag : Tag) : Prop :=
  ∃ events, r'.events = events ++ r.events ∧ Wrote events tag

end Run

theorem Draft.mem_tags_perform {d : Draft} {act : Act} {tag : Tag}
    (h : tag ∈ (d.perform act).tags) : tag ∈ d.tags ∨ act = .advance tag := by
  cases act with
  | advance written =>
      rcases Array.mem_push.mp h with h | rfl
      · exact .inl h
      · exact .inr rfl
  | reject =>
      left
      simp only [perform, reject] at h
      split at h
      · rw [← Array.mem_toList_iff] at h ⊢
        simp only [restore, Array.toList_shrink] at h
        exact List.mem_of_mem_take h
      · exact h
  | bind key value =>
      left
      simp only [perform, bind] at h
      split at h <;> exact h
  | _ => exact .inl h

/-- All tags of a draft have been written on it. -/
theorem Run.Goes.mem_tags {r r' : Run σ n Draft} {written : Tag → Prop} (h : r.Goes written r')
    {tag : Tag} (htag : tag ∈ r'.tape.tags) : tag ∈ r.tape.tags ∨ written tag := by
  obtain ⟨events, -, htape, hwritten⟩ := h
  rw [htape] at htag
  clear htape
  induction events with
  | nil => exact .inl htag
  | cons event earlier ih =>
      have hearlier : ∀ tag, Wrote earlier tag → written tag :=
        fun tag htag => hwritten tag (List.mem_cons_of_mem _ htag)
      cases event with
      | performed act =>
          rcases Draft.mem_tags_perform htag with htag | rfl
          · exact ih htag hearlier
          · exact .inr (hwritten tag List.mem_cons_self)
      | _ => exact ih htag hearlier

theorem Stack.ofLoop_push {s : Stack σ n} {f : Frame σ n} {error : ParseError}
    (h : s.push f = .error error) : (Outcome.rejected error).ofLoop = true := by
  unfold Stack.push at h
  split at h
  · cases h
    rfl
  · cases h

namespace Machine

section Writes

variable [Tape T] [Stepper σ] {m : Machine σ n} {r : Run σ n T}

/-- The active production asks for a match, for which this is planned. -/
def Plans (m : Machine σ n) (r : Run σ n T) (top : Frame σ n) (a : Attempt) (tail : Bool)
    (plan : Except Outcome (Plan σ n)) : Prop :=
  ∃ rest value production,
    r.Stepping top rest value ((Instruction.attempt a).asStep tail) production ∧
      m.plan r.tape top a tail = plan

theorem Plans.plan {top : Frame σ n} {a : Attempt} {tail : Bool}
    {plan : Except Outcome (Plan σ n)} (h : m.Plans r top a tail plan) :
    m.plan r.tape top a tail = plan := by
  obtain ⟨rest, value, production, -, hplan⟩ := h
  exact hplan

theorem asStep_inj {i j : Instruction} {tail tail' : Bool} (h : i.asStep tail = j.asStep tail') :
    i = j ∧ tail = tail' := by
  cases tail <;> cases tail' <;> simp_all [Instruction.asStep]

theorem Plans.unique {top top' : Frame σ n} {a a' : Attempt} {tail tail' : Bool}
    {plan plan' : Except Outcome (Plan σ n)} (h : m.Plans r top a tail plan)
    (h' : m.Plans r top' a' tail' plan') : top = top' ∧ a = a' ∧ tail = tail' ∧ plan = plan' := by
  obtain ⟨rest, value, production, hstepping, rfl⟩ := h
  obtain ⟨rest', value', production', hstepping', rfl⟩ := h'
  obtain ⟨rfl, rfl, rfl, hstep, rfl⟩ := hstepping.unique hstepping'
  obtain ⟨hattempt, rfl⟩ := asStep_inj hstep
  cases hattempt
  exact ⟨rfl, rfl, rfl, rfl⟩

theorem Plans.frames {top : Frame σ n} {a : Attempt} {tail : Bool}
    {plan : Except Outcome (Plan σ n)} (h : m.Plans r top a tail plan) :
    ∃ rest, r.stack.frames = top :: rest := by
  obtain ⟨rest, value, production, hstepping, -⟩ := h
  exact ⟨rest, hstepping.frames⟩

/-- The tags that a step may write. -/
inductive Writes (m : Machine σ n) (r : Run σ n T) : Tag → Prop where
  | placed {top : Frame σ n} {a : Attempt} {tail : Bool} {tags : List Tag}
      {value : Option (String × Position)} {tag : Tag} :
      m.Plans r top a tail (.ok (.place tags value)) → tag ∈ tags → Writes m r tag
  | adopted {top : Frame σ n} {a : Attempt} {tail : Bool} {e : Entry σ n} {name : String} :
      m.Plans r top a tail (.ok (.enter e)) → e.adopts = some name → Writes m r (.shift name)
  | opened {top : Frame σ n} {a : Attempt} {tail : Bool} {e : Entry σ n} {opening tag : Tag}
      (tape : T) : m.Plans r top a tail (.ok (.enter e)) → e.opening = some opening →
      tag ∈ slotTags tape e.frame.slot ++ [opening] → Writes m r tag
  | closedNode {failed : Bool} : r.flow = .complete failed → Writes m r .closeNode
  | closedFragment {failed : Bool} : r.flow = .complete failed → Writes m r .closeFragment

/-- The plan for the match that the active production asks for is refused. -/
def Refuses (m : Machine σ n) (r : Run σ n T) (outcome : Outcome) : Prop :=
  ∃ top a tail, m.Plans r top a tail (.error outcome)

theorem yields_dispatch {top : Frame σ n} {rest : List (Frame σ n)} {value : Option Extent}
    {i : Instruction} {tail : Bool} {production : Production σ}
    (h : r.Stepping top rest value (i.asStep tail) production) :
    r.Yields (m.Writes r) (m.Refuses r)
      (m.dispatch (stepped r top rest value (i.asStep tail) production) i tail) := by
  have hstepped : r.Goes (m.Writes r) (stepped r top rest value (i.asStep tail) production) :=
    ⟨[.stepped top.serial top.nodeType r.cursor value (i.asStep tail)], rfl, rfl, by simp [Wrote]⟩
  refine .of_goes hstepped ?_
  have hframes : (stepped r top rest value (i.asStep tail) production).stack.frames =
      { top with production } :: rest := rfl
  have htape : (stepped r top rest value (i.asStep tail) production).tape = r.tape := rfl
  have hplans : ∀ a, i = .attempt a →
      m.Plans r top a tail (m.plan r.tape { top with production } a tail) := by
    rintro a rfl
    exact ⟨rest, value, production, h, (m.plan_production r.tape top production a tail).symm⟩
  generalize stepped r top rest value (i.asStep tail) production = r' at hframes htape
  have hact : ∀ act : Act, act.isAdvance = false →
      r'.Yields (m.Writes r) (m.Refuses r) (.ok ((r'.perform act).continueWith none tail)) :=
    fun act hact => (r'.goes_act hact).trans (.of_eq rfl rfl)
  cases i with
  | attempt a =>
      have htop : r'.stack.top? = some { top with production } := by simp [Stack.top?, hframes]
      specialize hplans a rfl
      rw [← htape] at hplans
      simp only [dispatch, attempt, htop]
      rcases hplan : m.plan r'.tape { top with production } a tail with
        outcome | emptied | ⟨tags, found⟩ | e
      · rw [hplan] at hplans
        exact ⟨.refl r', .inr ⟨top, a, tail, hplans⟩⟩
      · dsimp only
        split
        · exact Run.Goes.of_eq rfl rfl
        · exact Run.Goes.of_eq rfl rfl
      · rw [hplan] at hplans
        refine (r'.goes_place _ found ?_).trans (.of_eq rfl rfl)
        intro tag htag
        exact .placed hplans htag
      · rw [hplan] at hplans
        refine Run.yields_enter hframes ?_ ?_
        · intro name hname
          exact .adopted hplans hname
        · intro tape opening hopening tag htag
          exact .opened tape hplans hopening htag
  | fail => exact Run.Goes.of_eq rfl rfl
  | write text options => exact hact _ rfl
  | openSpan name => exact hact _ rfl
  | closeSpan name => exact hact _ rfl
  | bind key value => exact hact _ rfl

/-- What a step does to the tape and the record, and how it can end the run. -/
theorem yields_step (m : Machine σ n) (r : Run σ n T) :
    r.Yields (m.Writes r) (m.Refuses r) (m.step r) := by
  rcases hflow : r.flow with value | failed
  · simp only [step, hflow]
    rcases hframes : r.stack.frames with _ | ⟨top, rest⟩
    · have htop : r.stack.top? = none := by simp [Stack.top?, hframes]
      simp only [resume, htop]
      exact .halt r rfl
    · have hstepping : r.Stepping top rest value (top.production.step r.cursor value).1
          (top.production.step r.cursor value).2 := ⟨hframes, hflow, rfl⟩
      rw [resume_eq hstepping]
      generalize top.production.step r.cursor value = stepping at hstepping
      obtain ⟨step, production⟩ := stepping
      rcases step with i | _ | i
      · exact @yields_dispatch _ _ _ _ _ m r top rest value i false production hstepping
      · exact ⟨[.stepped top.serial top.nodeType r.cursor value (.done none)], rfl, rfl,
          by simp [Wrote]⟩
      · exact @yields_dispatch _ _ _ _ _ m r top rest value i true production hstepping
  · simp only [step, hflow]
    exact r.yields_complete failed (.closedNode hflow) (.closedFragment hflow)

theorem writes_of_step {r' : Run σ n T} {tag : Tag} (h : m.step r = .ok r')
    (hwrites : r.WritesTo r' tag) : m.Writes r tag := by
  have hyields := m.yields_step r
  rw [h] at hyields
  obtain ⟨events, hevents, -, hwritten⟩ := hyields
  obtain ⟨events', hevents', hwrote⟩ := hwrites
  obtain rfl : events = events' := List.append_cancel_right (hevents.symm.trans hevents')
  exact hwritten tag hwrote

/-- The run before its first state. -/
def blank (m : Machine σ n) (tape : T) : Run σ n T :=
  { tape, stack := { limit := m.options.maxDepth } }

variable {tape : T} {props : Option Json} {written : Tag → Prop} {refused : Outcome → Prop}

omit [Stepper σ] in
theorem yields_start (m : Machine σ n) (tape : T) (props : Option Json)
    (hdoctype : written (.doctype (m.catalog m.language).url []))
    (hfragment : ∀ traits, written (.openFragment traits)) :
    (m.blank tape).Yields written refused (m.start tape props) := by
  unfold start
  split
  · exact .halt (m.blank tape) rfl
  · dsimp only
    have hinit : (m.blank tape).Goes written
        ((m.blank tape).perform (.init (m.catalog m.language).url)) := Run.goes_act _ rfl
    refine .of_goes hinit ?_
    split
    · exact .halt _ (Stack.ofLoop_push ‹_›)
    · rename_i stack _
      have hpushed : Run.Goes written ((m.blank tape).perform (.init (m.catalog m.language).url))
          { (m.blank tape).perform (.init (m.catalog m.language).url) with
            stack, productions := 1 } := .of_eq rfl rfl
      refine hpushed.trans ?_
      refine (Run.goes_act _ (rfl : (Act.startFrame 0 fragmentType).isAdvance = false)).trans ?_
      refine (Run.goes_emit _ (List.forall_mem_singleton.mpr hdoctype)).trans ?_
      refine (Run.goes_startCapture _).trans ?_
      exact Run.goes_emit _ (List.forall_mem_singleton.mpr (hfragment _))

theorem Reaches.goes (h : m.Reaches tape props r)
    (hdoctype : written (.doctype (m.catalog m.language).url []))
    (hfragment : ∀ traits, written (.openFragment traits))
    (hwritten : ∀ r, m.Reaches tape props r → ∀ tag, m.Writes r tag → written tag) :
    (m.blank tape).Goes written r := by
  refine h.induction ?_ ?_
  · intro first hfirst
    have hyields : (m.blank tape).Yields written (fun _ => False) (m.start tape props) :=
      yields_start m tape props hdoctype hfragment
    rw [hfirst] at hyields
    exact hyields
  · intro r r' hr ih hstep
    have hyields := m.yields_step r
    rw [hstep] at hyields
    exact ih.trans (hyields.mono (hwritten r hr))

/-- What a run has written at its end, and why it has ended. -/
theorem run_goes {fuel : Nat} {halt : Halt σ n T} (h : m.run tape props fuel = some halt)
    (hdoctype : written (.doctype (m.catalog m.language).url []))
    (hfragment : ∀ traits, written (.openFragment traits))
    (hwritten : ∀ r, m.Reaches tape props r → ∀ tag, m.Writes r tag → written tag) :
    (m.blank tape).Goes written halt.run ∧ (halt.outcome.ofLoop = true ∨
      ∃ r, m.Reaches tape props r ∧ m.step r = .error halt ∧ m.Refuses r halt.outcome) := by
  rcases run_ends h with hstart | ⟨r, hr, hstep⟩
  · have hyields : (m.blank tape).Yields written (fun _ => False) (m.start tape props) :=
      yields_start m tape props hdoctype hfragment
    rw [hstart] at hyields
    exact ⟨hyields.1, hyields.2.imp_right False.elim⟩
  · have hyields := m.yields_step r
    rw [hstep] at hyields
    refine ⟨(hr.goes hdoctype hfragment hwritten).trans (hyields.1.mono (hwritten r hr)), ?_⟩
    exact hyields.2.imp_right fun hrefuses => ⟨r, hr, hstep, hrefuses⟩

theorem Writes.reference {s : Slot} (h : m.Writes r (.reference s)) :
    ∃ top a tail plan slot, m.Plans r top a tail plan ∧
      nodeSlot top a (m.ownSlot (m.goalFor top a)) = .ok slot ∧
      (s = slot ∨ s = slot.introducer) := by
  cases h with
  | @placed top a tail tags value _ hplans htag =>
      rcases plan_place_fills hplans.plan with ⟨text, rfl⟩ | ⟨slot, hslot, hfills⟩
      · cases mem_textTags htag
      · exact ⟨top, a, tail, _, slot, hplans, hslot, hfills.reference htag⟩
  | @opened top a tail e opening _ tape hplans hopening htag =>
      obtain ⟨node, slot, place, intrinsic, rule, hform, hplace, hslot, hrule, rfl⟩ :=
        plan_enter_resolved hplans.plan
      refine ⟨top, a, tail, _, slot, hplans, hslot, ?_⟩
      rcases List.mem_append.mp htag with htag | htag
      · rcases mem_slotTags htag with h | h | h
        · exact .inl (Tag.reference.inj h)
        · exact .inr (Tag.reference.inj h)
        · cases h
      · cases List.mem_singleton.mp htag
        simp only [entry] at hopening
        split at hopening <;> cases hopening

theorem Writes.openNode {traits : NodeTraits} {url nodeType : String} {attributes : Fields}
    (h : m.Writes r (.openNode traits url nodeType attributes)) :
    ∃ top a tail plan node place, m.Plans r top a tail plan ∧
      (m.goalFor top a).form = .node node ∧
      m.index.resolve m.catalog top.scope node.language = .ok place ∧
      url = (m.catalog place).url := by
  cases h with
  | @placed top a tail tags value _ hplans htag =>
      rcases plan_place_fills hplans.plan with ⟨text, rfl⟩ | ⟨slot, hslot, hfills⟩
      · cases mem_textTags htag
      · obtain ⟨node, place, hnode⟩ := hfills.openNode htag
        exact ⟨top, a, tail, _, node, place, hplans, hnode⟩
  | @opened top a tail e opening _ tape hplans hopening htag =>
      obtain ⟨node, slot, place, intrinsic, rule, hform, hplace, hslot, hrule, rfl⟩ :=
        plan_enter_resolved hplans.plan
      refine ⟨top, a, tail, _, node, place, hplans, hform, hplace, ?_⟩
      rcases List.mem_append.mp htag with htag | htag
      · rcases mem_slotTags htag with h | h | h <;> cases h
      · cases List.mem_singleton.mp htag
        simp only [entry] at hopening
        split at hopening
        · cases hopening
          rfl
        · cases hopening

end Writes

end Machine

end GrammarMachine
