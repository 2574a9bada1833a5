import GrammarMachine.Proofs.Machine.Starts
import Mathlib.Data.List.Forall2

/-!
Transactions are bracketed. On any tape, the transactions that the machine has begun and not yet
ended are those of the frames on the stack that have one, in the same order. A transaction begins
when the place of its frame is taken, and whatever frame has the place when it is given up ends it.
-/

namespace GrammarMachine

variable {σ : Type} {n : Nat} {T : Type}

/-- The number of the production made last. -/
def lastInvoked : List Event → Nat
  | [] => 0
  | .invoked serial _ :: _ => serial
  | _ :: earlier => lastInvoked earlier

/-- The open transactions, the innermost first, each with the number of the production made before
it began. It is none if one has ended when none was open. -/
def openBranches : List Event → Option (List Nat)
  | [] => some []
  | .performed .branch :: earlier => (openBranches earlier).map (lastInvoked earlier :: ·)
  | .performed .accept :: earlier | .performed .reject :: earlier =>
      match openBranches earlier with
      | some (_ :: outer) => some outer
      | _ => none
  | _ :: earlier => openBranches earlier

/-- The ends of transactions. -/
def resolutions (events : List Event) : List Act :=
  events.filterMap fun
    | .performed .accept => some .accept
    | .performed .reject => some .reject
    | _ => none

/-- The places of the frames that have a transaction, the innermost first. -/
def branchedPlaces : List (Frame σ n) → List Nat
  | [] => []
  | f :: rest => if f.branched then rest.length :: branchedPlaces rest else branchedPlaces rest

/-- How the next step ends a transaction, if the active frame is to be finished and has one. -/
def Run.resolving [Tape T] (r : Run σ n T) : List Act :=
  match r.flow, r.stack.frames with
  | .complete failed, f :: _ =>
      if f.branched then
        [if f.fails failed r.cursor.position || !f.policy.keeps then .reject else .accept]
      else []
  | _, _ => []

theorem lastInvoked_milestones (events : List Event) :
    lastInvoked (events.filter Event.isMilestone) = lastInvoked events := by
  induction events with
  | nil => rfl
  | cons event earlier ih =>
      cases event with
      | performed act => cases act <;> exact ih
      | invoked serial invocation => rfl
      | stepped => exact ih
      | finalized => exact ih

theorem openBranches_milestones (events : List Event) :
    openBranches (events.filter Event.isMilestone) = openBranches events := by
  induction events with
  | nil => rfl
  | cons event earlier ih =>
      cases event with
      | performed act =>
          cases act with
          | branch =>
              change Option.map _ _ = Option.map _ _
              rw [ih, lastInvoked_milestones]
          | accept =>
              simp only [List.filter_cons, Event.isMilestone, Act.isTransactional, if_true,
                openBranches, ih]
          | reject =>
              simp only [List.filter_cons, Event.isMilestone, Act.isTransactional, if_true,
                openBranches, ih]
          | _ => exact ih
      | invoked => exact ih
      | stepped => exact ih
      | finalized => exact ih

theorem resolutions_milestones (events : List Event) :
    resolutions (events.filter Event.isMilestone) = resolutions events :=
  filterMap_milestones (fun act h => by cases act <;> first | rfl | cases h) events

theorem branchedPlaces_map (g : Frame σ n → Frame σ n) (h : ∀ f, (g f).branched = f.branched)
    (frames : List (Frame σ n)) : branchedPlaces (frames.map g) = branchedPlaces frames := by
  induction frames with
  | nil => rfl
  | cons f rest ih => simp only [List.map_cons, branchedPlaces, ih, List.length_map, h]

theorem branchedPlaces_unstarted (frames : List (Frame σ n)) :
    branchedPlaces (frames.map Frame.unstarted) = branchedPlaces frames :=
  branchedPlaces_map Frame.unstarted (fun _ => rfl) frames

theorem lt_of_mem_branchedPlaces {frames : List (Frame σ n)} {place : Nat}
    (h : place ∈ branchedPlaces frames) : place < frames.length := by
  induction frames with
  | nil => cases h
  | cons f rest ih =>
      rw [branchedPlaces] at h
      rw [List.length_cons]
      split at h
      · rcases List.mem_cons.mp h with rfl | h
        · exact Nat.lt_succ_self _
        · exact Nat.lt_succ_of_lt (ih h)
      · exact Nat.lt_succ_of_lt (ih h)

theorem Run.accept_of_resolving [Tape T] {r : Run σ n T} (h : .accept ∈ r.resolving) :
    ∃ f rest, r.stack.frames = f :: rest ∧ r.flow = .complete false ∧
      f.fails false r.cursor.position = false ∧ f.policy.keeps = true := by
  unfold Run.resolving at h
  split at h
  · rename_i failed f rest hflow hframes
    split at h
    · have hkept : (f.fails failed r.cursor.position || !f.policy.keeps) = false := by
        rcases hact : (f.fails failed r.cursor.position || !f.policy.keeps) with _ | _
        · rfl
        · simp [hact] at h
      simp only [Bool.or_eq_false_iff, Bool.not_eq_false'] at hkept
      obtain rfl : failed = false := by
        have hfails := hkept.1
        simp only [Frame.fails, Bool.or_eq_false_iff] at hfails
        exact hfails.1
      exact ⟨f, rest, hframes, hflow, hkept.1, hkept.2⟩
    · cases h
  · cases h

/-- The snapshots on a draft are those of the drafts on which the frames with a transaction lie. -/
theorem Layers.snapshots {source : Source} {frames : List (Frame σ n)} {bases : List Draft}
    {d : Draft} (h : Layers source frames bases d) :
    List.Forall₂ (fun place snapshot => ∃ ups base downs, bases = ups ++ base :: downs ∧
      downs.length + 1 = place ∧ snapshot = base.snapshot ∧ base.Extends d)
      (branchedPlaces frames) d.branches := by
  induction h with
  | fragment _ _ _ hbranched _ _ _ hnone _ => simp [branchedPlaces, hbranched, hnone]
  | @cons f g rest base d bases hbelow hover _ _ _ _ _ ih =>
      have houter : List.Forall₂ (fun place snapshot => ∃ ups base' downs,
          base :: bases = ups ++ base' :: downs ∧ downs.length + 1 = place ∧
          snapshot = base'.snapshot ∧ base'.Extends d) (branchedPlaces (g :: rest))
          base.branches := by
        refine ih.imp ?_
        rintro place snapshot ⟨ups, base', downs, rfl, hlength, hsnapshot, hgrown⟩
        exact ⟨base :: ups, base', downs, rfl, hlength, hsnapshot, hgrown.trans hover.grown⟩
      rw [hover.branches, branchedPlaces]
      split
      · refine .cons ⟨[], base, bases, rfl, ?_, rfl, hover.grown⟩ houter
        rw [← hbelow.length_bases]
      · exact houter

namespace Machine

section Brackets

variable [Tape T] [Stepper σ] {m : Machine σ n} {tape : T} {props : Option Json}
  {r r' : Run σ n T}

/-- The transaction with the given number began when a place was taken that has been taken since. -/
def Opened (m : Machine σ n) (tape : T) (props : Option Json) (r : Run σ n T) (place label : Nat) :
    Prop :=
  ∃ before count, m.Reaches tape props before ∧ before.stack.size = place ∧
    m.Put before count r ∧ before.productions = label

/-- The open transactions are those of the frames that have one, and the next step may only end the
one of the active frame. -/
structure Brackets (m : Machine σ n) (tape : T) (props : Option Json) (r : Run σ n T) : Prop where
  branched : ∀ f ∈ r.stack.frames, f.branched = f.policy.branches
  opened : ∃ labels, openBranches r.events = some labels ∧
    List.Forall₂ (m.Opened tape props r) (branchedPlaces r.stack.frames) labels
  resolved : ∀ r', m.step r = .ok r' →
    resolutions r'.events = r.resolving ++ resolutions r.events ∧
    (r.resolving ≠ [] → r.stack.size = r'.stack.size + 1 ∧ ∃ label labels,
      openBranches r.events = some (label :: labels) ∧ openBranches r'.events = some labels ∧
      m.Opened tape props r r'.stack.size label)
  halted : ∀ halt, m.step r = .error halt →
    resolutions halt.run.events = resolutions r.events
  accepted : .accept ∈ r.resolving → ∃ f rest, r.stack.frames = f :: rest ∧
    r.flow = .complete false ∧ f.fails false r.cursor.position = false ∧ f.policy.keeps = true

theorem Opened.step {places labels : List Nat}
    (h : List.Forall₂ (m.Opened tape props r) places labels) (hstep : m.step r = .ok r')
    (htaken : ∀ place ∈ places, place < r'.stack.size) :
    List.Forall₂ (m.Opened tape props r') places labels := by
  refine ((List.forall₂_and_left _ _).mpr ⟨htaken, h⟩).imp ?_
  rintro place label ⟨hplace, before, count, hbefore, rfl, hput, hlabel⟩
  exact ⟨before, count + 1, hbefore, rfl, hput.next hstep hplace, hlabel⟩

theorem Reaches.branched (h : m.Reaches tape props r) :
    ∀ f ∈ r.outline.frames, f.branched = f.policy.branches := by
  refine h.induction ?_ ?_
  · intro first hfirst
    rw [start_outline hfirst]
    intro f hf
    rw [List.mem_singleton.mp hf]
    rfl
  · intro r r' hr ih hstep
    have hturn := hr.turn hstep
    generalize r'.outline = o at hturn
    unfold Run.outline at ih
    cases hturn with
    | kept hstepping _ =>
        simp only [hstepping.frames, List.map_cons, List.forall_mem_cons] at ih ⊢
        exact ih
    | pushed hstepping hplan _ =>
        simp only [hstepping.frames, List.map_cons, List.forall_mem_cons] at ih ⊢
        refine ⟨?_, ih⟩
        simp [Entry.pushed, Frame.unstarted, (plan_enter hplan).branched]
    | spliced hstepping _ _ =>
        simp only [hstepping.frames, List.map_cons, List.forall_mem_cons] at ih ⊢
        exact ih
    | finished hframes _ _ =>
        simp only [hframes, List.map_cons, List.forall_mem_cons] at ih ⊢
        exact ih.2

/-- What a turn does to transactions: nothing, or one begins with a new place, or the last one ends
with the place of the active frame. -/
theorem Turn.transactions {o : Outline σ n} (h : m.Turn r o) :
    (branchedPlaces o.frames = branchedPlaces r.outline.frames ∧
      openBranches o.milestones = openBranches r.outline.milestones ∧
      resolutions o.milestones = resolutions r.outline.milestones ∧ r.resolving = []) ∨
    (branchedPlaces o.frames = r.stack.size :: branchedPlaces r.outline.frames ∧
      openBranches o.milestones =
        (openBranches r.outline.milestones).map (r.productions :: ·) ∧
      resolutions o.milestones = resolutions r.outline.milestones ∧ r.resolving = []) ∨
    ∃ act, branchedPlaces r.outline.frames = o.frames.length :: branchedPlaces o.frames ∧
      (∀ label labels, openBranches r.outline.milestones = some (label :: labels) →
        openBranches o.milestones = some labels) ∧
      resolutions o.milestones = act :: resolutions r.outline.milestones ∧ r.resolving = [act] ∧
      o.frames.length + 1 = r.stack.size := by
  cases h with
  | kept hstepping _ =>
      left
      have hidle : r.resolving = [] := by simp [Run.resolving, hstepping.flow]
      refine ⟨?_, rfl, rfl, hidle⟩
      simp only [Run.outline, hstepping.frames, branchedPlaces_unstarted]
      rfl
  | @pushed top rest value a tail production e hstepping hplan _ =>
      have hidle : r.resolving = [] := by simp [Run.resolving, hstepping.flow]
      have hbranched := (plan_enter hplan).branched
      -- Only a match that may have to be undone on its own gets a transaction.
      rcases hbranches : e.frame.policy.branches with _ | _
      · left
        refine ⟨?_, rfl, rfl, hidle⟩
        simp only [Run.outline, hstepping.frames, branchedPlaces_unstarted, branchedPlaces,
          Entry.pushed, hbranches, hbranched]
        rfl
      · right
        left
        refine ⟨?_, rfl, rfl, hidle⟩
        simp only [Run.outline, hstepping.frames, branchedPlaces_unstarted, branchedPlaces,
          Entry.pushed, hbranches, Stack.size]
        rfl
  | spliced hstepping _ _ =>
      left
      have hidle : r.resolving = [] := by simp [Run.resolving, hstepping.flow]
      refine ⟨?_, rfl, rfl, hidle⟩
      simp only [Run.outline, hstepping.frames, branchedPlaces_unstarted]
      rfl
  | @finished top below rest failed value hframes hflow _ =>
      have hresolving : r.resolving = if top.branched then
          [if top.fails failed r.cursor.position || !top.policy.keeps then .reject else .accept]
          else [] := by
        simp only [Run.resolving, hflow, hframes]
      rcases hbranched : top.branched with _ | _
      · left
        simp only [Run.outline, hframes, branchedPlaces_unstarted, branchedPlaces, hbranched,
          Frame.settlement, hresolving]
        exact ⟨rfl, rfl, rfl, rfl⟩
      · right
        right
        rw [hbranched, if_pos rfl] at hresolving
        have hplaces : branchedPlaces r.outline.frames = (below :: rest).length ::
            branchedPlaces (below :: rest) := by
          simp only [Run.outline, hframes, branchedPlaces_unstarted, branchedPlaces, hbranched,
            if_true, List.length_cons]
        refine ⟨_, ?_, ?_, ?_, hresolving, ?_⟩
        · rw [hplaces, List.length_map, branchedPlaces_unstarted]
        · intro label labels hopen
          simp only [Frame.settlement, hbranched, if_true]
          cases (top.fails failed r.cursor.position || !top.policy.keeps) <;>
            simp [openBranches, hopen]
        · simp only [Frame.settlement, hbranched, if_true]
          cases (top.fails failed r.cursor.position || !top.policy.keeps) <;> rfl
        · simp [Stack.size, hframes]

theorem Reaches.opened (h : m.Reaches tape props r) :
    ∃ labels, openBranches r.outline.milestones = some labels ∧
      List.Forall₂ (m.Opened tape props r) (branchedPlaces r.outline.frames) labels := by
  refine h.induction ?_ ?_
  · intro first hfirst
    rw [start_outline hfirst]
    exact ⟨[], rfl, .nil⟩
  · rintro r r' hr ⟨labels, hopen, hopened⟩ hstep
    have hturn := hr.turn hstep
    have hplaces : ∀ place ∈ branchedPlaces r'.outline.frames, place < r'.stack.size := by
      intro place hplace
      rw [← r'.length_outline]
      exact lt_of_mem_branchedPlaces hplace
    -- A transaction that stays open stays with its place, whichever rule has the place by now.
    rcases hturn.transactions with ⟨hsame, hopen', -⟩ | ⟨hnew, hopen', -⟩ |
      ⟨act, hlast, hopen', -⟩
    · rw [hsame] at hplaces
      refine ⟨labels, hopen'.trans hopen, ?_⟩
      rw [hsame]
      exact Opened.step hopened hstep hplaces
    · rw [hnew, List.forall_mem_cons] at hplaces
      refine ⟨r.productions :: labels, by rw [hopen', hopen]; rfl, ?_⟩
      rw [hnew]
      refine .cons ?_ (Opened.step hopened hstep hplaces.2)
      exact ⟨r, 1, hr, rfl, .first hstep hplaces.1, rfl⟩
    · rw [hlast] at hopened
      rcases hopened with _ | @⟨_, label, _, outer, hfirst, hrest⟩
      exact ⟨outer, hopen' label outer hopen, Opened.step hrest hstep hplaces⟩

theorem End.transactions {milestones : List Event} {outcome : Outcome}
    (h : Machine.End r milestones outcome) :
    openBranches milestones = openBranches r.outline.milestones ∧
      resolutions milestones = resolutions r.outline.milestones := by
  cases h <;> exact ⟨rfl, rfl⟩

theorem Reaches.brackets (h : m.Reaches tape props r) : m.Brackets tape props r where
  branched := fun f hf => h.branched f.unstarted (List.mem_map_of_mem hf)
  opened := by
    obtain ⟨labels, hopen, hopened⟩ := h.opened
    rw [Run.outline, openBranches_milestones] at hopen
    rw [Run.outline, branchedPlaces_unstarted] at hopened
    exact ⟨labels, hopen, hopened⟩
  resolved := by
    intro r' hstep
    obtain ⟨labels, hopen, hopened⟩ := h.opened
    have htransactions := (h.turn hstep).transactions
    rw [r'.length_outline] at htransactions
    simp only [← openBranches_milestones r.events, ← openBranches_milestones r'.events,
      ← resolutions_milestones r.events, ← resolutions_milestones r'.events]
    rcases htransactions with ⟨-, -, hsame, hidle⟩ | ⟨-, -, hsame, hidle⟩ |
      ⟨act, hlast, hopen', hresolved, hresolving, hsize⟩
    · rw [hidle]
      exact ⟨hsame, by simp⟩
    · rw [hidle]
      exact ⟨hsame, by simp⟩
    · rw [hresolving]
      refine ⟨hresolved, fun _ => ⟨hsize.symm, ?_⟩⟩
      rw [hlast] at hopened
      rcases hopened with _ | @⟨_, label, _, outer, hfirst, hrest⟩
      exact ⟨label, outer, hopen, hopen' label outer hopen, hfirst⟩
  halted := by
    intro halt hstep
    rw [← resolutions_milestones, ← resolutions_milestones r.events]
    exact (h.ending hstep).transactions.2
  accepted := Run.accept_of_resolving

end Brackets

variable [Stepper σ]

/-- The snapshot of a transaction, and the draft that it restores, are those of the state before the
place of its frame was taken. -/
def Remembers (m : Machine σ n) (tape : Draft) (props : Option Json) (r : Run σ n Draft)
    (place : Nat) (snapshot : Snapshot) : Prop :=
  ∃ before count, m.Reaches tape props before ∧ before.stack.size = place ∧
    m.Put before count r ∧ snapshot = before.tape.snapshot ∧
    r.tape.restore snapshot = { before.tape with branches := r.tape.branches }

/-- Transactions are bracketed on every tape, and none is left open at an ordinary end. On a draft
each one remembers the draft on which its place was taken. -/
theorem run_brackets (m : Machine σ n) (props : Option Json) :
    (∀ (T : Type) [Tape T] (tape : T) (r : Run σ n T), m.Reaches tape props r →
      m.Brackets tape props r) ∧
    (∀ (T : Type) [Tape T] (tape : T) (fuel : Nat) (halt : Halt σ n T),
      m.run tape props fuel = some halt → ∃ labels, openBranches halt.run.events = some labels ∧
        (halt.outcome.ordinary = true → labels = [])) ∧
    ∀ (source : Source) (r : Run σ n Draft), m.Reaches (Draft.fresh source) props r →
      List.Forall₂ (m.Remembers (Draft.fresh source) props r) (branchedPlaces r.stack.frames)
        r.tape.branches := by
  refine ⟨fun T _ tape r hr => hr.brackets, ?_, ?_⟩
  · intro T _ tape fuel halt hrun
    rw [← openBranches_milestones]
    rcases run_ends hrun with hstart | ⟨r, hr, hstep⟩
    · obtain ⟨hmilestones, hordinary⟩ := start_error hstart
      refine ⟨[], ?_, fun _ => rfl⟩
      change openBranches halt.run.outline.milestones = _
      rw [hmilestones]
      rfl
    · obtain ⟨labels, hopen, hopened⟩ := hr.opened
      have hend := hr.ending hstep
      refine ⟨labels, hend.transactions.1.trans hopen, ?_⟩
      intro hordinary
      obtain ⟨top, failed, hframes, -⟩ := hend.outermost hordinary
      have hrooted := hr.rooted
      rw [hframes] at hrooted
      rw [Run.outline, branchedPlaces_unstarted, hframes] at hopened
      simpa [branchedPlaces, hrooted.2.2.1] using hopened
  · intro source r hr
    obtain ⟨bases, hsound, hbases⟩ := hr.based
    have hsnapshots := hsound.layers.snapshots
    have hplaces : branchedPlaces r.config.frames = branchedPlaces r.stack.frames :=
      branchedPlaces_map Frame.bare (fun _ => rfl) r.stack.frames
    rw [hplaces] at hsnapshots
    refine hsnapshots.imp ?_
    rintro place snapshot ⟨ups, base, downs, hups, rfl, rfl, hgrown⟩
    obtain ⟨before, count, hbefore, hsize, hput, rfl⟩ := hbases ups base downs hups
    exact ⟨before, count, hbefore, hsize, hput, rfl, Draft.restore_snapshot hgrown⟩

/-- Two words are tried inside of each other. The inner one fails, the outer one is kept. -/
theorem run_brackets_wordReader : ∃ r inner outer halt,
    let m := wordReader [.eatMatch (.node "Word")]
    let tape := Draft.fresh (.ofSegments [some "aa"])
    m.Brackets tape none r ∧ openBranches r.events = some [5, 3] ∧ r.resolving = [.reject] ∧
      r.tape.branches = [inner, outer] ∧ m.Remembers tape none r 3 inner ∧
      m.Remembers tape none r 2 outer ∧ m.run tape none 15 = some halt ∧
      openBranches halt.run.events = some [] := by
  obtain ⟨r, inner, outer, hr, hopen, hresolving, hplaces, hbranches⟩ : ∃ r inner outer,
      (wordReader [.eatMatch (.node "Word")]).stateAt? (.ofSegments [some "aa"]) 8 = some r ∧
        openBranches r.events = some [5, 3] ∧ r.resolving = [.reject] ∧
        branchedPlaces r.stack.frames = [3, 2] ∧ r.tape.branches = [inner, outer] :=
    ⟨_, _, _, rfl, rfl, rfl, rfl, rfl⟩
  obtain ⟨halt, extent, hrun, haccepted⟩ : ∃ halt extent,
      (wordReader [.eatMatch (.node "Word")]).run (Draft.fresh (.ofSegments [some "aa"])) none 15 =
        some halt ∧ halt.outcome = .accepted extent := ⟨_, _, rfl, rfl⟩
  have hreaches := reaches_of_stateAt? hr
  obtain ⟨hbrackets, hends, hremembers⟩ := run_brackets (wordReader [.eatMatch (.node "Word")]) none
  have hsnapshots := hremembers _ r hreaches
  rw [hplaces, hbranches] at hsnapshots
  rcases hsnapshots with _ | ⟨hinner, _ | ⟨houter, -⟩⟩
  obtain ⟨labels, hclosed, hnone⟩ := hends Draft _ 15 halt hrun
  rw [hnone (by rw [haccepted]; rfl)] at hclosed
  exact ⟨r, inner, outer, halt, hbrackets Draft _ r hreaches, hopen, hresolving, hbranches, hinner,
    houter, hrun, hclosed⟩

end Machine

end GrammarMachine
