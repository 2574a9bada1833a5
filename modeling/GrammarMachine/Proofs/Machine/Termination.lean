import GrammarMachine.Proofs.Machine.Places
import GrammarMachine.Proofs.Machine.TailCall
import Mathlib.Data.DFinsupp.WellFounded
import Mathlib.Data.Prod.Lex

/-!
Runs of scripts come to an end. Frames that are entered above others use up the depth, and frames
that take the place of others go down in rank. The measure of a run compares the stack from the
outermost frame inwards, each place by the rank of its frame and by what its script has left; the
frames above a place do not count as long as the place itself becomes less.
-/

namespace GrammarMachine

variable {σ : Type} {n : Nat}

def Script.left (s : Script) : Nat :=
  s.body.length + s.tail.toList.length

/-- The last match of a script for the given type, if it may take the place of the script, is one
for a type of lower rank. -/
def Script.Descends (rank : String → Nat) (nodeType : String) (s : Script) : Prop :=
  ∀ a node, s.tail = some (.attempt a) → a.verb = .eat ∨ a.verb = .hold →
    a.goal.form = .node node → rank node.nodeType < rank nodeType

/-- Tail calls go down in rank. -/
def Machine.TailsDescend (m : Machine σ n) (rank : String → Nat) : Prop :=
  ∀ l nodeType rule, (m.catalog l).grammar.rule? nodeType = some rule →
    ∀ invocation s, rule invocation = .script s → s.Descends rank nodeType

def Frame.Descends (rank : String → Nat) (f : Frame σ n) : Prop :=
  ∃ s, f.production = .script s ∧ s.Descends rank f.nodeType

/-- What a frame counts: its rank, then what its script has left. A place without a frame counts
less. -/
def Frame.weight (rank : String → Nat) (f : Frame σ n) : ℕ ×ₗ ℕ :=
  toLex (rank f.nodeType + 1, match f.production with
    | .script s => s.left
    | .custom _ => 0)

/-- What the places of a stack count, the outermost one first. -/
def weights (rank : String → Nat) (limit : Nat) (frames : List (Frame σ n)) :
    Lex (Fin limit → ℕ ×ₗ ℕ) :=
  toLex fun place => ((frames.map (Frame.weight rank)).reverse[place.val]?).getD (toLex (0, 0))

/-- A script that is finished has one more step to go. -/
def Flow.weight : Flow → Nat
  | .resume _ => 1
  | .complete _ => 0

def Outline.measure (rank : String → Nat) (limit : Nat) (o : Outline σ n) :
    Lex (Fin limit → ℕ ×ₗ ℕ) ×ₗ ℕ :=
  toLex (weights rank limit o.frames, o.flow.weight)

section Measure

variable {rank : String → Nat} {limit : Nat} {f : Frame σ n} {rest above : List (Frame σ n)}

theorem weights_unstarted (frames : List (Frame σ n)) :
    weights rank limit (frames.map Frame.unstarted) = weights rank limit frames := by
  unfold weights
  rw [List.map_map]
  rfl

theorem weights_append_apply {place : Fin limit} (h : place.val < rest.length) :
    ofLex (weights rank limit (above ++ rest)) place = ofLex (weights rank limit rest) place := by
  have hbelow : place.val < (rest.map (Frame.weight rank)).reverse.length := by simpa using h
  change ((above ++ rest).map _).reverse[place.val]?.getD _ = _
  rw [List.map_append, List.reverse_append, List.getElem?_append_left hbelow]
  rfl

theorem weights_append_length (hlimit : rest.length < limit) :
    ofLex (weights rank limit (above ++ rest)) ⟨rest.length, hlimit⟩ =
      (above.getLast?.map (Frame.weight rank)).getD (toLex (0, 0)) := by
  have hplace : (rest.map (Frame.weight rank)).reverse.length = rest.length := by simp
  change ((above ++ rest).map _).reverse[rest.length]?.getD _ = _
  rw [List.map_append, List.reverse_append, List.getElem?_append_right hplace.le, hplace,
    Nat.sub_self, ← List.head?_eq_getElem?, List.head?_reverse, List.getLast?_map]

theorem weights_lt (hlimit : rest.length < limit)
    (habove : (above.getLast?.map (Frame.weight rank)).getD (toLex (0, 0)) < f.weight rank) :
    weights rank limit (above ++ rest) < weights rank limit (f :: rest) := by
  refine ⟨⟨rest.length, hlimit⟩, ?_, ?_⟩
  · intro place hplace
    have hbefore := @weights_append_apply _ _ rank _ rest [f] place hplace
    exact (weights_append_apply hplace).trans hbefore.symm
  · have hbefore := @weights_append_length _ _ rank _ rest [f] hlimit
    exact (weights_append_length hlimit).trans_lt (habove.trans_eq hbefore.symm)

theorem Frame.weight_pos (f : Frame σ n) : toLex (0, 0) < f.weight rank :=
  Prod.Lex.toLex_lt_toLex.mpr (.inl (Nat.succ_pos _))

theorem Frame.weight_lt_of_left {g : Frame σ n} {s s' : Script} (htype : g.nodeType = f.nodeType)
    (hs : f.production = .script s) (hs' : g.production = .script s') (hleft : s'.left < s.left) :
    g.weight rank < f.weight rank := by
  unfold Frame.weight
  rw [htype, hs, hs']
  exact Prod.Lex.toLex_lt_toLex.mpr (.inr ⟨rfl, hleft⟩)

theorem Frame.weight_lt_of_rank {g : Frame σ n} (h : rank g.nodeType < rank f.nodeType) :
    g.weight rank < f.weight rank :=
  Prod.Lex.toLex_lt_toLex.mpr (.inl (Nat.succ_lt_succ h))

end Measure

theorem Script.left_step (s : Script) :
    s.step.2.left < s.left ∨ s.step = (.done none, s) := by
  rcases s with ⟨_ | ⟨i, body⟩, tail⟩
  · rcases tail with _ | i
    · exact .inr rfl
    · exact .inl (Nat.zero_lt_one)
  · left
    simp only [step, left, List.length_cons]
    omega

theorem Script.Descends.step {rank : String → Nat} {nodeType : String} {s : Script}
    (h : s.Descends rank nodeType) : s.step.2.Descends rank nodeType := by
  rcases s with ⟨_ | ⟨i, body⟩, tail⟩
  · rintro a node ⟨⟩
  · exact h

theorem Script.tail_of_done {s : Script} {i : Instruction} (h : s.step.1 = .done (some i)) :
    s.tail = some i := by
  rcases s with ⟨_ | ⟨first, body⟩, tail⟩
  · exact Step.done.inj h
  · cases h

section Steps

variable {T : Type} [Tape T] [Stepper σ] {m : Machine σ n} {rank : String → Nat} {limit : Nat}
  {tape : T} {props : Option Json} {r r' : Run σ n T} {top : Frame σ n} {rest : List (Frame σ n)}
  {value : Option Extent} {step : Step} {production : Production σ}

theorem Run.Stepping.script (h : r.Stepping top rest value step production)
    (hframes : ∀ f ∈ r.stack.frames, f.Descends rank) :
    ∃ s, top.production = .script s ∧ s.Descends rank top.nodeType ∧
      step = s.step.1 ∧ production = .script s.step.2 := by
  obtain ⟨s, hs, hdescends⟩ := hframes top (by rw [h.frames]; exact List.mem_cons_self)
  have hstep := h.step
  rw [hs] at hstep
  obtain ⟨rfl, rfl⟩ := Prod.mk.inj hstep
  exact ⟨s, hs, hdescends, rfl, rfl⟩

namespace Machine

omit [Stepper σ] in
theorem TailsDescend.entry (hrank : m.TailsDescend rank) (hscripted : m.Scripted) {a : Attempt}
    {tail : Bool} {e : Entry σ n} (h : e.Fits m tape top a tail) : e.frame.Descends rank := by
  obtain ⟨rule, hrule, hproduction⟩ := h.rule
  obtain ⟨s, hs⟩ := hscripted _ _ rule hrule e.invocation
  exact ⟨s, hproduction.trans hs, hrank _ _ rule hrule _ s hs⟩

omit [Stepper σ] in
theorem rank_lt_of_replaces {s : Script} (hdescends : s.Descends rank top.nodeType)
    {a : Attempt} {tail : Bool} (hstep : (Instruction.attempt a).asStep tail = s.step.1)
    {e : Entry σ n} (hplan : m.plan tape top a tail = .ok (.enter e))
    (hreplaces : e.replaces = true) : rank e.frame.nodeType < rank top.nodeType := by
  obtain ⟨rfl, hpolicy, htransparent⟩ := (plan_enter hplan).replaces hreplaces
  obtain ⟨node, slot, place, intrinsic, rule, hform, rfl⟩ := plan_enter_entry hplan
  have hverb : a.verb = .eat ∨ a.verb = .hold := by
    generalize a.verb = verb at hpolicy
    revert hpolicy
    cases verb <;> decide
  -- The outermost frame is not transparent, so the goal is that of the instruction.
  have hgoal : m.goalFor top a = a.goal := by
    simp only [Frame.isTransparent, Bool.and_eq_true, Bool.not_eq_true'] at htransparent
    unfold goalFor
    rw [htransparent.2]
    split <;> rfl
  rw [hgoal] at hform
  exact hdescends a node (Script.tail_of_done hstep.symm) hverb hform

theorem Turn.descends (hscripted : m.Scripted) (hrank : m.TailsDescend rank) {o : Outline σ n}
    (h : m.Turn r o) (hframes : ∀ f ∈ r.stack.frames, f.Descends rank) :
    ∀ f ∈ o.frames, f.Descends rank := by
  have hunstarted : ∀ frames : List (Frame σ n), (∀ f ∈ frames, f.Descends rank) →
      ∀ f ∈ frames.map Frame.unstarted, f.Descends rank :=
    fun frames hall => List.forall_mem_map.mpr hall
  have hbelow : ∀ {top : Frame σ n} {rest}, r.stack.frames = top :: rest →
      ∀ f ∈ rest, f.Descends rank := by
    intro top rest hstack f hf
    rw [hstack] at hframes
    exact hframes f (List.mem_cons_of_mem _ hf)
  cases h with
  | kept hstepping _ =>
      obtain ⟨s, -, hdescends, -, rfl⟩ := hstepping.script hframes
      apply hunstarted
      exact List.forall_mem_cons.mpr ⟨⟨_, rfl, hdescends.step⟩, hbelow hstepping.frames⟩
  | pushed hstepping hplan _ =>
      obtain ⟨s, -, hdescends, -, rfl⟩ := hstepping.script hframes
      apply hunstarted
      refine List.forall_mem_cons.mpr ⟨hrank.entry hscripted (plan_enter hplan), ?_⟩
      exact List.forall_mem_cons.mpr ⟨⟨_, rfl, hdescends.step⟩, hbelow hstepping.frames⟩
  | spliced hstepping hplan _ =>
      apply hunstarted
      exact List.forall_mem_cons.mpr
        ⟨hrank.entry hscripted (plan_enter hplan), hbelow hstepping.frames⟩
  | finished hstack _ _ =>
      apply hunstarted
      exact hbelow hstack

/-- Each step makes the measure less. -/
theorem Turn.measure_lt {o : Outline σ n} (h : m.Turn r o)
    (hframes : ∀ f ∈ r.stack.frames, f.Descends rank) (hlimit : r.stack.size ≤ limit) :
    o.measure rank limit < r.outline.measure rank limit := by
  have hplace : ∀ {top : Frame σ n} {rest}, r.stack.frames = top :: rest → rest.length < limit := by
    intro top rest hstack
    rw [Stack.size, hstack] at hlimit
    exact hlimit
  -- It is enough that the place of the active frame becomes less.
  have hless : ∀ {top : Frame σ n} {rest} (above : List (Frame σ n)),
      r.stack.frames = top :: rest → o.frames = (above ++ rest).map Frame.unstarted →
      (above.getLast?.map (Frame.weight rank)).getD (toLex (0, 0)) < top.weight rank →
      o.measure rank limit < r.outline.measure rank limit := by
    intro top rest above hstack hafter hweight
    refine Prod.Lex.toLex_lt_toLex.mpr (.inl ?_)
    rw [hafter, weights_unstarted]
    change _ < weights rank limit (r.stack.frames.map Frame.unstarted)
    rw [weights_unstarted, hstack]
    exact weights_lt (hplace hstack) hweight
  cases h with
  | @kept top rest value step production flow hstepping hsettles =>
      obtain ⟨s, hs, -, rfl, rfl⟩ := hstepping.script hframes
      rcases s.left_step with hleft | hdone
      · exact hless [_] hstepping.frames rfl (Frame.weight_lt_of_left rfl hs rfl hleft)
      · -- A script that ends stays as it is and is finished.
        have hsame : ({ top with production := .script s.step.2 } : Frame σ n) = top := by
          rw [hdone, ← hs]
        rw [hdone] at hsettles
        cases hsettles
        refine Prod.Lex.toLex_lt_toLex.mpr (.inr ⟨?_, ?_⟩)
        · rw [hsame, ← hstepping.frames]
          rfl
        · change 0 < r.flow.weight
          rw [hstepping.flow]
          exact Nat.zero_lt_one
  | @pushed top rest value a tail production e hstepping hplan _ =>
      obtain ⟨s, hs, -, hstep, rfl⟩ := hstepping.script hframes
      rcases s.left_step with hleft | hdone
      · exact hless [_, _] hstepping.frames rfl (Frame.weight_lt_of_left rfl hs rfl hleft)
      · rw [hdone] at hstep
        cases tail <;> cases hstep
  | @spliced top rest value a tail production e hstepping hplan hreplaces =>
      obtain ⟨s, hs, hdescends, hstep, rfl⟩ := hstepping.script hframes
      exact hless [_] hstepping.frames rfl
        (Frame.weight_lt_of_rank (rank_lt_of_replaces hdescends hstep hplan hreplaces))
  | finished hstack hflow hvalue => exact hless [] hstack rfl (Frame.weight_pos _)

theorem Reaches.descends (hscripted : m.Scripted) (hrank : m.TailsDescend rank)
    (h : m.Reaches tape props r) : ∀ f ∈ r.stack.frames, f.Descends rank := by
  refine h.induction ?_ ?_
  · intro first hfirst f hf
    have houtline := congrArg Outline.frames (start_outline hfirst)
    have hf' : f.unstarted ∈ first.outline.frames := List.mem_map_of_mem hf
    rw [houtline, List.mem_singleton] at hf'
    refine ⟨_, congrArg Frame.production hf', ?_⟩
    rintro a node ⟨⟩
  · intro r r' hr ih hstep
    have hturn := (hr.turn hstep).descends hscripted hrank ih
    exact fun f hf => hturn f.unstarted (List.mem_map_of_mem hf)

end Machine

end Steps

section Depth

variable [Stepper σ] {m : Machine σ n} {rank : String → Nat} {source : Source}
  {props : Option Json} {r : Run σ n Draft} {c c' : Config σ n} {top : Frame σ n}
  {rest : List (Frame σ n)}

omit [Stepper σ] in
theorem Config.length_write (c : Config σ n) (tags : List Tag) :
    (c.write tags).frames.length = c.frames.length := by
  have hframes := congrArg List.length (map_unstarted_captured (Tape.mark c.tape) tags c.frames)
  rwa [List.length_map, List.length_map] at hframes

theorem Config.enter_length {e : Entry σ n} (h : c.enter top rest e = .ok c') :
    c'.frames.length ≤ max c.limit (rest.length + 1) := by
  unfold enter push at h
  split at h
  · cases h
  rename_i pushed hpushed
  cases h
  rw [show ({ pushed.write (e.tags pushed.tape) with flow := .resume none } : Config σ n).frames =
    (pushed.write (e.tags pushed.tape)).frames from rfl, length_write]
  repeat' split at hpushed
  all_goals cases hpushed
  · exact le_max_right _ _
  · rename_i hlimit
    simp only [List.length_cons]
    omega

theorem Config.finishTop_frames {failed : Bool} (h : c.finishTop top rest failed = .ok c') :
    c'.frames = rest := by
  unfold finishTop resumeBelow at h
  dsimp only at h
  repeat' split at h
  all_goals cases h
  all_goals rfl

namespace Machine

theorem Carried.length_le (h : Carried m c top rest c') (hframes : c.frames = top :: rest) :
    c'.frames.length ≤ max c.limit c.frames.length := by
  cases h with
  | silent => exact le_max_right _ _
  | placed =>
      rw [← c.length_write]
      exact le_max_right _ _
  | entered _ hentered =>
      rw [hframes]
      exact Config.enter_length hentered

theorem move_length_le (h : m.move c = .ok c') :
    c'.frames.length ≤ max c.limit c.frames.length := by
  unfold move at h
  split at h
  · cases h
  · rename_i top rest hframes
    split at h
    · obtain ⟨production, hcarried⟩ := stepTop_ok h
      rw [hframes]
      exact hcarried.length_le rfl
    · rw [Config.finishTop_frames h, hframes]
      exact le_trans (Nat.le_succ _) (le_max_right _ _)

theorem Reaches.limit_eq (h : m.Reaches (Draft.fresh source) props r) :
    r.config.limit = m.options.maxDepth := by
  obtain ⟨count, hmoves⟩ := h.moves
  exact moves_limit hmoves

theorem Reaches.size_le (h : m.Reaches (Draft.fresh source) props r) :
    r.stack.size ≤ m.options.maxDepth := by
  suffices hconfig : r.config.frames.length ≤ m.options.maxDepth by
    simpa [Run.config, Stack.size] using hconfig
  refine h.induction ?_ ?_
  · intro first hfirst
    have hdepth : m.options.maxDepth ≠ 0 := by
      intro hzero
      have hstart := m.start_eq source props
      simp only [hfirst, hzero, if_true] at hstart
      split at hstart
      · obtain ⟨r', hstart⟩ := hstart
        cases hstart
      · obtain ⟨r', hstart⟩ := hstart
        cases hstart
    rw [config_start hfirst]
    exact Nat.one_le_iff_ne_zero.mpr hdepth
  · intro r r' hr ih hstep
    have hlength := move_length_le (move_of_step hstep)
    rw [hr.limit_eq] at hlength
    omega

theorem Reaches.halts (hscripted : m.Scripted) (hrank : m.TailsDescend rank)
    (h : m.Reaches (Draft.fresh source) props r) : ∃ fuel halt, m.steps fuel r = .error halt := by
  generalize hmeasure : r.outline.measure rank m.options.maxDepth = measure
  induction measure using WellFoundedLT.induction generalizing r with
  | ind measure ih =>
      rcases hstep : m.step r with halt | r'
      · exact ⟨1, halt, by rw [Machine.steps, hstep]⟩
      · have hless := (h.turn hstep).measure_lt (h.descends hscripted hrank) h.size_le
        obtain ⟨fuel, halt, hsteps⟩ := ih _ (hmeasure ▸ hless) (h.step hstep) rfl
        refine ⟨fuel + 1, halt, ?_⟩
        rw [Machine.steps, hstep]
        exact hsteps

/-- Machines whose rules are scripts come to an end with every input. -/
theorem exists_run (hscripted : m.Scripted) (hrank : m.TailsDescend rank) (source : Source)
    (props : Option Json) : ∃ fuel halt, m.run (Draft.fresh source) props fuel = some halt := by
  rcases hstart : m.start (Draft.fresh source) props with halt | first
  · exact ⟨0, halt, by simp only [run, hstart]⟩
  · have hfirst : m.Reaches (Draft.fresh source) props first := ⟨first, 0, hstart, rfl⟩
    obtain ⟨fuel, halt, hsteps⟩ := Reaches.halts hscripted hrank hfirst
    exact ⟨fuel, halt, by simp only [run, hstart, hsteps]⟩

end Machine

end Depth

end GrammarMachine
