import GrammarMachine.Proofs.Machine.Termination

/-!
Left recursion. A script whose first match is for a type of the same kind, and so on for all rules
of these types, enters one rule after the other and reads nothing. With a limit on the depth the run
comes to an end all the same, since each rule is entered above the one that asks for it or in its
place, with a lower rank.
-/

namespace GrammarMachine

variable {σ : Type} {n : Nat}

/-- Whether an instruction only has side effects. -/
def Instruction.quiet : Instruction → Bool
  | .attempt _ | .fail => false
  | _ => true

/-- The attempt is at the rule of one of the types: neither a text of its own nor a gap can stand
for the node. -/
def Attempt.Enters (types : String → Prop) (a : Attempt) : Prop :=
  ∃ node, a.goal.form = .node node ∧ types node.nodeType ∧ node.intrinsic = none ∧
    (a.goal.targetSlot.traits.gappy = false ∨ a.through = true)

/-- The first match of a script is for one of the types. -/
def Script.Leans (types : String → Prop) (s : Script) : Prop :=
  ∃ before a after, s.body ++ s.tail.toList = before ++ .attempt a :: after ∧
    (∀ i ∈ before, i.quiet = true) ∧ a.Enters types

/-- The rules of the types only lead to each other before anything is matched. -/
def Machine.LeftRecursive (m : Machine σ n) (types : String → Prop) : Prop :=
  ∀ l nodeType rule, types nodeType → (m.catalog l).grammar.rule? nodeType = some rule →
    ∀ invocation, ∃ s, rule invocation = .script s ∧ s.Leans types

/-- The run is about to match for one of the types first. -/
structure Config.Sinks (types : String → Prop) (c : Config σ n) : Prop where
  leans : ∃ top rest s, c.frames = top :: rest ∧ top.production = .script s ∧ s.Leans types
  resumes : ∃ value, c.flow = .resume value

/-- No rule of the types is in progress. -/
def Clear (types : String → Prop) (frames : List (Frame σ n)) : Prop :=
  ∀ f ∈ frames, f.isFragment = false → ¬ types f.nodeType

theorem clear_cons {types : String → Prop} {f : Frame σ n} {rest : List (Frame σ n)} :
    Clear types (f :: rest) ↔ (f.isFragment = false → ¬ types f.nodeType) ∧ Clear types rest :=
  List.forall_mem_cons

theorem Clear.captured {types : String → Prop} {frames : List (Frame σ n)}
    (h : Clear types frames) (mark : Mark) (tags : List Tag) :
    Clear types (captured mark tags frames) := by
  intro f hf
  have hmem : f.unstarted ∈ frames.map Frame.unstarted := by
    rw [← map_unstarted_captured mark tags]
    exact List.mem_map_of_mem hf
  obtain ⟨g, hg, hsame⟩ := List.mem_map.mp hmem
  have htype : g.nodeType = f.nodeType := congrArg (fun f => f.nodeType) hsame
  have hfragment : g.isFragment = f.isFragment := congrArg (fun f => f.isFragment) hsame
  rw [← htype, ← hfragment]
  exact h g hg

/-- The ends of left recursion: the grammar is to blame, or there are too many frames. -/
def Outcome.Overflows (limit : Nat) (outcome : Outcome) : Prop :=
  outcome.blamesGrammar = true ∨ outcome = .rejected (.depthExceeded limit)

theorem Script.Leans.step {types : String → Prop} {s : Script} (h : s.Leans types) :
    (∃ i, i.quiet = true ∧ s.step.1 = .yield i ∧ s.step.2.Leans types) ∨
      ∃ a tail, a.Enters types ∧ s.step.1 = (Instruction.attempt a).asStep tail := by
  obtain ⟨before, a, after, hs, hquiet, henters⟩ := h
  rcases s with ⟨_ | ⟨i, body⟩, tail⟩
  · right
    refine ⟨a, true, henters, ?_⟩
    rcases before with _ | ⟨j, before⟩
    · rcases tail with _ | last
      · cases hs
      · obtain ⟨rfl, -⟩ := List.cons.inj hs
        rfl
    · have hlength := congrArg List.length hs
      have htail : tail.toList.length ≤ 1 := Option.length_toList_le
      simp only [List.nil_append, List.length_append, List.length_cons] at hlength
      omega
  · rcases before with _ | ⟨j, before⟩
    · obtain ⟨rfl, -⟩ := List.cons.inj hs
      exact .inr ⟨a, false, henters, rfl⟩
    · obtain ⟨rfl, hrest⟩ := List.cons.inj hs
      obtain ⟨hi, hquiet⟩ := List.forall_mem_cons.mp hquiet
      exact .inl ⟨i, hi, rfl, before, a, after, hrest, hquiet, henters⟩

namespace Machine

section Plan

variable {T : Type} [Tape T] {m : Machine σ n} {tape : T} {top : Frame σ n} {a : Attempt}
  {tail : Bool} {types : String → Prop}

theorem planForm_of_enters (h : a.Enters types) (m : Machine σ n) (tape : T) (top : Frame σ n)
    (tail : Bool) : ∃ node, types node.nodeType ∧
      m.planForm tape top a tail (m.goalFor top a) =
        ((m.index.resolve m.catalog top.scope node.language).mapError .rejected >>= fun place =>
          (m.checkNodeAt tape a node place).mapError .rejected >>= fun _ =>
            m.planFound tape top a tail node (m.ownSlot a.goal) place none) := by
  obtain ⟨node, hform, htype, hintrinsic, hgap⟩ := h
  have hgoal : m.goalFor top a = a.goal := by simp only [goalFor, hform]
  have hgap' : ∀ place, m.interpolates tape a node (m.ownSlot a.goal) place = false := by
    intro place
    rcases hgap with hgap | hgap
    · simp [interpolates, ownSlot, hgap]
    · simp [interpolates, hgap]
  refine ⟨node, htype, ?_⟩
  simp only [planForm, hgoal, hform, planNode_eq, hgap', hintrinsic, Bool.false_eq_true, if_false]

theorem plan_ok_of_enters (ha : a.Enters types) {p : Plan σ n}
    (h : m.plan tape top a tail = .ok p) :
    ∃ e, p = .enter e ∧ types e.frame.nodeType := by
  obtain ⟨node, htype, hform⟩ := planForm_of_enters ha m tape top tail
  replace h := plan_eq_ok h
  rw [hform] at h
  obtain ⟨place, -, h⟩ := bind_eq_ok.mp h
  obtain ⟨-, -, h⟩ := bind_eq_ok.mp h
  obtain ⟨slot, -, h⟩ := bind_eq_ok.mp h
  obtain ⟨rule, -, h⟩ := bind_eq_ok.mp h
  cases h
  exact ⟨_, rfl, htype⟩

theorem plan_error_of_enters (ha : a.Enters types) {outcome : Outcome}
    (h : m.plan tape top a tail = .error outcome) : outcome.blamesGrammar = true := by
  obtain ⟨node, -, hform⟩ := planForm_of_enters ha m tape top tail
  rw [plan_eq, hform] at h
  split at h
  · cases h
    rfl
  split at h
  · cases h
    rfl
  rcases bind_eq_error.mp h with h | ⟨place, -, h⟩
  · exact blamesGrammar_of_rejected (fun _ => resolve_error) h
  rcases bind_eq_error.mp h with h | ⟨-, -, h⟩
  · exact blamesGrammar_of_rejected (fun _ => checkNode_error) h
  exact planFound_error h

end Plan

section Moves

variable [Stepper σ] {m : Machine σ n} {c c' : Config σ n} {top : Frame σ n}
  {rest : List (Frame σ n)} {types : String → Prop} {a : Attempt} {tail : Bool} {e : Entry σ n}
  {source : Source} {props : Option Json}

theorem LeftRecursive.sinks (hrecursive : m.LeftRecursive types) {tape : Draft} {caller : Frame σ n}
    (hfits : e.Fits m tape caller a tail) (htype : types e.frame.nodeType)
    (h : c.enter top rest e = .ok c') : c'.Sinks types := by
  obtain ⟨rule, hrule, hproduction⟩ := hfits.rule
  obtain ⟨s, hs, hleans⟩ := hrecursive _ _ rule htype hrule e.invocation
  have hscript : e.frame.production = .script s := hproduction.trans hs
  rcases Config.enter_ok h with ⟨-, cleaned, -, rfl⟩ | ⟨-, rfl⟩
  · obtain ⟨start, rest', hframes⟩ := Config.write_head
      (rfl : ({ c with frames := e.spliced top :: rest, tape := cleaned } : Config σ n).frames = _)
      (e.tags cleaned)
    exact ⟨⟨_, rest', s, hframes, hscript, hleans⟩, none, rfl⟩
  · obtain ⟨start, rest', hframes⟩ := Config.write_head
      (rfl : ({ c with
        frames := e.pushed rest.length ::
          { top with returning := e.returns || top.returning } :: rest
        tape := c.tape.branchIf e.frame.policy.branches } : Config σ n).frames = _)
      (e.tags (c.tape.branchIf e.frame.policy.branches))
    exact ⟨⟨_, rest', s, hframes, hscript, hleans⟩, none, rfl⟩

theorem obey_quiet {i : Instruction} (h : i.quiet = true) (m : Machine σ n) (c : Config σ n)
    (top : Frame σ n) (rest : List (Frame σ n)) :
    ∃ tape, m.obey c top rest i false = .ok { c with tape, flow := .resume none } := by
  cases i with
  | attempt => cases h
  | fail => cases h
  | write => exact ⟨_, rfl⟩
  | openSpan => exact ⟨_, rfl⟩
  | closeSpan => exact ⟨_, rfl⟩
  | bind => exact ⟨_, rfl⟩

theorem obey_of_enters (hrecursive : m.LeftRecursive types) (ha : a.Enters types) :
    match m.obey c top rest (.attempt a) tail with
    | .ok c' => c'.Sinks types
    | .error (_, outcome) => outcome.Overflows c.limit := by
  unfold obey
  dsimp only
  rcases hplan : m.plan c.tape top a tail with outcome | p
  · exact .inl (plan_error_of_enters ha hplan)
  · obtain ⟨e, rfl, htype⟩ := plan_ok_of_enters ha hplan
    rcases hentered : c.enter top rest e with ⟨tape, outcome⟩ | c'
    · simp only [follow, hentered]
      exact Config.enter_error hentered
    · simp only [follow, hentered]
      exact hrecursive.sinks (plan_enter hplan) htype hentered

/-- Left recursion goes on with each move, until there are too many frames. -/
theorem LeftRecursive.move (hrecursive : m.LeftRecursive types) (h : c.Sinks types) :
    match m.move c with
    | .ok c' => c'.Sinks types
    | .error (_, outcome) => outcome.Overflows c.limit := by
  obtain ⟨⟨top, rest, s, hframes, hscript, hleans⟩, value, hflow⟩ := h
  simp only [Machine.move, hframes, hflow, stepTop, hscript, Production.step]
  rcases hleans.step with ⟨i, hquiet, hstep, hleans'⟩ | ⟨a, tail, ha, hstep⟩
  · obtain ⟨tape, hobey⟩ := obey_quiet hquiet m
      { c with frames := { top with production := .script s.step.2 } :: rest }
      { top with production := .script s.step.2 } rest
    simp only [hstep, ← hflow, hobey]
    exact ⟨⟨_, _, _, rfl, rfl, hleans'⟩, none, rfl⟩
  · rw [hstep]
    cases tail
    · exact obey_of_enters hrecursive ha
    · exact obey_of_enters hrecursive ha

/-- A move leads into left recursion or leaves no rule of the types in progress. -/
theorem LeftRecursive.enters (hrecursive : m.LeftRecursive types) (h : Clear types c.frames)
    (hmove : m.move c = .ok c') : Clear types c'.frames ∨ c'.Sinks types := by
  unfold Machine.move at hmove
  split at hmove
  · cases hmove
  rename_i top rest hframes
  rw [hframes, clear_cons] at h
  split at hmove
  · obtain ⟨production, hcarried⟩ := stepTop_ok hmove
    have hclear : Clear types ({ top with production } :: rest) := clear_cons.mpr h
    cases hcarried with
    | silent => exact .inl hclear
    | placed => exact .inl (hclear.captured _ _)
    | @entered a tail e _ hfits hentered =>
        by_cases htype : types e.frame.nodeType
        · exact .inr (hrecursive.sinks hfits htype hentered)
        · left
          rcases Config.enter_ok hentered with ⟨-, cleaned, -, rfl⟩ | ⟨-, rfl⟩
          · apply Clear.captured
            exact clear_cons.mpr ⟨fun _ => htype, h.2⟩
          · apply Clear.captured
            exact clear_cons.mpr ⟨fun _ => htype, clear_cons.mpr h⟩
  · rw [Config.finishTop_frames hmove]
    exact .inl h.2

theorem LeftRecursive.reaches (hrecursive : m.LeftRecursive types) {r : Run σ n Draft}
    (h : m.Reaches (Draft.fresh source) props r) :
    Clear types r.config.frames ∨ r.config.Sinks types := by
  refine h.induction ?_ ?_
  · intro first hfirst
    rw [config_start hfirst]
    left
    intro f hf hinner
    obtain rfl := List.mem_singleton.mp hf
    cases hinner
  · intro r r' _ ih hstep
    have hmove := move_of_step hstep
    rcases ih with hclear | hsinks
    · exact hrecursive.enters hclear hmove
    · have hnext := hrecursive.move hsinks
      rw [hmove] at hnext
      exact .inr hnext

/-- A run with a rule of the types in progress ends because of its left recursion. -/
theorem LeftRecursive.overflows (hrecursive : m.LeftRecursive types) {r : Run σ n Draft}
    (h : m.Reaches (Draft.fresh source) props r) {f : Frame σ n} (hf : f ∈ r.stack.frames)
    (hinner : f.isFragment = false) (htype : types f.nodeType) {fuel : Nat} {halt : Halt σ n Draft}
    (hrun : m.run (Draft.fresh source) props fuel = some halt) :
    halt.outcome.Overflows m.options.maxDepth := by
  have hsinks : r.config.Sinks types := by
    rcases hrecursive.reaches h with hclear | hsinks
    · exact absurd htype (hclear f.bare (List.mem_map_of_mem hf) hinner)
    · exact hsinks
  have hlimit := h.limit_eq
  obtain ⟨first, count, hfirst, hsteps⟩ := h
  have hmoved : m.moves count first.config = .ok r.config := by
    rw [← config_steps, hsteps]
    rfl
  simp only [run, hfirst] at hrun
  rcases hend : m.steps fuel first with ended | r'
  · simp only [hend, Option.some.injEq] at hrun
    subst hrun
    have hmoves : m.moves fuel first.config = .error (ended.run.tape, ended.outcome) := by
      rw [← config_steps, hend]
      rfl
    obtain ⟨left, hleft⟩ := moves_rest hmoves hmoved
    have hkept : ∀ c c', c.Sinks types ∧ c.limit = m.options.maxDepth → m.move c = .ok c' →
        c'.Sinks types ∧ c'.limit = m.options.maxDepth := by
      rintro c c' ⟨hc, hdepth⟩ hmove
      have hnext := hrecursive.move hc
      rw [hmove] at hnext
      exact ⟨hnext, (move_limit hmove).trans hdepth⟩
    obtain ⟨last, ⟨hlast, hdepth⟩, hmove⟩ := moves_error hkept ⟨hsinks, hlimit⟩ hleft
    have hover := hrecursive.move hlast
    rw [hmove, hdepth] at hover
    exact hover
  · simp [hend] at hrun

/-- Machines whose rules are scripts come to an end with every input, if their tail calls go down in
some rank of the types, however their other calls recur. A run that comes to rules which only lead
to each other ends with too many frames, unless the grammar is to blame for something else. -/
theorem run_terminates (hscripted : m.Scripted) {rank : String → Nat}
    (hrank : m.TailsDescend rank) (source : Source) (props : Option Json) :
    ∃ fuel halt, m.run (Draft.fresh source) props fuel = some halt ∧
      ∀ types : String → Prop, m.LeftRecursive types →
        ∀ r f, m.Reaches (Draft.fresh source) props r → f ∈ r.stack.frames →
          f.isFragment = false → types f.nodeType →
          halt.outcome.Overflows m.options.maxDepth := by
  obtain ⟨fuel, halt, hrun⟩ := exists_run hscripted hrank source props
  refine ⟨fuel, halt, hrun, ?_⟩
  intro types hrecursive r f hr hf hinner htype
  exact hrecursive.overflows hr hf hinner htype hrun

end Moves

/-- A word whose rest begins with itself. -/
def restReader : Machine Automaton 1 :=
  wordReader [.eat (.node "Rest"), .eat (.literal "b")]

theorem restReader_leftRecursive : restReader.LeftRecursive (· = "Rest") := by
  rintro l nodeType rule rfl hrule invocation
  cases hrule
  exact ⟨_, rfl, [], _, [.eat (.literal "b")], rfl, by simp, { nodeType := "Rest" }, rfl, rfl, rfl,
    .inl rfl⟩

theorem restReader_tailsDescend :
    restReader.TailsDescend fun nodeType => if nodeType = "Word" then 1 else 0 := by
  intro l nodeType rule hrule invocation s hs
  change List.lookup nodeType [("Rest", _), ("Word", _)] = some rule at hrule
  simp only [List.lookup_cons, List.lookup_nil] at hrule
  split at hrule
  · cases hrule
    cases hs
    rintro a node ⟨⟩
  · split at hrule
    · rename_i hword
      cases hrule
      cases hs
      rintro a node ⟨⟩ - ⟨⟩
      rw [beq_iff_eq.mp hword]
      decide
    · cases hrule

theorem run_terminates_restReader :
    restReader.Scripted ∧
      (restReader.TailsDescend fun nodeType => if nodeType = "Word" then 1 else 0) ∧
      restReader.LeftRecursive (· = "Rest") ∧
      ∃ fuel halt, restReader.run (Draft.fresh (.ofSegments [some "ab"])) none fuel = some halt ∧
        halt.outcome.Overflows 4096 := by
  have hscripted : restReader.Scripted := wordReader_scripted _
  obtain ⟨fuel, halt, hrun, hover⟩ := run_terminates hscripted restReader_tailsDescend
    (.ofSegments [some "ab"]) none
  obtain ⟨r, hr, f, hf, hinner, htype⟩ : ∃ r,
      restReader.Reaches (Draft.fresh (.ofSegments [some "ab"])) none r ∧
      ∃ f ∈ r.stack.frames, f.isFragment = false ∧ f.nodeType = "Rest" :=
    ⟨_, ⟨_, 3, rfl, rfl⟩, _, List.mem_cons_self, rfl, rfl⟩
  exact ⟨hscripted, restReader_tailsDescend, restReader_leftRecursive, fuel, halt, hrun,
    hover _ restReader_leftRecursive r f hr hf hinner htype⟩

end Machine

end GrammarMachine
