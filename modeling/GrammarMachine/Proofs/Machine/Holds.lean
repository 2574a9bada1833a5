import GrammarMachine.Proofs.Machine.Gapless
import GrammarMachine.Proofs.Machine.Intact
import GrammarMachine.Proofs.Tree.Adoption

/-!
What becomes of holds. A hold that enters a rule writes a shift after the value it holds. What is
never taken back stays where it is, so the shift of a hold that is kept is found in the final
stream, and in the tree the node that follows it has adopted the value.
-/

namespace GrammarMachine.Machine

variable {σ : Type} {n : Nat}

/-- What is known of a rule that is entered for a held node, after the tape `d`. -/
structure Adopts (m : Machine σ n) (d : Draft) (a : Attempt) (node : NodeGoal) (e : Entry σ n) :
    Prop where
  completed : (Tape.lastTag? d).any Tag.completesValue = true
  adopts : e.adopts = some a.goal.targetSlot.name
  opening : e.frame.isNode = true → ∃ traits url attributes,
    e.opening = some (.openNode traits url node.nodeType attributes)

theorem planEntry_adopts {m : Machine σ n} {d : Draft} {top : Frame σ n} {a : Attempt} {tail : Bool}
    {node : NodeGoal} {slot : Slot} {place : Fin n} {intrinsic : Option String} {p : Plan σ n}
    (hhold : a.verb.isHold = true) (hcheck : m.checkNodeAt d a node place = .ok ())
    (h : m.planEntry d top a tail node (m.ownSlot a.goal) slot place intrinsic = .ok p) :
    ∃ e, p = .enter e ∧ m.Adopts d a node e := by
  obtain ⟨rule, -, h⟩ := bind_eq_ok.mp h
  cases h
  refine ⟨_, rfl, checkNode_hold hcheck hhold, ?_, ?_⟩
  · simp only [hhold, if_true]
    rfl
  · intro hnode
    dsimp only at hnode
    simp [hnode]

/-- A hold of a node that is not written in place is a miss or enters the rule of the node. -/
theorem plan_hold {m : Machine σ n} {d : Draft} {top : Frame σ n} {a : Attempt} {tail : Bool}
    {node : NodeGoal} {p : Plan σ n} (hhold : a.verb.isHold = true)
    (hgoal : a.goal.form = .node node) (htext : node.intrinsic = none ∨ node.traits.token = false)
    (h : m.plan d top a tail = .ok p) :
    p = .miss none ∨ ∃ e, p = .enter e ∧ m.Adopts d a node e := by
  have hown : m.goalFor top a = a.goal := by simp only [goalFor, hgoal]
  replace h := plan_eq_ok h
  simp only [hown, planForm, hgoal] at h
  rw [planNode_eq] at h
  obtain ⟨place, -, h⟩ := bind_eq_ok.mp h
  obtain ⟨⟨⟩, hcheck, h⟩ := bind_eq_ok.mp h
  rw [mapError_eq_ok] at hcheck
  have hgap : m.interpolates d a node (m.ownSlot a.goal) place = false := by
    simp [interpolates, hhold]
  simp only [hgap, Bool.false_eq_true, if_false] at h
  split at h
  · obtain ⟨slot, -, h⟩ := bind_eq_ok.mp h
    exact .inr (planEntry_adopts hhold hcheck h)
  · rename_i hsome
    obtain ⟨found, -, h⟩ := bind_eq_ok.mp h
    rcases found with _ | text
    · cases h
      exact .inl rfl
    · obtain ⟨slot, -, h⟩ := bind_eq_ok.mp h
      have htoken : node.traits.token = false := by
        rcases htext with hnone | htoken
        · simp [hsome] at hnone
        · exact htoken
      simp only [htoken, Bool.false_eq_true, if_false] at h
      exact .inr (planEntry_adopts hhold hcheck h)

theorem tags_of_adopts {e : Entry σ n} {name : String} (h : e.adopts = some name) (d : Draft) :
    e.tags d = .shift name :: e.opening.toList := by
  have hslot : slotTags (d.advance (.shift name)) e.frame.slot = [] := by
    have hlast : Tape.lastTag? (d.advance (.shift name)) = some (.shift name) := by
      change (d.tags.push _).back? = _
      rw [Array.back?_push]
    rw [slotTags, hlast]
    rfl
  rcases hopening : e.opening with _ | opening <;> simp [Entry.tags, h, hopening, hslot]

theorem isNode_of_captured {mark : Mark} {tags : List Tag} {top f : Frame σ n}
    {rest : List (Frame σ n)} (h : f ∈ (captured mark tags (top :: rest)).head?) :
    f.isNode = top.isNode := by
  unfold captured at h
  split at h
  · cases h
    rfl
  · simp only [Stack.recordStart] at h
    split at h <;> cases h <;> rfl

variable [Stepper σ]

theorem enter_tags {c c' : Config σ n} {top : Frame σ n} {rest : List (Frame σ n)}
    {e : Entry σ n} (h : c.enter top rest e = .ok c') :
    ∃ d, c'.tape.tags.toList = c.tape.tags.toList ++ e.tags d := by
  rcases Config.enter_ok h with ⟨-, tape, hsilent, rfl⟩ | ⟨-, rfl⟩
  · refine ⟨tape, ?_⟩
    simp only [Config.write, Draft.advanceAll_tags, hsilent.tags]
  · refine ⟨c.tape.branchIf e.frame.policy.branches, ?_⟩
    simp only [Config.write, Draft.advanceAll_tags]
    unfold Draft.branchIf
    split <;> rfl

theorem enter_isNode {c c' : Config σ n} {top f : Frame σ n} {rest : List (Frame σ n)}
    {e : Entry σ n} (h : c.enter top rest e = .ok c') (hf : f ∈ c'.frames.head?) :
    f.isNode = e.frame.isNode := by
  rcases Config.enter_ok h with ⟨-, tape, -, rfl⟩ | ⟨-, rfl⟩
  · exact @isNode_of_captured σ n _ _ (e.spliced top) _ _ hf
  · exact @isNode_of_captured σ n _ _ (e.pushed rest.length) _ _ hf

/-- A hold that writes anything writes a shift and, if it enters a node, opens the node. -/
theorem move_hold {m : Machine σ n} {c c' : Config σ n} {top : Frame σ n} {rest : List (Frame σ n)}
    {value : Option Extent} {a : Attempt} {node : NodeGoal} (hframes : c.frames = top :: rest)
    (hflow : c.flow = .resume value)
    (hreturns : (top.production.step c.tape.cursor value).1 = .done (some (.attempt a)))
    (hhold : a.verb.isHold = true) (hgoal : a.goal.form = .node node)
    (htext : node.intrinsic = none ∨ node.traits.token = false) (hmove : m.move c = .ok c')
    (hwritten : c.tape.tags.size < c'.tape.tags.size) :
    ∃ e, m.Adopts c.tape a node e ∧ c'.tape.tags.toList =
        c.tape.tags.toList ++ .shift a.goal.targetSlot.name :: e.opening.toList ∧
      ∀ f ∈ c'.frames.head?, f.isNode = e.frame.isNode := by
  rcases hstep : top.production.step c.tape.cursor value with ⟨step, production⟩
  rw [hstep] at hreturns
  dsimp only at hreturns
  subst hreturns
  simp only [move, hframes, hflow, stepTop, hstep, obey] at hmove
  rcases hplan : m.plan c.tape { top with production } a true with outcome | p
  · simp [hplan] at hmove
  simp only [hplan] at hmove
  rcases plan_hold hhold hgoal htext hplan with rfl | ⟨e, rfl, hadopts⟩
  · -- A miss writes nothing.
    cases hmove
    exact absurd hwritten (Nat.lt_irrefl _)
  · obtain ⟨d, htags⟩ := enter_tags hmove
    rw [tags_of_adopts hadopts.adopts] at htags
    exact ⟨e, hadopts, htags, fun f hf => enter_isNode hmove hf⟩

/-- What a move writes comes after all that is there, and then the tape may be cut back. -/
theorem move_tags {m : Machine σ n} {c c' : Config σ n} (h : m.move c = .ok c') :
    ∃ more, c'.tape.tags.toList <+: c.tape.tags.toList ++ more := by
  unfold move at h
  split at h
  · cases h
  split at h
  · obtain ⟨production, hcarried⟩ := stepTop_ok h
    cases hcarried with
    | silent _ _ hsilent => exact ⟨[], by simp [hsilent.tags]⟩
    | @placed tags =>
        refine ⟨tags, ?_⟩
        simp only [Config.write, Draft.advanceAll_tags, List.prefix_rfl]
    | @entered _ _ e _ _ hentered =>
        obtain ⟨d, htags⟩ := enter_tags hentered
        exact ⟨e.tags d, htags ▸ List.prefix_rfl⟩
  · have hfinished := (finishTop_tags _ _ _ _).1 _ h
    rw [Draft.advanceAll_tags] at hfinished
    exact ⟨_, hfinished⟩

theorem move_tags_accepted {m : Machine σ n} {c : Config σ n} {d : Draft} {extent : Extent}
    (h : m.move c = .error (d, .accepted extent)) :
    ∃ more, d.tags.toList <+: c.tape.tags.toList ++ more := by
  unfold move at h
  split at h
  · cases h
  split at h
  · rcases stepTop_error h with hblames | hdepth | ⟨_, _, _, hfault⟩
    · cases hblames
    · cases hdepth
    · cases hfault
  · have hfinished := (finishTop_tags _ _ _ _).2 _ _ h
    rw [Draft.advanceAll_tags] at hfinished
    exact ⟨_, hfinished⟩

theorem moves_kept {m : Machine σ n} {c : Config σ n} {kept : List Tag} {fuel : Nat} {d : Draft}
    {extent : Extent} (hkept : kept <+: c.tape.tags.toList)
    (hnever : ∀ count c', m.moves count c = .ok c' → kept.length ≤ c'.tape.tags.toList.length)
    (hmoves : m.moves fuel c = .error (d, .accepted extent))
    (hend : kept.length ≤ d.tags.toList.length) : kept <+: d.tags.toList := by
  induction fuel generalizing c with
  | zero => cases hmoves
  | succ fuel ih =>
      rcases hmove : m.move c with halt | c'
      · simp only [moves, hmove, Except.error.injEq] at hmoves
        subst hmoves
        obtain ⟨more, hmore⟩ := move_tags_accepted hmove
        exact List.prefix_of_prefix_length_le (hkept.trans (List.prefix_append _ more)) hmore hend
      · simp only [moves, hmove] at hmoves
        obtain ⟨more, hmore⟩ := move_tags hmove
        have hnext : kept.length ≤ c'.tape.tags.toList.length :=
          hnever 1 c' (by simp only [moves, hmove])
        refine ih ?_ ?_ hmoves
        · exact List.prefix_of_prefix_length_le (hkept.trans (List.prefix_append _ more)) hmore
            hnext
        · intro count later hlater
          exact hnever (count + 1) later (by simpa only [moves, hmove] using hlater)

/-- The tape after a number of steps, or at the end of the run. -/
def tapeAfter (m : Machine σ n) (r : Run σ n Draft) (count : Nat) : Draft :=
  match m.steps count r with
  | .ok later => later.tape
  | .error halt => halt.run.tape

/-- What is on the tape in a state of a run is never taken back: from then on there are at no time
fewer tags, up to the end of the run. -/
def Keeps (m : Machine σ n) (r : Run σ n Draft) : Prop :=
  ∀ count, r.tape.tags.size ≤ (m.tapeAfter r count).tags.size

theorem Keeps.of_steps {m : Machine σ n} {r : Run σ n Draft} {fuel : Nat} {halt : Halt σ n Draft}
    (hend : m.steps fuel r = .error halt)
    (h : ∀ count < fuel + 1, r.tape.tags.size ≤ (m.tapeAfter r count).tags.size) : m.Keeps r := by
  intro count
  rcases Nat.le_total count fuel with hle | hle
  · exact h count (Nat.lt_succ_of_le hle)
  · obtain ⟨more, rfl⟩ := Nat.exists_eq_add_of_le hle
    have hlast := h fuel (Nat.lt_succ_self fuel)
    simpa only [tapeAfter, hend, steps_error hend more] using hlast

/-- What is never taken back is found in the final stream. -/
theorem Keeps.isPrefix {m : Machine σ n} {source : Source} {props : Option Json} {fuel count : Nat}
    {halt : Halt σ n Draft} {extent : Extent} {r : Run σ n Draft} (h : m.Keeps r)
    (hrun : m.run (Draft.fresh source) props fuel = some halt)
    (haccepted : halt.outcome = .accepted extent)
    (hcount : m.moves count (m.initial source props) = .ok r.config) :
    r.tape.tags.toList <+: halt.run.tape.tags.toList := by
  have hmoves := moves_of_run hrun (by rw [haccepted]; rfl) (by simp [haccepted])
  obtain ⟨left, hleft⟩ := moves_rest hmoves hcount
  rw [haccepted] at hleft
  refine moves_kept (List.prefix_rfl : _ <+: r.config.tape.tags.toList) ?_ hleft ?_
  · intro count c' hc'
    have hsize := h count
    rw [← config_steps] at hc'
    unfold tapeAfter at hsize
    rcases hsteps : m.steps count r with halt' | later
    · simp [hsteps, Result.of] at hc'
    · simp only [hsteps, Result.of, Except.ok.injEq] at hc' hsize
      subst hc'
      exact hsize
  · have hsize := h left
    rw [← config_steps] at hleft
    unfold tapeAfter at hsize
    rcases hsteps : m.steps left r with halt' | later
    · simp only [hsteps, Result.of, Except.error.injEq, Prod.mk.injEq] at hleft hsize
      rw [← hleft.1]
      exact hsize
    · simp [hsteps, Result.of] at hleft

/-- A hold that is kept in an accepted run. In the state `r` the active production is done and hands
back a hold of a node, which is no miss: in the next state `r'` something has been written, and it
is never taken back. -/
structure KeptHold (m : Machine σ n) (source : Source) (props : Option Json)
    (halt : Halt σ n Draft) (r r' : Run σ n Draft) (a : Attempt) (node : NodeGoal) : Prop where
  run : ∃ fuel extent, m.run (Draft.fresh source) props fuel = some halt ∧
    halt.outcome = .accepted extent
  reaches : m.Reaches (Draft.fresh source) props r
  hold : a.verb.isHold = true
  goal : a.goal.form = .node node
  returned : ∃ value top, r.flow = .resume value ∧ r.stack.top? = some top ∧
    (top.production.step r.cursor value).1 = .done (some (.attempt a))
  step : m.step r = .ok r'
  written : r.tape.tags.size < r'.tape.tags.size
  keeps : m.Keeps r'

/-- Every hold that is kept moves the held value into a node, unless it asks for a token with a text
of its own. It has left a shift under its name in the final stream, directly after the end of the
held value. If a node is entered, its opening comes next. In any case, if the stream describes a
tree, the shift is followed by the opening of a node, which takes the place of the value and has it
for its first part. -/
theorem run_hold {m : Machine σ n} {source : Source} {props : Option Json} {halt : Halt σ n Draft}
    {r r' : Run σ n Draft} {a : Attempt} {node : NodeGoal}
    (h : m.KeptHold source props halt r r' a node)
    (htext : node.intrinsic = none ∨ node.traits.token = false) :
    ∃ after, halt.run.tape.tags.toList =
        r.tape.tags.toList ++ .shift a.goal.targetSlot.name :: after ∧
      r.tape.tags.toList.getLast?.any Tag.completesValue = true ∧
      (∀ f ∈ r'.stack.top?, f.isNode = true → ∃ traits url attributes rest,
        after = .openNode traits url node.nodeType attributes :: rest) ∧
      ∀ tree, Node.ofTags halt.run.tape.tags.toList = .ok tree →
        Stream.Adopted r.tape.tags.toList a.goal.targetSlot.name after tree := by
  obtain ⟨fuel, extent, hrun, haccepted⟩ := h.run
  obtain ⟨value, top, hflow, htop, hreturns⟩ := h.returned
  obtain ⟨rest, hframes⟩ : ∃ rest, r.stack.frames = top :: rest := List.head?_eq_some_iff.mp htop
  have hmove : m.move r.config = .ok r'.config := by
    rw [← config_step, h.step]
    rfl
  have hconfig : r.config.frames = top.bare :: rest.map Frame.bare := by
    simp [Run.config, hframes]
  obtain ⟨e, hadopts, htags, hnode⟩ :=
    move_hold hconfig hflow hreturns h.hold h.goal htext hmove h.written
  obtain ⟨count, hcount⟩ := h.reaches.moves
  have hnext : m.moves (count + 1) (m.initial source props) = .ok r'.config := by
    rw [moves_add, hcount]
    simp only [moves, hmove]
  obtain ⟨more, hmore⟩ := h.keeps.isPrefix hrun haccepted hnext
  have hstream : halt.run.tape.tags.toList =
      r.tape.tags.toList ++ .shift a.goal.targetSlot.name :: (e.opening.toList ++ more) := by
    rw [← hmore, show r'.tape.tags.toList = _ from htags, List.append_assoc, List.cons_append]
    rfl
  refine ⟨e.opening.toList ++ more, hstream, ?_, ?_, ?_⟩
  · rw [Array.getLast?_toList]
    exact hadopts.completed
  · intro f hf hisNode
    have hbare : f.bare ∈ r'.config.frames.head? := by
      simp only [Run.config, List.head?_map]
      exact Option.mem_map_of_mem _ hf
    obtain ⟨traits, url, attributes, hopening⟩ :=
      hadopts.opening ((hnode _ hbare).symm.trans hisNode)
    exact ⟨traits, url, attributes, more, by rw [hopening]; rfl⟩
  · intro tree htree
    have hfinished := run_finished hrun haccepted
    rw [hstream] at hfinished htree
    exact hfinished.adopted htree

/-- A hold that is kept, found by running the machine: the hold is carried out after `count` steps,
and the run ends `left` steps later. -/
theorem KeptHold.of_states {m : Machine σ n} {source : Source} {halt : Halt σ n Draft} {a : Attempt}
    {node : NodeGoal} (count left : Nat) (hhold : a.verb.isHold = true)
    (hgoal : a.goal.form = .node node)
    (hrun : ∃ fuel extent, m.run (Draft.fresh source) none fuel = some halt ∧
      halt.outcome = .accepted extent)
    (hstates : ∃ r r' last, m.stateAt? source count = some r ∧
      m.stateAt? source (count + 1) = some r' ∧ m.step r = .ok r' ∧ m.steps left r' = .error last ∧
      ∃ value top, r.flow = .resume value ∧ r.stack.top? = some top ∧
        (top.production.step r.cursor value).1 = .done (some (.attempt a)))
    (hsizes : ∀ r ∈ m.stateAt? source count, ∀ r' ∈ m.stateAt? source (count + 1),
      r.tape.tags.size < r'.tape.tags.size ∧
        ∀ more < left + 1, r'.tape.tags.size ≤ (m.tapeAfter r' more).tags.size) :
    ∃ r r', m.KeptHold source none halt r r' a node := by
  obtain ⟨r, r', last, hr, hr', hstep, hend, hreturned⟩ := hstates
  obtain ⟨hwritten, hkeeps⟩ := hsizes r hr r' hr'
  refine ⟨r, r', ?_⟩
  exact {
    run := hrun
    reaches := reaches_of_stateAt? hr
    hold := hhold
    goal := hgoal
    returned := hreturned
    step := hstep
    written := hwritten
    keeps := .of_steps hend hkeeps }

/-- A machine that reads an `a` and holds it for what comes next. -/
def heldReader (next : Goal) : Machine Automaton 1 where
  catalog _ := {
    url := "urn:held"
    grammar := ({} : Grammar Automaton).node "Letter"
      |>.node "Pair"
      |>.cover "Sum" ["Pair"]
      |>.cover "Rest" []
      |>.define "Sum" (.script [.eat (.token "Letter" (.literal "a"))]
          (some (.hold (next.named "left"))))
      |>.define "Pair" (.script [.eat (.literal "b")] none)
      |>.define "Rest" (.script [.eat (.literal "b")] none) }
  language := Fin.last 0
  goal := .node "Sum"

theorem run_hold_heldReader :
    ∃ halt r r' after tree,
      (heldReader (.node "Pair")).KeptHold (.ofSegments [some "ab"]) none halt r r'
          { verb := .hold, goal := (Goal.node "Pair").named "left" } { nodeType := "Pair" } ∧
        halt.run.tape.tags.toList = r.tape.tags.toList ++ .shift "left" :: after ∧
        Node.ofTags halt.run.tape.tags.toList = .ok tree ∧
        Stream.Adopted r.tape.tags.toList "left" after tree := by
  obtain ⟨halt, tree, hrun, htree⟩ : ∃ halt tree, (∃ fuel extent,
      (heldReader (.node "Pair")).run (Draft.fresh (.ofSegments [some "ab"])) none fuel =
        some halt ∧ halt.outcome = .accepted extent) ∧
      Node.ofTags halt.run.tape.tags.toList = .ok tree := ⟨_, _, ⟨9, _, rfl, rfl⟩, rfl⟩
  obtain ⟨r, r', hkept⟩ := KeptHold.of_states 2 6 rfl rfl hrun
    ⟨_, _, _, rfl, rfl, rfl, rfl, _, _, rfl, rfl, rfl⟩ (by decide +kernel)
  obtain ⟨after, hstream, -, -, hadopted⟩ := run_hold hkept (.inl rfl)
  exact ⟨halt, r, r', after, tree, hkept, hstream, htree, hadopted tree htree⟩

/-- Holds that are kept without a node that adopts the value. A token with a text of its own is
written in place, without a shift and with a reference like any other. A cover type may begin with
text, and then the shift is not followed by a node. -/
theorem hold_not_adopted :
    (∃ halt r r' node,
      (heldReader (.token "Pair" (.literal "b"))).KeptHold (.ofSegments [some "ab"]) none halt r r'
          { verb := .hold, goal := (Goal.token "Pair" (.literal "b")).named "left" } node ∧
        ∀ name, .shift name ∉ halt.run.tape.tags.toList) ∧
      ∃ halt r r' node index,
        (heldReader (.node "Rest")).KeptHold (.ofSegments [some "ab"]) none halt r r'
            { verb := .hold, goal := (Goal.node "Rest").named "left" } node ∧
          halt.run.tape.tags[index]? = some (.shift "left") ∧
          halt.run.tape.tags[index + 1]? = some (.literal "b") := by
  refine ⟨?_, ?_⟩
  · obtain ⟨halt, hrun, hshifts⟩ : ∃ halt, (∃ fuel extent, (heldReader (.token "Pair"
        (.literal "b"))).run (Draft.fresh (.ofSegments [some "ab"])) none fuel = some halt ∧
          halt.outcome = .accepted extent) ∧
        halt.run.tape.tags.toList.all (!Tag.isShift ·) = true := ⟨_, ⟨9, _, rfl, rfl⟩, rfl⟩
    obtain ⟨r, r', hkept⟩ := KeptHold.of_states 2 6 rfl rfl hrun
      ⟨_, _, _, rfl, rfl, rfl, rfl, _, _, rfl, rfl, rfl⟩ (by decide +kernel)
    refine ⟨halt, r, r', _, hkept, ?_⟩
    intro name hmem
    simpa [Tag.isShift] using List.all_eq_true.mp hshifts _ hmem
  · obtain ⟨halt, hrun, hshift, htext⟩ : ∃ halt, (∃ fuel extent, (heldReader (.node "Rest")).run
        (Draft.fresh (.ofSegments [some "ab"])) none fuel = some halt ∧
          halt.outcome = .accepted extent) ∧ halt.run.tape.tags[6]? = some (.shift "left") ∧
        halt.run.tape.tags[7]? = some (.literal "b") := ⟨_, ⟨9, _, rfl, rfl⟩, rfl, rfl⟩
    obtain ⟨r, r', hkept⟩ := KeptHold.of_states 2 6 rfl rfl hrun
      ⟨_, _, _, rfl, rfl, rfl, rfl, _, _, rfl, rfl, rfl⟩ (by decide +kernel)
    exact ⟨halt, r, r', _, 6, hkept, hshift, htext⟩

end GrammarMachine.Machine
