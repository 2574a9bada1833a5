import GrammarMachine.Proofs.Machine.Speculation

/-!
Runs have no faults. Whatever the languages ask for, in every state of a run there is an active
frame, no match has ended before its time, each open transaction belongs to one frame, and the text
that a production may ask for lies inside the input.
-/

namespace GrammarMachine

variable {σ : Type} {n : Nat}

/-- What the machine takes for granted of the state of a run. -/
structure Run.Intact (r : Run σ n Draft) : Prop where
  active : r.stack.frames ≠ []
  running : ∀ f ∈ r.stack.frames, f.capture.stop = none
  branches : Tape.branchDepth r.tape = r.stack.frames.countP (·.branched)
  outermost : ∀ f ∈ r.stack.frames.head?, f.parent = none →
    r.stack.frames = [f] ∧ Tape.branchDepth r.tape = 0
  /-- While a production is run, the text before the next gap can be taken out of the input, and
  whatever is recognized is taken from the start of it. -/
  readable : ∀ value, r.flow = .resume value → ∃ window, r.tape.window = .ok window ∧
    ∀ recognizer, ∃ found, Tape.recognize r.tape recognizer = .ok found ∧
      ∀ text ∈ found, text.toList <+: window

namespace Layers

variable {source : Source} {frames : List (Frame σ n)} {bases : List Draft} {d : Draft}

theorem ne_nil (h : Layers source frames bases d) : frames ≠ [] := by
  cases h <;> simp

theorem stop_eq_none (h : Layers source frames bases d) : ∀ f ∈ frames, f.capture.stop = none := by
  induction h with
  | fragment _ _ _ _ _ hstop =>
      intro f hf
      rw [List.mem_singleton.mp hf]
      exact hstop
  | cons _ hover _ _ _ _ _ ih =>
      intro f hf
      rcases List.mem_cons.mp hf with rfl | hf
      · exact hover.running
      · exact ih f hf

theorem length_branches (h : Layers source frames bases d) :
    d.branches.length = frames.countP (·.branched) := by
  induction h with
  | fragment _ _ _ hbranched _ _ _ hnone _ => simp [hbranched, hnone]
  | @cons f g rest base d bases _ hover _ _ _ _ _ ih =>
      rw [List.countP_cons, ← ih, hover.branches]
      split <;> rfl

theorem outermost {f : Frame σ n} {rest : List (Frame σ n)} (h : Layers source (f :: rest) bases d)
    (hparent : f.parent = none) : rest = [] ∧ d.branches.length = 0 := by
  cases h with
  | fragment _ _ _ _ _ _ _ hnone _ => exact ⟨rfl, by simp [hnone]⟩
  | cons _ _ _ hparent' => simp [hparent'] at hparent

end Layers

namespace Config.Sound

theorem readable {symbols : List Symbol} {bases : List Draft} {c : Config σ n}
    (h : c.Sound (.ofSymbols symbols) bases) {value : Option Extent}
    (hresume : c.flow = .resume value) : ∃ window, c.tape.window = .ok window ∧
      ∀ recognizer, ∃ found, Tape.recognize c.tape recognizer = .ok found ∧
        ∀ text ∈ found, text.toList <+: window := by
  rcases hwindow : c.tape.window with fault | window
  · obtain ⟨found, hfound⟩ := h.recognize_ok hresume (.literal "")
    change c.tape.window.map _ = _ at hfound
    rw [hwindow] at hfound
    cases hfound
  · refine ⟨window, rfl, fun recognizer => ⟨recognizer.read? window, ?_, ?_⟩⟩
    · change c.tape.window.map recognizer.read? = _
      rw [hwindow]
      rfl
    · exact fun text htext => Recognizer.read?_isPrefix htext

end Config.Sound

theorem Config.Sound.intact {symbols : List Symbol} {bases : List Draft} {r : Run σ n Draft}
    (h : r.config.Sound (.ofSymbols symbols) bases) : r.Intact := by
  have hlayers := h.layers
  refine ⟨?_, ?_, ?_, ?_, fun value hresume => h.readable hresume⟩
  · intro hnil
    exact hlayers.ne_nil (by simp [Run.config, hnil])
  · intro f hf
    exact hlayers.stop_eq_none f.bare (List.mem_map_of_mem hf)
  · have hcount := hlayers.length_branches
    rw [Run.config, List.countP_map] at hcount
    exact hcount
  · intro f hf hparent
    rcases hframes : r.stack.frames with _ | ⟨top, rest⟩
    · simp [hframes] at hf
    · obtain rfl : top = f := by simpa [hframes] using hf
      have hconfig : r.config.frames = top.bare :: rest.map Frame.bare := by
        simp [Run.config, hframes]
      rw [hconfig] at hlayers
      obtain ⟨hrest, hnone⟩ := hlayers.outermost hparent
      exact ⟨by rw [List.map_eq_nil_iff.mp hrest], hnone⟩

namespace Machine

variable [Stepper σ]

/-- The states of a run are those to which its configuration moves. -/
theorem Reaches.moves {m : Machine σ n} {source : Source} {props : Option Json}
    {r : Run σ n Draft} (h : m.Reaches (Draft.fresh source) props r) :
    ∃ count, m.moves count (m.initial source props) = .ok r.config := by
  obtain ⟨first, count, hfirst, hsteps⟩ := h
  have hstart := m.start_eq source props
  split at hstart
  · obtain ⟨r', hstart⟩ := hstart
    simp [hstart] at hfirst
  · split at hstart
    · obtain ⟨r', hstart⟩ := hstart
      simp [hstart] at hfirst
    · obtain ⟨r', hstart, hconfig⟩ := hstart
      obtain rfl : r' = first := by simpa [hstart] using hfirst
      refine ⟨count, ?_⟩
      rw [← hconfig, ← config_steps, hsteps]
      rfl

theorem moves_sound {m : Machine σ n} {source : Source} {bases : List Draft} {count : Nat}
    {c c' : Config σ n} (h : c.Sound source bases) (hmoves : m.moves count c = .ok c') :
    ∃ bases', c'.Sound source bases' := by
  induction count generalizing c bases with
  | zero =>
      cases hmoves
      exact ⟨bases, h⟩
  | succ count ih =>
      rcases hmove : m.move c with halt | next
      · simp [moves, hmove] at hmoves
      · simp only [moves, hmove] at hmoves
        obtain ⟨bases', hnext, -⟩ := h.move hmove
        exact ih hnext hmoves

theorem Reaches.sound {m : Machine σ n} {source : Source} {props : Option Json}
    {r : Run σ n Draft} (h : m.Reaches (Draft.fresh source) props r) :
    ∃ bases, r.config.Sound source bases := by
  obtain ⟨count, hmoves⟩ := h.moves
  exact moves_sound (m.initial_sound source props) hmoves

theorem run_not_faulted {m : Machine σ n} {symbols : List Symbol} {props : Option Json}
    {fuel : Nat} {halt : Halt σ n Draft}
    (h : m.run (Draft.fresh (.ofSymbols symbols)) props fuel = some halt) (fault : Fault) :
    halt.outcome ≠ .faulted fault := by
  intro hfaulted
  rcases run_sound h with hblames | hdepth | ⟨c, bases, hsound, hmove⟩
  · rw [hfaulted] at hblames
    cases hblames
  · rw [hfaulted] at hdepth
    cases hdepth
  · rw [hfaulted] at hmove
    rcases hsound.halt_of_symbols hmove with hblames | hdepth | ⟨-, hordinary⟩
    · cases hblames
    · cases hdepth
    · cases hordinary

/-- No run has a fault. It ends by accepting or rejecting its input, and each state on the way is
one that the machine can go on from: there is an active frame, whose end has not been recorded, each
open transaction belongs to a frame, the outermost frame is left last and without transactions, and
the text that a recognizer looks at lies inside the input. -/
theorem run_faultless (m : Machine σ n) (segments : List (Option String)) (props : Option Json) :
    (∀ r, m.Reaches (Draft.fresh (.ofSegments segments)) props r → r.Intact) ∧
      ∀ fuel halt, m.run (Draft.fresh (.ofSegments segments)) props fuel = some halt →
        ∀ fault, halt.outcome ≠ .faulted fault := by
  rw [Source.ofSegments_eq]
  refine ⟨?_, fun fuel halt hrun => run_not_faulted hrun⟩
  intro r hr
  obtain ⟨bases, hsound⟩ := hr.sound
  exact hsound.intact

/-- Two gaps at one offset, before a character of several bytes. -/
theorem run_faultless_pairReader :
    ∃ r halt,
      pairReader.Reaches (Draft.fresh (.ofSegments [some "a", none, none, some "é"])) none r ∧
      r.Intact ∧
      pairReader.run (Draft.fresh (.ofSegments [some "a", none, none, some "é"])) none 9 =
        some halt ∧
      ∀ fault, halt.outcome ≠ .faulted fault := by
  obtain ⟨hintact, hfaultless⟩ :=
    run_faultless pairReader [some "a", none, none, some "é"] none
  obtain ⟨r, hr⟩ : ∃ r,
      pairReader.Reaches (Draft.fresh (.ofSegments [some "a", none, none, some "é"])) none r :=
    ⟨_, _, 3, rfl, rfl⟩
  obtain ⟨halt, hrun⟩ : ∃ halt,
      pairReader.run (Draft.fresh (.ofSegments [some "a", none, none, some "é"])) none 9 =
        some halt := ⟨_, rfl⟩
  exact ⟨r, halt, hr, hintact r hr, hrun, hfaultless 9 halt hrun⟩

/-- The state of a run after a number of steps. -/
def stateAt? (m : Machine σ n) (source : Source) (count : Nat) : Option (Run σ n Draft) :=
  match m.start (Draft.fresh source) none with
  | .ok first => (m.steps count first).toOption
  | .error _ => none

theorem reaches_of_stateAt? {m : Machine σ n} {source : Source} {count : Nat} {r : Run σ n Draft}
    (h : m.stateAt? source count = some r) : m.Reaches (Draft.fresh source) none r := by
  unfold stateAt? at h
  split at h
  · rename_i first hfirst
    rcases hsteps : m.steps count first with halt | later
    · simp [hsteps, Except.toOption] at h
    · simp only [hsteps, Except.toOption, Option.some.injEq] at h
      exact ⟨first, count, hfirst, h ▸ hsteps⟩
  · cases h

/-- What holds after each number of steps up to the end holds of all states of a run. -/
theorem Reaches.of_stateAt? {m : Machine σ n} {source : Source} {P : Run σ n Draft → Prop}
    (bound : Nat) (hend : m.stateAt? source bound = none)
    (hstates : ∀ count < bound, ∀ r ∈ m.stateAt? source count, P r) {r : Run σ n Draft}
    (h : m.Reaches (Draft.fresh source) none r) : P r := by
  obtain ⟨first, count, hfirst, hsteps⟩ := h
  have hstate : ∀ k, m.stateAt? source k = (m.steps k first).toOption := by
    intro k
    simp only [stateAt?, hfirst]
  rcases Nat.lt_or_ge count bound with hbefore | hlate
  · exact hstates count hbefore r (by rw [hstate, hsteps]; rfl)
  · obtain ⟨more, rfl⟩ := Nat.exists_eq_add_of_le hlate
    rw [hstate] at hend
    rcases hstop : m.steps bound first with halt | r'
    · rw [steps_error hstop more] at hsteps
      cases hsteps
    · rw [hstop] at hend
      cases hend

end Machine

end GrammarMachine
