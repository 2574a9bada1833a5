import GrammarMachine.Proofs.Machine.Config

/-!
What one move can do. A production that is stepped has side effects, writes one value in place or
enters a rule; what it cannot do ends the run.
-/

namespace GrammarMachine

variable {σ : Type} {n : Nat}

/-- Whether an outcome says how far the input goes with the grammar: the input is accepted, or it
does not match. -/
def Outcome.ordinary : Outcome → Bool
  | .accepted _ | .rejected (.failed _) | .rejected (.emptyMatch _)
  | .rejected (.incomplete ..) => true
  | _ => false

theorem Draft.clean_silent {d d' : Draft} {instructions : List Instruction}
    (h : d.clean instructions = .ok d') : d.Silent d' := by
  fun_induction Draft.clean d instructions with
  | case1 =>
      cases h
      exact .refl _
  | case2 d text options rest ih => exact (Draft.Silent.perform_write d text options).trans (ih h)
  | case3 => cases h

section Moves

variable [Stepper σ]

theorem Frame.finish_silent {f : Frame σ n} {d d' : Draft} (h : f.finish d = .ok d') :
    d.Silent d' := by
  unfold Frame.finish at h
  split at h
  · rename_i hclean
    cases h
    exact Draft.clean_silent hclean
  · cases h

theorem Frame.finish_error {f : Frame σ n} {d d' : Draft} {outcome : Outcome}
    (h : f.finish d = .error (d', outcome)) : outcome.blamesGrammar = true := by
  unfold Frame.finish at h
  split at h
  · cases h
  · cases h
    rfl

theorem Config.enter_ok {c c' : Config σ n} {top : Frame σ n} {rest : List (Frame σ n)}
    {e : Entry σ n} (h : c.enter top rest e = .ok c') :
    (e.replaces = true ∧ ∃ tape, c.tape.Silent tape ∧
      c' = { Config.write { c with frames := e.spliced top :: rest, tape } (e.tags tape) with
        flow := .resume none }) ∨
    (e.replaces = false ∧
      let below := { top with returning := e.returns || top.returning }
      let tape := c.tape.branchIf e.frame.policy.branches
      c' = { Config.write { c with
          frames := e.pushed rest.length :: below :: rest, tape } (e.tags tape) with
        flow := .resume none }) := by
  unfold enter push at h
  by_cases hreplaces : e.replaces = true
  · simp only [hreplaces, if_true] at h
    rcases hfinish : top.finish c.tape with halt | tape
    · simp [hfinish] at h
    · simp only [hfinish, Except.ok.injEq] at h
      exact .inl ⟨hreplaces, tape, Frame.finish_silent hfinish, h.symm⟩
  · rw [Bool.not_eq_true] at hreplaces
    simp only [hreplaces, Bool.false_eq_true, if_false] at h
    by_cases hlimit : c.limit ≤ rest.length + 1
    · simp [if_pos hlimit] at h
    · simp only [if_neg hlimit, Except.ok.injEq] at h
      exact .inr ⟨hreplaces, h.symm⟩

theorem Config.enter_error {c : Config σ n} {top : Frame σ n} {rest : List (Frame σ n)}
    {e : Entry σ n} {d : Draft} {outcome : Outcome} (h : c.enter top rest e = .error (d, outcome)) :
    outcome.blamesGrammar = true ∨ outcome = .rejected (.depthExceeded c.limit) := by
  unfold enter push at h
  by_cases hreplaces : e.replaces = true
  · simp only [hreplaces, if_true] at h
    rcases hfinish : top.finish c.tape with ⟨d', outcome'⟩ | tape
    · simp only [hfinish, Except.error.injEq, Prod.mk.injEq] at h
      obtain ⟨rfl, rfl⟩ := h
      exact .inl (Frame.finish_error hfinish)
    · simp [hfinish] at h
  · simp only [hreplaces, Bool.false_eq_true, if_false] at h
    by_cases hlimit : c.limit ≤ rest.length + 1
    · simp only [if_pos hlimit, Except.error.injEq, Prod.mk.injEq] at h
      exact .inr h.2.symm
    · simp [if_neg hlimit] at h

theorem Config.finishTop_limit {c c' : Config σ n} {top : Frame σ n} {rest : List (Frame σ n)}
    {failed : Bool} (h : c.finishTop top rest failed = .ok c') : c'.limit = c.limit := by
  unfold finishTop at h
  dsimp only at h
  split at h
  · cases h
  split at h
  · cases h
  split at h
  · cases h
  unfold resumeBelow at h
  dsimp only at h
  split at h
  · cases h
    rfl
  split at h
  · cases h
  · cases h
    rfl

namespace Machine

/-- The ways in which a configuration goes on when the frame `top` carries out an instruction. -/
inductive Carried (m : Machine σ n) (c : Config σ n) (top : Frame σ n) (rest : List (Frame σ n)) :
    Config σ n → Prop where
  /-- There are at most side effects. -/
  | silent {tape : Draft} (flow : Flow) (emptied : Option String) : c.tape.Silent tape →
      Carried m c top rest { c with tape, flow, emptied }
  /-- One value is written in place. -/
  | placed {tags : List Tag} (flow : Flow) : Placed c.tape tags → flow ≠ .complete true →
      Carried m c top rest { c.write tags with flow }
  /-- A rule is entered. -/
  | entered {a : Attempt} {tail : Bool} {e : Entry σ n} {c' : Config σ n} :
      e.Fits m c.tape top a tail → c.enter top rest e = .ok c' → Carried m c top rest c'

theorem follow_ok {m : Machine σ n} {c c' : Config σ n} {top : Frame σ n}
    {rest : List (Frame σ n)} {a : Attempt} {tail : Bool} {plan : Plan σ n}
    (hplan : m.plan c.tape top a tail = .ok plan)
    (h : follow c top rest a.verb.policy tail plan = .ok c') : Carried m c top rest c' := by
  cases plan with
  | miss emptied =>
      cases h
      exact .silent _ _ (.refl c.tape)
  | place tags value =>
      cases h
      have hflow : ∀ extent, Config.next extent tail ≠ .complete true := by
        intro extent
        cases tail <;> simp [Config.next]
      -- Without tags nothing is written, as for a match that is not kept.
      have hnothing : ∀ extent, Carried m c top rest
          { c.write [] with flow := Config.next extent tail } :=
        fun extent => .silent _ c.emptied (.refl c.tape)
      by_cases hkeeps : a.verb.policy.keeps = true
      · simp only [hkeeps, if_true]
        rcases plan_place hplan with rfl | hplaced
        · exact hnothing _
        · exact .placed _ hplaced (hflow _)
      · simp only [hkeeps, Bool.false_eq_true, if_false]
        exact hnothing _
  | enter e => exact .entered (plan_enter hplan) h

theorem obey_ok {m : Machine σ n} {c c' : Config σ n} {top : Frame σ n} {rest : List (Frame σ n)}
    {instruction : Instruction} {tail : Bool} (h : m.obey c top rest instruction tail = .ok c') :
    Carried m c top rest c' := by
  cases instruction with
  | attempt a =>
      simp only [obey] at h
      rcases hplan : m.plan c.tape top a tail with outcome | plan
      · simp [hplan] at h
      · simp only [hplan] at h
        exact follow_ok hplan h
  | fail =>
      cases h
      exact .silent _ _ (.refl c.tape)
  | write text options =>
      cases h
      exact .silent _ _ (.perform_write _ _ _)
  | openSpan name =>
      cases h
      exact .silent _ _ (.perform_openSpan _ _)
  | closeSpan name =>
      cases h
      exact .silent _ _ (.perform_closeSpan _ _)
  | bind key value =>
      cases h
      exact .silent _ _ (.perform_bind _ _ _)

theorem stepTop_ok {m : Machine σ n} {c c' : Config σ n} {top : Frame σ n}
    {rest : List (Frame σ n)} {value : Option Extent} (h : m.stepTop c top rest value = .ok c') :
    ∃ production, Carried m { c with frames := { top with production } :: rest }
      { top with production } rest c' := by
  unfold stepTop at h
  rcases hstep : top.production.step c.tape.cursor value with ⟨step, production⟩
  refine ⟨production, ?_⟩
  simp only [hstep] at h
  rcases step with instruction | _ | instruction
  · exact obey_ok h
  · cases h
    exact .silent _ _ (.refl c.tape)
  · exact obey_ok h

theorem obey_error {m : Machine σ n} {c : Config σ n} {top : Frame σ n} {rest : List (Frame σ n)}
    {instruction : Instruction} {tail : Bool} {d : Draft} {outcome : Outcome}
    (h : m.obey c top rest instruction tail = .error (d, outcome)) :
    outcome.blamesGrammar = true ∨ outcome = .rejected (.depthExceeded c.limit) ∨
      ∃ r fault, Tape.recognize c.tape r = .error fault ∧ outcome = .faulted fault := by
  cases instruction with
  | attempt a =>
      simp only [obey] at h
      rcases hplan : m.plan c.tape top a tail with outcome' | plan
      · simp only [hplan, Except.error.injEq, Prod.mk.injEq] at h
        obtain ⟨rfl, rfl⟩ := h
        rcases plan_error hplan with ⟨cause, rfl, hblames⟩ | hfault
        · exact .inl hblames
        · exact .inr (.inr hfault)
      · simp only [hplan] at h
        cases plan with
        | miss emptied => cases h
        | place tags value => cases h
        | enter e =>
            rcases Config.enter_error h with hblames | hdepth
            · exact .inl hblames
            · exact .inr (.inl hdepth)
  | fail => cases h
  | write text options => cases h
  | openSpan name => cases h
  | closeSpan name => cases h
  | bind key value => cases h

/-- A production that is stepped ends the run only if the grammar is to blame, if there are too many
frames or if the text could not be read. -/
theorem stepTop_error {m : Machine σ n} {c : Config σ n} {top : Frame σ n}
    {rest : List (Frame σ n)} {value : Option Extent} {d : Draft} {outcome : Outcome}
    (h : m.stepTop c top rest value = .error (d, outcome)) :
    outcome.blamesGrammar = true ∨ outcome = .rejected (.depthExceeded c.limit) ∨
      ∃ r fault, Tape.recognize c.tape r = .error fault ∧ outcome = .faulted fault := by
  unfold stepTop at h
  rcases hstep : top.production.step c.tape.cursor value with ⟨step, production⟩
  simp only [hstep] at h
  rcases step with instruction | _ | instruction
  · have hobey := obey_error h
    exact hobey
  · cases h
  · have hobey := obey_error h
    exact hobey

theorem Carried.limit_eq {m : Machine σ n} {c c' : Config σ n} {top : Frame σ n}
    {rest : List (Frame σ n)} (h : Carried m c top rest c') : c'.limit = c.limit := by
  cases h with
  | silent => rfl
  | placed => rfl
  | entered _ hentered =>
      rcases Config.enter_ok hentered with ⟨-, tape, -, rfl⟩ | ⟨-, rfl⟩ <;> rfl

theorem move_limit {m : Machine σ n} {c c' : Config σ n} (h : m.move c = .ok c') :
    c'.limit = c.limit := by
  unfold move at h
  split at h
  · cases h
  · split at h
    · obtain ⟨production, hcarried⟩ := stepTop_ok h
      exact hcarried.limit_eq
    · exact Config.finishTop_limit h

theorem moves_limit {m : Machine σ n} {count : Nat} {c c' : Config σ n}
    (h : m.moves count c = .ok c') : c'.limit = c.limit := by
  induction count generalizing c with
  | zero =>
      cases h
      rfl
  | succ count ih =>
      rcases hmove : m.move c with halt | c₁
      · simp [moves, hmove] at h
      · simp only [moves, hmove] at h
        rw [ih h, move_limit hmove]

theorem moves_add (m : Machine σ n) (first second : Nat) (c : Config σ n) :
    m.moves (first + second) c =
      match m.moves first c with
      | .ok c => m.moves second c
      | .error halt => .error halt := by
  induction first generalizing c with
  | zero => simp [moves]
  | succ first ih =>
      rw [Nat.add_right_comm]
      simp only [moves]
      rcases m.move c with halt | c'
      · rfl
      · exact ih c'

theorem moves_succ (m : Machine σ n) (count : Nat) (c : Config σ n) :
    m.moves (count + 1) c = m.move c >>= m.moves count := by
  rw [moves]
  rcases m.move c with halt | c <;> rfl

theorem bind_moves_zero (m : Machine σ n) (x : Result σ n) : x >>= m.moves 0 = x := by
  rcases x with halt | c <;> rfl

section Script

variable {c : Config σ n} {f : Frame σ n} {rest : List (Frame σ n)} {value : Option Extent}

theorem move_body (m : Machine σ n) {instruction : Instruction}
    {body : List Instruction} {tail : Option Instruction} (hframes : c.frames = f :: rest)
    (hscript : f.production = .script ⟨instruction :: body, tail⟩)
    (hflow : c.flow = .resume value) :
    m.move c =
      m.obey { c with frames := { f with production := .script ⟨body, tail⟩ } :: rest }
        { f with production := .script ⟨body, tail⟩ } rest instruction false := by
  simp only [move, hframes, hflow, stepTop, hscript, Production.step, Script.step]

theorem move_tail (m : Machine σ n) {instruction : Instruction}
    (hframes : c.frames = f :: rest) (hscript : f.production = .script ⟨[], some instruction⟩)
    (hflow : c.flow = .resume value) :
    m.move c =
      m.obey { c with frames := { f with production := .script ⟨[], none⟩ } :: rest }
        { f with production := .script ⟨[], none⟩ } rest instruction true := by
  simp only [move, hframes, hflow, stepTop, hscript, Production.step, Script.step]

theorem move_done (m : Machine σ n) (hframes : c.frames = f :: rest)
    (hdone : f.production = .script ⟨[], none⟩) (hflow : c.flow = .resume value) :
    m.move c = .ok { c with flow := .complete false } := by
  have hsame : ({ f with production := .script ⟨[], none⟩ } : Frame σ n) = f := by
    rw [← hdone]
  simp only [move, hframes, hflow, stepTop, hdone, Production.step, Script.step, hsame]

end Script

theorem moves_unique {m : Machine σ n} {fuel fuel' : Nat} {c : Config σ n}
    {halt halt' : Draft × Outcome} (h : m.moves fuel c = .error halt)
    (h' : m.moves fuel' c = .error halt') : halt = halt' := by
  have hlong : m.moves (fuel + fuel') c = .error halt := by rw [moves_add, h]
  rw [Nat.add_comm, moves_add, h'] at hlong
  exact (Except.error.inj hlong).symm

theorem moves_rest {m : Machine σ n} {fuel count : Nat} {c c' : Config σ n}
    {halt : Draft × Outcome} (h : m.moves fuel c = .error halt) (hc' : m.moves count c = .ok c') :
    ∃ rest, m.moves rest c' = .error halt := by
  rcases Nat.le_total fuel count with hle | hle
  · obtain ⟨more, rfl⟩ := Nat.exists_eq_add_of_le hle
    simp [moves_add, h] at hc'
  · obtain ⟨rest, rfl⟩ := Nat.exists_eq_add_of_le hle
    rw [moves_add, hc'] at h
    exact ⟨rest, h⟩

end Machine

end Moves

end GrammarMachine
