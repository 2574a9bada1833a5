import GrammarMachine.Proofs.Machine.Outline

/-!
Places on the stack. A frame is put on the stack in a step that makes it one frame higher. While the
place is taken, tail calls may put other frames there, but the frames below it do not change. For
every place of a state of a run there is the state just before the place was taken.
-/

namespace GrammarMachine

@[simp] theorem Run.length_outline {σ : Type} {n : Nat} {T : Type} (r : Run σ n T) :
    r.outline.frames.length = r.stack.size :=
  List.length_map _

theorem Run.Stepping.unique {σ : Type} {n : Nat} {T : Type} [Tape T] [Stepper σ]
    {r : Run σ n T} {top top' : Frame σ n} {rest rest' : List (Frame σ n)}
    {value value' : Option Extent} {step step' : Step} {production production' : Production σ}
    (h : r.Stepping top rest value step production)
    (h' : r.Stepping top' rest' value' step' production') :
    top = top' ∧ rest = rest' ∧ value = value' ∧ step = step' ∧ production = production' := by
  obtain ⟨rfl, rfl⟩ := List.cons.inj (h.frames.symm.trans h'.frames)
  obtain rfl := Flow.resume.inj (h.flow.symm.trans h'.flow)
  obtain ⟨rfl, rfl⟩ := Prod.mk.inj (h.step.symm.trans h'.step)
  exact ⟨rfl, rfl, rfl, rfl, rfl⟩

namespace Machine

variable {σ : Type} {n : Nat} {T : Type} [Tape T] [Stepper σ] {m : Machine σ n} {tape : T}
  {props : Option Json} {r r' before : Run σ n T} {count : Nat}

theorem steps_succ (m : Machine σ n) (count : Nat) (r : Run σ n T) :
    m.steps (count + 1) r = match m.steps count r with
      | .ok r' => m.step r'
      | .error halt => .error halt := by
  induction count generalizing r with
  | zero =>
      simp only [steps]
      rcases m.step r with halt | r' <;> rfl
  | succ count ih =>
      rw [steps]
      rcases hstep : m.step r with halt | r'
      · simp only [steps, hstep]
      · dsimp only
        rw [ih, steps, hstep]

theorem steps_next (h : m.steps count r = .ok r') : m.steps (count + 1) r = m.step r' := by
  rw [steps_succ, h]

theorem steps_add (m : Machine σ n) (first second : Nat) (r : Run σ n T) :
    m.steps (first + second) r = m.steps first r >>= m.steps second := by
  induction first generalizing r with
  | zero =>
      rw [Nat.zero_add]
      rfl
  | succ first ih =>
      rw [Nat.add_right_comm, steps, steps]
      rcases m.step r with halt | r'
      · rfl
      · exact ih r'

namespace Reaches

theorem step (h : m.Reaches tape props r) (hstep : m.step r = .ok r') :
    m.Reaches tape props r' := by
  obtain ⟨first, count, hfirst, hsteps⟩ := h
  refine ⟨first, count + 1, hfirst, ?_⟩
  rw [steps_succ, hsteps]
  exact hstep

@[elab_as_elim]
theorem induction {P : Run σ n T → Prop} (h : m.Reaches tape props r)
    (hstart : ∀ first, m.start tape props = .ok first → P first)
    (hstep : ∀ r r', m.Reaches tape props r → P r → m.step r = .ok r' → P r') : P r := by
  obtain ⟨first, count, hfirst, hsteps⟩ := h
  induction count generalizing r with
  | zero =>
      cases hsteps
      exact hstart _ hfirst
  | succ count ih =>
      rw [steps_succ] at hsteps
      rcases hprior : m.steps count first with halt | prior
      · rw [hprior] at hsteps
        cases hsteps
      · rw [hprior] at hsteps
        exact hstep prior r ⟨first, count, hfirst, hprior⟩ (ih hprior) hsteps

theorem exists_prior (h : m.Reaches tape props r) : m.start tape props = .ok r ∨
    ∃ prior, m.Reaches tape props prior ∧ m.step prior = .ok r := by
  refine h.induction ?_ ?_
  · intro first hfirst
    exact .inl hfirst
  · intro r r' hr _ hstep
    exact .inr ⟨r, hr, hstep⟩

theorem rooted (h : m.Reaches tape props r) : Rooted r.stack.frames := by
  refine h.induction ?_ ?_
  · intro first hfirst
    rw [← rooted_map_unstarted]
    change Rooted first.outline.frames
    rw [start_outline hfirst]
    exact ⟨rfl, rfl, rfl, rfl⟩
  · intro r r' _ ih hstep
    rw [← rooted_map_unstarted]
    exact (step_turn ih hstep).rooted ih

theorem turn (h : m.Reaches tape props r) (hstep : m.step r = .ok r') : m.Turn r r'.outline :=
  step_turn h.rooted hstep

theorem ending (h : m.Reaches tape props r) {halt : Halt σ n T} (hstep : m.step r = .error halt) :
    Machine.End r halt.run.outline.milestones halt.outcome :=
  step_end h.rooted hstep

end Reaches

/-- A run that ends did not begin, or it ends with a step from one of its states. -/
theorem run_ends {fuel : Nat} {halt : Halt σ n T} (h : m.run tape props fuel = some halt) :
    m.start tape props = .error halt ∨
      ∃ r, m.Reaches tape props r ∧ m.step r = .error halt := by
  unfold run at h
  rcases hstart : m.start tape props with begun | first
  · rw [hstart] at h
    exact .inl (congrArg Except.error (Option.some.inj h))
  · right
    simp only [hstart] at h
    rcases hsteps : m.steps fuel first with ended | r
    · rw [hsteps] at h
      cases h
      -- The last state is the one from which no step leads on.
      have hreaches : m.Reaches tape props first := ⟨first, 0, hstart, rfl⟩
      clear hstart
      induction fuel generalizing first with
      | zero => cases hsteps
      | succ fuel ih =>
          rw [steps] at hsteps
          rcases hstep : m.step first with halted | next
          · rw [hstep] at hsteps
            exact ⟨first, hreaches, hsteps ▸ hstep⟩
          · rw [hstep] at hsteps
            exact ih next hsteps (hreaches.step hstep)
    · rw [hsteps] at h
      cases h

/-- The place above the frames of `before` was taken in the step after `before`, which is `count`
steps back, and has been taken since. -/
inductive Put (m : Machine σ n) (before : Run σ n T) : Nat → Run σ n T → Prop where
  | first {r : Run σ n T} : m.step before = .ok r → before.stack.size < r.stack.size →
      m.Put before 1 r
  | next {count : Nat} {r r' : Run σ n T} : m.Put before count r → m.step r = .ok r' →
      before.stack.size < r'.stack.size → m.Put before (count + 1) r'

namespace Put

theorem steps (h : m.Put before count r) : m.steps count before = .ok r := by
  induction h with
  | first hstep _ => simp only [Machine.steps, hstep]
  | next _ hstep _ ih =>
      rw [steps_succ, ih]
      exact hstep

theorem size (h : m.Put before count r) : before.stack.size < r.stack.size := by
  cases h <;> assumption

theorem pos (h : m.Put before count r) : 0 < count := by
  cases h <;> exact Nat.succ_pos _

theorem reaches (h : m.Put before count r) (hbefore : m.Reaches tape props before) :
    m.Reaches tape props r := by
  induction h with
  | first hstep _ => exact hbefore.step hstep
  | next _ hstep _ ih => exact ih.step hstep

end Put

theorem Turn.size_le {o : Outline σ n} (h : m.Turn r o) : o.frames.length ≤ r.stack.size + 1 := by
  cases h with
  | kept hstepping _ => simp [Stack.size, hstepping.frames]
  | pushed hstepping _ _ => simp [Stack.size, hstepping.frames]
  | spliced hstepping _ _ => simp [Stack.size, hstepping.frames]
  | finished hframes _ _ => simp [Stack.size, hframes]

/-- For each place above the outermost frame there is the state before it was taken. -/
theorem Reaches.exists_put (h : m.Reaches tape props r) {place : Nat} (hinner : 0 < place)
    (hplace : place < r.stack.size) :
    ∃ before count, m.Reaches tape props before ∧ before.stack.size = place ∧
      m.Put before count r := by
  revert hplace
  refine h.induction ?_ ?_
  · intro first hfirst hplace
    rw [← Run.length_outline, start_outline hfirst, List.length_singleton] at hplace
    omega
  · intro r r' hr ih hstep hplace
    by_cases htaken : place < r.stack.size
    · obtain ⟨before, count, hbefore, hsize, hput⟩ := ih htaken
      exact ⟨before, count + 1, hbefore, hsize, hput.next hstep (hsize ▸ hplace)⟩
    · have hgrown := (hr.turn hstep).size_le
      rw [Run.length_outline] at hgrown
      have hsize : r.stack.size = place := by omega
      exact ⟨r, 1, hr, hsize, .first hstep (hsize ▸ hplace)⟩

/-- What a step makes of the frame in a place that stays taken: its rule goes on, or another rule
has taken it over. -/
inductive Renews (m : Machine σ n) (r : Run σ n T) (f f' : Frame σ n) : Prop where
  | kept : f'.serial = f.serial → f'.policy = f.policy → f'.language = f.language →
      f'.nodeType = f.nodeType → f'.allowEmpty = f.allowEmpty → m.Renews r f f'
  | spliced {top : Frame σ n} {a : Attempt} {tail : Bool} {e : Entry σ n} :
      m.plan r.tape top a tail = .ok (.enter e) → f'.serial = r.productions →
      f'.policy = f.policy → f'.language = e.frame.language → f'.nodeType = e.frame.nodeType →
      f'.allowEmpty = (f.allowEmpty && e.frame.allowEmpty) → m.Renews r f f'

omit [Stepper σ] in
theorem Renews.policy {f f' : Frame σ n} (h : m.Renews r f f') : f'.policy = f.policy := by
  cases h <;> assumption

/-- The frames above a place after a step, all but perhaps the new active one with the numbers they
had before. -/
def NumberedBy (r : Run σ n T) (high high' : List (Frame σ n)) : Prop :=
  ∀ g ∈ high', g.serial = r.productions ∨ ∃ g' ∈ high, g'.serial = g.serial

omit [Tape T] [Stepper σ] in
theorem NumberedBy.refl (high : List (Frame σ n)) : NumberedBy r high high :=
  fun g hg => .inr ⟨g, hg, rfl⟩

omit [Tape T] [Stepper σ] in
theorem NumberedBy.cons {high high' : List (Frame σ n)} {g : Frame σ n}
    (hg : g.serial = r.productions ∨ ∃ g' ∈ high, g'.serial = g.serial)
    (h : NumberedBy r high high') : NumberedBy r high (g :: high') := by
  intro x hx
  rcases List.mem_cons.mp hx with rfl | hx
  · exact hg
  · exact h x hx

omit [Tape T] [Stepper σ] in
theorem NumberedBy.above {high high' : List (Frame σ n)} {g : Frame σ n}
    (h : NumberedBy r high high') : NumberedBy r (g :: high) high' := by
  intro x hx
  rcases h x hx with hnew | ⟨x', hx', hserial⟩
  · exact .inl hnew
  · exact .inr ⟨x', List.mem_cons_of_mem _ hx', hserial⟩

theorem Turn.renews {o : Outline σ n} (h : m.Turn r o) {high low : List (Frame σ n)}
    {f : Frame σ n} (hframes : r.outline.frames = high ++ f :: low)
    (htaken : low.length < o.frames.length) :
    ∃ high' f', o.frames = high' ++ f' :: low ∧ m.Renews r f f' ∧ NumberedBy r high high' := by
  have hsame : m.Renews r f f := .kept rfl rfl rfl rfl rfl
  have hsplit : ∀ {top : Frame σ n} {rest : List (Frame σ n)}, r.stack.frames = top :: rest →
      high = [] ∧ f = top.unstarted ∧ low = rest.map Frame.unstarted ∨
        ∃ hs, high = top.unstarted :: hs ∧ rest.map Frame.unstarted = hs ++ f :: low := by
    intro top rest hstack
    simp only [Run.outline, hstack, List.map_cons] at hframes
    rcases high with _ | ⟨t, hs⟩
    · obtain ⟨htop, hrest⟩ := List.cons.inj hframes
      exact .inl ⟨rfl, htop.symm, hrest.symm⟩
    · obtain ⟨htop, hrest⟩ := List.cons.inj hframes
      exact .inr ⟨hs, by rw [htop], hrest⟩
  cases h with
  | @kept top rest value step production flow hstepping _ =>
      rcases hsplit hstepping.frames with ⟨rfl, rfl, rfl⟩ | ⟨hs, rfl, hrest⟩
      · exact ⟨[], _, rfl, .kept rfl rfl rfl rfl rfl, .refl []⟩
      · refine ⟨{ top with production }.unstarted :: hs, f, ?_, hsame, ?_⟩
        · rw [List.map_cons, hrest, List.cons_append]
        · exact .cons (.inr ⟨_, List.mem_cons_self, rfl⟩) (.above (.refl hs))
  | @pushed top rest value a tail production e hstepping hplan _ =>
      rcases hsplit hstepping.frames with ⟨rfl, rfl, rfl⟩ | ⟨hs, rfl, hrest⟩
      · exact ⟨[_], _, rfl, .kept rfl rfl rfl rfl rfl, .cons (.inl rfl) (.refl [])⟩
      · refine ⟨{ e.pushed rest.length with serial := r.productions }.unstarted ::
          { top with production, returning := e.returns || top.returning }.unstarted :: hs,
          f, ?_, hsame, ?_⟩
        · rw [List.map_cons, List.map_cons, hrest, List.cons_append, List.cons_append]
        · exact .cons (.inl rfl) (.cons (.inr ⟨_, List.mem_cons_self, rfl⟩) (.above (.refl hs)))
  | @spliced top rest value a tail production e hstepping hplan _ =>
      rcases hsplit hstepping.frames with ⟨rfl, rfl, rfl⟩ | ⟨hs, rfl, hrest⟩
      · exact ⟨[], _, rfl, .spliced hplan rfl rfl rfl rfl rfl, .refl []⟩
      · refine ⟨{ e.spliced top with serial := r.productions }.unstarted :: hs, f, ?_, hsame, ?_⟩
        · rw [List.map_cons, hrest, List.cons_append]
        · exact .cons (.inl rfl) (.above (.refl hs))
  | @finished top below rest failed value hstack _ _ =>
      rcases hsplit hstack with ⟨rfl, rfl, rfl⟩ | ⟨hs, rfl, hrest⟩
      · exact absurd htaken (Nat.lt_irrefl _)
      · exact ⟨hs, f, hrest, hsame, .above (.refl hs)⟩

/-- The active production of `before` asks for a rule that is entered above its frame. -/
structure Pushes (m : Machine σ n) (before : Run σ n T) (top : Frame σ n) (rest : List (Frame σ n))
    (a : Attempt) (tail : Bool) (production : Production σ) (e : Entry σ n) : Prop where
  stepping : ∃ value,
    before.Stepping top rest value ((Instruction.attempt a).asStep tail) production
  plan : m.plan before.tape top a tail = .ok (.enter e)
  above : e.replaces = false

theorem Turn.productions_le {o : Outline σ n} (h : m.Turn r o) : r.productions ≤ o.productions := by
  cases h
  · exact Nat.le_refl _
  · exact Nat.le_succ _
  · exact Nat.le_succ _
  · exact Nat.le_refl _

theorem Turn.pushes {o : Outline σ n} (h : m.Turn before o)
    (hsize : before.stack.size < o.frames.length) :
    ∃ top rest a tail production e, m.Pushes before top rest a tail production e ∧
      o.frames = ({ e.pushed rest.length with serial := before.productions } ::
        { top with production, returning := e.returns || top.returning } :: rest).map
          Frame.unstarted ∧ o.productions = before.productions + 1 := by
  cases h with
  | kept hstepping _ => simp [Stack.size, hstepping.frames] at hsize
  | pushed hstepping hplan habove =>
      exact ⟨_, _, _, _, _, _, ⟨⟨_, hstepping⟩, hplan, habove⟩, rfl, rfl⟩
  | spliced hstepping _ _ => simp [Stack.size, hstepping.frames] at hsize
  | finished hframes _ _ =>
      simp only [Stack.size, hframes, List.length_map, List.length_cons] at hsize
      omega

/-- The frames below a place do not change while it is taken. Those in it and above it have been
made since. -/
theorem Put.frames (h : m.Put before count r) (hbefore : m.Reaches tape props before) :
    ∃ top rest a tail production e high f, m.Pushes before top rest a tail production e ∧
      r.outline.frames = high ++ f :: ({ top with
        production, returning := e.returns || top.returning } :: rest).map Frame.unstarted ∧
      f.policy = e.frame.policy ∧ before.productions < r.productions ∧
      ∀ g ∈ f :: high, before.productions ≤ g.serial := by
  induction h with
  | @first r hstep hsize =>
      rw [← r.length_outline] at hsize
      obtain ⟨top, rest, a, tail, production, e, hpushes, hframes, hproductions⟩ :=
        (hbefore.turn hstep).pushes hsize
      refine ⟨top, rest, a, tail, production, e, [],
        { e.pushed rest.length with serial := before.productions }.unstarted, hpushes, ?_, rfl,
        ?_, ?_⟩
      · rw [hframes]
        rfl
      · change before.productions < r.outline.productions
        rw [hproductions]
        exact Nat.lt_succ_self _
      · intro g hg
        rw [List.mem_singleton.mp hg]
        exact Nat.le_refl _
  | @next count r r' hput hstep hsize ih =>
      obtain ⟨top, rest, a, tail, production, e, high, f, hpushes, hframes, hpolicy, hmade,
        hserials⟩ := ih
      have hturn := (hput.reaches hbefore).turn hstep
      obtain ⟨value, hstepping⟩ := hpushes.stepping
      have htaken : (({ top with production, returning := e.returns || top.returning } ::
          rest).map Frame.unstarted).length < r'.outline.frames.length := by
        rw [Run.length_outline]
        simpa [Stack.size, hstepping.frames] using hsize
      obtain ⟨high', f', hframes', hrenews, hnumbered⟩ := hturn.renews hframes htaken
      refine ⟨top, rest, a, tail, production, e, high', f', hpushes, hframes',
        hrenews.policy.trans hpolicy, Nat.lt_of_lt_of_le hmade hturn.productions_le, ?_⟩
      intro g hg
      rcases List.mem_cons.mp hg with rfl | hg
      · -- The place is kept or taken over; its frame has been made since in either case.
        cases hrenews with
        | kept hserial =>
            rw [hserial]
            exact hserials f List.mem_cons_self
        | spliced _ hserial =>
            rw [hserial]
            exact Nat.le_of_lt hmade
      · rcases hnumbered g hg with hserial | ⟨g', hg', hserial⟩
        · rw [hserial]
          exact Nat.le_of_lt hmade
        · rw [← hserial]
          exact hserials g' (List.mem_cons_of_mem _ hg')

end Machine

namespace Machine

variable {σ : Type} {n : Nat} {m : Machine σ n} {source : Source} {props : Option Json}

theorem config_start {first : Run σ n Draft}
    (h : m.start (Draft.fresh source) props = .ok first) :
    first.config = m.initial source props := by
  have hstart := m.start_eq source props
  split at hstart
  · obtain ⟨r', hstart⟩ := hstart
    simp [hstart] at h
  · split at hstart
    · obtain ⟨r', hstart⟩ := hstart
      simp [hstart] at h
    · obtain ⟨r', hstart, hconfig⟩ := hstart
      rw [hstart] at h
      cases h
      exact hconfig

/-- Over drafts, the tapes on which the frames lie are those of the states before their places were
taken. -/
theorem Reaches.based [Stepper σ] {r : Run σ n Draft} (h : m.Reaches (Draft.fresh source) props r) :
    ∃ bases, r.config.Sound source bases ∧ ∀ ups base downs, bases = ups ++ base :: downs →
      ∃ before count, m.Reaches (Draft.fresh source) props before ∧
        before.stack.size = downs.length + 1 ∧ m.Put before count r ∧ before.tape = base := by
  refine h.induction ?_ ?_
  · intro first hfirst
    refine ⟨[], ?_, by simp⟩
    rw [config_start hfirst]
    exact m.initial_sound source props
  · rintro r r' hr ⟨bases, hsound, hbases⟩ hstep
    have hmove : m.move r.config = .ok r'.config := by
      rw [← config_step, hstep]
      rfl
    obtain ⟨bases', hsound', hcases⟩ := hsound.move hmove
    refine ⟨bases', hsound', ?_⟩
    have hsize : r.stack.size = bases.length + 1 := by
      rw [← hsound.layers.length_bases, Run.config, List.length_map]
      rfl
    have hsize' : r'.stack.size = bases'.length + 1 := by
      rw [← hsound'.layers.length_bases, Run.config, List.length_map]
      rfl
    -- A tape that was there before the step is still the one of its place.
    have hkept : ∀ ups base downs, bases = ups ++ base :: downs → downs.length < bases'.length →
        ∃ before count, m.Reaches (Draft.fresh source) props before ∧
          before.stack.size = downs.length + 1 ∧ m.Put before count r' ∧ before.tape = base := by
      intro ups base downs hups hlength
      obtain ⟨before, count, hbefore, hplace, hput, htape⟩ := hbases ups base downs hups
      exact ⟨before, count + 1, hbefore, hplace, hput.next hstep (by omega), htape⟩
    intro ups base downs hups
    have hlength : downs.length < bases'.length := by simp [hups]; omega
    rcases hcases with rfl | rfl | ⟨base', rfl⟩
    · exact hkept ups base downs hups hlength
    · rcases ups with _ | ⟨up, ups⟩
      · obtain ⟨rfl, rfl⟩ := List.cons.inj hups
        refine ⟨r, 1, hr, hsize, .first hstep ?_, rfl⟩
        rw [hsize, hsize']
        exact Nat.lt_succ_self _
      · exact hkept ups base downs (List.cons.inj hups).2 hlength
    · exact hkept (base' :: ups) base downs (by rw [hups]; rfl) hlength

end Machine

end GrammarMachine
