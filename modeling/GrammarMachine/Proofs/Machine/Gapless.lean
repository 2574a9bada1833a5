import GrammarMachine.Proofs.Machine.Intact
import GrammarMachine.Proofs.Machine.Strict

/-!
What a machine accepts that allows no gaps. It writes none, so its input has none, and a machine
that does allow gaps accepts the same input with the same tags, but for the permission of gaps.
-/

namespace GrammarMachine

variable {σ : Type} {n : Nat}

namespace Machine

theorem gap_of_mem_slotTags {d : Draft} {slot : Slot} {more : List Tag}
    (h : .gap ∈ slotTags d slot ++ more) : .gap ∈ more := by
  rcases List.mem_append.mp h with h | h
  · unfold slotTags at h
    repeat' split at h
    all_goals simp [arrayTags] at h
  · exact h

theorem plan_place_allowed {m : Machine σ n} {d : Draft} {top : Frame σ n} {a : Attempt}
    {tail : Bool} {tags : List Tag} {value : Option (String × Position)}
    (h : m.plan d top a tail = .ok (.place tags value)) (hgap : .gap ∈ tags) :
    m.options.allowGaps = true := by
  cases plan_places h with
  | text => cases mem_textTags hgap
  | gap _ hallowed _ _ => exact hallowed
  | filled => cases hgap
  | null => simpa using gap_of_mem_slotTags hgap
  | array => simp [arrayTags] at hgap
  | token =>
      simp only [List.append_assoc] at hgap
      replace hgap := gap_of_mem_slotTags hgap
      simp only [List.mem_append, List.mem_singleton, reduceCtorEq, or_false, false_or] at hgap
      cases mem_textTags hgap

theorem gap_notMem_tags {m : Machine σ n} {d : Draft} {top : Frame σ n} {a : Attempt}
    {tail : Bool} {e : Entry σ n} (h : e.Fits m d top a tail) (d' : Draft) : .gap ∉ e.tags d' := by
  intro hgap
  rcases List.mem_append.mp hgap with hgap | hgap
  · simp at hgap
  · rcases h.opening with ⟨-, hnone⟩ | ⟨-, traits, url, nodeType, attributes, hsome⟩
    · simp [hnone] at hgap
    · rw [hsome] at hgap
      simp only [Option.toList_some, List.flatMap_singleton] at hgap
      simpa using gap_of_mem_slotTags hgap

theorem gap_notMem_closing {d : Draft} (h : .gap ∉ d.tags.toList) (f : Frame σ n)
    (failing : Bool) : .gap ∉ (d.advanceAll (f.closing failing)).tags.toList := by
  have hclosing : .gap ∉ f.closing failing := by
    unfold Frame.closing
    repeat' split
    all_goals simp
  rw [Draft.advanceAll_tags, List.mem_append, not_or]
  exact ⟨h, hclosing⟩

variable [Stepper σ]

theorem obey_gapless {m : Machine σ n} {c c' : Config σ n} {top : Frame σ n}
    {rest : List (Frame σ n)} {instruction : Instruction} {tail : Bool}
    (h : m.obey c top rest instruction tail = .ok c') (hstrict : m.options.allowGaps = false)
    (hgap : .gap ∉ c.tape.tags.toList) : .gap ∉ c'.tape.tags.toList := by
  cases instruction with
  | attempt a =>
      simp only [obey] at h
      rcases hplan : m.plan c.tape top a tail with outcome | plan
      · simp [hplan] at h
      · simp only [hplan] at h
        cases plan with
        | miss emptied =>
            cases h
            exact hgap
        | place tags value =>
            cases h
            simp only [Config.write, Draft.advanceAll_tags, List.mem_append, not_or]
            refine ⟨hgap, ?_⟩
            intro hwritten
            split at hwritten
            · rw [plan_place_allowed hplan hwritten] at hstrict
              cases hstrict
            · cases hwritten
        | enter e =>
            have hnone := gap_notMem_tags (plan_enter hplan)
            rcases Config.enter_ok h with ⟨-, tape, hsilent, rfl⟩ | ⟨-, rfl⟩
            · simp only [Config.write, Draft.advanceAll_tags, List.mem_append, not_or, hsilent.tags]
              exact ⟨hgap, hnone _⟩
            · simp only [Config.write, Draft.advanceAll_tags, List.mem_append, not_or]
              refine ⟨?_, hnone _⟩
              unfold Draft.branchIf
              split <;> exact hgap
  | fail =>
      cases h
      exact hgap
  | write text options =>
      cases h
      exact hgap
  | openSpan name =>
      cases h
      exact hgap
  | closeSpan name =>
      cases h
      exact hgap
  | bind key value =>
      cases h
      have htags := (Draft.Silent.perform_bind c.tape key value).tags
      simpa [htags] using hgap

theorem finish_tags {f : Frame σ n} {d cleaned : Draft} (h : f.finish d = .ok cleaned)
    (failing : Bool) : (f.settle failing cleaned).tags.toList <+: d.tags.toList := by
  rw [← (Frame.finish_silent h).tags]
  unfold Frame.settle
  split
  · split
    · change cleaned.reject.tags.toList <+: _
      unfold Draft.reject
      split
      · simpa [Draft.restore] using List.take_prefix _ _
      · exact List.prefix_rfl
    · exact List.prefix_rfl
  · exact List.prefix_rfl

theorem finishTop_tags (c : Config σ n) (top : Frame σ n) (rest : List (Frame σ n))
    (failed : Bool) :
    let closed := c.tape.advanceAll (top.closing (top.fails failed c.tape.position))
    (∀ c', c.finishTop top rest failed = .ok c' →
      c'.tape.tags.toList <+: closed.tags.toList) ∧
      ∀ d extent, c.finishTop top rest failed = .error (d, .accepted extent) →
        d.tags.toList <+: closed.tags.toList := by
  intro closed
  unfold Config.finishTop
  dsimp only
  split
  · exact ⟨nofun, by simp⟩
  · rcases hcleaned : top.finish (c.tape.advanceAll
      (top.closing (top.fails failed c.tape.position))) with ⟨d, outcome⟩ | cleaned
    · refine ⟨nofun, ?_⟩
      intro d' extent h
      cases h
      have hblames := Frame.finish_error hcleaned
      cases hblames
    · have hleft := finish_tags hcleaned (top.fails failed c.tape.position)
      dsimp only
      split
      · refine ⟨nofun, ?_⟩
        intro d extent h
        obtain ⟨rfl, -⟩ := Prod.mk.inj (Except.error.inj h)
        exact hleft
      · refine ⟨?_, ?_⟩
        · intro c' h
          unfold Config.resumeBelow at h
          repeat' split at h
          all_goals cases h
          all_goals exact hleft
        · intro d extent h
          unfold Config.resumeBelow at h
          repeat' split at h
          all_goals cases h

theorem finishTop_gapless {c : Config σ n} {top : Frame σ n} {rest : List (Frame σ n)}
    {failed : Bool} (hgap : .gap ∉ c.tape.tags.toList) :
    (∀ c', c.finishTop top rest failed = .ok c' → .gap ∉ c'.tape.tags.toList) ∧
      ∀ d extent, c.finishTop top rest failed = .error (d, .accepted extent) →
        .gap ∉ d.tags.toList := by
  obtain ⟨hok, haccepted⟩ := finishTop_tags c top rest failed
  have hclosed := gap_notMem_closing hgap top (top.fails failed c.tape.position)
  refine ⟨?_, ?_⟩
  · intro c' h hmem
    exact hclosed ((hok c' h).subset hmem)
  · intro d extent h hmem
    exact hclosed ((haccepted d extent h).subset hmem)

theorem move_gapless {m : Machine σ n} (hstrict : m.options.allowGaps = false) {c : Config σ n}
    (hgap : .gap ∉ c.tape.tags.toList) :
    (∀ c', m.move c = .ok c' → .gap ∉ c'.tape.tags.toList) ∧
      ∀ d extent, m.move c = .error (d, .accepted extent) → .gap ∉ d.tags.toList := by
  unfold move
  split
  · exact ⟨nofun, by simp⟩
  · rename_i top rest hframes
    split
    · rename_i value hflow
      refine ⟨?_, ?_⟩
      · intro c' h
        unfold stepTop at h
        rcases hstep : top.production.step c.tape.cursor value with ⟨step, production⟩
        simp only [hstep] at h
        rcases step with instruction | _ | instruction
        · exact obey_gapless h hstrict hgap
        · cases h
          exact hgap
        · exact obey_gapless h hstrict hgap
      · intro d extent h
        rcases stepTop_error h with hblames | hdepth | ⟨_, _, _, hfault⟩
        · cases hblames
        · cases hdepth
        · cases hfault
    · exact finishTop_gapless hgap

theorem gapOffsets_eq_nil {tags : List Tag} (h : .gap ∉ tags) (before : Nat) :
    Stream.gapOffsets before tags = [] := by
  fun_induction Stream.gapOffsets before tags with
  | case1 => rfl
  | case2 before text rest ih => exact ih (List.not_mem_of_not_mem_cons h)
  | case3 before rest ih => exact absurd List.mem_cons_self h
  | case4 before tag rest htext hgap ih => exact ih (List.not_mem_of_not_mem_cons h)

/-- A machine that allows no gaps accepts no input that has one. -/
theorem gaps_eq_nil {m : Machine σ n} (hstrict : m.options.allowGaps = false) {source : Source}
    {props : Option Json} {fuel : Nat} {halt : Halt σ n Draft} {extent : Extent}
    (hrun : m.run (Draft.fresh source) props fuel = some halt)
    (haccepted : halt.outcome = .accepted extent) : source.gaps = [] := by
  have hmoves := moves_of_run hrun (by rw [haccepted]; rfl) (by simp [haccepted])
  have hinitial : .gap ∉ (m.initial source props).tape.tags.toList := by
    rw [initial, Draft.advanceAll_tags]
    simp [Draft.fresh]
  obtain ⟨c, hc, hmove⟩ := moves_error
    (P := fun c : Config σ n => .gap ∉ c.tape.tags.toList)
    (fun c c' hc hmove => (move_gapless hstrict hc).1 c' hmove) hinitial hmoves
  rw [haccepted] at hmove
  have hnone := (move_gapless hstrict hc).2 _ _ hmove
  obtain ⟨-, hgaps⟩ := (run_finished hrun haccepted).complete
  rw [← hgaps, ← Stream.gapOffsets_eq, gapOffsets_eq_nil hnone]

/-- What is accepted without gaps is accepted with them, with the same tags. -/
theorem run_of_strict {m : Machine σ n} {source : Source} {props : Option Json} {fuel : Nat}
    {halt : Halt σ n Draft} {extent : Extent}
    (hrun : m.strict.run (Draft.fresh source) props fuel = some halt)
    (haccepted : halt.outcome = .accepted extent) :
    ∃ halt', m.run (Draft.fresh source) props fuel = some halt' ∧
      halt'.outcome = .accepted extent ∧
      halt.run.tape.tags.toList = halt'.run.tape.tags.toList.map Tag.strict := by
  have hgaps := gaps_eq_nil rfl hrun haccepted
  have hgrammar : halt.outcome.blamesGrammar = false := by rw [haccepted]; rfl
  have hdepth : ∀ limit, halt.outcome ≠ .rejected (.depthExceeded limit) := by simp [haccepted]
  obtain ⟨hslot, hlimit⟩ := begins_of_run hrun hgrammar hdepth
  have hmoves := moves_of_run hrun hgrammar hdepth
  rw [initial_strict, m.moves_strict hgaps (m.initial_sound source props)] at hmoves
  rcases hmoves' : m.moves fuel (m.initial source props) with ⟨d, outcome⟩ | c
  · obtain ⟨halt', hrun', rfl, rfl⟩ := @run_of_moves _ _ _ m _ _ _ hslot hlimit _ _ hmoves'
    rw [hmoves', Result.strict, haccepted, Except.error.injEq, Prod.mk.injEq] at hmoves
    obtain ⟨htape, houtcome⟩ := hmoves
    refine ⟨halt', hrun', ?_, ?_⟩
    · rcases houtcome' : halt'.outcome with found | error | fault
      · rw [houtcome'] at houtcome
        exact houtcome
      · simp [houtcome', Outcome.strict] at houtcome
      · simp [houtcome', Outcome.strict] at houtcome
    · rw [← htape]
      simp [Draft.strict]
  · rw [hmoves'] at hmoves
    cases hmoves

end Machine

end GrammarMachine
