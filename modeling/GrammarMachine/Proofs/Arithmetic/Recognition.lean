import GrammarMachine.Proofs.Arithmetic.Bodies

/-!
The arithmetic language recognizes its grammar. Every run ends; it is accepted if the input is a
word of the grammar, and else it fails or leaves a part of the input, unless the frames do not
suffice.
-/

namespace GrammarMachine.Arithmetic

open Builtin.Arithmetic

section Program

variable {maxDepth height : Nat} {source : Source} {bases : List Draft} {d : Draft}
  {f : Frame Automaton 2} {below : List (Frame Automaton 2)} {slot : Slot} {symbols : List Symbol}

theorem program_gives (hruns : Runs f true slot programProduction) (hreads : d.Reads symbols)
    (hunshifted : d.tags.back?.any Tag.isShift = false)
    (hheight : below.length + 4 + 3 * nesting symbols ≤ height) :
    Gives maxDepth height source bases f below d false
      ((readProgram symbols).map fun found => found.1.content) := by
  have h := agrees maxDepth height source (3 * symbols.length + 2)
  have hlength := length_skipBlanks_le symbols
  have hnesting := nesting_skipBlanks_le symbols
  have htakes : d.Takes expressionSlot := .plain hunshifted rfl
  have htakes₁ := htakes.advanceAll (Blanks.take symbols).level (Blanks.take symbols).getLast?_tags
  have hreads₁ := reads_blanks hreads
  rw [readProgram, Option.map_map, Option.map_eq_bind]
  refine Machine.Leads.trans (eat_blanks (hruns.asks (.script _ _ _ _ _)) hreads) ?_
  refine Machine.Leads.answered (call_expression h (hruns.with _) (.script _ _ _ _ _) rfl rfl rfl
    rfl rfl rfl hreads₁ htakes₁ (by omega) (by omega)) rfl ?_
  rintro ⟨body, behind⟩ hbody
  have hreads₂ := hreads₁.after (body.symbols_tags expressionSlot)
    ((readsSoundly _).expression hbody)
  refine (eat_blanks ((hruns.with _).asks (.script _ _ _ _ _)) hreads₂).trans ?_
  refine (Config.Stands.ends (.script _ _)).trans (.refl ?_)
  intro c hstands
  simp only [← Draft.advanceAll_append] at hstands
  have hcloses := Config.Closes.of_completed rfl hstands
  simp only [hruns.closing, List.append_assoc, if_true] at hcloses
  exact hcloses

end Program

/-- The tags that every run begins with. -/
def preamble : List Tag :=
  [.doctype url [], .openFragment { gappy := true }]

/-- The draft with which a run begins. -/
def blankDraft (symbols : List Symbol) : Draft :=
  ({ Draft.fresh (.ofSymbols symbols) with language := some url } : Draft).advanceAll preamble

theorem reads_blankDraft (symbols : List Symbol) : (blankDraft symbols).Reads symbols := by
  have hfresh : ({ Draft.fresh (.ofSymbols symbols) with language := some url } : Draft).Reads
      symbols := ⟨[], rfl, rfl⟩
  exact hfresh.silent rfl

theorem unshifted_blankDraft (symbols : List Symbol) :
    (blankDraft symbols).tags.back?.any Tag.isShift = false := by
  rw [blankDraft, Draft.back?_advanceAll]
  rfl

theorem plan_fragment (maxDepth : Nat) (symbols : List Symbol) (props : Option Json) :
    ∃ e, (machine maxDepth).plan (blankDraft symbols) ((machine maxDepth).fragmentFrame props)
        { verb := .eat, goal := .gap, props } false = .ok (.enter e) ∧
      e.tags (blankDraft symbols) = [.reference .anonymous, opening "Program"] ∧
      Runs (e.pushed 0) true .anonymous programProduction := by
  have htakes : (blankDraft symbols).Takes .anonymous := .plain (unshifted_blankDraft symbols) rfl
  refine ⟨_, @Machine.plan_node _ _ _ _ (machine maxDepth) (blankDraft symbols)
    ((machine maxDepth).fragmentFrame props) { verb := .eat, goal := .gap, props } false document
    { nodeType := "Program" } .anonymous 1 _ rfl rfl (fun h => by cases h) rfl rfl
    (Machine.interpolates_eq_false (Bool.and_false _)) rfl rfl rfl, ?_, ?_⟩
  · change slotTags (blankDraft symbols) .anonymous ++ [opening "Program"] ++ [] = _
    rw [htakes.slotTags_eq]
    rfl
  · exact ⟨⟨rfl, rfl, rfl, rfl, rfl⟩, rfl⟩

theorem fragment_answered (maxDepth : Nat) (symbols : List Symbol) (props : Option Json) :
    (machine maxDepth).Leads (3 * nesting symbols + 5)
      (Config.Stands (.ofSymbols symbols) [] ((machine maxDepth).fragmentFrame props) []
        (blankDraft symbols) (.value false))
      (Config.Answered (.ofSymbols symbols) []
        { (machine maxDepth).fragmentFrame props with production := .script ⟨[], none⟩ } []
        (blankDraft symbols) false ((readProgram symbols).map fun found => found.1.tags)) := by
  obtain ⟨e, hplan, htags, hruns⟩ := plan_fragment maxDepth symbols props
  have hreads := (reads_blankDraft symbols).silent
    (show Stream.symbols [.reference .anonymous, opening "Program"] = [] from rfl)
  have hpolicy : e.frame.policy.branches = false := by
    rw [(Machine.plan_enter hplan).policy]
    rfl
  have hsame : ((readProgram symbols).map fun found => found.1.tags) =
      ((readProgram symbols).map fun found => found.1.content).map
        (e.tags (blankDraft symbols) ++ ·) := by
    rw [htags, Option.map_map]
    rfl
  rw [hsame]
  refine Config.Stands.call (.script _ _ _ _ _) hplan (by simp) rfl rfl ?_ ?_
  · rw [htags]
    intro tags hprogram
    obtain ⟨⟨p, rest⟩, -, rfl⟩ := Option.map_eq_some_iff.mp hprogram
    change Stream.symbols p.tags ≠ []
    rw [p.symbols_tags]
    exact p.symbols_ne_nil
  · rw [htags, hpolicy]
    intro d' hd'
    subst hd'
    refine program_gives hruns hreads ?_ ?_
    · rw [Draft.back?_advanceAll]
      rfl
    · simp only [List.length_cons, List.length_nil]
      omega

/-- How a run ends, given what the reader finds. -/
def Concluded (symbols : List Symbol) (tape : Draft) (outcome : Outcome) : Prop :=
  match readProgram symbols with
  | some (p, []) => (∃ extent, outcome = .accepted extent) ∧
      tape.tags.toList = preamble ++ p.tags ++ [.closeFragment]
  | some (_, _ :: _) => ∃ offset size, outcome = .rejected (.incomplete offset size)
  | none => ∃ offset, outcome = .rejected (.failed offset)

/-- The outermost frame ends the run. -/
theorem fragment_concludes (maxDepth : Nat) (symbols : List Symbol) (props : Option Json) :
    (machine maxDepth).Leads (3 * nesting symbols + 5)
      (Config.Stands (.ofSymbols symbols) [] ((machine maxDepth).fragmentFrame props) []
        (blankDraft symbols) (.value false))
      (fun c => ∃ tape outcome, (machine maxDepth).move c = .error (tape, outcome) ∧
        Concluded symbols tape outcome) := by
  refine (fragment_answered maxDepth symbols props).trans ?_
  unfold Concluded
  rcases hread : readProgram symbols with _ | ⟨p, rest⟩
  · apply Machine.Leads.refl
    rintro c ⟨d, hstands⟩
    obtain ⟨offset, hmove⟩ := hstands.halt_failed rfl
    exact ⟨d, _, hmove, offset, rfl⟩
  · have hreads := (reads_blankDraft symbols).after p.symbols_tags (readProgram_sound hread)
    refine (Config.Stands.ends (.script _ _)).trans (.refl ?_)
    intro c hstands
    obtain ⟨outcome, hmove, houtcome⟩ :=
      @Config.Stands.halt_completed _ _ _ (machine maxDepth) _ _ _ _ hstands rfl rfl
    rw [hreads.done] at houtcome
    refine ⟨_, outcome, hmove, ?_⟩
    rcases rest with _ | ⟨symbol, rest⟩
    · refine ⟨houtcome, ?_⟩
      rw [Draft.advanceAll_tags, Draft.advanceAll_tags, blankDraft, Draft.advanceAll_tags]
      rfl
    · exact houtcome

theorem run_concludes (maxDepth : Nat) (symbols : List Symbol) (props : Option Json) :
    ∃ fuel halt, (machine maxDepth).run (Draft.fresh (.ofSymbols symbols)) props fuel = some halt ∧
      (Concluded symbols halt.run.tape halt.outcome ∨
        halt.outcome = .rejected (.depthExceeded maxDepth) ∧
          maxDepth < 3 * nesting symbols + 5) := by
  by_cases hdepth : maxDepth = 0
  · subst hdepth
    obtain ⟨r, hstart⟩ := (machine 0).start_eq (.ofSymbols symbols) props
    exact ⟨0, _, by rw [Machine.run, hstart], .inr ⟨rfl, by omega⟩⟩
  · have hinitial : Config.Stands (.ofSymbols symbols) []
        ((machine maxDepth).fragmentFrame props) [] (blankDraft symbols) (.value false)
        ((machine maxDepth).initial (.ofSymbols symbols) props) :=
      ⟨(machine maxDepth).initial_sound _ props, rfl, rfl, rfl, fun h => by cases h⟩
    obtain ⟨fuel, tape, outcome, hmoves, hend⟩ :=
      (fragment_concludes maxDepth symbols props).halts (fun _ h => h) hinitial
    obtain ⟨halt, hrun, rfl, rfl⟩ := Machine.run_of_moves rfl hdepth hmoves
    exact ⟨fuel, halt, hrun, hend⟩

/-- Every run ends. Unless it needs more frames than it is allowed to have, it is accepted if the
input is a word of the grammar, and else it fails or leaves a part of the input. -/
theorem run_recognizes (maxDepth : Nat) (template : String) (props : Option Json) :
    let m := Builtin.arithmetic.machine { maxDepth, allowGaps := true }
    let tape := Draft.fresh (.ofTemplate template)
    let isWord := ∃ p : Program, p.symbols = Symbol.ofTemplate template.toList
    (∃ fuel halt, m.run tape props fuel = some halt) ∧
      ∀ fuel halt, m.run tape props fuel = some halt →
        halt.outcome = .rejected (.depthExceeded maxDepth) ∨
        (isWord ∧ ∃ extent, halt.outcome = .accepted extent) ∨
        (¬ isWord ∧ ((∃ offset, halt.outcome = .rejected (.failed offset)) ∨
          ∃ offset size, halt.outcome = .rejected (.incomplete offset size))) := by
  intro m tape isWord
  obtain ⟨fuel, halt, hrun, hend⟩ :=
    run_concludes maxDepth (Symbol.ofTemplate template.toList) props
  rw [← Source.ofTemplate_eq] at hrun
  refine ⟨⟨fuel, halt, hrun⟩, ?_⟩
  intro fuel' halt' hrun'
  obtain rfl := Machine.run_unique hrun hrun'
  rcases hend with hend | ⟨hdepth, -⟩
  · refine .inr ?_
    unfold Concluded at hend
    rcases hread : readProgram (Symbol.ofTemplate template.toList) with _ | ⟨p, rest⟩
    · have hnone : ¬ isWord := by
        rintro ⟨p, hp⟩
        rw [(readProgram_iff _ p).mpr hp] at hread
        cases hread
      rw [hread] at hend
      exact .inr ⟨hnone, .inl hend⟩
    · rcases rest with _ | ⟨symbol, rest⟩
      · rw [hread] at hend
        exact .inl ⟨⟨p, (readProgram_iff _ p).mp hread⟩, hend.1⟩
      · have hnone : ¬ isWord := by
          rintro ⟨p, hp⟩
          rw [(readProgram_iff _ p).mpr hp] at hread
          cases hread
        rw [hread] at hend
        exact .inr ⟨hnone, .inr hend⟩
  · exact .inl hdepth

end GrammarMachine.Arithmetic
