import GrammarMachine.Production.Automaton
import GrammarMachine.Proofs.Machine.Sound
import GrammarMachine.Proofs.Stream.Check

/-!
What accepted runs write: all of the input, and a stream in order unless a shift is not followed by
a node.
-/

namespace GrammarMachine.Machine

/-- A machine that reads an `a` and a gap behind it. -/
def pairReader : Machine Automaton 1 where
  catalog _ := {
    url := "urn:pair"
    grammar := ({} : Grammar Automaton).node "Pair"
      |>.define "Pair" (.script [.eat (.literal "a"), .eat (Goal.gap.named "hole")] none) }
  language := Fin.last 0
  goal := .node "Pair"

variable {σ : Type} {n : Nat} [Stepper σ]

/-- Nothing of the input is lost. The literals of an accepted run are the text of the input, the
gaps stand at their offsets, and together they read as the template of the input. -/
theorem run_lossless {m : Machine σ n} {source : Source} {props : Option Json} {fuel : Nat}
    {halt : Halt σ n Draft} (h : m.run (Draft.fresh source) props fuel = some halt)
    {extent : Extent} (haccepted : halt.outcome = .accepted extent) :
    Stream.literalText halt.run.tape.tags.toList = source.text ∧
      Stream.gapOffsets 0 halt.run.tape.tags.toList = source.gaps ∧
      ∀ template, source = .ofTemplate template →
        Stream.template halt.run.tape.tags.toList = template := by
  obtain ⟨hchars, hgaps⟩ := (run_finished h haccepted).complete
  refine ⟨?_, ?_, ?_⟩
  · rw [Stream.literalText_eq, hchars, Source.text]
  · rw [Stream.gapOffsets_eq, hgaps]
  · intro template htemplate
    rw [htemplate, Source.ofTemplate_eq] at hchars hgaps
    have hsymbols : Stream.symbols halt.run.tape.tags.toList = Symbol.ofTemplate template.toList :=
      Symbol.eq_of_chars_of_gapOffsets hchars hgaps
    rw [Stream.template_eq, hsymbols, Symbol.template_ofTemplate, String.ofList_toList]

theorem run_lossless_pairReader :
    ∃ halt extent,
      pairReader.run (Draft.fresh (.ofTemplate "a$\x7b\x7d")) none 9 = some halt ∧
        halt.outcome = .accepted extent ∧
        Stream.literalText halt.run.tape.tags.toList = "a" ∧
        Stream.template halt.run.tape.tags.toList = "a$\x7b\x7d" := by
  obtain ⟨halt, extent, hrun, haccepted⟩ : ∃ halt extent,
      pairReader.run (Draft.fresh (.ofTemplate "a$\x7b\x7d")) none 9 = some halt ∧
        halt.outcome = .accepted extent := ⟨_, _, rfl, rfl⟩
  obtain ⟨htext, -, htemplate⟩ := run_lossless hrun haccepted
  exact ⟨halt, extent, hrun, haccepted, htext, htemplate _ rfl⟩

/-- The stream of an accepted run is in order exactly if each of its shifts is followed by the
opening of a node. Without shifts it has its doctype and its fragment, is balanced, has a value
after each reference and describes a tree. -/
theorem run_check_iff {m : Machine σ n} {source : Source} {props : Option Json} {fuel : Nat}
    {halt : Halt σ n Draft} (h : m.run (Draft.fresh source) props fuel = some halt)
    {extent : Extent} (haccepted : halt.outcome = .accepted extent) :
    let tags := halt.run.tape.tags.toList
    (Stream.check tags = .ok () ↔ Stream.ShiftsAdopted tags) ∧
      ((∀ name, .shift name ∉ tags) →
        (∃ url attributes traits rest,
          tags = .doctype url attributes :: .openFragment traits :: rest) ∧
        tags.getLast? = some .closeFragment ∧
        (∀ before after, tags = before ++ after →
          before.countP Tag.closes ≤ before.countP Tag.opens) ∧
        tags.countP Tag.closes = tags.countP Tag.opens ∧
        (∀ before slot after, tags = before ++ .reference slot :: after → slot.isArray = false →
          after.head?.any Tag.fillsSlot = true) ∧
        ∃ node, Node.ofTags tags = .ok node) := by
  intro tags
  have hfinished := run_finished h haccepted
  refine ⟨hfinished.check_iff, ?_⟩
  intro hnone
  have hadopted : Stream.ShiftsAdopted tags := by
    intro before name after htags
    exact absurd (htags ▸ by simp) (hnone name)
  obtain ⟨node, hnode⟩ := hfinished.ofTags hadopted
  obtain ⟨b, hb, hresult⟩ := Stream.ofTags_ok hnode
  have hscan : Stream.scan 0 0 tags = .ok () := Stream.scan_of_pushAll hb hresult (by simp)
  obtain ⟨hprefixes, htotal⟩ := Stream.scan_balanced hscan
  refine ⟨Builder.pushAll_begin hb hresult, Builder.pushAll_end hb rfl hresult, ?_, ?_, ?_, node,
    hnode⟩
  · simpa using hprefixes
  · simpa using htotal
  · intro before slot after htags hsingle
    have hfollow := Stream.scan_reference hscan htags
    rcases after with _ | ⟨value, after⟩
    · cases hfollow
    · cases value with
      | arrayStart => simp [Stream.mayFollow, hsingle] at hfollow
      | _ => simpa [Stream.mayFollow] using hfollow

theorem run_check_iff_pairReader :
    ∃ halt extent,
      pairReader.run (Draft.fresh (.ofTemplate "a$\x7b\x7d")) none 9 = some halt ∧
        halt.outcome = .accepted extent ∧
        (Stream.check halt.run.tape.tags.toList = .ok () ↔
          Stream.ShiftsAdopted halt.run.tape.tags.toList) ∧
        ∃ node, Node.ofTags halt.run.tape.tags.toList = .ok node := by
  obtain ⟨halt, extent, hrun, haccepted, hshifts⟩ : ∃ halt extent,
      pairReader.run (Draft.fresh (.ofTemplate "a$\x7b\x7d")) none 9 = some halt ∧
        halt.outcome = .accepted extent ∧ halt.run.tape.tags.toList.all (!Tag.isShift ·) = true :=
    ⟨_, _, rfl, rfl, rfl⟩
  obtain ⟨hiff, horder⟩ := run_check_iff hrun haccepted
  have hnone : ∀ name, .shift name ∉ halt.run.tape.tags.toList := by
    intro name hmem
    simpa [Tag.isShift] using List.all_eq_true.mp hshifts _ hmem
  obtain ⟨-, -, -, -, -, hnode⟩ := horder hnone
  exact ⟨halt, extent, hrun, haccepted, hiff, hnode⟩

end GrammarMachine.Machine
