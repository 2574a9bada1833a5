import GrammarMachine.Proofs.Machine.Holds

/-!
Permitting gaps. The permission is of no account where there are no gaps: with and without it a
machine ends after the same steps and in the same way, but for the mark of the permission in what it
writes. Where there are gaps, nothing is accepted without it.
-/

namespace GrammarMachine

variable {σ : Type} {n : Nat}

/-- The tag without any permission of gaps. -/
def Tag.ungapped : Tag → Tag
  | .openFragment traits => .openFragment { traits with gappy := false }
  | .openNode traits url nodeType attributes =>
      .openNode { traits with gappy := false } url nodeType attributes
  | .reference slot => .reference slot.strict
  | tag => tag

theorem Tag.ungapped_strict (tag : Tag) : tag.strict.ungapped = tag.ungapped := by
  cases tag <;> rfl

theorem ParseError.message_strict (error : ParseError) : error.strict.message = error.message := by
  cases error <;> rfl

theorem Draft.strict_of_tags {d : Draft} (h : d.tags = #[]) : d.strict = d := by
  rcases d with ⟨source, language, position, tags, opened, writes, spans, bindings, branches⟩
  cases h
  simp [strict]

/-- Ends that differ at most in the permission of gaps. An error that names slots says their names
and whether they are arrays, so that it reads the same. -/
structure Halt.AgreesUngapped (halt halt' : Halt σ n Draft) : Prop where
  outcome : halt'.outcome.strict = halt.outcome.strict
  message : ∀ error error', halt.outcome = .rejected error → halt'.outcome = .rejected error' →
    error'.message = error.message
  tags : halt'.run.tape.tags.toList.map Tag.ungapped = halt.run.tape.tags.toList.map Tag.ungapped
  writes : halt'.run.tape.writes = halt.run.tape.writes
  spans : halt'.run.tape.spans = halt.run.tape.spans
  bound : halt'.run.tape.boundAttributes = halt.run.tape.boundAttributes

theorem Halt.AgreesUngapped.of_strict {halt halt' : Halt σ n Draft}
    (houtcome : halt'.outcome = halt.outcome.strict)
    (htape : halt'.run.tape = halt.run.tape.strict) : halt.AgreesUngapped halt' where
  outcome := by
    rw [houtcome]
    rcases halt.outcome with extent | error | fault
    · rfl
    · cases error <;> rfl
    · rfl
  message := by
    intro error error' herror herror'
    rw [houtcome, herror] at herror'
    cases herror'
    exact error.message_strict
  tags := by
    rw [htape]
    simp only [Draft.strict, Array.toList_map, List.map_map]
    apply List.map_congr_left
    intro tag _
    exact tag.ungapped_strict
  writes := by rw [htape]; rfl
  spans := by rw [htape]; rfl
  bound := by rw [htape]; rfl

namespace Machine

def allowing (m : Machine σ n) (gaps : Bool) : Machine σ n :=
  { m with options := { m.options with allowGaps := gaps } }

theorem start_strict_error {m : Machine σ n} {source : Source} {props : Option Json}
    {halt : Halt σ n Draft} (h : m.start (Draft.fresh source) props = .error halt) :
    m.strict.start (Draft.fresh source) props = .error halt ∧
      halt.outcome = halt.outcome.strict ∧ halt.run.tape.strict = halt.run.tape := by
  have hgoal : m.strict.goal = m.goal := rfl
  unfold start at h ⊢
  rw [hgoal]
  rcases hslot : m.goal.slot with _ | slot
  · simp only [hslot] at h ⊢
    by_cases hdepth : m.options.maxDepth ≤ 0
    · have hpush : ∀ frame : Frame σ n, (⟨[], m.options.maxDepth⟩ : Stack σ n).push frame =
          .error (.depthExceeded m.options.maxDepth) := fun _ => if_pos hdepth
      simp only [Run.perform, hpush] at h
      cases h
      refine ⟨?_, rfl, Draft.strict_of_tags rfl⟩
      have hlimit : m.strict.options.maxDepth = m.options.maxDepth := rfl
      simp only [Run.perform, hlimit, hpush]
      rfl
    · have hpush : ∀ frame : Frame σ n, ∃ stack,
          (⟨[], m.options.maxDepth⟩ : Stack σ n).push frame = .ok stack :=
        fun _ => ⟨_, if_neg hdepth⟩
      obtain ⟨stack, hstack⟩ := hpush (m.fragmentFrame props)
      simp [Run.perform, hstack] at h
  · simp only [hslot] at h ⊢
    cases h
    exact ⟨rfl, rfl, Draft.strict_of_tags rfl⟩

theorem start_strict_ok {m : Machine σ n} {source : Source} {props : Option Json}
    {r : Run σ n Draft} (h : m.start (Draft.fresh source) props = .ok r) :
    ∃ r', m.strict.start (Draft.fresh source) props = .ok r' ∧
      r.config = m.initial source props ∧ r'.config = (m.initial source props).strict := by
  have hstart := m.start_eq source props
  have hstart' := m.strict.start_eq source props
  have hgoal : m.strict.goal = m.goal := rfl
  have hlimit : m.strict.options.maxDepth = m.options.maxDepth := rfl
  rw [hgoal, hlimit] at hstart'
  rcases hslot : m.goal.slot with _ | slot
  · simp only [hslot] at hstart hstart'
    by_cases hdepth : m.options.maxDepth = 0
    · rw [if_pos hdepth] at hstart
      obtain ⟨halt, hhalt⟩ := hstart
      rw [hhalt] at h
      cases h
    · rw [if_neg hdepth] at hstart hstart'
      obtain ⟨first, hfirst, hconfig⟩ := hstart
      obtain ⟨r', hr', hconfig'⟩ := hstart'
      rw [hfirst] at h
      cases h
      exact ⟨r', hr', hconfig, hconfig'.trans (m.initial_strict source props)⟩
  · simp only [hslot] at hstart
    obtain ⟨halt, hhalt⟩ := hstart
    rw [hhalt] at h
    cases h

variable [Stepper σ]

/-- Over an input without gaps the machine that allows none ends when the machine does, in a way
that agrees with it. -/
theorem run_strict (m : Machine σ n) {source : Source} (hgaps : source.gaps = [])
    (props : Option Json) (fuel : Nat) :
    Option.Rel Halt.AgreesUngapped (m.run (Draft.fresh source) props fuel)
      (m.strict.run (Draft.fresh source) props fuel) := by
  unfold run
  rcases hstart : m.start (Draft.fresh source) props with halt | r
  · obtain ⟨hstart', houtcome, htape⟩ := start_strict_error hstart
    rw [hstart']
    exact .some (.of_strict houtcome htape.symm)
  · obtain ⟨r', hstart', hconfig, hconfig'⟩ := start_strict_ok hstart
    rw [hstart']
    have hmoves : Result.of (m.strict.steps fuel r') = (Result.of (m.steps fuel r)).strict := by
      rw [config_steps, config_steps, hconfig, hconfig']
      exact m.moves_strict hgaps (m.initial_sound source props) fuel
    dsimp only
    rcases hsteps : m.steps fuel r with halt | last
    · rcases hsteps' : m.strict.steps fuel r' with halt' | last'
      · rw [hsteps, hsteps'] at hmoves
        obtain ⟨htape, houtcome⟩ := Prod.mk.inj (Except.error.inj hmoves)
        exact .some (.of_strict houtcome htape)
      · rw [hsteps, hsteps'] at hmoves
        cases hmoves
    · rcases hsteps' : m.strict.steps fuel r' with halt' | last'
      · rw [hsteps, hsteps'] at hmoves
        cases hmoves
      · exact .none

/-- Whether gaps are allowed matters only where there are gaps. Without gaps the machine ends, with
and without the permission, after the same number of steps or not at all, with the same outcome, the
same texts and bound attributes and the same tags but for the permission. With a gap in its input
the machine without the permission accepts nothing. -/
theorem run_allowing (m : Machine σ n) (source : Source) (props : Option Json) (fuel : Nat) :
    (source.gaps = [] →
      Option.Rel Halt.AgreesUngapped ((m.allowing true).run (Draft.fresh source) props fuel)
        ((m.allowing false).run (Draft.fresh source) props fuel)) ∧
      (source.gaps ≠ [] →
        ∀ halt, (m.allowing false).run (Draft.fresh source) props fuel = some halt →
          ∀ extent, halt.outcome ≠ .accepted extent) := by
  constructor
  · intro hgaps
    exact (m.allowing true).run_strict hgaps props fuel
  · intro hgaps halt hrun extent haccepted
    exact hgaps (gaps_eq_nil rfl hrun haccepted)

/-- A text without gaps is accepted either way. A text with a gap is not, though the gap is asked
for. -/
theorem run_allowing_readers :
    (∃ halt halt' extent,
      ((heldReader (.node "Pair")).allowing true).run (Draft.fresh (.ofTemplate "ab")) none 9 =
          some halt ∧
        ((heldReader (.node "Pair")).allowing false).run (Draft.fresh (.ofTemplate "ab")) none 9 =
          some halt' ∧
        halt.outcome = .accepted extent ∧ halt.AgreesUngapped halt') ∧
      ∃ halt,
        (pairReader.allowing false).run (Draft.fresh (.ofTemplate "a$\x7b\x7d")) none 9 =
          some halt ∧ ∀ extent, halt.outcome ≠ .accepted extent := by
  constructor
  · obtain ⟨halt, extent, hrun, haccepted⟩ : ∃ halt extent,
        ((heldReader (.node "Pair")).allowing true).run (Draft.fresh (.ofTemplate "ab")) none 9 =
          some halt ∧ halt.outcome = .accepted extent := ⟨_, _, rfl, rfl⟩
    obtain ⟨halt', hrun'⟩ : ∃ halt',
        ((heldReader (.node "Pair")).allowing false).run (Draft.fresh (.ofTemplate "ab")) none 9 =
          some halt' := ⟨_, rfl⟩
    have hagrees := (run_allowing (heldReader (.node "Pair")) (.ofTemplate "ab") none 9).1 rfl
    rw [hrun, hrun'] at hagrees
    cases hagrees with
    | some hagrees => exact ⟨halt, halt', extent, hrun, hrun', haccepted, hagrees⟩
  · obtain ⟨halt, hrun⟩ : ∃ halt,
        (pairReader.allowing false).run (Draft.fresh (.ofTemplate "a$\x7b\x7d")) none 9 =
          some halt := ⟨_, rfl⟩
    have hgap : (Source.ofTemplate "a$\x7b\x7d").gaps ≠ [] := by decide
    exact ⟨halt, hrun, (run_allowing pairReader _ none 9).2 hgap halt hrun⟩

end Machine

end GrammarMachine
