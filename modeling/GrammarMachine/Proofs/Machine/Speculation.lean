import GrammarMachine.Proofs.Machine.Accepted
import GrammarMachine.Proofs.Machine.Attempt
import GrammarMachine.Proofs.Machine.Twins

/-!
Speculation leaves no trace. An attempt that is undone may be put into a script, or left out of it,
without any effect on how a run ends.

The run with the attempt is followed by the run without it. They keep step but for the attempt
itself, during which the second run waits. When the attempt is over, its tape is back, and it has
left nothing but starts in frames below it, which are the starts that these frames get anyway.
-/

namespace GrammarMachine

variable {σ : Type} {n : Nat}

/-- A script of a rule is about to go on with the value of the instruction before it. -/
def Run.GoesOn {T : Type} (r : Run σ n T) (place : Fin n) (nodeType : String) (script : Script)
    (value : Option Extent) : Prop :=
  r.flow = .resume value ∧ ∃ top, r.stack.top? = some top ∧ top.isFragment = false ∧
    top.language = place ∧ top.nodeType = nodeType ∧ top.production = .script script

/-- The same of a configuration. -/
def Config.GoesOn (c : Config σ n) (place : Fin n) (nodeType : String) (script : Script)
    (value : Option Extent) : Prop :=
  c.flow = .resume value ∧ ∃ top, c.frames.head? = some top ∧ top.isFragment = false ∧
    top.language = place ∧ top.nodeType = nodeType ∧ top.production = .script script

theorem Run.goesOn_of_config {r : Run σ n Draft} {place : Fin n} {nodeType : String}
    {script : Script} {value : Option Extent} (h : r.config.GoesOn place nodeType script value) :
    r.GoesOn place nodeType script value := by
  obtain ⟨hflow, top, htop, hinner, hplace, hnodeType, hscript⟩ := h
  refine ⟨hflow, ?_⟩
  simp only [Run.config, List.head?_map, Option.map_eq_some_iff] at htop
  obtain ⟨own, hown, rfl⟩ := htop
  exact ⟨own, hown, hinner, hplace, hnodeType, hscript⟩

/-- A state that a run comes to. -/
def Machine.Reaches {T : Type} [Tape T] [Stepper σ] (m : Machine σ n) (tape : T)
    (props : Option Json) (r : Run σ n T) : Prop :=
  ∃ first count, m.start tape props = .ok first ∧ m.steps count first = .ok r

/-- Productions that are the same, or scripts of one type of which the second one has the attempt
`a` left, before the script `rest`. -/
def Variant (place : Fin n) (nodeType : String) (a : Attempt) (rest : Script) (l : Fin n)
    (wanted : String) (p q : Production σ) : Prop :=
  q = p ∨ (l = place ∧ wanted = nodeType ∧ ∃ before,
    p = .script ⟨before ++ rest.body, rest.tail⟩ ∧
    q = .script ⟨before ++ .attempt a :: rest.body, rest.tail⟩)

section

variable [Stepper σ] {place l : Fin n} {nodeType wanted : String} {a : Attempt} {rest : Script}
  {p q : Production σ}

theorem Variant.cleanup_eq (h : Variant place nodeType a rest l wanted p q) :
    p.cleanup = q.cleanup := by
  rcases h with rfl | ⟨-, -, before, rfl, rfl⟩ <;> rfl

/-- Variants do the same unless the second one is about to make the attempt. -/
theorem Variant.step (h : Variant place nodeType a rest l wanted p q) (cursor : Cursor)
    (value : Option Extent) :
    (q ≠ p ∧ l = place ∧ wanted = nodeType ∧ p = .script rest ∧
      q = .script ⟨.attempt a :: rest.body, rest.tail⟩) ∨
    ∃ step p' q', p.step cursor value = (step, p') ∧ q.step cursor value = (step, q') ∧
      Variant place nodeType a rest l wanted p' q' ∧ (q = p → q' = p') := by
  by_cases heq : q = p
  · subst heq
    exact .inr ⟨_, _, _, rfl, rfl, .inl rfl, fun _ => rfl⟩
  rcases h with h | ⟨hl, hwanted, before, rfl, rfl⟩
  · exact absurd h heq
  rcases before with _ | ⟨instruction, before⟩
  · exact .inl ⟨heq, hl, hwanted, rfl, rfl⟩
  · exact .inr ⟨_, _, _, rfl, rfl, .inr ⟨hl, hwanted, before, rfl, rfl⟩, fun h => absurd h heq⟩

theorem Machine.obey_flow (m : Machine σ n) (c : Config σ n) (flow : Flow) (top : Frame σ n)
    (below : List (Frame σ n)) (instruction : Instruction) (tail : Bool) :
    m.obey { c with flow } top below instruction tail = m.obey c top below instruction tail := by
  cases instruction with
  | attempt a =>
      simp only [Machine.obey]
      rcases m.plan c.tape top a tail with outcome | emptied | ⟨tags, value⟩ | e
      · rfl
      · rfl
      · rfl
      · simp only [Machine.follow, Config.enter, Config.push]
        by_cases hreplaces : e.replaces = true
        · simp only [hreplaces, if_true]
          rcases top.finish c.tape with halt | tape <;> rfl
        · simp only [hreplaces, Bool.false_eq_true, if_false]
          by_cases hlimit : c.limit ≤ below.length + 1
          · simp only [if_pos hlimit]
          · simp only [if_neg hlimit]
            rfl
  | fail => rfl
  | write text options => rfl
  | openSpan name => rfl
  | closeSpan name => rfl
  | bind key value => rfl

theorem Machine.moves_script (m : Machine σ n) {c : Config σ n} {top : Frame σ n}
    {below : List (Frame σ n)} (hframes : c.frames = top :: below)
    (hscript : top.production = .script rest) {value : Option Extent}
    (hflow : c.flow = .resume value) (other : Option Extent) (count : Nat) :
    m.moves (count + 1) { c with flow := .resume other } = m.moves (count + 1) c := by
  have hmove : m.move { c with flow := .resume other } = m.move c := by
    simp only [Machine.move, hframes, hflow, Machine.stepTop, hscript, Production.step]
    generalize ({ top with production := .script rest.step.2 } : Frame σ n) = stepped
    rcases rest.step.1 with instruction | _ | instruction
    · exact m.obey_flow { c with frames := stepped :: below, flow := .resume value } _ _ _ _ _
    · rfl
    · exact m.obey_flow { c with frames := stepped :: below, flow := .resume value } _ _ _ _ _
  simp only [Machine.moves, hmove]

end

section

variable [Stepper σ] {m m' : Machine σ n} {place : Fin n} {nodeType : String} {a : Attempt}
  {rest : Script} {source : Source} {bases : List Draft} {c c' : Config σ n}

/-- Outside the attempt the runs keep step. -/
theorem Config.Alike.move
    (hplan : ∀ (tape : Draft) (top : Frame σ n) b tail, Plan.Alike (Variant place nodeType a rest)
      (m.plan tape top b tail) (m'.plan tape top b tail))
    (h : c.Alike (Variant place nodeType a rest) c') (hc : c.Sound source bases)
    (hc' : c'.Sound source bases) :
    (∃ value top below top' below', c.flow = .resume value ∧ c.frames = top :: below ∧
      c'.frames = top' :: below' ∧ top.isFragment = false ∧ top.language = place ∧
      top.nodeType = nodeType ∧ top.production = .script rest ∧
      top'.production = .script ⟨.attempt a :: rest.body, rest.tail⟩) ∨
    Result.Alike (Variant place nodeType a rest) (m.move c) (m'.move c') := by
  have hclean : ∀ l wanted (p q : Production σ), Variant place nodeType a rest l wanted p q →
      p.cleanup = q.cleanup := fun _ _ _ _ => Variant.cleanup_eq
  have htwins := h.frames
  unfold Machine.move
  rcases hframes : c.frames with _ | ⟨top, below⟩
  · have hlayers := hc.layers
    rw [hframes] at hlayers
    cases hlayers
  rcases hframes' : c'.frames with _ | ⟨top', below'⟩
  · have hlayers := hc'.layers
    rw [hframes'] at hlayers
    cases hlayers
  rw [hframes, hframes'] at htwins
  rcases hflow : c.flow with value | failed
  · simp only [h.flow, hflow]
    have hrelated : Variant place nodeType a rest top.language top.nodeType top.production
        top'.production ∧ (top.isFragment = true → top'.production = top.production) := by
      cases htwins with
      | cons htwin _ =>
          obtain ⟨production, start, rfl, hrelated, houter, -⟩ := htwin
          exact ⟨hrelated, houter⟩
    obtain ⟨hrelated, houter⟩ := hrelated
    rcases hrelated.step c.tape.cursor value with ⟨hne, hl, hwanted, hrest, hattempt⟩ |
      ⟨step, p, q, hp, hq, hnext, hsame⟩
    · refine .inl ⟨value, top, below, top', below', rfl, rfl, rfl, ?_, hl, hwanted, hrest,
        hattempt⟩
      rw [← Bool.not_eq_true]
      exact fun hfragment => hne (houter hfragment)
    · exact .inr (h.stepTop hclean (hplan c.tape) hc hc' hframes hframes' hflow hp hq hnext
        (fun hfragment => hsame (houter hfragment)))
  · simp only [h.flow, hflow]
    exact .inr (h.finishTop hclean hc hc' hframes hframes' hflow)

theorem Config.Sound.returns {symbols : List Symbol} (habsorbs : a.verb.policy.absorbs = true)
    (hvalued : a.verb.policy.keeps = true → a.goal.form.valued = true)
    (h : c.Sound (.ofSymbols symbols) bases) {value : Option Extent}
    (hflow : c.flow = .resume value) {top : Frame σ n} {below : List (Frame σ n)}
    (hframes : c.frames = top :: below) (hinner : top.isFragment = false)
    (hattempt : top.production = .script ⟨.attempt a :: rest.body, rest.tail⟩) {fuel : Nat}
    {tape : Draft} {outcome : Outcome} (hmoves : m.moves fuel c = .error (tape, outcome))
    (hgrammar : outcome.blamesGrammar = false)
    (hdepth : ∀ limit, outcome ≠ .rejected (.depthExceeded limit)) :
    ∃ before d value', before + 1 < fuel ∧ m.moves (before + 1) c = .ok d ∧
      d.Returned (.ofSymbols symbols) ({ top with production := .script rest } :: below) c.tape
        bases a.verb.policy value' := by
  rcases fuel with _ | fuel
  · cases hmoves
  rcases hmove : m.move c with halt | c₁
  · -- Only the outermost frame ends a run in an ordinary way.
    exfalso
    simp only [Machine.moves, hmove, Except.error.injEq] at hmoves
    subst hmoves
    rcases h.halt_of_symbols hmove with hblames | hlimit | ⟨hone, -⟩
    · simp [hgrammar] at hblames
    · exact hdepth _ hlimit
    · have hlayers := h.layers
      rw [hframes] at hlayers hone
      have hbelow : below = [] := List.eq_nil_of_length_eq_zero (by simpa using hone)
      simp [hlayers.isFragment_iff.mpr hbelow] at hinner
  · simp only [Machine.moves, hmove] at hmoves ⊢
    have hobey : m.obey { c with frames := { top with production := .script rest } :: below }
        { top with production := .script rest } below (.attempt a) false = .ok c₁ := by
      simpa only [Machine.move, hframes, hflow, Machine.stepTop, hattempt, Production.step,
        Script.step] using hmove
    have hgoal : m.goalFor ({ top with production := .script rest } : Frame σ n) a = a.goal := by
      unfold Machine.goalFor
      have hinner' : ({ top with production := .script rest } : Frame σ n).isFragment = false :=
        hinner
      simp only [hinner', Bool.false_eq_true, if_false]
      split <;> rfl
    have hwaiting := h.waiting value hflow
    rw [hframes] at hwaiting
    have hbegins := (h.withProduction hframes (.script rest)).attempt hflow rfl habsorbs
      (by rw [hgoal]; exact hvalued) hobey
    rcases hbegins with hinside | ⟨value', hreturned⟩
    · obtain ⟨before, d, value', hbefore, hmoved, hreturned⟩ :=
        hinside.returns habsorbs (by
          intro g hg
          cases hg
          exact hwaiting top rfl) hmoves hgrammar hdepth
      exact ⟨before, d, value', by omega, hmoved, hreturned⟩
    · rcases fuel with _ | fuel
      · cases hmoves
      · exact ⟨0, c₁, value', by omega, rfl, hreturned⟩

/-- During the attempt the first run waits. -/
theorem Config.Alike.skip {symbols : List Symbol} (habsorbs : a.verb.policy.absorbs = true)
    (hvalued : a.verb.policy.keeps = true → a.goal.form.valued = true)
    (h : c.Alike (Variant place nodeType a rest) c')
    (hc' : c'.Sound (.ofSymbols symbols) bases) {value : Option Extent}
    (hflow : c.flow = .resume value) {top top' : Frame σ n} {below below' : List (Frame σ n)}
    (hframes : c.frames = top :: below) (hframes' : c'.frames = top' :: below')
    (hinner : top.isFragment = false) (hplace : top.language = place)
    (hnodeType : top.nodeType = nodeType) (hrest : top.production = .script rest)
    (hattempt : top'.production = .script ⟨.attempt a :: rest.body, rest.tail⟩) {fuel : Nat}
    {tape : Draft} {outcome : Outcome} (hmoves : m'.moves fuel c' = .error (tape, outcome))
    (hgrammar : outcome.blamesGrammar = false)
    (hdepth : ∀ limit, outcome ≠ .rejected (.depthExceeded limit))
    (hundone : ∀ count d value, m'.moves (count + 1) c' = .ok d →
      d.GoesOn place nodeType rest value → a.verb.policy.keeps = false ∨ value = none) :
    ∃ before d, before + 1 < fuel ∧ m'.moves (before + 1) c' = .ok d ∧
      c.Alike (Variant place nodeType a rest) { d with flow := c.flow } ∧
      ({ d with flow := c.flow } : Config σ n).Sound (.ofSymbols symbols) bases ∧
      ∀ count, m'.moves (count + 1) { d with flow := c.flow } = m'.moves (count + 1) d := by
  have htwins := h.frames
  rw [hframes, hframes'] at htwins
  cases htwins with
  | cons htwin htwins =>
      obtain ⟨production, start, rfl, -, -, hstart⟩ := htwin
      obtain ⟨before, d, value', hbefore, hmoved, hreturned⟩ := hc'.returns habsorbs hvalued
        (h.flow.trans hflow) hframes' hinner hattempt hmoves hgrammar hdepth
      -- The attempt may have left starts in the frames below it.
      have htwins' : Twins (Variant place nodeType a rest) c.frames d.frames := by
        have hpaired : Twins (Variant place nodeType a rest) (top :: below)
            ({ top with
              production := .script rest, capture := { top.capture with start } } :: below') :=
          .cons ⟨_, start, rfl, .inl hrest.symm, fun _ => hrest.symm, hstart⟩ htwins
        rw [hframes]
        rcases hreturned.recorded with hsame | hrecorded
        · exact hsame ▸ hpaired
        · exact hrecorded ▸ hpaired.recordSecond (Tape.mark c'.tape)
      obtain ⟨start', below'', hframes''⟩ := hreturned.recorded.head
      have hgoesOn : d.GoesOn place nodeType rest value' :=
        ⟨hreturned.flow, _, congrArg List.head? hframes'', hinner, hplace, hnodeType, rfl⟩
      have htape : d.tape = c'.tape := hreturned.tape (hundone before d value' hmoved hgoesOn)
      refine ⟨before, d, hbefore, hmoved, ⟨htwins', ?_, htape.trans h.tape, rfl, ?_⟩, ?_, ?_⟩
      · exact (Machine.moves_limit hmoved).trans h.limit
      · intro hcomplete
        rw [hflow] at hcomplete
        cases hcomplete
      · exact hreturned.sound.silent hreturned.flow (.refl d.tape) c.flow d.emptied
      · intro count
        rw [hflow]
        exact m'.moves_script hframes'' rfl hreturned.flow value count

/-- Configurations that keep step come to the same end. The induction is on the moves of the second
run, which are at least those of the first one. -/
theorem Config.Alike.moves_eq {symbols : List Symbol}
    (hplan : ∀ (tape : Draft) (top : Frame σ n) b tail, Plan.Alike (Variant place nodeType a rest)
      (m.plan tape top b tail) (m'.plan tape top b tail))
    (habsorbs : a.verb.policy.absorbs = true)
    (hvalued : a.verb.policy.keeps = true → a.goal.form.valued = true)
    (h : c.Alike (Variant place nodeType a rest) c') (hc : c.Sound (.ofSymbols symbols) bases)
    (hc' : c'.Sound (.ofSymbols symbols) bases) {fuel fuel' : Nat} {halt halt' : Draft × Outcome}
    (hmoves : m.moves fuel c = .error halt) (hmoves' : m'.moves fuel' c' = .error halt')
    (hgrammar : halt'.2.blamesGrammar = false)
    (hdepth : ∀ limit, halt'.2 ≠ .rejected (.depthExceeded limit))
    (hundone : ∀ count d value, m'.moves (count + 1) c' = .ok d →
      d.GoesOn place nodeType rest value → a.verb.policy.keeps = false ∨ value = none) :
    halt' = halt := by
  induction fuel' using Nat.strongRecOn generalizing fuel c c' bases with
  | ind fuel' ih =>
      rcases h.move hplan hc hc' with ⟨value, top, below, top', below', hflow, hframes, hframes',
        hinner, hplace, hnodeType, hrest, hattempt⟩ | hstep
      · -- The second run makes the attempt, which comes back while the first run waits.
        obtain ⟨before, d, hbefore, hmoved, halike, hsound, hscript⟩ :=
          h.skip habsorbs hvalued hc' hflow hframes hframes' hinner hplace hnodeType hrest hattempt
            hmoves' hgrammar hdepth hundone
        obtain ⟨left, rfl⟩ : ∃ left, fuel' = before + 1 + (left + 1) :=
          ⟨fuel' - before - 2, by omega⟩
        have hafter : ∀ count, m'.moves (before + 1 + count) c' = m'.moves count d := by
          intro count
          rw [Machine.moves_add, hmoved]
        refine ih (left + 1) (by omega) halike hc hsound hmoves ?_ ?_
        · rw [hscript, ← hafter]
          exact hmoves'
        · intro count d' value' hmoved' hgoesOn
          rw [hscript, ← hafter] at hmoved'
          exact hundone (before + 1 + count) d' value' hmoved' hgoesOn
      · rcases fuel with _ | fuel
        · cases hmoves
        rcases fuel' with _ | fuel'
        · cases hmoves'
        rcases hmove : m.move c with ended | d <;> rcases hmove' : m'.move c' with ended' | d'
        all_goals
          rw [hmove, hmove'] at hstep
          simp only [Machine.moves, hmove, hmove'] at hmoves hmoves'
        · cases hstep
          cases hmoves
          cases hmoves'
          rfl
        · cases hstep
        · cases hstep
        · cases hstep with
          | ok halike =>
              obtain ⟨bases', hd, hd'⟩ :=
                hc.common hc' h.tape hmove hmove' halike.frames.length_eq
              refine ih fuel' (by omega) halike hd hd' hmoves hmoves' ?_
              intro count e value' hmoved hgoesOn
              refine hundone (count + 1) e value' ?_ hgoesOn
              rw [← hmoved, Machine.moves, hmove']

end

namespace Machine

variable [Stepper σ]

theorem moves_of_run {m : Machine σ n} {source : Source} {props : Option Json} {fuel : Nat}
    {halt : Halt σ n Draft} (hrun : m.run (Draft.fresh source) props fuel = some halt)
    (hgrammar : halt.outcome.blamesGrammar = false)
    (hdepth : ∀ limit, halt.outcome ≠ .rejected (.depthExceeded limit)) :
    m.moves fuel (m.initial source props) = .error (halt.run.tape, halt.outcome) := by
  rcases run_eq_some hrun with ⟨slot, -, hnamed⟩ | hzero | ⟨-, -, hmoves⟩
  · rw [hnamed] at hgrammar
    cases hgrammar
  · exact absurd hzero (hdepth 0)
  · exact hmoves

theorem begins_of_run {m : Machine σ n} {source : Source} {props : Option Json} {fuel : Nat}
    {halt : Halt σ n Draft} (hrun : m.run (Draft.fresh source) props fuel = some halt)
    (hgrammar : halt.outcome.blamesGrammar = false)
    (hdepth : ∀ limit, halt.outcome ≠ .rejected (.depthExceeded limit)) :
    m.goal.slot = none ∧ m.options.maxDepth ≠ 0 := by
  rcases run_eq_some hrun with ⟨slot, -, hnamed⟩ | hzero | ⟨hslot, hlimit, -⟩
  · rw [hnamed] at hgrammar
    cases hgrammar
  · exact absurd hzero (hdepth 0)
  · exact ⟨hslot, hlimit⟩

theorem reaches_of_moves {m : Machine σ n} {source : Source} {props : Option Json} {count : Nat}
    {d : Config σ n} (hslot : m.goal.slot = none) (hdepth : m.options.maxDepth ≠ 0)
    (hmoves : m.moves count (m.initial source props) = .ok d) :
    ∃ r, m.Reaches (Draft.fresh source) props r ∧ r.config = d := by
  have hstart := m.start_eq source props
  simp only [hslot, if_neg hdepth] at hstart
  obtain ⟨first, hstart, hconfig⟩ := hstart
  rw [← hconfig, ← config_steps] at hmoves
  rcases hsteps : m.steps count first with halt | r
  · simp [hsteps, Result.of] at hmoves
  · rw [hsteps] at hmoves
    exact ⟨r, ⟨first, count, hstart, hsteps⟩, Except.ok.inj hmoves⟩

/-- Speculation leaves no trace. If a script asks in addition whether something matches, or tries to
match a text, a gap or a node where each try fails, then a run ends as it did before, with the same
outcome and the same tape: the same tags, writes, spans and bound attributes. -/
theorem run_speculation {m : Machine σ n} {place : Fin n} {nodeType : String}
    {before after : List Instruction} {tail : Option Instruction} {a : Attempt}
    (hrule : (m.catalog place).grammar.rule? nodeType = some (.script (before ++ after) tail))
    (hverb : a.verb = .peek ∨ a.verb = .eatMatch ∧ a.goal.form.valued = true)
    {segments : List (Option String)} {props : Option Json} {fuel fuel' : Nat}
    {halt halt' : Halt σ n Draft}
    (hrun : m.run (Draft.fresh (.ofSegments segments)) props fuel = some halt)
    (hrun' : (m.redefine place nodeType (.script (before ++ .attempt a :: after) tail)).run
      (Draft.fresh (.ofSegments segments)) props fuel' = some halt')
    (hgrammar : halt.outcome.blamesGrammar = false)
    (hgrammar' : halt'.outcome.blamesGrammar = false)
    (hdepth : ∀ limit, halt.outcome ≠ .rejected (.depthExceeded limit))
    (hdepth' : ∀ limit, halt'.outcome ≠ .rejected (.depthExceeded limit))
    (hmissed : a.verb = .eatMatch → ∀ r value,
      (m.redefine place nodeType (.script (before ++ .attempt a :: after) tail)).Reaches
        (Draft.fresh (.ofSegments segments)) props r →
      r.GoesOn place nodeType ⟨after, tail⟩ value → value = none) :
    halt'.outcome = halt.outcome ∧ halt'.outcome.ordinary = true ∧
      halt'.run.tape = halt.run.tape := by
  have habsorbs : a.verb.policy.absorbs = true := by
    rcases hverb with hverb | ⟨hverb, -⟩ <;> rw [hverb] <;> rfl
  have hvalued : a.verb.policy.keeps = true → a.goal.form.valued = true := by
    intro hkeeps
    rcases hverb with hverb | ⟨-, hvalued⟩
    · rw [hverb] at hkeeps
      cases hkeeps
    · exact hvalued
  have hplan := fun (tape : Draft) => @plan_alike σ n Draft _ m place nodeType
    (.script (before ++ after) tail) (.script (before ++ .attempt a :: after) tail)
    (Variant place nodeType a ⟨after, tail⟩) (fun _ _ _ => .inl rfl) hrule
    (fun _ => .inr ⟨rfl, rfl, before, rfl, rfl⟩) tape
  have hbegun := begins_of_run hrun' hgrammar' hdepth'
  have hreaches := fun count d => @reaches_of_moves σ n _ _ (.ofSegments segments) props count d
    hbegun.1 hbegun.2
  -- All that is needed of the second machine is that it plans alike and begins alike.
  generalize hm' : m.redefine place nodeType (.script (before ++ .attempt a :: after) tail) = m'
    at hrun' hmissed hplan hreaches
  rw [Source.ofSegments_eq] at hrun hrun' hmissed hreaches
  generalize segments.flatMap Source.segmentSymbols = symbols at hrun hrun' hmissed hreaches
  have hinitial : m'.initial (.ofSymbols symbols) props = m.initial (.ofSymbols symbols) props := by
    rw [← hm']
    simp only [initial, redefine_catalog]
    rfl
  have hsound := m.initial_sound (.ofSymbols symbols) props
  have halike : (m.initial (.ofSymbols symbols) props).Alike
      (Variant place nodeType a ⟨after, tail⟩) (m.initial (.ofSymbols symbols) props) :=
    ⟨Twins.refl (fun _ _ _ => .inl rfl) _, rfl, rfl, rfl, fun _ => rfl⟩
  have hmoves' := moves_of_run hrun' hgrammar' hdepth'
  rw [hinitial] at hmoves'
  have hsame := halike.moves_eq hplan habsorbs hvalued hsound hsound
    (moves_of_run hrun hgrammar hdepth) hmoves' hgrammar' hdepth' (by
      intro count d value hmoved hgoesOn
      rcases hverb with hverb | ⟨hverb, -⟩
      · exact .inl (by rw [hverb]; rfl)
      · rw [← hinitial] at hmoved
        obtain ⟨r, hr, rfl⟩ := hreaches _ d hmoved
        exact .inr (hmissed hverb r value hr (Run.goesOn_of_config hgoesOn)))
  obtain ⟨htape, houtcome⟩ := Prod.mk.inj hsame
  refine ⟨houtcome, ?_, htape⟩
  -- An end that neither blames the grammar nor the depth limit is an ordinary one.
  rcases run_sound hrun' with hblames | hzero | ⟨c, bases, hc, hmove⟩
  · simp [hgrammar'] at hblames
  · exact absurd hzero (hdepth' 0)
  · rcases hc.halt_of_symbols hmove with hblames | hlimit | ⟨-, hordinary⟩
    · simp [hgrammar'] at hblames
    · exact absurd hlimit (hdepth' _)
    · exact hordinary

/-- The pair reader, which tries in vain to read a `b` before the gap. -/
def hastyReader : Machine Automaton 1 :=
  pairReader.redefine (Fin.last 0) "Pair" (.script ([.eat (.literal "a")] ++
    .attempt { verb := .eatMatch, goal := .literal "b" } :: [.eat (Goal.gap.named "hole")]) none)

theorem hastyReader_misses {r : Run Automaton 1 Draft} {value : Option Extent}
    (hr : hastyReader.Reaches (Draft.fresh (.ofSegments [some "a", none])) none r)
    (h : r.GoesOn 0 "Pair" ⟨[.eat (Goal.gap.named "hole")], none⟩ value) : value = none := by
  obtain ⟨first, count, hstart, hsteps⟩ := hr
  obtain rfl := Except.ok.inj hstart
  obtain ⟨hflow, top, htop, -, -, -, hscript⟩ := h
  -- The run has eight states. In all but one of them another script goes on, or none.
  rcases count with _ | _ | _ | _ | _ | _ | _ | _ | count
  case succ.succ.succ.succ.succ.succ.succ.succ => cases hsteps
  all_goals obtain rfl := Except.ok.inj hsteps
  all_goals first
    | cases hflow; rfl
    | cases hflow; cases htop; cases hscript
    | cases hflow

theorem run_speculation_hastyReader :
    ∃ halt halt' extent,
      pairReader.run (Draft.fresh (.ofSegments [some "a", none])) none 9 = some halt ∧
        hastyReader.run (Draft.fresh (.ofSegments [some "a", none])) none 9 = some halt' ∧
        halt.outcome = .accepted extent ∧ halt'.outcome = .accepted extent ∧
        halt'.run.tape = halt.run.tape := by
  obtain ⟨halt, extent, hrun, haccepted⟩ : ∃ halt extent,
      pairReader.run (Draft.fresh (.ofSegments [some "a", none])) none 9 = some halt ∧
        halt.outcome = .accepted extent := ⟨_, _, rfl, rfl⟩
  obtain ⟨halt', extent', hrun', haccepted'⟩ : ∃ halt' extent',
      hastyReader.run (Draft.fresh (.ofSegments [some "a", none])) none 9 = some halt' ∧
        halt'.outcome = .accepted extent' := ⟨_, _, rfl, rfl⟩
  have hrule : (pairReader.catalog 0).grammar.rule? "Pair" = some (.script
      ([.eat (.literal "a")] ++ [.eat (Goal.gap.named "hole")]) none) := rfl
  obtain ⟨houtcome, -, htape⟩ := run_speculation hrule (.inr ⟨rfl, rfl⟩) hrun hrun'
    (by rw [haccepted]; rfl) (by rw [haccepted']; rfl) (by simp [haccepted])
    (by simp [haccepted']) (fun _ _ _ => hastyReader_misses)
  exact ⟨halt, halt', extent, hrun, hrun', haccepted, houtcome.trans haccepted, htape⟩

end Machine

end GrammarMachine
