import GrammarMachine.Proofs.Machine.Redefine
import GrammarMachine.Proofs.Machine.Sound

/-!
Runs that keep step. Two configurations over one tape whose frames differ only in related
productions, and in starts that one of them has recorded at the end of the tape, make moves of the
same kind and stay so.
-/

namespace GrammarMachine

variable {σ : Type} {n : Nat}

/-- Frames that differ at most in related productions and in a start that only the second one has.
The outermost frames have the same production. -/
def Frame.Twin (related : Fin n → String → Production σ → Production σ → Prop)
    (f g : Frame σ n) : Prop :=
  ∃ production start, g = { f with production, capture := { f.capture with start } } ∧
    related f.language f.nodeType f.production production ∧
    (f.isFragment = true → production = f.production) ∧
    (f.capture.start = none ∨ start = f.capture.start)

/-- Frames that are twins one by one. -/
inductive Twins (related : Fin n → String → Production σ → Production σ → Prop) :
    List (Frame σ n) → List (Frame σ n) → Prop where
  | nil : Twins related [] []
  | cons {f g : Frame σ n} {fs gs : List (Frame σ n)} : f.Twin related g → Twins related fs gs →
      Twins related (f :: fs) (g :: gs)

/-- Configurations over one tape with twin frames. The type that matched nothing counts only while a
failure is handed down. -/
structure Config.Alike (related : Fin n → String → Production σ → Production σ → Prop)
    (c c' : Config σ n) : Prop where
  frames : Twins related c.frames c'.frames
  limit : c'.limit = c.limit
  tape : c'.tape = c.tape
  flow : c'.flow = c.flow
  emptied : c.flow = .complete true → c'.emptied = c.emptied

/-- Results of moves that keep step. -/
inductive Result.Alike (related : Fin n → String → Production σ → Production σ → Prop) :
    Result σ n → Result σ n → Prop where
  | ok {c c' : Config σ n} : c.Alike related c' → Result.Alike related (.ok c) (.ok c')
  | error (halt : Draft × Outcome) : Result.Alike related (.error halt) (.error halt)

variable {related : Fin n → String → Production σ → Production σ → Prop} {source : Source}
  {f g : Frame σ n} {fs gs : List (Frame σ n)} {bases : List Draft} {d : Draft}

theorem Twins.length_eq (h : Twins related fs gs) : gs.length = fs.length := by
  induction h with
  | nil => rfl
  | cons _ _ ih => simp [ih]

theorem Twins.refl (hrefl : ∀ l nodeType p, related l nodeType p p) (fs : List (Frame σ n)) :
    Twins related fs fs := by
  induction fs with
  | nil => exact .nil
  | cons f fs ih =>
      exact .cons ⟨f.production, f.capture.start, rfl, hrefl _ _ _, fun _ => rfl, .inr rfl⟩ ih

theorem Twins.recordSecond (h : Twins related fs gs) (mark : Mark) :
    Twins related fs (Stack.recordStart mark gs) := by
  induction h with
  | nil => exact .nil
  | @cons f g fs gs htwin htwins ih =>
      rcases hstart : g.capture.start with _ | start
      · rw [Stack.recordStart_unstarted _ _ hstart]
        refine .cons ?_ ih
        obtain ⟨production, start, rfl, hrelated, houter, hnone⟩ := htwin
        refine ⟨production, some mark, rfl, hrelated, houter, .inl ?_⟩
        rcases hnone with hnone | hsame
        · exact hnone
        · rw [← hsame]
          exact hstart
      · rw [Stack.recordStart_started _ _ (by simp [hstart])]
        exact .cons htwin htwins

/-- A start that only one of two twins has is the end of the tape. -/
theorem Frame.Twin.start_eq (h : f.Twin related g) (hf : Layers source (f :: fs) bases d)
    (hg : Layers source (g :: gs) bases d) :
    g.capture.start = f.capture.start ∨
      (f.capture.start = none ∧ f.isFragment = false ∧
        g.capture.start = some (Tape.mark d)) := by
  obtain ⟨production, start, rfl, -, -, hstart⟩ := h
  rcases hstart with hnone | hsame
  · cases hf with
    | fragment _ _ _ _ hsome => simp [hnone] at hsome
    | cons hbelow hover hdepth _ _ _ hfaithful =>
        have hmark := Layers.mark_eq_of_unstarted hover hnone hbelow.faithful hfaithful
        rcases start with _ | start
        · exact .inl hnone.symm
        · refine .inr ⟨hnone, by simp [Frame.isFragment, hdepth], ?_⟩
          cases hg with
          | cons _ hover' =>
              rw [hover'.started start rfl, hmark]
  · exact .inl hsame

/-- Recording starts makes twins more alike. -/
theorem Twins.record (h : Twins related fs gs) (hf : Layers source fs bases d)
    (hg : Layers source gs bases d) :
    Twins related (Stack.recordStart (Tape.mark d) fs) (Stack.recordStart (Tape.mark d) gs) := by
  induction h generalizing bases d with
  | nil => exact .nil
  | @cons f g fs gs htwin htwins ih =>
      have hstart := htwin.start_eq hf hg
      rcases hf' : f.capture.start with _ | start
      · cases hf with
        | fragment _ _ _ _ hsome => simp [hf'] at hsome
        | cons hbelow hover _ _ _ _ hfaithful =>
            have hmark := Layers.mark_eq_of_unstarted hover hf' hbelow.faithful hfaithful
            cases hg with
            | cons hbelow' hover' _ _ hmono' _ _ =>
                have hrest := ih hbelow hbelow'
                rw [← hmark] at hrest
                rw [Stack.recordStart_unstarted _ _ hf']
                rcases hg' : g.capture.start with _ | start'
                · rw [Stack.recordStart_unstarted _ _ hg']
                  refine .cons ?_ hrest
                  obtain ⟨production, start, rfl, hrelated, houter, -⟩ := htwin
                  exact ⟨production, some (Tape.mark d), rfl, hrelated, houter, .inr rfl⟩
                · -- The second frame is started, and with it all frames below it.
                  have hsome : g.capture.start.isSome = true := by simp [hg']
                  rw [Stack.recordStart_started _ _ (hmono' hsome)] at hrest
                  rw [Stack.recordStart_started _ _ hsome]
                  refine .cons ?_ hrest
                  have hend : g.capture.start = some (Tape.mark d) := by
                    rcases hstart with hsame | ⟨-, -, hend⟩
                    · simp [hf', hg'] at hsame
                    · exact hend
                  obtain ⟨production, start, rfl, hrelated, houter, -⟩ := htwin
                  exact ⟨production, start, rfl, hrelated, houter, .inr hend⟩
      · have hsame : g.capture.start = f.capture.start := by
          rcases hstart with hsame | ⟨hnone, -⟩
          · exact hsame
          · simp [hf'] at hnone
        rw [Stack.recordStart_started _ _ (by simp [hf']),
          Stack.recordStart_started _ _ (by simp [hsame, hf'])]
        exact .cons htwin htwins

theorem Twins.captured (h : Twins related fs gs) (hf : Layers source fs bases d)
    (hg : Layers source gs bases d) (tags : List Tag) :
    Twins related (captured (Tape.mark d) tags fs) (captured (Tape.mark d) tags gs) := by
  unfold GrammarMachine.captured
  split
  · exact h
  · exact h.record hf hg

theorem Frame.Twin.fails_eq (h : f.Twin related g) (hf : Layers source (f :: fs) bases d)
    (hg : Layers source (g :: gs) bases d) (failed : Bool) :
    g.fails failed d.position = f.fails failed d.position := by
  have hempty : g.capture.isEmptyAt d.position = f.capture.isEmptyAt d.position := by
    unfold Capture.isEmptyAt
    rcases h.start_eq hf hg with hsame | ⟨hnone, -, hend⟩
    · rw [hsame]
    · rw [hnone, hend]
      exact decide_eq_true rfl
  obtain ⟨production, start, rfl, -, -⟩ := h
  simp only [Frame.fails, hempty]

theorem Frame.Twin.valueAt_eq (h : f.Twin related g) (hf : Layers source (f :: fs) bases d)
    (hg : Layers source (g :: gs) bases d)
    (hopened : f.isNode = true → f.capture.start.isSome = true) (failing : Bool) :
    g.valueAt failing (d.advanceAll (f.closing failing)) =
      f.valueAt failing (d.advanceAll (f.closing failing)) := by
  rcases failing with _ | _
  · have hstart : g.capture.start.getD (Tape.mark (d.advanceAll (f.closing false))) =
        f.capture.start.getD (Tape.mark (d.advanceAll (f.closing false))) := by
      rcases h.start_eq hf hg with hsame | ⟨hnone, hfragment, hend⟩
      · rw [hsame]
      · -- A frame without a start is no node, so it has nothing to close.
        have hnode : f.isNode = false := by
          rw [← Bool.not_eq_true]
          intro hnode
          simpa [hnone] using hopened hnode
        have hclosing : f.closing false = [] := by simp [Frame.closing, hnode, hfragment]
        rw [hnone, hend, hclosing]
        rfl
    obtain ⟨production, start, rfl, -, -⟩ := h
    simp only [Frame.valueAt, hstart]
  · rfl

variable {c c' : Config σ n} {top top' : Frame σ n} {rest rest' : List (Frame σ n)}

theorem Twins.resumeBelow (h : Twins related rest rest') (hlimit : c'.limit = c.limit)
    (hpolicy : top'.policy = top.policy) {failing : Bool} {e e' : Option String}
    (hemptied : failing = true → e' = e) (tape : Draft) (value : Option Extent) :
    Result.Alike related
      (Config.resumeBelow { c with frames := rest, tape, emptied := e } top value failing)
      (Config.resumeBelow { c' with frames := rest', tape, emptied := e' } top' value failing) := by
  unfold Config.resumeBelow
  rw [hpolicy]
  split
  · rename_i hcascade
    refine .ok ⟨h, hlimit, rfl, rfl, ?_⟩
    intro _
    exact hemptied (by simp_all)
  · cases h with
    | nil => exact .error _
    | cons htwin htwins =>
        refine .ok ⟨.cons htwin htwins, hlimit, rfl, ?_, ?_⟩
        · obtain ⟨production, start, rfl, -, -⟩ := htwin
          rfl
        · intro hflow
          dsimp only at hflow
          split at hflow <;> cases hflow

section Moves

variable [Stepper σ]

theorem Frame.Twin.finish_eq (hclean : ∀ l nodeType p q, related l nodeType p q →
    p.cleanup = q.cleanup) (h : f.Twin related g) (d : Draft) : g.finish d = f.finish d := by
  obtain ⟨production, start, rfl, hrelated, houter, -⟩ := h
  simp only [Frame.finish, hclean _ _ _ _ hrelated]

theorem Config.Alike.finishTop (hclean : ∀ l nodeType p q, related l nodeType p q →
    p.cleanup = q.cleanup) (h : c.Alike related c') (hc : c.Sound source bases)
    (hc' : c'.Sound source bases) (hframes : c.frames = top :: rest)
    (hframes' : c'.frames = top' :: rest') {failed : Bool} (hflow : c.flow = .complete failed) :
    Result.Alike related (c.finishTop top rest failed) (c'.finishTop top' rest' failed) := by
  have htwins := h.frames
  have hlayers := hc.layers
  have hlayers' := hc'.layers
  have hopened := hc.opened
  rw [hframes, hframes'] at htwins
  rw [hframes] at hlayers hopened
  rw [hframes', h.tape] at hlayers'
  cases htwins with
  | cons htwin htwins =>
      have hfails := htwin.fails_eq hlayers hlayers' failed
      have hvalue := htwin.valueAt_eq hlayers hlayers' (hopened top List.mem_cons_self)
        (top.fails failed c.tape.position)
      have hfinish := htwin.finish_eq hclean
      have hlength := htwins.length_eq
      have hemptied : failed = true → c'.emptied = c.emptied := by
        rintro rfl
        exact h.emptied hflow
      unfold Config.finishTop
      simp only [h.tape, hfails, hlayers.running, hlayers'.running, Option.isSome_none,
        Bool.and_false, Bool.false_eq_true, if_false]
      -- Twins fail together, so from here on only the verdict counts.
      generalize top.fails failed c.tape.position = failing at hvalue
      have hclosing : top'.closing failing = top.closing failing := by
        obtain ⟨production, start, rfl, -, -⟩ := htwin
        rfl
      rw [hclosing, hfinish]
      rcases top.finish (c.tape.advanceAll (top.closing failing)) with halt | cleaned
      · exact .error halt
      · have hemptied' : failing = true →
            (if (failing && !failed) = true then some top'.nodeType else c'.emptied) =
              if (failing && !failed) = true then some top.nodeType else c.emptied := by
          rintro rfl
          obtain ⟨production, start, rfl, -, -⟩ := htwin
          rcases failed with _ | _
          · rfl
          · exact hemptied rfl
        generalize (if (failing && !failed) = true then some top'.nodeType else c'.emptied) = e'
          at hemptied'
        generalize (if (failing && !failed) = true then some top.nodeType else c.emptied) = e
          at hemptied'
        have hsettle : top'.settle failing cleaned = top.settle failing cleaned := by
          obtain ⟨production, start, rfl, -, -⟩ := htwin
          rfl
        have hparent : top'.parent = top.parent := by
          obtain ⟨production, start, rfl, -, -⟩ := htwin
          rfl
        have hpolicy : top'.policy = top.policy := by
          obtain ⟨production, start, rfl, -, -⟩ := htwin
          rfl
        dsimp only
        rw [hsettle, hparent, hvalue, hlength]
        split
        · -- Only a failure asks for the type that matched nothing.
          have hconclude : ∀ (tape : Draft) (left : Nat) (value : Option Extent) (offset : Nat),
              Config.conclude tape left value failing e' offset =
                Config.conclude tape left value failing e offset := by
            intro tape left value offset
            rcases failing with _ | _
            · simp [Config.conclude]
            · rw [hemptied' rfl]
          rw [hconclude]
          exact .error _
        · exact htwins.resumeBelow h.limit hpolicy hemptied' _ _

theorem Config.Alike.enter (hclean : ∀ l nodeType p q, related l nodeType p q →
    p.cleanup = q.cleanup) {m m' : Machine σ n} {a : Attempt} {tail : Bool} {e : Entry σ n}
    {production : Production σ} (h : c.Alike related c') (hc : c.Sound source bases)
    (hc' : c'.Sound source bases) (hframes : c.frames = top :: rest)
    (hframes' : c'.frames = top' :: rest') {value : Option Extent}
    (hresume : c.flow = .resume value) (hfits : e.Fits m c.tape top a tail)
    (hfits' : ({ e with frame := { e.frame with production } } : Entry σ n).Fits m' c.tape top' a
      tail)
    (hrelated : related e.frame.language e.frame.nodeType e.frame.production production) :
    Result.Alike related (c.enter top rest e)
      (c'.enter top' rest' { e with frame := { e.frame with production } }) := by
  have htwins := h.frames
  have hlayers := hc.layers
  have hlayers' := hc'.layers
  have hbegun := hc.begun (by simp [hresume])
  have hbegun' := hc'.begun (by simp [h.flow, hresume])
  rw [hframes, hframes'] at htwins
  rw [hframes] at hlayers hbegun
  rw [hframes', h.tape] at hlayers' hbegun'
  cases htwins with
  | cons htwin htwins =>
      have hfinish := htwin.finish_eq hclean
      have hlength := htwins.length_eq
      unfold Config.enter Config.push
      simp only [h.tape, h.limit, hlength, hfinish]
      by_cases hreplaces : e.replaces = true
      · simp only [hreplaces, if_true]
        rcases hcleaned : top.finish c.tape with halt | tape
        · exact .error halt
        · have hsilent := Frame.finish_silent hcleaned
          have hspliced := hlayers.splice hfits hreplaces hsilent
          have hspliced' := hlayers'.splice hfits' hreplaces hsilent
          have hframes : Twins related (e.spliced top :: rest)
              (Entry.spliced { e with frame := { e.frame with production } } top' :: rest') := by
            refine .cons ?_ htwins
            -- A frame that is replaced is not the outermost one.
            have hinner : (e.spliced top).isFragment = false := by
              obtain ⟨-, -, htransparent⟩ := hfits.replaces hreplaces
              simp only [Frame.isTransparent, Bool.and_eq_true, Bool.not_eq_true'] at htransparent
              exact htransparent.2
            obtain ⟨_, start, rfl, -, -, hstart⟩ := htwin
            exact ⟨production, start, rfl, hrelated, by simp [hinner], hstart⟩
          exact .ok ⟨hframes.captured hspliced hspliced' _, rfl, rfl, rfl, fun h => by cases h⟩
      · simp only [hreplaces, Bool.false_eq_true, if_false]
        by_cases hlimit : c.limit ≤ rest.length + 1
        · simp only [if_pos hlimit]
          exact .error _
        · simp only [if_neg hlimit]
          have hpushed := hlayers.pushEntry hfits hbegun
          have hpushed' := hlayers'.pushEntry hfits' hbegun'
          rw [hlength] at hpushed'
          have hframes : Twins related
              (e.pushed rest.length :: { top with returning := e.returns || top.returning } :: rest)
              (Entry.pushed { e with frame := { e.frame with production } } rest.length ::
                { top' with returning := e.returns || top'.returning } :: rest') := by
            refine .cons ?_ (.cons ?_ htwins)
            · exact ⟨production, e.frame.capture.start, rfl, hrelated,
                by simp [Frame.isFragment, Entry.pushed], .inr rfl⟩
            · obtain ⟨production', start, rfl, hrelated', houter, hstart⟩ := htwin
              exact ⟨production', start, rfl, hrelated', houter, hstart⟩
          exact .ok ⟨hframes.captured hpushed hpushed' _, rfl, rfl, rfl, fun h => by cases h⟩

theorem Config.Alike.obey (hclean : ∀ l nodeType p q, related l nodeType p q →
    p.cleanup = q.cleanup) {m m' : Machine σ n}
    (hplan : ∀ (top : Frame σ n) a tail,
      Plan.Alike related (m.plan c.tape top a tail) (m'.plan c.tape top a tail))
    (h : c.Alike related c') (hc : c.Sound source bases) (hc' : c'.Sound source bases)
    (hframes : c.frames = top :: rest) (hframes' : c'.frames = top' :: rest')
    {value : Option Extent} (hresume : c.flow = .resume value) (instruction : Instruction)
    (tail : Bool) :
    Result.Alike related (m.obey c top rest instruction tail)
      (m'.obey c' top' rest' instruction tail) := by
  have hnext : ∀ value, Config.next value tail ≠ .complete true := by
    intro value
    cases tail <;> simp [Config.next]
  have hquiet : ∀ act, Result.Alike related
      (.ok { c with tape := c.tape.perform act, flow := Config.next none tail })
      (.ok { c' with tape := c'.tape.perform act, flow := Config.next none tail }) := by
    intro act
    refine .ok ⟨h.frames, h.limit, ?_, rfl, fun hflow => absurd hflow (hnext none)⟩
    simp only [h.tape]
  cases instruction with
  | attempt a =>
      have htwins := h.frames
      have hlayers := hc.layers
      have hlayers' := hc'.layers
      rw [h.tape] at hlayers'
      rw [hframes, hframes'] at htwins
      have hsame : m'.plan c.tape top' a tail = m'.plan c.tape top a tail := by
        cases htwins with
        | cons htwin _ =>
            obtain ⟨production, start, rfl, -, -⟩ := htwin
            exact m'.plan_congr c.tape rfl rfl rfl rfl a tail
      have halike := hplan top a tail
      simp only [Machine.obey, h.tape]
      rw [hsame]
      rcases hown : m.plan c.tape top a tail with outcome | plan
      all_goals rcases hother : m'.plan c.tape top a tail with outcome' | plan'
      all_goals rw [hown, hother] at halike
      · cases halike
        exact .error _
      · cases halike
      · cases halike
      · cases halike with
        | miss emptied =>
            refine .ok ⟨h.frames, h.limit, h.tape, rfl, fun _ => rfl⟩
        | place tags value =>
            refine .ok ⟨?_, h.limit, ?_, ?_, fun hflow => absurd hflow (hnext _)⟩
            · simp only [Config.write, h.tape]
              exact h.frames.captured hlayers hlayers' _
            · simp only [Config.write, h.tape]
            · simp only [Config.write, h.tape]
        | enter e hrelated =>
            exact h.enter hclean hc hc' hframes hframes' hresume (Machine.plan_enter hown)
              (Machine.plan_enter (hsame.trans hother)) hrelated
  | fail => exact .ok ⟨h.frames, h.limit, h.tape, rfl, fun _ => rfl⟩
  | write text options => exact hquiet _
  | openSpan name => exact hquiet _
  | closeSpan name => exact hquiet _
  | bind key value => exact hquiet _

theorem Config.Alike.stepTop (hclean : ∀ l nodeType p q, related l nodeType p q →
    p.cleanup = q.cleanup) {m m' : Machine σ n}
    (hplan : ∀ (top : Frame σ n) a tail,
      Plan.Alike related (m.plan c.tape top a tail) (m'.plan c.tape top a tail))
    (h : c.Alike related c') (hc : c.Sound source bases) (hc' : c'.Sound source bases)
    (hframes : c.frames = top :: rest) (hframes' : c'.frames = top' :: rest')
    {value : Option Extent} (hresume : c.flow = .resume value) {step : Step}
    {production production' : Production σ}
    (hstep : top.production.step c.tape.cursor value = (step, production))
    (hstep' : top'.production.step c.tape.cursor value = (step, production'))
    (hrelated : related top.language top.nodeType production production')
    (houter : top.isFragment = true → production' = production) :
    Result.Alike related (m.stepTop c top rest value) (m'.stepTop c' top' rest' value) := by
  have htwins := h.frames
  rw [hframes, hframes'] at htwins
  have hstepped : Twins related ({ top with production } :: rest)
      ({ top' with production := production' } :: rest') := by
    cases htwins with
    | cons htwin htwins =>
        refine .cons ?_ htwins
        obtain ⟨_, start, rfl, -, -, hstart⟩ := htwin
        exact ⟨production', start, rfl, hrelated, houter, hstart⟩
  have halike : Config.Alike related { c with frames := { top with production } :: rest }
      { c' with frames := { top' with production := production' } :: rest' } :=
    ⟨hstepped, h.limit, h.tape, h.flow, h.emptied⟩
  have hobey := Config.Alike.obey hclean (c := { c with frames := { top with production } :: rest })
    hplan halike (hc.withProduction hframes production) (hc'.withProduction hframes' production')
    rfl rfl hresume
  unfold Machine.stepTop
  simp only [h.tape, hstep, hstep']
  rcases step with instruction | _ | instruction
  · simpa only [h.tape] using hobey instruction false
  · refine .ok ⟨hstepped, h.limit, rfl, rfl, ?_⟩
    rintro ⟨⟩
  · simpa only [h.tape] using hobey instruction true

/-- Configurations in order that keep step lie over the same drafts. -/
theorem Config.Sound.common {m m' : Machine σ n} {d d' : Config σ n} (hc : c.Sound source bases)
    (hc' : c'.Sound source bases) (htape : c'.tape = c.tape) (hmove : m.move c = .ok d)
    (hmove' : m'.move c' = .ok d') (hlength : d'.frames.length = d.frames.length) :
    ∃ bases', d.Sound source bases' ∧ d'.Sound source bases' := by
  have hd := hc.moved hmove
  have hd' := hc'.moved hmove'
  have hframes : c'.frames.length = c.frames.length := by
    rw [hc.layers.length_bases, hc'.layers.length_bases]
  rw [htape, hframes, hlength] at hd'
  exact ⟨_, hd, hd'⟩

end Moves

end GrammarMachine
