import GrammarMachine.Proofs.Machine.Sound

/-!
Attempts. A rule that is entered as an attempt runs over the frames that wait for it. Whatever it
does, the waiting frames are touched only by the record of their starts, and when the attempt is
undone the tape is the very tape on which it began.
-/

namespace GrammarMachine

variable {σ : Type} {n : Nat}

/-- Frames with the starts that may have been recorded in them while they waited over a tape. -/
def Recorded (base : Draft) (frames frames' : List (Frame σ n)) : Prop :=
  frames' = frames ∨ frames' = Stack.recordStart (Tape.mark base) frames

theorem Recorded.head {base : Draft} {f : Frame σ n} {frames frames' : List (Frame σ n)}
    (h : Recorded base (f :: frames) frames') :
    ∃ start rest, frames' = { f with capture := { f.capture with start } } :: rest := by
  rcases h with rfl | rfl
  · exact ⟨f.capture.start, frames, rfl⟩
  · rcases hstart : f.capture.start with _ | start
    · exact ⟨_, _, Stack.recordStart_unstarted _ _ hstart⟩
    · rw [Stack.recordStart_started _ _ (by simp [hstart])]
      exact ⟨f.capture.start, frames, rfl⟩

theorem Recorded.returning {base : Draft} {frames frames' : List (Frame σ n)}
    (h : Recorded base frames frames') (hwaiting : ∀ g ∈ frames.head?, g.returning = false) :
    ∀ g ∈ frames'.head?, g.returning = false := by
  intro g hg
  rcases frames with _ | ⟨f, frames⟩
  · rcases h with rfl | rfl <;> cases hg
  · obtain ⟨start, rest, rfl⟩ := h.head
    cases hg
    exact hwaiting f rfl

/-- Over the waiting frames `below` lies a frame with the given policy and over it `count` more. -/
def Holding (below : List (Frame σ n)) (base : Draft) (policy : Policy) (count : Nat)
    (frames : List (Frame σ n)) : Prop :=
  ∃ high f below', frames = high ++ f :: below' ∧ high.length = count ∧ f.policy = policy ∧
    Recorded base below below'

namespace Holding

variable {source : Source} {below frames rest : List (Frame σ n)} {f g : Frame σ n} {base d : Draft}
  {policy : Policy} {count : Nat} {ups bases : List Draft}

theorem push (h : Holding below base policy count frames) (f : Frame σ n) :
    Holding below base policy (count + 1) (f :: frames) := by
  obtain ⟨high, g, below', rfl, rfl, hpolicy, hrecorded⟩ := h
  exact ⟨f :: high, g, below', rfl, rfl, hpolicy, hrecorded⟩

theorem pop (h : Holding below base policy (count + 1) (f :: frames)) :
    Holding below base policy count frames := by
  obtain ⟨_ | ⟨g, high⟩, f', below', hframes, hcount, hpolicy, hrecorded⟩ := h
  · cases hcount
  · cases hframes
    exact ⟨high, f', below', rfl, by simpa using hcount, hpolicy, hrecorded⟩

theorem last (h : Holding below base policy 0 (f :: frames)) :
    f.policy = policy ∧ Recorded base below frames := by
  obtain ⟨_ | ⟨g, high⟩, f', below', hframes, hcount, hpolicy, hrecorded⟩ := h
  · cases hframes
    exact ⟨hpolicy, hrecorded⟩
  · cases hcount

theorem replaceTop (h : Holding below base policy count (f :: frames))
    (hpolicy : g.policy = f.policy) : Holding below base policy count (g :: frames) := by
  rcases count with _ | count
  · obtain ⟨hf, hrecorded⟩ := h.last
    exact ⟨[], g, frames, rfl, rfl, hpolicy.trans hf, hrecorded⟩
  · exact h.pop.push g

theorem record (h : Holding below base policy ups.length frames)
    (hlayers : Layers source frames (ups ++ base :: bases) d) :
    Holding below base policy ups.length (Stack.recordStart (Tape.mark d) frames) := by
  induction ups generalizing frames d with
  | nil =>
      rcases frames with _ | ⟨f, frames⟩
      · cases hlayers
      obtain ⟨hpolicy, hrecorded⟩ := h.last
      rcases hstart : f.capture.start with _ | start
      · cases hlayers with
        | cons hbelow hover hdepth hparent hmono hbegun hfaithful =>
            have hmark := Layers.mark_eq_of_unstarted hover hstart hbelow.faithful hfaithful
            rw [Stack.recordStart_unstarted _ _ hstart, hmark]
            refine ⟨[], _, _, rfl, rfl, hpolicy, .inr ?_⟩
            rcases hrecorded with hsame | hsame
            · rw [hsame]
            · rw [hsame, Stack.recordStart_recordStart]
      · rw [Stack.recordStart_started _ _ (by simp [hstart])]
        exact h
  | cons up ups ih =>
      rcases frames with _ | ⟨f, frames⟩
      · cases hlayers
      rcases hstart : f.capture.start with _ | start
      · cases hlayers with
        | cons hbelow hover hdepth hparent hmono hbegun hfaithful =>
            have hmark := Layers.mark_eq_of_unstarted hover hstart hbelow.faithful hfaithful
            rw [Stack.recordStart_unstarted _ _ hstart, hmark]
            exact (ih h.pop hbelow).push _
      · rw [Stack.recordStart_started _ _ (by simp [hstart])]
        exact h

theorem captured (h : Holding below base policy ups.length frames)
    (hlayers : Layers source frames (ups ++ base :: bases) d) (tags : List Tag) :
    Holding below base policy ups.length (captured (Tape.mark d) tags frames) := by
  unfold GrammarMachine.captured
  split
  · exact h
  · exact h.record hlayers

end Holding

namespace Config

variable {source : Source} {below rest : List (Frame σ n)} {top : Frame σ n} {base : Draft}
  {bases : List Draft} {policy : Policy} {c c' : Config σ n}

/-- A configuration in which an attempt is under way. -/
def Inside (source : Source) (below : List (Frame σ n)) (base : Draft) (bases : List Draft)
    (policy : Policy) (c : Config σ n) : Prop :=
  ∃ ups, Holding below base policy ups.length c.frames ∧ c.Sound source (ups ++ base :: bases)

/-- A configuration in which an attempt has come to an end with a value. -/
structure Returned (source : Source) (below : List (Frame σ n)) (base : Draft)
    (bases : List Draft) (policy : Policy) (value : Option Extent) (c : Config σ n) : Prop where
  recorded : Recorded base below c.frames
  sound : c.Sound source bases
  flow : c.flow = .resume value
  tape : policy.keeps = false ∨ value = none → c.tape = base

variable [Stepper σ] {m : Machine σ n}

theorem Inside.carried (h : c.Inside source below base bases policy) {value : Option Extent}
    (hresume : c.flow = .resume value) (hframes : c.frames = top :: rest)
    (hcarried : m.Carried c top rest c') : c'.Inside source below base bases policy := by
  obtain ⟨ups, hholding, hsound⟩ := h
  cases hcarried with
  | silent flow emptied hsilent =>
      exact ⟨ups, hholding, hsound.silent hresume hsilent flow emptied⟩
  | placed flow hplaced _ =>
      exact ⟨ups, hholding.captured hsound.layers _, hsound.write hresume hplaced flow⟩
  | @entered _ _ e _ hfits hentered =>
      have hsound' := hsound.enter hresume hframes hfits hentered
      have hlayers := hsound.layers
      have hbegun := hsound.begun (by simp [hresume])
      rw [hframes] at hholding hlayers hbegun
      rcases Config.enter_ok hentered with ⟨hreplaces, tape, hsilent, rfl⟩ | ⟨hreplaces, rfl⟩
      · rw [if_pos hreplaces] at hsound'
        refine ⟨ups, ?_, hsound'⟩
        have hspliced : Holding below base policy ups.length (e.spliced top :: rest) :=
          hholding.replaceTop rfl
        exact hspliced.captured (hlayers.splice hfits hreplaces hsilent) _
      · rw [if_neg (by simp [hreplaces])] at hsound'
        refine ⟨c.tape :: ups, ?_, hsound'⟩
        have hbelow : Holding below base policy ups.length
            ({ top with returning := e.returns || top.returning } :: rest) :=
          hholding.replaceTop rfl
        have hpushed := hbelow.push (e.pushed rest.length)
        exact @Holding.captured _ _ _ _ _ _ _ _ (c.tape :: ups) _ hpushed
          (hlayers.pushEntry hfits hbegun) _

/-- An attempt that is not kept or has a value begins, or comes to its end at once. -/
theorem Sound.attempt (h : c.Sound source bases) {value : Option Extent}
    (hresume : c.flow = .resume value) (hframes : c.frames = top :: rest) {a : Attempt}
    (habsorbs : a.verb.policy.absorbs = true)
    (hvalued : a.verb.policy.keeps = true → (m.goalFor top a).form.valued = true)
    (hobey : m.obey c top rest (.attempt a) false = .ok c') :
    c'.Inside source c.frames c.tape bases a.verb.policy ∨
      ∃ value, c'.Returned source c.frames c.tape bases a.verb.policy value := by
  simp only [Machine.obey] at hobey
  rcases hplan : m.plan c.tape top a false with outcome | plan
  · simp [hplan] at hobey
  simp only [hplan] at hobey
  cases plan with
  | miss emptied =>
      cases hobey
      refine .inr ⟨none, .inl rfl, h.silent hresume (.refl c.tape) _ _, ?_, fun _ => rfl⟩
      simp [habsorbs, Config.next]
  | place tags found =>
      cases hobey
      by_cases hkeeps : a.verb.policy.keeps = true
      · have hsome := (Machine.isSome_of_plan hplan).trans (hvalued hkeeps)
        obtain ⟨⟨name, stop⟩, rfl⟩ := Option.isSome_iff_exists.mp hsome
        simp only [hkeeps, if_true, Option.map_some]
        refine .inr ⟨_, ?_, ?_, rfl, by simp [hkeeps]⟩
        · simp only [Config.write, captured]
          split
          · exact .inl rfl
          · exact .inr rfl
        · rcases Machine.plan_place hplan with rfl | hplaced
          · exact h.silent hresume (.refl c.tape) _ _
          · exact h.write hresume hplaced _
      · simp only [hkeeps, Bool.false_eq_true, if_false]
        exact .inr ⟨_, .inl rfl, h.silent hresume (.refl c.tape) _ _, rfl, fun _ => rfl⟩
  | enter e =>
      have hfits := Machine.plan_enter hplan
      have hreplaces : e.replaces = false := by
        rw [← Bool.not_eq_true]
        intro hreplaces
        cases (hfits.replaces hreplaces).1
      have hsound := h.enter hresume hframes hfits hobey
      rw [if_neg (by simp [hreplaces])] at hsound
      have hlayers := h.layers
      have hbegun := h.begun (by simp [hresume])
      rw [hframes] at hlayers hbegun
      have hpushed := hlayers.pushEntry hfits hbegun
      have hreturns : ({ top with returning := e.returns || top.returning } : Frame σ n) = top := by
        simp [hfits.returns]
      rw [hreturns] at hpushed
      rcases Config.enter_ok hobey with ⟨hreplaces', -⟩ | ⟨-, rfl⟩
      · simp [hreplaces] at hreplaces'
      · refine .inl ⟨[], ?_, hsound⟩
        rw [hreturns, hframes]
        have hholding : Holding (top :: rest) c.tape a.verb.policy ([] : List Draft).length
            (e.pushed rest.length :: top :: rest) :=
          ⟨[], _, _, rfl, rfl, hfits.policy, .inl rfl⟩
        exact hholding.captured hpushed _

/-- An attempt goes on or comes to its end. -/
theorem Inside.move (h : c.Inside source below base bases policy) (habsorbs : policy.absorbs = true)
    (hwaiting : ∀ g ∈ below.head?, g.returning = false) (hmove : m.move c = .ok c') :
    c'.Inside source below base bases policy ∨
      ∃ value, c'.Returned source below base bases policy value := by
  obtain ⟨ups, hholding, hsound⟩ := h
  unfold Machine.move at hmove
  rcases hframes : c.frames with _ | ⟨top, rest⟩
  · simp [hframes] at hmove
  rw [hframes] at hholding
  rcases hflow : c.flow with value | failed
  · simp only [hframes, hflow] at hmove
    obtain ⟨production, hcarried⟩ := Machine.stepTop_ok hmove
    refine .inl (Inside.carried ⟨ups, ?_, hsound.withProduction hframes production⟩ hflow rfl
      hcarried)
    exact hholding.replaceTop rfl
  · simp only [hframes, hflow] at hmove
    obtain ⟨base', bases', failing, value, hbases, hsound', hleft⟩ :=
      hsound.finishTop hflow hframes hmove
    rcases ups with _ | ⟨up, ups⟩
    · -- The attempt itself is finished.
      obtain ⟨rfl, rfl⟩ := List.cons.inj hbases
      obtain ⟨rfl, hrecorded⟩ := hholding.last
      refine .inr ⟨value, hleft.frames ▸ hrecorded, hsound', ?_, ?_⟩
      · have hlayers := hsound'.layers
        rw [hleft.frames] at hlayers
        rcases rest with _ | ⟨g, rest⟩
        · cases hlayers
        have hreturning : g.returning = false := hrecorded.returning hwaiting g rfl
        simpa [habsorbs, hreturning] using hleft.flow g rfl
      · intro hundone
        rcases hleft.tape with htape | ⟨hkeeps, hfailing⟩
        · exact htape
        · have hvalued := hleft.valued
          simp only [habsorbs, Bool.true_eq_false, or_false] at hfailing
          rcases hundone with hundone | rfl
          · simp [hkeeps] at hundone
          · simp [hfailing] at hvalued
    · obtain ⟨rfl, rfl⟩ := List.cons.inj hbases
      exact .inl ⟨ups, hleft.frames ▸ hholding.pop, hsound'⟩

/-- An attempt in a run that comes to an ordinary end comes to an end itself. -/
theorem Inside.returns {symbols : List Symbol} {count : Nat} {d : Draft} {outcome : Outcome}
    (h : c.Inside (.ofSymbols symbols) below base bases policy) (habsorbs : policy.absorbs = true)
    (hwaiting : ∀ g ∈ below.head?, g.returning = false)
    (hmoves : m.moves count c = .error (d, outcome)) (hgrammar : outcome.blamesGrammar = false)
    (hdepth : ∀ limit, outcome ≠ .rejected (.depthExceeded limit)) :
    ∃ before c' value, before < count ∧ m.moves before c = .ok c' ∧
      c'.Returned (.ofSymbols symbols) below base bases policy value := by
  induction count generalizing c with
  | zero => cases hmoves
  | succ count ih =>
      rcases hmove : m.move c with halt | c'
      · -- A run ends only in its outermost frame, and here there is another one.
        exfalso
        simp only [Machine.moves, hmove, Except.error.injEq] at hmoves
        subst hmoves
        obtain ⟨ups, -, hsound⟩ := h
        rcases hsound.halt_of_symbols hmove with hblames | hlimit | ⟨hone, -⟩
        · simp [hgrammar] at hblames
        · exact hdepth _ hlimit
        · have hlength := hsound.layers.length_bases
          simp [hone] at hlength
      · simp only [Machine.moves, hmove] at hmoves
        rcases h.move habsorbs hwaiting hmove with hinside | ⟨value, hreturned⟩
        · obtain ⟨before, c'', value, hbefore, hmoves', hreturned⟩ := ih hinside hmoves
          refine ⟨before + 1, c'', value, by omega, ?_, hreturned⟩
          simp only [Machine.moves, hmove, hmoves']
        · rcases count with _ | count
          · cases hmoves
          · exact ⟨1, c', value, by omega, by simp only [Machine.moves, hmove], hreturned⟩

end Config

end GrammarMachine
