import GrammarMachine.Proofs.Machine.Places
import GrammarMachine.Proofs.Machine.TailCall

/-!
Exact starts. The start of a frame is recorded late and also from inside of transactions that are
undone, and a tail call takes it over. Still it is always the end of the tape on which the place of
the frame was taken. So a frame has matched nothing exactly if the input is read no further than it
was then.
-/

namespace GrammarMachine

variable {σ : Type} {n : Nat} {T : Type}

theorem Stack.get?_eq_some {s : Stack σ n} {place : Nat} {f : Frame σ n} :
    s.get? place = some f ↔ ∃ high low, s.frames = high ++ f :: low ∧ low.length = place := by
  unfold Stack.get?
  constructor
  · intro h
    obtain ⟨hplace, hf⟩ := List.getElem?_eq_some_iff.mp h
    refine ⟨(s.frames.reverse.drop (place + 1)).reverse, (s.frames.reverse.take place).reverse,
      ?_, ?_⟩
    · have hsplit : s.frames.reverse =
          s.frames.reverse.take place ++ f :: s.frames.reverse.drop (place + 1) := by
        rw [← hf, List.getElem_cons_drop hplace, List.take_append_drop]
      rw [← List.reverse_inj]
      simpa using hsplit
    · rw [List.length_reverse, List.length_take]
      omega
  · rintro ⟨high, low, hframes, rfl⟩
    simp [hframes]

theorem Run.unstarted_get? {r : Run σ n T} (high : List (Frame σ n)) {low : List (Frame σ n)}
    {f g : Frame σ n} (hframes : r.outline.frames = high ++ g :: low)
    (hf : r.stack.get? low.length = some f) : f.unstarted = g := by
  obtain ⟨high', low', hstack, hlength⟩ := Stack.get?_eq_some.mp hf
  simp only [outline, hstack, List.map_append, List.map_cons] at hframes
  have hsame := (List.append_inj' hframes (by simp [hlength])).2
  exact (List.cons.inj hsame).1

namespace Frame

theorem exists_append_of_startedOver {frames : List (Frame σ n)}
    (h : frames.Pairwise StartedOver) :
    ∃ high low, frames = high ++ low ∧ (∀ f ∈ high, f.capture.start = none) ∧
      ∀ f ∈ low, f.capture.start.isSome = true := by
  induction frames with
  | nil => exact ⟨[], [], rfl, by simp, by simp⟩
  | cons f rest ih =>
      obtain ⟨hover, hrest⟩ := List.pairwise_cons.mp h
      rcases hstart : f.capture.start with _ | mark
      · obtain ⟨high, low, rfl, hhigh, hlow⟩ := ih hrest
        refine ⟨f :: high, low, rfl, ?_, hlow⟩
        intro g hg
        rcases List.mem_cons.mp hg with rfl | hg
        · exact hstart
        · exact hhigh g hg
      · have hsome : f.capture.start.isSome = true := by simp [hstart]
        refine ⟨[], f :: rest, rfl, by simp, ?_⟩
        intro g hg
        rcases List.mem_cons.mp hg with rfl | hg
        · exact hsome
        · exact hover g hg hsome

end Frame

/-- The tape on which a frame above the outermost one lies, with what the start of the frame tells
about it. -/
theorem Layers.base_at {source : Source} {frames high low : List (Frame σ n)} {bases : List Draft}
    {d : Draft} {f : Frame σ n} (h : Layers source frames bases d)
    (hframes : frames = high ++ f :: low) (hinner : low ≠ []) :
    ∃ ups base downs, bases = ups ++ base :: downs ∧ downs.length + 1 = low.length ∧
      base.Extends d ∧ (∀ mark, f.capture.start = some mark → mark = Tape.mark base) ∧
      (f.capture.start = none → Tape.mark d = Tape.mark base) := by
  induction h generalizing high with
  | fragment =>
      rcases high with _ | ⟨x, high⟩
      · obtain ⟨-, rfl⟩ := List.cons.inj hframes
        exact absurd rfl hinner
      · simp at hframes
  | @cons top g rest base d bases hbelow hover hdepth hparent hmono hbegun hfaithful ih =>
      rcases high with _ | ⟨x, high⟩
      · obtain ⟨rfl, rfl⟩ := List.cons.inj hframes
        refine ⟨[], base, bases, rfl, ?_, hover.grown, hover.started, ?_⟩
        · rw [← hbelow.length_bases]
        · intro hstart
          exact Layers.mark_eq_of_unstarted hover hstart hbelow.faithful hfaithful
      · obtain ⟨rfl, hrest⟩ := List.cons.inj hframes
        obtain ⟨ups, base', downs, rfl, hlength, hgrown, hstarted, hunstarted⟩ := ih hrest
        refine ⟨base :: ups, base', downs, rfl, hlength, hgrown.trans hover.grown, hstarted, ?_⟩
        intro hstart
        -- A frame above one that has no start has none, so nothing was written over it either.
        have hpairwise := (Layers.cons hbelow hover hdepth hparent hmono hbegun
          hfaithful).startedOver
        rw [hrest] at hpairwise
        have hover' : top.StartedOver f :=
          (List.pairwise_cons.mp hpairwise).1 f (by simp)
        have htop : top.capture.start = none := by
          rcases hnone : top.capture.start with _ | mark
          · rfl
          · simpa [hstart] using hover' (by simp [hnone])
        exact (Layers.mark_eq_of_unstarted hover htop hbelow.faithful hfaithful).trans
          (hunstarted hstart)

namespace Machine

theorem allowEmpty_of_plan [Tape T] {m : Machine σ n} {tape : T} {top : Frame σ n} {a : Attempt}
    {tail : Bool} {e : Entry σ n} (h : m.plan tape top a tail = .ok (.enter e)) :
    e.frame.allowEmpty = (m.catalog e.frame.language).grammar.isEmptyable e.frame.nodeType := by
  obtain ⟨node, slot, place, intrinsic, rule, -, rfl⟩ := plan_enter_entry h
  rfl

section Places

variable [Tape T] [Stepper σ] {m : Machine σ n} {tape : T} {props : Option Json}
  {r r' before : Run σ n T} {count : Nat} {f : Frame σ n}

/-- Whether all rules that have had the place above the frames of `before` in the `count` states
after it may match nothing. -/
def AllEmptyable (m : Machine σ n) (before : Run σ n T) (count : Nat) : Prop :=
  ∀ k s f, 0 < k → k ≤ count → m.steps k before = .ok s →
    s.stack.get? before.stack.size = some f →
    (m.catalog f.language).grammar.isEmptyable f.nodeType = true

theorem allEmptyable_succ (hsteps : m.steps (count + 1) before = .ok r)
    (hf : r.stack.get? before.stack.size = some f) :
    m.AllEmptyable before (count + 1) ↔ m.AllEmptyable before count ∧
      (m.catalog f.language).grammar.isEmptyable f.nodeType = true := by
  constructor
  · intro h
    refine ⟨?_, h _ r f (Nat.succ_pos _) (Nat.le_refl _) hsteps hf⟩
    intro k s g hpos hk
    exact h k s g hpos (Nat.le_succ_of_le hk)
  · rintro ⟨hall, hlast⟩ k s g hpos hk hs hg
    rcases Nat.lt_or_ge count k with hlate | hk
    · obtain rfl : k = count + 1 := by omega
      rw [hsteps] at hs
      cases hs
      rw [hf] at hg
      cases hg
      exact hlast
    · exact hall k s g hpos hk hs hg

/-- The frame in a place may match nothing exactly if all rules that have had the place may. -/
theorem Put.allowEmpty_iff (h : m.Put before count r) (hbefore : m.Reaches tape props before)
    (hf : r.stack.get? before.stack.size = some f) :
    f.allowEmpty = true ↔ m.AllEmptyable before count := by
  induction h generalizing f with
  | @first r hstep hsize =>
      have hsteps : m.steps (0 + 1) before = .ok r := (Put.first hstep hsize).steps
      have hnone : m.AllEmptyable before 0 := by
        intro k s g hpos hk
        omega
      rw [allEmptyable_succ hsteps hf, and_iff_right hnone]
      obtain ⟨top, rest, a, tail, production, e, hpushes, hframes, -⟩ :=
        (hbefore.turn hstep).pushes (by rwa [Run.length_outline])
      obtain ⟨value, hstepping⟩ := hpushes.stepping
      have hplace : before.stack.size = (({ top with
          production, returning := e.returns || top.returning } :: rest).map
            Frame.unstarted).length := by
        simp [Stack.size, hstepping.frames]
      rw [hplace] at hf
      change f.unstarted.allowEmpty = true ↔
        (m.catalog f.unstarted.language).grammar.isEmptyable f.unstarted.nodeType = true
      rw [Run.unstarted_get? [] hframes hf]
      exact Bool.eq_iff_iff.mp (allowEmpty_of_plan hpushes.plan)
  | @next count r r' hput hstep hsize ih =>
      rw [allEmptyable_succ (hput.next hstep hsize).steps hf]
      obtain ⟨g, hg⟩ : ∃ g, r.stack.get? before.stack.size = some g := by
        have hplace := hput.size
        simp only [Stack.get?, Stack.size] at hplace ⊢
        exact ⟨_, List.getElem?_eq_getElem (by simpa using hplace)⟩
      specialize ih hg
      obtain ⟨high, low, hstack, hlength⟩ := Stack.get?_eq_some.mp hg
      have hframes : r.outline.frames = high.map Frame.unstarted ++
          g.unstarted :: low.map Frame.unstarted := by
        simp [Run.outline, hstack]
      have hlow : before.stack.size = (low.map Frame.unstarted).length := by simp [hlength]
      obtain ⟨high', f', hframes', hrenews, -⟩ :=
        ((hput.reaches hbefore).turn hstep).renews hframes (by rwa [Run.length_outline, ← hlow])
      rw [hlow] at hf
      obtain rfl := Run.unstarted_get? high' hframes' hf
      cases hrenews with
      | kept _ _ hlanguage hnodeType hallow =>
          -- The type in the place is one that has been counted before.
          have hsame : f.allowEmpty = g.allowEmpty := hallow
          have hcounted : m.AllEmptyable before count →
              (m.catalog f.language).grammar.isEmptyable f.nodeType = true := by
            intro hall
            change (m.catalog f.unstarted.language).grammar.isEmptyable f.unstarted.nodeType = true
            rw [hlanguage, hnodeType]
            exact hall count r g hput.pos (Nat.le_refl _) hput.steps hg
          rw [hsame, ih, and_iff_left_of_imp hcounted]
      | spliced hplan _ _ hlanguage hnodeType hallow =>
          have hboth : f.allowEmpty = (g.allowEmpty && _) := hallow
          rw [hboth, Bool.and_eq_true, ih, allowEmpty_of_plan hplan, ← hlanguage, ← hnodeType]
          rfl

end Places

section Emptiness

variable [Stepper σ] {m : Machine σ n} {source : Source} {props : Option Json}
  {r before : Run σ n Draft} {count : Nat} {f : Frame σ n}

theorem step_complete [Tape T] {r : Run σ n T} {rest : List (Frame σ n)} {failed : Bool}
    (m : Machine σ n) (hframes : r.stack.frames = f :: rest) (hflow : r.flow = .complete failed) :
    m.step r =
      if f.fails failed r.cursor.position then
        Run.leave { r with emptied := if failed then r.emptied else some f.nodeType } true
          r.cursor.position.offset
      else r.close f >>= fun closed => closed.leave false r.cursor.position.offset := by
  rcases r with ⟨tape, ⟨frames, limit⟩, flow, emptied, events, productions⟩
  cases hframes
  cases hflow
  cases failed <;> rfl

/-- What is known of a frame whose place was taken in the step after `before`. -/
structure Captures (m : Machine σ n) (before : Run σ n Draft) (count : Nat) (r : Run σ n Draft)
    (f : Frame σ n) : Prop where
  started : ∀ mark, f.capture.start = some mark → mark = Tape.mark before.tape
  unstarted : f.capture.start = none → Tape.mark r.tape = Tape.mark before.tape
  /-- When the frame is finished, it succeeds exactly if its production has not failed and it has
  read something or may match nothing. -/
  completed : ∀ failed, r.flow = .complete failed → r.stack.size = before.stack.size + 1 →
    let succeeds := failed = false ∧
      (r.cursor.position ≠ before.cursor.position ∨ m.AllEmptyable before count)
    let offset := r.cursor.position.offset
    (succeeds → m.step r = r.close f >>= fun closed => closed.leave false offset) ∧
      (¬ succeeds → m.step r =
        Run.leave { r with emptied := if failed then r.emptied else some f.nodeType } true offset)

omit [Stepper σ] in
theorem isEmptyAt_iff
    (hstarted : ∀ mark, f.capture.start = some mark → mark = Tape.mark before.tape)
    (hunstarted : f.capture.start = none → Tape.mark r.tape = Tape.mark before.tape) :
    f.capture.isEmptyAt r.cursor.position = true ↔ r.cursor.position = before.cursor.position := by
  rcases hstart : f.capture.start with _ | mark
  · have hposition := congrArg Mark.position (hunstarted hstart)
    simp only [Capture.isEmptyAt, hstart, Option.all_none, true_iff]
    exact hposition
  · have hposition := congrArg Mark.position (hstarted mark hstart)
    simp only [Capture.isEmptyAt, hstart, Option.all_some, decide_eq_true_eq]
    rw [hposition]
    exact eq_comm

theorem Put.step_complete {rest : List (Frame σ n)} {failed : Bool} (h : m.Put before count r)
    (hbefore : m.Reaches (Draft.fresh source) props before)
    (hframes : r.stack.frames = f :: rest) (hplace : rest.length = before.stack.size)
    (hflow : r.flow = .complete failed)
    (hstarted : ∀ mark, f.capture.start = some mark → mark = Tape.mark before.tape)
    (hunstarted : f.capture.start = none → Tape.mark r.tape = Tape.mark before.tape) :
    let succeeds := failed = false ∧
      (r.cursor.position ≠ before.cursor.position ∨ m.AllEmptyable before count)
    let offset := r.cursor.position.offset
    (succeeds → m.step r = r.close f >>= fun closed => closed.leave false offset) ∧
      (¬ succeeds → m.step r =
        Run.leave { r with emptied := if failed then r.emptied else some f.nodeType } true
          offset) := by
  intro succeeds offset
  have hf : r.stack.get? before.stack.size = some f :=
    Stack.get?_eq_some.mpr ⟨[], rest, hframes, hplace⟩
  have hempty : f.capture.isEmptyAt r.cursor.position = true ↔ _ :=
    isEmptyAt_iff hstarted hunstarted
  have hallow := h.allowEmpty_iff hbefore hf
  have hfails : f.fails failed r.cursor.position = false ↔ succeeds := by
    simp only [Frame.fails, Bool.or_eq_false_iff, Bool.and_eq_false_iff, Bool.not_eq_false',
      ← Bool.not_eq_true (f.capture.isEmptyAt _), hempty, hallow]
    rfl
  rw [Machine.step_complete m hframes hflow]
  constructor
  · intro hsucceeds
    rw [hfails.mpr hsucceeds]
    rfl
  · intro hfailing
    rw [Bool.of_not_eq_false (mt hfails.mp hfailing)]
    rfl

theorem Reaches.captures (h : m.Reaches (Draft.fresh source) props r) {place : Nat}
    (hinner : 0 < place) (hf : r.stack.get? place = some f) :
    ∃ before count, m.Reaches (Draft.fresh source) props before ∧ before.stack.size = place ∧
      m.Put before count r ∧ m.Captures before count r f := by
  obtain ⟨bases, hsound, hbases⟩ := h.based
  obtain ⟨high, low, hframes, hplace⟩ := Stack.get?_eq_some.mp hf
  have hconfig : r.config.frames = high.map Frame.bare ++ f.bare :: low.map Frame.bare := by
    simp [Run.config, hframes]
  have hlow : low.map Frame.bare ≠ [] := by
    rintro hnil
    simp [List.map_eq_nil_iff.mp hnil] at hplace
    omega
  obtain ⟨ups, base, downs, hups, hlength, -, hstarted, hunstarted⟩ :=
    hsound.layers.base_at hconfig hlow
  obtain ⟨before, count, hbefore, hsize, hput, rfl⟩ := hbases ups base downs hups
  rw [hlength, List.length_map] at hsize
  refine ⟨before, count, hbefore, hsize.trans hplace, hput, hstarted, hunstarted, ?_⟩
  intro failed hflow htop
  have hactive : r.stack.frames = f :: low := by
    rcases high with _ | ⟨x, high⟩
    · exact hframes
    · simp only [Stack.size, hframes, List.length_append, List.length_cons] at htop hsize
      omega
  exact hput.step_complete hbefore hactive hsize.symm hflow hstarted hunstarted

theorem Reaches.step_outermost (h : m.Reaches (Draft.fresh source) props r) {failed : Bool}
    (hframes : r.stack.frames = [f]) (hflow : r.flow = .complete failed) :
    m.step r = if failed then r.leave true r.cursor.position.offset
      else r.close f >>= fun closed => closed.leave false r.cursor.position.offset := by
  have hrooted := h.rooted
  rw [hframes] at hrooted
  have hfails : f.fails failed r.cursor.position = failed := by
    simp [Frame.fails, hrooted.2.2.2]
  rw [Machine.step_complete m hframes hflow, hfails]
  cases failed <;> rfl

/-- The starts of all frames are exact, and with them the decision whether a frame has matched
nothing. Frames with a start lie below those without. The outermost frame fails only with its
production. -/
theorem run_starts (m : Machine σ n) (source : Source) (props : Option Json) (r : Run σ n Draft)
    (hr : m.Reaches (Draft.fresh source) props r) :
    (∃ high low, r.stack.frames = high ++ low ∧ (∀ f ∈ high, f.capture.start = none) ∧
      ∀ f ∈ low, f.capture.start.isSome = true) ∧
    (∀ place f, 0 < place → r.stack.get? place = some f →
      ∃ before count, m.Reaches (Draft.fresh source) props before ∧ before.stack.size = place ∧
        m.Put before count r ∧ m.Captures before count r f) ∧
    ∀ f failed, r.stack.frames = [f] → r.flow = .complete failed →
      m.step r = if failed then r.leave true r.cursor.position.offset
        else r.close f >>= fun closed => closed.leave false r.cursor.position.offset := by
  refine ⟨?_, ?_, ?_⟩
  · apply Frame.exists_append_of_startedOver
    obtain ⟨bases, hsound, -⟩ := hr.based
    have hpairwise := hsound.layers.startedOver
    simp only [Run.config, List.pairwise_map] at hpairwise
    exact hpairwise
  · intro place f hinner hf
    exact hr.captures hinner hf
  · intro f failed hframes hflow
    exact hr.step_outermost hframes hflow

theorem run_starts_wordReader : ∃ r f before count,
    (wordReader [.eat (.literal "b")]).Reaches (Draft.fresh (.ofSegments [some "ab"])) none r ∧
      r.stack.get? 1 = some f ∧ r.flow = .complete false ∧
      (wordReader [.eat (.literal "b")]).Put before count r ∧
      (wordReader [.eat (.literal "b")]).Captures before count r f := by
  obtain ⟨r, f, hr, hf, hflow⟩ : ∃ r f,
      (wordReader [.eat (.literal "b")]).stateAt? (.ofSegments [some "ab"]) 5 = some r ∧
        r.stack.get? 1 = some f ∧ r.flow = .complete false := ⟨_, _, rfl, rfl, rfl⟩
  have hreaches := reaches_of_stateAt? hr
  obtain ⟨-, hstarts, -⟩ := run_starts _ _ none r hreaches
  obtain ⟨before, count, -, -, hput, hcaptures⟩ := hstarts 1 f (by decide) hf
  exact ⟨r, f, before, count, hreaches, hf, hflow, hput, hcaptures⟩

end Emptiness

end Machine

end GrammarMachine
