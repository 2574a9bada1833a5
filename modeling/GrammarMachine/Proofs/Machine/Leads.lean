import GrammarMachine.Proofs.Machine.Sound
import GrammarMachine.Proofs.Source.Reading

/-!
Runs by rules. What is known of a configuration is its active frame, the frames below it, its tape
and what it goes on with; where the frames were started is left to the order of the configuration.
For each kind of step a rule tells how such knowledge is carried on.
-/

namespace GrammarMachine

variable {σ : Type} {n : Nat}

def Frame.unstarted (f : Frame σ n) : Frame σ n :=
  { f with capture := { f.capture with start := none } }

/-- What a configuration goes on with. -/
inductive Signal where
  | value (matched : Bool)
  | completed
  | failed

def Flow.signal : Flow → Signal
  | .resume value => .value value.isSome
  | .complete false => .completed
  | .complete true => .failed

/-- The value of a last instruction is that of its production. -/
def Signal.next (matched tail : Bool) : Signal :=
  if tail then .completed else .value matched

/-- A configuration in order with the active frame `f` over the frames `below`. A failure has not
begun with a type that matched nothing. -/
structure Config.Stands (source : Source) (bases : List Draft) (f : Frame σ n)
    (below : List (Frame σ n)) (d : Draft) (next : Signal) (c : Config σ n) : Prop where
  sound : c.Sound source bases
  frames : c.frames.map Frame.unstarted = f :: below
  tape : c.tape = d
  flow : c.flow.signal = next
  emptied : next = .failed → c.emptied = none

/-- The production of the frame `f`, or one that took its place, has come to its end over the tape
`d`: it has written the given tags, those that close the frame among them, or it has failed. -/
def Config.Closes (source : Source) (bases : List Draft) (f : Frame σ n)
    (below : List (Frame σ n)) [Stepper σ] (d : Draft) (result : Option (List Tag))
    (c : Config σ n) : Prop :=
  ∃ f' d', f'.policy = f.policy ∧ f'.branched = f.branched ∧ f'.production.cleanup = [] ∧
    match result with
    | some tags => c.Stands source bases f' below d' .completed ∧
        d'.advanceAll (f'.closing false) = d.advanceAll tags
    | none => c.Stands source bases f' below d' .failed

/-- The frame `f` has got the result of an attempt that is kept. -/
def Config.Answered (source : Source) (bases : List Draft) (f : Frame σ n)
    (below : List (Frame σ n)) (d : Draft) (absorbs : Bool) (result : Option (List Tag))
    (c : Config σ n) : Prop :=
  match result with
  | some tags => c.Stands source bases f below (d.advanceAll tags) (.value true)
  | none =>
      if absorbs then c.Stands source bases f below d (.value false)
      else ∃ d', c.Stands source bases f below d' .failed

theorem map_unstarted_recordStart (mark : Mark) (frames : List (Frame σ n)) :
    (Stack.recordStart mark frames).map Frame.unstarted = frames.map Frame.unstarted := by
  induction frames with
  | nil => rfl
  | cons f frames ih =>
      rcases hstart : f.capture.start with _ | start
      · rw [Stack.recordStart_unstarted _ _ hstart, List.map_cons, List.map_cons, ih]
        rfl
      · rw [Stack.recordStart_started _ _ (by simp [hstart])]

theorem map_unstarted_captured (mark : Mark) (tags : List Tag) (frames : List (Frame σ n)) :
    (captured mark tags frames).map Frame.unstarted = frames.map Frame.unstarted := by
  unfold captured
  split
  · rfl
  · exact map_unstarted_recordStart _ _

theorem Draft.advanceAll_withBranches (d : Draft) (branches : List Snapshot) (tags : List Tag) :
    ({ d with branches } : Draft).advanceAll tags = { d.advanceAll tags with branches } := by
  induction tags generalizing d with
  | nil => rfl
  | cons tag tags ih => exact ih (d.advance tag)

theorem Entry.tags_branchIf (e : Entry σ n) (d : Draft) (wanted : Bool) :
    e.tags (d.branchIf wanted) = e.tags d := by
  cases wanted
  · rfl
  · have hbranch : d.branchIf true = { d with branches := d.snapshot :: d.branches } := rfl
    simp only [Entry.tags, hbranch, Draft.advanceAll_withBranches]
    rfl

theorem Frame.settle_branchIf {f : Frame σ n} (hkeeps : f.policy.keeps = true) (d : Draft)
    (tags : List Tag) :
    f.settle false ((d.branchIf f.branched).advanceAll tags) = d.advanceAll tags := by
  unfold Frame.settle Draft.branchIf
  cases f.branched
  · rfl
  · simp only [if_true, hkeeps, Bool.not_true, Bool.or_self, Bool.false_eq_true, if_false]
    change Draft.perform .accept
      (({ d with branches := d.snapshot :: d.branches } : Draft).advanceAll tags) = _
    rw [Draft.advanceAll_withBranches, d.advanceAll_eq]
    rfl

theorem Frame.symbols_closing (f : Frame σ n) (failing : Bool) :
    Stream.symbols (f.closing failing) = [] := by
  unfold Frame.closing
  cases failing <;> cases f.isNode <;> cases f.isFragment <;> rfl

theorem Signal.next_signal (value : Option Extent) (tail : Bool) :
    (Config.next value tail).signal = Signal.next value.isSome tail := by
  cases tail <;> rfl

theorem Signal.next_ne_failed (matched tail : Bool) : Signal.next matched tail ≠ .failed := by
  cases tail <;> simp [Signal.next]

section Rules

variable [Stepper σ]

/-- With a value of the given kind the production asks for the instruction and becomes `p'`. -/
def Production.Asks (p : Production σ) (cursor : Cursor) (matched : Bool)
    (instruction : Instruction) (tail : Bool) (p' : Production σ) : Prop :=
  ∀ value : Option Extent, value.isSome = matched → p.step cursor value =
    (if tail then .done (some instruction) else .yield instruction, p')

/-- With a value of the given kind the production is done. -/
def Production.Ends (p : Production σ) (cursor : Cursor) (matched : Bool) (p' : Production σ) :
    Prop :=
  ∀ value : Option Extent, value.isSome = matched → p.step cursor value = (.done none, p')

theorem Production.Asks.script (cursor : Cursor) (matched : Bool) (first : Instruction)
    (rest : List Instruction) (last : Option Instruction) :
    (.script ⟨first :: rest, last⟩ : Production σ).Asks cursor matched first false
      (.script ⟨rest, last⟩) :=
  fun _ _ => rfl

theorem Production.Asks.last (cursor : Cursor) (matched : Bool) (last : Instruction) :
    (.script ⟨[], some last⟩ : Production σ).Asks cursor matched last true (.script ⟨[], none⟩) :=
  fun _ _ => rfl

theorem Production.Asks.matched {p p' : Production σ} {cursor : Cursor} {instruction : Instruction}
    {tail : Bool} (h : ∀ value, p.step cursor (some value) =
      (if tail then .done (some instruction) else .yield instruction, p')) :
    p.Asks cursor true instruction tail p' := by
  rintro (_ | value) hvalue
  · cases hvalue
  · exact h value

theorem Production.Asks.missed {p p' : Production σ} {cursor : Cursor} {instruction : Instruction}
    {tail : Bool} (h : p.step cursor none =
      (if tail then .done (some instruction) else .yield instruction, p')) :
    p.Asks cursor false instruction tail p' := by
  rintro (_ | value) hvalue
  · exact h
  · cases hvalue

theorem Production.Ends.missed {p p' : Production σ} {cursor : Cursor}
    (h : p.step cursor none = (.done none, p')) : p.Ends cursor false p' := by
  rintro (_ | value) hvalue
  · exact h
  · cases hvalue

theorem Production.Ends.script (cursor : Cursor) (matched : Bool) :
    (.script ⟨[], none⟩ : Production σ).Ends cursor matched (.script ⟨[], none⟩) :=
  fun _ _ => rfl

/-- From configurations with one property the machine comes to such with another one, unless it
would need `height` frames and is not allowed to have them. -/
def Machine.Leads (m : Machine σ n) (height : Nat) (P Q : Config σ n → Prop) : Prop :=
  ∀ c, P c → ∃ count, (∃ c', m.moves count c = .ok c' ∧ Q c') ∨
    ∃ tape, m.moves count c = .error (tape, .rejected (.depthExceeded c.limit)) ∧ c.limit < height

namespace Machine.Leads

variable {m : Machine σ n} {height : Nat} {P Q R : Config σ n → Prop}

theorem refl (h : ∀ c, P c → Q c) : m.Leads height P Q :=
  fun c hc => ⟨0, .inl ⟨c, rfl, h c hc⟩⟩

theorem trans (hfirst : m.Leads height P Q) (hsecond : m.Leads height Q R) :
    m.Leads height P R := by
  intro c hc
  obtain ⟨first, ⟨c', hmoves, hc'⟩ | ⟨tape, hmoves, hlimit⟩⟩ := hfirst c hc
  · obtain ⟨second, ⟨c'', hmoves', hc''⟩ | ⟨tape, hmoves', hlimit⟩⟩ := hsecond c' hc'
    · refine ⟨first + second, .inl ⟨c'', ?_, hc''⟩⟩
      rw [moves_add, hmoves]
      exact hmoves'
    · rw [moves_limit hmoves] at hmoves' hlimit
      refine ⟨first + second, .inr ⟨tape, ?_, hlimit⟩⟩
      rw [moves_add, hmoves]
      exact hmoves'
  · exact ⟨first, .inr ⟨tape, hmoves, hlimit⟩⟩

theorem move (h : ∀ c, P c → ∃ c', m.move c = .ok c' ∧ Q c') : m.Leads height P Q := by
  intro c hc
  obtain ⟨c', hmove, hc'⟩ := h c hc
  exact ⟨1, .inl ⟨c', by simp only [moves, hmove], hc'⟩⟩

end Machine.Leads

namespace Config.Closes

variable {source : Source} {bases : List Draft} {d : Draft} {f g : Frame σ n}
  {below : List (Frame σ n)} {result : Option (List Tag)} {c : Config σ n}

theorem prepend {tags : List Tag} (h : c.Closes source bases f below (d.advanceAll tags) result) :
    c.Closes source bases f below d (result.map (tags ++ ·)) := by
  obtain ⟨f', d', hpolicy, hbranched, hclean, hclosed⟩ := h
  refine ⟨f', d', hpolicy, hbranched, hclean, ?_⟩
  rcases result with _ | more
  · exact hclosed
  · obtain ⟨hstands, hd'⟩ := hclosed
    refine ⟨hstands, ?_⟩
    rw [hd', ← Draft.advanceAll_append]

theorem of_completed {p : Production σ} {tags : List Tag} (hclean : p.cleanup = [])
    (h : c.Stands source bases { f with production := p } below (d.advanceAll tags) .completed) :
    c.Closes source bases f below d (some (tags ++ f.closing false)) := by
  refine ⟨{ f with production := p }, _, rfl, rfl, hclean, h, ?_⟩
  rw [Draft.advanceAll_append]
  rfl

theorem of_failed {p : Production σ} {d' : Draft} (hclean : p.cleanup = [])
    (h : c.Stands source bases { f with production := p } below d' .failed) :
    c.Closes source bases f below d none :=
  ⟨{ f with production := p }, d', rfl, rfl, hclean, h⟩

end Config.Closes

theorem Machine.Leads.answered {α : Type} {m : Machine σ n} {height : Nat} {P : Config σ n → Prop}
    {source : Source} {bases : List Draft} {f : Frame σ n} {below : List (Frame σ n)}
    {d d' : Draft} {p : Production σ} {found : Option α} {tags : α → List Tag}
    {result : α → Option (List Tag)}
    (h : m.Leads height P (Config.Answered source bases { f with production := p } below d false
      (found.map tags))) (hclean : p.cleanup = [])
    (hsome : ∀ x, found = some x → m.Leads height
      (Config.Stands source bases { f with production := p } below (d.advanceAll (tags x))
        (.value true)) (Config.Closes source bases f below d' (result x))) :
    m.Leads height P (Config.Closes source bases f below d' (found.bind result)) := by
  refine h.trans ?_
  rcases found with _ | x
  · apply Machine.Leads.refl
    rintro c ⟨d'', hstands⟩
    exact Config.Closes.of_failed hclean hstands
  · exact hsome x rfl

namespace Config.Stands

variable {m : Machine σ n} {height : Nat} {source : Source} {bases : List Draft} {base d : Draft}
  {f g : Frame σ n} {below : List (Frame σ n)} {matched tail : Bool} {a : Attempt}
  {p : Production σ} {c : Config σ n} {next : Signal}

omit [Stepper σ] in
theorem exists_frames (h : c.Stands source bases f below d next) :
    ∃ top rest, c.frames = top :: rest ∧ top.unstarted = f ∧ rest.map Frame.unstarted = below := by
  have hframes := h.frames
  rcases hc : c.frames with _ | ⟨top, rest⟩
  · simp [hc] at hframes
  · rw [hc] at hframes
    obtain ⟨htop, hrest⟩ := List.cons.inj hframes
    exact ⟨top, rest, rfl, htop, hrest⟩

theorem move_asks (h : c.Stands source bases f below d (.value matched))
    {instruction : Instruction} (hasks : f.production.Asks d.cursor matched instruction tail p) :
    ∃ top rest, c.frames = top :: rest ∧ top.unstarted = f ∧ rest.map Frame.unstarted = below ∧
      m.move c = m.obey { c with frames := { top with production := p } :: rest }
        { top with production := p } rest instruction tail := by
  obtain ⟨top, rest, hframes, htop, hrest⟩ := h.exists_frames
  refine ⟨top, rest, hframes, htop, hrest, ?_⟩
  have hsignal := h.flow
  rcases hflow : c.flow with value | failed
  · rw [hflow] at hsignal
    have hstep := hasks value (Signal.value.inj hsignal)
    rw [← htop, ← h.tape] at hstep
    have hproduction : top.unstarted.production = top.production := rfl
    rw [hproduction] at hstep
    simp only [Machine.move, hframes, hflow, Machine.stepTop, hstep]
    cases tail <;> rfl
  · rw [hflow] at hsignal
    cases failed <;> cases hsignal

theorem sound_move {c' : Config σ n} (h : c.Stands source bases f below d next)
    (hmove : m.move c = .ok c') {frames : List (Frame σ n)}
    (hframes : c'.frames.map Frame.unstarted = frames) :
    c'.Sound source ((d :: bases).drop (below.length + 2 - frames.length)) := by
  have hbefore : c.frames.length = below.length + 1 := by
    rw [← @List.length_map _ _ c.frames Frame.unstarted, h.frames, List.length_cons]
  have hafter : c'.frames.length = frames.length := by
    rw [← hframes, List.length_map]
  have hmoved := h.sound.moved hmove
  rwa [hbefore, hafter, h.tape] at hmoved

theorem of_move {c' : Config σ n} {d' : Draft} (h : c.Stands source bases f below d next)
    (hmove : m.move c = .ok c') (hframes : c'.frames.map Frame.unstarted = g :: below)
    (htape : c'.tape = d') {next' : Signal} (hsignal : c'.flow.signal = next')
    (hemptied : next' = .failed → c'.emptied = none) :
    c'.Stands source bases g below d' next' := by
  have hsound := h.sound_move hmove hframes
  have hcount : below.length + 2 - (g :: below).length = 1 := by
    rw [List.length_cons]
    omega
  rw [hcount] at hsound
  exact ⟨hsound, hframes, htape, hsignal, hemptied⟩

/-- A matching instruction follows its plan, which depends neither on the start of the active frame
nor on its production. -/
theorem move_plan (h : c.Stands source bases f below d (.value matched))
    (hasks : f.production.Asks d.cursor matched (.attempt a) tail p) {plan : Plan σ n}
    (hplan : m.plan d f a tail = .ok plan) :
    ∃ top rest, c.frames = top :: rest ∧ top.unstarted = f ∧ rest.map Frame.unstarted = below ∧
      m.move c = Machine.follow { c with frames := { top with production := p } :: rest }
        { top with production := p } rest a.verb.policy tail plan := by
  obtain ⟨top, rest, hframes, htop, hrest, hmove⟩ := @move_asks _ _ _ m _ _ _ _ _ _ _ _ _ h _ hasks
  have hsame : m.plan d { top with production := p } a tail = .ok plan := by
    rw [← hplan]
    exact m.plan_congr d (congrArg Frame.scope htop) (congrArg Frame.isNode htop)
      (congrArg Frame.isFragment htop) (congrArg Frame.slot htop) a tail
  refine ⟨top, rest, hframes, htop, hrest, ?_⟩
  rw [hmove]
  simp only [Machine.obey, h.tape, hsame]

theorem place (hasks : f.production.Asks d.cursor matched (.attempt a) tail p) {tags : List Tag}
    {value : Option (String × Position)} (hplan : m.plan d f a tail = .ok (.place tags value)) :
    m.Leads height (Stands source bases f below d (.value matched))
      (Stands source bases { f with production := p } below
        (d.advanceAll (if a.verb.policy.keeps then tags else []))
        (.next value.isSome tail)) := by
  refine .move ?_
  intro c h
  obtain ⟨top, rest, hframes, htop, hrest, hmove⟩ := h.move_plan hasks hplan
  refine ⟨_, hmove, h.of_move hmove ?_ ?_ ?_ ?_⟩
  · simp only [Config.write, map_unstarted_captured, List.map_cons, hrest, ← htop]
    rfl
  · simp only [Config.write, h.tape]
  · rw [Signal.next_signal, Option.isSome_map]
  · exact fun hfailed => absurd hfailed (Signal.next_ne_failed _ _)

theorem miss (hasks : f.production.Asks d.cursor matched (.attempt a) tail p)
    (hplan : m.plan d f a tail = .ok (.miss none)) :
    m.Leads height (Stands source bases f below d (.value matched))
      (Stands source bases { f with production := p } below d
        (if a.verb.policy.absorbs then .next false tail else .failed)) := by
  refine .move ?_
  intro c h
  obtain ⟨top, rest, hframes, htop, hrest, hmove⟩ := h.move_plan hasks hplan
  refine ⟨_, hmove, h.of_move hmove ?_ h.tape ?_ (fun _ => rfl)⟩
  · simp only [List.map_cons, hrest, ← htop]
    rfl
  · split
    · exact Signal.next_signal none tail
    · rfl

theorem match_text (hasks : f.production.Asks d.cursor matched (.attempt a) tail p)
    (hhold : a.verb.isHold = false) {r : Recognizer} (hr : a.goal.recognizer? = some r)
    {text : String} (hfound : Tape.recognize d r = .ok (some text)) :
    m.Leads height (Stands source bases f below d (.value matched))
      (Stands source bases { f with production := p } below
        (d.advanceAll (if a.verb.policy.keeps then textTags text else [])) (.next true tail)) := by
  obtain ⟨stop, hplan⟩ := @Machine.plan_text _ _ _ _ m d f a tail _ _ hhold hr hfound
  exact place hasks hplan

theorem miss_text (hasks : f.production.Asks d.cursor matched (.attempt a) tail p)
    (hhold : a.verb.isHold = false) {r : Recognizer} (hr : a.goal.recognizer? = some r)
    (hfound : Tape.recognize d r = .ok none) :
    m.Leads height (Stands source bases f below d (.value matched))
      (Stands source bases { f with production := p } below d
        (if a.verb.policy.absorbs then .next false tail else .failed)) := by
  obtain ⟨_, hplan⟩ := @Machine.plan_text _ _ _ _ m d f a tail _ _ hhold hr hfound
  exact miss hasks hplan

theorem ends (hends : f.production.Ends d.cursor matched p) :
    m.Leads height (Stands source bases f below d (.value matched))
      (Stands source bases { f with production := p } below d .completed) := by
  refine .move ?_
  intro c h
  obtain ⟨top, rest, hframes, htop, hrest⟩ := h.exists_frames
  have hsignal := h.flow
  rcases hflow : c.flow with value | failed
  · rw [hflow] at hsignal
    have hstep := hends value (Signal.value.inj hsignal)
    rw [← htop, ← h.tape] at hstep
    have hmove : m.move c = .ok { c with
        frames := { top with production := p } :: rest, flow := .complete false } := by
      have hproduction : top.unstarted.production = top.production := rfl
      rw [hproduction] at hstep
      simp only [Machine.move, hframes, hflow, Machine.stepTop, hstep]
    refine ⟨_, hmove, h.of_move hmove ?_ h.tape rfl (fun h => by cases h)⟩
    simp only [List.map_cons, hrest, ← htop]
    rfl
  · rw [hflow] at hsignal
    cases failed <;> cases hsignal

theorem push (hasks : f.production.Asks d.cursor matched (.attempt a) false p) {e : Entry σ n}
    (hplan : m.plan d f a false = .ok (.enter e)) (hheight : below.length + 2 ≤ height) :
    m.Leads height (Stands source bases f below d (.value matched))
      (Stands source (d :: bases) (e.pushed below.length) ({ f with production := p } :: below)
        ((d.branchIf e.frame.policy.branches).advanceAll
          (e.tags (d.branchIf e.frame.policy.branches)))
        (.value false)) := by
  have hfits := Machine.plan_enter hplan
  have hreplaces : e.replaces = false := by
    rw [← Bool.not_eq_true]
    intro hreplaces
    cases (hfits.replaces hreplaces).1
  have hreturns : e.returns = false := by rw [hfits.returns, Bool.false_and]
  intro c h
  obtain ⟨top, rest, hframes, htop, hrest, hmove⟩ := h.move_plan hasks hplan
  have hlength : rest.length = below.length := by rw [← hrest, List.length_map]
  simp only [Machine.follow, Config.enter, Config.push, hreplaces, hreturns, Bool.false_eq_true,
    if_false, Bool.false_or, hlength, h.tape] at hmove
  by_cases hlimit : c.limit ≤ below.length + 1
  · simp only [if_pos hlimit] at hmove
    exact ⟨1, .inr ⟨d, by simp only [Machine.moves, hmove], by omega⟩⟩
  · simp only [if_neg hlimit] at hmove
    refine ⟨1, .inl ⟨_, by simp only [Machine.moves, hmove]; rfl, ?_⟩⟩
    have hpushed : (e.pushed below.length).unstarted = e.pushed below.length := by
      simp only [Frame.unstarted, Entry.pushed, hfits.capture]
    have hframes' : ∀ mark tags,
        (captured mark tags (e.pushed below.length :: { top with production := p } :: rest)).map
          Frame.unstarted = e.pushed below.length :: { f with production := p } :: below := by
      intro mark tags
      rw [map_unstarted_captured, List.map_cons, List.map_cons, hpushed, hrest, ← htop]
      rfl
    have hsound := h.sound_move hmove (hframes' _ _)
    have hcount : below.length + 2 -
        (e.pushed below.length :: { f with production := p } :: below).length = 0 := by
      simp only [List.length_cons]
      omega
    rw [hcount] at hsound
    exact ⟨hsound, hframes' _ _, rfl, rfl, fun h => by cases h⟩

theorem splice (hasks : f.production.Asks d.cursor matched (.attempt a) true p) {e : Entry σ n}
    (hplan : m.plan d f a true = .ok (.enter e)) (hreplaces : e.replaces = true)
    (hclean : p.cleanup = []) :
    m.Leads height (Stands source bases f below d (.value matched))
      (Stands source bases (e.spliced f) below (d.advanceAll (e.tags d)) (.value false)) := by
  have hfits := Machine.plan_enter hplan
  refine .move ?_
  intro c h
  obtain ⟨top, rest, hframes, htop, hrest, hmove⟩ := h.move_plan hasks hplan
  have hfinish : ({ top with production := p } : Frame σ n).finish d = .ok d := by
    simp only [Frame.finish, hclean, Draft.clean]
  simp only [Machine.follow, Config.enter, Config.push, hreplaces, if_true, h.tape, hfinish]
    at hmove
  refine ⟨_, hmove, h.of_move hmove ?_ rfl rfl (fun h => by cases h)⟩
  simp only [Config.write, map_unstarted_captured, List.map_cons, hrest, ← htop, Entry.spliced,
    hfits.capture, Frame.unstarted]

theorem move_finish {failed : Bool}
    (h : c.Stands source bases f below d (if failed then .failed else .completed))
    (hclean : f.production.cleanup = []) :
    ∃ top rest, c.frames = top :: rest ∧ top.unstarted = f ∧ rest.map Frame.unstarted = below ∧
      (∀ d, top.finish d = .ok d) ∧ m.move c = c.finishTop top rest failed := by
  obtain ⟨top, rest, hframes, htop, hrest⟩ := h.exists_frames
  refine ⟨top, rest, hframes, htop, hrest, ?_, ?_⟩
  · intro d
    have hproduction : top.production = f.production := by
      rw [← htop]
      rfl
    simp only [Frame.finish, hproduction, hclean, Draft.clean]
  · have hsignal := h.flow
    simp only [Machine.move, hframes]
    rcases hflow : c.flow with value | failed'
    · rw [hflow] at hsignal
      cases failed <;> cases hsignal
    · rw [hflow] at hsignal
      cases failed <;> cases failed' <;> first | rfl | cases hsignal

/-- The finished frame lies over another one. -/
theorem move_finish_over {failed : Bool}
    (h : c.Stands source (base :: bases) f (g :: below) d (if failed then .failed else .completed))
    (hclean : f.production.cleanup = []) :
    ∃ top under rest, top.unstarted = f ∧ under.unstarted = g ∧
      (under :: rest).map Frame.unstarted = g :: below ∧
      Layers source (top :: under :: rest) (base :: bases) d ∧ top.parent = some rest.length ∧
      (∀ d, top.finish d = .ok d) ∧ m.move c = c.finishTop top (under :: rest) failed := by
  obtain ⟨top, rest, hframes, htop, hrest, hfinish, hmove⟩ := h.move_finish hclean
  obtain ⟨under, rest, rfl, hunder, -⟩ := List.map_eq_cons_iff.mp hrest
  have hlayers := h.sound.layers
  rw [hframes, h.tape] at hlayers
  have hparent : top.parent = some rest.length := by
    cases hlayers
    assumption
  exact ⟨top, under, rest, htop, hunder, hrest, hlayers, hparent, hfinish, hmove⟩

omit [Stepper σ] in
theorem not_empty {top g : Frame σ n} {rest : List (Frame σ n)}
    (h : Layers source (top :: g :: rest) (base :: bases) d) (hmoved : d.position ≠ base.position) :
    top.capture.isEmptyAt d.position = false := by
  cases h with
  | cons hbelow hover _ _ _ _ hfaithful =>
      rcases hstart : top.capture.start with _ | start
      · obtain ⟨hsame, -⟩ := hfaithful.congr hbelow.faithful hover.grown.source
          (hover.unstarted hstart)
        exact absurd hsame hmoved
      · have hmark := hover.started start hstart
        simp only [Capture.isEmptyAt, hstart, Option.all_some, hmark]
        exact decide_eq_false (fun hsame => hmoved hsame.symm)

theorem of_leave {c' : Config σ n} (h : c.Stands source (base :: bases) f (g :: below) d next)
    (hmove : m.move c = .ok c') {rest : List (Frame σ n)}
    (hrest : rest.map Frame.unstarted = g :: below) (hleft : c'.frames = rest) {next' : Signal}
    (hsignal : c'.flow.signal = next')
    (hemptied : next' = .failed → c'.emptied = none) :
    c'.Stands source bases g below c'.tape next' := by
  rw [← hleft] at hrest
  have hsound := h.sound_move hmove hrest
  have hcount : (g :: below).length + 2 - (g :: below).length = 2 := by omega
  rw [hcount] at hsound
  exact ⟨hsound, hrest, rfl, hsignal, hemptied⟩

theorem leave (hclean : f.production.cleanup = []) (hmoved : d.position ≠ base.position)
    (hwaits : g.returning = false) :
    m.Leads height (Stands source (base :: bases) f (g :: below) d .completed)
      (Stands source bases g below (f.settle false (d.advanceAll (f.closing false)))
        (.value true)) := by
  refine .move ?_
  intro c h
  obtain ⟨top, next, rest, htop, hnext, hrest, hlayers, hparent, hfinish, hmove⟩ :=
    @move_finish_over _ _ _ m _ _ _ _ _ _ _ _ false h hclean
  have hfails : top.fails false d.position = false := by
    simp only [Frame.fails, not_empty hlayers hmoved, Bool.false_and, Bool.or_self]
  have hwaits' : next.returning = false := (congrArg Frame.returning hnext).trans hwaits
  obtain ⟨value, hvalue⟩ : ∃ value,
      top.valueAt false (d.advanceAll (top.closing false)) = some value := ⟨_, rfl⟩
  have hleft : m.move c = .ok { c with
      frames := next :: rest
      tape := top.settle false (d.advanceAll (top.closing false))
      flow := .resume (some value) } := by
    rw [hmove]
    simp only [Config.finishTop, h.tape, hfails, hlayers.running, Option.isSome_none,
      Bool.and_false, Bool.false_eq_true, if_false, hfinish, hparent, Option.isNone_some,
      Config.resumeBelow, Bool.false_and, hwaits', hvalue]
  have hstands := h.of_leave hleft hrest rfl rfl (fun h => by cases h)
  refine ⟨_, hleft, ?_⟩
  rw [← htop]
  exact hstands

theorem hand_down (hclean : f.production.cleanup = []) (hpolicy : f.policy.absorbs = false) :
    m.Leads height (Stands source (base :: bases) f (g :: below) d .failed)
      (fun c => ∃ d', c.Stands source bases g below d' .failed) := by
  refine .move ?_
  intro c h
  obtain ⟨top, next, rest, htop, -, hrest, -, hparent, hfinish, hmove⟩ :=
    @move_finish_over _ _ _ m _ _ _ _ _ _ _ _ true h hclean
  have hpolicy' : top.policy.absorbs = false :=
    (congrArg (fun f => f.policy.absorbs) htop).trans hpolicy
  have hleft : m.move c = .ok { c with
      frames := next :: rest, tape := top.settle true d, flow := .complete true } := by
    rw [hmove]
    simp only [Config.finishTop, h.tape, Frame.fails, Frame.closing, Draft.advanceAll_nil, if_true,
      Bool.true_or, Bool.not_true, Bool.and_false, Bool.false_and, Bool.false_eq_true, if_false,
      hfinish, hparent, Option.isNone_some, Config.resumeBelow, hpolicy', Bool.not_false,
      Bool.and_self]
  exact ⟨_, hleft, _, h.of_leave hleft hrest rfl rfl (fun _ => h.emptied rfl)⟩

theorem absorb (hclean : f.production.cleanup = []) (hpolicy : f.policy.absorbs = true)
    (hwaits : g.returning = false) :
    m.Leads height (Stands source (base :: bases) f (g :: below) d .failed)
      (Stands source bases g below base (.value false)) := by
  refine .move ?_
  intro c h
  obtain ⟨top, next, rest, htop, hnext, hrest, hlayers, hparent, hfinish, hmove⟩ :=
    @move_finish_over _ _ _ m _ _ _ _ _ _ _ _ true h hclean
  have hwaits' : next.returning = false := (congrArg Frame.returning hnext).trans hwaits
  have hpolicy' : top.policy.absorbs = true :=
    (congrArg (fun f => f.policy.absorbs) htop).trans hpolicy
  have hsettle : top.settle true d = base := by
    cases hlayers with
    | cons _ hover _ _ _ _ _ =>
        have hbranched : top.branched = true := by
          rw [hover.branched, Policy.branches, hpolicy', Bool.or_true]
        rw [← hover.reject_eq hbranched]
        simp only [Frame.settle, hbranched, if_true, Bool.true_or]
        rfl
  have hleft : m.move c = .ok { c with
      frames := next :: rest, tape := base, flow := .resume none } := by
    rw [hmove]
    simp only [Config.finishTop, h.tape, Frame.fails, Frame.closing, Draft.advanceAll_nil, if_true,
      Bool.true_or, Bool.not_true, Bool.and_false, Bool.false_and, Bool.false_eq_true, if_false,
      hfinish, hparent, Option.isNone_some, Config.resumeBelow, hpolicy', hsettle, hwaits',
      Frame.valueAt]
  exact ⟨_, hleft, h.of_leave hleft hrest rfl rfl (fun h => by cases h)⟩

/-- An attempt that enters a rule has the result of that rule. -/
theorem call (hasks : f.production.Asks d.cursor matched (.attempt a) false p) {e : Entry σ n}
    (hplan : m.plan d f a false = .ok (.enter e)) (hheight : below.length + 2 ≤ height)
    (hkeeps : a.verb.policy.keeps = true) (hwaits : f.returning = false)
    {result : Option (List Tag)}
    (hmoved : ∀ tags, result = some tags → Stream.symbols (e.tags d ++ tags) ≠ [])
    (hbody : ∀ d', d' = (d.branchIf e.frame.policy.branches).advanceAll (e.tags d) →
      m.Leads height
        (Stands source (d :: bases) (e.pushed below.length) ({ f with production := p } :: below)
          d' (.value false))
        (Closes source (d :: bases) (e.pushed below.length) ({ f with production := p } :: below)
          d' result)) :
    m.Leads height (Stands source bases f below d (.value matched))
      (Answered source bases { f with production := p } below d a.verb.policy.absorbs
        (result.map (e.tags d ++ ·))) := by
  have hfits := Machine.plan_enter hplan
  have hpushed := @push _ _ _ m height source bases _ _ below _ _ _ hasks _ hplan hheight
  rw [e.tags_branchIf] at hpushed
  refine (hpushed.trans (hbody _ rfl)).trans ?_
  rintro c ⟨f', d', hpolicy, hbranched, hclean, hclosed⟩
  have hpolicy' : f'.policy = a.verb.policy := hpolicy.trans hfits.policy
  have hwaits' : ({ f with production := p } : Frame σ n).returning = false := hwaits
  rcases result with _ | tags
  · by_cases habsorbs : a.verb.policy.absorbs = true
    · simp only [Option.map_none, Answered, habsorbs, if_true]
      exact absorb hclean (by rw [hpolicy', habsorbs]) hwaits' c hclosed
    · simp only [Option.map_none, Answered, habsorbs, Bool.false_eq_true, if_false]
      rw [Bool.not_eq_true] at habsorbs
      exact hand_down hclean (by rw [hpolicy', habsorbs]) c hclosed
  · obtain ⟨hclosed, hd'⟩ := hclosed
    have hbranched' : f'.branched = e.frame.policy.branches := by
      rw [hbranched, Entry.pushed, hfits.branched, Bool.or_false]
    rw [← hbranched', ← Draft.advanceAll_append] at hd'
    have hposition : d'.position ≠ d.position := by
      rw [← d'.advanceAll_position_eq (f'.symbols_closing false), hd']
      have hne := (d.branchIf f'.branched).advanceAll_position_ne (hmoved tags rfl)
      have hbranch : (d.branchIf f'.branched).position = d.position := by
        unfold Draft.branchIf
        split <;> rfl
      rwa [hbranch] at hne
    have hleave := @leave _ _ _ m height source bases d d' f' _ below hclean hposition hwaits'
    rw [hd', Frame.settle_branchIf (by rw [hpolicy', hkeeps])] at hleave
    exact hleave c hclosed

omit [Stepper σ] in
theorem fragment (h : c.Stands source [] f [] d next) {top : Frame σ n}
    (hframes : c.frames = [top]) :
    top.parent = none ∧ top.branched = false ∧ d.branches = [] ∧ top.capture.stop = none := by
  have hlayers := h.sound.layers
  rw [hframes, h.tape] at hlayers
  cases hlayers with
  | fragment _ hparent _ hbranched _ hstop _ hbranches _ =>
      exact ⟨hparent, hbranched, hbranches, hstop⟩

/-- The run ends with the outermost frame, and is accepted if nothing of the input is left. -/
theorem halt_completed (h : c.Stands source [] f [] d .completed)
    (hclean : f.production.cleanup = []) (hempty : f.allowEmpty = true) :
    ∃ outcome, m.move c = .error (d.advanceAll (f.closing false), outcome) ∧
      if d.cursor.done then ∃ extent, outcome = .accepted extent
      else ∃ offset size, outcome = .rejected (.incomplete offset size) := by
  obtain ⟨top, rest, hframes, htop, hrest, hfinish, hmove⟩ :=
    @move_finish _ _ _ m _ _ _ _ _ _ false h hclean
  obtain rfl := List.map_eq_nil_iff.mp hrest
  obtain ⟨hparent, hbranched, hbranches, hstop⟩ := h.fragment hframes
  have hempty' : top.allowEmpty = true := (congrArg Frame.allowEmpty htop).trans hempty
  have hclosing : top.closing false = f.closing false := by
    rw [← htop]
    rfl
  have hcursor : (d.advanceAll (f.closing false)).cursor = d.cursor := by
    have hposition := d.advanceAll_position_eq (f.symbols_closing false)
    simp only [Draft.cursor, Draft.nextGap?, hposition, Draft.advanceAll_source]
    rfl
  refine ⟨Config.conclude (d.advanceAll (f.closing false)) 0
    (top.valueAt false (d.advanceAll (f.closing false))) false c.emptied d.position.offset,
    hmove.trans ?_, ?_⟩
  · simp only [Config.finishTop, h.tape, Frame.fails, hempty', Bool.not_true, Bool.and_false,
      Bool.or_self, hstop, Option.isSome_none, Bool.false_eq_true, if_false, hclosing, hfinish,
      hparent, Option.isNone_none, if_true, Frame.settle, hbranched, List.length_nil,
      Bool.not_false, Bool.and_true]
  · simp only [Config.conclude, ne_eq, not_true_eq_false, if_false, Draft.advanceAll_branches,
      hbranches, List.length_nil, Bool.false_eq_true, hcursor]
    cases d.cursor.done
    · exact ⟨_, _, rfl⟩
    · exact ⟨_, rfl⟩

theorem halt_failed (h : c.Stands source [] f [] d .failed) (hclean : f.production.cleanup = []) :
    ∃ offset, m.move c = .error (d, .rejected (.failed offset)) := by
  obtain ⟨top, rest, hframes, htop, hrest, hfinish, hmove⟩ :=
    @move_finish _ _ _ m _ _ _ _ _ _ true h hclean
  obtain rfl := List.map_eq_nil_iff.mp hrest
  obtain ⟨hparent, hbranched, hbranches, -⟩ := h.fragment hframes
  refine ⟨d.position.offset, hmove.trans ?_⟩
  simp only [Config.finishTop, h.tape, Frame.fails, Bool.true_or, Bool.not_true, Bool.and_false,
    Bool.false_and, Bool.false_eq_true, if_false, Frame.closing, if_true, Draft.advanceAll_nil,
    hfinish, hparent, Option.isNone_none, Frame.settle, hbranched, Config.conclude, List.length_nil,
    ne_eq, not_true_eq_false, hbranches, h.emptied rfl]

end Config.Stands

theorem Machine.Leads.halts {m : Machine σ n} {height : Nat} {P Q : Config σ n → Prop}
    {R : Draft → Outcome → Prop} (h : m.Leads height P Q)
    (hhalt : ∀ c, Q c → ∃ tape outcome, m.move c = .error (tape, outcome) ∧ R tape outcome)
    {c : Config σ n} (hc : P c) :
    ∃ count tape outcome, m.moves count c = .error (tape, outcome) ∧
      (R tape outcome ∨ outcome = .rejected (.depthExceeded c.limit) ∧ c.limit < height) := by
  obtain ⟨count, ⟨c', hmoves, hc'⟩ | ⟨tape, hmoves, hlimit⟩⟩ := h c hc
  · obtain ⟨tape, outcome, hmove, hR⟩ := hhalt c' hc'
    refine ⟨count + 1, tape, outcome, ?_, .inl hR⟩
    rw [moves_add, hmoves]
    simp only [moves, hmove]
  · exact ⟨count, tape, _, hmoves, .inr ⟨rfl, hlimit⟩⟩

end Rules

end GrammarMachine
