import GrammarMachine.Proofs.Language.Index
import GrammarMachine.Proofs.Machine.Writes

/-!
Language scopes. The scope of a frame begins with the language of the frame and ends with that of
the nearest node at or below it; all of its languages can be reached from the root language. So a
goal without a language means the language of the production that asks for it, and all nodes are
opened in languages that can be reached.
-/

namespace GrammarMachine

variable {σ : Type} {n : Nat} {T : Type}

section Resolution

open LanguageIndex

variable {catalog : Catalog σ n} {root l : Fin n} {scope : List (Fin n)}

theorem reachable_of_inScope? {reference : String} (hscope : ∀ k ∈ scope, catalog.Reachable root k)
    (h : inScope? catalog reference scope = some l) : catalog.Reachable root l := by
  induction scope with
  | nil => cases h
  | cons k outer ih =>
      have hk := hscope k List.mem_cons_self
      rw [inScope?] at h
      split at h
      · cases h
        exact hk
      · split at h
        · rename_i hfound
          cases h
          obtain ⟨before, after, hdependencies, -⟩ := List.lookup_eq_some_iff.mp hfound
          have hmem : (reference, l) ∈ (catalog k).dependencies := by
            rw [hdependencies]
            exact List.mem_append_right _ List.mem_cons_self
          exact .dependency hk hmem
        · exact ih (fun k hk => hscope k (List.mem_cons_of_mem _ hk)) h

theorem reachable_of_resolve {reference : Option String}
    (hscope : ∀ k ∈ scope, catalog.Reachable root k)
    (h : (ofRoot catalog root).resolve catalog scope reference = .ok l) :
    catalog.Reachable root l := by
  unfold resolve at h
  split at h
  · cases h
    rcases scope with _ | ⟨k, outer⟩
    · exact .root
    · exact hscope k List.mem_cons_self
  · split at h
    · rename_i hfound
      cases h
      exact reachable_of_inScope? hscope hfound
    · split at h
      · rename_i hfound
        cases h
        exact reachable_of_get? hfound
      · cases h

end Resolution

/-- A production that another one has become in some steps. -/
inductive Production.Evolves [Stepper σ] (p : Production σ) : Production σ → Prop where
  | refl : Evolves p p
  | step {q : Production σ} (cursor : Cursor) (value : Option Extent) : Evolves p q →
      Evolves p (q.step cursor value).2

namespace Machine

section Frames

variable {m : Machine σ n} {f f' top : Frame σ n} {below rest : List (Frame σ n)}

/-- The language of the nearest node among frames, the active one first; without a node the root
language. -/
def home (m : Machine σ n) : List (Frame σ n) → Fin n
  | [] => m.language
  | f :: below => if f.isNode then f.language else m.home below

/-- The scope of a frame over the frames below it. -/
structure Scoped (m : Machine σ n) (f : Frame σ n) (below : List (Frame σ n)) : Prop where
  innermost : f.scope.head? = some f.language
  outermost : f.scope.getLast? = some (m.home (f :: below))
  reachable : ∀ l ∈ f.scope, m.catalog.Reachable m.language l

theorem home_map_unstarted (m : Machine σ n) (frames : List (Frame σ n)) :
    m.home (frames.map Frame.unstarted) = m.home frames := by
  induction frames with
  | nil => rfl
  | cons f below ih =>
      simp only [List.map_cons, home, ih]
      rfl

/-- The scope of a rule that is entered from a frame of a transparent rule ends as that one does. -/
theorem Scoped.scopeFor (h : m.Scoped top rest) {place : Fin n}
    (hplace : m.catalog.Reachable m.language place) (isNode : Bool) :
    (top.scopeFor place isNode).head? = some place ∧
      (top.scopeFor place isNode).getLast? =
        some (if isNode then place else m.home (top :: rest)) ∧
      ∀ l ∈ top.scopeFor place isNode, m.catalog.Reachable m.language l := by
  unfold Frame.scopeFor
  rcases isNode with _ | _
  · simp only [Bool.false_eq_true, if_false]
    split
    · rename_i hsame
      exact ⟨hsame, h.outermost, h.reachable⟩
    · refine ⟨rfl, ?_, ?_⟩
      · rw [List.getLast?_cons, h.outermost]
        rfl
      · intro l hl
        rcases List.mem_cons.mp hl with rfl | hl
        · exact hplace
        · exact h.reachable l hl
  · refine ⟨rfl, rfl, ?_⟩
    intro l hl
    cases List.mem_singleton.mp hl
    exact hplace

theorem Scoped.resolve_none (h : m.Scoped top rest) :
    m.index.resolve m.catalog top.scope none = .ok top.language := by
  simp only [LanguageIndex.resolve, h.innermost, Option.getD_some]

end Frames

section Productions

variable [Stepper σ] {m : Machine σ n} {props : Option Json} {events later : List Event}
  {f top : Frame σ n} {below rest : List (Frame σ n)}

/-- The production of a frame comes from the rule of its type in its language, invoked with its
number, or it is that of the outermost frame. -/
inductive Stems (m : Machine σ n) (props : Option Json) (events : List Event) (f : Frame σ n) :
    Prop where
  | outermost : f.language = m.language →
      (m.fragmentFrame props).production.Evolves f.production → Stems m props events f
  | invoked {rule : Rule σ} {invocation : Invocation} :
      (m.catalog f.language).grammar.rule? f.nodeType = some rule →
      .invoked f.serial invocation ∈ events →
      invocation.language = (m.catalog f.language).url → invocation.nodeType = f.nodeType →
      (rule invocation).Evolves f.production → Stems m props events f

/-- A frame over the frames below it, with a scope and a production of its language. -/
structure Native (m : Machine σ n) (props : Option Json) (events : List Event) (f : Frame σ n)
    (below : List (Frame σ n)) : Prop where
  scope : m.Scoped f below
  production : m.Stems props events f

namespace Native

theorem mono (h : m.Native props events f below) (hevents : events ⊆ later) :
    m.Native props later f below := by
  refine ⟨h.scope, ?_⟩
  cases h.production with
  | outermost hlanguage hevolves => exact .outermost hlanguage hevolves
  | invoked hrule hinvoked hlanguage htype hevolves =>
      exact .invoked hrule (hevents hinvoked) hlanguage htype hevolves

theorem congr {f' : Frame σ n} {below' : List (Frame σ n)} (h : m.Native props events f below)
    (hlanguage : f'.language = f.language) (htype : f'.nodeType = f.nodeType)
    (hserial : f'.serial = f.serial) (hproduction : f'.production = f.production)
    (hscope : f'.scope = f.scope) (hhome : m.home (f' :: below') = m.home (f :: below)) :
    m.Native props events f' below' := by
  refine ⟨⟨?_, ?_, ?_⟩, ?_⟩
  · rw [hscope, hlanguage]
    exact h.scope.innermost
  · rw [hscope, hhome]
    exact h.scope.outermost
  · rw [hscope]
    exact h.scope.reachable
  · cases h.production with
    | outermost hroot hevolves =>
        exact .outermost (hlanguage.trans hroot) (hproduction ▸ hevolves)
    | invoked hrule hinvoked hurl hnodeType hevolves =>
        refine .invoked ?_ (hserial ▸ hinvoked) ?_ (hnodeType.trans htype.symm)
          (hproduction ▸ hevolves)
        · rw [hlanguage, htype]
          exact hrule
        · rw [hlanguage]
          exact hurl

theorem step (h : m.Native props events f below) (cursor : Cursor) (value : Option Extent)
    (returning : Bool) :
    m.Native props events
      { f with production := (f.production.step cursor value).2, returning } below := by
  refine ⟨⟨h.scope.innermost, h.scope.outermost, h.scope.reachable⟩, ?_⟩
  cases h.production with
  | outermost hlanguage hevolves => exact .outermost hlanguage (hevolves.step cursor value)
  | invoked hrule hinvoked hlanguage htype hevolves =>
      exact .invoked hrule hinvoked hlanguage htype (hevolves.step cursor value)

theorem enter [Tape T] {tape : T} {a : Attempt} {tail : Bool} {e : Entry σ n}
    (h : m.Native props events top rest) (hplan : m.plan tape top a tail = .ok (.enter e))
    {f : Frame σ n} (hlanguage : f.language = e.frame.language) (hscope : f.scope = e.frame.scope)
    (htype : f.nodeType = e.frame.nodeType) (hnode : f.isNode = e.frame.isNode)
    (hproduction : f.production = e.frame.production)
    (hinvoked : .invoked f.serial e.invocation ∈ events)
    (hbelow : m.home below = m.home (top :: rest)) : m.Native props events f below := by
  obtain ⟨node, slot, place, intrinsic, rule, -, hplace, -, hrule, rfl⟩ := plan_enter_resolved hplan
  have hreachable := reachable_of_resolve h.scope.reachable hplace
  obtain ⟨hinner, houter, hall⟩ := h.scope.scopeFor hreachable
    ((m.catalog place).grammar.isNode node.nodeType && !a.plain)
  refine ⟨⟨?_, ?_, ?_⟩, ?_⟩
  · rw [hscope, hlanguage]
    exact hinner
  · rw [hscope, home, hlanguage, hnode, hbelow]
    exact houter
  · rw [hscope]
    exact hall
  · have hrule' : (m.catalog f.language).grammar.rule? f.nodeType = some rule := by
      rw [hlanguage, htype]
      exact hrule
    refine .invoked hrule' hinvoked ?_ ?_ ?_
    · rw [hlanguage]
      rfl
    · rw [htype]
      rfl
    · rw [hproduction]
      exact .refl

end Native

/-- All frames have scopes and productions of their languages. -/
def AllNative (m : Machine σ n) (props : Option Json) (events : List Event)
    (frames : List (Frame σ n)) : Prop :=
  ∀ f below, f :: below <:+ frames → m.Native props events f below

theorem allNative_cons : m.AllNative props events (f :: below) ↔
    m.Native props events f below ∧ m.AllNative props events below := by
  constructor
  · intro h
    exact ⟨h f below (List.suffix_refl _),
      fun g low hlow => h g low (hlow.trans (List.suffix_cons f below))⟩
  · rintro ⟨htop, hbelow⟩ g low hlow
    rcases List.suffix_cons_iff.mp hlow with hsame | hlow
    · cases hsame
      exact htop
    · exact hbelow g low hlow

theorem AllNative.mono {frames : List (Frame σ n)} (h : m.AllNative props events frames)
    (hevents : events ⊆ later) : m.AllNative props later frames :=
  fun f below hbelow => (h f below hbelow).mono hevents

theorem native_unstarted : m.Native props events f.unstarted (below.map Frame.unstarted) ↔
    m.Native props events f below := by
  have hhome : m.home (f.unstarted :: below.map Frame.unstarted) = m.home (f :: below) :=
    m.home_map_unstarted (f :: below)
  constructor
  · intro h
    exact h.congr rfl rfl rfl rfl rfl hhome.symm
  · intro h
    exact h.congr rfl rfl rfl rfl rfl hhome

theorem allNative_map_unstarted {frames : List (Frame σ n)} :
    m.AllNative props events (frames.map Frame.unstarted) ↔ m.AllNative props events frames := by
  induction frames with
  | nil => rfl
  | cons f below ih => rw [List.map_cons, allNative_cons, allNative_cons, native_unstarted, ih]

end Productions

section Runs

variable [Stepper σ] [Tape T] {m : Machine σ n} {props : Option Json} {tape : T} {r r' : Run σ n T}

theorem Native.stepped {top : Frame σ n} {rest : List (Frame σ n)} {value : Option Extent}
    {step : Step} {production : Production σ} {events : List Event}
    (h : m.Native props events top rest) (hstepping : r.Stepping top rest value step production)
    (returning : Bool) : m.Native props events { top with production, returning } rest := by
  have hproduction : production = (top.production.step r.cursor value).2 := by
    rw [hstepping.step]
  rw [hproduction]
  exact h.step r.cursor value returning

theorem Turn.allNative {o : Outline σ n} (h : m.Turn r o)
    (hr : m.AllNative props r.outline.milestones r.stack.frames) :
    m.AllNative props o.milestones o.frames := by
  cases h with
  | @kept top rest value step production flow hstepping _ =>
      rw [hstepping.frames] at hr
      rw [allNative_map_unstarted]
      refine .mono ?_ (List.subset_cons_self _ _)
      obtain ⟨htop, hrest⟩ := allNative_cons.mp hr
      exact allNative_cons.mpr ⟨htop.stepped hstepping top.returning, hrest⟩
  | @pushed top rest value a tail production e hstepping hplan _ =>
      rw [hstepping.frames] at hr
      rw [allNative_map_unstarted]
      dsimp only
      generalize hevents : (if e.frame.policy.branches then [Event.performed .branch] else []) ++
        _ :: _ :: r.outline.milestones = events
      have hinvoked : .invoked r.productions e.invocation ∈ events := by simp [← hevents]
      have hsubset : r.outline.milestones ⊆ events := by
        intro event hevent
        simp [← hevents, hevent]
      obtain ⟨htop, hrest⟩ := allNative_cons.mp (hr.mono hsubset)
      refine allNative_cons.mpr ⟨?_, allNative_cons.mpr ⟨htop.stepped hstepping _, hrest⟩⟩
      exact htop.enter hplan rfl rfl rfl rfl rfl hinvoked rfl
  | @spliced top rest value a tail production e hstepping hplan hreplaces =>
      rw [hstepping.frames] at hr
      rw [allNative_map_unstarted]
      dsimp only
      generalize hevents : _ :: _ :: _ :: r.outline.milestones = events
      have hinvoked : .invoked r.productions e.invocation ∈ events := by simp [← hevents]
      have hsubset : r.outline.milestones ⊆ events := by
        intro event hevent
        simp [← hevents, hevent]
      obtain ⟨htop, hrest⟩ := allNative_cons.mp (hr.mono hsubset)
      -- The frame that is replaced is no node, so the nearest node lies below it.
      have hhome : m.home rest = m.home (top :: rest) := by
        obtain ⟨-, -, htransparent⟩ := (plan_enter hplan).replaces hreplaces
        simp only [Frame.isTransparent, Bool.and_eq_true, Bool.not_eq_true'] at htransparent
        rw [home, htransparent.1]
        rfl
      exact allNative_cons.mpr ⟨htop.enter hplan rfl rfl rfl rfl rfl hinvoked hhome, hrest⟩
  | @finished top below rest failed value hframes _ _ =>
      rw [hframes] at hr
      rw [allNative_map_unstarted]
      refine .mono (allNative_cons.mp hr).2 ?_
      intro event hevent
      simp [hevent]

/-- All frames of a run have scopes and productions of their languages. -/
theorem Reaches.allNative (h : m.Reaches tape props r) :
    m.AllNative props r.outline.milestones r.stack.frames := by
  refine h.induction ?_ ?_
  · intro first hfirst
    rw [← allNative_map_unstarted]
    change m.AllNative props first.outline.milestones first.outline.frames
    rw [start_outline hfirst]
    refine allNative_cons.mpr ⟨⟨⟨rfl, rfl, ?_⟩, .outermost rfl .refl⟩, ?_⟩
    · intro l hl
      cases List.mem_singleton.mp hl
      exact .root
    · intro f below hbelow
      cases List.suffix_nil.mp hbelow
  · intro r r' hr ih hstep
    rw [← allNative_map_unstarted]
    exact (hr.turn hstep).allNative ih

/-- The address of a language that can be reached from the root language. -/
def Addresses (m : Machine σ n) (url : String) : Prop :=
  ∃ l, m.catalog.Reachable m.language l ∧ (m.catalog l).url = url

theorem Reaches.native (h : m.Reaches tape props r) {f : Frame σ n} {below : List (Frame σ n)}
    (hf : f :: below <:+ r.stack.frames) : m.Native props r.events f below := by
  refine (h.allNative f below hf).mono ?_
  intro event hevent
  exact (List.mem_filter.mp hevent).1

theorem Plans.scoped {top : Frame σ n} {a : Attempt} {tail : Bool}
    {plan : Except Outcome (Plan σ n)} (h : m.Plans r top a tail plan)
    (hr : m.Reaches tape props r) : ∃ rest, m.Scoped top rest := by
  obtain ⟨rest, hframes⟩ := h.frames
  have hsuffix : top :: rest <:+ r.stack.frames := hframes ▸ List.suffix_refl _
  exact ⟨rest, (hr.native hsuffix).scope⟩

/-- What a goal without a language means. -/
structure Resolves (m : Machine σ n) (r : Run σ n T) (top : Frame σ n) (node : NodeGoal)
    (plan : Except Outcome (Plan σ n)) : Prop where
  resolved : m.index.resolve m.catalog top.scope node.language = .ok top.language
  entered : ∀ e, plan = .ok (.enter e) → e.frame.language = top.language ∧
    ∃ rule, (m.catalog top.language).grammar.rule? node.nodeType = some rule ∧
      e.frame.production = rule e.invocation
  opened : ∀ r' traits url nodeType attributes, m.step r = .ok r' →
    r.WritesTo r' (.openNode traits url nodeType attributes) → url = (m.catalog top.language).url

theorem Plans.resolves {top : Frame σ n} {a : Attempt} {tail : Bool}
    {plan : Except Outcome (Plan σ n)} {node : NodeGoal} (h : m.Plans r top a tail plan)
    (hr : m.Reaches tape props r) (hform : (m.goalFor top a).form = .node node)
    (hnone : node.language = none) : m.Resolves r top node plan := by
  obtain ⟨rest, hscoped⟩ := h.scoped hr
  have hresolve : m.index.resolve m.catalog top.scope node.language = .ok top.language := by
    rw [hnone]
    exact hscoped.resolve_none
  have hplace : ∀ {node' : NodeGoal} {place : Fin n}, (m.goalFor top a).form = .node node' →
      m.index.resolve m.catalog top.scope node'.language = .ok place →
      node' = node ∧ place = top.language := by
    intro node' place hform' hplace
    obtain rfl : node = node' := Form.node.inj (hform.symm.trans hform')
    exact ⟨rfl, Except.ok.inj (hplace.symm.trans hresolve)⟩
  refine ⟨hresolve, ?_, ?_⟩
  · rintro e rfl
    obtain ⟨node', slot, place, intrinsic, rule, hform', hplace', -, hrule, rfl⟩ :=
      plan_enter_resolved h.plan
    obtain ⟨rfl, rfl⟩ := hplace hform' hplace'
    exact ⟨rfl, rule, hrule, rfl⟩
  · intro r' traits url nodeType attributes hstep hwrites
    obtain ⟨top', a', tail', plan', node', place, hplans, hform', hplace', rfl⟩ :=
      (writes_of_step hstep hwrites).openNode
    obtain ⟨rfl, rfl, -, -⟩ := h.unique hplans
    obtain ⟨rfl, rfl⟩ := hplace hform' hplace'
    rfl

theorem Writes.addresses {traits : NodeTraits} {url nodeType : String} {attributes : Fields}
    (hr : m.Reaches tape props r) (h : m.Writes r (.openNode traits url nodeType attributes)) :
    m.Addresses url := by
  obtain ⟨top, a, tail, plan, node, place, hplans, -, hplace, rfl⟩ := h.openNode
  obtain ⟨rest, hscoped⟩ := hplans.scoped hr
  exact ⟨place, reachable_of_resolve hscoped.reachable hplace, rfl⟩

/-- A node that is opened is of a language that can be reached. -/
def Allowed (m : Machine σ n) : Tag → Prop
  | .openNode _ url _ _ => m.Addresses url
  | _ => True

theorem Writes.allowed {tag : Tag} (hr : m.Reaches tape props r) (h : m.Writes r tag) :
    m.Allowed tag := by
  cases tag with
  | openNode traits url nodeType attributes => exact h.addresses hr
  | _ => trivial

/-- In every state of a run the frames have scopes and productions of their languages, so a goal
without a language means the language of the production that asks for it. All nodes that are opened,
up to a state or up to the end, are of languages that can be reached from the root language; over
drafts these are the nodes of their tags. -/
theorem run_scopes (m : Machine σ n) (tape : T) (props : Option Json) :
    (∀ r, m.Reaches tape props r →
      (∀ f below, f :: below <:+ r.stack.frames → m.Native props r.events f below) ∧
      (∀ top a tail plan node, m.Plans r top a tail plan →
        (m.goalFor top a).form = .node node → node.language = none → m.Resolves r top node plan) ∧
      ∀ tag, Wrote r.events tag → m.Allowed tag) ∧
    (∀ fuel halt, m.run tape props fuel = some halt →
      ∀ tag, Wrote halt.run.events tag → m.Allowed tag) ∧
    ∀ source fuel halt, m.run (Draft.fresh source) props fuel = some halt →
      ∀ tag ∈ halt.run.tape.tags, m.Allowed tag := by
  have hwrote : ∀ {r : Run σ n T}, (m.blank tape).Goes m.Allowed r →
      ∀ tag, Wrote r.events tag → m.Allowed tag := by
    rintro r ⟨events, hevents, -, hwritten⟩ tag htag
    rw [hevents] at htag
    rcases List.mem_append.mp htag with htag | htag
    · exact hwritten tag htag
    · cases htag
  refine ⟨?_, ?_, ?_⟩
  · intro r hr
    refine ⟨fun f below hf => hr.native hf, ?_, ?_⟩
    · intro top a tail plan node hplans hform hnone
      exact hplans.resolves hr hform hnone
    · exact hwrote (hr.goes trivial (fun _ => trivial) fun _ hr _ h => h.allowed hr)
  · intro fuel halt hrun
    exact hwrote (run_goes hrun trivial (fun _ => trivial) fun _ hr _ h => h.allowed hr).1
  · intro source fuel halt hrun tag htag
    have hgoes := (run_goes hrun trivial (fun _ => trivial) fun _ hr _ h => h.allowed hr).1
    rcases hgoes.mem_tags htag with htag | hallowed
    · simp [blank, Draft.fresh] at htag
    · exact hallowed

end Runs

/-- A rule that is replaced by one of another language, which asks for a word. -/
def guestReader : Machine Automaton 2 where
  catalog l :=
    if l = Fin.last 1 then {
      url := "urn:guest"
      grammar := ({} : Grammar Automaton).node "Word"
        |>.define "Guest" (.script [.eat (.token "Word" (.literal "a"))] none) }
    else {
      url := "urn:host"
      grammar := ({} : Grammar Automaton).define "Host"
        (.script [] (some (.eat ((Goal.node "Guest").inLanguage "guest"))))
      dependencies := [("guest", Fin.last 1)] }
  language := Fin.castSucc (Fin.last 0)
  goal := .node "Host"

/-- The word belongs to the other language, whose rule stands in the place of the first one. -/
theorem run_scopes_guestReader :
    let tape := Draft.fresh (.ofSegments [some "a"])
    (∃ r top rest a plan node, guestReader.Reaches tape none r ∧ r.stack.frames = top :: rest ∧
      top.scope = [1, 0] ∧ guestReader.Native none r.events top rest ∧
      guestReader.Plans r top a false plan ∧ (guestReader.goalFor top a).form = .node node ∧
      node.language = none ∧ guestReader.Resolves r top node plan) ∧
    ∃ halt attributes, guestReader.run tape none 9 = some halt ∧
      .openNode { token := true } "urn:guest" "Word" attributes ∈ halt.run.tape.tags ∧
      guestReader.Addresses "urn:guest" := by
  obtain ⟨hstates, -, htags⟩ :=
    run_scopes guestReader (Draft.fresh (.ofSegments [some "a"])) none
  constructor
  · obtain ⟨r, top, rest, a, plan, node, hstate, hframes, hscope, hplans, hform, hnone⟩ :
        ∃ r top rest a plan node, guestReader.stateAt? (.ofSegments [some "a"]) 2 = some r ∧
        r.stack.frames = top :: rest ∧ top.scope = [1, 0] ∧
        guestReader.Plans r top a false plan ∧ (guestReader.goalFor top a).form = .node node ∧
        node.language = none :=
      ⟨_, _, _, _, _, _, rfl, rfl, rfl, ⟨_, _, _, ⟨rfl, rfl, rfl⟩, rfl⟩, rfl, rfl⟩
    have hr := reaches_of_stateAt? hstate
    obtain ⟨hnative, hresolves, -⟩ := hstates r hr
    exact ⟨r, top, rest, a, plan, node, hr, hframes, hscope,
      hnative top rest (hframes ▸ List.suffix_refl _), hplans, hform, hnone,
      hresolves top a false plan node hplans hform hnone⟩
  · obtain ⟨halt, attributes, before, after, hrun, hwritten⟩ : ∃ halt attributes before after,
        guestReader.run (Draft.fresh (.ofSegments [some "a"])) none 9 = some halt ∧
        halt.run.tape.tags.toList =
          before ++ .openNode { token := true } "urn:guest" "Word" attributes :: after :=
      ⟨_, _, [_, _, _], [_, _, _], rfl, rfl⟩
    have hmem : .openNode { token := true } "urn:guest" "Word" attributes ∈ halt.run.tape.tags := by
      rw [← Array.mem_toList_iff, hwritten]
      exact List.mem_append_right _ List.mem_cons_self
    exact ⟨halt, attributes, hrun, hmem, htags _ 9 halt hrun _ hmem⟩

end Machine

end GrammarMachine
