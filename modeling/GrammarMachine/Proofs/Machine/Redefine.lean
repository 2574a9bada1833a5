import GrammarMachine.Proofs.Machine.Plan

/-!
Machines in which one rule is defined anew. All plans stay the same but for the productions of that
rule.
-/

namespace GrammarMachine

variable {σ : Type} {n : Nat} {T : Type} [Tape T]

namespace LanguageIndex

variable {catalog catalog' : Catalog σ n}

theorem isFound_congr (hurl : ∀ l, (catalog' l).url = (catalog l).url) (found : List (Fin n))
    (url : String) : isFound catalog' found url = isFound catalog found url := by
  simp only [isFound, hurl]

theorem collect_congr (hurl : ∀ l, (catalog' l).url = (catalog l).url)
    (hdependencies : ∀ l, (catalog' l).dependencies = (catalog l).dependencies)
    (pending found : List (Fin n)) :
    collect catalog' pending found = collect catalog pending found := by
  fun_induction collect catalog pending found with
  | case1 found => rw [collect]
  | case2 found l rest hfound ih =>
      rw [collect, isFound_congr hurl, hurl, if_pos hfound, ih]
  | case3 found l rest hfound ih =>
      rw [collect, isFound_congr hurl, hurl, if_neg hfound, hdependencies, ih]

theorem inScope?_congr (hurl : ∀ l, (catalog' l).url = (catalog l).url)
    (hdependencies : ∀ l, (catalog' l).dependencies = (catalog l).dependencies)
    (reference : String) (scope : List (Fin n)) :
    inScope? catalog' reference scope = inScope? catalog reference scope := by
  induction scope with
  | nil => rfl
  | cons l outer ih =>
      simp only [inScope?, Language.dependency?, hurl, hdependencies, ih]

theorem resolve_congr (hurl : ∀ l, (catalog' l).url = (catalog l).url)
    (hdependencies : ∀ l, (catalog' l).dependencies = (catalog l).dependencies) (root : Fin n)
    (scope : List (Fin n)) (reference : Option String) :
    (ofRoot catalog' root).resolve catalog' scope reference =
      (ofRoot catalog root).resolve catalog scope reference := by
  simp only [resolve, ofRoot, get?, collect_congr hurl hdependencies, hurl,
    inScope?_congr hurl hdependencies]

end LanguageIndex

/-- The machine in which the rule of a type is defined anew. -/
def Machine.redefine (m : Machine σ n) (place : Fin n) (nodeType : String) (rule : Rule σ) :
    Machine σ n :=
  { m with catalog := fun l =>
      if l = place then
        { m.catalog l with grammar := (m.catalog l).grammar.define nodeType rule }
      else m.catalog l }

/-- Plans that differ at most in the production of the frame to be entered. -/
inductive Plan.Alike (related : Fin n → String → Production σ → Production σ → Prop) :
    Except Outcome (Plan σ n) → Except Outcome (Plan σ n) → Prop where
  | error (outcome : Outcome) : Plan.Alike related (.error outcome) (.error outcome)
  | miss (emptied : Option String) :
      Plan.Alike related (.ok (.miss emptied)) (.ok (.miss emptied))
  | place (tags : List Tag) (value : Option (String × Position)) :
      Plan.Alike related (.ok (.place tags value)) (.ok (.place tags value))
  | enter (e : Entry σ n) {production : Production σ} :
      related e.frame.language e.frame.nodeType e.frame.production production →
      Plan.Alike related (.ok (.enter e))
        (.ok (.enter { e with frame := { e.frame with production } }))

namespace Plan.Alike

variable {related : Fin n → String → Production σ → Production σ → Prop}

theorem refl (hrefl : ∀ l nodeType p, related l nodeType p p) (x : Except Outcome (Plan σ n)) :
    Plan.Alike related x x := by
  rcases x with outcome | emptied | ⟨tags, value⟩ | e
  · exact .error outcome
  · exact .miss emptied
  · exact .place tags value
  · exact .enter e (hrefl _ _ _)

theorem bind {α : Type} (x : Except Outcome α) {f g : α → Except Outcome (Plan σ n)}
    (h : ∀ a, x = .ok a → Plan.Alike related (f a) (g a)) :
    Plan.Alike related (x >>= f) (x >>= g) := by
  rcases x with outcome | a
  · exact .error outcome
  · exact h a rfl

end Plan.Alike

namespace Machine

variable {m : Machine σ n} {place : Fin n} {nodeType : String} {old new : Rule σ}
  {related : Fin n → String → Production σ → Production σ → Prop}

theorem redefine_catalog (m : Machine σ n) (place : Fin n) (nodeType : String) (rule : Rule σ)
    (l : Fin n) :
    (m.redefine place nodeType rule).catalog l =
      { m.catalog l with grammar := { (m.catalog l).grammar with
          rules :=
            if l = place then (nodeType, rule) :: (m.catalog l).grammar.rules
            else (m.catalog l).grammar.rules } } := by
  simp only [redefine]
  split <;> rfl

theorem redefine_resolve (m : Machine σ n) (place : Fin n) (nodeType : String) (rule : Rule σ)
    (scope : List (Fin n)) (reference : Option String) :
    (m.redefine place nodeType rule).index.resolve (m.redefine place nodeType rule).catalog scope
      reference = m.index.resolve m.catalog scope reference := by
  apply LanguageIndex.resolve_congr
  · intro l
    rw [redefine_catalog]
  · intro l
    rw [redefine_catalog]

theorem redefine_production (m : Machine σ n) (place : Fin n) (nodeType : String) (rule : Rule σ)
    (l : Fin n) (wanted : String) :
    ((m.redefine place nodeType rule).catalog l).production wanted =
      if l = place ∧ wanted = nodeType then .ok rule else (m.catalog l).production wanted := by
  rw [redefine_catalog]
  by_cases hplace : l = place
  · by_cases hwanted : wanted = nodeType
    · simp [Language.production, Grammar.rule?, hplace, hwanted]
    · have hlookup : (wanted == nodeType) = false := by simpa using hwanted
      simp [Language.production, Grammar.rule?, hplace, hwanted, List.lookup_cons, hlookup]
  · simp [Language.production, hplace]

theorem planEntry_alike (hrefl : ∀ l nodeType p, related l nodeType p p)
    (hold : (m.catalog place).grammar.rule? nodeType = some old)
    (hnew : ∀ invocation, related place nodeType (old invocation) (new invocation)) (tape : T)
    (top : Frame σ n) (a : Attempt) (tail : Bool) (node : NodeGoal) (own slot : Slot) (l : Fin n)
    (intrinsic : Option String) :
    Plan.Alike related (m.planEntry tape top a tail node own slot l intrinsic)
      ((m.redefine place nodeType new).planEntry tape top a tail node own slot l intrinsic) := by
  unfold planEntry
  dsimp only
  rw [redefine_production, redefine_catalog]
  by_cases hrule : l = place ∧ node.nodeType = nodeType
  · have hfound : (m.catalog l).production node.nodeType = .ok old := by
      rw [hrule.1, hrule.2]
      simp [Language.production, hold]
    rw [if_pos hrule, hfound]
    refine Plan.Alike.enter _ ?_
    have hrelated := hnew
    rw [← hrule.1, ← hrule.2] at hrelated
    exact hrelated _
  · rw [if_neg hrule]
    refine Plan.Alike.bind _ ?_
    intro rule _
    exact Plan.Alike.enter _ (hrefl _ _ _)

theorem planNode_alike (hrefl : ∀ l nodeType p, related l nodeType p p)
    (hold : (m.catalog place).grammar.rule? nodeType = some old)
    (hnew : ∀ invocation, related place nodeType (old invocation) (new invocation)) (tape : T)
    (top : Frame σ n) (a : Attempt) (tail : Bool) (node : NodeGoal) (own : Slot) :
    Plan.Alike related (m.planNode tape top a tail node own)
      ((m.redefine place nodeType new).planNode tape top a tail node own) := by
  rw [planNode_eq, planNode_eq, redefine_resolve]
  refine Plan.Alike.bind _ ?_
  intro l _
  have hcheck : (m.redefine place nodeType new).checkNodeAt tape a node l =
      m.checkNodeAt tape a node l := by
    simp only [checkNodeAt, redefine_catalog]
    rfl
  have hinterpolates : (m.redefine place nodeType new).interpolates tape a node own l =
      m.interpolates tape a node own l := by
    simp only [interpolates, redefine_catalog]
    rfl
  have htoken : ∀ slot text, planToken tape ((m.redefine place nodeType new).catalog l) node slot
      text = planToken tape (m.catalog l) node slot text := by
    intro slot text
    rw [redefine_catalog]
    rfl
  have hfound : ∀ intrinsic, Plan.Alike related (m.planFound tape top a tail node own l intrinsic)
      ((m.redefine place nodeType new).planFound tape top a tail node own l intrinsic) := by
    intro intrinsic
    rcases intrinsic with _ | text
    · refine Plan.Alike.bind _ ?_
      intro slot _
      exact planEntry_alike hrefl hold hnew tape top a tail node own slot l none
    · refine Plan.Alike.bind _ ?_
      intro slot _
      rw [htoken]
      split
      · exact .refl hrefl _
      · exact planEntry_alike hrefl hold hnew tape top a tail node own slot l (some text)
  rw [hcheck, hinterpolates]
  refine Plan.Alike.bind _ ?_
  intro _ _
  split
  · exact .refl hrefl _
  · split
    · exact hfound none
    · refine Plan.Alike.bind _ ?_
      intro found _
      rcases found with _ | text
      · exact .refl hrefl _
      · exact hfound (some text)

/-- Plans of machines that differ in one rule differ only in the productions of that rule. -/
theorem plan_alike (hrefl : ∀ l nodeType p, related l nodeType p p)
    (hold : (m.catalog place).grammar.rule? nodeType = some old)
    (hnew : ∀ invocation, related place nodeType (old invocation) (new invocation)) (tape : T)
    (top : Frame σ n) (a : Attempt) (tail : Bool) :
    Plan.Alike related (m.plan tape top a tail)
      ((m.redefine place nodeType new).plan tape top a tail) := by
  rw [plan_eq, plan_eq]
  have hgoal : (m.redefine place nodeType new).goalFor top a = m.goalFor top a := rfl
  rw [hgoal]
  split
  · exact .error _
  split
  · exact .error _
  unfold planForm
  split
  · exact .refl hrefl _
  · exact .refl hrefl _
  · exact .refl hrefl _
  · exact .refl hrefl _
  · exact .refl hrefl _
  · exact planNode_alike hrefl hold hnew tape top a tail _ _

end Machine

end GrammarMachine
