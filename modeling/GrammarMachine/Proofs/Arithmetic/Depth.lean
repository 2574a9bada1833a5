import GrammarMachine.Proofs.Arithmetic.Recognition
import Mathlib.Data.List.Infix
import Mathlib.Data.List.MinMax
import Mathlib.Order.Nat

/-!
How many frames the arithmetic language needs is a matter of the brackets of a template, not of its
length.
-/

namespace GrammarMachine.Arithmetic

/-- How many brackets of a text are opened and not closed, if any. -/
def openBrackets (text : List Char) : Nat :=
  text.countP isOpening - text.countP isClosing

/-- The most brackets that are open behind a prefix. -/
def deepest (text : List Char) : Nat :=
  (text.inits.map openBrackets).foldr max 0

theorem openBrackets_le_deepest {before text : List Char} (h : before <+: text) :
    openBrackets before ≤ deepest text :=
  List.le_max_of_le (List.mem_map_of_mem ((List.mem_inits _ _).mpr h)) (Nat.le_refl _)

theorem isClosing_of_isOpening {c : Char} (h : isOpening c = true) : isClosing c = false :=
  eq_false_of_contains (by decide) h

-- The bound is on what the rest opens when so many brackets may still be opened; a closing bracket
-- allows one more. The recursion is that of the reading of a template, where a gap is no bracket.
theorem nesting_ofTemplate_le {text : List Char} {k : Nat}
    (h : ∀ before, before <+: text → before.countP isOpening ≤ before.countP isClosing + k) :
    nesting (Symbol.ofTemplate text) ≤ k := by
  fun_induction Symbol.ofTemplate text generalizing k with
  | case1 => exact Nat.zero_le k
  | case2 rest ih =>
      apply ih
      intro before hbefore
      have hmarked := h (['$', '\x7b', '\x7d'] ++ before)
        ((List.prefix_append_right_inj _).mpr hbefore)
      rw [List.countP_append, List.countP_append] at hmarked
      rwa [show ['$', '\x7b', '\x7d'].countP isOpening = 0 by decide,
        show ['$', '\x7b', '\x7d'].countP isClosing = 0 by decide, Nat.zero_add,
        Nat.zero_add] at hmarked
  | case3 c rest hmarker ih =>
      have hcons : ∀ before, before <+: rest →
          (c :: before).countP isOpening ≤ (c :: before).countP isClosing + k :=
        fun before hbefore => h _ ((List.cons_prefix_cons).mpr ⟨rfl, hbefore⟩)
      simp only [List.countP_cons] at hcons
      by_cases hopening : isOpening c = true
      · have hclosing := isClosing_of_isOpening hopening
        simp only [hopening, hclosing, if_true, Bool.false_eq_true, if_false] at hcons
        have hone := hcons [] List.nil_prefix
        simp only [List.countP_nil] at hone
        have hrest : nesting (Symbol.ofTemplate rest) ≤ k - 1 := by
          apply ih
          intro before hbefore
          have hbound := hcons before hbefore
          omega
        rw [nesting_opening hopening]
        omega
      · by_cases hclosing : isClosing c = true
        · simp only [hopening, hclosing, if_true, Bool.false_eq_true, if_false] at hcons
          have hrest : nesting (Symbol.ofTemplate rest) ≤ k + 1 := by
            apply ih
            intro before hbefore
            have hbound := hcons before hbefore
            omega
          simp only [nesting, hopening, hclosing, if_true, Bool.false_eq_true, if_false]
          omega
        · simp only [hopening, hclosing, Bool.false_eq_true, if_false] at hcons
          simp only [nesting, hopening, hclosing, Bool.false_eq_true, if_false]
          exact ih hcons

theorem nesting_le_deepest (text : List Char) :
    nesting (Symbol.ofTemplate text) ≤ deepest text := by
  apply nesting_ofTemplate_le
  intro before hbefore
  have hopen := openBrackets_le_deepest hbefore
  unfold openBrackets at hopen
  omega

/-- Three frames for each bracket that is open at once and five more suffice for every template,
well formed or not. -/
theorem run_within_depth (maxDepth : Nat) (template : String) (props : Option Json)
    (hdepth : 3 * deepest template.toList + 5 ≤ maxDepth) :
    let m := Builtin.arithmetic.machine { maxDepth, allowGaps := true }
    let tape := Draft.fresh (.ofTemplate template)
    (∃ fuel halt, m.run tape props fuel = some halt) ∧
      ∀ fuel halt, m.run tape props fuel = some halt →
        ∀ limit, halt.outcome ≠ .rejected (.depthExceeded limit) := by
  intro m tape
  obtain ⟨fuel, halt, hrun, hend⟩ :=
    run_concludes maxDepth (Symbol.ofTemplate template.toList) props
  rw [← Source.ofTemplate_eq] at hrun
  refine ⟨⟨fuel, halt, hrun⟩, ?_⟩
  intro fuel' halt' hrun' limit hlimit
  obtain rfl := Machine.run_unique hrun hrun'
  rcases hend with hend | ⟨-, hshort⟩
  · unfold Concluded at hend
    rw [hlimit] at hend
    split at hend
    · obtain ⟨⟨extent, hextent⟩, -⟩ := hend
      cases hextent
    · obtain ⟨offset, size, hincomplete⟩ := hend
      cases hincomplete
    · obtain ⟨offset, hfailed⟩ := hend
      cases hfailed
  · have hnesting := nesting_le_deepest template.toList
    omega

theorem run_within_depth_open_list :
    3 * deepest "[1, 2+3, $\x7b\x7d [".toList + 5 ≤ 11 ∧
      let m := Builtin.arithmetic.machine { maxDepth := 11, allowGaps := true }
      let tape := Draft.fresh (.ofTemplate "[1, 2+3, $\x7b\x7d [")
      (∃ fuel halt, m.run tape none fuel = some halt) ∧
        ∀ fuel halt, m.run tape none fuel = some halt →
          ∀ limit, halt.outcome ≠ .rejected (.depthExceeded limit) := by
  have hdepth : 3 * deepest "[1, 2+3, $\x7b\x7d [".toList + 5 ≤ 11 := by decide
  exact ⟨hdepth, run_within_depth 11 "[1, 2+3, $\x7b\x7d [" none hdepth⟩

end GrammarMachine.Arithmetic
