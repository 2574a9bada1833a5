import GrammarMachine.Proofs.Draft.Extension

/-!
Transactions of drafts. Acts are nested if they end each transaction that they begin and no other
one. However many transactions are kept or undone by nested acts, a transaction around them can be
undone to the very draft in which it was begun, and if it is kept it leaves no trace.
-/

namespace GrammarMachine

/-- The number of open transactions after an act, if there is one for the act to end. Setting the
language is no part of a transaction. -/
def Act.depthAfter? (depth : Nat) : Act → Option Nat
  | .branch => some (depth + 1)
  | .accept | .reject => if depth = 0 then none else some (depth - 1)
  | .init _ => none
  | _ => some depth

/-- Acts that end each transaction that they begin and no other one. -/
def Act.Nested (acts : List Act) : Prop :=
  acts.foldlM Act.depthAfter? 0 = some 0

instance (acts : List Act) : Decidable (Act.Nested acts) :=
  inferInstanceAs (Decidable (_ = _))

namespace Draft

def performAll (d : Draft) (acts : List Act) : Draft :=
  acts.foldl (fun d act => d.perform act) d

@[simp] theorem performAll_nil (d : Draft) : d.performAll [] = d := rfl

@[simp] theorem performAll_cons (d : Draft) (act : Act) (acts : List Act) :
    d.performAll (act :: acts) = (d.perform act).performAll acts := rfl

@[simp] theorem performAll_append (d : Draft) (acts more : List Act) :
    d.performAll (acts ++ more) = (d.performAll acts).performAll more := by
  simp [performAll]

/-- The draft `d` was made from `base`, with `depth` transactions begun since that are still open,
and `P` holds of `d` and of every draft in which one of these was begun. -/
inductive Above (P : Draft → Prop) (base : Draft) : Nat → Draft → Prop where
  | ground {d : Draft} : base.Extends d → d.branches = base.branches → P d → Above P base 0 d
  | branch {depth : Nat} {inner d : Draft} : Above P base depth inner → inner.Extends d →
      d.branches = inner.snapshot :: inner.branches → P d → Above P base (depth + 1) d

/-- Any act but undoing a transaction keeps `P`. -/
def Keeps (P : Draft → Prop) : Prop :=
  ∀ (d : Draft) (act : Act), act ≠ .reject → P d → P (d.perform act)

namespace Above

variable {P : Draft → Prop} {base d d' : Draft} {depth depth' : Nat}

theorem holds (h : Above P base depth d) : P d := by
  cases h <;> assumption

theorem extend (h : Above P base depth d) (hgrown : d.Extends d')
    (hbranches : d'.branches = d.branches) (hd' : P d') : Above P base depth d' := by
  cases h with
  | ground hbase hsame _ => exact .ground (hbase.trans hgrown) (hbranches.trans hsame) hd'
  | branch hinner hextends hopen _ =>
      exact .branch hinner (hextends.trans hgrown) (hbranches.trans hopen) hd'

/-- Each act leaves a draft with as many open transactions as it should. -/
theorem perform (hkeeps : Keeps P) (h : Above P base depth d) {act : Act}
    (hact : act.depthAfter? depth = some depth') : Above P base depth' (d.perform act) := by
  have hnext (hother : act ≠ .reject) : P (d.perform act) := hkeeps d act hother h.holds
  have hsilent (hother : act ≠ .reject) (hquiet : d.Silent (d.perform act)) :
      Above P base depth (d.perform act) :=
    h.extend hquiet.extends' hquiet.branches (hnext hother)
  cases act with
  | init language => cases hact
  | branch =>
      cases hact
      exact .branch h ((Extends.refl d).of_branches d.branches _) rfl (hnext nofun)
  | accept =>
      cases h with
      | ground => cases hact
      | branch hinner hgrown hopen hd =>
          cases hact
          refine hinner.extend ?_ ?_ (hnext nofun)
          · exact hgrown.of_branches _ _
          · exact congrArg List.tail hopen
  | reject =>
      cases h with
      | ground => cases hact
      | branch hinner hgrown hopen hd =>
          cases hact
          change Above P base _ d.reject
          rw [reject_eq hgrown hopen]
          exact hinner
  | advance tag =>
      cases hact
      exact h.extend (.advanceAll d [tag]) rfl (hnext nofun)
  | write text options =>
      cases hact
      exact hsilent nofun (.perform_write d text options)
  | openSpan name =>
      cases hact
      exact hsilent nofun (.perform_openSpan d name)
  | closeSpan name =>
      cases hact
      exact hsilent nofun (.perform_closeSpan d name)
  | bind key value =>
      cases hact
      exact hsilent nofun (.perform_bind d key value)
  | startFrame | endFrame | throw =>
      cases hact
      exact h

theorem performAll (hkeeps : Keeps P) (h : Above P base depth d) {acts : List Act}
    (hacts : acts.foldlM Act.depthAfter? depth = some depth') :
    Above P base depth' (d.performAll acts) := by
  induction acts generalizing d depth with
  | nil =>
      cases hacts
      exact h
  | cons act acts ih =>
      rw [List.foldlM_cons] at hacts
      obtain ⟨next, hact, hrest⟩ := Option.bind_eq_some_iff.mp hacts
      exact ih (h.perform hkeeps hact) hrest

end Above

/-- An act neither changes nor looks at the transactions that were open before. -/
theorem perform_outer (d : Draft) {act : Act} {inner : List Snapshot} {depth : Nat}
    (hact : act.depthAfter? inner.length = some depth) :
    ∃ (d' : Draft) (inner' : List Snapshot), inner'.length = depth ∧ ∀ outer,
      ({ d with branches := inner ++ outer } : Draft).perform act =
        { d' with branches := inner' ++ outer } := by
  cases act with
  | init language => cases hact
  | branch =>
      cases hact
      exact ⟨d, d.snapshot :: inner, rfl, fun _ => rfl⟩
  | accept =>
      cases inner with
      | nil => cases hact
      | cons latest inner =>
          cases hact
          exact ⟨d, inner, rfl, fun _ => rfl⟩
  | reject =>
      cases inner with
      | nil => cases hact
      | cons latest inner =>
          cases hact
          exact ⟨d.restore latest, inner, rfl, fun _ => rfl⟩
  | bind key value =>
      cases hact
      refine ⟨d.bind key value, inner, rfl, ?_⟩
      intro outer
      change Draft.bind _ key value = _
      rcases hopened : d.opened with _ | ⟨node, rest⟩ <;> simp [bind, hopened]
  | advance tag =>
      cases hact
      exact ⟨d.advance tag, inner, rfl, fun _ => rfl⟩
  | write text options =>
      cases hact
      exact ⟨d.perform (.write text options), inner, rfl, fun _ => rfl⟩
  | openSpan name =>
      cases hact
      exact ⟨d.perform (.openSpan name), inner, rfl, fun _ => rfl⟩
  | closeSpan name =>
      cases hact
      exact ⟨d.perform (.closeSpan name), inner, rfl, fun _ => rfl⟩
  | startFrame | endFrame | throw =>
      cases hact
      exact ⟨d, inner, rfl, fun _ => rfl⟩

theorem performAll_outer (d : Draft) {acts : List Act} (inner : List Snapshot)
    (hacts : acts.foldlM Act.depthAfter? inner.length = some 0) :
    ∃ d' : Draft, ∀ outer, ({ d with branches := inner ++ outer } : Draft).performAll acts =
      { d' with branches := outer } := by
  induction acts generalizing d inner with
  | nil =>
      obtain rfl : inner = [] := List.eq_nil_of_length_eq_zero (Option.some.inj hacts)
      exact ⟨d, fun _ => rfl⟩
  | cons act acts ih =>
      rw [List.foldlM_cons] at hacts
      obtain ⟨depth, hact, hrest⟩ := Option.bind_eq_some_iff.mp hacts
      obtain ⟨next, inner', rfl, hnext⟩ := d.perform_outer hact
      obtain ⟨d', hd'⟩ := ih next inner' hrest
      refine ⟨d', ?_⟩
      intro outer
      rw [performAll_cons, hnext, hd']

/-- A transaction around nested acts can be undone exactly, whatever the draft was, and keeping it
is the same as not having begun it. -/
theorem performAll_transaction (d : Draft) (acts : List Act) (h : Act.Nested acts) :
    d.performAll (.branch :: acts ++ [.reject]) = d ∧
      d.performAll (.branch :: acts ++ [.accept]) = d.performAll acts := by
  simp only [List.cons_append, performAll_cons, performAll_append, performAll_nil]
  have hopened : d.perform .branch = { d with branches := d.snapshot :: d.branches } := rfl
  refine ⟨?_, ?_⟩
  · have hgrown : d.Extends (d.perform .branch) := (Extends.refl d).of_branches d.branches _
    have hbegun : Above (fun _ => True) (d.perform .branch) 0 (d.perform .branch) :=
      .ground (.refl _) rfl trivial
    cases hbegun.performAll (fun _ _ _ _ => trivial) h with
    | ground hacts hbranches _ => exact reject_eq (hgrown.trans hacts) hbranches
  · obtain ⟨d', hd'⟩ := d.performAll_outer [] h
    have houter := hd' (d.snapshot :: d.branches)
    have hplain := hd' d.branches
    simp only [List.nil_append] at houter hplain
    rw [hopened, houter, hplain]
    rfl

/-- An inner transaction that is kept and one that is undone, with every kind of side effect. -/
theorem performAll_transaction_nested :
    let d := (fresh (.ofText "abc")).performAll [.advance (.openFragment {}), .branch]
    let acts : List Act :=
      [.advance (.reference { name := "x" }), .branch, .advance (.literal "a"), .write "hello" none,
        .accept, .branch, .openSpan "string", .bind "k" .null, .reject, .closeSpan "string"]
    d.performAll (.branch :: acts ++ [.reject]) = d ∧
      d.performAll (.branch :: acts ++ [.accept]) = d.performAll acts :=
  performAll_transaction _ _ (by decide)

end Draft

end GrammarMachine
