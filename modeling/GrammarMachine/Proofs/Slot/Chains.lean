import GrammarMachine.Slot.Merge

/-!
Chains of slots. Merging the slots of a chain, outermost first, is associative, and it fails in
every grouping unless the named slots of the chain agree. `Joins` says which slot comes out and
`Disagreement` which error; both speak of the chain alone.
-/

namespace GrammarMachine.Slot

/-- All slots of a chain that are named have one name, and all or none of them are arrays. -/
def Alike (chain : List Slot) : Prop :=
  ∀ s ∈ chain, ∀ t ∈ chain, s.isAnonymous = false → t.isAnonymous = false →
    s.name = t.name ∧ s.isArray = t.isArray

/-- The slot that a chain stands for: the one that is named in it, or else the last one, with the
traits of all. -/
structure Joins (chain : List Slot) (slot : Slot) : Prop where
  named : ∀ s ∈ chain, s.isAnonymous = false → slot.name = s.name ∧ slot.isArray = s.isArray
  unnamed : (∀ s ∈ chain, s.isAnonymous = true) →
    ∃ last ∈ chain.getLast?, slot.name = last.name ∧ slot.isArray = last.isArray
  expression : slot.traits.expression = chain.any (·.traits.expression)
  gappy : slot.traits.gappy = chain.any (·.traits.gappy)

/-- The error for a chain in which an outer and an inner slot disagree. It shows both. -/
def Disagreement (chain : List Slot) (error : ParseError) : Prop :=
  ∃ outer inner s t, error = .conflictingSlots outer inner ∧ [s, t].Sublist chain ∧
    s.isAnonymous = false ∧ t.isAnonymous = false ∧
    (outer.name = s.name ∧ outer.isArray = s.isArray) ∧
    (inner.name = t.name ∧ inner.isArray = t.isArray) ∧
    ¬(s.name = t.name ∧ s.isArray = t.isArray)

variable {chain outers inners : List Slot} {slot outer inner : Slot} {error : ParseError}

theorem joins_singleton (slot : Slot) : Joins [slot] slot where
  named := by simp
  unnamed := fun _ => ⟨slot, rfl, rfl, rfl⟩
  expression := by simp
  gappy := by simp

namespace Joins

theorem alike (h : Joins chain slot) : Alike chain := by
  intro s hs t ht hnamed hnamed'
  obtain ⟨hname, harray⟩ := h.named s hs hnamed
  obtain ⟨hname', harray'⟩ := h.named t ht hnamed'
  exact ⟨hname.symm.trans hname', harray.symm.trans harray'⟩

theorem isAnonymous_iff (h : Joins chain slot) :
    slot.isAnonymous = true ↔ ∀ s ∈ chain, s.isAnonymous = true := by
  constructor
  · intro hslot s hs
    rcases hnamed : s.isAnonymous with _ | _
    · have hsame : slot.isAnonymous = s.isAnonymous := by
        simp only [isAnonymous, (h.named s hs hnamed).1]
      exact hnamed.symm.trans (hsame.symm.trans hslot)
    · rfl
  · intro hall
    obtain ⟨last, hlast, hname, -⟩ := h.unnamed hall
    have hanonymous := hall last (List.mem_of_getLast? hlast)
    simpa only [isAnonymous, hname] using hanonymous

theorem exists_named (h : Joins chain slot) (hslot : slot.isAnonymous = false) :
    ∃ s ∈ chain, s.isAnonymous = false ∧ slot.name = s.name ∧ slot.isArray = s.isArray := by
  by_cases hexists : ∃ s ∈ chain, s.isAnonymous = false
  · obtain ⟨s, hs, hnamed⟩ := hexists
    exact ⟨s, hs, hnamed, h.named s hs hnamed⟩
  · have hall : ∀ s ∈ chain, s.isAnonymous = true := by
      intro s hs
      rcases hnamed : s.isAnonymous with _ | _
      · exact absurd ⟨s, hs, hnamed⟩ hexists
      · rfl
    rw [h.isAnonymous_iff.mpr hall] at hslot
    cases hslot

theorem unique {other : Slot} (h : Joins chain slot) (hother : Joins chain other) :
    slot = other := by
  have hpath : slot.name = other.name ∧ slot.isArray = other.isArray := by
    rcases hslot : slot.isAnonymous with _ | _
    · obtain ⟨s, hs, hnamed, hname, harray⟩ := h.exists_named hslot
      obtain ⟨hname', harray'⟩ := hother.named s hs hnamed
      exact ⟨hname.trans hname'.symm, harray.trans harray'.symm⟩
    · have hall := h.isAnonymous_iff.mp hslot
      obtain ⟨last, hlast, hname, harray⟩ := h.unnamed hall
      obtain ⟨last', hlast', hname', harray'⟩ := hother.unnamed hall
      obtain rfl : last = last' := Option.mem_unique hlast hlast'
      exact ⟨hname.trans hname'.symm, harray.trans harray'.symm⟩
  have hexpression := h.expression.trans hother.expression.symm
  have hgappy := h.gappy.trans hother.gappy.symm
  rcases slot with ⟨name, isArray, expression, gappy⟩
  rcases other with ⟨name', isArray', expression', gappy'⟩
  obtain ⟨rfl, rfl⟩ := hpath
  dsimp only at hexpression hgappy
  rw [hexpression, hgappy]

theorem union {merged : Slot} (houter : Joins outers outer) (hinner : Joins inners inner)
    (htraits : merged.traits = outer.traits.union inner.traits)
    (hnamed : ∀ s ∈ outers ++ inners, s.isAnonymous = false →
      merged.name = s.name ∧ merged.isArray = s.isArray)
    (hunnamed : outer.isAnonymous = true → inner.isAnonymous = true →
      merged.name = inner.name ∧ merged.isArray = inner.isArray) :
    Joins (outers ++ inners) merged where
  named := hnamed
  unnamed := by
    intro hall
    have hinners := fun s hs => hall s (List.mem_append_right outers hs)
    obtain ⟨last, hlast, hname, harray⟩ := hinner.unnamed hinners
    obtain ⟨hname', harray'⟩ := hunnamed
      (houter.isAnonymous_iff.mpr fun s hs => hall s (List.mem_append_left inners hs))
      (hinner.isAnonymous_iff.mpr hinners)
    refine ⟨last, ?_, hname'.trans hname, harray'.trans harray⟩
    rw [List.getLast?_append, hlast]
    rfl
  expression := by
    rw [htraits, List.any_append, ← houter.expression, ← hinner.expression]
    rfl
  gappy := by
    rw [htraits, List.any_append, ← houter.gappy, ← hinner.gappy]
    rfl

/-- Merging the slots of two chains gives the slot of the whole chain, or shows that an outer and an
inner slot of it disagree. -/
theorem merge (houter : Joins outers outer) (hinner : Joins inners inner) :
    match outer.merge inner with
    | .ok merged => Joins (outers ++ inners) merged
    | .error error => Disagreement (outers ++ inners) error := by
  unfold Slot.merge
  dsimp only
  rcases hanonymous : outer.isAnonymous with _ | _
  · rcases hanonymous' : inner.isAnonymous with _ | _
    · simp only [Bool.false_eq_true, if_false]
      by_cases hsame : outer.name = inner.name ∧ outer.isArray = inner.isArray
      · rw [if_pos hsame]
        refine houter.union hinner rfl ?_ (by simp [hanonymous])
        intro s hs hnamed
        rcases List.mem_append.mp hs with hs | hs
        · exact houter.named s hs hnamed
        · obtain ⟨hname, harray⟩ := hinner.named s hs hnamed
          exact ⟨hsame.1.trans hname, hsame.2.trans harray⟩
      · rw [if_neg hsame]
        obtain ⟨s, hs, hnamed, hname, harray⟩ := houter.exists_named hanonymous
        obtain ⟨t, ht, hnamed', hname', harray'⟩ := hinner.exists_named hanonymous'
        refine ⟨outer, inner, s, t, rfl, ?_, hnamed, hnamed', ⟨hname, harray⟩,
          ⟨hname', harray'⟩, ?_⟩
        · exact (List.singleton_sublist.mpr hs).append (List.singleton_sublist.mpr ht)
        · rintro ⟨hst, hst'⟩
          exact hsame ⟨hname.trans (hst.trans hname'.symm),
            harray.trans (hst'.trans harray'.symm)⟩
    · simp only [Bool.false_eq_true, if_false, if_true]
      refine houter.union hinner rfl ?_ (by simp [hanonymous])
      intro s hs hnamed
      rcases List.mem_append.mp hs with hs | hs
      · exact houter.named s hs hnamed
      · rw [hinner.isAnonymous_iff.mp hanonymous' s hs] at hnamed
        cases hnamed
  · simp only [if_true]
    refine houter.union hinner rfl ?_ fun _ _ => ⟨rfl, rfl⟩
    intro s hs hnamed
    rcases List.mem_append.mp hs with hs | hs
    · rw [houter.isAnonymous_iff.mp hanonymous s hs] at hnamed
      cases hnamed
    · exact hinner.named s hs hnamed

end Joins

theorem Disagreement.not_alike (h : Disagreement chain error) : ¬Alike chain := by
  obtain ⟨outer, inner, s, t, -, hsub, hnamed, hnamed', -, -, hdiffer⟩ := h
  intro halike
  exact hdiffer (halike s (hsub.subset (by simp)) t (hsub.subset (by simp)) hnamed hnamed')

theorem Disagreement.mono {whole : List Slot} (h : Disagreement chain error)
    (hsub : chain.Sublist whole) : Disagreement whole error := by
  obtain ⟨outer, inner, s, t, herror, hpair, hrest⟩ := h
  exact ⟨outer, inner, s, t, herror, hpair.trans hsub, hrest⟩

/-- Groupings of a chain into pairs that are merged one after the other. -/
inductive Grouping where
  | single (slot : Slot)
  | pair (outer inner : Grouping)

namespace Grouping

/-- The chain that is grouped, outermost first. -/
def slots : Grouping → List Slot
  | single slot => [slot]
  | pair outer inner => outer.slots ++ inner.slots

/-- The slot that comes out when the pairs are merged. -/
def merge : Grouping → Except ParseError Slot
  | single slot => .ok slot
  | pair outer inner => do (← outer.merge).merge (← inner.merge)

/-- Whatever the grouping, the slot or the error is one for the chain. -/
theorem merge_cases (g : Grouping) :
    match g.merge with
    | .ok slot => Joins g.slots slot
    | .error error => Disagreement g.slots error := by
  induction g with
  | single slot => exact joins_singleton slot
  | pair outer inner ihouter ihinner =>
      simp only [merge, slots]
      rcases houter : outer.merge with error | outerSlot
      · rw [houter] at ihouter
        exact ihouter.mono (List.sublist_append_left _ _)
      · rw [houter] at ihouter
        rcases hinner : inner.merge with error | innerSlot
        · rw [hinner] at ihinner
          exact ihinner.mono (List.sublist_append_right _ _)
        · rw [hinner] at ihinner
          exact ihouter.merge ihinner

theorem joins_of_merge {g : Grouping} (h : g.merge = .ok slot) : Joins g.slots slot := by
  have hcases := g.merge_cases
  rw [h] at hcases
  exact hcases

theorem disagreement_of_merge {g : Grouping} (h : g.merge = .error error) :
    Disagreement g.slots error := by
  have hcases := g.merge_cases
  rw [h] at hcases
  exact hcases

theorem exists_merge_iff (g : Grouping) : (∃ slot, g.merge = .ok slot) ↔ Alike g.slots := by
  constructor
  · rintro ⟨slot, hslot⟩
    exact (joins_of_merge hslot).alike
  · intro halike
    rcases hmerge : g.merge with error | slot
    · exact absurd halike (disagreement_of_merge hmerge).not_alike
    · exact ⟨slot, rfl⟩

/-- The slot depends on the chain alone, not on its grouping. -/
theorem merge_eq_ok_iff {g : Grouping} : g.merge = .ok slot ↔ Joins g.slots slot := by
  constructor
  · exact joins_of_merge
  · intro hjoins
    obtain ⟨merged, hmerge⟩ := g.exists_merge_iff.mpr hjoins.alike
    rw [hmerge, (joins_of_merge hmerge).unique hjoins]

end Grouping

end GrammarMachine.Slot
