import GrammarMachine.Pattern.Expr

/-!
A set made from a list of ranges contains the code points of these ranges, in whatever order they
are listed.
-/

namespace GrammarMachine

namespace Text.Ranges

/-- The search may stop early, since nothing behind a range lies below it. -/
theorem contains_cons {low high : Nat} {rest : Ranges} {n : Nat}
    (hbehind : contains rest n = true → low ≤ n) :
    contains ((low, high) :: rest) n = true ↔ low ≤ n ∧ n ≤ high ∨ contains rest n = true := by
  simp only [contains]
  split
  · simp only [Bool.false_eq_true, false_iff]
    rintro (h | h)
    · omega
    · have hlow := hbehind h
      omega
  · split
    · simp only [true_iff]
      exact .inl (by omega)
    · constructor
      · exact .inr
      · rintro (h | h)
        · omega
        · exact h

theorem contains_joinFrom {low high : Nat} {rest : List (Nat × Nat)} (hlow : low ≤ high)
    (hranges : ∀ r ∈ rest, r.1 ≤ r.2) (hbehind : ∀ r ∈ rest, low ≤ r.1)
    (hsorted : rest.Pairwise fun r s => r.1 ≤ s.1) (n : Nat) :
    contains (joinFrom low high rest) n = true ↔
      low ≤ n ∧ n ≤ high ∨ ∃ r ∈ rest, r.1 ≤ n ∧ n ≤ r.2 := by
  induction rest generalizing low high with
  | nil => simp [joinFrom, contains]
  | cons r rest ih =>
      obtain ⟨a, b⟩ := r
      simp only [List.pairwise_cons] at hsorted
      have hab : a ≤ b := hranges (a, b) List.mem_cons_self
      have hla : low ≤ a := hbehind (a, b) List.mem_cons_self
      have hrest : ∀ r ∈ rest, r.1 ≤ r.2 := fun r hr => hranges r (List.mem_cons_of_mem _ hr)
      simp only [joinFrom, List.mem_cons, exists_eq_or_imp]
      by_cases htouch : a ≤ high + 1
      · -- The two ranges become one.
        rw [if_pos htouch, ih (by omega) hrest
          (fun r hr => hbehind r (List.mem_cons_of_mem _ hr)) hsorted.2, ← or_assoc]
        apply or_congr_left
        omega
      · have hmore := ih hab hrest hsorted.1 hsorted.2
        rw [if_neg htouch, contains_cons, hmore]
        intro h
        rcases hmore.mp h with h | ⟨r, hr, h⟩
        · omega
        · have har : a ≤ r.1 := hsorted.1 r hr
          omega

theorem contains_ofList {ranges : List (Nat × Nat)} (hranges : ∀ r ∈ ranges, r.1 ≤ r.2) (n : Nat) :
    contains (ofList ranges) n = true ↔ ∃ r ∈ ranges, r.1 ≤ n ∧ n ≤ r.2 := by
  have hsorted := @List.pairwise_mergeSort (Nat × Nat) (fun r s => decide (r.1 ≤ s.1))
    (by
      intro r s t
      simp only [decide_eq_true_eq]
      omega)
    (by
      intro r s
      simp only [Bool.or_eq_true, decide_eq_true_eq]
      omega) ranges
  have hmem : ∀ r, r ∈ ranges.mergeSort (fun r s => decide (r.1 ≤ s.1)) ↔ r ∈ ranges :=
    fun r => List.mem_mergeSort
  unfold ofList
  generalize ranges.mergeSort (fun r s => decide (r.1 ≤ s.1)) = sorted at hsorted hmem
  simp only [← hmem] at hranges ⊢
  rcases sorted with _ | ⟨⟨low, high⟩, rest⟩
  · simp [join, contains]
  · simp only [List.pairwise_cons, decide_eq_true_eq] at hsorted
    have hlow := hranges (low, high) List.mem_cons_self
    simp only [join, List.mem_cons, exists_eq_or_imp]
    exact contains_joinFrom hlow (fun r hr => hranges r (List.mem_cons_of_mem _ hr)) hsorted.1
      hsorted.2 n

end Text.Ranges

namespace Pattern.CharSet

theorem contains_ofChars (chars : String) (c : Char) :
    (ofChars chars).contains c.toNat = chars.toList.contains c := by
  rw [Bool.eq_iff_iff, List.contains_iff_mem]
  unfold ofChars
  rw [Text.Ranges.contains_ofList]
  · constructor
    · rintro ⟨r, hr, hle, hge⟩
      obtain ⟨d, hd, rfl⟩ := List.mem_map.mp hr
      have hsame : d.toNat = c.toNat := Nat.le_antisymm hle hge
      rwa [← Char.toNat_inj.mp hsame]
    · intro hc
      exact ⟨_, List.mem_map_of_mem hc, Nat.le_refl _, Nat.le_refl _⟩
  · intro r hr
    obtain ⟨d, -, rfl⟩ := List.mem_map.mp hr
    exact Nat.le_refl _

theorem ofChars_ne_nil {chars : String} (h : chars.toList ≠ []) : ofChars chars ≠ [] := by
  obtain ⟨c, rest, hchars⟩ := List.exists_cons_of_ne_nil h
  intro hnil
  have hcontains := contains_ofChars chars c
  rw [hnil, hchars] at hcontains
  simp [Text.Ranges.contains] at hcontains

end Pattern.CharSet

end GrammarMachine
