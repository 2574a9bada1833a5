import GrammarMachine.Language.Basic

/-!
The languages that can be reached from a root language by dependencies, indexed by address, and the
resolution of the names by which goals refer to languages. Where two languages share an address, the
one met first is indexed and the other one is not followed.
-/

namespace GrammarMachine

/-- The indexed languages, the one met last first. -/
structure LanguageIndex (n : Nat) where
  root : Fin n
  found : List (Fin n)

namespace LanguageIndex

variable {σ : Type} {n : Nat}

def isFound (catalog : Catalog σ n) (found : List (Fin n)) (url : String) : Bool :=
  found.any fun l => (catalog l).url = url

def unfound (catalog : Catalog σ n) (found : List (Fin n)) : Nat :=
  (List.finRange n).countP fun l => !isFound catalog found (catalog l).url

/-- A weaker test that holds of one more member counts more members. -/
theorem countP_lt_countP {α : Type} {p q : α → Bool} {x : α} {xs : List α}
    (weaker : ∀ a, p a = true → q a = true) (hx : x ∈ xs) (hp : p x = false) (hq : q x = true) :
    xs.countP p < xs.countP q := by
  induction xs with
  | nil => cases hx
  | cons a xs ih =>
      have htail : xs.countP p ≤ xs.countP q := List.countP_mono_left fun a _ => weaker a
      rw [List.countP_cons, List.countP_cons]
      rcases List.mem_cons.mp hx with rfl | hx
      · simp only [hp, hq]
        simp
        omega
      · have hlt := ih hx
        by_cases ha : p a = true
        · simp only [ha, weaker a ha]
          simp
          omega
        · rw [if_neg ha]
          split <;> omega

theorem unfound_cons_lt (catalog : Catalog σ n) {found : List (Fin n)} {l : Fin n}
    (h : isFound catalog found (catalog l).url = false) :
    unfound catalog (l :: found) < unfound catalog found := by
  apply countP_lt_countP (x := l)
  · intro k
    simp only [isFound, List.any_cons, Bool.not_eq_true', Bool.or_eq_false_iff]
    exact And.right
  · exact List.mem_finRange l
  · simp [isFound]
  · simp [h]

/-- Follows the pending languages, the first one first, and with it its dependencies from the last
name to the first. -/
def collect (catalog : Catalog σ n) (pending found : List (Fin n)) : List (Fin n) :=
  match pending with
  | [] => found
  | l :: rest =>
      if isFound catalog found (catalog l).url then collect catalog rest found
      -- A cycle ends here: a language is found before its dependencies are followed.
      else collect catalog (((catalog l).dependencies.map (·.2)).reverse ++ rest) (l :: found)
termination_by (unfound catalog found, pending.length)
decreasing_by
  · exact Prod.Lex.right _ (by simp)
  · exact Prod.Lex.left _ _ (unfound_cons_lt catalog (Bool.eq_false_iff.mpr ‹_›))

/-- The index of the languages that can be reached from a root. -/
def ofRoot (catalog : Catalog σ n) (root : Fin n) : LanguageIndex n :=
  ⟨root, collect catalog [root] []⟩

def get? (index : LanguageIndex n) (catalog : Catalog σ n) (url : String) : Option (Fin n) :=
  index.found.find? fun l => (catalog l).url = url

/-- The language that a name stands for in a scope: from the innermost language outwards one with
this address or else a dependency of this name. -/
def inScope? (catalog : Catalog σ n) (reference : String) : List (Fin n) → Option (Fin n)
  | [] => none
  | l :: outer =>
      if (catalog l).url = reference then some l
      else
        match (catalog l).dependency? reference with
        | some found => some found
        | none => inScope? catalog reference outer

/-- The language that a goal means in a scope, which is given innermost first. Without a name it is
the innermost language; a name that means nothing in the scope is an address. -/
def resolve (index : LanguageIndex n) (catalog : Catalog σ n) (scope : List (Fin n))
    (reference : Option String) : Except ParseError (Fin n) :=
  let current := scope.head?.getD index.root
  match reference with
  | none => .ok current
  | some reference =>
      match inScope? catalog reference scope with
      | some found => .ok found
      | none =>
          match index.get? catalog reference with
          | some found => .ok found
          | none => .error (.unresolvableLanguage (catalog current).url reference)

end LanguageIndex

end GrammarMachine
