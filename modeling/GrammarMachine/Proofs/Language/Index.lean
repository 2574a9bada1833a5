import GrammarMachine.Language.Index
import Mathlib.Algebra.GroupWithZero.Nat
import Mathlib.Algebra.Order.BigOperators.Group.List
import Mathlib.Algebra.Order.Group.Nat
import Mathlib.Logic.Function.Iterate

/-!
The index of the reachable languages. It is built by a worklist, whose turns are looked at one by
one: each turn keeps `Worklist.Sound` and takes from what is left to do. At the end nothing is
pending, so every dependency of an indexed language has its address indexed, though perhaps for
another language with the same address.
-/

namespace GrammarMachine

variable {σ : Type} {n : Nat}

/-- The languages that can be reached from a root by dependencies. -/
inductive Catalog.Reachable (catalog : Catalog σ n) (root : Fin n) : Fin n → Prop where
  | root : Reachable catalog root root
  | dependency {l k : Fin n} {name : String} : Reachable catalog root l →
      (name, k) ∈ (catalog l).dependencies → Reachable catalog root k

def Catalog.dependencyCount (catalog : Catalog σ n) : Nat :=
  ((List.finRange n).map fun l => (catalog l).dependencies.length).sum

/-- The languages still to be followed and those found so far. -/
structure Worklist (n : Nat) where
  pending : List (Fin n)
  found : List (Fin n)

namespace Worklist

open LanguageIndex

variable {catalog : Catalog σ n} {root : Fin n} {w : Worklist n}

/-- One turn of the worklist: the first pending language is dropped if its address is found, and
followed otherwise. -/
def turn (catalog : Catalog σ n) (w : Worklist n) : Worklist n :=
  match w.pending with
  | [] => w
  | l :: rest =>
      if isFound catalog w.found (catalog l).url then { w with pending := rest }
      else ⟨((catalog l).dependencies.map (·.2)).reverse ++ rest, l :: w.found⟩

theorem turn_of_found {l : Fin n} {rest : List (Fin n)} (hpending : w.pending = l :: rest)
    (h : isFound catalog w.found (catalog l).url = true) :
    w.turn catalog = { w with pending := rest } := by
  simp only [turn, hpending, h, if_true]

theorem turn_of_new {l : Fin n} {rest : List (Fin n)} (hpending : w.pending = l :: rest)
    (h : isFound catalog w.found (catalog l).url = false) :
    w.turn catalog = ⟨((catalog l).dependencies.map (·.2)).reverse ++ rest, l :: w.found⟩ := by
  simp only [turn, hpending, h, Bool.false_eq_true, if_false]

theorem collect_turn (catalog : Catalog σ n) (w : Worklist n) :
    collect catalog (w.turn catalog).pending (w.turn catalog).found =
      collect catalog w.pending w.found := by
  rcases w with ⟨_ | ⟨l, rest⟩, found⟩
  · rfl
  · rw [collect]
    unfold turn
    dsimp only
    split <;> rfl

/-- A worklist that has nothing pending after some turns has found what the index holds. -/
theorem collect_of_turns {count : Nat} {found : List (Fin n)}
    (h : (turn catalog)^[count] w = ⟨[], found⟩) : collect catalog w.pending w.found = found := by
  induction count generalizing w with
  | zero =>
      obtain rfl : w = ⟨[], found⟩ := h
      rw [collect]
  | succ count ih =>
      rw [Function.iterate_succ_apply] at h
      rw [← collect_turn]
      exact ih h

theorem isFound_iff {found : List (Fin n)} {url : String} :
    isFound catalog found url = true ↔ ∃ l ∈ found, (catalog l).url = url := by
  simp [isFound]

theorem isFound_cons {found : List (Fin n)} {url : String} (l : Fin n)
    (h : isFound catalog found url = true) : isFound catalog (l :: found) url = true := by
  obtain ⟨k, hk, hsame⟩ := isFound_iff.mp h
  exact isFound_iff.mpr ⟨k, List.mem_cons_of_mem _ hk, hsame⟩

/-- The number of dependencies of a language that are still to be followed. -/
def unfollowed (catalog : Catalog σ n) (found : List (Fin n)) (l : Fin n) : Nat :=
  if isFound catalog found (catalog l).url then 0 else (catalog l).dependencies.length

theorem unfollowed_cons_le (catalog : Catalog σ n) (found : List (Fin n)) (l k : Fin n) :
    unfollowed catalog (l :: found) k ≤ unfollowed catalog found k := by
  unfold unfollowed
  by_cases hk : isFound catalog found (catalog k).url = true
  · rw [if_pos (isFound_cons l hk)]
    exact Nat.zero_le _
  · rw [if_neg hk]
    split
    · exact Nat.zero_le _
    · exact Nat.le_refl _

theorem unfollowed_cons_self (catalog : Catalog σ n) (found : List (Fin n)) (l : Fin n) :
    unfollowed catalog (l :: found) l = 0 :=
  if_pos (isFound_iff.mpr ⟨l, List.mem_cons_self, rfl⟩)

/-- At most so many turns are left: one for each pending language, and one for each dependency of a
language whose address is not found. -/
def left (catalog : Catalog σ n) (w : Worklist n) : Nat :=
  w.pending.length + ((List.finRange n).map (unfollowed catalog w.found)).sum

theorem left_of_new {l : Fin n} {found : List (Fin n)}
    (h : isFound catalog found (catalog l).url = false) :
    (catalog l).dependencies.length +
        ((List.finRange n).map (unfollowed catalog (l :: found))).sum ≤
      ((List.finRange n).map (unfollowed catalog found)).sum := by
  have hnew : unfollowed catalog found l = (catalog l).dependencies.length := by
    rw [unfollowed, h]
    rfl
  have hweaker : ∀ k, unfollowed catalog (l :: found) k ≤ unfollowed catalog found k :=
    unfollowed_cons_le catalog found l
  obtain ⟨before, after, hall⟩ := List.append_of_mem (List.mem_finRange l)
  have hbefore := List.sum_le_sum (l := before) fun k _ => hweaker k
  have hafter := List.sum_le_sum (l := after) fun k _ => hweaker k
  simp only [hall, List.map_append, List.map_cons, List.sum_append, List.sum_cons, hnew,
    unfollowed_cons_self]
  omega

theorem left_turn_lt (h : w.pending ≠ []) : (w.turn catalog).left catalog < w.left catalog := by
  rcases hpending : w.pending with _ | ⟨l, rest⟩
  · exact absurd hpending h
  · rcases hfound : isFound catalog w.found (catalog l).url with _ | _
    · have hless := left_of_new hfound
      rw [turn_of_new hpending hfound]
      simp only [left, hpending, List.length_append, List.length_reverse, List.length_map,
        List.length_cons]
      omega
    · rw [turn_of_found hpending hfound]
      simp only [left, hpending, List.length_cons]
      omega

/-- What is left bounds the number of turns until nothing is pending. -/
theorem exists_turns (catalog : Catalog σ n) (w : Worklist n) :
    ∃ count ≤ w.left catalog,
      (turn catalog)^[count] w = ⟨[], collect catalog w.pending w.found⟩ := by
  generalize hleft : w.left catalog = left
  induction left using Nat.strongRecOn generalizing w with
  | ind left ih =>
      by_cases hpending : w.pending = []
      · refine ⟨0, Nat.zero_le _, ?_⟩
        rcases w with ⟨pending, found⟩
        obtain rfl : pending = [] := hpending
        rw [collect]
        rfl
      · have hless : (w.turn catalog).left catalog < w.left catalog := left_turn_lt hpending
        obtain ⟨count, hcount, hturns⟩ := ih _ (hleft ▸ hless) (w.turn catalog) rfl
        refine ⟨count + 1, by omega, ?_⟩
        rw [Function.iterate_succ_apply, hturns, collect_turn]

/-- What is known of a worklist that began with a root. -/
structure Sound (catalog : Catalog σ n) (root : Fin n) (w : Worklist n) : Prop where
  pending_reachable : ∀ l ∈ w.pending, catalog.Reachable root l
  found_reachable : ∀ l ∈ w.found, catalog.Reachable root l
  distinct : ∀ l ∈ w.found, ∀ k ∈ w.found, (catalog l).url = (catalog k).url → l = k
  closed : ∀ l ∈ w.found, ∀ name k, (name, k) ∈ (catalog l).dependencies →
    isFound catalog w.found (catalog k).url = true ∨ k ∈ w.pending
  rooted : root ∈ w.found ∨ w = ⟨[root], []⟩

theorem sound_root (catalog : Catalog σ n) (root : Fin n) :
    Sound catalog root ⟨[root], []⟩ where
  pending_reachable := List.forall_mem_singleton.mpr .root
  found_reachable := List.forall_mem_nil _
  distinct := List.forall_mem_nil _
  closed := List.forall_mem_nil _
  rooted := .inr rfl

theorem Sound.drop (h : w.Sound catalog root) {l : Fin n} {rest : List (Fin n)}
    (hpending : w.pending = l :: rest) (hfound : isFound catalog w.found (catalog l).url = true) :
    Sound catalog root { w with pending := rest } where
  pending_reachable := fun k hk => h.pending_reachable k (by simp [hpending, hk])
  found_reachable := h.found_reachable
  distinct := h.distinct
  closed := by
    intro k hk name dependency hdependency
    rcases h.closed k hk name dependency hdependency with hthere | hlater
    · exact .inl hthere
    · rw [hpending] at hlater
      rcases List.mem_cons.mp hlater with rfl | hlater
      · exact .inl hfound
      · exact .inr hlater
  rooted := by
    rcases h.rooted with hroot | rfl
    · exact .inl hroot
    · cases hfound

theorem Sound.follow (h : w.Sound catalog root) {l : Fin n} {rest : List (Fin n)}
    (hpending : w.pending = l :: rest)
    (hnew : isFound catalog w.found (catalog l).url = false) :
    Sound catalog root
      ⟨((catalog l).dependencies.map (·.2)).reverse ++ rest, l :: w.found⟩ where
  pending_reachable := by
    intro k hk
    rcases List.mem_append.mp hk with hk | hk
    · obtain ⟨⟨name, dependency⟩, hdependency, rfl⟩ := List.mem_map.mp (List.mem_reverse.mp hk)
      exact .dependency (h.pending_reachable l (by simp [hpending])) hdependency
    · exact h.pending_reachable k (by simp [hpending, hk])
  found_reachable :=
    List.forall_mem_cons.mpr ⟨h.pending_reachable l (by simp [hpending]), h.found_reachable⟩
  distinct := by
    have hfresh : ∀ k ∈ w.found, (catalog k).url ≠ (catalog l).url := by
      intro k hk hsame
      rw [isFound_iff.mpr ⟨k, hk, hsame⟩] at hnew
      cases hnew
    intro k hk j hj hsame
    rcases List.mem_cons.mp hk with rfl | hold
    · rcases List.mem_cons.mp hj with rfl | hother
      · rfl
      · exact absurd hsame.symm (hfresh j hother)
    · rcases List.mem_cons.mp hj with rfl | hother
      · exact absurd hsame (hfresh k hold)
      · exact h.distinct k hold j hother hsame
  closed := by
    intro k hk name dependency hdependency
    rcases List.mem_cons.mp hk with rfl | hk
    · refine .inr (List.mem_append_left _ (List.mem_reverse.mpr ?_))
      exact List.mem_map.mpr ⟨(name, dependency), hdependency, rfl⟩
    · rcases h.closed k hk name dependency hdependency with hthere | hlater
      · exact .inl (isFound_cons l hthere)
      · rw [hpending] at hlater
        rcases List.mem_cons.mp hlater with rfl | hlater
        · exact .inl (isFound_iff.mpr ⟨dependency, List.mem_cons_self, rfl⟩)
        · exact .inr (List.mem_append_right _ hlater)
  rooted := by
    rcases h.rooted with hroot | rfl
    · exact .inl (List.mem_cons_of_mem _ hroot)
    · obtain ⟨rfl, -⟩ := List.cons.inj hpending
      exact .inl List.mem_cons_self

theorem Sound.turn (h : w.Sound catalog root) : (w.turn catalog).Sound catalog root := by
  rcases hpending : w.pending with _ | ⟨l, rest⟩
  · have hsame : w.turn catalog = w := by simp only [Worklist.turn, hpending]
    rw [hsame]
    exact h
  · rcases hfound : isFound catalog w.found (catalog l).url with _ | _
    · rw [turn_of_new hpending hfound]
      exact h.follow hpending hfound
    · rw [turn_of_found hpending hfound]
      exact h.drop hpending hfound

theorem Sound.turns (h : w.Sound catalog root) (count : Nat) :
    ((Worklist.turn catalog)^[count] w).Sound catalog root := by
  induction count generalizing w with
  | zero => exact h
  | succ count ih => exact ih h.turn

theorem sound_found (catalog : Catalog σ n) (root : Fin n) :
    Sound catalog root ⟨[], (ofRoot catalog root).found⟩ := by
  obtain ⟨count, -, hturns⟩ := exists_turns catalog ⟨[root], []⟩
  have hsound := (sound_root catalog root).turns count
  rw [hturns] at hsound
  exact hsound

end Worklist

namespace LanguageIndex

open Worklist

variable {catalog : Catalog σ n} {root : Fin n}

theorem get?_eq_some {index : LanguageIndex n} {url : String} {l : Fin n}
    (h : index.get? catalog url = some l) : l ∈ index.found ∧ (catalog l).url = url :=
  ⟨List.mem_of_find?_eq_some h, by simpa using List.find?_some h⟩

theorem isSome_get? (index : LanguageIndex n) (url : String) :
    (index.get? catalog url).isSome = isFound catalog index.found url := by
  rw [Bool.eq_iff_iff, get?, List.find?_isSome, isFound_iff]
  simp only [decide_eq_true_eq]

theorem get?_of_mem {l : Fin n} (h : l ∈ (ofRoot catalog root).found) :
    (ofRoot catalog root).get? catalog (catalog l).url = some l := by
  have hsome : ((ofRoot catalog root).get? catalog (catalog l).url).isSome = true := by
    rw [isSome_get?]
    exact isFound_iff.mpr ⟨l, h, rfl⟩
  obtain ⟨k, hk⟩ := Option.isSome_iff_exists.mp hsome
  obtain ⟨hfound, hsame⟩ := get?_eq_some hk
  rw [hk, (sound_found catalog root).distinct k hfound l h hsame]

theorem root_mem_found : root ∈ (ofRoot catalog root).found := by
  rcases (sound_found catalog root).rooted with hroot | hpending
  · exact hroot
  · cases hpending

theorem reachable_of_get? {url : String} {l : Fin n}
    (h : (ofRoot catalog root).get? catalog url = some l) : catalog.Reachable root l :=
  (sound_found catalog root).found_reachable l (get?_eq_some h).1

/-- The index is closed under dependencies, up to languages with the same address. -/
theorem isFound_dependency {l k : Fin n} {name : String} (h : l ∈ (ofRoot catalog root).found)
    (hdependency : (name, k) ∈ (catalog l).dependencies) :
    isFound catalog (ofRoot catalog root).found (catalog k).url = true := by
  rcases (sound_found catalog root).closed l h name k hdependency with hfound | hpending
  · exact hfound
  · cases hpending

/-- Where no two reachable languages share an address, all of them are indexed. -/
theorem mem_found_of_reachable
    (hdistinct : ∀ l k, catalog.Reachable root l → catalog.Reachable root k →
      (catalog l).url = (catalog k).url → l = k)
    {l : Fin n} (h : catalog.Reachable root l) : l ∈ (ofRoot catalog root).found := by
  induction h with
  | root => exact root_mem_found
  | @dependency l k name hreachable hdependency ih =>
      obtain ⟨j, hj, hsame⟩ := isFound_iff.mp (isFound_dependency ih hdependency)
      have hreached := (sound_found catalog root).found_reachable j hj
      rw [← hdistinct j k hreached (.dependency hreachable hdependency) hsame]
      exact hj

theorem exists_resolve {index : LanguageIndex n} {url : String} {l : Fin n}
    (h : index.get? catalog url = some l) (scope : List (Fin n)) :
    ∃ found, index.resolve catalog scope (some url) = .ok found := by
  simp only [resolve, h]
  split
  · exact ⟨_, rfl⟩
  · exact ⟨l, rfl⟩

/-- The worklist comes to its end, with a turn for the root and at most one for each dependency. The
index maps addresses to reachable languages that have them, the address of the root to the root; it
is closed under dependencies, so if no two reachable languages share an address, it holds all of
them, and their addresses can be resolved in every scope. -/
theorem ofRoot_indexes (catalog : Catalog σ n) (root : Fin n) :
    let index := ofRoot catalog root
    (∃ count ≤ 1 + catalog.dependencyCount,
      (turn catalog)^[count] ⟨[root], []⟩ = ⟨[], index.found⟩) ∧
    index.get? catalog (catalog root).url = some root ∧
    (∀ url l, index.get? catalog url = some l →
      (catalog l).url = url ∧ catalog.Reachable root l) ∧
    (∀ url l, index.get? catalog url = some l → ∀ name k, (name, k) ∈ (catalog l).dependencies →
      ∃ found, index.get? catalog (catalog k).url = some found) ∧
    ((∀ l k, catalog.Reachable root l → catalog.Reachable root k →
        (catalog l).url = (catalog k).url → l = k) →
      ∀ l, catalog.Reachable root l → index.get? catalog (catalog l).url = some l ∧
        ∀ scope, ∃ found, index.resolve catalog scope (some (catalog l).url) = .ok found) := by
  refine ⟨?_, get?_of_mem root_mem_found, ?_, ?_, ?_⟩
  · obtain ⟨count, hcount, hturns⟩ := exists_turns catalog ⟨[root], []⟩
    refine ⟨count, hcount.trans ?_, hturns⟩
    have hall : unfollowed catalog [] = fun l => (catalog l).dependencies.length := rfl
    rw [left, Catalog.dependencyCount, hall]
    exact Nat.le_refl _
  · intro url l h
    exact ⟨(get?_eq_some h).2, reachable_of_get? h⟩
  · intro url l h name k hdependency
    refine Option.isSome_iff_exists.mp ?_
    rw [isSome_get?]
    exact isFound_dependency (get?_eq_some h).1 hdependency
  · intro hdistinct l hl
    have hget := get?_of_mem (mem_found_of_reachable hdistinct hl)
    exact ⟨hget, exists_resolve hget⟩

/-- Two languages share a dependency. One of them has another one, whose address is given. -/
def sharingCatalog (address : String) : Catalog Empty 5
  | 0 => ⟨"root", {}, [("left", 1), ("right", 2)]⟩
  | 1 => ⟨"left", {}, [("shared", 3)]⟩
  | 2 => ⟨"right", {}, [("other", 4), ("shared", 3)]⟩
  | 3 => ⟨"shared", {}, []⟩
  | 4 => ⟨address, {}, [("shared", 3)]⟩

/-- A language with the address of the root is not followed, and its address stands for the root. If
it has an address of its own, it is resolved even from the scope of the shared language. -/
theorem ofRoot_indexes_sharing :
    let same := sharingCatalog "root"
    let apart := sharingCatalog "other"
    (ofRoot same 0).found = [1, 3, 2, 0] ∧ (ofRoot same 0).get? same "root" = some 0 ∧
      same.Reachable 0 2 ∧ ("other", 4) ∈ (same 2).dependencies ∧
      (∃ found, (ofRoot same 0).get? same (same 4).url = some found) ∧
      (∀ l k, apart.Reachable 0 l → apart.Reachable 0 k → (apart l).url = (apart k).url → l = k) ∧
      ∃ found, (ofRoot apart 0).resolve apart [3] (some "other") = .ok found := by
  have hturns : (turn (sharingCatalog "root"))^[6] ⟨[0], []⟩ = ⟨[], [1, 3, 2, 0]⟩ := rfl
  have hfound : (ofRoot (sharingCatalog "root") 0).found = [1, 3, 2, 0] := collect_of_turns hturns
  have hright : (ofRoot (sharingCatalog "root") 0).get? (sharingCatalog "root") "right" =
      some 2 := by
    rw [get?, hfound]
    rfl
  obtain ⟨-, hroot, hmapped, hclosed, -⟩ := ofRoot_indexes (sharingCatalog "root") 0
  refine ⟨hfound, hroot, (hmapped "right" 2 hright).2, List.mem_cons_self, ?_, ?_⟩
  · exact hclosed "right" 2 hright "other" 4 List.mem_cons_self
  · have hdistinct : ∀ l k : Fin 5,
        (sharingCatalog "other" l).url = (sharingCatalog "other" k).url → l = k := by decide
    have hreached : (sharingCatalog "other").Reachable 0 2 :=
      .dependency .root (List.mem_cons_of_mem ("left", 1) List.mem_cons_self)
    have hother : (sharingCatalog "other").Reachable 0 4 :=
      .dependency hreached List.mem_cons_self
    obtain ⟨-, -, -, -, hresolves⟩ := ofRoot_indexes (sharingCatalog "other") 0
    have hdistinct' : ∀ l k, (sharingCatalog "other").Reachable 0 l →
        (sharingCatalog "other").Reachable 0 k →
        (sharingCatalog "other" l).url = (sharingCatalog "other" k).url → l = k :=
      fun l k _ _ => hdistinct l k
    exact ⟨hdistinct', (hresolves hdistinct' 4 hother).2 [3]⟩

end LanguageIndex

end GrammarMachine
