import GrammarMachine.Pattern.Basic
import Mathlib.Data.List.TakeDrop

/-!
What programs find. The end of a match lies in the text, so what a pattern reads is as long as the
match. Programs of simple patterns find a row of characters of one set, one character, or one
character behind such a row.
-/

namespace GrammarMachine.Pattern

namespace Program

variable {p : Program} {point fuel place : Nat} {before after : Option Char}
  {stack waiting : List Nat} {entered : Array Nat}

theorem found_le {accepted : Bool} {found : Option Nat}
    (hfound : ∀ earlier ∈ found, earlier ≤ point - 1) :
    ∀ earlier ∈ (if accepted then some (point - 1) else found), earlier ≤ point - 1 := by
  cases accepted with
  | true =>
      intro earlier hearlier
      cases hearlier
      exact Nat.le_refl _
  | false => exact hfound

/-- A run finds no end behind the text that is left, if none was found before behind the point that
it has reached. -/
theorem run_le {text : List Char} {threads : Threads} {found : Option Nat} {stop : Nat}
    (hfound : ∀ earlier ∈ found, earlier ≤ point - 1)
    (h : p.run point text threads found = some stop) : stop ≤ point - 1 + text.length := by
  fun_induction p.run point text threads found with
  | case1 point _ _ found => exact found_le hfound stop h
  | case2 point _ _ found =>
      have hstop := found_le hfound stop h
      omega
  | case3 point _ _ found _ _ _ _ c rest _ _ _ ih =>
      have hnext : point - 1 ≤ point + 1 - 1 := by omega
      have hstop := ih (fun earlier hearlier =>
        Nat.le_trans (found_le hfound earlier hearlier) hnext) h
      rw [List.length_cons]
      omega

theorem matchEnd?_le_length {text : List Char} {stop : Nat} (h : p.matchEnd? text = some stop) :
    stop ≤ text.length := by
  have hstop := run_le (fun earlier hearlier => by cases hearlier) h
  omega

theorem enter_nil (threads : Threads) :
    p.enter point before after fuel [] threads = threads := by
  cases fuel <;> rfl

theorem enter_fork {first second : Nat} (hcode : p.code[place]? = some (.fork first second))
    (hnew : entered[place]? ≠ some point) :
    p.enter point before after (fuel + 1) (place :: stack) ⟨waiting, entered⟩ =
      p.enter point before after fuel (first :: second :: stack)
        ⟨waiting, entered.setIfInBounds place point⟩ := by
  simp only [enter, if_neg hnew, hcode]

theorem enter_look {test : Look} {next : Nat} (hcode : p.code[place]? = some (.look test next))
    (hnew : entered[place]? ≠ some point) (htest : test.holds before after = true) :
    p.enter point before after (fuel + 1) (place :: stack) ⟨waiting, entered⟩ =
      p.enter point before after fuel (next :: stack)
        ⟨waiting, entered.setIfInBounds place point⟩ := by
  simp only [enter, if_neg hnew, hcode, if_pos htest]

theorem enter_one {set : CharSet} {next : Nat} (hcode : p.code[place]? = some (.one set next))
    (hnew : entered[place]? ≠ some point) :
    p.enter point before after (fuel + 1) (place :: stack) ⟨waiting, entered⟩ =
      p.enter point before after fuel stack
        ⟨place :: waiting, entered.setIfInBounds place point⟩ := by
  simp only [enter, if_neg hnew, hcode]

theorem enter_accept (hcode : p.code[place]? = some .accept) (hnew : entered[place]? ≠ some point) :
    p.enter point before after (fuel + 1) (place :: stack) ⟨waiting, entered⟩ =
      p.enter point before after fuel stack
        ⟨place :: waiting, entered.setIfInBounds place point⟩ := by
  simp only [enter, if_neg hnew, hcode]

theorem run_cons (hanchored : p.anchored = true) {c : Char} {text : List Char} {live : List Nat}
    {accepted : Bool} (hlive : p.beforeAccept waiting.reverse = (live, accepted))
    (found : Option Nat) :
    p.run (point + 1) (c :: text) ⟨waiting, entered⟩ found =
      let found := if accepted then some point else found
      let threads := p.advance (point + 2) c text.head? live entered
      if threads.waiting.isEmpty then found else p.run (point + 2) text threads found := by
  simp only [run, hlive, hanchored, Bool.true_or, if_true, Bool.and_true, Nat.add_sub_cancel]

theorem advance_nil (c : Char) : p.advance point c after [] entered = ⟨[], entered⟩ := rfl

theorem advance_hit {set : CharSet} {next : Nat} (hcode : p.code[place]? = some (.one set next))
    {c : Char} (hc : set.contains c.toNat = true) :
    p.advance point c after [place] entered =
      p.enterAt point (some c) after ⟨[], entered⟩ next := by
  simp only [advance, List.foldl_cons, List.foldl_nil, hcode, if_pos hc]

/-- A thread that is stopped by a character leaves the others as they are. -/
theorem advance_hit_miss {place' : Nat} {set set' : CharSet} {next next' : Nat}
    (hcode : p.code[place]? = some (.one set next))
    (hcode' : p.code[place']? = some (.one set' next')) {c : Char}
    (hc : set.contains c.toNat = true) (hc' : ¬ set'.contains c.toNat = true) :
    p.advance point c after [place, place'] entered =
      p.enterAt point (some c) after ⟨[], entered⟩ next := by
  simp only [advance, List.foldl_cons, List.foldl_nil, hcode, hcode', if_pos hc, if_neg hc']

theorem advance_miss {set : CharSet} {next : Nat} (hcode : p.code[place]? = some (.one set next))
    {c : Char} (hc : ¬ set.contains c.toNat = true) (places : List Nat) :
    p.advance point c after (place :: places) entered = p.advance point c after places entered := by
  simp only [advance, List.foldl_cons, hcode, if_neg hc]

/-- The program of a repetition of one character, which begins with the fork or behind it. -/
def loop (set : CharSet) (start : Nat) : Program :=
  ⟨#[.accept, .fork 2 0, .one set 1, .look .textStart start], 3, true⟩

theorem ofExpr_star {set : CharSet} (hset : set ≠ []) :
    ofExpr (.seq (.look .textStart) (.rep (.one set) 0 none true)) = loop set 1 := by
  simp [ofExpr, loop, Expr.compile, Expr.leastLength?, hset, Block.star, Block.emit, Block.fork,
    Expr.beginsWith]

theorem ofExpr_plus (set : CharSet) :
    ofExpr (.seq (.look .textStart) (.rep (.one set) 1 none true)) = loop set 2 := by
  simp [ofExpr, loop, Expr.compile, Block.plus, Block.exactly, Block.emit, Block.fork,
    Expr.beginsWith]

theorem enter_loop (set : CharSet) (start : Nat) {a b c d : Nat} (ha : a ≠ point) (hb : b ≠ point)
    (hc : c ≠ point) :
    (loop set start).enter point before after (fuel + 4) [1] ⟨[], #[a, b, c, d]⟩ =
      ⟨[0, 2], #[point, point, point, d]⟩ := by
  rw [@enter_fork (loop set start) point _ 1 _ _ _ _ _ 2 0 rfl (by simpa using hb),
    @enter_one (loop set start) point _ 2 _ _ _ _ _ set 1 rfl (by simpa using hc),
    @enter_accept (loop set start) point _ 0 _ _ _ _ _ rfl (by simpa using ha), enter_nil]
  rfl

/-- A repetition takes all the characters of its set. -/
theorem run_loop (set : CharSet) (start : Nat) (text : List Char) (d : Nat) (found : Option Nat) :
    (loop set start).run (point + 1) text ⟨[0, 2], #[point + 1, point + 1, point + 1, d]⟩ found =
      some (point + (text.takeWhile fun c => set.contains c.toNat).length) := by
  induction text generalizing point found with
  | nil => rfl
  | cons c text ih =>
      rw [@run_cons (loop set start) _ _ _ rfl c text [2] true rfl]
      by_cases hc : set.contains c.toNat = true
      · have hadvance : (loop set start).advance (point + 2) c text.head? [2]
            #[point + 1, point + 1, point + 1, d] =
              ⟨[0, 2], #[point + 2, point + 2, point + 2, d]⟩ := by
          rw [@advance_hit (loop set start) _ 2 _ _ set 1 rfl c hc]
          exact enter_loop set start (by omega) (by omega) (by omega)
        simp only [hadvance, List.isEmpty_cons, Bool.false_eq_true, if_false, if_true]
        rw [ih, List.takeWhile_cons, if_pos hc, List.length_cons]
        congr 1
        omega
      · rw [@advance_miss (loop set start) _ 2 _ _ set 1 rfl c hc, advance_nil]
        simp only [List.isEmpty_nil, if_true]
        rw [List.takeWhile_cons, if_neg hc]
        rfl

theorem matchEnd?_look {next : Nat}
    (hcode : p.code[p.start]? = some (.look .textStart next)) (text : List Char) :
    p.matchEnd? text =
      p.run 1 text (p.enter 1 none text.head? (2 * p.code.size + 1) [next]
        ⟨[], (Array.replicate p.code.size 0).setIfInBounds p.start 1⟩) none := by
  unfold matchEnd? enterAt noThreads
  rw [enter_look hcode]
  · intro h
    rw [Array.getElem?_replicate] at h
    split at h
    · simp at h
    · cases h
  · rfl

theorem matchEnd?_star (set : CharSet) (text : List Char) :
    (loop set 1).matchEnd? text = some (text.takeWhile fun c => set.contains c.toNat).length := by
  rw [@matchEnd?_look (loop set 1) 1 rfl]
  have henter := @enter_loop 1 5 none text.head? set 1 0 0 0 1 (by omega) (by omega) (by omega)
  have hrun := @run_loop 0 set 1 text 1 none
  simp only [Nat.zero_add] at hrun
  exact (congrArg (fun threads => (loop set 1).run 1 text threads none) henter).trans hrun

theorem matchEnd?_plus (set : CharSet) (text : List Char) :
    (loop set 2).matchEnd? text =
      let taken := text.takeWhile fun c => set.contains c.toNat
      if taken.isEmpty then none else some taken.length := by
  have henter : (loop set 2).enter 1 none text.head? 9 [2] ⟨[], #[0, 0, 0, 1]⟩ =
      ⟨[2], #[0, 0, 1, 1]⟩ := by
    rw [@enter_one (loop set 2) 1 8 2 none _ [] [] _ set 1 rfl (by simp), enter_nil]
    rfl
  rw [@matchEnd?_look (loop set 2) 2 rfl]
  change (loop set 2).run 1 text ((loop set 2).enter 1 none text.head? 9 [2] ⟨[], #[0, 0, 0, 1]⟩)
    none = _
  rw [henter]
  rcases text with _ | ⟨c, text⟩
  · rfl
  · rw [@run_cons (loop set 2) _ _ _ rfl c text [2] false rfl]
    by_cases hc : set.contains c.toNat = true
    · have hadvance : (loop set 2).advance 2 c text.head? [2] #[0, 0, 1, 1] =
          ⟨[0, 2], #[2, 2, 2, 1]⟩ := by
        rw [@advance_hit (loop set 2) _ 2 _ _ set 1 rfl c hc]
        exact enter_loop set 2 (by omega) (by omega) (by omega)
      simp only [Nat.zero_add, hadvance, List.isEmpty_cons, Bool.false_eq_true, if_false]
      rw [run_loop set 2 text 1, List.takeWhile_cons, if_pos hc]
      simp [Nat.add_comm]
    · rw [@advance_miss (loop set 2) _ 2 _ _ set 1 rfl c hc, advance_nil]
      simp only [List.isEmpty_nil, if_true]
      rw [List.takeWhile_cons, if_neg hc]
      rfl

def single (set : CharSet) : Program :=
  ⟨#[.accept, .one set 0, .look .textStart 1], 2, true⟩

theorem ofExpr_one (set : CharSet) :
    ofExpr (.seq (.look .textStart) (.one set)) = single set := by
  simp [ofExpr, single, Expr.compile, Block.emit, Expr.beginsWith]

theorem run_accept (hanchored : p.anchored = true) (hcode : p.code[place]? = some .accept)
    (text : List Char) (found : Option Nat) :
    p.run (point + 1) text ⟨[place], entered⟩ found = some point := by
  have hlive : p.beforeAccept [place].reverse = ([], true) := by
    simp [beforeAccept, List.span_eq_takeWhile_dropWhile, hcode]
  rcases text with _ | ⟨c, text⟩
  · simp only [run, hlive, if_true, Nat.add_sub_cancel]
  · rw [run_cons hanchored hlive, advance_nil]
    rfl

theorem matchEnd?_single (set : CharSet) (text : List Char) :
    (single set).matchEnd? text =
      if (text.head?.any fun c => set.contains c.toNat) then some 1 else none := by
  have henter : (single set).enter 1 none text.head? 7 [1] ⟨[], #[0, 0, 1]⟩ =
      ⟨[1], #[0, 1, 1]⟩ := by
    rw [@enter_one (single set) 1 6 1 none _ [] [] _ set 0 rfl (by simp), enter_nil]
    rfl
  rw [@matchEnd?_look (single set) 1 rfl]
  change (single set).run 1 text ((single set).enter 1 none text.head? 7 [1] ⟨[], #[0, 0, 1]⟩)
    none = _
  rw [henter]
  rcases text with _ | ⟨c, text⟩
  · rfl
  · rw [@run_cons (single set) _ _ _ rfl c text [1] false rfl, List.head?_cons, Option.any_some]
    by_cases hc : set.contains c.toNat = true
    · have hadvance : (single set).advance 2 c text.head? [1] #[0, 1, 1] = ⟨[0], #[2, 1, 1]⟩ := by
        rw [@advance_hit (single set) _ 1 _ _ set 0 rfl c hc]
        exact (@enter_accept (single set) 2 7 0 _ _ [] [] _ rfl (by simp)).trans (enter_nil _)
      simp only [Nat.zero_add, hadvance, List.isEmpty_cons, Bool.false_eq_true, if_false]
      rw [@run_accept (single set) 1 0 _ rfl rfl, if_pos hc]
    · rw [@advance_miss (single set) _ 1 _ _ set 0 rfl c hc, advance_nil]
      simp only [List.isEmpty_nil, if_true, Bool.false_eq_true, if_false]
      rw [if_neg hc]

/-- The program of one character behind a repetition. -/
def loopThen (set last : CharSet) : Program :=
  ⟨#[.accept, .one last 0, .fork 3 1, .one set 2, .look .textStart 2], 4, true⟩

theorem ofExpr_starOne {set : CharSet} (hset : set ≠ []) (last : CharSet) :
    ofExpr (.seq (.look .textStart) (.seq (.rep (.one set) 0 none true) (.one last))) =
      loopThen set last := by
  simp [ofExpr, loopThen, Expr.compile, Expr.leastLength?, hset, Block.star, Block.emit,
    Block.fork, Expr.beginsWith]

theorem enter_loopThen (set last : CharSet) {a b c d e : Nat} (hb : b ≠ point) (hc : c ≠ point)
    (hd : d ≠ point) :
    (loopThen set last).enter point before after (fuel + 4) [2] ⟨[], #[a, b, c, d, e]⟩ =
      ⟨[1, 3], #[a, point, point, point, e]⟩ := by
  rw [@enter_fork (loopThen set last) point _ 2 _ _ _ _ _ 3 1 rfl (by simpa using hc),
    @enter_one (loopThen set last) point _ 3 _ _ _ _ _ set 2 rfl (by simpa using hd),
    @enter_one (loopThen set last) point _ 1 _ _ _ _ _ last 0 rfl (by simpa using hb), enter_nil]
  rfl

theorem run_loopThen {set last : CharSet}
    (hdisjoint : ∀ c : Char, set.contains c.toNat = true → ¬ last.contains c.toNat = true)
    (text : List Char) {a : Nat} (ha : a ≤ point) (e : Nat) :
    (loopThen set last).run (point + 1) text
        ⟨[1, 3], #[a, point + 1, point + 1, point + 1, e]⟩ none =
      if (text.dropWhile fun c => set.contains c.toNat).head?.any (last.contains ·.toNat) then
        some (point + (text.takeWhile fun c => set.contains c.toNat).length + 1)
      else none := by
  induction text generalizing point with
  | nil => rfl
  | cons c text ih =>
      rw [@run_cons (loopThen set last) _ _ _ rfl c text [3, 1] false rfl]
      by_cases hc : set.contains c.toNat = true
      · have hadvance : (loopThen set last).advance (point + 2) c text.head? [3, 1]
            #[a, point + 1, point + 1, point + 1, e] =
              ⟨[1, 3], #[a, point + 2, point + 2, point + 2, e]⟩ := by
          rw [@advance_hit_miss (loopThen set last) _ 3 _ _ 1 set last 2 0 rfl rfl c hc
            (hdisjoint c hc)]
          exact enter_loopThen set last (by omega) (by omega) (by omega)
        simp only [hadvance, List.isEmpty_cons, Bool.false_eq_true, if_false]
        rw [ih (by omega), List.takeWhile_cons, List.dropWhile_cons, if_pos hc, if_pos hc,
          List.length_cons]
        split
        · congr 1
          omega
        · rfl
      · rw [@advance_miss (loopThen set last) _ 3 _ _ set 2 rfl c hc, List.takeWhile_cons,
          List.dropWhile_cons, if_neg hc, if_neg hc, List.head?_cons, Option.any_some]
        by_cases hlast : last.contains c.toNat = true
        · have hadvance : (loopThen set last).advance (point + 2) c text.head? [1]
              #[a, point + 1, point + 1, point + 1, e] =
                ⟨[0], #[point + 2, point + 1, point + 1, point + 1, e]⟩ := by
            rw [@advance_hit (loopThen set last) _ 1 _ _ last 0 rfl c hlast]
            refine (@enter_accept (loopThen set last) (point + 2) 11 0 _ _ [] [] _ rfl ?_).trans
              (enter_nil _)
            simp
            omega
          simp only [hadvance, List.isEmpty_cons, Bool.false_eq_true, if_false]
          rw [@run_accept (loopThen set last) (point + 1) 0 _ rfl rfl, if_pos hlast]
          rfl
        · rw [@advance_miss (loopThen set last) _ 1 _ _ last 0 rfl c hlast, advance_nil]
          simp only [List.isEmpty_nil, if_true, Bool.false_eq_true, if_false]
          rw [if_neg hlast]

theorem matchEnd?_loopThen {set last : CharSet}
    (hdisjoint : ∀ c : Char, set.contains c.toNat = true → ¬ last.contains c.toNat = true)
    (text : List Char) :
    (loopThen set last).matchEnd? text =
      if (text.dropWhile fun c => set.contains c.toNat).head?.any (last.contains ·.toNat) then
        some ((text.takeWhile fun c => set.contains c.toNat).length + 1)
      else none := by
  rw [@matchEnd?_look (loopThen set last) 2 rfl]
  have henter := @enter_loopThen 1 7 none text.head? set last 0 0 0 0 1 (by omega) (by omega)
    (by omega)
  have hrun := @run_loopThen 0 set last hdisjoint text 0 (Nat.le_refl 0) 1
  simp only [Nat.zero_add] at hrun
  exact (congrArg (fun threads => (loopThen set last).run 1 text threads none) henter).trans hrun

end Program

/-- A pattern reads the part of the text, from its start, that is as long as the match found. -/
theorem read?_eq_some_iff {p : Pattern} {text taken : List Char} :
    p.read? text = some taken ↔
      taken <+: text ∧ p.program.matchEnd? text = some taken.length := by
  constructor
  · intro h
    obtain ⟨stop, hstop, rfl⟩ := Option.map_eq_some_iff.mp h
    refine ⟨List.take_prefix stop text, ?_⟩
    rw [hstop, List.length_take, Nat.min_eq_left (Program.matchEnd?_le_length hstop)]
  · rintro ⟨htaken, hstop⟩
    rw [read?, hstop, Option.map_some, ← List.prefix_iff_eq_take.mp htaken]

theorem take_takeWhile_length (p : Char → Bool) (text : List Char) :
    text.take (text.takeWhile p).length = text.takeWhile p :=
  (List.prefix_iff_eq_take.mp (List.takeWhile_prefix p)).symm

theorem read?_star {set : CharSet} (hset : set ≠ []) (source : String) (text : List Char) :
    (ofExpr source (.rep (.one set) 0 none true)).read? text =
      some (text.takeWhile fun c => set.contains c.toNat) := by
  simp only [read?, ofExpr, Program.ofExpr_star hset, Program.matchEnd?_star, Option.map_some,
    take_takeWhile_length]

theorem read?_plus (set : CharSet) (source : String) (text : List Char) :
    (ofExpr source (.rep (.one set) 1 none true)).read? text =
      let taken := text.takeWhile fun c => set.contains c.toNat
      if taken.isEmpty then none else some taken := by
  simp only [read?, ofExpr, Program.ofExpr_plus, Program.matchEnd?_plus]
  split
  · rfl
  · rw [Option.map_some, take_takeWhile_length]

theorem read?_one (set : CharSet) (source : String) (text : List Char) :
    (ofExpr source (.one set)).read? text =
      (text.head?.filter fun c => set.contains c.toNat).map fun c => [c] := by
  simp only [read?, ofExpr, Program.ofExpr_one, Program.matchEnd?_single]
  rcases text with _ | ⟨c, text⟩
  · rfl
  · by_cases hc : set.contains c.toNat = true <;> simp [Option.filter, hc]

theorem isSome_read?_starOne {set last : CharSet} (hset : set ≠ [])
    (hdisjoint : ∀ c : Char, set.contains c.toNat = true → ¬ last.contains c.toNat = true)
    (source : String) (text : List Char) :
    ((ofExpr source (.seq (.rep (.one set) 0 none true) (.one last))).read? text).isSome =
      (text.dropWhile fun c => set.contains c.toNat).head?.any (last.contains ·.toNat) := by
  simp only [read?, ofExpr, Program.ofExpr_starOne hset, Program.matchEnd?_loopThen hdisjoint,
    Option.isSome_map]
  split
  · rename_i h
    rw [h]
    rfl
  · rename_i h
    rw [Bool.not_eq_true] at h
    rw [h]
    rfl

end GrammarMachine.Pattern
