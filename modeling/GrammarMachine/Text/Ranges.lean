/-!
Sets of code points as ascending lists of closed ranges, with the usual operations on sets.
-/

namespace GrammarMachine.Text

/-- Closed ranges of code points in ascending order, no two of which overlap or touch. -/
abbrev Ranges := List (Nat × Nat)

namespace Ranges

/-- Whether `n` lies in one of the ranges. The search stops at the first range above `n`. -/
def contains : Ranges → Nat → Bool
  | [], _ => false
  | (low, high) :: rest, n =>
      if n < low then false else if n ≤ high then true else contains rest n

/-- Joins ranges that overlap or touch. The ranges come in ascending order of their starts, behind
one from `low` to `high`. -/
def joinFrom (low high : Nat) : List (Nat × Nat) → Ranges
  | [] => [(low, high)]
  | (a, b) :: rest =>
      if a ≤ high + 1 then joinFrom low (max high b) rest else (low, high) :: joinFrom a b rest

/-- Joins ranges that overlap or touch. The ranges come in ascending order of their starts. -/
def join : List (Nat × Nat) → Ranges
  | [] => []
  | (low, high) :: rest => joinFrom low high rest

/-- The ranges that are listed in any order. -/
def ofList (ranges : List (Nat × Nat)) : Ranges :=
  join (ranges.mergeSort fun r s => r.1 ≤ s.1)

def union (s t : Ranges) : Ranges :=
  join (s.merge t fun r s => r.1 ≤ s.1)

def unions (sets : List Ranges) : Ranges :=
  sets.foldl union []

/-- The characters from `low` on below `stop`; surrogates are no characters. -/
def gap (low stop : Nat) : Ranges :=
  let low := if 0xd800 ≤ low ∧ low < 0xe000 then 0xe000 else low
  let stop := if 0xd800 < stop ∧ stop ≤ 0xe000 then 0xd800 else stop
  if low < stop then [(low, stop - 1)] else []

/-- The characters from `start` on that lie in no range. -/
def gaps (start : Nat) : Ranges → Ranges
  | [] => gap start 0x110000
  | (low, high) :: rest => gap start low ++ gaps (high + 1) rest

/-- The characters that are not in the set. -/
def complement (s : Ranges) : Ranges :=
  s.gaps 0

def inter (s t : Ranges) : Ranges :=
  (s.complement.union t.complement).complement

def diff (s t : Ranges) : Ranges :=
  s.inter t.complement

def symmDiff (s t : Ranges) : Ranges :=
  (s.diff t).union (t.diff s)

end Ranges

end GrammarMachine.Text
