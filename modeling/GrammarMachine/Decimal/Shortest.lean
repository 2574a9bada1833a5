/-!
The shortest decimal that denotes a given binary floating-point number: of all decimals that lie
nearer to it than to any other number of its format, one with the fewest digits, and of these the
nearest; where two are equally near, a rule says which one is taken.
-/

namespace GrammarMachine.Decimal

/-- A positive number `coefficient * 2 ^ exponent` together with how close its lower neighbour is:
half as far away as the upper one at the bottom of a binade. -/
structure Binary where
  coefficient : Nat
  exponent : Int
  narrowBelow : Bool

/-- A number `coefficient * 10 ^ exponent`. -/
structure Scientific where
  coefficient : Nat
  exponent : Int
  deriving DecidableEq

/-- Which of two decimals that are equally near is taken: the one whose last digit is even, or the
larger one. -/
inductive Tie where
  | even
  | up

/-- `base ^ exponent` as a fraction. -/
def powerFraction (base : Nat) (exponent : Int) : Nat × Nat :=
  if exponent < 0 then (1, Nat.pow base (-exponent).toNat) else (Nat.pow base exponent.toNat, 1)

namespace Binary

/-- The number as a fraction. -/
def toFraction (x : Binary) : Nat × Nat :=
  let (num, den) := powerFraction 2 x.exponent
  (x.coefficient * num, den)

/-- How many leading decimal zeros follow the point in `num / den`, looking at most `fuel` places.
-/
def leadingZeros (num den : Nat) : Nat → Nat
  | 0 => 0
  | fuel + 1 => if den ≤ num * 10 then 0 else leadingZeros (num * 10) den fuel + 1

/-- The exponent of the leading decimal digit. -/
def leadingExponent (x : Binary) : Int :=
  let (num, den) := x.toFraction
  if den ≤ num then (Nat.toDigits 10 (num / den)).length - 1
  else -1 - (leadingZeros num den 400 : Nat)

/-- Whether `d` rounds to `x`: it lies between the midpoints to the neighbours of `x`, which
themselves round to `x` if its coefficient is even. -/
def admits (x : Binary) (d : Scientific) : Bool :=
  let (num10, den10) := powerFraction 10 d.exponent
  let (num2, den2) := powerFraction 2 x.exponent
  let value := 4 * d.coefficient * num10 * den2
  let upper := (4 * x.coefficient + 2) * num2 * den10
  let lower := (4 * x.coefficient - if x.narrowBelow then 1 else 2) * num2 * den10
  if x.coefficient % 2 = 0 then lower ≤ value && value ≤ upper
  else lower < value && value < upper

/-- The two neighbours of `x` on the grid of step `10 ^ exponent`, and whether the upper one is
nearer or equally near and taken by the rule for ties. -/
def neighbours (tie : Tie) (x : Binary) (exponent : Int) : Scientific × Scientific × Bool :=
  let (num10, den10) := powerFraction 10 exponent
  let (num, den) := x.toFraction
  let below := num * den10 / (den * num10)
  let rest := num * den10 % (den * num10)
  let takesUpper := match tie with
    | .even => below % 2 = 1
    | .up => true
  (⟨below, exponent⟩, ⟨below + 1, exponent⟩,
    den * num10 < 2 * rest || (den * num10 = 2 * rest && takesUpper))

/-- The nearest admitted neighbour on a grid. -/
def onGrid (tie : Tie) (x : Binary) (exponent : Int) : Option Scientific :=
  let (below, above, takesAbove) := x.neighbours tie exponent
  match x.admits below, x.admits above with
  | true, true => some (if takesAbove then above else below)
  | true, false => some below
  | false, true => some above
  | false, false => none

/-- The first hit on the grids of `digits`, `digits + 1`, … significant digits. -/
def search (tie : Tie) (x : Binary) (lead : Int) (digits : Nat) : Nat → Scientific
  | 0 => (x.neighbours tie (lead + 1 - digits)).1
  | fuel + 1 =>
      match x.onGrid tie (lead + 1 - digits) with
      | some found => found
      | none => search tie x lead (digits + 1) fuel

/-- Removes trailing zeros of the coefficient, at most `fuel` of them. -/
def trim : Nat → Scientific → Scientific
  | 0, d => d
  | fuel + 1, d =>
      if d.coefficient % 10 = 0 && d.coefficient ≠ 0
      then trim fuel ⟨d.coefficient / 10, d.exponent + 1⟩ else d

/-- The shortest decimal that rounds to `x`. Seventeen digits always suffice. -/
def shortest (tie : Tie) (x : Binary) : Scientific :=
  trim 20 (search tie x x.leadingExponent 1 17)

end Binary

end GrammarMachine.Decimal
