import GrammarMachine.Decimal.Shortest

/-!
Binary floating-point numbers of 64 bits, kept as their bits, with their decimal text.
-/

namespace GrammarMachine.Decimal

/-- A binary floating-point number of 64 bits. -/
structure Binary64 where
  bits : UInt64
  deriving DecidableEq

namespace Binary64

def isNegative (x : Binary64) : Bool :=
  x.bits.toNat / Nat.pow 2 63 = 1

/-- The biased exponent. -/
def biased (x : Binary64) : Nat :=
  x.bits.toNat / Nat.pow 2 52 % Nat.pow 2 11

/-- The stored part of the coefficient. -/
def fraction (x : Binary64) : Nat :=
  x.bits.toNat % Nat.pow 2 52

/-- The magnitude of a finite number that is not zero. -/
def magnitude (x : Binary64) : Binary :=
  if x.biased = 0 then ⟨x.fraction, -1074, false⟩
  else ⟨x.fraction + Nat.pow 2 52, (x.biased : Int) - 1075, x.fraction = 0 && 1 < x.biased⟩

/-- The nearest number to `coefficient * 10 ^ exponent`, negated on request. The exponent is first
brought within bounds beyond which the number is zero or infinite anyway. -/
def ofDecimal (negative : Bool) (coefficient : Nat) (exponent : Int) : Binary64 :=
  let lowest : Int := -400 - (Nat.toDigits 10 coefficient).length
  let exponent := max (min exponent 400) lowest
  let magnitude := Float.ofScientific coefficient (exponent < 0) exponent.natAbs
  ⟨(if negative then -magnitude else magnitude).toBits⟩

/-- The number `significand * 10 ^ exponent` computed in binary arithmetic: the significand is
rounded, then multiplied or divided by a rounded power of ten, and divided by `10 ^ 308` first as
often as the exponent lies below that. A number that is too large is refused. -/
def ofScaled? (negative : Bool) (significand : UInt64) (exponent : Int) : Option Binary64 :=
  let power (n : Nat) := Float.ofScientific 1 false n
  let signed (x : Float) : Binary64 := ⟨(if negative then -x else x).toBits⟩
  let base := significand.toFloat
  if significand = 0 then some (signed 0)
  else if exponent < 0 then
    let rounds := (exponent.natAbs - 1) / 308
    -- After three rounds nothing is left of any significand.
    let reduced := (List.range (min rounds 3)).foldl (fun x _ => x / power 308) base
    some (signed (reduced / power (exponent.natAbs - 308 * rounds)))
  else if 308 < exponent then none
  else
    let value := base * power exponent.natAbs
    if value.isInf then none else some (signed value)

/-- Which exponents are written with a sign. -/
inductive ExponentSign where
  | negative
  | always

def ExponentSign.text (sign : ExponentSign) (exponent : Int) : String :=
  match sign with
  | .negative => toString exponent
  | .always => (if 0 ≤ exponent then "+" else "") ++ toString exponent

/-- Text of a decimal. A point is written while it falls at most sixteen digits after the first one
and at most four zeros before it; a whole number keeps `.0`. Beyond that the text has an exponent.
-/
def scientificText (sign : ExponentSign) (d : Scientific) : String :=
  let digits := Nat.toDigits 10 d.coefficient
  let point : Int := digits.length + d.exponent
  let zeros (n : Int) := List.replicate n.toNat '0'
  String.ofList <|
    if 0 ≤ d.exponent && point ≤ 16 then digits ++ zeros d.exponent ++ ['.', '0']
    else if 0 < point && point ≤ 16 then
      digits.take point.toNat ++ '.' :: digits.drop point.toNat
    else if -5 < point && point ≤ 0 then ['0', '.'] ++ zeros (-point) ++ digits
    else
      let mantissa := match digits with
        | [] => []
        | [first] => [first]
        | first :: rest => first :: '.' :: rest
      mantissa ++ 'e' :: (sign.text (point - 1)).toList

/-- The shortest text that denotes the number; of two equally near ones the even one. -/
def text (sign : ExponentSign) (x : Binary64) : String :=
  (if x.isNegative then "-" else "") ++
    if x.biased = 0 && x.fraction = 0 then "0.0"
    else scientificText sign (x.magnitude.shortest .even)

/-- Whether the number is infinite or no number. -/
def isSpecial (x : Binary64) : Bool :=
  x.biased = 2047

/-- The nearest whole number that fits 64 bits without sign; halves are rounded up, and negative
numbers and those that are no number become zero. -/
def toWhole (x : Binary64) : Nat :=
  if x.isSpecial then
    if x.fraction = 0 && !x.isNegative then 0xffffffffffffffff else 0
  else if x.isNegative then 0
  else
    let (num, den) := x.magnitude.toFraction
    min ((2 * num + den) / (2 * den)) 0xffffffffffffffff

/-- The shortest text of a number without an exponent; of two equally near ones the larger one. -/
def plainText (x : Binary64) : String :=
  let sign := if x.isNegative then "-" else ""
  if x.isSpecial then
    if x.fraction = 0 then sign ++ "inf" else "NaN"
  else if x.biased = 0 && x.fraction = 0 then sign ++ "0"
  else
    let d := x.magnitude.shortest .up
    let digits := Nat.toDigits 10 d.coefficient
    let point : Int := digits.length + d.exponent
    sign ++ String.ofList (
      if 0 ≤ d.exponent then digits ++ List.replicate d.exponent.toNat '0'
      else if 0 < point then digits.take point.toNat ++ '.' :: digits.drop point.toNat
      else ['0', '.'] ++ List.replicate (-point).toNat '0' ++ digits)

end Binary64

end GrammarMachine.Decimal
