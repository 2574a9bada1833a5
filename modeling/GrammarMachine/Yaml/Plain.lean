/-!
Texts that YAML readers take for something else than a string: null, truth values and numbers.
-/

namespace GrammarMachine.Yaml

/-- Texts read as null. -/
def isNull (text : String) : Bool :=
  ["", "~", "null", "Null", "NULL"].contains text

/-- Texts read as a truth value. -/
def isTruth (text : String) : Bool :=
  ["true", "True", "TRUE", "false", "False", "FALSE"].contains text

def digit? (base : Nat) (c : Char) : Option Nat :=
  let value :=
    if '0' ≤ c ∧ c ≤ '9' then c.toNat - '0'.toNat
    else if 'a' ≤ c ∧ c ≤ 'z' then c.toNat - 'a'.toNat + 10
    else if 'A' ≤ c ∧ c ≤ 'Z' then c.toNat - 'A'.toNat + 10
    else base
  if value < base then some value else none

def natural? (base : Nat) (digits : List Char) : Option Nat :=
  if digits.isEmpty then none
  else digits.foldlM (fun n c => return n * base + (← digit? base c)) 0

/-- The base and the digits of a number. -/
def radix : List Char → Nat × List Char
  | '0' :: 'x' :: rest => (16, rest)
  | '0' :: 'o' :: rest => (8, rest)
  | '0' :: 'b' :: rest => (2, rest)
  | digits => (10, digits)

/-- Whether a number has leading zeros and nothing but digits, which makes it a string. -/
def hasLeadingZeros (text : List Char) : Bool :=
  let digits := match text with
    | '-' :: rest => rest
    | '+' :: rest => rest
    | rest => rest
  match digits with
  | '0' :: c :: rest => (c :: rest).all fun c => '0' ≤ c ∧ c ≤ '9'
  | _ => false

/-- Texts read as a whole number of at most 128 bits. -/
def isWhole (text : List Char) : Bool :=
  let below (bound : Nat) (number : List Char) :=
    let (base, digits) := radix number
    ((natural? base digits).any (· < bound)) && !(base = 10 && hasLeadingZeros text)
  match text with
  | '-' :: rest => below (Nat.pow 2 127 + 1) rest
  | '+' :: rest => below (Nat.pow 2 128) rest
  | rest => below (Nat.pow 2 128) rest

/-- Splits off leading decimal digits. -/
def spanDecimal (text : List Char) : List Char × List Char :=
  text.span fun c => '0' ≤ c ∧ c ≤ '9'

/-- The exponent of a decimal number, which takes up the whole text. -/
def exponent? : List Char → Option Int
  | [] => some 0
  | mark :: rest =>
      if mark = 'e' ∨ mark = 'E' then
        match rest with
        | '-' :: digits => (natural? 10 digits).map fun n => -(n : Int)
        | '+' :: digits => (natural? 10 digits).map fun n => (n : Int)
        | digits => (natural? 10 digits).map fun n => (n : Int)
      else none

/-- Whether `coefficient * 10 ^ exponent` rounds to a finite binary number of 64 bits. -/
def isFinite (coefficient : Nat) (exponent : Int) : Bool :=
  if coefficient = 0 then true
  else
    let size : Int := (Nat.toDigits 10 coefficient).length
    let limit := Nat.pow 2 1024 - Nat.pow 2 970
    if size + exponent < 300 then true
    else if 400 < size + exponent then false
    else if 0 ≤ exponent then coefficient * Nat.pow 10 exponent.toNat < limit
    else coefficient < limit * Nat.pow 10 (-exponent).toNat

/-- Whether a text without sign is a finite decimal number. -/
def isDecimal (text : List Char) : Bool :=
  let (whole, rest) := spanDecimal text
  let (fraction, rest) := match rest with
    | '.' :: rest => spanDecimal rest
    | rest => ([], rest)
  match natural? 10 (whole ++ fraction), exponent? rest with
  | some coefficient, some exponent => isFinite coefficient (exponent - fraction.length)
  | _, _ => false

/-- Texts read as a number with a fraction or an exponent. -/
def isFraction (text : List Char) : Bool :=
  let unsigned := match text with
    | '-' :: rest => rest
    | '+' :: rest => rest
    | rest => rest
  [".inf", ".Inf", ".INF"].contains (String.ofList unsigned) ||
    [".nan", ".NaN", ".NAN"].contains (String.ofList text) ||
    (!hasLeadingZeros text && isDecimal unsigned)

/-- Whether a text must be quoted to be read as a string. -/
def isAmbiguous (text : String) : Bool :=
  isNull text || isTruth text || isWhole text.toList || isFraction text.toList ||
    hasLeadingZeros text.toList

end GrammarMachine.Yaml
