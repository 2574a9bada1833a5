import GrammarMachine.Toml.Basic

/-!
TOML values written without quotes or brackets: truth values, numbers and points in time.
-/

namespace GrammarMachine.Toml

open Decimal

def isDigit (c : Char) : Bool :=
  '0' ≤ c && c ≤ '9'

def digit? (base : Nat) (c : Char) : Option Nat :=
  let value :=
    if isDigit c then c.toNat - '0'.toNat
    else if 'a' ≤ c ∧ c ≤ 'f' then c.toNat - 'a'.toNat + 10
    else if 'A' ≤ c ∧ c ≤ 'F' then c.toNat - 'A'.toNat + 10
    else base
  if value < base then some value else none

/-- The digits of a number without the underscores, each of which must stand between two digits. -/
def digits? (base : Nat) : List Char → Option (List Char)
  | [] => none
  | [c] => (digit? base c).map fun _ => [c]
  | c :: '_' :: rest => do
      let _ ← digit? base c
      return c :: (← digits? base rest)
  | c :: rest => do
      let _ ← digit? base c
      return c :: (← digits? base rest)

/-- The number that a row of digits denotes. -/
def natural (base : Nat) (digits : List Char) : Nat :=
  digits.foldl (fun n c => n * base + (digit? base c).getD 0) 0

/-- Digits without a leading zero. -/
def wholeDigits? (text : List Char) : Option (List Char) := do
  let digits ← digits? 10 text
  if digits.head? = some '0' ∧ text.length ≠ 1 then none else some digits

/-- Splits off a sign. -/
def sign (text : List Char) : Bool × List Char :=
  match text with
  | '-' :: rest => (true, rest)
  | '+' :: rest => (false, rest)
  | rest => (false, rest)

/-- A whole number of 64 bits. -/
def readInt (text : List Char) : Option Toml := do
  let value : Int ← match text with
    | '0' :: 'x' :: rest => pure (natural 16 (← digits? 16 rest) : Int)
    | '0' :: 'o' :: rest => pure (natural 8 (← digits? 8 rest) : Int)
    | '0' :: 'b' :: rest => pure (natural 2 (← digits? 2 rest) : Int)
    | text =>
        let (negative, rest) := sign text
        let size : Int := natural 10 (← wholeDigits? rest)
        pure (if negative then -size else size)
  if -0x8000000000000000 ≤ value ∧ value < 0x8000000000000000 then some (.int value) else none

/-- A number with a fraction or an exponent. One above all finite numbers is refused; one below them
is negative infinity. -/
def readFloat (text : List Char) : Option Toml := do
  let (negative, rest) := sign text
  match String.ofList rest with
  | "inf" => return .float ⟨if negative then 0xfff0000000000000 else 0x7ff0000000000000⟩
  | "nan" => return .float ⟨if negative then 0xfff8000000000000 else 0x7ff8000000000000⟩
  | _ =>
      let (mantissa, exponent) := rest.span fun c => c ≠ 'e' && c ≠ 'E'
      if exponent.isEmpty && !mantissa.contains '.' then none
      let exponent : Int ← match exponent with
        | [] => pure 0
        | _ :: exponent =>
            let (negative, exponent) := sign exponent
            let size : Int := natural 10 (← digits? 10 exponent)
            pure (if negative then -size else size)
      let (whole, fraction) := mantissa.span (· ≠ '.')
      let whole ← wholeDigits? whole
      let fraction ← match fraction with
        | [] => pure []
        | _ :: fraction => digits? 10 fraction
      let value : Binary64 :=
        .ofDecimal negative (natural 10 (whole ++ fraction)) (exponent - fraction.length)
      if value.isSpecial && !negative then none else return .float value

/-- A number of exactly `width` digits within bounds. -/
def bounded? (width low high : Nat) (text : List Char) : Option (List Char × List Char) :=
  let digits := text.take width
  if digits.length = width ∧ digits.all isDigit ∧ low ≤ natural 10 digits ∧ natural 10 digits ≤ high
  then some (digits, text.drop width) else none

def monthLength (year month : Nat) : Nat :=
  if month = 2 then
    if year % 4 = 0 ∧ (year % 100 ≠ 0 ∨ year % 400 = 0) then 29 else 28
  else if month = 4 ∨ month = 6 ∨ month = 9 ∨ month = 11 then 30
  else 31

def after? (c : Char) (text : List Char) : Option (List Char) :=
  match text with
  | d :: rest => if d = c then some rest else none
  | [] => none

def readDate (text : List Char) : Option (List Char × List Char) := do
  let (year, rest) ← bounded? 4 0 9999 text
  let (month, rest) ← bounded? 2 1 12 (← after? '-' rest)
  let length := monthLength (natural 10 year) (natural 10 month)
  let (day, rest) ← bounded? 2 1 length (← after? '-' rest)
  return (year ++ '-' :: month ++ '-' :: day, rest)

/-- A time of day. Of its fraction nine digits count, and zeros at its end do not. -/
def readTime (text : List Char) : Option (List Char × List Char) := do
  let (hour, rest) ← bounded? 2 0 23 text
  let (minute, rest) ← bounded? 2 0 59 (← after? ':' rest)
  let (second, rest) ← bounded? 2 0 60 (← after? ':' rest)
  let time := hour ++ ':' :: minute ++ ':' :: second
  match rest with
  | '.' :: rest =>
      let (fraction, rest) := rest.span isDigit
      if fraction.isEmpty then none
      let shown := ((fraction.take 9).reverse.dropWhile (· = '0')).reverse
      return (if shown.isEmpty then time else time ++ '.' :: shown, rest)
  | rest => return (time, rest)

/-- The distance from universal time. No distance has a plus in front. -/
def readOffset (text : List Char) : Option (List Char × List Char) :=
  match text with
  | 'Z' :: rest => some (['Z'], rest)
  | 'z' :: rest => some (['Z'], rest)
  | c :: rest =>
      if c = '+' ∨ c = '-' then do
        let (hour, rest) ← bounded? 2 0 23 rest
        let (minute, rest) ← bounded? 2 0 59 (← after? ':' rest)
        let sign := if natural 10 (hour ++ minute) = 0 then '+' else c
        return (sign :: hour ++ ':' :: minute, rest)
      else some ([], c :: rest)
  | [] => some ([], [])

/-- A date, a time or both. -/
def readMoment (text : List Char) : Option Toml := do
  let whole (shown rest : List Char) : Option Toml :=
    if rest.isEmpty then some (.str (String.ofList shown)) else none
  match readDate text with
  | none => do
      let (time, rest) ← readTime text
      whole time rest
  | some (date, []) => whole date []
  | some (date, c :: rest) =>
      if c = 'T' ∨ c = 't' ∨ c = ' ' then do
        let (time, rest) ← readTime rest
        let (offset, rest) ← readOffset rest
        whole (date ++ 'T' :: time ++ offset) rest
      else none

/-- The value of a text without quotes or brackets. -/
def readAtom (text : List Char) : Option Toml :=
  match String.ofList text with
  | "true" => some (.bool true)
  | "false" => some (.bool false)
  | _ => (readInt text).or ((readFloat text).or (readMoment text))

end GrammarMachine.Toml
