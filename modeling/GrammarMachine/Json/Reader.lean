import GrammarMachine.Json.Basic

/-!
Reading JSON text. A whole number that fits 64 bits, signed or unsigned, is kept exactly. Every
other number is binary: the digits that fit 64 bits are rounded and then scaled by a power of ten.
Of two fields with one name the later one counts.
-/

namespace GrammarMachine.Json

def skipBlanks : List Char → List Char :=
  List.dropWhile fun c => c = ' ' || c = '\t' || c = '\n' || c = '\r'

def hexDigit? (c : Char) : Option Nat :=
  if '0' ≤ c ∧ c ≤ '9' then some (c.toNat - '0'.toNat)
  else if 'a' ≤ c ∧ c ≤ 'f' then some (c.toNat - 'a'.toNat + 10)
  else if 'A' ≤ c ∧ c ≤ 'F' then some (c.toNat - 'A'.toNat + 10)
  else none

def hexUnit? (a b c d : Char) : Option Nat := do
  return (((← hexDigit? a) * 16 + (← hexDigit? b)) * 16 + (← hexDigit? c)) * 16 + (← hexDigit? d)

/-- The character written as a backslash and `c`, apart from numeric escapes. -/
def simpleEscape? (c : Char) : Option Char :=
  match c with
  | '\x22' => some '\x22'
  | '\x5c' => some '\x5c'
  | '/' => some '/'
  | 'b' => some '\x08'
  | 'f' => some '\x0c'
  | 'n' => some '\n'
  | 'r' => some '\r'
  | 't' => some '\t'
  | _ => none

/-- The character of a code point or of a pair of surrogate units. -/
def scalar? (n : Nat) : Option Char :=
  if n.isValidChar then some (Char.ofNat n) else none

/-- The rest of a string after its opening quote, with what follows its closing quote. `text` holds
the characters read so far, the last one first. -/
def readString : Nat → List Char → List Char → Option (String × List Char)
  | 0, _, _ => none
  | fuel + 1, text, input =>
      match input with
      | [] => none
      | '\x22' :: rest => some (String.ofList text.reverse, rest)
      | '\x5c' :: 'u' :: a :: b :: c :: d :: rest => do
          let unit ← hexUnit? a b c d
          if 0xd800 ≤ unit ∧ unit < 0xdc00 then
            match rest with
            | '\x5c' :: 'u' :: e :: f :: g :: h :: rest => do
                let low ← hexUnit? e f g h
                if 0xdc00 ≤ low ∧ low < 0xe000 then
                  let char ← scalar? (0x10000 + (unit - 0xd800) * 0x400 + (low - 0xdc00))
                  readString fuel (char :: text) rest
                else none
            | _ => none
          else
            let char ← scalar? unit
            readString fuel (char :: text) rest
      | '\x5c' :: c :: rest => do
          let char ← simpleEscape? c
          readString fuel (char :: text) rest
      | c :: rest => if c.toNat < 0x20 then none else readString fuel (c :: text) rest

def decimal (digits : List Char) : Nat :=
  digits.foldl (fun n c => n * 10 + (c.toNat - '0'.toNat)) 0

def spanDigits (input : List Char) : List Char × List Char :=
  input.span fun c => '0' ≤ c ∧ c ≤ '9'

/-- The exponent of a number, if one is written. -/
def readExponent (input : List Char) : Option (Option Int × List Char) :=
  match input with
  | c :: rest =>
      if c = 'e' ∨ c = 'E' then
        let (negative, rest) := match rest with
          | '-' :: rest => (true, rest)
          | '+' :: rest => (false, rest)
          | rest => (false, rest)
        let (digits, rest) := spanDigits rest
        if digits.isEmpty then none
        else
          let size : Int := decimal digits
          some (some (if negative then -size else size), rest)
      else some (none, input)
  | [] => some (none, [])

/-- The fraction digits of a number, if a point is written. -/
def readFraction (input : List Char) : Option (Option (List Char) × List Char) :=
  match input with
  | '.' :: rest =>
      let (digits, rest) := spanDigits rest
      if digits.isEmpty then none else some (some digits, rest)
  | _ => some (none, input)

/-- A significand with one more digit, if it still fits 64 bits. -/
def addDigit? (significand : Nat) (c : Char) : Option Nat :=
  let next := significand * 10 + (c.toNat - '0'.toNat)
  if next < 0x10000000000000000 then some next else none

/-- Adds digits before the point as long as they fit; the others only raise the exponent. -/
def addWhole (significand : Nat) : List Char → Nat × Int
  | [] => (significand, 0)
  | c :: rest =>
      match addDigit? significand c with
      | some next => addWhole next rest
      | none => (significand, rest.length + 1)

/-- Adds digits after the point as long as they fit; the others are dropped. -/
def addFraction (significand : Nat) (exponent : Int) : List Char → Nat × Int
  | [] => (significand, exponent)
  | c :: rest =>
      match addDigit? significand c with
      | some next => addFraction next (exponent - 1) rest
      | none => (significand, exponent)

/-- The number with the given parts. -/
def numberOf? (negative : Bool) (whole : List Char) (fraction : Option (List Char))
    (exponent : Option Int) : Option Number :=
  let value := decimal whole
  let binary :=
    let (significand, raised) := addWhole 0 whole
    let (significand, lowered) := addFraction significand raised (fraction.getD [])
    let exponent := lowered + exponent.getD 0
    (Decimal.Binary64.ofScaled? negative (.ofNat significand) exponent).map Number.binary
  if fraction.isSome || exponent.isSome then binary
  else if negative then
    if 0 < value ∧ value ≤ 0x8000000000000000 then some (.whole (-value)) else binary
  else if value < 0x10000000000000000 then some (.whole value)
  else binary

def readNumber (input : List Char) : Option (Number × List Char) := do
  let (negative, rest) := match input with
    | '-' :: rest => (true, rest)
    | rest => (false, rest)
  let (whole, rest) := spanDigits rest
  if whole.isEmpty ∨ (whole.head? = some '0' ∧ 1 < whole.length) then none
  let (fraction, rest) ← readFraction rest
  let (exponent, rest) ← readExponent rest
  return (← numberOf? negative whole fraction exponent, rest)

mutual

/-- A value, with what follows it. -/
def readValue : Nat → List Char → Option (Json × List Char)
  | 0, _ => none
  | fuel + 1, input =>
      match skipBlanks input with
      | 'n' :: 'u' :: 'l' :: 'l' :: rest => some (.null, rest)
      | 't' :: 'r' :: 'u' :: 'e' :: rest => some (.bool true, rest)
      | 'f' :: 'a' :: 'l' :: 's' :: 'e' :: rest => some (.bool false, rest)
      | '\x22' :: rest => do
          let (text, rest) ← readString (rest.length + 1) [] rest
          return (.str text, rest)
      | '[' :: rest =>
          match skipBlanks rest with
          | ']' :: rest => some (.arr [], rest)
          | rest => do
              let (items, rest) ← readItems fuel [] rest
              return (.arr items, rest)
      | '\x7b' :: rest =>
          match skipBlanks rest with
          | '\x7d' :: rest => some (.obj [], rest)
          | rest => do
              let (fields, rest) ← readFields fuel [] rest
              return (.obj fields, rest)
      | input => do
          let (number, rest) ← readNumber input
          return (.num number, rest)

/-- The items of an array up to its closing bracket; `read` holds those read, the last one first. -/
def readItems : Nat → List Json → List Char → Option (List Json × List Char)
  | 0, _, _ => none
  | fuel + 1, read, input => do
      let (item, rest) ← readValue fuel input
      match skipBlanks rest with
      | ',' :: rest => readItems fuel (item :: read) rest
      | ']' :: rest => some ((item :: read).reverse, rest)
      | _ => none

/-- The fields of an object up to its closing brace. -/
def readFields : Nat → Fields → List Char → Option (Fields × List Char)
  | 0, _, _ => none
  | fuel + 1, read, input =>
      match skipBlanks input with
      | '\x22' :: rest => do
          let (name, rest) ← readString (rest.length + 1) [] rest
          match skipBlanks rest with
          | ':' :: rest => do
              let (value, rest) ← readValue fuel rest
              let read := read.insert name value
              match skipBlanks rest with
              | ',' :: rest => readFields fuel read rest
              | '\x7d' :: rest => some (read, rest)
              | _ => none
          | _ => none
      | _ => none

end

def ofText? (text : String) : Option Json := do
  let input := text.toList
  let (value, rest) ← readValue (input.length + 1) input
  if (skipBlanks rest).isEmpty then some value else none

end GrammarMachine.Json
