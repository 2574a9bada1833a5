import GrammarMachine.Pattern.Modes
import GrammarMachine.Pattern.Property
import GrammarMachine.Text.CaseFold

/-!
What a backslash and the characters after it stand for in a regular expression.
-/

namespace GrammarMachine.Pattern

/-- The characters that are operators outside brackets. -/
def isOperator (c : Char) : Bool :=
  "\\.+*?()|[]\x7b\x7d^$#&-~".toList.contains c

/-- Whether a backslash before `c` stands for `c` itself. Letters and digits are reserved. -/
def isEscapable (c : Char) : Bool :=
  isOperator c || (c.toNat < 0x80 && !c.isAlphanum && c ≠ '<' && c ≠ '>')

/-- What an escape stands for. -/
inductive Escape where
  | char (c : Char)
  | set (s : CharSet)
  | look (l : Look)

def hexValue? (c : Char) : Option Nat :=
  if '0' ≤ c ∧ c ≤ '9' then some (c.toNat - '0'.toNat)
  else if 'a' ≤ c ∧ c ≤ 'f' then some (c.toNat - 'a'.toNat + 10)
  else if 'A' ≤ c ∧ c ≤ 'F' then some (c.toNat - 'A'.toNat + 10)
  else none

/-- The character whose code point is written in hexadecimal digits. -/
def hexChar? (digits : List Char) : Option Char := do
  let value ← digits.foldlM (fun n c => return n * 16 + (← hexValue? c)) 0
  if digits.isEmpty ∨ ¬ value.isValidChar then none else some (Char.ofNat value)

/-- The given number of characters, and the text after them. -/
def Modes.take? (m : Modes) : Nat → List Char → Option (List Char × List Char)
  | 0, input => some ([], input)
  | _ + 1, [] => none
  | n + 1, c :: rest => do
      let (taken, rest) ← m.take? n (m.skip rest)
      return (c :: taken, rest)

/-- The character of a hexadecimal escape: `width` digits, or any number of them in braces. -/
def readHex (m : Modes) (width : Nat) (input : List Char) : Option (Char × List Char) :=
  match m.skip input with
  | '\x7b' :: rest => do
      let (digits, rest) ← m.readBraced false rest
      return (← hexChar? digits, rest)
  | input => do
      let (digits, rest) ← m.take? width input
      let c ← hexChar? digits
      -- two digits stand for a byte where only the basic repertoire is known
      if width = 2 ∧ m.repertoire = .ascii ∧ 0x80 ≤ c.toNat then none else some (c, rest)

/-- The test named in braces after a word boundary. -/
def namedBoundary? (words : Repertoire) (name : List Char) : Option Look :=
  match String.ofList name with
  | "start" => some (.wordStart words)
  | "end" => some (.wordEnd words)
  | "start-half" => some (.wordStartHalf words)
  | "end-half" => some (.wordEndHalf words)
  | _ => none

/-- A word boundary after its letter. Braces that begin with a letter or a dash name a kind of
boundary; other braces are left to be read as a repetition. -/
def readBoundary (m : Modes) (input : List Char) : Option (Look × List Char) :=
  match input with
  | '\x7b' :: rest => do
      let c ← (m.skip rest).head?
      if c.isAlpha || c = '-' then
        let (name, rest) ← m.readBraced false rest
        return (← namedBoundary? m.repertoire name, rest)
      else some (.wordBoundary m.repertoire, input)
  | input => some (.wordBoundary m.repertoire, input)

/-- The characters that are not in a set. There is no such set of characters when only the basic
repertoire is known. -/
def complement? (m : Modes) (s : CharSet) : Option CharSet :=
  if m.repertoire = .ascii then none else some (Text.Ranges.complement s)

/-- The class of a letter. -/
def letterClass (words : Repertoire) : Char → Option CharSet
  | 'd' => some (if words = .ascii then [(0x30, 0x39)] else Text.digitRanges)
  | 's' => some (if words = .ascii then [(0x9, 0xd), (0x20, 0x20)] else Text.blankRanges)
  | 'w' =>
      some (if words = .ascii then [(0x30, 0x39), (0x41, 0x5a), (0x5f, 0x5f), (0x61, 0x7a)]
        else Text.wordRanges)
  | _ => none

/-- The set with all other cases of its members, where case does not count. -/
def foldCase (m : Modes) (s : CharSet) : CharSet :=
  if m.ignoreCase then
    if m.repertoire = .ascii then Text.Ranges.foldLatin s else Text.Ranges.foldCase s
  else s

/-- A class named by a property, after its letter. -/
def readProperty (m : Modes) (negated : Bool) (input : List Char) :
    Option (CharSet × List Char) := do
  let (query, rest) ← match m.skip input with
    | [] => none
    | '\x7b' :: rest => m.readBraced false rest
    | '\x5c' :: _ => none
    | c :: rest => some ([c], rest)
  let (s, different) ← propertySet? query
  if m.repertoire = .ascii then none
  else
    let s := foldCase m s
    return (if negated != different then Text.Ranges.complement s else s, rest)

/-- An escape after its backslash. -/
def readEscape (m : Modes) (input : List Char) : Option (Escape × List Char) :=
  let set (s : Option CharSet) (rest : List Char) : Option (Escape × List Char) :=
    s.map fun s => (.set s, rest)
  match input with
  | [] => none
  | 'x' :: rest => (readHex m 2 rest).map fun (c, rest) => (.char c, rest)
  | 'u' :: rest => (readHex m 4 rest).map fun (c, rest) => (.char c, rest)
  | 'U' :: rest => (readHex m 8 rest).map fun (c, rest) => (.char c, rest)
  | 'p' :: rest => (readProperty m false rest).map fun (s, rest) => (.set s, rest)
  | 'P' :: rest => (readProperty m true rest).map fun (s, rest) => (.set s, rest)
  | 'd' :: rest => set (letterClass m.repertoire 'd') rest
  | 's' :: rest => set (letterClass m.repertoire 's') rest
  | 'w' :: rest => set (letterClass m.repertoire 'w') rest
  | 'D' :: rest => set ((letterClass m.repertoire 'd').bind (complement? m)) rest
  | 'S' :: rest => set ((letterClass m.repertoire 's').bind (complement? m)) rest
  | 'W' :: rest => set ((letterClass m.repertoire 'w').bind (complement? m)) rest
  | 'a' :: rest => some (.char '\x07', rest)
  | 'f' :: rest => some (.char '\x0c', rest)
  | 't' :: rest => some (.char '\t', rest)
  | 'n' :: rest => some (.char '\n', rest)
  | 'r' :: rest => some (.char '\r', rest)
  | 'v' :: rest => some (.char '\x0b', rest)
  | 'A' :: rest => some (.look .textStart, rest)
  | 'z' :: rest => some (.look .textEnd, rest)
  | 'b' :: rest => (readBoundary m rest).map fun (l, rest) => (.look l, rest)
  | 'B' :: rest => some (.look (.notWordBoundary m.repertoire), rest)
  | '<' :: rest => some (.look (.wordStart m.repertoire), rest)
  | '>' :: rest => some (.look (.wordEnd m.repertoire), rest)
  | c :: rest => if isEscapable c then some (.char c, rest) else none

end GrammarMachine.Pattern
