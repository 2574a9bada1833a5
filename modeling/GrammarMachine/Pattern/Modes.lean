import GrammarMachine.Pattern.Expr

/-!
The modes in which an expression is read.
-/

namespace GrammarMachine.Pattern

/-- How the text of an expression is read. In the verbose mode blanks and comments are left out. -/
structure Modes where
  ignoreCase : Bool := false
  multiLine : Bool := false
  dotAll : Bool := false
  swapGreed : Bool := false
  verbose : Bool := false
  lineBreak : LineBreak := .feed
  repertoire : Repertoire := .full

namespace Modes

/-- Turns the mode of a letter on or off. -/
def set? (m : Modes) (on : Bool) : Char → Option Modes
  | 'i' => some { m with ignoreCase := on }
  | 'm' => some { m with multiLine := on }
  | 's' => some { m with dotAll := on }
  | 'U' => some { m with swapGreed := on }
  | 'x' => some { m with verbose := on }
  | 'R' => some { m with lineBreak := if on then .any else .feed }
  | 'u' => some { m with repertoire := if on then .full else .ascii }
  | _ => none

/-- The letters of a mode switch up to its colon or closing parenthesis, which is left in place. No
mode may be named twice and a minus must be followed by a mode. -/
def read : Modes → Bool → List Char → List Char → Option (Modes × List Char)
  | _, _, _, [] => none
  | m, on, seen, c :: rest =>
      if c = ':' ∨ c = ')' then
        if seen.head? = some '-' then none else some (m, c :: rest)
      else if seen.contains c then none
      else if c = '-' then m.read false (c :: seen) rest
      else do (← m.set? on c).read on (c :: seen) rest

/-- The text after blanks and comments; a comment goes from its sign to the end of the line. -/
def skipFrom (inComment : Bool) : List Char → List Char
  | [] => []
  | c :: rest =>
      if inComment then skipFrom (c ≠ '\n') rest
      else if Text.isBlank c then skipFrom false rest
      else if c = '#' then skipFrom true rest
      else c :: rest

/-- The text that is read next. -/
def skip (m : Modes) (input : List Char) : List Char :=
  if m.verbose then skipFrom false input else input

/-- What stands in braces up to the closing one, and the text after it. -/
def readBraced (m : Modes) (inComment : Bool) : List Char → Option (List Char × List Char)
  | [] => none
  | c :: rest =>
      if inComment then m.readBraced (c ≠ '\n') rest
      else if m.verbose && Text.isBlank c then m.readBraced false rest
      else if m.verbose && c = '#' then m.readBraced true rest
      else if c = '\x7d' then some ([], rest)
      else (m.readBraced false rest).map fun (content, rest) => (c :: content, rest)

/-- The character after a dash, which decides what the dash stands for. Blanks are looked through,
and so is the sign of a comment. -/
def peek (m : Modes) (rest : List Char) : Option Char :=
  if m.verbose then
    match rest.dropWhile Text.isBlank with
    | '#' :: comment => (comment.dropWhile Text.isBlank).head?.or rest.head?
    | next => next.head?.or rest.head?
  else rest.head?

end Modes

end GrammarMachine.Pattern
