import GrammarMachine.Pattern.Bracket
import GrammarMachine.Text.Letter

/-!
The written form of regular expressions. Reading keeps a stack of open groups and consumes the text
from left to right; a text that is no expression is refused, and so is one that is nested too
deeply.
-/

namespace GrammarMachine.Pattern

/-- The number of levels on which an expression may be built. Groups, sequences, choices,
repetitions, brackets and operators inside brackets each take a level. -/
def levelLimit : Nat := 250

/-- A decimal number, with blanks around it. -/
def readCount (input : List Char) : Option (Nat × List Char) :=
  let (digits, rest) := (input.dropWhile Text.isBlank).span fun c => '0' ≤ c ∧ c ≤ '9'
  let value := digits.foldl (fun n c => n * 10 + (c.toNat - '0'.toNat)) 0
  if digits.isEmpty ∨ 0x100000000 ≤ value then none else some (value, rest.dropWhile Text.isBlank)

/-- The bounds of a counted repetition, as they stand between braces. -/
def bounds? (content : List Char) : Option (Nat × Option Nat) := do
  let (least, rest) ← readCount content
  match rest with
  | [] => some (least, some least)
  | [','] => some (least, none)
  | ',' :: rest =>
      match (← readCount rest) with
      | (most, []) => if least ≤ most then some (least, some most) else none
      | _ => none
  | _ => none

/-- An expression with the number of levels on which it is built. -/
structure Leveled where
  expr : Expr
  levels : Nat

/-- The levels of several parts, which take one level more. -/
def levelsOf (parts : List Nat) : Nat :=
  match parts with
  | [levels] => levels
  | [] => 0
  | parts => parts.foldl max 0 + 1

/-- The group being read: its finished alternatives and the items of the current one, the last ones
first. An item that is only a mode switch cannot be repeated. -/
structure Group where
  index? : Option Nat := none
  alternatives : List Leveled := []
  items : List (Option Leveled) := []

/-- The alternative being read. -/
def Group.current (g : Group) : Leveled :=
  let items := g.items.reverse
  ⟨.sequence (items.filterMap fun item => item.map (·.expr)),
    levelsOf (items.map fun item => (item.map (·.levels)).getD 0)⟩

def Group.body (g : Group) : Leveled :=
  let alternatives := (g.current :: g.alternatives).reverse
  ⟨.choice (alternatives.map (·.expr)), levelsOf (alternatives.map (·.levels))⟩

/-- The group as an item of what surrounds it. -/
def Group.close (g : Group) : Leveled :=
  let body := g.body
  ⟨match g.index? with
    | some index => .group index body.expr
    | none => body.expr, body.levels + 1⟩

/-- The state of the reader: the current group, the modes, what surrounds the group, the number of
numbered groups so far and the names given to some of them. -/
structure Reading where
  group : Group := {}
  modes : Modes := {}
  outer : List (Group × Modes) := []
  groups : Nat := 0
  names : List (List Char) := []

namespace Reading

def add (r : Reading) (item : Option Leveled) : Reading :=
  { r with group := { r.group with items := item :: r.group.items } }

def addSet (r : Reading) (s : CharSet) (levels : Nat) : Reading :=
  r.add (some ⟨.ofSet s, levels⟩)

def addLook (r : Reading) (l : Look) : Reading :=
  r.add (some ⟨.look l, 0⟩)

/-- Repeats the last item. A question mark after the operator prefers few rounds. -/
def repeatLast (r : Reading) (least : Nat) (most : Option Nat) (rest : List Char) :
    Option (Reading × List Char) :=
  match r.group.items with
  | some item :: items =>
      let (greedy, rest) := match rest with
        | '?' :: rest => (false, rest)
        | rest => (true, rest)
      let e := Expr.repetition item.expr least most (greedy != r.modes.swapGreed)
      some ({ r with group := { r.group with items := some ⟨e, item.levels + 1⟩ :: items } }, rest)
  | _ => none

/-- Opens a group in which the given modes hold. -/
def openGroup (r : Reading) (modes : Modes) (index? : Option Nat) : Reading :=
  { r with group := { index? }, modes := modes, outer := (r.group, r.modes) :: r.outer }

/-- Opens a group with the next number. -/
def openNumbered (r : Reading) : Reading :=
  { r.openGroup r.modes (some (r.groups + 1)) with groups := r.groups + 1 }

def closeGroup (r : Reading) : Option Reading :=
  match r.outer with
  | [] => none
  | (group, modes) :: outer =>
      let items := some r.group.close :: group.items
      some { r with group := { group with items }, modes, outer }

/-- Whether a character may stand in the name of a group; it begins with a letter or a low line. -/
def isNameChar (first : Bool) (c : Char) : Bool :=
  c = '_' || if first then Text.isLetter c
    else Text.isLetter c || Text.isNumeral c || c = '.' || c = '[' || c = ']'

/-- A group with a name, after the opening angle bracket. No two groups have the same name. -/
def readNamed (r : Reading) (input : List Char) : Option (Reading × List Char) :=
  match input.span (· ≠ '>') with
  | (first :: more, _ :: rest) =>
      let name := first :: more
      if isNameChar true first && more.all (isNameChar false) && !r.names.contains name then
        some ({ r.openNumbered with names := name :: r.names }, rest)
      else none
  | _ => none

/-- What follows an opening parenthesis: a group with a number, a name or modes, or a mode switch
for the rest of the current group. Lookaround is refused with all other forms. -/
def readParenthesis (r : Reading) (input : List Char) : Option (Reading × List Char) :=
  match r.modes.skip input with
  | '?' :: 'P' :: '<' :: rest => r.readNamed rest
  | '?' :: '<' :: rest => r.readNamed rest
  | '?' :: rest =>
      match r.modes.read true [] rest with
      | some (modes, ':' :: rest) => some (r.openGroup modes none, rest)
      | some (modes, ')' :: after) =>
          if rest.head? = some ')' then none else some ({ r with modes }.add none, after)
      | _ => none
  | input => some (r.openNumbered, input)

def addChar (r : Reading) (c : Char) : Reading :=
  r.addSet (foldCase r.modes (.single c)) 0

/-- The characters that the point stands for. -/
def pointSet? (m : Modes) : Option CharSet :=
  if m.dotAll then complement? m []
  else match m.lineBreak with
    | .feed => complement? m (.single '\n')
    | .any => complement? m (.ofList [(0xa, 0xa), (0xd, 0xd)])

/-- The test that a caret stands for. -/
def startTest (m : Modes) : Look :=
  if m.multiLine then .lineStart m.lineBreak else .textStart

/-- The test that a dollar sign stands for. -/
def endTest (m : Modes) : Look :=
  if m.multiLine then .lineEnd m.lineBreak else .textEnd

/-- Reads the next piece of the text. -/
def next (r : Reading) (c : Char) (rest : List Char) : Option (Reading × List Char) :=
  match c with
  | '(' => r.readParenthesis rest
  | ')' => do return (← r.closeGroup, rest)
  | '|' =>
      let g := r.group
      some ({ r with group := ⟨g.index?, g.current :: g.alternatives, []⟩ }, rest)
  | '[' => do
      let (s, rest) ← readSet r.modes (2 * rest.length + 2) rest
      return (r.addSet s.set s.levels, rest)
  | '?' => r.repeatLast 0 (some 1) rest
  | '*' => r.repeatLast 0 none rest
  | '+' => r.repeatLast 1 none rest
  | '\x7b' => do
      let (content, rest) ← r.modes.readBraced false rest
      let (least, most) ← bounds? content
      r.repeatLast least most (r.modes.skip rest)
  | '\x5c' => do
      match (← readEscape r.modes rest) with
      | (.char c, rest) => return (r.addChar c, rest)
      | (.set s, rest) => return (r.addSet s 0, rest)
      | (.look l, rest) => return (r.addLook l, rest)
  | '.' => do return (r.addSet (← pointSet? r.modes) 0, rest)
  | '^' => some (r.addLook (startTest r.modes), rest)
  | '$' => some (r.addLook (endTest r.modes), rest)
  | c => some (r.addChar c, rest)

/-- Reads the whole text, which takes at most one round a character. -/
def finish : Nat → Reading → List Char → Option Leveled
  | 0, r, _ => if r.outer.isEmpty then some r.group.body else none
  | fuel + 1, r, input =>
      match r.modes.skip input with
      | [] => if r.outer.isEmpty then some r.group.body else none
      | c :: rest => do
          let (r, rest) ← r.next c rest
          finish fuel r rest

end Reading

/-- The regular expression that a text denotes. -/
def Expr.ofText? (text : String) : Option Expr := do
  let e ← Reading.finish (text.length + 1) {} text.toList
  if e.levels ≤ levelLimit then some e.expr else none

end GrammarMachine.Pattern
